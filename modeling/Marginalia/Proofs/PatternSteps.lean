/-
What the names of a pattern match, and when they are no pattern.

A pattern is matched name by name; a step takes some characters of a path and hands the rest on.
Names whose characters have no meaning of their own stand for themselves, and a name that is not
made of asterisks only asks for a character.

* `Rule.text_of_hit` — what is hit by names that stand for themselves, with names behind them of
  which one asks for a character, has the former in front and more behind the next slash;
* `Rule.names_below` — such names stay as they are in front of others;
* `Rule.shapeOf_error`, `Rule.exists_shapeOf` — the first name that is no pattern decides why the
  names are none, and ranges that end before they start are those of the names.
-/
import Marginalia.Proofs.ProjectTree

namespace Marginalia

/-! ### What steps take of a path -/

section Steps

variable {k : Continuation}

/-- Whether what follows is reached behind some beginning of a path, one with a character in it
if that is asked for. -/
def Reached (k : Continuation) (some_ : Prop) (path : List Char) : Prop :=
  ∃ taken rest, path = taken ++ rest ∧ (k rest).isSome ∧ (some_ → taken ≠ [])

theorem Reached.here {path : List Char} (h : (k path).isSome) : Reached k False path :=
  ⟨[], path, rfl, h, False.elim⟩

theorem Reached.cons {c : Char} {path : List Char} (h : Reached k False path) (P : Prop) :
    Reached k P (c :: path) := by
  obtain ⟨taken, rest, rfl, hk, -⟩ := h
  exact ⟨c :: taken, rest, rfl, hk, fun _ => List.cons_ne_nil c taken⟩

theorem reached_takeRun {path : List Char} (h : (takeRun k path).isSome) :
    Reached k False path := by
  induction path with
  | nil => exact .here h
  | cons c cs ih =>
    rw [takeRun] at h
    split at h
    · exact .here h
    · rw [Option.isSome_or, Bool.or_eq_true] at h
      exact h.elim (fun h => (ih h).cons False) .here

theorem reached_takeFolders {path : List Char} (h : (takeFolders k path).isSome) :
    Reached k False path := by
  induction path with
  | nil => cases h
  | cons c cs ih =>
    rw [takeFolders, Option.isSome_or, Bool.or_eq_true] at h
    obtain h | h := h
    · split at h
      · cases h
      · exact (ih h).cons False
    · split at h
      · exact (Reached.here h).cons False
      · cases h

theorem reached_takeAny {path : List Char} (h : (takeAny k path).isSome) :
    Reached k False path := by
  induction path with
  | nil => exact .here h
  | cons c cs ih =>
    rw [takeAny, Option.isSome_or, Bool.or_eq_true] at h
    obtain h | h := h
    · split at h
      · cases h
      · exact (ih h).cons False
    · exact .here h

/-- Whether a step takes a character at least. -/
def PathStep.takesSome : PathStep → Bool
  | part .run | foldersBefore | foldersBetween => false
  | _ => true

/-- A step takes some beginning of a path and what follows goes on behind it. -/
theorem PathStep.reached_take (s : PathStep) {path : List Char} (h : (s.take k path).isSome) :
    Reached k (s.takesSome = true) path := by
  have hnothing {P : Prop} (h : Reached k False path) (hP : ¬ P) : Reached k P path := by
    obtain ⟨taken, rest, hpath, hk, -⟩ := h
    exact ⟨taken, rest, hpath, hk, fun hs => absurd hs hP⟩
  unfold PathStep.take at h
  split at h
  · exact hnothing (reached_takeRun h) (by decide)
  · split at h
    · exact (Reached.here h).cons _
    · cases h
  · cases h
  · split at h
    · cases h
    · exact (reached_takeRun h).cons _
  · cases h
  · split at h
    · exact (Reached.here h).cons _
    · cases h
  · cases h
  · exact hnothing (.here h) (by decide)
  · rw [Option.isSome_or, Bool.or_eq_true] at h
    refine hnothing ?_ (by decide)
    obtain h | h := h
    · split at h
      · cases h
      · exact (reached_takeFolders h).cons False
    · exact .here h
  · rw [Option.isSome_or, Bool.or_eq_true] at h
    refine hnothing ?_ (by decide)
    obtain h | h := h
    · split at h
      · cases h
      · exact ((reached_takeAny h).cons False).cons False
    · exact .here h
  · exact hnothing (.here h) (by decide)

/-- Steps take some beginning of a path, with a character in it if one of them takes one. -/
theorem reached_foldr (ss : List PathStep) {path : List Char}
    (h : (ss.foldr PathStep.take k path).isSome) :
    Reached k (∃ s ∈ ss, s.takesSome = true) path := by
  induction ss generalizing path with
  | nil => exact ⟨[], path, rfl, h, by simp⟩
  | cons s ss ih =>
    obtain ⟨taken, rest, rfl, hk, hsome⟩ := s.reached_take h
    obtain ⟨taken', rest', rfl, hk', hsome'⟩ := ih hk
    refine ⟨taken ++ taken', rest', (List.append_assoc ..).symm, hk', ?_⟩
    rintro ⟨t, ht, htakes⟩ hempty
    obtain ⟨hnil, hnil'⟩ := List.append_eq_nil_iff.mp hempty
    obtain rfl | ht := List.mem_cons.mp ht
    · exact hsome htakes hnil
    · exact hsome' ⟨t, ht, htakes⟩ hnil'

/-- Characters that stand for themselves are taken one by one. -/
theorem taken_chars {l : List Char} {path : List Char}
    (h : ((l.map fun c => PathStep.part (.char c)).foldr PathStep.take k path).isSome) :
    ∃ rest, path = l ++ rest ∧ (k rest).isSome := by
  induction l generalizing path with
  | nil => exact ⟨path, rfl, h⟩
  | cons c l ih =>
    cases path with
    | nil => cases h
    | cons d path =>
      simp only [List.map_cons, List.foldr_cons, PathStep.take] at h
      split at h
      · rename_i hd
        obtain ⟨rest, rfl, hk⟩ := ih h
        exact ⟨rest, by rw [eq_of_beq hd]; rfl, hk⟩
      · cases h

theorem taken_slash {path : List Char} (h : (PathStep.slash.take k path).isSome) :
    ∃ rest, path = '/' :: rest ∧ (k rest).isSome := by
  cases path with
  | nil => cases h
  | cons c path =>
    simp only [PathStep.take] at h
    split at h
    · rename_i hc
      exact ⟨path, by rw [eq_of_beq hc], h⟩
    · cases h

end Steps

/-! ### Names of a pattern -/

theorem exists_of_map_eq_ok {ε α β : Type} {x : Except ε α} {g : α → β} {b : β}
    (h : x.map g = .ok b) : ∃ a, x = .ok a ∧ g a = b := by
  cases x with
  | error e => cases h
  | ok a => exact ⟨a, rfl, Except.ok.inj h⟩

namespace Rule

/-- The steps for a name that does not stand for any folders. -/
def stepsOfName (s : List Char) : Except GlobFault (List PathStep) :=
  if s == ['*'] then .ok [.name] else (GlobPart.ofChars s).map fun gs => gs.map PathStep.part

theorem stepsOf_cons {s : List Char} (hs : s ≠ anyFolders) (isFolder inside : Bool)
    (rest : List (List Char)) :
    stepsOf isFolder inside (s :: rest) = (stepsOfName s).bind fun parts =>
      (stepsOf isFolder true rest).map fun r =>
        ((if inside then [.slash] else []) ++ parts ++ r.1, r.2) := by
  rw [stepsOf, if_neg (by simpa using hs), stepsOfName]
  cases s == ['*'] with
  | true => cases stepsOf isFolder true rest <;> rfl
  | false => cases GlobPart.ofChars s <;> cases stepsOf isFolder true rest <;> rfl

theorem exists_of_stepsOf_cons {s : List Char} (hs : s ≠ anyFolders) {isFolder inside : Bool}
    {rest : List (List Char)} {ss : List PathStep} {e : PathEnd}
    (h : stepsOf isFolder inside (s :: rest) = .ok (ss, e)) :
    ∃ parts r, stepsOfName s = .ok parts ∧ stepsOf isFolder true rest = .ok r ∧
      ss = (if inside then [.slash] else []) ++ parts ++ r.1 ∧ e = r.2 := by
  rw [stepsOf_cons hs] at h
  cases hparts : stepsOfName s with
  | error f => rw [hparts] at h; cases h
  | ok parts =>
    rw [hparts] at h
    obtain ⟨r, hr, hsteps⟩ := exists_of_map_eq_ok h
    cases hsteps
    exact ⟨parts, r, rfl, hr, rfl, rfl⟩

theorem stepsOf_anyFolders {rest : List (List Char)} (hrest : rest ≠ [])
    (isFolder inside : Bool) :
    stepsOf isFolder inside (anyFolders :: rest) = (stepsOf isFolder inside rest).map fun r =>
      ((if inside then .foldersBetween else .foldersBefore) :: r.1, r.2) := by
  rw [stepsOf, if_pos (beq_self_eq_true anyFolders), if_neg (by simpa using hrest)]
  cases stepsOf isFolder inside rest <;> rfl

theorem exists_of_stepsOf_anyFolders {rest : List (List Char)} (hrest : rest ≠ [])
    {isFolder inside : Bool} {ss : List PathStep} {e : PathEnd}
    (h : stepsOf isFolder inside (anyFolders :: rest) = .ok (ss, e)) :
    ∃ r, stepsOf isFolder inside rest = .ok r ∧
      ss = (if inside then .foldersBetween else .foldersBefore) :: r.1 ∧ e = r.2 := by
  rw [stepsOf_anyFolders hrest] at h
  obtain ⟨r, hr, heq⟩ := exists_of_map_eq_ok h
  cases heq
  exact ⟨r, hr, rfl, rfl⟩

/-- Whether a name of a pattern asks for a character. -/
def Mentions (s : List Char) : Bool := s == ['*'] || s.any (· != '*')

theorem mentions_nil : Mentions [] = false := by decide

theorem mentions_anyFolders : Mentions anyFolders = false := by decide

/-- A pattern for one name whose parts all stand for any characters is made of asterisks. -/
theorem all_asterisks {s : List Char} {gs : List GlobPart} (h : GlobPart.ofChars s = .ok gs)
    (hruns : ∀ g ∈ gs, g = .run) : ∀ c ∈ s, c = '*' := by
  fun_induction GlobPart.ofChars s generalizing gs with
  | case1 => simp
  | case2 => cases h
  | case4 cs ih =>
    obtain ⟨gs, hgs, rfl⟩ := exists_of_map_eq_ok h
    rw [List.forall_mem_cons] at hruns ⊢
    exact ⟨rfl, ih hgs hruns.2⟩
  | case6 => cases h
  | case3 | case5 | case7 | case8 =>
    obtain ⟨gs, hgs, rfl⟩ := exists_of_map_eq_ok h
    cases hruns _ List.mem_cons_self

/-- A name that asks for a character has a step that takes one. -/
theorem takesSome_of_mentions {s : List Char} {parts : List PathStep}
    (h : stepsOfName s = .ok parts) (hs : Mentions s) : ∃ p ∈ parts, p.takesSome = true := by
  rw [stepsOfName] at h
  split at h
  · cases h
    exact ⟨.name, List.mem_singleton_self _, rfl⟩
  · rename_i hname
    obtain ⟨gs, hgs, rfl⟩ := exists_of_map_eq_ok h
    by_contra hnone
    have hruns : ∀ g ∈ gs, g = .run := by
      intro g hg
      by_contra hrun
      refine hnone ⟨.part g, List.mem_map_of_mem hg, ?_⟩
      cases g <;> first | rfl | exact absurd rfl hrun
    have hall := all_asterisks hgs hruns
    simp only [Mentions, hname, Bool.false_or, List.any_eq_true] at hs
    obtain ⟨c, hc, hother⟩ := hs
    exact absurd (hall c hc) (by simpa using hother)

variable {isFolder : Bool} {names : List (List Char)} {ss : List PathStep} {e : PathEnd}

/-- Behind other names, names one of which asks for a character are hit by a slash and more. -/
theorem slash_of_hit (hnames : ∃ s ∈ names, Mentions s = true)
    (h : stepsOf isFolder true names = .ok (ss, e)) {path : List Char}
    (hhit : (ss.foldr PathStep.take e.hit? path).isSome) : ∃ c cs, path = '/' :: c :: cs := by
  induction names generalizing ss path with
  | nil => simp at hnames
  | cons s rest ih =>
    by_cases hs : s = anyFolders
    · -- any folders in between: the name that asks for a character is still to come
      subst hs
      have hlater : ∃ s ∈ rest, Mentions s = true := by
        simpa [mentions_anyFolders] using hnames
      have hrest : rest ≠ [] := by
        rintro rfl
        obtain ⟨_, hnone, -⟩ := hlater
        cases hnone
      obtain ⟨r, hsteps, rfl, rfl⟩ := exists_of_stepsOf_anyFolders hrest h
      rw [List.foldr_cons] at hhit
      unfold PathStep.take at hhit
      split at hhit <;> try contradiction
      · exact ⟨_, _, rfl⟩
      · exact ih hlater hsteps hhit
    · obtain ⟨parts, r, hparts, hsteps, rfl, rfl⟩ := exists_of_stepsOf_cons hs h
      rw [if_pos rfl, List.append_assoc, List.singleton_append, List.foldr_cons,
        List.foldr_append] at hhit
      obtain ⟨path, rfl, hname⟩ := taken_slash hhit
      obtain ⟨taken, rest, rfl, hlater, hsome⟩ := reached_foldr parts hname
      -- the character is in this name or in a later one, which is hit behind another slash
      have hnonempty : taken ++ rest ≠ [] := by
        rw [List.exists_mem_cons_iff] at hnames
        obtain hhere | hthere := hnames
        · exact List.append_ne_nil_of_left_ne_nil (hsome (takesSome_of_mentions hparts hhere)) _
        · obtain ⟨c, cs, rfl⟩ := ih hthere hsteps hlater
          exact List.append_ne_nil_of_right_ne_nil _ (List.cons_ne_nil _ _)
      obtain ⟨c, cs, hcs⟩ := List.exists_cons_of_ne_nil hnonempty
      exact ⟨c, cs, by rw [hcs]⟩

/-- Whether a name stands for itself: no character in it has a meaning of its own. -/
def Literal (s : List Char) : Prop := s ≠ [] ∧ ∀ c ∈ s, c ∉ ['\\', '*', '?', '[']

instance : DecidablePred Literal := fun s =>
  -- goes through the characters of the name, where inference may find all characters there are
  @instDecidableAnd _ _ _ (List.decidableBAll (fun c => c ∉ ['\\', '*', '?', '[']) s)

theorem Literal.ne_anyFolders {s : List Char} (hs : Literal s) : s ≠ anyFolders := by
  rintro rfl
  exact hs.2 '*' (by decide) (by decide)

theorem ofChars_literal {cs : List Char} (hcs : ∀ c ∈ cs, c ∉ ['\\', '*', '?', '[']) :
    GlobPart.ofChars cs = .ok (cs.map .char) := by
  induction cs with
  | nil => rw [GlobPart.ofChars, List.map_nil]
  | cons c cs ih =>
    rw [List.forall_mem_cons] at hcs
    rw [GlobPart.ofChars, ih hcs.2]
    · rfl
    -- the other forms of a pattern start with a character that has a meaning of its own
    all_goals
      intros
      subst_vars
      exact hcs.1 (by decide)

theorem Literal.stepsOfName {s : List Char} (hs : Literal s) :
    stepsOfName s = .ok (s.map fun c => .part (.char c)) := by
  have hname : s ≠ ['*'] := by
    rintro rfl
    exact hs.2 '*' (by decide) (by decide)
  rw [Rule.stepsOfName, if_neg (by simpa using hname), ofChars_literal hs.2]
  simp [Except.map]

/-- Names that stand for themselves, behind other names, with names behind them of which one asks
for a character: what they hit has these names in front, and more behind the next slash. -/
theorem text_of_hit_below {at_ : List (List Char)} (hat : ∀ s ∈ at_, Literal s)
    (hnames : ∃ s ∈ names, Mentions s = true)
    (h : stepsOf isFolder true (at_ ++ names) = .ok (ss, e)) {path : List Char}
    (hhit : (ss.foldr PathStep.take e.hit? path).isSome) :
    ∃ c cs, path = (at_.flatMap fun s => '/' :: s) ++ '/' :: c :: cs := by
  induction at_ generalizing ss path with
  | nil => exact slash_of_hit hnames h hhit
  | cons s at_ ih =>
    rw [List.forall_mem_cons] at hat
    obtain ⟨parts, r, hparts, hsteps, rfl, rfl⟩ := exists_of_stepsOf_cons hat.1.ne_anyFolders h
    rw [hat.1.stepsOfName] at hparts
    cases hparts
    rw [if_pos rfl, List.append_assoc, List.singleton_append, List.foldr_cons,
      List.foldr_append] at hhit
    obtain ⟨path, rfl, hname⟩ := taken_slash hhit
    obtain ⟨path, rfl, hbehind⟩ := taken_chars hname
    obtain ⟨c, cs, rfl⟩ := ih hat.2 hsteps hbehind
    exact ⟨c, cs, by simp⟩

/-- At the start of a pattern: what is hit has the names in front, with slashes between them. -/
theorem text_of_hit {s : List Char} {at_ : List (List Char)} (hs : Literal s)
    (hat : ∀ s ∈ at_, Literal s) (hnames : ∃ s ∈ names, Mentions s = true)
    (h : stepsOf isFolder false (s :: at_ ++ names) = .ok (ss, e)) {path : List Char}
    (hhit : (ss.foldr PathStep.take e.hit? path).isSome) :
    ∃ c cs, path = s ++ (at_.flatMap fun s => '/' :: s) ++ '/' :: c :: cs := by
  obtain ⟨parts, r, hparts, hsteps, rfl, rfl⟩ := exists_of_stepsOf_cons hs.ne_anyFolders h
  rw [hs.stepsOfName] at hparts
  cases hparts
  rw [if_neg Bool.false_ne_true, List.nil_append, List.foldr_append] at hhit
  obtain ⟨path, rfl, hbehind⟩ := taken_chars hhit
  obtain ⟨c, cs, rfl⟩ := text_of_hit_below hat hnames hsteps hbehind
  exact ⟨c, cs, (List.append_assoc ..).symm⟩

/-! ### From the text of a pattern to its names -/

/-- Names as they are looked for from the root: what has no slash in front or between is looked
for in any folder. -/
def opened : List (List Char) → List (List Char)
  | [] :: rest => rest
  | [s] => if s == anyFolders then [s] else [anyFolders, s]
  | [s, []] => if s == anyFolders then [s, []] else [anyFolders, s, []]
  | all => all

/-- Names, with what is below for a slash at the end. -/
def closed (segments : List (List Char)) : List (List Char) :=
  match segments.getLast? with
  | some [] => segments.dropLast ++ [anyFolders]
  | _ => segments

theorem names_eq (segments : List (List Char)) :
    Rule.names segments = collapse (closed (opened segments)) := rfl

variable {segments : List (List Char)}

theorem closed_append {behind : List (List Char)} (hbehind : behind ≠ []) :
    closed (segments ++ behind) = segments ++ closed behind := by
  unfold closed
  rw [List.getLast?_append_of_ne_nil _ hbehind, List.dropLast_append_of_ne_nil hbehind]
  split <;> simp

theorem collapse_append (hsegments : ∀ s ∈ segments, s ≠ anyFolders)
    (behind : List (List Char)) : collapse (segments ++ behind) = segments ++ collapse behind := by
  induction segments with
  | nil => rfl
  | cons s rest ih =>
    rw [List.forall_mem_cons] at hsegments
    rw [List.cons_append, collapse, ih hsegments.2]
    simp [hsegments.1]

theorem mentions_opened (h : ∃ s ∈ segments, Mentions s = true) :
    ∃ s ∈ opened segments, Mentions s = true := by
  unfold opened
  split
  · simpa [mentions_nil] using h
  · split <;> simpa [mentions_anyFolders] using h
  · split <;> simpa [mentions_anyFolders] using h
  · exact h

theorem mentions_closed (h : ∃ s ∈ segments, Mentions s = true) :
    ∃ s ∈ closed segments, Mentions s = true := by
  unfold closed
  split
  · rename_i hlast
    obtain ⟨front, rfl⟩ := List.getLast?_eq_some_iff.mp hlast
    obtain ⟨s, hs, hmentions⟩ := h
    rw [List.mem_append, List.mem_singleton] at hs
    obtain hs | rfl := hs
    · exact ⟨s, by simp [hs], hmentions⟩
    · cases hmentions
  · exact h

theorem mentions_collapse (h : ∃ s ∈ segments, Mentions s = true) :
    ∃ s ∈ collapse segments, Mentions s = true := by
  induction segments with
  | nil => exact h
  | cons s rest ih =>
    rw [collapse]
    rw [List.exists_mem_cons_iff] at h
    obtain hs | hrest := h
    · have hother : s ≠ anyFolders := by
        rintro rfl
        cases hs
      exact ⟨s, by simp [hother], hs⟩
    · obtain ⟨t, ht, hmentions⟩ := ih hrest
      refine ⟨t, ?_, hmentions⟩
      split
      · exact ht
      · exact List.mem_cons_of_mem s ht

/-- Behind names that stand for themselves, and a slash in front or none, names stay as they are
but for those that stand for any folders. -/
theorem names_below {s : List Char} {at_ : List (List Char)} (hs : Literal s)
    (hat : ∀ s ∈ at_, Literal s) (h : ∃ s ∈ segments, Mentions s = true) :
    Rule.names (s :: at_ ++ segments) = s :: at_ ++ collapse (closed segments) ∧
      Rule.names ([] :: s :: at_ ++ segments) = s :: at_ ++ collapse (closed segments) := by
  have hnonempty : segments ≠ [] := by
    rintro rfl
    simp at h
  have hopened : opened (s :: at_ ++ segments) = s :: at_ ++ segments := by
    unfold opened
    split
    · rename_i heq
      cases heq
      exact absurd rfl hs.1
    · rename_i heq
      rw [List.cons_append, List.cons.injEq, List.append_eq_nil_iff] at heq
      exact absurd heq.2.2 hnonempty
    · rename_i heq
      rw [List.cons_append, List.cons.injEq, List.append_eq_singleton_iff] at heq
      obtain ⟨-, ⟨-, rfl⟩ | ⟨-, hnil⟩⟩ := heq
      · simp [mentions_nil] at h
      · exact absurd hnil hnonempty
    · rfl
  have hliteral : ∀ t ∈ s :: at_, t ≠ anyFolders := by
    intro t ht
    obtain rfl | ht := List.mem_cons.mp ht
    · exact hs.ne_anyFolders
    · exact (hat t ht).ne_anyFolders
  have hcollapsed : collapse (closed (s :: at_ ++ segments)) =
      s :: at_ ++ collapse (closed segments) := by
    rw [closed_append hnonempty, collapse_append hliteral]
  exact ⟨by rw [names_eq, hopened, hcollapsed], by rw [names_eq]; exact hcollapsed⟩

/-! ### What is wrong with names -/

/-- Why a name is no pattern, if it is none. -/
def nameFault? (s : List Char) : Option GlobFault :=
  match GlobPart.ofChars s with
  | .ok _ => none
  | .error f => some f

/-- A range in a name that ends before it starts, wherever it stands. -/
def nameRange? (s : List Char) : Option RangeFault :=
  match GlobPart.ofChars s with
  | .ok gs => gs.findSome? (GlobPart.fault? 0)
  | .error _ => none

/-- Questions about names that are answered alike for those that are left out or put in. -/
theorem findSome?_names {β : Type} {f : List Char → Option β} (hany : f anyFolders = none)
    (hnil : f [] = none) (segments : List (List Char)) :
    (Rule.names segments).findSome? f = segments.findSome? f := by
  have hcollapse : ∀ l : List (List Char), (collapse l).findSome? f = l.findSome? f := by
    intro l
    induction l with
    | nil => rfl
    | cons s rest ih =>
      rw [collapse]
      split
      · rename_i hs
        rw [ih, List.findSome?_cons, eq_of_beq (Bool.and_eq_true_iff.mp hs).1, hany]
      · rw [List.findSome?_cons, List.findSome?_cons, ih]
  have hclosed : ∀ l : List (List Char), (closed l).findSome? f = l.findSome? f := by
    intro l
    unfold closed
    split
    · rename_i hlast
      obtain ⟨front, rfl⟩ := List.getLast?_eq_some_iff.mp hlast
      simp [List.findSome?_append, hany, hnil]
    · rfl
  have hopened : (opened segments).findSome? f = segments.findSome? f := by
    unfold opened
    split
    · simp [hnil]
    · split <;> simp [hany]
    · split <;> simp [hany]
    · rfl
  rw [names_eq, hcollapse, hclosed, hopened]

theorem isSome_setFault (position : Nat) (set : GlobSet) :
    (set.fault? position).isSome = (set.fault? 0).isSome := by
  have hall : ∀ (set : GlobSet) (m n : Nat), (set.fault? m).isSome = (set.fault? n).isSome := by
    intro set
    induction set with
    | nil => exact fun _ _ => rfl
    | cons e set ih =>
      intro m n
      obtain ⟨a, b⟩ := e
      cases b with
      | none => exact ih _ _
      | some b =>
        rw [GlobSet.fault?, GlobSet.fault?]
        split
        · rfl
        · exact ih _ _
  exact hall set position 0

theorem isSome_partFault (position : Nat) (g : GlobPart) :
    (g.fault? position).isSome = (g.fault? 0).isSome := by
  cases g with
  | oneOf negated set =>
    rw [GlobPart.fault?, GlobPart.fault?, isSome_setFault, isSome_setFault (0 + _)]
  | _ => rfl

/-- Whether a step has a range that ends before it starts. -/
def faulty : PathStep → Bool
  | .part g => (g.fault? 0).isSome
  | _ => false

theorem isSome_stepsFault (position : Nat) (ss : List PathStep) :
    (PathStep.fault? position ss).isSome = ss.any faulty := by
  induction ss generalizing position with
  | nil => rfl
  | cons s ss ih =>
    have hcons (here : Option RangeFault) (n : Nat) (hs : here.isSome = faulty s) :
        (here.or (PathStep.fault? n ss)).isSome = (s :: ss).any faulty := by
      rw [Option.isSome_or, ih, hs, List.any_cons]
    cases s with
    | part g => exact hcons _ _ (isSome_partFault position g)
    | _ => exact hcons none _ rfl

@[simp] theorem nameFault?_nil : nameFault? [] = none := by cbv

@[simp] theorem nameRange?_nil : nameRange? [] = none := by cbv

@[simp] theorem nameFault?_anyName : nameFault? ['*'] = none := by cbv

@[simp] theorem nameRange?_anyName : nameRange? ['*'] = none := by cbv

@[simp] theorem nameFault?_anyFolders : nameFault? anyFolders = none := by cbv

@[simp] theorem nameRange?_anyFolders : nameRange? anyFolders = none := by cbv

theorem Literal.no_mistake {s : List Char} (hs : Literal s) :
    nameFault? s = none ∧ nameRange? s = none := by
  rw [nameFault?, nameRange?, ofChars_literal hs.2]
  refine ⟨rfl, List.findSome?_eq_none_iff.mpr ?_⟩
  intro g hg
  obtain ⟨c, -, rfl⟩ := List.mem_map.mp hg
  rfl

theorem stepsOfName_error {s : List Char} {f : GlobFault} (h : nameFault? s = some f) :
    stepsOfName s = .error f := by
  have hs : s ≠ ['*'] := by
    rintro rfl
    rw [nameFault?_anyName] at h
    cases h
  rw [nameFault?] at h
  rw [stepsOfName, if_neg (by simpa using hs)]
  split at h
  · cases h
  · rename_i hchars
    cases h
    rw [hchars]
    rfl

theorem exists_stepsOfName {s : List Char} (h : nameFault? s = none) :
    ∃ parts, stepsOfName s = .ok parts ∧ parts.any faulty = (nameRange? s).isSome := by
  by_cases hs : s = ['*']
  · subst hs
    exact ⟨[.name], rfl, by rw [nameRange?_anyName]; rfl⟩
  · rw [nameFault?] at h
    split at h
    · rename_i gs hgs
      refine ⟨gs.map .part, by rw [stepsOfName, if_neg (by simpa using hs), hgs]; rfl, ?_⟩
      rw [nameRange?, hgs, List.any_map]
      exact List.isSome_findSome?.symm
    · cases h

/-- The first name that is no pattern decides why the names are none. -/
theorem stepsOf_error {f : GlobFault} (h : names.findSome? nameFault? = some f) (inside : Bool) :
    stepsOf isFolder inside names = .error f := by
  induction names generalizing inside with
  | nil => cases h
  | cons s rest ih =>
    by_cases hs : s = anyFolders
    · subst hs
      rw [List.findSome?_cons, nameFault?_anyFolders] at h
      have hrest : rest ≠ [] := by
        rintro rfl
        cases h
      rw [stepsOf_anyFolders hrest, ih h]
      rfl
    · rw [stepsOf_cons hs]
      rw [List.findSome?_cons] at h
      cases hname : nameFault? s with
      | some g =>
        rw [hname] at h
        cases h
        rw [stepsOfName_error hname]
        rfl
      | none =>
        rw [hname] at h
        obtain ⟨parts, hparts, -⟩ := exists_stepsOfName hname
        rw [hparts, ih h]
        rfl

/-- Names that are patterns have steps, and the ranges of the names stand in them. -/
theorem exists_stepsOf (h : names.findSome? nameFault? = none) (inside : Bool) :
    ∃ ss e, stepsOf isFolder inside names = .ok (ss, e) ∧
      ss.any faulty = names.any fun s => (nameRange? s).isSome := by
  induction names generalizing inside with
  | nil => exact ⟨[], .entry, rfl, rfl⟩
  | cons s rest ih =>
    rw [List.findSome?_eq_none_iff, List.forall_mem_cons, ← List.findSome?_eq_none_iff] at h
    by_cases hs : s = anyFolders
    · subst hs
      by_cases hrest : rest = []
      · subst hrest
        exact ⟨[], .below isFolder, rfl, by simp⟩
      · obtain ⟨ss, e, hsteps, hfaulty⟩ := ih h.2 inside
        rw [stepsOf_anyFolders hrest, hsteps]
        refine ⟨_, e, rfl, ?_⟩
        rw [List.any_cons, List.any_cons, hfaulty, nameRange?_anyFolders]
        cases inside <;> rfl
    · obtain ⟨parts, hparts, hhere⟩ := exists_stepsOfName h.1
      obtain ⟨ss, e, hsteps, hthere⟩ := ih h.2 true
      rw [stepsOf_cons hs, hparts, hsteps]
      refine ⟨_, e, rfl, ?_⟩
      rw [List.any_append, List.any_append, List.any_cons, hhere, hthere]
      cases inside <;> rfl

/-- Whether names have steps does not depend on what stands before them. -/
theorem exists_stepsOf_of_inside {inside : Bool}
    (h : stepsOf isFolder inside names = .ok (ss, e)) (inside' : Bool) :
    ∃ ss' e', stepsOf isFolder inside' names = .ok (ss', e') := by
  have hsound : names.findSome? nameFault? = none := by
    by_contra hfault
    obtain ⟨f, hf⟩ := Option.ne_none_iff_exists'.mp hfault
    rw [stepsOf_error hf] at h
    cases h
  obtain ⟨ss', e', hsteps, -⟩ := exists_stepsOf hsound inside'
  exact ⟨ss', e', hsteps⟩

/-- Whether names are patterns that can be matched, or one has an opening bracket that is not
closed, before any other mistake: such a line says nothing. -/
def Sound (names : List (List Char)) : Prop :=
  names.findSome? nameFault? = some .unclosed ∨
    names.findSome? nameFault? = none ∧ (names.findSome? nameRange?) = none

theorem sound_names (segments : List (List Char)) :
    Sound (Rule.names segments) ↔ Sound segments := by
  rw [Sound, Sound, findSome?_names nameFault?_anyFolders nameFault?_nil,
    findSome?_names nameRange?_anyFolders nameRange?_nil]

/-- Other patterns are matched step by step. -/
theorem shapeOf_plain (hone : names ≠ [anyFolders]) (htwo : names ≠ [anyFolders, ['*']])
    (hthree : names ≠ [anyFolders, ['*'], anyFolders]) :
    shapeOf isFolder names = (stepsOf isFolder false names).map fun r => .steps r.1 r.2 := by
  rw [shapeOf, if_neg (by simpa using hone), if_neg (by simpa using htwo),
    if_neg (by simpa using hthree)]
  cases stepsOf isFolder false names <;> rfl

/-- The patterns that have a shape of their own are made of asterisks. -/
theorem shapeOf_cases (isFolder : Bool) (names : List (List Char)) :
    (shapeOf isFolder names = (stepsOf isFolder false names).map fun r => .steps r.1 r.2) ∨
      names.head? = some anyFolders ∧ names.findSome? nameFault? = none ∧
        names.findSome? nameRange? = none ∧
          ∃ shape, shapeOf isFolder names = .ok shape ∧ rangeFault? shape = none := by
  by_cases hone : names = [anyFolders]
  · subst hone
    exact .inr ⟨rfl, by simp, by simp, _, rfl, by cases isFolder <;> rfl⟩
  by_cases htwo : names = [anyFolders, ['*']]
  · subst htwo
    exact .inr ⟨rfl, by simp, by simp, _, rfl, rfl⟩
  by_cases hthree : names = [anyFolders, ['*'], anyFolders]
  · subst hthree
    exact .inr ⟨rfl, by simp, by simp, _, rfl, rfl⟩
  · exact .inl (shapeOf_plain hone htwo hthree)

/-- Patterns that are not looked for in any folder are matched step by step. -/
theorem shapeOf_of_head (h : names.head? ≠ some anyFolders) :
    shapeOf isFolder names = (stepsOf isFolder false names).map fun r => .steps r.1 r.2 :=
  (shapeOf_cases isFolder names).resolve_right fun hany => h hany.1

theorem shapeOf_error {f : GlobFault} (h : names.findSome? nameFault? = some f) :
    shapeOf isFolder names = .error f := by
  obtain hshape | ⟨-, hnone, -⟩ := shapeOf_cases isFolder names
  · rw [hshape, stepsOf_error h]
    rfl
  · rw [hnone] at h
    cases h

theorem exists_shapeOf (h : names.findSome? nameFault? = none) :
    ∃ shape, shapeOf isFolder names = .ok shape ∧
      (rangeFault? shape = none ↔ names.findSome? nameRange? = none) := by
  obtain hshape | ⟨-, -, hranges, shape, hshape, hfault⟩ := shapeOf_cases isFolder names
  · obtain ⟨ss, e, hsteps, hfaulty⟩ := exists_stepsOf h false
    refine ⟨.steps ss e, by rw [hshape, hsteps]; rfl, ?_⟩
    rw [← Option.not_isSome_iff_eq_none, ← Option.not_isSome_iff_eq_none, List.isSome_findSome?,
      ← hfaulty, rangeFault?, Option.isSome_map, isSome_stepsFault]
  · exact ⟨shape, hshape, by simp [hfault, hranges]⟩

end Rule

end Marginalia
