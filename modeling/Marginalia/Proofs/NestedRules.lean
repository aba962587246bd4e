/-
Rules of nested ignore files.

The line of an ignore file in a folder is read as a line of the root, with the path of the folder
in front.  Names that stand for themselves take exactly the path; behind it, any folders in
between and the slash behind them take what any folders at the start of a path take.  So what
such a line says of a path below its folder is what the line itself says of the rest of the path.

* `between_slash` — any folders in between, and the slash behind them;
* `Rule.foldr_behind` — behind a path, names hit what they hit on their own;
* `Rule.doubled_of_hit` — names with an empty one between them ask for two slashes in a row;
* `Rule.names_own` — the names of a line, on its own and below its folder;
* `Rule.isSome_shape` — patterns with a shape of their own hit what their steps would;
* `Matcher.nested_verdicts` — what a nested line says of a path;
* `Matcher.nested_verdicts_blank` — lines that mean something else below a folder.
-/
import Mathlib.Data.List.TakeWhile
import Marginalia.Proofs.PatternScope

namespace Marginalia

/-! ### Steps behind a path -/

section Steps

variable {k : Continuation}

theorem take_chars (l rest : List Char) :
    (l.map fun c => PathStep.part (.char c)).foldr PathStep.take k (l ++ rest) = k rest := by
  induction l with
  | nil => rfl
  | cons c l ih => simpa [PathStep.take, GlobPart.accepts] using ih

theorem take_slash (path : List Char) : PathStep.slash.take k ('/' :: path) = k path := by
  simp [PathStep.take]

/-- Any characters and a slash are folders. -/
theorem takeAny_slash (path : List Char) :
    takeAny (PathStep.slash.take k) path = takeFolders k path := by
  induction path with
  | nil => rfl
  | cons c cs ih => rw [takeAny, takeFolders, ih, PathStep.take]

/-- Any folders in between and the slash behind them take what any folders at the start take. -/
theorem between_slash (path : List Char) :
    PathStep.foldersBetween.take (PathStep.slash.take k) ('/' :: path) =
      PathStep.foldersBefore.take k path := by
  cases path with
  | nil => exact take_slash []
  | cons c cs =>
    show (if c == '\n' then none else takeAny (PathStep.slash.take k) cs).or
      (PathStep.slash.take k ('/' :: c :: cs)) = _
    rw [takeAny_slash, take_slash]
    rfl

end Steps

namespace Rule

variable {isFolder : Bool} {names : List (List Char)} {ss ss' : List PathStep} {e e' : PathEnd}

theorem stepsOfName_nil : stepsOfName [] = .ok [] := by
  rw [stepsOfName, if_neg (by decide), GlobPart.ofChars]
  rfl

/-- Behind a slash, names hit what they hit at the start of a path. -/
theorem foldr_inside {front : List (List Char)} (hfront : front ∈ [[], [anyFolders]])
    {s : List Char} (hs : s ≠ anyFolders) {rest : List (List Char)}
    (hinside : stepsOf isFolder true (front ++ s :: rest) = .ok (ss, e))
    (houtside : stepsOf isFolder false (front ++ s :: rest) = .ok (ss', e')) (path : List Char) :
    ss.foldr PathStep.take e.hit? ('/' :: path) = ss'.foldr PathStep.take e'.hit? path := by
  -- the name comes first, or any folders come before it
  obtain rfl | hfront := List.mem_cons.mp hfront
  · obtain ⟨parts, r, hparts, hr, rfl, rfl⟩ := exists_of_stepsOf_cons hs hinside
    obtain ⟨parts', r', hparts', hr', rfl, rfl⟩ := exists_of_stepsOf_cons hs houtside
    obtain rfl : parts = parts' := Except.ok.inj (hparts.symm.trans hparts')
    obtain rfl : r = r' := Except.ok.inj (hr.symm.trans hr')
    exact take_slash path
  · rw [List.mem_singleton.mp hfront, List.singleton_append] at hinside houtside
    obtain ⟨⟨_, _⟩, hin, rfl, rfl⟩ :=
      exists_of_stepsOf_anyFolders (List.cons_ne_nil s rest) hinside
    obtain ⟨⟨_, _⟩, hout, rfl, rfl⟩ :=
      exists_of_stepsOf_anyFolders (List.cons_ne_nil s rest) houtside
    obtain ⟨parts, r, hparts, hr, rfl, rfl⟩ := exists_of_stepsOf_cons hs hin
    obtain ⟨parts', r', hparts', hr', rfl, rfl⟩ := exists_of_stepsOf_cons hs hout
    obtain rfl : parts = parts' := Except.ok.inj (hparts.symm.trans hparts')
    obtain rfl : r = r' := Except.ok.inj (hr.symm.trans hr')
    exact between_slash path

/-- Names that stand for themselves take themselves, with a slash in front of each. -/
theorem foldr_below {at_ : List (List Char)} (hat : ∀ s ∈ at_, Literal s)
    (h : stepsOf isFolder true (at_ ++ names) = .ok (ss, e)) :
    ∃ ss', stepsOf isFolder true names = .ok (ss', e) ∧ ∀ path,
      ss.foldr PathStep.take e.hit? ((at_.flatMap fun s => '/' :: s) ++ path) =
        ss'.foldr PathStep.take e.hit? path := by
  induction at_ generalizing ss with
  | nil => exact ⟨ss, h, fun _ => rfl⟩
  | cons s at_ ih =>
    rw [List.forall_mem_cons] at hat
    obtain ⟨parts, r, hparts, hr, rfl, rfl⟩ := exists_of_stepsOf_cons hat.1.ne_anyFolders h
    rw [hat.1.stepsOfName] at hparts
    cases hparts
    obtain ⟨ss', hss', hbelow⟩ := ih hat.2 hr
    refine ⟨ss', hss', fun path => ?_⟩
    rw [if_pos rfl, List.append_assoc, List.singleton_append, List.foldr_cons, List.foldr_append,
      List.flatMap_cons, List.cons_append, List.cons_append, take_slash, List.append_assoc,
      take_chars, hbelow]

/-- Behind a path whose names stand for themselves, names hit what they hit on their own. -/
theorem foldr_behind {s : List Char} {at_ front rest : List (List Char)} {t : List Char}
    (hs : Literal s) (hat : ∀ s ∈ at_, Literal s) (hfront : front ∈ [[], [anyFolders]])
    (ht : t ≠ anyFolders)
    (h : stepsOf isFolder false (s :: at_ ++ (front ++ t :: rest)) = .ok (ss, e))
    (houtside : stepsOf isFolder false (front ++ t :: rest) = .ok (ss', e')) (path : List Char) :
    ss.foldr PathStep.take e.hit? (s ++ (at_.flatMap fun s => '/' :: s) ++ '/' :: path) =
      ss'.foldr PathStep.take e'.hit? path := by
  obtain ⟨parts, r, hparts, hr, rfl, rfl⟩ := exists_of_stepsOf_cons hs.ne_anyFolders h
  rw [hs.stepsOfName] at hparts
  cases hparts
  obtain ⟨ss'', hinside, hbelow⟩ := foldr_below hat hr
  rw [if_neg Bool.false_ne_true, List.nil_append, List.foldr_append, List.append_assoc, take_chars,
    hbelow]
  exact foldr_inside hfront ht hinside houtside path

/-! ### Empty names -/

/-- Behind other names, names are hit by a slash at first. -/
theorem head_of_hit (hnames : names ≠ []) (h : stepsOf isFolder true names = .ok (ss, e))
    {path : List Char} (hhit : (ss.foldr PathStep.take e.hit? path).isSome) :
    ∃ rest, path = '/' :: rest := by
  induction names generalizing ss path with
  | nil => exact absurd rfl hnames
  | cons s rest ih =>
    by_cases hs : s = anyFolders
    · subst hs
      by_cases hrest : rest = []
      · subst hrest
        cases h
        cases path with
        | nil => cases hhit
        | cons c path =>
          by_cases hc : c = '/'
          · exact ⟨path, by rw [hc]⟩
          · simp [PathEnd.hit?, hc] at hhit
      · obtain ⟨r, hsteps, rfl, rfl⟩ := exists_of_stepsOf_anyFolders hrest h
        rw [List.foldr_cons] at hhit
        unfold PathStep.take at hhit
        split at hhit <;> try contradiction
        · exact ⟨_, rfl⟩
        · exact ih hrest hsteps hhit
    · obtain ⟨parts, r, hparts, hsteps, rfl, rfl⟩ := exists_of_stepsOf_cons hs h
      rw [if_pos rfl, List.append_assoc, List.singleton_append, List.foldr_cons] at hhit
      obtain ⟨path, rfl, -⟩ := taken_slash hhit
      exact ⟨path, rfl⟩

/-- What is hit by names with an empty one between them has two slashes in a row. -/
theorem doubled_of_hit {s : List Char} (hs : s ≠ anyFolders) {back : List (List Char)}
    (hback : back ≠ []) {inside : Bool}
    (h : stepsOf isFolder inside (s :: [] :: back) = .ok (ss, e)) {path : List Char}
    (hhit : (ss.foldr PathStep.take e.hit? path).isSome) : ['/', '/'] <:+: path := by
  obtain ⟨parts, ⟨ss', e'⟩, -, hbehind, rfl, rfl⟩ := exists_of_stepsOf_cons hs h
  rw [List.foldr_append] at hhit
  obtain ⟨taken, rest, rfl, hrest, -⟩ := reached_foldr _ hhit
  -- behind the name come the slash of the empty one and that of the next
  obtain ⟨parts', r', hparts', hlater, rfl, rfl⟩ := exists_of_stepsOf_cons (by decide) hbehind
  rw [stepsOfName_nil] at hparts'
  cases hparts'
  rw [if_pos rfl, List.append_nil, List.singleton_append, List.foldr_cons] at hrest
  obtain ⟨rest', rfl, hrest'⟩ := taken_slash hrest
  obtain ⟨rest'', rfl⟩ := head_of_hit hback hlater hrest'
  exact ⟨taken, rest'', by simp⟩

/-- And so has what they hit in any folder. -/
theorem doubled_of_hit_anyFolders {s : List Char} (hs : s ≠ anyFolders) {back : List (List Char)}
    (hback : back ≠ []) {inside : Bool}
    (h : stepsOf isFolder inside (anyFolders :: s :: [] :: back) = .ok (ss, e)) {path : List Char}
    (hhit : (ss.foldr PathStep.take e.hit? path).isSome) : ['/', '/'] <:+: path := by
  obtain ⟨r, hsteps, rfl, rfl⟩ := exists_of_stepsOf_anyFolders (List.cons_ne_nil _ _) h
  rw [List.foldr_cons] at hhit
  obtain ⟨taken, rest, rfl, hrest, -⟩ := PathStep.reached_take _ hhit
  exact (doubled_of_hit hs hback hsteps hrest).trans (List.suffix_append taken rest).isInfix

end Rule

/-- No path has two slashes in a row. -/
theorem Path.not_doubled {p : Path} (hp : p.Named) : ¬ ['/', '/'] <:+: p.folderText := by
  induction p with
  | nil => simp [folderText_nil]
  | cons n p ih =>
    have hn := hp n List.mem_cons_self
    have hbelow : Named p := fun m hm => hp m (List.mem_cons_of_mem n hm)
    rintro ⟨front, back, h⟩
    rw [folderText_cons, List.append_assoc] at h
    by_cases hfront : '/' ∈ front
    · -- the first slash is that behind the name
      obtain ⟨before, after, rfl, hbefore⟩ := List.eq_append_cons_of_mem hfront
      rw [List.append_assoc, List.cons_append] at h
      obtain ⟨-, hrest⟩ := slash_inj hbefore hn.noSlash h
      exact ih hbelow ⟨after, back, by rw [← hrest]; simp⟩
    · obtain ⟨-, hrest⟩ := slash_inj hfront hn.noSlash h
      cases p with
      | nil => simp [folderText_nil] at hrest
      | cons m p =>
        obtain ⟨c, cs, hcs, hc, -⟩ := folderText_start (hbelow m List.mem_cons_self) p
        rw [hcs] at hrest
        exact hc (List.cons.inj hrest).1.symm

theorem Path.not_doubled_written {p : Path} (hp : p.Named) (hne : p ≠ []) (isFolder : Bool) :
    ¬ ['/', '/'] <:+: p.written isFolder := by
  intro h
  cases isFolder with
  | true => exact not_doubled hp h
  | false =>
    refine not_doubled hp (h.trans ?_)
    rw [← text_slash hne]
    exact (List.prefix_append _ _).isInfix

/-! ### The names of a line -/

namespace Rule

theorem splitChars_ne_nil (cs : List Char) : splitChars '/' cs ≠ [] := by
  rw [Dotted.splitChars_eq]
  simp

theorem splitChars_replicate (n : Nat) :
    splitChars '/' (List.replicate n '/') = List.replicate (n + 1) [] := by
  induction n with
  | zero => exact Dotted.splitChars_of_notMem List.not_mem_nil
  | succ n ih =>
    rw [List.replicate_succ, Dotted.splitChars_cons, ih]
    rfl

/-- A name on its own is followed by slashes only. -/
theorem loneName_iff {cs : List Char} :
    loneName cs = true ↔ ∃ s n, '/' ∉ s ∧ cs = s ++ List.replicate n '/' := by
  constructor
  · intro h
    refine ⟨(cs.reverse.dropWhile (· == '/')).reverse, (cs.reverse.takeWhile (· == '/')).length,
      by simpa [loneName] using h, ?_⟩
    have hslashes : cs.reverse.takeWhile (· == '/') =
        List.replicate (cs.reverse.takeWhile (· == '/')).length '/' := by
      refine List.eq_replicate_iff.mpr ⟨rfl, fun c hc => ?_⟩
      exact eq_of_beq (List.mem_takeWhile_imp (p := (· == '/')) hc)
    rw [← List.reverse_replicate, ← hslashes, ← List.reverse_append,
      List.takeWhile_append_dropWhile, List.reverse_reverse]
  · rintro ⟨s, n, hs, rfl⟩
    have hslashes : ∀ c ∈ List.replicate n '/', (c == '/') = true := by
      intro c hc
      rw [List.eq_of_mem_replicate hc]
      rfl
    have hdrop : (s ++ List.replicate n '/').reverse.dropWhile (· == '/') =
        s.reverse.dropWhile (· == '/') := by
      rw [List.reverse_append, List.reverse_replicate, List.dropWhile_append_of_pos hslashes]
    have hnone : '/' ∉ s.reverse.dropWhile (· == '/') := fun hmem =>
      hs (List.mem_reverse.mp ((List.dropWhile_suffix _).mem hmem))
    rw [loneName, hdrop]
    simpa using hnone

theorem splitChars_loneName {cs : List Char} (h : loneName cs = true) :
    ∃ s n, splitChars '/' cs = s :: List.replicate n [] := by
  obtain ⟨s, n, hs, rfl⟩ := loneName_iff.mp h
  cases n with
  | zero =>
    refine ⟨s, 0, ?_⟩
    rw [List.replicate_zero, List.append_nil, Dotted.splitChars_of_notMem hs]
    rfl
  | succ n =>
    refine ⟨s, n + 1, ?_⟩
    rw [List.replicate_succ, Dotted.splitChars_append hs, splitChars_replicate]

/-- A name on its own, with a slash behind it or none, is looked for in any folder. -/
theorem opened_loneName {s : List Char} (hs : s ≠ []) (hany : s ≠ anyFolders) {n : Nat}
    (hn : n ≤ 1) : opened (s :: List.replicate n []) = anyFolders :: s :: List.replicate n [] := by
  obtain ⟨c, cs, rfl⟩ := List.exists_cons_of_ne_nil hs
  obtain rfl | rfl : n = 0 ∨ n = 1 := by omega
  · show (if (c :: cs) == anyFolders then _ else _) = _
    rw [if_neg (by simpa using hany)]
    rfl
  · show (if (c :: cs) == anyFolders then _ else _) = _
    rw [if_neg (by simpa using hany)]
    rfl

/-- Names with a slash between them are looked for where they are. -/
theorem opened_of_not_loneName {cs : List Char} (h : loneName cs = false)
    (hhead : cs.head? ≠ some '/') : opened (splitChars '/' cs) = splitChars '/' cs := by
  by_cases hslash : '/' ∈ cs
  · obtain ⟨s, rest, rfl, hs⟩ := List.eq_append_cons_of_mem hslash
    have hrest : rest ≠ [] := by
      rintro rfl
      have hlone : loneName (s ++ ['/']) = true := loneName_iff.mpr ⟨s, 1, hs, rfl⟩
      rw [hlone] at h
      cases h
    rw [Dotted.splitChars_append hs]
    unfold opened
    split
    · rename_i heq
      cases heq
      exact absurd rfl hhead
    · rename_i heq
      exact absurd (List.cons.inj heq).2 (splitChars_ne_nil rest)
    · rename_i heq
      have hjoined := Dotted.intercalate_splitChars '/' rest
      rw [(List.cons.inj heq).2] at hjoined
      exact absurd hjoined.symm hrest
    · rfl
  · have hlone : loneName cs = true := loneName_iff.mpr ⟨cs, 0, hslash, by simp⟩
    rw [hlone] at h
    cases h

theorem collapse_ne_nil {segments : List (List Char)} (h : segments ≠ []) :
    collapse segments ≠ [] := by
  obtain ⟨s, rest, rfl⟩ := List.exists_cons_of_ne_nil h
  rw [collapse]
  split
  · rename_i hagain
    intro hnil
    rw [hnil, List.head?_nil, Bool.and_eq_true] at hagain
    cases hagain.2
  · exact List.cons_ne_nil _ _

theorem closed_ne_nil {segments : List (List Char)} (h : segments ≠ []) :
    closed segments ≠ [] := by
  unfold closed
  split
  · exact List.append_ne_nil_of_right_ne_nil _ (List.cons_ne_nil _ _)
  · exact h

/-- With more slashes behind it, a name on its own is looked for where it is, and there is an empty
name behind it. -/
theorem names_doubled {s : List Char} (hs : s ≠ []) (hany : s ≠ anyFolders) (n : Nat) :
    ∃ back, back ≠ [] ∧
      collapse (closed (opened (s :: List.replicate (n + 2) []))) = s :: [] :: back ∧
      collapse (closed (anyFolders :: s :: List.replicate (n + 2) [])) =
        anyFolders :: s :: [] :: back := by
  have hrest : ([] : List Char) :: List.replicate n [] ≠ [] := List.cons_ne_nil _ _
  have hfront : ∀ t ∈ [s, []], t ≠ anyFolders := by
    intro t ht
    obtain rfl | ht := List.mem_cons.mp ht
    · exact hany
    · rw [List.mem_singleton.mp ht]
      decide
  have hown : collapse (closed ([s, []] ++ [] :: List.replicate n [])) =
      [s, []] ++ collapse (closed ([] :: List.replicate n [])) := by
    rw [closed_append hrest, collapse_append hfront]
  have hopened : opened ([s, []] ++ [] :: List.replicate n []) =
      [s, []] ++ [] :: List.replicate n [] := by
    obtain ⟨c, cs, rfl⟩ := List.exists_cons_of_ne_nil hs
    rfl
  have hbelow : closed ([anyFolders] ++ ([s, []] ++ [] :: List.replicate n [])) =
      anyFolders :: closed ([s, []] ++ [] :: List.replicate n []) :=
    closed_append (by simp)
  refine ⟨_, collapse_ne_nil (closed_ne_nil hrest), ?_, ?_⟩
  · exact (congrArg (fun l => collapse (closed l)) hopened).trans hown
  · show collapse (closed ([anyFolders] ++ ([s, []] ++ [] :: List.replicate n []))) = _
    rw [hbelow, collapse, hown]
    simp [hany]

/-- Whether a line is the same pattern with the blanks at its end and without them: it is tied to
its folder, or the blanks do not hide that it is a name on its own with a slash behind it. -/
def Spaced (line : List Char) : Prop :=
  tied line = true ∨ loneName (without '/' (without '!' line)) = loneName (body line)

instance (line : List Char) : Decidable (Spaced line) :=
  inferInstanceAs (Decidable (_ ∨ _))

variable {line : List Char}

/-- Below its folder a line has the names it has on its own, or it has an empty name and is about
no path. -/
theorem names_own (hmentions : ∃ s ∈ splitChars '/' (body line), Mentions s = true)
    (hspaced : Spaced line) :
    Rule.names (segments (String.ofList line)) = namesBelow line ∨
      ∃ s back, s ≠ anyFolders ∧ back ≠ [] ∧
        Rule.names (segments (String.ofList line)) = s :: [] :: back ∧
        namesBelow line = anyFolders :: s :: [] :: back := by
  rw [names_eq, segments_eq, String.toList_ofList, namesBelow, floating]
  by_cases htied : tied line = true
  · rw [htied]
    exact .inl rfl
  have hbody := hspaced.resolve_left htied
  rw [Bool.not_eq_true] at htied
  rw [htied, hbody, Bool.not_false, Bool.true_and, if_neg Bool.false_ne_true, List.nil_append]
  by_cases hlone : loneName (body line) = true
  · rw [hlone, if_pos rfl]
    obtain ⟨s, n, hsegments⟩ := splitChars_loneName hlone
    have hs : Mentions s = true := by
      obtain ⟨t, ht, hmentions⟩ := hmentions
      rw [hsegments] at ht
      obtain rfl | ht := List.mem_cons.mp ht
      · exact hmentions
      · rw [List.eq_of_mem_replicate ht] at hmentions
        cases hmentions
    have hany : s ≠ anyFolders := by
      rintro rfl
      cases hs
    have hne : s ≠ [] := by
      rintro rfl
      cases hs
    rw [hsegments]
    by_cases hn : n ≤ 1
    · left
      rw [opened_loneName hne hany hn]
      rfl
    · -- more slashes than one: the names between them are empty
      right
      obtain ⟨n, rfl⟩ : ∃ m, n = m + 2 := ⟨n - 2, by omega⟩
      obtain ⟨back, hback, hown, hbelow⟩ := names_doubled hne hany n
      exact ⟨s, back, hany, hback, hown, hbelow⟩
  · rw [Bool.not_eq_true] at hlone
    left
    rw [hlone, opened_of_not_loneName hlone]
    · rfl
    · rw [body_eq, without_of_ne (by simpa [tied] using htied)]
      exact head_trimmed_ne (by simpa [tied] using htied)

/-- Names that stand for any folders are not repeated. -/
theorem head_of_collapse {segments rest : List (List Char)}
    (h : collapse segments = anyFolders :: rest) : rest.head? ≠ some anyFolders := by
  induction segments generalizing rest with
  | nil => cases h
  | cons s segments ih =>
    rw [collapse] at h
    split at h
    · exact ih h
    · rename_i hagain
      obtain ⟨rfl, rfl⟩ := List.cons.inj h
      simpa using hagain

/-- The names of a pattern are a name and others, in any folder or where they are. -/
theorem collapse_start {segments : List (List Char)}
    (h : ∃ s ∈ collapse segments, Mentions s = true) :
    ∃ front ∈ [[], [anyFolders]], ∃ s rest, s ≠ anyFolders ∧
      collapse segments = front ++ s :: rest := by
  cases hnames : collapse segments with
  | nil =>
    rw [hnames] at h
    simp at h
  | cons s rest =>
    by_cases hs : s = anyFolders
    · subst hs
      rw [hnames] at h
      cases rest with
      | nil => simp [mentions_anyFolders] at h
      | cons t rest =>
        have ht : t ≠ anyFolders := fun ht => head_of_collapse hnames (by rw [ht]; rfl)
        exact ⟨[anyFolders], by simp, t, rest, ht, rfl⟩
    · exact ⟨[], by simp, s, rest, hs, rfl⟩

end Rule

/-! ### Patterns with a shape of their own -/

section Shapes

variable {k : Continuation} {a rest : List Char}

/-- A path from its first name on: what follows is nothing, or a slash and more. -/
theorem Path.exists_written (n : String) (p : Path) (isFolder : Bool) :
    ∃ rest, Path.written (n :: p) isFolder = n.toList ++ rest ∧
      (rest = [] ∨ ∃ more, rest = '/' :: more) := by
  cases isFolder with
  | true => exact ⟨_, Path.folderText_cons n p, .inr ⟨_, rfl⟩⟩
  | false =>
    cases p with
    | nil => exact ⟨[], by simp [Path.written, Path.text_toList], .inl rfl⟩
    | cons m p => exact ⟨_, Path.text_cons_cons n m p, .inr ⟨_, rfl⟩⟩

theorem isSome_takeRun (ha : '/' ∉ a) (hrest : rest = [] ∨ ∃ more, rest = '/' :: more)
    (hk : (k rest).isSome) : (takeRun k (a ++ rest)).isSome := by
  induction a with
  | nil =>
    obtain rfl | ⟨more, rfl⟩ := hrest
    · exact hk
    · exact hk
  | cons c a ih =>
    rw [List.mem_cons, not_or] at ha
    rw [List.cons_append, takeRun, if_neg (by simpa using Ne.symm ha.1), Option.isSome_or,
      ih ha.2, Bool.true_or]

/-- The first name of a path is a whole name. -/
theorem isSome_take_name (hne : a ≠ []) (ha : '/' ∉ a)
    (hrest : rest = [] ∨ ∃ more, rest = '/' :: more) (hk : (k rest).isSome) :
    (PathStep.name.take k (a ++ rest)).isSome := by
  obtain ⟨c, cs, rfl⟩ := List.exists_cons_of_ne_nil hne
  rw [List.mem_cons, not_or] at ha
  rw [List.cons_append, PathStep.take, if_neg (by simpa using Ne.symm ha.1)]
  exact isSome_takeRun ha.2 hrest hk

/-- No folders have to be taken. -/
theorem isSome_take_foldersBefore {path : List Char} (hk : (k path).isSome) :
    (PathStep.foldersBefore.take k path).isSome := by
  cases path with
  | nil => exact hk
  | cons c path => rw [PathStep.take, Option.isSome_or, hk, Bool.or_true]

namespace Rule

variable {isFolder : Bool} {names : List (List Char)} {ss : List PathStep} {e : PathEnd}

/-- A pattern that has a shape of its own hits what its steps would hit, but for files whose name
is made of line feeds. -/
theorem isSome_shape (hmentions : ∃ s ∈ names, Mentions s = true) {shape : PathShape}
    (hshape : shapeOf isFolder names = .ok shape)
    (hsteps : stepsOf isFolder false names = .ok (ss, e)) {p : Path} (hp : p.Named) (hne : p ≠ [])
    {written : Bool} (hfeeds : written = true ∨ ∃ c ∈ p.text.toList, c ≠ '\n') :
    (shape.hit? (p.written written)).isSome =
      (ss.foldr PathStep.take e.hit? (p.written written)).isSome := by
  obtain ⟨n, q, rfl⟩ := List.exists_cons_of_ne_nil hne
  have hn := hp n List.mem_cons_self
  obtain ⟨rest, hpath, hrest⟩ := Path.exists_written n q written
  by_cases hone : names = [anyFolders]
  · subst hone
    simp [mentions_anyFolders] at hmentions
  by_cases htwo : names = [anyFolders, ['*']]
  · -- everything, and every path has a name at its start
    subst htwo
    cases hshape
    cases hsteps
    have hhit : ([PathStep.foldersBefore, .name].foldr PathStep.take PathEnd.entry.hit?
        (n.toList ++ rest)).isSome := by
      refine isSome_take_foldersBefore (isSome_take_name hn.toList_ne_nil hn.noSlash hrest ?_)
      obtain rfl | ⟨more, rfl⟩ := hrest <;> rfl
    have hother : ∃ c ∈ Path.written (n :: q) written, c ≠ '\n' := by
      cases written with
      | false => exact hfeeds.resolve_left Bool.false_ne_true
      | true =>
        refine ⟨'/', ?_, by decide⟩
        rw [Path.written, Path.folderText_cons]
        simp
    have hall : ¬ (Path.written (n :: q) written).all (· == '\n') = true := by
      simpa using hother
    rw [PathShape.hit?, if_neg hall, hpath]
    exact hhit.symm
  by_cases hthree : names = [anyFolders, ['*'], anyFolders]
  · subst hthree
    cases hshape
    cases hsteps
    rw [PathShape.hit?, hpath]
    obtain rfl | ⟨more, rfl⟩ := hrest
    · -- nothing is below a single name
      have hnone : ¬ ([PathStep.foldersBefore, .name].foldr PathStep.take
          (PathEnd.below isFolder).hit? (n.toList ++ [])).isSome := by
        intro hhit
        obtain ⟨taken, behind, hparts, hend, -⟩ := reached_foldr _ hhit
        cases behind with
        | nil => cases hend
        | cons c behind =>
          by_cases hc : c = '/'
          · refine hn.noSlash ?_
            rw [← List.append_nil n.toList, hparts, hc]
            simp
          · simp [PathEnd.hit?, hc] at hend
      rw [if_neg (by simpa using hn.noSlash), Option.isSome_none]
      exact (Bool.eq_false_iff.mpr hnone).symm
    · have hhit : ([PathStep.foldersBefore, .name].foldr PathStep.take
          (PathEnd.below isFolder).hit? (n.toList ++ '/' :: more)).isSome :=
        isSome_take_foldersBefore
          (isSome_take_name hn.toList_ne_nil hn.noSlash (.inr ⟨more, rfl⟩) rfl)
      rw [if_pos (by simp)]
      exact hhit.symm
  · rw [shapeOf_plain hone htwo hthree, hsteps] at hshape
    cases hshape
    rfl

end Rule

end Shapes

/-! ### Rules on nested lines -/

/-- Below a folder a path is written with that of the folder in front. -/
theorem Path.written_append (at_ : Path) {p : Path} (hp : p ≠ []) (isFolder : Bool) :
    Path.written (at_ ++ p) isFolder = at_.folderText ++ p.written isFolder := by
  cases isFolder with
  | true => exact List.flatMap_append
  | false =>
    show (Path.text (at_ ++ p)).toList = _
    induction at_ with
    | nil => rfl
    | cons n at_ ih =>
      obtain ⟨m, q, hq⟩ := List.exists_cons_of_ne_nil (List.append_ne_nil_of_right_ne_nil at_ hp)
      rw [List.cons_append, hq, text_cons_cons, ← hq, ih, folderText_cons]
      simp

namespace Rule

variable {at_ : Path} {line : String}

/-- A line is about folders only when what it is about ends with a slash. -/
theorem getLast?_segments (line : String) :
    (segments line).getLast? = (splitChars '/' (body line.toList)).getLast? := by
  rw [segments_eq, List.getLast?_append_of_ne_nil _ (splitChars_ne_nil _)]

theorem getLast?_segments_rebased (hat : at_.Named) (hne : at_ ≠ [])
    (h : Prefixed at_ line.toList) :
    (segments (rebased at_ line.toList)).getLast? =
      (splitChars '/' (body line.toList)).getLast? := by
  rw [segments_rebased hat hne h, ← List.append_assoc, ← List.append_assoc,
    List.getLast?_append_of_ne_nil _ (splitChars_ne_nil _)]

/-- The rule on a nested line hits behind the path of its folder what the names of the line hit on
their own. -/
theorem hit_rebased (hat : at_.Named) (hne : at_ ≠ []) (h : Prefixed at_ line.toList) {r : Rule}
    (hrule : ofLine (rebased at_ line.toList) = .ok (some r)) :
    ∃ ss e, stepsOf ((splitChars '/' (body line.toList)).getLast? == some []) false
        (namesBelow line.toList) = .ok (ss, e) ∧
      ∀ path, r.hit? (at_.folderText ++ path) = ss.foldr PathStep.take e.hit? path := by
  obtain ⟨hshape, -⟩ := shape_of_ofLine hrule
  obtain ⟨hnames, hmentions⟩ := names_rebased hat hne h
  rw [getLast?_segments_rebased hat hne h, hnames] at hshape
  obtain ⟨n, q, rfl⟩ := List.exists_cons_of_ne_nil hne
  have hliteral := h.literal
  rw [List.forall_mem_cons] at hliteral
  have hbelow : ∀ s ∈ q.map String.toList, Literal s := by simpa using hliteral.2
  have hhead : ((n :: q).map String.toList ++ namesBelow line.toList).head? ≠ some anyFolders :=
    fun hany => hliteral.1.ne_anyFolders (Option.some.inj hany)
  rw [shapeOf_of_head hhead] at hshape
  obtain ⟨⟨ss, e⟩, hsteps, hshape⟩ := exists_of_map_eq_ok hshape
  -- what has steps behind the path has steps on its own
  obtain ⟨parts, r', -, hr, -⟩ := exists_of_stepsOf_cons hliteral.1.ne_anyFolders hsteps
  obtain ⟨ss'', hinside, -⟩ := foldr_below hbelow hr
  obtain ⟨ss', e', houtside⟩ := exists_stepsOf_of_inside hinside false
  refine ⟨ss', e', houtside, fun path => ?_⟩
  obtain ⟨front, hfront, s, rest, hs, hstart⟩ := collapse_start hmentions
  rw [namesBelow, hstart] at hsteps houtside
  have hbehind := foldr_behind hliteral.1 hbelow hfront hs hsteps houtside path
  rw [hit?, ← hshape, PathShape.hit?, Path.folderText_eq, List.append_assoc,
    List.singleton_append]
  exact hbehind

/-- A rule hits a path behind the path of its folder when the rule on the line itself hits it. -/
theorem isSome_hit_rebased (hat : at_.Named) (hne : at_ ≠ []) (h : Prefixed at_ line.toList)
    (hspaced : Spaced line.toList) {own nested : Rule} (hown : ofLine line = .ok (some own))
    (hnested : ofLine (rebased at_ line.toList) = .ok (some nested)) {p : Path} (hp : p.Named)
    (hpne : p ≠ []) {isFolder : Bool}
    (hfeeds : isFolder = true ∨ ∃ c ∈ p.text.toList, c ≠ '\n') :
    (nested.hit? ((at_ ++ p).written isFolder)).isSome = (own.hit? (p.written isFolder)).isSome := by
  obtain ⟨ss, e, hsteps, hbehind⟩ := hit_rebased hat hne h hnested
  obtain ⟨hshape, -⟩ := shape_of_ofLine hown
  rw [getLast?_segments] at hshape
  have hdoubled := Path.not_doubled_written hp hpne isFolder
  rw [Path.written_append at_ hpne, hbehind]
  have hnames := names_own h.mentions hspaced
  rw [String.ofList_toList] at hnames
  obtain hnames | ⟨s, back, hs, hback, hnames, hbelow⟩ := hnames
  · obtain ⟨-, hmentions⟩ := names_rebased hat hne h
    rw [hnames] at hshape
    exact (isSome_shape hmentions hshape hsteps hp hpne hfeeds).symm
  · -- an empty name: neither hits any path
    have hhead : (s :: [] :: back).head? ≠ some anyFolders := fun hany => hs (Option.some.inj hany)
    rw [hnames, shapeOf_of_head hhead] at hshape
    obtain ⟨⟨ss', e'⟩, hsteps', hshape⟩ := exists_of_map_eq_ok hshape
    rw [hbelow] at hsteps
    have hnested : ¬ (ss.foldr PathStep.take e.hit? (p.written isFolder)).isSome :=
      fun hhit => hdoubled (doubled_of_hit_anyFolders hs hback hsteps hhit)
    have hown : ¬ (own.hit? (p.written isFolder)).isSome := by
      rw [hit?, ← hshape]
      exact fun hhit => hdoubled (doubled_of_hit hs hback hsteps' hhit)
    rw [Bool.not_eq_true] at hnested hown
    rw [hnested, hown]

/-- Whether a line says of what is below a folder, when it stands in the ignore file there, what it
says on its own.  The names of the path stand for themselves, and it does not look like the sign of
a negated line or of a comment; the line is one that the path is put in front of, some name in it
asks for a character, and no blanks behind slashes hide that it is a name on its own. -/
structure KeepsMeaning (at_ : Path) (line : List Char) : Prop extends Prefixed at_ line where
  uncommented : at_.text.toList.head? = some '#' → sign line = ['!'] ∨ tied line = true
  spaced : Spaced line

theorem telling_rebased (hat : at_.Named) (hne : at_ ≠ []) (h : KeepsMeaning at_ line.toList) :
    Telling (rebased at_ line.toList) := by
  have hbase := Path.text_ne_nil hat hne
  refine ⟨?_, ?_, ?_⟩
  · rw [trimmed_rebased hat hne h.toPrefixed, Bool.or_eq_false_iff]
    refine ⟨by simp [hbase], beq_eq_false_iff_ne.mpr ?_⟩
    obtain ⟨hsign, -⟩ | ⟨hsign, -⟩ := sign_cases line.toList
    · simp [hsign]
    · rw [hsign, List.nil_append]
      refine head_front_ne hat hne (by decide) (fun hhead => ?_) _
      exact (h.uncommented hhead).resolve_left (by simp [hsign])
  · rw [unsigned_rebased hat hne h.toPrefixed]
    intro hslash
    -- there are the path, a slash, and what the line is about
    have hlength := congrArg List.length hslash
    have hpath := List.length_pos_iff.mpr hbase
    have hbody := List.length_pos_iff.mpr h.toPrefixed.body_ne_nil
    simp only [List.length_append, List.length_cons, List.length_nil] at hlength
    omega
  · obtain ⟨hnames, -⟩ := names_rebased hat hne h.toPrefixed
    rw [hnames]
    simp [hne]

/-- The rule on a nested line is negated when the line is. -/
theorem negated_rebased (hat : at_.Named) (hne : at_ ≠ []) (h : Prefixed at_ line.toList)
    {own nested : Rule} (hown : ofLine line = .ok (some own))
    (hnested : ofLine (rebased at_ line.toList) = .ok (some nested)) :
    nested.negated = own.negated := by
  obtain ⟨-, hnegated⟩ := shape_of_ofLine hown
  obtain ⟨-, hnegated'⟩ := shape_of_ofLine hnested
  rw [hnegated, hnegated', trimmed_rebased hat hne h]
  obtain ⟨hsign, hhead⟩ | ⟨hsign, hhead⟩ := sign_cases line.toList
  · obtain ⟨rest, hrest⟩ := List.head?_eq_some_iff.mp hhead
    have htrimmed := trimmed_append isBlank_negation (by decide) [] rest
    rw [List.nil_append, List.nil_append] at htrimmed
    rw [hsign, hrest, htrimmed]
    rfl
  · have hfront (rest : List Char) :
        ((if tied line.toList then ['/'] else []) ++ (at_.text.toList ++ rest)).head? ≠ some '!' :=
      head_front_ne hat hne (by decide)
        (fun hhead => (h.unsigned hhead).resolve_left (by simp [hsign])) rest
    rw [hsign, List.nil_append, beq_eq_false_iff_ne.mpr (hfront _),
      beq_eq_false_iff_ne.mpr (head_trimmed_ne hhead)]

/-- What a line says of a path, if it holds a rule. -/
theorem verdict?_toList (r : Option Rule) (path : List Char) :
    verdict? r.toList path =
      r.bind fun r => if (r.hit? path).isSome then some (!r.negated) else none := by
  cases r with
  | none => rfl
  | some r =>
    cases hhit : r.hit? path with
    | none => simp [verdict?, hhit]
    | some h => cases h <;> simp [verdict?, hhit]

/-- A nested line holds a rule when the line does, and is no pattern when the line is none. -/
theorem ofLine_rebased (hat : at_.Named) (hne : at_ ≠ []) (h : KeepsMeaning at_ line.toList) :
    ofLine line = .ok none ∧ ofLine (rebased at_ line.toList) = .ok none ∨
      (∃ own nested, ofLine line = .ok (some own) ∧
        ofLine (rebased at_ line.toList) = .ok (some nested)) ∨
      (∃ f, ofLine line = .error f) ∧ ∃ f, ofLine (rebased at_ line.toList) = .error f := by
  have hcomment := h.toPrefixed.no_comment
  have hfaults : (segments (rebased at_ line.toList)).findSome? nameFault? =
      (segments line).findSome? nameFault? := by
    rw [findSome?_rebased hat hne h.toPrefixed nameFault?_nil nameFault?_anyFolders
      fun _ hs => hs.no_mistake.1, findSome?_segments nameFault?_nil]
  have hranges : (segments (rebased at_ line.toList)).findSome? nameRange? =
      (segments line).findSome? nameRange? := by
    rw [findSome?_rebased hat hne h.toPrefixed nameRange?_nil nameRange?_anyFolders
      fun _ hs => hs.no_mistake.2, findSome?_segments nameRange?_nil]
  have hnested := ofLine_cases (telling_rebased hat hne h)
  rw [Sound, hfaults, hranges, ← Sound] at hnested
  obtain ⟨hunclosed, hown⟩ | ⟨hsound, own, hown⟩ | ⟨hunsound, hown⟩ :=
    ofLine_cases (telling_of_mentions h.mentions hcomment)
  · left
    refine ⟨hown, ?_⟩
    obtain ⟨-, hnested⟩ | ⟨hsound, -⟩ | ⟨hunsound, -⟩ := hnested
    · exact hnested
    · rw [hsound.1] at hunclosed
      cases hunclosed
    · exact absurd (.inl hunclosed) hunsound
  · right; left
    obtain ⟨hunclosed, -⟩ | ⟨-, nested, hnested⟩ | ⟨hunsound, -⟩ := hnested
    · rw [hsound.1] at hunclosed
      cases hunclosed
    · exact ⟨own, nested, hown, hnested⟩
    · exact absurd (.inr hsound) hunsound
  · right; right
    obtain ⟨hunclosed, -⟩ | ⟨hsound, -⟩ | ⟨-, hnested⟩ := hnested
    · exact absurd (.inl hunclosed) hunsound
    · exact absurd (.inr hsound) hunsound
    · exact ⟨hown, hnested⟩

/-- A line that keeps its meaning, or is empty or a comment, holds a rule in a folder when it does
on its own, and is no pattern when it is none. -/
theorem ofLine_nested (hat : at_.Named) (hne : at_ ≠ [])
    (h : line = "" ∨ line.toList.head? = some '#' ∨ KeepsMeaning at_ line.toList) :
    ofLine line = .ok none ∧ ofLine (rebased at_ line.toList) = .ok none ∨
      (KeepsMeaning at_ line.toList ∧ ∃ own nested, ofLine line = .ok (some own) ∧
        ofLine (rebased at_ line.toList) = .ok (some nested)) ∨
      (∃ f, ofLine line = .error f) ∧ ∃ f, ofLine (rebased at_ line.toList) = .error f := by
  rw [← or_assoc] at h
  obtain hcomment | h := h
  · have hnone : line.toList = [] ∨ line.toList.head? = some '#' :=
      hcomment.imp (fun hempty => by rw [hempty]; rfl) id
    have hroot : rebased [] line.toList = line := String.ofList_toList
    have hown : ofLine (rebased [] line.toList) = .ok none := no_rule hnone
    rw [hroot] at hown
    exact .inl ⟨hown, no_rule hnone⟩
  · obtain hnone | hrules | hfaults := ofLine_rebased hat hne h
    · exact .inl hnone
    · exact .inr (.inl ⟨h, hrules⟩)
    · exact .inr (.inr hfaults)

end Rule

/-! ### Matchers of one line -/

namespace Matcher

/-- What a matcher says about a path, as a file or as a folder: whether it is ignored, or
nothing. -/
def verdict? (m : Matcher) (p : Path) (isFolder : Bool) : Option Bool :=
  m.verdict (p.written isFolder)

variable {reader : RuleReader}

theorem ofLines_singleton (hreader : reader.AsDocumented) (line : String) :
    ofLines reader [line] = (Rule.ofLine line).map fun r => ofRules [line] r.toList := by
  rw [hreader.ofLines_eq, Rule.ofLines, Rule.ofLines]
  cases Rule.ofLine line with
  | error f => rfl
  | ok r => cases r <;> rfl

theorem extend_singleton (hreader : reader.AsDocumented) (at_ : Path) (line : String) :
    extend (ofRules [] []) reader [line] at_.text =
      (Rule.ofLine (Rule.rebased at_ line.toList)).map fun r =>
        ofRules [Rule.rebased at_ line.toList] r.toList :=
  ofLines_singleton hreader (Rule.rebased at_ line.toList)

/-- What the rule on a line says of a path, by how it applies to it. -/
theorem verdict?_ofRules (lines : List String) (r : Option Rule) {p : Path} (hp : p.Named)
    (hne : p ≠ []) (isFolder : Bool) :
    (ofRules lines r.toList).verdict? p isFolder = r.bind fun r =>
      if (r.hit? (p.written isFolder)).isSome then some !r.negated else none := by
  rw [verdict?, verdict_ofRules lines _ hp hne, Rule.verdict?_toList]

variable {at_ : Path} {line : String}

/-- **Rules of nested ignore files.**  The reader of ignore files goes by the documented rules.  In
the ignore file of a folder, a line that keeps its meaning there is a pattern when it is one on its
own; then it says nothing of any path that is not below the folder, and of a path below it what the
line itself says of the rest of that path. -/
theorem nested_verdicts (hreader : reader.AsDocumented) (hat : at_.Named) (hne : at_ ≠ [])
    (h : line = "" ∨ line.toList.head? = some '#' ∨ Rule.KeepsMeaning at_ line.toList) :
    ((∃ m, ofLines reader [line] = .ok m) ↔
        ∃ m, extend (ofRules [] []) reader [line] at_.text = .ok m) ∧
      ∀ own nested, ofLines reader [line] = .ok own →
        extend (ofRules [] []) reader [line] at_.text = .ok nested →
        ∀ (p : Path) (isFolder : Bool), p.Named → p ≠ [] →
          (¬ (at_ <+: p ∧ at_ ≠ p) → nested.verdict? p isFolder = none) ∧
            ((isFolder = true ∨ ∃ c ∈ p.text.toList, c ≠ '\n') →
              nested.verdict? (at_ ++ p) isFolder = own.verdict? p isFolder) := by
  rw [ofLines_singleton hreader, extend_singleton hreader]
  obtain ⟨hown, hnested⟩ | ⟨h, r, r', hown, hnested⟩ | ⟨⟨f, hown⟩, f', hnested⟩ :=
    Rule.ofLine_nested hat hne h
  · rw [hown, hnested]
    refine ⟨⟨fun _ => ⟨_, rfl⟩, fun _ => ⟨_, rfl⟩⟩, ?_⟩
    intro own nested hown hnested p isFolder hp hpne
    cases hown
    cases hnested
    have hlonger : at_ ++ p ≠ [] := by simp [hne]
    rw [verdict?_ofRules _ none hp hpne, verdict?_ofRules _ none (Path.Named.append hat hp) hlonger]
    exact ⟨fun _ => rfl, fun _ => rfl⟩
  · have hnegated := Rule.negated_rebased hat hne h.toPrefixed hown hnested
    rw [hown, hnested]
    refine ⟨⟨fun _ => ⟨_, rfl⟩, fun _ => ⟨_, rfl⟩⟩, ?_⟩
    intro own nested hown' hnested' p isFolder hp hpne
    cases hown'
    cases hnested'
    have hlonger : at_ ++ p ≠ [] := by simp [hne]
    constructor
    · intro hbelow
      have hhit : ¬ (r'.hit? (p.written isFolder)).isSome := fun hhit =>
        hbelow (Rule.prefix_of_hit_below hat hne h.toPrefixed hnested hp isFolder hhit)
      rw [verdict?_ofRules _ (some r') hp hpne, Option.bind_some, if_neg hhit]
    · intro hfeeds
      rw [verdict?_ofRules _ (some r) hp hpne,
        verdict?_ofRules _ (some r') (Path.Named.append hat hp) hlonger, Option.bind_some,
        Option.bind_some, hnegated,
        Rule.isSome_hit_rebased hat hne h.toPrefixed h.spaced hown hnested hp hpne hfeeds]
  · rw [hown, hnested]
    refine ⟨⟨?_, ?_⟩, ?_⟩
    · rintro ⟨m, hm⟩
      cases hm
    · rintro ⟨m, hm⟩
      cases hm
    · intro own nested hm
      cases hm

/-- Lines that are patterns can be read to the end. -/
theorem eq_ok_of_isSome {x : Except PatternFault Matcher} (h : x.toOption.isSome = true) :
    x = .ok (x.toOption.getD (ofRules [] [])) := by
  cases x with
  | error f => cases h
  | ok m => rfl

/-- The line for folders of results keeps its meaning below a package: it ignores them at any depth
there, and nothing outside. -/
theorem nested_verdicts_build :
    Path.Named ["pkg"] ∧ Rule.KeepsMeaning ["pkg"] "build/".toList ∧
      ∃ own nested, ofLines .documented ["build/"] = .ok own ∧
        extend (ofRules [] []) .documented ["build/"] "pkg" = .ok nested ∧
        nested.ignores "pkg/sub/build" true = true ∧
        nested.verdict? ["sub", "build"] true = none := by
  have hat : Path.Named ["pkg"] := by decide
  have hkeeps : Rule.KeepsMeaning ["pkg"] "build/".toList :=
    { literal := by decide
      unsigned := by decide
      rewritten := by decide +kernel
      mentions := by decide +kernel
      uncommented := by decide
      spaced := by decide +kernel }
  have hown := eq_ok_of_isSome (x := ofLines .documented ["build/"]) (by decide +kernel)
  obtain ⟨hread, hsays⟩ := nested_verdicts RuleReader.documented_asDocumented hat (by decide)
    (.inr (.inr hkeeps))
  obtain ⟨nested, hnested⟩ := hread.mp ⟨_, hown⟩
  have hverdicts := hsays _ _ hown hnested ["sub", "build"] true (by decide) (by decide)
  refine ⟨hat, hkeeps, _, nested, hown, hnested, ?_, hverdicts.1 (by decide)⟩
  have hbelow : nested.verdict? ["pkg", "sub", "build"] true = some true := by
    refine (hverdicts.2 (.inl rfl)).trans ?_
    decide +kernel
  refine (nested.ignores_written (p := ["pkg", "sub", "build"]) (by decide) (by decide)
    true).trans ?_
  rw [← verdict?]
  rw [hbelow]
  rfl

/-- A line of blanks says nothing, but below a folder it ignores everything there; a lone slash
says nothing, but in a folder it ignores the folder itself. -/
theorem nested_verdicts_blank :
    (∃ own nested, ofLines .documented ["  "] = .ok own ∧
        extend (ofRules [] []) .documented ["  "] "d" = .ok nested ∧
        own.verdict? ["a"] true = none ∧ nested.verdict? ["d", "a"] true = some true) ∧
      ∃ own nested, ofLines .documented ["/"] = .ok own ∧
        extend (ofRules [] []) .documented ["/"] "d" = .ok nested ∧
        own.verdict? ["d"] true = none ∧ nested.verdict? ["d"] true = some true := by
  refine ⟨⟨_, _, eq_ok_of_isSome ?_, eq_ok_of_isSome ?_, ?_, ?_⟩,
    _, _, eq_ok_of_isSome ?_, eq_ok_of_isSome ?_, ?_, ?_⟩
  all_goals decide +kernel

end Matcher

end Marginalia
