/-
Which folders the lines of an ignore file are about.

A line of the ignore file in a folder is rewritten with the path of the folder in front.  When the
names of the path stand for themselves, whatever the rule hits has the folder in front; and it is
below the folder, not the folder itself, when some name of the pattern asks for a character.

* `Rule.ofLine_cases` — whether there is a rule on a line is decided by the names in it;
* `Rule.Prefixed`, `Rule.Scoped` — lines that a path can stand in front of;
* `Rule.segments_rebased`, `Rule.names_rebased` — the names of such a line with the path in front;
* `Rule.exists_ofLine_below` — it is a pattern with the path in front if it is one without it;
* `Rule.prefix_of_hit_below` — and what it hits is below its own folder.
-/
import Marginalia.Proofs.DottedName
import Marginalia.Proofs.PatternSteps

namespace Marginalia

/-! ### Splitting at slashes -/

/-- The names of a path, in front of what is written behind it. -/
theorem splitChars_text {p : Path} (hp : p.Named) (hne : p ≠ []) (rest : List Char) :
    splitChars '/' (p.text.toList ++ '/' :: rest) =
      p.map String.toList ++ splitChars '/' rest := by
  induction p with
  | nil => exact absurd rfl hne
  | cons n p ih =>
    have hn := (hp n List.mem_cons_self).noSlash
    cases p with
    | nil =>
      rw [Path.text_toList]
      simpa using Dotted.splitChars_append hn rest
    | cons m p =>
      rw [Path.text_cons_cons, List.append_assoc, List.cons_append, Dotted.splitChars_append hn,
        ih (fun x hx => hp x (List.mem_cons_of_mem n hx)) (List.cons_ne_nil m p)]
      rfl

namespace Rule

/-! ### Signs in front of a pattern -/

@[simp] theorem isBlank_space : isBlank ' ' = true := by cbv

@[simp] theorem isBlank_slash : isBlank '/' = false := by cbv

@[simp] theorem isBlank_negation : isBlank '!' = false := by cbv

@[simp] theorem isBlank_comment : isBlank '#' = false := by cbv

/-- Blanks are taken off the end of what stands behind a character that is neither blank nor a
backslash. -/
theorem trimmed_append {c : Char} (hblank : isBlank c = false) (hescape : c ≠ '\\')
    (front behind : List Char) :
    trimmed (front ++ c :: behind) = front ++ c :: trimmed behind := by
  have hspace : c ≠ ' ' := by
    rintro rfl
    rw [isBlank_space] at hblank
    cases hblank
  have hturned : (front ++ c :: behind).reverse = behind.reverse ++ c :: front.reverse := by
    simp
  have hsuffix : ['\\', ' '].isSuffixOf (front ++ c :: behind) =
      ['\\', ' '].isSuffixOf behind := by
    rw [List.isSuffixOf, List.isSuffixOf, hturned]
    -- the escaped blank has two characters, and the one in front is neither of them
    match behind.reverse with
    | [] => simp [List.isPrefixOf, hspace.symm]
    | [d] => simp [List.isPrefixOf, hescape.symm]
    | d :: e :: _ => simp [List.isPrefixOf]
  have hdrop (front' : List Char) : ∀ ds : List Char,
      (ds ++ c :: front').dropWhile isBlank = ds.dropWhile isBlank ++ c :: front' := by
    intro ds
    induction ds with
    | nil => simp [hblank]
    | cons d ds ih =>
      rw [List.cons_append, List.dropWhile_cons, List.dropWhile_cons, ih]
      split <;> rfl
  rw [trimmed, trimmed, hsuffix]
  split
  · rfl
  · rw [hturned, hdrop]
    simp

theorem trimmed_prefix (cs : List Char) : trimmed cs <+: cs := by
  rw [trimmed]
  split
  · exact List.prefix_rfl
  · simpa using List.reverse_prefix.mpr (List.dropWhile_suffix isBlank (l := cs.reverse))

/-- Blanks at the end are not taken for what is at the start. -/
theorem head_trimmed_ne {c : Char} {cs : List Char} (h : cs.head? ≠ some c) :
    (trimmed cs).head? ≠ some c := by
  intro hhead
  obtain ⟨behind, hbehind⟩ := trimmed_prefix cs
  obtain ⟨rest, hrest⟩ := List.head?_eq_some_iff.mp hhead
  rw [← hbehind, hrest] at h
  exact h rfl

/-- A text without a sign in front. -/
def without (sign : Char) (cs : List Char) : List Char :=
  if cs.head? == some sign then cs.drop 1 else cs

theorem without_cons (sign : Char) (cs : List Char) : without sign (sign :: cs) = cs := by
  rw [without, List.head?_cons, if_pos (beq_self_eq_true _), List.drop_one, List.tail_cons]

theorem without_of_ne {sign : Char} {cs : List Char} (h : cs.head? ≠ some sign) :
    without sign cs = cs := by
  rw [without, if_neg (by simpa using h)]

/-- Blanks at the end make no difference to the sign in front. -/
theorem without_trimmed {sign : Char} (hblank : isBlank sign = false) (hescape : sign ≠ '\\')
    (cs : List Char) : without sign (trimmed cs) = trimmed (without sign cs) := by
  by_cases hsign : cs.head? = some sign
  · obtain ⟨rest, rfl⟩ := List.head?_eq_some_iff.mp hsign
    have htrimmed := trimmed_append hblank hescape [] rest
    rw [List.nil_append, List.nil_append] at htrimmed
    rw [htrimmed, without_cons, without_cons]
  · rw [without_of_ne hsign, without_of_ne (head_trimmed_ne hsign)]

/-- What a line is about: without the sign of a negated one, the slash that ties it to its folder,
and blanks at the end. -/
def body (line : List Char) : List Char := without '/' (without '!' (trimmed line))

theorem body_eq (line : List Char) : body line = trimmed (without '/' (without '!' line)) := by
  rw [body, without_trimmed isBlank_negation (by decide),
    without_trimmed isBlank_slash (by decide)]

/-! ### Rules on lines -/

section

variable {line : String}

/-- The names in a line, as they are written. -/
def segments (line : String) : List (List Char) :=
  splitChars '/' (without '!' (trimmed line.toList))

/-- Whether a line is tied to its folder by a slash in front. -/
def tied (line : List Char) : Bool := (without '!' line).head? == some '/'

/-- The slash in front of a line is about no name. -/
theorem segments_eq (line : String) :
    segments line = (if tied line.toList then [[]] else []) ++
      splitChars '/' (body line.toList) := by
  rw [segments, body, without_trimmed isBlank_negation (by decide), tied]
  by_cases hslash : (without '!' line.toList).head? = some '/'
  · obtain ⟨rest, hrest⟩ := List.head?_eq_some_iff.mp hslash
    have htrimmed := trimmed_append isBlank_slash (by decide) [] rest
    rw [List.nil_append, List.nil_append] at htrimmed
    rw [hrest, htrimmed, without_cons, Dotted.splitChars_cons]
    rfl
  · rw [without_of_ne (head_trimmed_ne hslash), if_neg (by simpa using hslash), List.nil_append]

theorem ofLine_eq (line : String) :
    ofLine line =
      if (trimmed line.toList).isEmpty || (trimmed line.toList).head? == some '#' then .ok none
      else if without '!' (trimmed line.toList) == ['/'] then .ok none
      else if (Rule.names (segments line)).isEmpty then .error (.malformed line)
      else match shapeOf ((segments line).getLast? == some []) (Rule.names (segments line)) with
        | .error .unclosed => .ok none
        | .error .dangling => .error (.malformed line)
        | .ok shape => match rangeFault? shape with
          | some f => .error f
          | none => .ok (some ⟨(trimmed line.toList).head? == some '!', shape⟩) := by
  rw [ofLine]
  rfl

/-- A rule has the shape of the names in its line, and its sign. -/
theorem shape_of_ofLine {r : Rule} (h : ofLine line = .ok (some r)) :
    shapeOf ((segments line).getLast? == some []) (Rule.names (segments line)) = .ok r.shape ∧
      r.negated = ((trimmed line.toList).head? == some '!') := by
  rw [ofLine_eq] at h
  split at h
  · cases h
  split at h
  · cases h
  split at h
  · cases h
  split at h
  · cases h
  · cases h
  · rename_i shape hshape
    split at h
    · cases h
    · cases h
      exact ⟨hshape, rfl⟩

/-- Whether a line is more than blanks and a sign, a comment, or a lone slash. -/
structure Telling (line : String) : Prop where
  no_comment : ((trimmed line.toList).isEmpty || (trimmed line.toList).head? == some '#') = false
  no_slash : without '!' (trimmed line.toList) ≠ ['/']
  names_ne_nil : Rule.names (segments line) ≠ []

/-- Such a line holds no rule for an opening bracket that is not closed, a rule when there are no
mistakes in it, and is no pattern else. -/
theorem ofLine_cases (h : Telling line) :
    (segments line).findSome? nameFault? = some .unclosed ∧ ofLine line = .ok none ∨
      ((segments line).findSome? nameFault? = none ∧
        (segments line).findSome? nameRange? = none) ∧ (∃ r, ofLine line = .ok (some r)) ∨
      ¬ Sound (segments line) ∧ ∃ f, ofLine line = .error f := by
  rw [← sound_names, Sound, ← findSome?_names nameFault?_anyFolders nameFault?_nil,
    ← findSome?_names nameRange?_anyFolders nameRange?_nil, ofLine_eq, h.no_comment,
    if_neg Bool.false_ne_true, if_neg (by simpa using h.no_slash),
    if_neg (by simpa using h.names_ne_nil)]
  cases hfaults : (Rule.names (segments line)).findSome? nameFault? with
  | some f =>
    rw [shapeOf_error hfaults]
    cases f with
    | unclosed => exact .inl ⟨rfl, rfl⟩
    | dangling => exact .inr (.inr ⟨by simp, _, rfl⟩)
  | none =>
    obtain ⟨shape, hshape, hrange⟩ := exists_shapeOf hfaults
    rw [hshape]
    dsimp only
    right
    cases hrangeFault : rangeFault? shape with
    | none => exact .inl ⟨⟨rfl, hrange.mp hrangeFault⟩, _, rfl⟩
    | some f =>
      refine .inr ⟨?_, _, rfl⟩
      rintro (hunclosed | ⟨-, hnone⟩)
      · cases hunclosed
      · rw [hrange.mpr hnone] at hrangeFault
        cases hrangeFault

/-- A line that asks for a character and is no comment tells something. -/
theorem telling_of_mentions (hmentions : ∃ s ∈ splitChars '/' (body line.toList), Mentions s = true)
    (hcomment : line.toList.head? ≠ some '#') : Telling line := by
  have hbody : body line.toList ≠ [] := by
    intro hempty
    rw [hempty] at hmentions
    exact absurd hmentions (by decide)
  refine ⟨?_, ?_, ?_⟩
  · rw [Bool.or_eq_false_iff]
    refine ⟨?_, by simpa using head_trimmed_ne hcomment⟩
    rw [List.isEmpty_eq_false_iff]
    intro hempty
    rw [body, hempty] at hbody
    exact hbody rfl
  · intro hslash
    rw [body, hslash] at hbody
    exact hbody rfl
  · have hsegments : ∃ s ∈ segments line, Mentions s = true := by
      obtain ⟨s, hs, hmentions⟩ := hmentions
      refine ⟨s, ?_, hmentions⟩
      rw [segments_eq]
      exact List.mem_append_right _ hs
    obtain ⟨s, hs, -⟩ := mentions_collapse (mentions_closed (mentions_opened hsegments))
    rw [names_eq]
    exact List.ne_nil_of_mem hs

/-- A line that is a pattern and asks for a character has names without mistakes. -/
theorem sound_of_ofLine {r : Option Rule} (h : ofLine line = .ok r)
    (hmentions : ∃ s ∈ splitChars '/' (body line.toList), Mentions s = true)
    (hcomment : line.toList.head? ≠ some '#') : Sound (segments line) := by
  obtain ⟨hunclosed, -⟩ | ⟨hsound, -⟩ | ⟨-, f, hf⟩ :=
    ofLine_cases (telling_of_mentions hmentions hcomment)
  · exact .inl hunclosed
  · exact .inr hsound
  · rw [h] at hf
    cases hf

/-- A line that names without mistakes stand on is a pattern. -/
theorem exists_ofLine (hnames : Rule.names (segments line) ≠ [])
    (hsound : Sound (segments line)) : ∃ r, ofLine line = .ok r := by
  rw [← sound_names] at hsound
  rw [ofLine_eq]
  split
  · exact ⟨none, rfl⟩
  split
  · exact ⟨none, rfl⟩
  rw [if_neg (by simpa using hnames)]
  obtain hunclosed | ⟨hfaults, hranges⟩ := hsound
  · rw [shapeOf_error hunclosed]
    exact ⟨none, rfl⟩
  · obtain ⟨shape, hshape, hrange⟩ := exists_shapeOf hfaults
    rw [hshape]
    dsimp only
    rw [hrange.mpr hranges]
    exact ⟨_, rfl⟩

end

/-! ### Lines below a folder -/

/-- Whether a line stays as it is wherever it stands: a comment, and some that look like one. -/
def staysAsIs (line : List Char) : Bool :=
  (line.dropWhile isBlank).head? == some '#' ||
    (['\\', '!'].isPrefixOf line || ['\\', '#'].isPrefixOf line)

/-- Whether the rule on a line in a folder is about what is below the folder only.  The path has
no characters with a meaning of their own, the line is one that the path is put in front of, and
some name in it asks for a character. -/
structure PutBelow (at_ : Path) (line : List Char) : Prop where
  literal : ∀ n ∈ at_, Literal n.toList
  unsigned : at_.text.toList.head? ≠ some '!'
  rewritten : staysAsIs line = false
  mentions : ∃ s ∈ splitChars '/' (body line), Mentions s = true

instance (at_ : Path) (line : List Char) : Decidable (PutBelow at_ line) :=
  decidable_of_iff
    ((∀ n ∈ at_, Literal n.toList) ∧ at_.text.toList.head? ≠ some '!' ∧ staysAsIs line = false ∧
      ∃ s ∈ splitChars '/' (body line), Mentions s = true)
    ⟨fun h => ⟨h.1, h.2.1, h.2.2.1, h.2.2.2⟩,
      fun h => ⟨h.literal, h.unsigned, h.rewritten, h.mentions⟩⟩

/-- Whether the rule on a line in a folder, if there is one, is about what is below the folder. -/
def Scoped (at_ : Path) (line : List Char) : Prop :=
  at_ = [] ∨ line = [] ∨ line.head? = some '#' ∨ PutBelow at_ line

instance (at_ : Path) (line : List Char) : Decidable (Scoped at_ line) :=
  inferInstanceAs (Decidable (at_ = [] ∨ line = [] ∨ line.head? = some '#' ∨ PutBelow at_ line))

/-- The sign of a negated line. -/
def sign (line : List Char) : List Char := if line.head? == some '!' then ['!'] else []

/-- Whether a text is a name on its own, with or without slashes at its end. -/
def loneName (cs : List Char) : Bool := !(cs.reverse.dropWhile (· == '/')).contains '/'

/-- Whether a line is looked for in any folder below its own. -/
def floating (line : List Char) : Bool := !tied line && loneName (without '/' (without '!' line))

/-- The path is put in front of what a line is about, behind the signs of the line; a name on its
own is looked for in any folder. -/
theorem rebase_eq {base line : List Char} (hbase : base ≠ []) (hline : line ≠ [])
    (hstays : staysAsIs line = false) (hbody : without '/' (without '!' line) ≠ []) :
    Matcher.rebase base line =
      sign line ++ ((if tied line then ['/'] else []) ++
        (base ++ ((if floating line then ['/', '*', '*'] else []) ++
          '/' :: without '/' (without '!' line)))) := by
  obtain ⟨hcomment, hescaped⟩ := Bool.or_eq_false_iff.mp hstays
  rw [Matcher.rebase, if_neg (by simp [hbase, hline, hcomment]), hescaped,
    if_neg Bool.false_ne_true, floating, loneName, tied, sign]
  generalize hpattern : without '!' line = pattern at hbody ⊢
  generalize hbehind : without '/' pattern = behind at hbody ⊢
  rw [without] at hpattern hbehind
  dsimp only
  rw [hpattern, hbehind]
  generalize (!(behind.reverse.dropWhile (· == '/')).contains '/') = isName
  cases line.head? == some '!' <;> cases pattern.head? == some '/' <;> cases isName <;>
    simp [hbody]

/-- Whether a path stays a path in front of a line: its names stand for themselves, and it is not
taken for the sign of a negated line; the line is one that the path is put in front of, and some
name in it asks for a character. -/
structure Prefixed (at_ : Path) (line : List Char) : Prop where
  literal : ∀ n ∈ at_, Literal n.toList
  unsigned : at_.text.toList.head? = some '!' → sign line = ['!'] ∨ tied line = true
  rewritten : staysAsIs line = false
  mentions : ∃ s ∈ splitChars '/' (body line), Mentions s = true

variable {at_ : Path} {line : List Char}

theorem PutBelow.prefixed (h : PutBelow at_ line) : Prefixed at_ line :=
  ⟨h.literal, fun hsign => absurd hsign h.unsigned, h.rewritten, h.mentions⟩

/-- The line of an ignore file in a folder, with the path of the folder. -/
def rebased (at_ : Path) (line : List Char) : String :=
  String.ofList (Matcher.rebase at_.text.toList line)

theorem Prefixed.body_ne_nil (h : Prefixed at_ line) : body line ≠ [] := by
  intro hempty
  have hmentions := h.mentions
  rw [hempty] at hmentions
  exact absurd hmentions (by decide)

/-- The line with the path in front, without blanks at the end. -/
theorem trimmed_rebased (hat : at_.Named) (hne : at_ ≠ []) (h : Prefixed at_ line) :
    trimmed (rebased at_ line).toList =
      sign line ++ ((if tied line then ['/'] else []) ++
        (at_.text.toList ++ ((if floating line then ['/', '*', '*'] else []) ++
          '/' :: body line))) := by
  have hbody : without '/' (without '!' line) ≠ [] := by
    intro hempty
    apply h.body_ne_nil
    rw [body_eq, hempty]
    rfl
  have hline : line ≠ [] := by
    rintro rfl
    exact hbody rfl
  rw [rebased, String.toList_ofList, rebase_eq (Path.text_ne_nil hat hne) hline h.rewritten hbody,
    body_eq]
  simpa using trimmed_append isBlank_slash (by decide)
    (sign line ++ ((if tied line then ['/'] else []) ++ (at_.text.toList ++
      (if floating line then ['/', '*', '*'] else [])))) (without '/' (without '!' line))

theorem sign_cases (line : List Char) :
    sign line = ['!'] ∧ line.head? = some '!' ∨ sign line = [] ∧ line.head? ≠ some '!' := by
  rw [sign]
  by_cases hsign : line.head? = some '!'
  · exact .inl ⟨if_pos (by simpa using hsign), hsign⟩
  · exact .inr ⟨if_neg (by simpa using hsign), hsign⟩

/-- In front of the path stands a slash, or its own first character. -/
theorem head_front_ne (hat : at_.Named) (hne : at_ ≠ []) {c : Char} (hc : c ≠ '/')
    (h : at_.text.toList.head? = some c → tied line = true) (rest : List Char) :
    ((if tied line then ['/'] else []) ++ (at_.text.toList ++ rest)).head? ≠ some c := by
  by_cases htied : tied line = true
  · rw [if_pos htied]
    simpa using hc.symm
  · rw [if_neg htied, List.nil_append, List.head?_append_of_ne_nil _ (Path.text_ne_nil hat hne)]
    exact fun hhead => htied (h hhead)

/-- And without the sign of a negated line. -/
theorem unsigned_rebased (hat : at_.Named) (hne : at_ ≠ []) (h : Prefixed at_ line) :
    without '!' (trimmed (rebased at_ line).toList) =
      (if tied line then ['/'] else []) ++ (at_.text.toList ++
        ((if floating line then ['/', '*', '*'] else []) ++ '/' :: body line)) := by
  rw [trimmed_rebased hat hne h]
  obtain ⟨hsign, -⟩ | ⟨hsign, -⟩ := sign_cases line
  · rw [hsign]
    exact without_cons '!' _
  · rw [hsign, List.nil_append]
    refine without_of_ne (head_front_ne hat hne (by decide) (fun hhead => ?_) _)
    exact (h.unsigned hhead).resolve_left (by simp [hsign])

/-- The names of a line with a path in front: those of the path, and those of the line. -/
theorem segments_rebased (hat : at_.Named) (hne : at_ ≠ []) (h : Prefixed at_ line) :
    segments (rebased at_ line) =
      (if tied line then [[]] else []) ++ (at_.map String.toList ++
        ((if floating line then [anyFolders] else []) ++ splitChars '/' (body line))) := by
  have hsegments : splitChars '/' (at_.text.toList ++
      ((if floating line then ['/', '*', '*'] else []) ++ '/' :: body line)) =
        at_.map String.toList ++
          ((if floating line then [anyFolders] else []) ++ splitChars '/' (body line)) := by
    by_cases hfloating : floating line = true
    · have hstars : splitChars '/' (anyFolders ++ '/' :: body line) =
          anyFolders :: splitChars '/' (body line) := Dotted.splitChars_append (by decide) _
      rw [if_pos hfloating, if_pos hfloating]
      exact (splitChars_text hat hne _).trans (congrArg _ hstars)
    · rw [if_neg hfloating, if_neg hfloating]
      exact splitChars_text hat hne _
  rw [segments, unsigned_rebased hat hne h]
  by_cases htied : tied line = true
  · rw [if_pos htied, if_pos htied, List.singleton_append, Dotted.splitChars_cons, hsegments]
    rfl
  · rw [if_neg htied, if_neg htied, List.nil_append, hsegments]
    rfl

/-- The names in a line, as they are looked for below its folder. -/
def namesBelow (line : List Char) : List (List Char) :=
  collapse (closed ((if floating line then [anyFolders] else []) ++ splitChars '/' (body line)))

/-- The names of the path stay in front, and one of those behind them asks for a character. -/
theorem names_rebased (hat : at_.Named) (hne : at_ ≠ []) (h : Prefixed at_ line) :
    Rule.names (segments (rebased at_ line)) = at_.map String.toList ++ namesBelow line ∧
      ∃ s ∈ namesBelow line, Mentions s = true := by
  have hmentions : ∃ s ∈ (if floating line then [anyFolders] else []) ++ splitChars '/' (body line),
      Mentions s = true := by
    obtain ⟨s, hs, hmentions⟩ := h.mentions
    exact ⟨s, List.mem_append_right _ hs, hmentions⟩
  obtain ⟨n, q, rfl⟩ := List.exists_cons_of_ne_nil hne
  have hliteral := h.literal
  rw [List.forall_mem_cons] at hliteral
  have hbelow : ∀ s ∈ q.map String.toList, Literal s := by simpa using hliteral.2
  obtain ⟨hnames, hnames'⟩ := names_below hliteral.1 hbelow hmentions
  refine ⟨?_, mentions_collapse (mentions_closed hmentions)⟩
  rw [segments_rebased hat hne h]
  by_cases htied : tied line = true
  · rw [if_pos htied]
    exact hnames'
  · rw [if_neg htied]
    exact hnames

/-- The sign and the slash in front of a line are no names. -/
theorem findSome?_segments {β : Type} {f : List Char → Option β} (hnil : f [] = none)
    (line : String) :
    (segments line).findSome? f = (splitChars '/' (body line.toList)).findSome? f := by
  rw [segments_eq, List.findSome?_append]
  cases tied line.toList <;> simp [hnil]

/-- Nor do the names of the path matter to questions about those of the line. -/
theorem findSome?_rebased (hat : at_.Named) (hne : at_ ≠ []) (h : Prefixed at_ line) {β : Type}
    {f : List Char → Option β} (hnil : f [] = none) (hany : f anyFolders = none)
    (hliteral : ∀ s, Literal s → f s = none) :
    (segments (rebased at_ line)).findSome? f = (splitChars '/' (body line)).findSome? f := by
  have hpath : (at_.map String.toList).findSome? f = none := by
    rw [List.findSome?_eq_none_iff]
    intro s hs
    obtain ⟨n, hn, rfl⟩ := List.mem_map.mp hs
    exact hliteral _ (h.literal n hn)
  rw [segments_rebased hat hne h, List.findSome?_append, List.findSome?_append,
    List.findSome?_append, hpath]
  cases tied line <;> cases floating line <;> simp [hnil, hany]

/-- A line is without mistakes where it stands when it is below the path. -/
theorem sound_rebased (hat : at_.Named) (hne : at_ ≠ []) (h : Prefixed at_ line) :
    Sound (segments (rebased at_ line)) ↔ Sound (segments (String.ofList line)) := by
  -- the names of the path have no mistakes, so that those of the line are left
  rw [Sound, Sound,
    findSome?_rebased hat hne h nameFault?_nil nameFault?_anyFolders fun _ hs => hs.no_mistake.1,
    findSome?_rebased hat hne h nameRange?_nil nameRange?_anyFolders fun _ hs => hs.no_mistake.2,
    findSome?_segments nameFault?_nil, findSome?_segments nameRange?_nil, String.toList_ofList]

/-- The line that the path is put in front of is no comment. -/
theorem Prefixed.no_comment (h : Prefixed at_ line) : line.head? ≠ some '#' := by
  intro hhead
  obtain ⟨rest, rfl⟩ := List.head?_eq_some_iff.mp hhead
  have hdrop : ('#' :: rest).dropWhile isBlank = '#' :: rest :=
    List.dropWhile_cons_of_neg (by simp)
  have hstays := h.rewritten
  rw [staysAsIs, hdrop] at hstays
  cases hstays

/-- A line that is put below a folder is a pattern with the path in front if it is one
without it. -/
theorem exists_ofLine_below (hat : at_.Named) (hne : at_ ≠ []) (h : Prefixed at_ line)
    {r : Option Rule} (hline : ofLine (String.ofList line) = .ok r) :
    ∃ r, ofLine (rebased at_ line) = .ok r := by
  obtain ⟨hnames, -⟩ := names_rebased hat hne h
  have hwritten : (String.ofList line).toList = line := String.toList_ofList
  have hsound : Sound (segments (String.ofList line)) :=
    sound_of_ofLine hline (by rw [hwritten]; exact h.mentions)
      (by rw [hwritten]; exact h.no_comment)
  -- the path in front brings no mistakes into the line
  refine exists_ofLine ?_ ((sound_rebased hat hne h).mpr hsound)
  rw [hnames]
  simp [hne]

/-- What its rule hits has the path in front, and more behind the next slash. -/
theorem text_of_hit_rebased (hat : at_.Named) (hne : at_ ≠ []) (h : Prefixed at_ line) {r : Rule}
    (hrule : ofLine (rebased at_ line) = .ok (some r)) {path : List Char}
    (hhit : (r.hit? path).isSome) : ∃ c cs, path = at_.folderText ++ c :: cs := by
  obtain ⟨hshape, -⟩ := shape_of_ofLine hrule
  obtain ⟨hnames, hmentions⟩ := names_rebased hat hne h
  obtain ⟨n, q, rfl⟩ := List.exists_cons_of_ne_nil hne
  have hliteral := h.literal
  rw [List.forall_mem_cons] at hliteral
  have hbelow : ∀ s ∈ q.map String.toList, Literal s := by simpa using hliteral.2
  -- the first name stands for itself, so the rule is not looked for in any folder
  have hhead : ((n :: q).map String.toList ++ namesBelow line).head? ≠ some anyFolders :=
    fun hany => hliteral.1.ne_anyFolders (Option.some.inj hany)
  rw [hnames, shapeOf_of_head hhead] at hshape
  obtain ⟨⟨ss, e⟩, hsteps, hshape⟩ := exists_of_map_eq_ok hshape
  rw [hit?, ← hshape] at hhit
  obtain ⟨c, cs, hpath⟩ := text_of_hit hliteral.1 hbelow hmentions hsteps hhit
  exact ⟨c, cs, by rw [hpath, Path.folderText_eq]; simp⟩

/-- What its rule hits is below the folder. -/
theorem prefix_of_hit_below (hat : at_.Named) (hne : at_ ≠ []) (h : Prefixed at_ line) {r : Rule}
    (hrule : ofLine (rebased at_ line) = .ok (some r)) {p : Path} (hp : p.Named) (isFolder : Bool)
    (hhit : (r.hit? (p.written isFolder)).isSome) : at_ <+: p ∧ at_ ≠ p := by
  obtain ⟨c, cs, hpath⟩ := text_of_hit_rebased hat hne h hrule hhit
  cases isFolder with
  | true =>
    have hpath : p.folderText = at_.folderText ++ c :: cs := hpath
    refine ⟨Path.prefix_of_folderText hat hp ⟨c :: cs, hpath.symm⟩, ?_⟩
    rintro rfl
    simp at hpath
  | false =>
    have hpath : p.text.toList = at_.folderText ++ c :: cs := hpath
    have hpne : p ≠ [] := by
      rintro rfl
      simp [Path.text_toList] at hpath
    have hfolder : p.folderText = at_.folderText ++ (c :: cs ++ ['/']) := by
      rw [← Path.text_slash hpne, hpath, List.append_assoc]
    refine ⟨Path.prefix_of_folderText hat hp ⟨_, hfolder.symm⟩, ?_⟩
    rintro rfl
    simp at hfolder

/-- There is no rule on an empty line or a comment, and it stays as it is wherever it stands. -/
theorem no_rule (h : line = [] ∨ line.head? = some '#') :
    ofLine (rebased at_ line) = .ok none := by
  have hstays : Matcher.rebase at_.text.toList line = line := by
    obtain rfl | hcomment := h
    · rw [Matcher.rebase, if_pos (by simp)]
    · obtain ⟨rest, rfl⟩ := List.head?_eq_some_iff.mp hcomment
      have hdrop : ('#' :: rest).dropWhile isBlank = '#' :: rest :=
        List.dropWhile_cons_of_neg (by simp)
      rw [Matcher.rebase, if_pos (by simp [hdrop])]
  have hnone : (trimmed line).isEmpty || (trimmed line).head? == some '#' := by
    obtain rfl | hcomment := h
    · rfl
    · obtain ⟨rest, rfl⟩ := List.head?_eq_some_iff.mp hcomment
      have htrimmed := trimmed_append isBlank_comment (by decide) [] rest
      rw [List.nil_append, List.nil_append] at htrimmed
      simp [htrimmed]
  rw [rebased, hstays, ofLine_eq, String.toList_ofList, if_pos hnone]

/-- A scoped line of an ignore file in a folder is a pattern with the path in front if it is one
without it, and the folders that its rule hits are below the folder. -/
theorem scoped_rebased (hat : at_.Named) (h : Scoped at_ line) {r : Option Rule}
    (hline : ofLine (String.ofList line) = .ok r) :
    ∃ r, ofLine (rebased at_ line) = .ok r ∧
      ∀ rule ∈ r, ∀ p : Path, p.Named → p ≠ [] → (rule.hit? p.folderText).isSome →
        at_ <+: p ∧ at_ ≠ p := by
  by_cases hne : at_ = []
  · -- at the root nothing is put in front
    subst hne
    have hrebased : rebased [] line = String.ofList line := by
      rw [rebased, Matcher.rebase]
      rfl
    refine ⟨r, by rw [hrebased, hline], ?_⟩
    intro rule _ p _ hp _
    exact ⟨List.nil_prefix, hp.symm⟩
  · obtain hroot | hempty | hcomment | hbelow := h
    · exact absurd hroot hne
    · exact ⟨none, no_rule (.inl hempty), by simp⟩
    · exact ⟨none, no_rule (.inr hcomment), by simp⟩
    · obtain ⟨r', hr'⟩ := exists_ofLine_below hat hne hbelow.prefixed hline
      refine ⟨r', hr', ?_⟩
      rintro rule hrule p hp - hhit
      cases hrule
      exact prefix_of_hit_below hat hne hbelow.prefixed hr' hp true hhit

end Rule

end Marginalia
