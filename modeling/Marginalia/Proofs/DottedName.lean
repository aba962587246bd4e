/-
Taking dotted names apart and putting them together.

A name that has a dot is a qualifier and a last part without one (`Dotted.splitLast?_eq_some`),
and there is one way to see it so (`Dotted.splitLast?_dotted`).  Its qualifiers are the name
itself and the qualifiers of its qualifier (`Dotted.mem_qualifiers_iff`), one for each part.
Splitting a name at its dots loses nothing (`Dotted.join_parts`), and gives back the parts that it
was put together from (`Dotted.parts_join`).
-/
import Mathlib.Tactic
import Marginalia.Dotted

namespace Marginalia

namespace Dotted

/-! ### The last dot -/

theorem splitLastChars_eq_none_iff {cs : List Char} : splitLastChars cs = none ↔ '.' ∉ cs := by
  induction cs with
  | nil => simp [splitLastChars]
  | cons c cs ih =>
    rw [splitLastChars]
    cases h : splitLastChars cs with
    | some ab =>
      have hdot : '.' ∈ cs := by
        by_contra hdot
        rw [ih.mpr hdot] at h
        cases h
      simp [hdot]
    | none =>
      by_cases hc : c = '.'
      · simp [hc]
      · simp [hc, Ne.symm hc, ih.mp h]

theorem splitLastChars_dotted {x : List Char} (hx : '.' ∉ x) (h : List Char) :
    splitLastChars (h ++ '.' :: x) = some (h, x) := by
  induction h with
  | nil => simp [splitLastChars, splitLastChars_eq_none_iff.mpr hx]
  | cons c h ih => rw [List.cons_append, splitLastChars, ih]

theorem splitLastChars_eq_some {cs a b : List Char} (h : splitLastChars cs = some (a, b)) :
    cs = a ++ '.' :: b ∧ '.' ∉ b := by
  induction cs generalizing a with
  | nil => cases h
  | cons c cs ih =>
    rw [splitLastChars] at h
    cases hcs : splitLastChars cs with
    | some ab =>
      rw [hcs] at h
      cases h
      obtain ⟨rfl, hb⟩ := ih hcs
      exact ⟨rfl, hb⟩
    | none =>
      -- without a dot behind it, the first character is the last place for one
      rw [hcs] at h
      dsimp only at h
      split at h
      · rename_i hc
        cases h
        exact ⟨by rw [eq_of_beq hc]; rfl, splitLastChars_eq_none_iff.mp hcs⟩
      · cases h

theorem toList_dotted (h x : String) :
    (h ++ "." ++ x).toList = h.toList ++ '.' :: x.toList := by
  simp

theorem splitLast?_eq_none_iff {name : String} :
    splitLast? name = none ↔ '.' ∉ name.toList := by
  rw [splitLast?, Option.map_eq_none_iff, splitLastChars_eq_none_iff]

theorem splitLast?_dotted {x : String} (hx : '.' ∉ x.toList) (h : String) :
    splitLast? (h ++ "." ++ x) = some (h, x) := by
  rw [splitLast?, toList_dotted, splitLastChars_dotted hx]
  simp

theorem splitLast?_eq_some {name h x : String} (hname : splitLast? name = some (h, x)) :
    name = h ++ "." ++ x ∧ '.' ∉ x.toList := by
  obtain ⟨⟨a, b⟩, hab, heq⟩ := Option.map_eq_some_iff.mp hname
  cases heq
  obtain ⟨hcs, hb⟩ := splitLastChars_eq_some hab
  refine ⟨String.toList_inj.mp ?_, by simpa using hb⟩
  rw [hcs, toList_dotted, String.toList_ofList, String.toList_ofList]

theorem under_of_ne_empty {q : String} (hq : q ≠ "") (x : String) : under q x = q ++ "." ++ x := by
  rw [under, if_neg (by simpa using hq)]

@[simp] theorem under_empty (x : String) : under "" x = x := rfl

theorem under_injective {q x y : String} (h : under q x = under q y) : x = y := by
  by_cases hq : q = ""
  · simpa [hq] using h
  · rw [under_of_ne_empty hq, under_of_ne_empty hq, ← String.toList_inj] at h
    simpa [String.toList_inj] using h

theorem dot_length : ".".length = 1 := rfl

theorem length_under {q : String} (hq : q ≠ "") (x : String) :
    (under q x).length = q.length + 1 + x.length := by
  rw [under_of_ne_empty hq, String.length_append, String.length_append, dot_length]

theorem length_le_under (q x : String) : x.length ≤ (under q x).length := by
  by_cases hq : q = ""
  · rw [hq, under_empty]
  · rw [length_under hq]
    omega

theorem under_eq_right_iff {q x : String} : under q x = x ↔ q = "" := by
  constructor
  · intro hsame
    by_contra hq
    have hlength := length_under hq x
    rw [hsame] at hlength
    omega
  · rintro rfl
    exact under_empty x

theorem under_ne_left {x : String} (hx : x ≠ "") (q : String) : under q x ≠ q := by
  by_cases hq : q = ""
  · rwa [hq, under_empty]
  · intro hsame
    have hlength := length_under hq x
    rw [hsame] at hlength
    omega

/-- What stands before the last part of a name that extends another is the other or extends
it. -/
theorem eq_or_dotted_of_dotted_eq {h x s y : String} (hx : '.' ∉ x.toList)
    (heq : h ++ "." ++ x = s ++ "." ++ y) : h = s ∨ ∃ z, h = s ++ "." ++ z := by
  rw [← String.toList_inj, toList_dotted, toList_dotted] at heq
  obtain ⟨cs, hs, hrest⟩ | ⟨cs, hh, hrest⟩ := List.append_eq_append_iff.mp heq
  · -- the last part has no dot, so nothing of the other name stands in it
    cases cs with
    | nil => exact .inl (by simpa [String.toList_inj] using hs.symm)
    | cons c cs =>
      rw [List.cons_append, List.cons.injEq] at hrest
      exact absurd (by rw [hrest.2]; simp) hx
  · cases cs with
    | nil => exact .inl (by simpa [String.toList_inj] using hh)
    | cons c cs =>
      rw [List.cons_append, List.cons.injEq] at hrest
      refine .inr ⟨String.ofList cs, String.toList_inj.mp ?_⟩
      rw [toList_dotted, hh, ← hrest.1]
      simp

/-! ### Qualifiers -/

/-- The beginnings of a text that end before a dot, and the text itself. -/
def beginnings : List Char → List (List Char)
  | [] => [[]]
  | c :: cs => (if c == '.' then [[]] else []) ++ (beginnings cs).map (c :: ·)

/-- A name and the names that it extends by one part or more. -/
def qualifiers (name : String) : List String := (beginnings name.toList).map String.ofList

theorem mem_beginnings_iff {a cs : List Char} :
    a ∈ beginnings cs ↔ a = cs ∨ ∃ b, cs = a ++ '.' :: b := by
  induction cs generalizing a with
  | nil => simp [beginnings]
  | cons c cs ih =>
    rw [beginnings, List.mem_append, List.mem_map]
    constructor
    · rintro (h | ⟨a', h, rfl⟩)
      · split at h
        · rename_i hc
          rw [List.mem_singleton] at h
          exact .inr ⟨cs, by rw [h, eq_of_beq hc]; rfl⟩
        · cases h
      · obtain rfl | ⟨b, rfl⟩ := ih.mp h
        · exact .inl rfl
        · exact .inr ⟨b, rfl⟩
    · rintro (rfl | ⟨b, hb⟩)
      · exact .inr ⟨cs, ih.mpr (.inl rfl), rfl⟩
      · cases a with
        | nil =>
          rw [List.nil_append, List.cons.injEq] at hb
          exact .inl (by simp [hb.1])
        | cons c' a =>
          rw [List.cons_append, List.cons.injEq] at hb
          exact .inr ⟨a, ih.mpr (.inr ⟨b, hb.2⟩), by rw [hb.1]⟩

theorem mem_qualifiers_self (name : String) : name ∈ qualifiers name :=
  List.mem_map.mpr ⟨name.toList, mem_beginnings_iff.mpr (.inl rfl), String.ofList_toList⟩

/-- What a qualifier extends is a qualifier too. -/
theorem mem_qualifiers_of_dotted {name h x : String} (hmem : h ++ "." ++ x ∈ qualifiers name) :
    h ∈ qualifiers name := by
  obtain ⟨a, ha, heq⟩ := List.mem_map.mp hmem
  have hchars : a = h.toList ++ '.' :: x.toList := by
    rw [← toList_dotted, ← heq, String.toList_ofList]
  refine List.mem_map.mpr ⟨h.toList, mem_beginnings_iff.mpr (.inr ?_), String.ofList_toList⟩
  obtain rfl | ⟨b, hb⟩ := mem_beginnings_iff.mp ha
  · exact ⟨x.toList, hchars⟩
  · exact ⟨x.toList ++ '.' :: b, by rw [hb, hchars]; simp⟩

theorem length_qualifiers (name : String) :
    (qualifiers name).length = (name.toList.filter (· == '.')).length + 1 := by
  rw [qualifiers, List.length_map]
  induction name.toList with
  | nil => rfl
  | cons c cs ih =>
    rw [beginnings, List.length_append, List.length_map, ih, List.filter_cons]
    split
    · simp; omega
    · simp

/-! ### Parts -/

/-- Two pieces at the end can be joined before the others are. -/
theorem intercalate_concat (sep : Char) (ls : List (List Char)) (a b : List Char) :
    [sep].intercalate (ls ++ [a, b]) = [sep].intercalate (ls ++ [a ++ sep :: b]) := by
  induction ls with
  | nil => simp [List.intercalate_cons_cons]
  | cons l ls ih =>
    rw [List.cons_append, List.cons_append, List.intercalate_cons_of_ne_nil (by simp),
      List.intercalate_cons_of_ne_nil (by simp), ih]

/-- How a text is split: a character is added to the piece that is being read, turned around,
or ends it. -/
def splitStep (sep : Char) (read : List Char × List (List Char)) (c : Char) :
    List Char × List (List Char) :=
  if c == sep then ([], read.1.reverse :: read.2) else (c :: read.1, read.2)

theorem splitChars_eq (sep : Char) (cs : List Char) :
    splitChars sep cs = ((cs.foldl (splitStep sep) ([], [])).1.reverse ::
      (cs.foldl (splitStep sep) ([], [])).2).reverse := rfl

theorem foldl_splitStep (sep : Char) (cs here : List Char) (done : List (List Char)) :
    ((cs.foldl (splitStep sep) (here, done)).1.reverse ::
        (cs.foldl (splitStep sep) (here, done)).2).reverse =
      done.reverse ++ ((cs.foldl (splitStep sep) (here, [])).1.reverse ::
        (cs.foldl (splitStep sep) (here, [])).2).reverse := by
  -- what is split off already is only added to in front, so it can be put back later
  induction cs generalizing here done with
  | nil => simp
  | cons c cs ih =>
    rw [List.foldl_cons, List.foldl_cons, splitStep, splitStep]
    split
    · rw [ih [] (_ :: done), ih [] [_]]
      simp
    · exact ih _ _

/-- Without a separator the piece that is being read goes on. -/
theorem foldl_splitStep_of_notMem {sep : Char} {name : List Char} (hname : sep ∉ name)
    (here : List Char) (done : List (List Char)) :
    name.foldl (splitStep sep) (here, done) = (name.reverse ++ here, done) := by
  induction name generalizing here with
  | nil => rfl
  | cons c name ih =>
    rw [List.mem_cons, not_or] at hname
    rw [List.foldl_cons, splitStep, if_neg (by simpa using Ne.symm hname.1), ih hname.2]
    simp

theorem splitChars_of_notMem {sep : Char} {name : List Char} (hname : sep ∉ name) :
    splitChars sep name = [name] := by
  rw [splitChars_eq, foldl_splitStep_of_notMem hname]
  simp

/-- A name ends at the first separator. -/
theorem splitChars_append {sep : Char} {name : List Char} (hname : sep ∉ name)
    (rest : List Char) : splitChars sep (name ++ sep :: rest) = name :: splitChars sep rest := by
  rw [splitChars_eq, List.foldl_append, foldl_splitStep_of_notMem hname, List.foldl_cons,
    splitStep, if_pos (beq_self_eq_true sep), foldl_splitStep]
  simp [splitChars_eq]

theorem splitChars_cons (sep : Char) (rest : List Char) :
    splitChars sep (sep :: rest) = [] :: splitChars sep rest := by
  have hnone : sep ∉ ([] : List Char) := List.not_mem_nil
  exact splitChars_append hnone rest

/-- What is split off already, the piece that is being read and what is left make up the text. -/
theorem intercalate_foldl_splitStep (sep : Char) (cs here : List Char) (done : List (List Char)) :
    [sep].intercalate ((cs.foldl (splitStep sep) (here, done)).1.reverse ::
        (cs.foldl (splitStep sep) (here, done)).2).reverse =
      [sep].intercalate (done.reverse ++ [here.reverse ++ cs]) := by
  induction cs generalizing here done with
  | nil => simp
  | cons c cs ih =>
    rw [List.foldl_cons, splitStep]
    split
    · rename_i hc
      rw [ih, eq_of_beq hc, ← intercalate_concat]
      simp
    · rw [ih]
      simp

theorem intercalate_splitChars (sep : Char) (cs : List Char) :
    [sep].intercalate (splitChars sep cs) = cs := by
  rw [splitChars_eq, intercalate_foldl_splitStep]
  simp

theorem join_parts (name : String) : join (parts name) = name := by
  rw [join, ← String.toList_inj, String.toList_intercalate, parts, List.map_map]
  have hmap : String.toList ∘ String.ofList = id := by
    funext cs
    simp
  rw [hmap, List.map_id]
  exact intercalate_splitChars '.' name.toList

/-- There is always a part, be it an empty one. -/
theorem parts_ne_nil (name : String) : parts name ≠ [] := by
  rw [parts, splitChars_eq]
  simp

/-- Parts without dots are found again in what they are joined to. -/
theorem parts_join {ps : List String} (hne : ps ≠ []) (hps : ∀ p ∈ ps, '.' ∉ p.toList) :
    parts (join ps) = ps := by
  induction ps with
  | nil => exact absurd rfl hne
  | cons p ps ih =>
    have hp := hps p List.mem_cons_self
    by_cases hlast : ps = []
    · rw [hlast, join, String.intercalate_singleton, parts, splitChars_of_notMem hp]
      simp
    · have hrest := ih hlast fun q hq => hps q (List.mem_cons_of_mem p hq)
      rw [parts] at hrest ⊢
      rw [join, String.intercalate_cons_of_ne_nil hlast, toList_dotted, splitChars_append hp,
        List.map_cons, String.ofList_toList]
      exact congrArg (p :: ·) hrest

theorem join_singleton (p : String) : join [p] = p := String.intercalate_singleton

theorem join_append_singleton {ps : List String} (hne : ps ≠ []) (p : String) :
    join (ps ++ [p]) = join ps ++ "." ++ p := by
  rw [join, String.intercalate_append_of_ne_nil hne (List.cons_ne_nil p []),
    String.intercalate_singleton]
  rfl

theorem length_lt_join_append {ps : List String} (hne : ps ≠ []) (p : String) :
    (join ps).length < (join (ps ++ [p])).length := by
  rw [join_append_singleton hne, String.length_append, String.length_append, dot_length]
  omega

/-- A name at the end can be taken apart before it is joined to what stands in front. -/
theorem join_concat (ps : List String) (name : String) :
    join (ps ++ [name]) = join (ps ++ parts name) := by
  by_cases hps : ps = []
  · rw [hps, List.nil_append, List.nil_append, join_parts, join, String.intercalate_singleton]
  · rw [join, join, String.intercalate_append_of_ne_nil hps (List.cons_ne_nil name []),
      String.intercalate_append_of_ne_nil hps (parts_ne_nil name), String.intercalate_singleton]
    exact congrArg _ (join_parts name).symm

end Dotted

end Marginalia
