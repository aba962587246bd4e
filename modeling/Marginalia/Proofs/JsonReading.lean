/-
Reading JSON texts.

`Json.read` reads a text as a value: blanks between the parts do not count, names and texts stand
between quotes, and a backslash there starts an escape, which can give a character by its units of
sixteen bits.  Values that reports do not have, numbers and truth values, are not read.

* `Json.readText_quotedText` — a text between quotes is read as what it was;
* `Json.readBlock_block` — so are the entries of a list or an object, if each of them is;
* `Json.readValue_renderAt` — so is a value at any depth, with anything behind it;
* `Json.read_render` — every value is read back from its text.
-/
import Marginalia.Report.Json
import Marginalia.Source.QuotedText
import Mathlib.Tactic

namespace Marginalia

open QuotedText (isHexDigit takeCode?)

/-! ### Numbers in base sixteen -/

theorem hexValue_append (cs ds : List Char) :
    hexValue (cs ++ ds) = ds.foldl (fun n c => n * 16 + hexDigit c) (hexValue cs) := by
  unfold hexValue
  rw [List.foldl_append]

theorem hexDigit_digitChar {d : Nat} (hd : d < 16) :
    hexDigit d.digitChar = d ∧ isHexDigit d.digitChar = true := by
  have hall : ∀ d < 16, hexDigit d.digitChar = d ∧ isHexDigit d.digitChar = true := by decide
  exact hall d hd

/-- The digits of a number have its value. -/
theorem hexValue_toDigits (n : Nat) :
    hexValue (Nat.toDigits 16 n) = n ∧ (Nat.toDigits 16 n).all isHexDigit = true := by
  induction n using Nat.strong_induction_on with
  | _ n ih =>
    by_cases hn : n < 16
    · obtain ⟨hvalue, hdigit⟩ := hexDigit_digitChar hn
      rw [Nat.toDigits_of_lt_base hn]
      exact ⟨by simpa [hexValue] using hvalue, by simpa using hdigit⟩
    · obtain ⟨hvalue, hdigit⟩ := hexDigit_digitChar (Nat.mod_lt n (by omega : 0 < 16))
      obtain ⟨hhead, hdigits⟩ := ih (n / 16) (by omega)
      rw [Nat.toDigits_of_base_le (by omega) (by omega), hexValue_append, hhead]
      refine ⟨?_, by simp [hdigits, hdigit]⟩
      simp only [List.foldl_cons, List.foldl_nil, hvalue]
      omega

/-- Four digits give a unit of sixteen bits. -/
theorem takeCode?_hexText {n : Nat} (hn : n < 65536) (cs : List Char) :
    takeCode? 4 (hexText 4 n ++ cs) = some (n, cs) := by
  obtain ⟨hvalue, hdigits⟩ := hexValue_toDigits n
  have hlength : (Nat.toDigits 16 n).length ≤ 4 :=
    (Nat.length_toDigits_le_iff (by omega) (by omega)).mpr hn
  have hfour : (hexText 4 n).length = 4 := by
    rw [hexText, List.length_append, List.length_replicate, Nat.sub_add_cancel hlength]
  have hzeros : hexValue (hexText 4 n) = n := by
    have hzero : ∀ k : Nat, hexValue (List.replicate k '0') = 0 := by
      intro k
      induction k with
      | zero => rfl
      | succ k ih => rw [List.replicate_succ', hexValue_append, ih]; rfl
    rw [hexText, hexValue_append, hzero]
    exact hvalue
  have hall : (hexText 4 n).all isHexDigit = true := by
    rw [hexText, List.all_append, hdigits, Bool.and_true, List.all_eq_true]
    intro c hc
    rw [List.eq_of_mem_replicate hc]
    rfl
  rw [takeCode?, List.take_left' hfour, List.drop_left' hfour, hfour, hall, hzeros]
  rfl

namespace Json

/-! ### The reader -/

/-- Whether a character may stand between the parts of a text. -/
def isSpace (c : Char) : Bool := c == ' ' || c == '\n' || c == '\r' || c == '\t'

/-- Goes to the next part of a text. -/
def skip (cs : List Char) : List Char := cs.dropWhile isSpace

/-- What a letter behind a backslash stands for. -/
def letters : List (Char × Char) := [('"', '"'), ('\\', '\\'), ('/', '/'), ('b', '\x08'),
  ('f', '\x0c'), ('n', '\n'), ('r', '\r'), ('t', '\t')]

/-- Reads a character by its unit, or by its two; half a pair is no character. -/
def readCode (cs : List Char) : Option (Char × List Char) :=
  match takeCode? 4 cs with
  | none => none
  | some (n, cs) =>
    if n < 0xd800 ∨ 0xe000 ≤ n then some (Char.ofNat n, cs)
    else if 0xdc00 ≤ n then none
    else match cs with
      | '\\' :: 'u' :: cs =>
        match takeCode? 4 cs with
        | none => none
        | some (m, cs) =>
          if 0xdc00 ≤ m ∧ m < 0xe000 then
            some (Char.ofNat (0x10000 + (n - 0xd800) * 1024 + (m - 0xdc00)), cs)
          else none
      | _ => none

/-- Reads a character between quotes; control characters have to be escaped. -/
def readChar (c : Char) (cs : List Char) : Option (Char × List Char) :=
  if c = '\\' then
    match cs with
    | [] => none
    | d :: cs => if d = 'u' then readCode cs else (letters.lookup d).map fun e => (e, cs)
  else if c < ' ' then none
  else some (c, cs)

/-- Reads characters up to a quote, no more than a number of them. -/
def readText : Nat → List Char → Option (List Char × List Char)
  | 0, _ => none
  | _ + 1, [] => none
  | n + 1, c :: cs =>
    if c = '"' then some ([], cs)
    else match readChar c cs with
      | none => none
      | some (d, cs) => (readText n cs).map fun r => (d :: r.1, r.2)

/-- Reads entries with commas between them up to a last character, no more than a number of
them; there is at least one. -/
def readEach {α : Type} (one : List Char → Option (α × List Char)) (last : Char) :
    Nat → List Char → Option (List α × List Char)
  | 0, _ => none
  | n + 1, cs =>
    match one cs with
    | none => none
    | some (x, cs) =>
      match skip cs with
      | [] => none
      | c :: cs =>
        if c = ',' then (readEach one last n cs).map fun r => (x :: r.1, r.2)
        else if c = last then some ([x], cs)
        else none

/-- Reads the entries between a bracket, which has been passed, and its last character. -/
def readBlock {α : Type} (one : List Char → Option (α × List Char)) (last : Char)
    (cs : List Char) : Option (List α × List Char) :=
  match skip cs with
  | [] => none
  | c :: cs => if c = last then some ([], cs) else readEach one last (cs.length + 1) (c :: cs)

/-- Reads a name, a colon and a value. -/
def readMember (value : List Char → Option (Json × List Char)) (cs : List Char) :
    Option ((String × Json) × List Char) :=
  match skip cs with
  | '"' :: cs =>
    match readText cs.length cs with
    | none => none
    | some (name, cs) =>
      match skip cs with
      | ':' :: cs => (value cs).map fun r => ((String.ofList name, r.1), r.2)
      | _ => none
  | _ => none

/-- Reads a value that goes no deeper than a number of levels. -/
def readValue : Nat → List Char → Option (Json × List Char)
  | 0, _ => none
  | n + 1, cs =>
    match skip cs with
    | '"' :: cs => (readText cs.length cs).map fun r => (text (String.ofList r.1), r.2)
    | '[' :: cs => (readBlock (readValue n) ']' cs).map fun r => (list r.1, r.2)
    | '\x7b' :: cs =>
      (readBlock (readMember (readValue n)) '\x7d' cs).map fun r => (object r.1, r.2)
    | 'n' :: 'u' :: 'l' :: 'l' :: cs => some (null, cs)
    | _ => none

/-- Reads a whole text; it has no more levels than characters. -/
def read (s : String) : Option Json :=
  match readValue s.toList.length s.toList with
  | some (x, rest) => if rest.all isSpace then some x else none
  | none => none

/-! ### Characters and texts -/

theorem readCode_unit {n : Nat} (hn : n < 0xd800 ∨ 0xe000 ≤ n) (hunit : n < 0x10000)
    (cs : List Char) : readCode (hexText 4 n ++ cs) = some (Char.ofNat n, cs) := by
  rw [readCode, takeCode?_hexText hunit]
  exact if_pos hn

theorem readCode_pair {n m : Nat} (hn : 0xd800 ≤ n ∧ n < 0xdc00) (hm : 0xdc00 ≤ m ∧ m < 0xe000)
    (cs : List Char) : readCode (hexText 4 n ++ '\\' :: 'u' :: (hexText 4 m ++ cs)) =
      some (Char.ofNat (0x10000 + (n - 0xd800) * 1024 + (m - 0xdc00)), cs) := by
  rw [readCode, takeCode?_hexText (by omega)]
  dsimp only
  rw [if_neg (by omega), if_neg (by omega)]
  show (match takeCode? 4 (hexText 4 m ++ cs) with
    | none => none
    | some (m, cs) => if 0xdc00 ≤ m ∧ m < 0xe000 then
        some (Char.ofNat (0x10000 + (n - 0xd800) * 1024 + (m - 0xdc00)), cs) else none) = _
  rw [takeCode?_hexText (by omega)]
  exact if_pos hm

theorem readChar_unit (cs : List Char) : readChar '\\' ('u' :: cs) = readCode cs := by
  rw [readChar, if_pos rfl]
  exact if_pos rfl

/-- The units of a character give it back. -/
theorem readChar_units (c : Char) (cs : List Char) :
    ∃ es, (Utf16.units c).flatMap (fun n => '\\' :: 'u' :: hexText 4 n) = '\\' :: es ∧
      readChar '\\' (es ++ cs) = some (c, cs) := by
  have hvalid : c.toNat < 0xd800 ∨ 0xdfff < c.toNat ∧ c.toNat < 0x110000 := c.valid
  unfold Utf16.units
  dsimp only
  by_cases hsmall : c.toNat < 0x10000
  · rw [if_pos hsmall]
    refine ⟨'u' :: hexText 4 c.toNat, by simp, ?_⟩
    rw [List.cons_append, readChar_unit, readCode_unit (by omega) hsmall, Char.ofNat_toNat]
  · rw [if_neg hsmall]
    refine ⟨'u' :: (hexText 4 (0xd800 + (c.toNat - 0x10000) / 1024) ++
      '\\' :: 'u' :: hexText 4 (0xdc00 + (c.toNat - 0x10000) % 1024)), ?_, ?_⟩
    · rw [List.flatMap_cons, List.flatMap_cons, List.flatMap_nil, List.append_nil,
        List.cons_append, List.cons_append]
    · have hcode : 0x10000 + (0xd800 + (c.toNat - 0x10000) / 1024 - 0xd800) * 1024 +
          (0xdc00 + (c.toNat - 0x10000) % 1024 - 0xdc00) = c.toNat := by
        omega
      rw [List.cons_append, readChar_unit, List.append_assoc, List.cons_append, List.cons_append,
        readCode_pair (by omega) (by omega), hcode, Char.ofNat_toNat]

/-- A character is read from its escape, which is no quote. -/
theorem readChar_escaped (c : Char) (cs : List Char) :
    ∃ e es, escaped c = e :: es ∧ e ≠ '"' ∧ readChar e (es ++ cs) = some (c, cs) := by
  have hletter : ∀ d, letters.lookup d = some c → d ≠ 'u' → escaped c = ['\\', d] →
      ∃ e es, escaped c = e :: es ∧ e ≠ '"' ∧ readChar e (es ++ cs) = some (c, cs) := by
    intro d hd hu heq
    refine ⟨'\\', [d], heq, by decide, ?_⟩
    simp [readChar, hu, hd]
  by_cases hquote : c = '"'
  · subst hquote
    exact hletter '"' rfl (by decide) rfl
  by_cases hslash : c = '\\'
  · subst hslash
    exact hletter '\\' rfl (by decide) rfl
  by_cases hn : c = '\n'
  · subst hn
    exact hletter 'n' rfl (by decide) rfl
  by_cases hr : c = '\r'
  · subst hr
    exact hletter 'r' rfl (by decide) rfl
  by_cases ht : c = '\t'
  · subst ht
    exact hletter 't' rfl (by decide) rfl
  have hplain : escaped c =
      if c.toNat == 8 then ['\\', 'b']
      else if c.toNat == 12 then ['\\', 'f']
      else if ' ' ≤ c && c ≤ '~' then [c]
      else (Utf16.units c).flatMap fun n => '\\' :: 'u' :: hexText 4 n := by
    simp [escaped, letterEscape?, hquote, hslash, hn, hr, ht]
  by_cases hb : c.toNat = 8
  · have hc : c = '\x08' := Char.ext (UInt32.toNat_inj.mp hb)
    subst hc
    exact hletter 'b' rfl (by decide) rfl
  by_cases hf : c.toNat = 12
  · have hc : c = '\x0c' := Char.ext (UInt32.toNat_inj.mp hf)
    subst hc
    exact hletter 'f' rfl (by decide) rfl
  rw [hplain, if_neg (by simpa using hb), if_neg (by simpa using hf)]
  by_cases hshown : (' ' ≤ c && c ≤ '~') = true
  · rw [if_pos hshown]
    refine ⟨c, [], rfl, hquote, ?_⟩
    have hprinted : ¬ c < ' ' :=
      Char.not_lt.mpr (of_decide_eq_true (Bool.and_eq_true_iff.mp hshown).1)
    simp [readChar, hslash, hprinted]
  · rw [if_neg hshown]
    obtain ⟨es, hes, hread⟩ := readChar_units c cs
    exact ⟨'\\', es, hes, by decide, hread⟩

/-- A text between quotes is read as what it was. -/
theorem readText_quotedText (s : List Char) {n : Nat} (hn : s.length < n) (rest : List Char) :
    readText n (s.flatMap escaped ++ '"' :: rest) = some (s, rest) := by
  induction s generalizing n with
  | nil =>
    obtain ⟨n, rfl⟩ := Nat.exists_eq_succ_of_ne_zero (Nat.ne_of_gt hn)
    rfl
  | cons c s ih =>
    obtain ⟨n, rfl⟩ := Nat.exists_eq_succ_of_ne_zero (Nat.ne_of_gt (Nat.zero_lt_of_lt hn))
    -- what a character is written as never starts with a quote, so the text does not end here
    obtain ⟨e, es, hes, hquote, hread⟩ := readChar_escaped c (s.flatMap escaped ++ '"' :: rest)
    rw [List.flatMap_cons, hes, List.append_assoc, List.cons_append, readText, if_neg hquote,
      hread]
    dsimp only
    rw [ih (by simpa using hn)]
    rfl

/-- No text gets shorter between quotes. -/
theorem length_le_flatMap_escaped (s : List Char) : s.length ≤ (s.flatMap escaped).length := by
  induction s with
  | nil => exact Nat.le_refl _
  | cons c s ih =>
    obtain ⟨e, es, hes, -⟩ := readChar_escaped c []
    simp only [List.flatMap_cons, List.length_append, List.length_cons, hes]
    omega

/-! ### Values -/

/-- What holds of a value if it holds of its items and members holds of every value. -/
theorem induct {P : Json → Prop} (hnull : P null) (htext : ∀ s, P (text s))
    (hlist : ∀ xs, (∀ x ∈ xs, P x) → P (list xs))
    (hobject : ∀ ms : List (String × Json), (∀ m ∈ ms, P m.2) → P (object ms)) (x : Json) : P x :=
  @Json.rec P (fun xs => ∀ x ∈ xs, P x) (fun ms => ∀ m ∈ ms, P m.2) (fun m => P m.2)
    hnull htext hlist hobject (by simp) (fun _ _ hx hxs => List.forall_mem_cons.mpr ⟨hx, hxs⟩)
    (by simp)
    (fun _ _ hm hms => List.forall_mem_cons.mpr ⟨hm, hms⟩) (fun _ _ hx => hx) x

/-! ### Parts of a text -/

theorem skip_cons {c : Char} (hc : isSpace c = false) (cs : List Char) :
    skip (c :: cs) = c :: cs := by
  rw [skip, List.dropWhile_cons_of_neg (by simp [hc])]

theorem skip_newLine (depth : Nat) (cs : List Char) : skip (newLine depth ++ cs) = skip cs := by
  have hspaces : ∀ c ∈ newLine depth, isSpace c = true := by
    intro c hc
    obtain rfl | hc := List.mem_cons.mp hc
    · rfl
    · rw [List.eq_of_mem_replicate hc]
      rfl
  rw [skip, skip, List.dropWhile_append_of_pos hspaces]

theorem readValue_newLine (n depth : Nat) (cs : List Char) :
    readValue n (newLine depth ++ cs) = readValue n cs := by
  cases n with
  | zero => rfl
  | succ n => simp only [readValue, skip_newLine]

theorem readMember_newLine (value : List Char → Option (Json × List Char)) (depth : Nat)
    (cs : List Char) : readMember value (newLine depth ++ cs) = readMember value cs := by
  simp only [readMember, skip_newLine]

/-- Entries behind another one. -/
def following (depth : Nat) (entries : List (List Char)) : List Char :=
  entries.flatMap fun e => ',' :: (newLine depth ++ e)

theorem length_le_following (depth : Nat) (entries : List (List Char)) :
    entries.length ≤ (following depth entries).length := by
  induction entries with
  | nil => exact Nat.le_refl _
  | cons e es ih =>
    simp only [following, List.flatMap_cons, List.length_append, List.length_cons] at ih ⊢
    omega

theorem block_cons (first last : Char) (depth : Nat) (e : List Char) (es : List (List Char)) :
    block first last depth (e :: es) = first :: (newLine (depth + 1) ++
      (e ++ (following (depth + 1) es ++ (newLine depth ++ [last])))) := by
  have hentries : ∀ e, [','].intercalate ((e :: es).map fun e => newLine (depth + 1) ++ e) =
      newLine (depth + 1) ++ e ++ following (depth + 1) es := by
    induction es with
    | nil => simp [following, List.intercalate]
    | cons e' es ih =>
      intro e
      rw [List.map_cons, List.map_cons, List.intercalate_cons_cons, ← List.map_cons, ih e']
      simp [following]
  rw [block, if_neg (by simp), hentries]
  simp

theorem block_ne_nil (first last : Char) (depth : Nat) (es : List (List Char)) :
    block first last depth es ≠ [] := by
  cases es with
  | nil => exact List.cons_ne_nil _ _
  | cons e es => rw [block_cons]; exact List.cons_ne_nil _ _

section Blocks

variable {α : Type} {one : List Char → Option (α × List Char)} {written : α → List Char}
  {last : Char} {depth : Nat}

theorem readEach_newLine (hnew : ∀ cs, one (newLine depth ++ cs) = one cs) (n : Nat)
    (cs : List Char) : readEach one last n (newLine depth ++ cs) = readEach one last n cs := by
  cases n with
  | zero => rfl
  | succ n => rw [readEach, readEach, hnew]

/-- Entries that are read back one by one are read back up to their end. -/
theorem readEach_following (hspace : isSpace last = false) (hcomma : last ≠ ',')
    (hnew : ∀ cs, one (newLine depth ++ cs) = one cs) (depth' : Nat) (rest : List Char) {x : α}
    {xs : List α} (hone : ∀ y ∈ x :: xs, ∀ rest, one (written y ++ rest) = some (y, rest))
    {n : Nat} (hn : xs.length < n) :
    readEach one last n (written x ++ (following depth (xs.map written) ++
      (newLine depth' ++ last :: rest))) = some (x :: xs, rest) := by
  induction xs generalizing x n with
  | nil =>
    obtain ⟨n, rfl⟩ := Nat.exists_eq_succ_of_ne_zero (Nat.ne_of_gt (Nat.zero_lt_of_lt hn))
    rw [readEach, hone x List.mem_cons_self]
    simp only [List.map_nil, following, List.flatMap_nil, List.nil_append, skip_newLine,
      skip_cons hspace, if_neg hcomma, if_pos]
  | cons y ys ih =>
    obtain ⟨n, rfl⟩ := Nat.exists_eq_succ_of_ne_zero (Nat.ne_of_gt (Nat.zero_lt_of_lt hn))
    have hcomma : isSpace ',' = false := rfl
    have hys := ih (fun z hz => hone z (List.mem_cons_of_mem x hz)) (by simpa using hn)
    rw [readEach, hone x List.mem_cons_self]
    simp only [following] at hys
    simp only [List.map_cons, following, List.flatMap_cons, List.cons_append, List.append_assoc,
      skip_cons hcomma, if_pos, readEach_newLine hnew, hys, Option.map_some]

/-- So are the entries of a block. -/
theorem readBlock_block (first : Char) {last : Char} (depth : Nat)
    (hspace : isSpace last = false) (hcomma : last ≠ ',')
    (hnew : ∀ cs, one (newLine (depth + 1) ++ cs) = one cs) {xs : List α}
    (hstart : ∀ y ∈ xs, ∃ c cs, written y = c :: cs ∧ isSpace c = false ∧ c ≠ last)
    (hone : ∀ y ∈ xs, ∀ rest, one (written y ++ rest) = some (y, rest)) (rest : List Char) :
    ∃ cs, block first last depth (xs.map written) = first :: cs ∧
      readBlock one last (cs ++ rest) = some (xs, rest) := by
  cases xs with
  | nil => exact ⟨[last], rfl, by simp [readBlock, skip_cons hspace]⟩
  | cons x xs =>
    refine ⟨_, block_cons first last depth (written x) (xs.map written), ?_⟩
    -- the first entry does not start with the closing mark, so the block is not taken to be empty
    obtain ⟨c, cs, hx, hc, hlast⟩ := hstart x List.mem_cons_self
    have hlength := length_le_following (depth + 1) (xs.map written)
    rw [List.length_map] at hlength
    have heach := readEach_following hspace hcomma hnew depth rest hone (n := (cs ++
        (following (depth + 1) (xs.map written) ++ (newLine depth ++ last :: rest))).length + 1)
      (by simp only [List.length_append, List.length_cons]; omega)
    rw [hx] at heach ⊢
    simp only [List.append_assoc, List.cons_append, List.nil_append] at heach ⊢
    simp only [readBlock, skip_newLine, skip_cons hc, if_neg hlast, heach]

end Blocks

/-- The text of a member. -/
def memberText (depth : Nat) (m : String × Json) : List Char :=
  quotedText m.1 ++ [':', ' '] ++ renderAt depth m.2

theorem renderItems_eq (depth : Nat) (xs : List Json) :
    renderItems depth xs = xs.map (renderAt depth) := by
  induction xs with
  | nil => rfl
  | cons x xs ih => rw [renderItems, ih, List.map_cons]

theorem renderMembers_eq (depth : Nat) (ms : List (String × Json)) :
    renderMembers depth ms = ms.map (memberText depth) := by
  induction ms with
  | nil => rfl
  | cons m ms ih => rw [renderMembers, ih, List.map_cons, memberText]

/-- No value starts with a blank or the end of a list. -/
theorem renderAt_start (depth : Nat) (x : Json) :
    ∃ c cs, renderAt depth x = c :: cs ∧ isSpace c = false ∧ c ≠ ']' := by
  cases x with
  | null => exact ⟨'n', _, rfl, rfl, by decide⟩
  | text s => exact ⟨'"', _, rfl, rfl, by decide⟩
  | list xs =>
    cases xs with
    | nil => exact ⟨'[', _, rfl, rfl, by decide⟩
    | cons x xs => exact ⟨'[', _, block_cons .., rfl, by decide⟩
  | object ms =>
    cases ms with
    | nil => exact ⟨'\x7b', _, rfl, rfl, by decide⟩
    | cons m ms => exact ⟨'\x7b', _, block_cons .., rfl, by decide⟩

/-- Members start with the quote of their name. -/
theorem memberText_start (depth : Nat) (m : String × Json) :
    ∃ c cs, memberText depth m = c :: cs ∧ isSpace c = false ∧ c ≠ '\x7d' :=
  ⟨'"', _, rfl, rfl, by decide⟩

/-! ### Reading back -/

/-- A text is read back up to its quote, in as many steps as there are characters. -/
theorem readText_behind (s : String) (rest : List Char) :
    readText (s.toList.flatMap escaped ++ '"' :: rest).length
      (s.toList.flatMap escaped ++ '"' :: rest) = some (s.toList, rest) := by
  have hlength := length_le_flatMap_escaped s.toList
  refine readText_quotedText s.toList ?_ rest
  simp only [List.length_append, List.length_cons]
  omega

theorem readMember_memberText {value : List Char → Option (Json × List Char)} {depth : Nat}
    {m : String × Json} (hspace : ∀ cs, value (' ' :: cs) = value cs)
    (hread : ∀ rest, value (renderAt depth m.2 ++ rest) = some (m.2, rest)) (rest : List Char) :
    readMember value (memberText depth m ++ rest) = some (m, rest) := by
  have hquote : isSpace '"' = false := rfl
  have hcolon : isSpace ':' = false := rfl
  have hname := readText_behind m.1 (':' :: ' ' :: (renderAt depth m.2 ++ rest))
  simp only [memberText, quotedText, List.append_assoc, List.cons_append, List.nil_append,
    readMember, skip_cons hquote, hname, skip_cons hcolon, hspace, hread, Option.map_some,
    String.ofList_toList]

theorem readValue_space (n : Nat) (cs : List Char) : readValue n (' ' :: cs) = readValue n cs := by
  cases n with
  | zero => rfl
  | succ n =>
    simp only [readValue, skip, List.dropWhile_cons_of_pos (show isSpace ' ' = true from rfl)]

/-- Entries are not longer than their block. -/
theorem length_lt_block {first last : Char} {depth : Nat} {e : List Char} {es : List (List Char)}
    (he : e ∈ es) : e.length < (block first last depth es).length := by
  cases es with
  | nil => cases he
  | cons e' es =>
    rw [block_cons]
    simp only [List.length_cons, List.length_append]
    obtain rfl | he := List.mem_cons.mp he
    · omega
    · have hin : e.length ≤ (following (depth + 1) es).length := by
        obtain ⟨before, later, rfl⟩ := List.append_of_mem he
        simp only [following, List.flatMap_append, List.flatMap_cons, List.length_append,
          List.length_cons]
        omega
      omega

/-- **A value is read back from its text**, at any depth and with anything behind it. -/
theorem readValue_renderAt (x : Json) : ∀ (depth n : Nat) (rest : List Char),
    (renderAt depth x).length ≤ n → readValue n (renderAt depth x ++ rest) = some (x, rest) := by
  induction x using induct with
  | hnull =>
    intro depth n rest hn
    cases n with
    | zero => simp [renderAt] at hn
    | succ n => rfl
  | htext s =>
    intro depth n rest hn
    cases n with
    | zero => simp [renderAt, quotedText] at hn
    | succ n =>
      have hquote : isSpace '"' = false := rfl
      simp only [renderAt, quotedText, List.cons_append, List.append_assoc, List.nil_append,
        readValue, skip_cons hquote, readText_behind, Option.map_some, String.ofList_toList]
  | hlist xs ih =>
    intro depth n rest hn
    rw [renderAt, renderItems_eq] at hn ⊢
    have hpos : 0 < n := (List.length_pos_iff.mpr (block_ne_nil _ _ _ _)).trans_le hn
    obtain ⟨n, rfl⟩ := Nat.exists_eq_succ_of_ne_zero (Nat.ne_of_gt hpos)
    have hitems : ∀ y ∈ xs, ∀ rest,
        readValue n (renderAt (depth + 1) y ++ rest) = some (y, rest) := by
      intro y hy rest
      -- an item is shorter than the block around it, which has one level more than its items
      have hlength := (length_lt_block (List.mem_map_of_mem hy)).trans_le hn
      exact ih y hy (depth + 1) n rest (Nat.le_of_lt_succ hlength)
    obtain ⟨cs, hblock, hread⟩ := readBlock_block '[' depth (show isSpace ']' = false from rfl)
      (by decide) (readValue_newLine n (depth + 1)) (fun y _ => renderAt_start (depth + 1) y)
      hitems rest
    rw [hblock, List.cons_append, readValue, skip_cons rfl]
    show (readBlock (readValue n) ']' (cs ++ rest)).map _ = _
    rw [hread]
    rfl
  | hobject ms ih =>
    intro depth n rest hn
    rw [renderAt, renderMembers_eq] at hn ⊢
    have hpos : 0 < n := (List.length_pos_iff.mpr (block_ne_nil _ _ _ _)).trans_le hn
    obtain ⟨n, rfl⟩ := Nat.exists_eq_succ_of_ne_zero (Nat.ne_of_gt hpos)
    have hmembers : ∀ m ∈ ms, ∀ rest,
        readMember (readValue n) (memberText (depth + 1) m ++ rest) = some (m, rest) := by
      intro m hm rest
      have hlength := (length_lt_block (List.mem_map_of_mem hm)).trans_le hn
      have hvalue : (renderAt (depth + 1) m.2).length ≤ n := by
        simp only [memberText, List.length_append] at hlength
        omega
      exact readMember_memberText (readValue_space n)
        (fun rest => ih m hm (depth + 1) n rest hvalue) rest
    obtain ⟨cs, hblock, hread⟩ := readBlock_block '\x7b' depth
      (show isSpace '\x7d' = false from rfl) (by decide)
      (readMember_newLine (readValue n) (depth + 1))
      (fun m _ => memberText_start (depth + 1) m) hmembers rest
    rw [hblock, List.cons_append, readValue, skip_cons rfl]
    show (readBlock (readMember (readValue n)) '\x7d' (cs ++ rest)).map _ = _
    rw [hread]
    rfl

/-- A value is read back from its text, with blanks behind it or without. -/
theorem read_render_append (x : Json) {blanks : List Char} (h : blanks.all isSpace = true) :
    read (x.render ++ String.ofList blanks) = some x := by
  have hchars : (x.render ++ String.ofList blanks).toList = renderAt 0 x ++ blanks := by
    rw [String.toList_append, render, String.toList_ofList, String.toList_ofList]
  have hread := readValue_renderAt x 0 (renderAt 0 x ++ blanks).length blanks (by
    rw [List.length_append]
    omega)
  rw [read, hchars, hread]
  exact if_pos h

theorem read_render (x : Json) : read x.render = some x := by
  have hread := x.read_render_append (show [].all isSpace = true from rfl)
  rwa [String.ofList_nil, String.append_empty] at hread

end Json

end Marginalia
