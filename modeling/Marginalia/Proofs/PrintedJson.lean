/-
JSON as it is printed.

A dump writes the same JSON text to a file that it prints, but what is printed has gone through
the replacement of pictures' names: a name between two colons, with no blank in it, becomes a
picture, also inside a quoted text.  `Picture.candidates` are the names that can be met in a text;
a text all of whose candidates are unknown is free of pictures and stays as it is
(`Picture.replace_of_free`).  Blanks part a text (`Picture.candidates_blank`), and the layout of
JSON puts blanks around its texts, so it is these texts that count:

* `Report.free_listing_iff` — a listing is free of pictures if all its quoted texts are;
* `Screen.PrintsAsDocumented` — a screen that prints texts so;
* `Command.dumped_text` — the text in the file is read back as the listing of all entries, and
  what is printed is this text, and a line end, when the texts of the entries are free of pictures.
-/
import Marginalia.Proofs.CommandRun
import Marginalia.Proofs.JsonReading

namespace Marginalia

namespace Picture

/-! ### Names between colons -/

/-- The picture that a name between colons stands for. -/
def named? (name : List Char) : Option (List Char) :=
  ofName? (Case.lower (String.ofList (withoutSelector name).1))

theorem ofWritten_of_unnamed {name : List Char} (h : named? name = none) :
    ofWritten name = ':' :: name ++ [':'] := by
  unfold named? at h
  simp only [ofWritten, h]

/-- The name that a colon before a text opens: what comes before the next colon, if there is no
blank in it. -/
def opened? : List Char → Option (List Char)
  | [] => none
  | c :: cs =>
    if c = ':' then some []
    else if isBlank c then none
    else (opened? cs).map (c :: ·)

/-- The names that a text has between two colons. -/
def candidates : List Char → List (List Char)
  | [] => []
  | c :: cs => if c = ':' then (opened? cs).toList ++ candidates cs else candidates cs

/-- No picture has a name that a text has between two colons. -/
def Free (cs : List Char) : Prop := ∀ name ∈ candidates cs, named? name = none

instance : DecidablePred Free :=
  fun cs => inferInstanceAs (Decidable (∀ name ∈ candidates cs, named? name = none))

theorem Free.tail {c : Char} {cs : List Char} (h : Free (c :: cs)) : Free cs := by
  intro name hname
  refine h name ?_
  rw [candidates]
  split
  · exact List.mem_append_right _ hname
  · exact hname

/-- What is pending stays as it is when the name that it starts is unknown. -/
theorem replaceFrom_of_free {cs : List Char} (hfree : Free cs) :
    replaceFrom none cs = cs ∧
      ∀ pending, (∀ name ∈ opened? cs, named? (pending.reverse ++ name) = none) →
        replaceFrom (some pending) cs = ':' :: pending.reverse ++ cs := by
  -- along the text, with a name pending before it and without one
  induction cs with
  | nil => exact ⟨rfl, fun pending _ => by simp [replaceFrom]⟩
  | cons c cs ih =>
    obtain ⟨hnone, hsome⟩ := ih hfree.tail
    by_cases hcolon : c = ':'
    · subst hcolon
      constructor
      · rw [replaceFrom, if_pos (by rfl), hsome [] fun name hname => hfree name ?_]
        · rfl
        · rw [candidates, if_pos rfl]
          exact List.mem_append_left _ (Option.mem_toList.mpr hname)
      · intro pending hpending
        have hunnamed := hpending [] (by rw [opened?, if_pos rfl]; rfl)
        rw [List.append_nil] at hunnamed
        rw [replaceFrom, if_pos (by rfl), ofWritten_of_unnamed hunnamed, hnone]
        simp
    · have hne : ¬ (c == ':') = true := by simpa using hcolon
      constructor
      · rw [replaceFrom, if_neg hne, hnone]
      · intro pending hpending
        rw [replaceFrom, if_neg hne]
        by_cases hblank : isBlank c = true
        · rw [if_pos hblank, hnone]
        · rw [if_neg hblank, hsome (c :: pending) fun name hname => ?_]
          · simp
          · have hlonger := hpending (c :: name) (by
              rw [opened?, if_neg hcolon, if_neg hblank, Option.mem_def.mp hname]
              rfl)
            simpa using hlonger

/-- A text that is free of pictures stays as it is. -/
theorem replace_of_free {cs : List Char} (h : Free cs) : replace cs = cs :=
  (replaceFrom_of_free h).1

/-! ### Parts of a text -/

theorem opened?_of_no_colon {cs : List Char} (h : ':' ∉ cs) : opened? cs = none := by
  induction cs with
  | nil => rfl
  | cons c cs ih =>
    rw [List.mem_cons, not_or] at h
    rw [opened?, if_neg (Ne.symm h.1), ih h.2]
    simp

theorem candidates_of_no_colon {cs : List Char} (h : ':' ∉ cs) : candidates cs = [] := by
  induction cs with
  | nil => rfl
  | cons c cs ih =>
    rw [List.mem_cons, not_or] at h
    rw [candidates, if_neg (Ne.symm h.1), ih h.2]

/-- Nothing that comes behind a blank belongs to a name that is open. -/
theorem opened?_blank {b : Char} (hb : isBlank b = true) (hcolon : b ≠ ':') (cs ds : List Char) :
    opened? (cs ++ b :: ds) = opened? cs := by
  induction cs with
  | nil => simp [opened?, hcolon, hb]
  | cons c cs ih => rw [List.cons_append, opened?, opened?, ih]

/-- A blank parts a text. -/
theorem candidates_blank {b : Char} (hb : isBlank b = true) (hcolon : b ≠ ':')
    (cs ds : List Char) : candidates (cs ++ b :: ds) = candidates cs ++ candidates ds := by
  induction cs with
  | nil => simp [candidates, hcolon]
  | cons c cs ih =>
    rw [List.cons_append, candidates, candidates, ih, opened?_blank hb hcolon]
    split
    · rw [List.append_assoc]
    · rfl

/-- Characters other than colons behind a text end no name. -/
theorem candidates_append_of_no_colon (cs : List Char) {ds : List Char} (h : ':' ∉ ds) :
    candidates (cs ++ ds) = candidates cs := by
  have hopened : ∀ cs, opened? (cs ++ ds) = opened? cs := by
    intro cs
    induction cs with
    | nil => exact opened?_of_no_colon h
    | cons c cs ih => rw [List.cons_append, opened?, opened?, ih]
  induction cs with
  | nil => exact candidates_of_no_colon h
  | cons c cs ih => rw [List.cons_append, candidates, candidates, ih, hopened]

theorem candidates_cons {c : Char} (h : c ≠ ':') (cs : List Char) :
    candidates (c :: cs) = candidates cs := by
  rw [candidates, if_neg h]

end Picture

namespace Json

open Picture

/-! ### The layout of JSON -/

/-- A new line parts a text. -/
theorem candidates_newLine (depth : Nat) (cs ds : List Char) :
    candidates (cs ++ (newLine depth ++ ds)) = candidates cs ++ candidates ds := by
  have hspaces : ∀ n, candidates (List.replicate n ' ' ++ ds) = candidates ds := by
    intro n
    induction n with
    | zero => rfl
    | succ n ih =>
      rw [List.replicate_succ, List.cons_append, candidates_cons (by decide), ih]
  rw [newLine, List.cons_append, candidates_blank (by decide +kernel) (by decide), hspaces]

/-- The names in a block are those in its entries. -/
theorem candidates_block {first last : Char} (hfirst : first ≠ ':') (hlast : last ≠ ':')
    (depth : Nat) (entries : List (List Char)) :
    candidates (block first last depth entries) = entries.flatMap candidates := by
  cases entries with
  | nil =>
    rw [show block first last depth [] = [first, last] from rfl, candidates_cons hfirst,
      candidates_cons hlast]
    rfl
  | cons e es =>
    -- each entry ends at a new line, with a comma before it or none
    have hlines : ∀ e, candidates (e ++ (following (depth + 1) es ++ (newLine depth ++ [last]))) =
        (e :: es).flatMap candidates := by
      induction es with
      | nil =>
        intro e
        rw [show following (depth + 1) [] = [] from rfl, List.nil_append, candidates_newLine,
          candidates_cons hlast]
        simp [candidates]
      | cons e' es ih =>
        intro e
        have htext : e ++ (following (depth + 1) (e' :: es) ++ (newLine depth ++ [last])) =
            (e ++ [',']) ++ (newLine (depth + 1) ++
              (e' ++ (following (depth + 1) es ++ (newLine depth ++ [last])))) := by
          simp [following]
        rw [htext, candidates_newLine, candidates_append_of_no_colon e (by decide), ih e']
        rfl
    rw [block_cons, candidates_cons hfirst, ← List.nil_append (newLine _ ++ _),
      candidates_newLine, hlines]
    rfl

theorem candidates_list (depth : Nat) (xs : List Json) :
    candidates (renderAt depth (list xs)) =
      xs.flatMap fun x => candidates (renderAt (depth + 1) x) := by
  rw [renderAt, candidates_block (by decide) (by decide), renderItems_eq, List.flatMap_map]

/-- The name of a member has one colon behind it, which opens nothing. -/
theorem candidates_memberText (depth : Nat) {m : String × Json} (h : ':' ∉ quotedText m.1) :
    candidates (memberText depth m) = candidates (renderAt depth m.2) := by
  have hname : ∀ cs : List Char, ':' ∉ cs → candidates (cs ++ [':']) = [] := by
    intro cs
    induction cs with
    | nil => intro; rfl
    | cons c cs ih =>
      intro hcs
      rw [List.mem_cons, not_or] at hcs
      rw [List.cons_append, candidates_cons (Ne.symm hcs.1), ih hcs.2]
  have htext : memberText depth m = (quotedText m.1 ++ [':']) ++ ' ' :: renderAt depth m.2 := by
    simp [memberText]
  rw [htext, candidates_blank (by decide +kernel) (by decide), hname _ h, List.nil_append]

theorem candidates_object (depth : Nat) {ms : List (String × Json)}
    (h : ∀ m ∈ ms, ':' ∉ quotedText m.1) :
    candidates (renderAt depth (object ms)) =
      ms.flatMap fun m => candidates (renderAt (depth + 1) m.2) := by
  rw [renderAt, candidates_block (by decide) (by decide), renderMembers_eq, List.flatMap_map]
  exact List.flatMap_congr fun m hm => candidates_memberText (depth + 1) (h m hm)

end Json

namespace Report

open Picture Json

/-- The texts of a record, as they are quoted. -/
def RecordTexts.quoted (r : RecordTexts) : List (List Char) :=
  [quotedText r.location, quotedText r.type, quotedText r.value]

/-- The texts of an entry, as they are quoted. -/
def EntryTexts.quoted (e : EntryTexts) : List (List Char) :=
  e.annotations.flatMap RecordTexts.quoted ++ [quotedText e.declaration, quotedText e.kind]

theorem candidates_record (depth : Nat) (r : RecordTexts) :
    candidates (renderAt depth r.json) = r.quoted.flatMap candidates := by
  rw [RecordTexts.json, candidates_object depth (by simp only [List.forall_mem_cons]; decide)]
  simp [RecordTexts.quoted, renderAt]

theorem candidates_entry (depth : Nat) (e : EntryTexts) :
    candidates (renderAt depth e.json) = e.quoted.flatMap candidates := by
  rw [EntryTexts.json, candidates_object depth (by simp only [List.forall_mem_cons]; decide)]
  simp only [List.flatMap_cons, List.flatMap_nil, List.append_nil, candidates_list,
    List.flatMap_map, candidates_record, EntryTexts.quoted, List.flatMap_append,
    List.flatMap_assoc]
  rfl

/-- The names in the text of a listing are those in its quoted texts. -/
theorem candidates_listing (es : List Entry) :
    candidates (renderAt 0 (listing es)) =
      (es.flatMap fun e => e.texts.quoted).flatMap candidates := by
  rw [listing, candidates_object 0 (by simp only [List.forall_mem_cons]; decide)]
  simp only [List.flatMap_cons, List.flatMap_nil, List.append_nil, candidates_list,
    List.flatMap_map, candidates_entry, List.flatMap_assoc]

/-- The text of a listing is free of pictures if its quoted texts are. -/
theorem free_listing_iff (es : List Entry) :
    Free (renderAt 0 (listing es)) ↔ ∀ e ∈ es, ∀ t ∈ e.texts.quoted, Free t := by
  unfold Free
  rw [candidates_listing]
  simp only [List.mem_flatMap]
  constructor
  · intro h e he t ht name hname
    exact h name ⟨t, ⟨e, he, ht⟩, hname⟩
  · rintro h name ⟨t, ⟨e, he, ht⟩, hname⟩
    exact h e he t ht name hname

end Report

/-- A screen prints texts without tags as documented: the names of pictures replaced, and the end
of a line behind them. -/
def Screen.PrintsAsDocumented (s : Screen) : Prop :=
  ∀ cs, s.text cs = Picture.replace cs ++ ['\n']

theorem Screen.documented_printsAsDocumented : Screen.documented.PrintsAsDocumented :=
  fun _ => rfl

namespace Command

open Picture

/-- JSON that is free of pictures is printed as it is written to a file, with a line end. -/
theorem printedJson_of_free {s : Screen} (hscreen : s.PrintsAsDocumented) {j : Json}
    (h : Free (Json.renderAt 0 j)) : printedJson s j = j.render ++ "\n" := by
  rw [printedJson, hscreen, Json.render, String.toList_ofList, replace_of_free h,
    String.ofList_append]

/-- **JSON on the screen is the JSON in the file, where no picture is named.**  The screen prints
texts without tags as documented.  Whenever a dump to a file has a text for it, this text is read
back as the listing of all annotated declarations, with every path, kind, type, value and location
as it is; and the dump without a file prints this text with the names of pictures replaced, so just
this text, and a line end, if no text of the listing has such a name between two colons. -/
theorem dumped_text {i : Installation} (hscreen : i.screen.PrintsAsDocumented)
    {path file out text : String} {heeds : Bool} {project : Except PathFault Node} {o : Outcome}
    (hdump : run ⟨path, .dump (.json (some file)), heeds⟩ i project = .ok o)
    (hfile : o.file = some (out, text)) :
    out = file ∧ ∃ p ds c, project = .ok p ∧ Analyses i path heeds p ds c ∧
      Json.read text = some (Report.listing (Report.annotated c)) ∧
      ∃ o', run ⟨path, .dump (.json none), heeds⟩ i project = .ok o' ∧ o'.status = o.status ∧
        o'.printed = String.ofList (replace text.toList ++ ['\n']) ∧
        ((∀ e ∈ Report.annotated c, ∀ t ∈ e.texts.quoted, Free t) →
          o'.printed = text ++ "\n" ∧
            Json.read o'.printed = some (Report.listing (Report.annotated c))) := by
  obtain ⟨-, -, hnone, -⟩ | ⟨p, ds, c, o₁, rfl, hanalyses, hanswer, rfl⟩ := run_cases hdump
  · rw [hfile] at hnone
    cases hnone
  rw [answer, dump_json_eq] at hanswer
  by_cases hlegible : ∀ e ∈ Report.annotated c, e.Legible
  · rw [if_pos hlegible] at hanswer
    have hprint := hanalyses.run_dump hlegible
    obtain ⟨rfl, rfl, hstatus⟩ : out = file ∧
        text = (Report.listing (Report.annotated c)).render ∧ o₁.status = 0 := by
      cases hanswer
      cases hfile
      exact ⟨rfl, rfl, rfl⟩
    have hprinted : printedJson i.screen (Report.listing (Report.annotated c)) =
        String.ofList (replace (Report.listing (Report.annotated c)).render.toList ++ ['\n']) :=
      congrArg String.ofList (hscreen _)
    refine ⟨rfl, p, ds, c, rfl, hanalyses, Json.read_render _, _, hprint, hstatus.symm, hprinted,
      fun hfree => ?_⟩
    have hsame := printedJson_of_free hscreen ((Report.free_listing_iff _).mpr hfree)
    refine ⟨hsame, ?_⟩
    show Json.read (printedJson _ _) = _
    rw [hsame]
    exact Json.read_render_append _ (show ['\n'].all Json.isSpace = true from rfl)
  · rw [if_neg hlegible] at hanswer
    cases hanswer

/-- The listing of a function that has one annotation, in the first line of its file. -/
def functionListing (type value : String) : Json :=
  .object [("declarations", .list [.object [
    ("annotations", .list [.object [("location", .text "m.py:1:6"), ("type", .text type),
      ("value", .text value)]]),
    ("declaration", .text "m:f"), ("kind", .text "function")]])]

theorem listing_of_entries {c : Compilation} {d : Declaration} {type value : String}
    (h : (Report.annotated c).map (fun e => (e.declaration, e.texts)) =
      [(d, ⟨"m:f", "function", [⟨type, value, "m.py:1:6"⟩]⟩)]) :
    Report.listing (Report.annotated c) = functionListing type value := by
  have htexts := congrArg (List.map Prod.snd) h
  rw [List.map_map] at htexts
  rw [Report.listing_eq]
  exact congrArg (fun ts => Json.object [("declarations", .list (ts.map Report.EntryTexts.json))])
    htexts

/-- No text of the listing of a function with a number names a picture. -/
theorem dumped_text_plain :
    ∃ o text o', run ⟨"project", .dump (.json (some "out.json")), false⟩ {}
        (.ok (projectWith "@meta(1)\ndef f(): pass\n")) = .ok o ∧
      o.file = some ("out.json", text) ∧
      run ⟨"project", .dump (.json none), false⟩ {}
        (.ok (projectWith "@meta(1)\ndef f(): pass\n")) = .ok o' ∧
      o'.printed = text ++ "\n" ∧ Json.read o'.printed = some (functionListing "int" "1") := by
  obtain ⟨ds, c, h, hlegible, hentries, -⟩ := exists_analyses digest_plain
  have hdump := h.run_dump_file "out.json" (hlegible (by decide))
  obtain ⟨-, p, ds', c', hp, h', -, o', hprint, -, -, hfree⟩ :=
    dumped_text Screen.documented_printsAsDocumented hdump rfl
  cases hp
  obtain ⟨rfl, rfl⟩ := h.unique h'
  have hquoted : ∀ e ∈ Report.annotated c', ∀ t ∈ e.texts.quoted, Free t := by
    intro e he
    rw [(eq_of_only_entry hentries e he).2]
    decide +kernel
  obtain ⟨hsame, hread⟩ := hfree hquoted
  refine ⟨_, _, o', hdump, rfl, hprint, hsame, ?_⟩
  rw [hread, listing_of_entries hentries]

set_option maxRecDepth 100000 in
theorem digest_picture :
    digest {} "project" (projectWith "@meta(':100:')\ndef f(): pass\n") = some {
      entries := [
        (⟨⟨1, 1⟩, .function, "m", "f", ⟨"m.py", 2, 0⟩, []⟩,
          ⟨"m:f", "function", [⟨"str", "':100:'", "m.py:1:6"⟩]⟩, true)]
      bindings := [(("m", "f"), .declared ⟨1, 1⟩), (("m", ""), .declared ⟨1, 0⟩)] } := by
  decide +kernel

/-- The characters of the listing of a function that is annotated with the name of a picture. -/
def pictureListing : List Char := Json.renderAt 0 (functionListing "str" "':100:'")

/-- These characters with the picture for the five characters of its name. -/
def pictureScreen : List Char := pictureListing.take 141 ++ '💯' :: pictureListing.drop 146

theorem replace_pictureListing : replace pictureListing = pictureScreen := by
  decide +kernel

/-- With the picture the text is read as another listing. -/
theorem read_printed_picture :
    Json.read (printedJson .documented (functionListing "str" "':100:'")) =
      some (functionListing "str" "'💯'") := by
  have hread : (Json.readValue (pictureScreen ++ ['\n']).length (pictureScreen ++ ['\n'])).map
      (fun r => (Json.renderAt 0 r.1, r.2)) =
        some (Json.renderAt 0 (functionListing "str" "'💯'"), ['\n']) := by
    decide +kernel
  obtain ⟨⟨j, rest⟩, hvalue, htext⟩ := Option.map_eq_some_iff.mp hread
  obtain ⟨hj, rfl⟩ : Json.renderAt 0 j = _ ∧ rest = _ := Prod.mk.inj htext
  -- values with the same text are the same, since it is read as each of them
  have hsame : some j = some (functionListing "str" "'💯'") := by
    rw [← Json.read_render j, ← Json.read_render (functionListing _ _), Json.render, hj,
      Json.render]
  rw [printedJson, Json.read, Json.render, String.toList_ofList, String.toList_ofList,
    show Json.renderAt 0 (functionListing "str" "':100:'") = pictureListing from rfl,
    Screen.documented_printsAsDocumented, replace_pictureListing, hvalue, ← hsame]
  rfl

/-- A name between two colons is printed as a picture, so what is printed is not what goes to a
file: it is read as the listing of another value. -/
theorem dumped_text_picture :
    ∃ o text o', run ⟨"project", .dump (.json (some "out.json")), false⟩ {}
        (.ok (projectWith "@meta(':100:')\ndef f(): pass\n")) = .ok o ∧
      o.file = some ("out.json", text) ∧
      Json.read text = some (functionListing "str" "':100:'") ∧
      run ⟨"project", .dump (.json none), false⟩ {}
        (.ok (projectWith "@meta(':100:')\ndef f(): pass\n")) = .ok o' ∧
      o'.printed ≠ text ++ "\n" ∧
      Json.read o'.printed = some (functionListing "str" "'💯'") := by
  obtain ⟨ds, c, h, hlegible, hentries, -⟩ := exists_analyses digest_picture
  have hlegible := hlegible (by decide)
  have hlisting := listing_of_entries hentries
  have hdump := h.run_dump_file "out.json" hlegible
  have hprint := h.run_dump hlegible
  rw [hlisting] at hdump hprint
  refine ⟨_, _, _, hdump, rfl, Json.read_render _, hprint, fun hsame => ?_, read_printed_picture⟩
  have hread := read_printed_picture
  rw [show printedJson .documented (functionListing "str" "':100:'") = _ from hsame,
    Json.read_render_append _ (show ['\n'].all Json.isSpace = true from rfl)] at hread
  simp [functionListing] at hread

end Command

end Marginalia
