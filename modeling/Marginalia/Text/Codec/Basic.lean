/-
Turning texts into bytes and back, character by character.

A reader says what the next bytes stand for and a writer which bytes the next character
has.  `StateReader` and `StateWriter` are in a state that each step can change; `ByteReader`
and `CharWriter` need none.  `read` and `write` go through all of the input and ask a
handler, which is given by name, about whatever cannot be turned.  In the encodings of
`Bytewise` each of the first so many characters is the byte of its number.
-/
import Marginalia.Text.CharName
import Marginalia.Text.Quoted

namespace Marginalia

/-- What is done about a character or byte that cannot be turned. -/
inductive Handler where
  | strict | ignore | replace | escape | reference | named
  /-- Only halves of characters are dealt with, which texts never hold. -/
  | halves
deriving DecidableEq, Repr

/-- The handler with some name. -/
def Handler.ofName? (name : String) : Option Handler :=
  [("strict", strict), ("ignore", ignore), ("replace", replace), ("backslashreplace", escape),
    ("xmlcharrefreplace", reference), ("namereplace", named), ("surrogateescape", halves),
    ("surrogatepass", halves)].lookup name

/-- Why a text has no bytes, or bytes are no text. -/
inductive CodecError where
  | unknownEncoding (name : String)
  /-- The encoding turns something else into bytes, or bytes into something else. -/
  | notForText (name verb : String)
  | unknownHandler (name : String)
  /-- The handler only knows about characters. -/
  | unsuitedHandler
  | cannotEncode (encoding : String) (first : Char) (start stop : Nat) (reason : String)
  | cannotDecode (encoding : String) (first : UInt8) (start stop : Nat) (reason : String)
  /-- The text or the bytes as a whole break a rule of the encoding. -/
  | refused (reason : String)
  /-- A name that is not the one its bytes come from. -/
  | noRoundTrip (given made : List UInt8)
  /-- The failure of an encoding, told by its name. -/
  | inside (activity encoding : String) (cause : CodecError)
deriving Repr

namespace CodecError

/-- The class of error a failure belongs to. -/
def kind : CodecError → String
  | unknownEncoding _ | notForText .. | unknownHandler _ => "LookupError"
  | unsuitedHandler => "TypeError"
  | cannotEncode .. => "UnicodeEncodeError"
  | cannotDecode .. => "UnicodeDecodeError"
  | refused _ | noRoundTrip .. => "UnicodeError"
  | inside _ _ e => e.kind

/-- The sentence for a failure; `stop` is behind the last position it is about. -/
def message : CodecError → String
  | unknownEncoding n => "unknown encoding: " ++ n
  | notForText n verb => "'" ++ n ++ "' is not a text encoding; use codecs." ++ verb ++
      "() to handle arbitrary codecs"
  | unknownHandler n => "unknown error handler name " ++ quoted n
  | unsuitedHandler => "don't know how to handle UnicodeDecodeError in error callback"
  | cannotEncode e c start stop reason =>
    "'" ++ e ++ "' codec can't encode " ++
      (if stop = start + 1 then
        "character '" ++ String.ofList (codeEscape c.toNat) ++ "' in position " ++ toString start
      else "characters in position " ++ toString start ++ "-" ++ toString (stop - 1)) ++
      ": " ++ reason
  | cannotDecode e b start stop reason =>
    "'" ++ e ++ "' codec can't decode " ++
      (if stop = start + 1 then
        "byte 0x" ++ String.ofList (hexText 2 b.toNat) ++ " in position " ++ toString start
      else "bytes in position " ++ toString start ++ "-" ++ toString (stop - 1)) ++
      ": " ++ reason
  | refused reason => reason
  | noRoundTrip a b =>
    "('IDNA does not round-trip', " ++ quotedBytes a ++ ", " ++ quotedBytes b ++ ")"
  | inside activity n e =>
    activity ++ " with '" ++ n ++ "' codec failed (" ++ e.kind ++ ": " ++ e.message ++ ")"

/-- A failure as it is told where the encoding was asked for by name.  Those that say
themselves where they happened stay as they are. -/
def within (activity encoding : String) (e : CodecError) : CodecError :=
  match e with
  | cannotEncode .. | cannotDecode .. | noRoundTrip .. => e
  | e => inside activity encoding e

end CodecError

/-- Bytes that stand for nothing. -/
structure BadBytes where
  /-- How many there are. -/
  size : Nat
  reason : String

/-- What stands in for bytes that cannot be read. -/
def BadBytes.standIn (label handler : String) (pos : Nat) (b : UInt8) (more : List UInt8)
    (bad : BadBytes) : Except CodecError (List Char) :=
  match Handler.ofName? handler with
  | some .ignore => .ok []
  | some .replace => .ok [Char.ofNat 0xfffd]
  | some .escape => .ok ((b :: more).flatMap fun x => codeEscape x.toNat)
  | some .reference | some .named => .error .unsuitedHandler
  | some .strict | some .halves =>
    .error (.cannotDecode label b pos (pos + bad.size) bad.reason)
  | none => .error (.unknownHandler handler)

/-- How bytes are read that mean different things in different states. -/
structure StateReader (State : Type) where
  /-- The name of the encoding in refusals. -/
  label : String
  start : State
  /-- Reads the characters that a byte and those behind it stand for; says how many of
  those behind it are used up, and the state behind them. -/
  next : State → UInt8 → List UInt8 → Except BadBytes (List Char × Nat × State)

namespace StateReader

/-- Reads bytes from a position on; `fuel` bounds the number of steps, each of which takes a
byte, and `out` holds what has been read, the last first. -/
def readFrom {State : Type} (r : StateReader State) (handler : String) :
    Nat → Nat → State → List UInt8 → List Char → Except CodecError (List Char)
  | 0, _, _, _, out => .ok out.reverse
  | _, _, _, [], out => .ok out.reverse
  | fuel + 1, pos, s, b :: bs, out =>
    match r.next s b bs with
    | .ok (cs, n, s) => readFrom r handler fuel (pos + n + 1) s (bs.drop n) (cs.reverse ++ out)
    | .error bad =>
      match bad.standIn r.label handler pos b (bs.take (bad.size - 1)) with
      | .ok cs =>
        readFrom r handler fuel (pos + bad.size) s (bs.drop (bad.size - 1)) (cs.reverse ++ out)
      | .error e => .error e

/-- Reads bytes behind so many others. -/
def read {State : Type} (r : StateReader State) (handler : String) (pos : Nat)
    (bs : List UInt8) : Except CodecError (List Char) :=
  r.readFrom handler bs.length pos r.start bs []

end StateReader

/-- How bytes are read that always mean the same. -/
structure ByteReader where
  /-- The name of the encoding in refusals. -/
  label : String
  /-- Reads the characters that a byte and those behind it stand for; says how many of
  those behind it are used up. -/
  next : UInt8 → List UInt8 → Except BadBytes (List Char × Nat)

namespace ByteReader

/-- The same reader, with the only state there is. -/
def withState (r : ByteReader) : StateReader Unit where
  label := r.label
  start := ()
  next _ b bs := (r.next b bs).map fun (cs, n) => (cs, n, ())

/-- Reads bytes behind so many others. -/
def readBehind (r : ByteReader) (handler : String) (pos : Nat) (bs : List UInt8) :
    Except CodecError (List Char) := r.withState.read handler pos bs

/-- Reads bytes as a text. -/
def read (r : ByteReader) (handler : String) (bs : List UInt8) : Except CodecError (List Char) :=
  r.readBehind handler 0 bs

end ByteReader

/-- The text that stands in for a character that cannot be written. -/
def Handler.standIn (h : Handler) (c : Char) : Option String :=
  match h with
  | .ignore => some ""
  | .replace => some "?"
  | .escape => some (String.ofList (codeEscape c.toNat))
  | .reference => some ("&#" ++ toString c.toNat ++ ";")
  | .named => some (match charName? c with
    | some n => "\\N\x7b" ++ n ++ "\x7d"
    | none => String.ofList (codeEscape c.toNat))
  | .strict | .halves => none

/-- How characters are written whose bytes depend on a state. -/
structure StateWriter (State : Type) where
  /-- The name of the encoding in refusals. -/
  label : String
  /-- What is wrong with a character that cannot be written. -/
  reason : String
  /-- Characters in a row that cannot be written are refused together. -/
  inRuns : Bool
  start : State
  /-- The bytes of a character, alone or with some of those behind it; says how many of
  those are written with it, and the state behind them. -/
  next : State → Char → List Char → Option (List UInt8 × Nat × State)
  /-- The bytes at the end of a text. -/
  finish : State → List UInt8

namespace StateWriter

/-- The bytes of a text all of which can be written, and the state behind it. -/
def plain {State : Type} (w : StateWriter State) : State → List Char → Option (List UInt8 × State)
  | s, [] => some ([], s)
  | s, c :: cs => do
    let (bs, _, s) ← w.next s c []
    let (more, s) ← w.plain s cs
    return (bs ++ more, s)

/-- Writes characters from a position on, the first so many of which are already written;
`out` holds what has been written, the last first. -/
def writeFrom {State : Type} (w : StateWriter State) (handler : String) :
    Nat → Nat → State → List Char → List UInt8 → Except CodecError (List UInt8)
  | _, _, s, [], out => .ok (out.reverse ++ w.finish s)
  | pos, skip + 1, s, _ :: cs, out => writeFrom w handler (pos + 1) skip s cs out
  | pos, 0, s, c :: cs, out =>
    match w.next s c cs with
    | some (bs, used, s) => writeFrom w handler (pos + 1) used s cs (bs.reverse ++ out)
    | none =>
      match Handler.ofName? handler with
      | none => .error (.unknownHandler handler)
      | some h =>
        match (h.standIn c).bind fun t => w.plain s t.toList with
        | some (bs, s) => writeFrom w handler (pos + 1) 0 s cs (bs.reverse ++ out)
        | none =>
          let more :=
            if w.inRuns then (cs.takeWhile fun c => (w.next s c []).isNone).length else 0
          .error (.cannotEncode w.label c pos (pos + 1 + more) w.reason)

/-- Writes a text as bytes. -/
def write {State : Type} (w : StateWriter State) (handler : String) (cs : List Char) :
    Except CodecError (List UInt8) := w.writeFrom handler 0 0 w.start cs []

end StateWriter

/-- How characters are written that have bytes of their own. -/
structure CharWriter where
  /-- The name of the encoding in refusals. -/
  label : String
  /-- What is wrong with a character that cannot be written. -/
  reason : String
  /-- The bytes of a character, if it has any. -/
  bytesOf : Char → Option (List UInt8)

namespace CharWriter

/-- The same writer, with the only state there is. -/
def withState (w : CharWriter) : StateWriter Unit where
  label := w.label
  reason := w.reason
  inRuns := true
  start := ()
  next _ c _ := (w.bytesOf c).map fun bs => (bs, 0, ())
  finish _ := []

/-- Writes a text as bytes. -/
def write (w : CharWriter) (handler : String) (cs : List Char) : Except CodecError (List UInt8) :=
  w.withState.write handler cs

end CharWriter

namespace Bytewise

/-- What is wrong with a number that is too large. -/
def reason (limit : Nat) : String := "ordinal not in range(" ++ toString limit ++ ")"

/-- Reads bytes below a limit. -/
def reader (label : String) (limit : Nat) : ByteReader where
  label
  next b _ :=
    if b.toNat < limit then .ok ([Char.ofNat b.toNat], 0) else .error ⟨1, reason limit⟩

/-- Writes characters below a limit. -/
def writer (label : String) (limit : Nat) : CharWriter where
  label
  reason := reason limit
  bytesOf c := if c.toNat < limit then some [UInt8.ofNat c.toNat] else none

end Bytewise

end Marginalia
