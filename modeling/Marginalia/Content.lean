/-
Contents of files.

Reading a file gives its bytes, unless the system refuses; its text is read from the bytes
as UTF-8, with line ends of one kind; `Lines.split` gives the lines of a text.
-/
import Marginalia.Text.Codec
import Marginalia.Text.Quoted

namespace Marginalia

namespace Lines

/-- Characters that end a line. -/
def isBreak (c : Char) : Bool :=
  [0x0a, 0x0b, 0x0c, 0x0d, 0x1c, 0x1d, 0x1e, 0x85, 0x2028, 0x2029].contains c.toNat

/-- Writes each line end of two characters or with a carriage return alone as one line feed. -/
def normal : List Char → List Char
  | '\r' :: '\n' :: cs => '\n' :: normal cs
  | '\r' :: cs => '\n' :: normal cs
  | c :: cs => c :: normal cs
  | [] => []

/-- The lines of a text, the first of which started with what is collected, the last
character first. -/
def splitFrom (here : List Char) : List Char → List (List Char)
  | [] => if here.isEmpty then [] else [here.reverse]
  | '\r' :: '\n' :: cs => here.reverse :: splitFrom [] cs
  | c :: cs => if isBreak c then here.reverse :: splitFrom [] cs else splitFrom (c :: here) cs

/-- The lines of a text without their ends; no line follows a final line end. -/
def split (s : String) : List String := (splitFrom [] s.toList).map String.ofList

end Lines

/-- Why the system does not give what is asked for under a path. -/
inductive PathFault where
  | missing (path : String)
  | notFolder (path : String)
  | denied (path : String)
deriving DecidableEq, Repr

namespace PathFault

/-- The class of error. -/
def kind : PathFault → String
  | missing _ => "FileNotFoundError"
  | notFolder _ => "NotADirectoryError"
  | denied _ => "PermissionError"

/-- The sentence for a fault. -/
def message : PathFault → String
  | missing p => "[Errno 2] No such file or directory: " ++ quoted p
  | notFolder p => "[Errno 20] Not a directory: " ++ quoted p
  | denied p => "[Errno 13] Permission denied: " ++ quoted p

end PathFault

/-- What comes of reading a file. -/
abbrev FileContent := Except PathFault (List UInt8)

/-- Why a file has no text. -/
inductive ReadFault where
  | path (f : PathFault)
  | undecodable (e : CodecError)

/-- The sentence for a fault. -/
def ReadFault.message : ReadFault → String
  | path f => f.message
  | undecodable e => e.message

/-- The text of bytes, with line ends of one kind. -/
def textOfBytes (bs : List UInt8) : Except CodecError String := do
  return String.ofList (Lines.normal (← Codec.decodeAs .utf8 "strict" bs))

/-- The text of a file. -/
def textOfContent : FileContent → Except ReadFault String
  | .ok bs => (textOfBytes bs).mapError .undecodable
  | .error f => .error (.path f)

end Marginalia
