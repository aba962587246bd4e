/-
Highlighted titles.

What looks like a value or a part of one is set apart in a title: numbers, quoted texts,
addresses, brackets and the like.  Titles hold no slash.
-/
import Marginalia.Terminal.Pattern
import Marginalia.Terminal.StyledText

namespace Marginalia

namespace Highlight

open TextPattern

/-- A digit. -/
def digit : TextPattern := char Char.isDigit

/-- A digit of any script. -/
def anyDigit : TextPattern := char fun c => (digitValue? c).isSome

/-- A digit in base sixteen. -/
def hex : TextPattern := char fun c => c.isDigit || ('a' ≤ c && c ≤ 'f') || ('A' ≤ c && c ≤ 'F')

/-- A character of words. -/
def word : TextPattern := char isWordChar

/-- One of some characters. -/
def oneIn (s : String) : TextPattern := char s.toList.contains

/-- What stands between angles: a name and anything else. -/
def tag : TextPattern := inTurn [
  named "tag_start" (text "<"),
  named "tag_name" (many (char fun c => isWordChar c || "-.:|".toList.contains c)),
  named "tag_contents" (many (char fun _ => true)),
  named "tag_end" (text ">")]

/-- A name, an equals sign and a value. -/
def namedValue : TextPattern := inTurn [
  named "attrib_name" (between 1 50 word),
  text "=",
  optional (named "attrib_value" (inTurn [optional (text "\""), many1 word, optional (text "\"")]))]

/-- A bracket. -/
def brace : TextPattern := named "brace" (oneIn "[]\x7b\x7d()")

/-- Some patterns with a separator behind each, and another pattern. -/
def chain (n : Nat) (part separator : TextPattern) : TextPattern :=
  inTurn [times n (some n) true (andThen part separator), part]

/-- Addresses of hosts and devices. -/
def address : TextPattern :=
  let pair := between 1 2 hex
  let four := between 4 4 hex
  anyOf [
    named "ipv4" (chain 3 (between 1 3 digit) (text ".")),
    named "ipv6" (inTurn [
      between 1 7 (inTurn [between 1 4 hex, text ":", optional (text ":")]), between 1 4 hex]),
    named "eui64" (anyOf [chain 7 pair (text "-"), chain 7 pair (text ":"), chain 3 four (text ".")]),
    named "eui48" (anyOf [chain 5 pair (text "-"), chain 5 pair (text ":"), chain 2 four (text ".")]),
    named "uuid" (inTurn [between 8 8 hex, text "-", four, text "-", four, text "-", four, text "-",
      between 12 12 hex])]

/-- What is called: the characters before a bracket. -/
def call : TextPattern :=
  inTurn [named "call" (times 0 none false (char fun c => isWordChar c || c == '.')), text "("]

/-- A whole word with a name. -/
def keyword (name s : String) : TextPattern := inTurn [edge true, named name (text s), edge true]

/-- Digits with an optional point among them and an exponent; `loose` when the digits of the
exponent are as few as possible. -/
def amount (loose : Bool) : TextPattern := inTurn [
  many1 digit, optional (text "."), many digit,
  optional (inTurn [text "e", optional (oneIn "-+"), times 1 none (!loose) anyDigit])]

/-- Numbers. -/
def number : TextPattern := anyOf [
  named "number_complex" (inTurn [
    notBehind isWordChar, optional (text "-"), amount true,
    optional (andThen (oneIn "-+") (amount false)), text "j"]),
  named "number" (anyOf [
    inTurn [notBehind isWordChar, optional (text "-"), amount true, edge true],
    inTurn [text "0x", many hex]])]

/-- A text between quotes, with or without a letter before it. -/
def quotedBy (q : String) : TextPattern := inTurn [
  optional (text "b"), text q, times 0 none false (char (· != '\n')), notBehind (· == '\\'), text q]

/-- Texts between quotes. -/
def quotation : TextPattern := andThen (notBehind fun c => c == '\\' || isWordChar c)
  (named "str" (anyOf [quotedBy "'''", quotedBy "'", quotedBy "\"\"\"", quotedBy "\""]))

/-- What is set apart, in the order in which it is looked for. -/
def patterns : List TextPattern := [
  tag,
  namedValue,
  brace,
  anyOf [address, call, keyword "bool_true" "True", keyword "bool_false" "False",
    keyword "none" "None", named "ellipsis" (text "..."), number, quotation]]

/-- The spans that set apart what looks like a value. -/
def spans (cs : List Char) : List Span :=
  patterns.flatMap fun p => (p.findAll cs).flatMap fun parts =>
    parts.filterMap fun (name, start, stop) =>
      if start < stop then
        some ⟨start, stop, ((Style.named ("repr." ++ name)).toOption).getD {}⟩
      else none

/-- A text with what looks like a value set apart; its own spans lie above. -/
def apply (t : StyledText) : StyledText := { t with spans := spans t.chars ++ t.spans }

end Highlight

end Marginalia
