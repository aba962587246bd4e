/-
Texts as bytes and back, by the name of an encoding and of a handler.
-/
import Marginalia.Text.Codec.Chinese
import Marginalia.Text.Codec.DomainName
import Marginalia.Text.Codec.Escape
import Marginalia.Text.Codec.Korean
import Marginalia.Text.Codec.Names
import Marginalia.Text.Codec.Switching
import Marginalia.Text.Codec.Utf7

namespace Marginalia

namespace Codec

/-- Reads bytes behind a mark that tells their order; without one the lower come first. -/
def readMarked (width : Nat) (reader : ByteOrder → ByteReader) (handler : String)
    (bs : List UInt8) : Except CodecError (List Char) :=
  let behind (o : ByteOrder) : Except CodecError (List Char) :=
    (reader o).readBehind handler width (bs.drop width)
  if bs.take width == ByteOrder.little.bytes width 0xfeff then behind .little
  else if bs.take width == ByteOrder.big.bytes width 0xfeff then behind .big
  else (reader .little).read handler bs

/-- The encoding of several bytes with some name. -/
def multibyteNamed (name : String) : Multibyte :=
  match name with
  | "gb2312" => Chinese.gb2312
  | "gbk" => Chinese.gbk
  | "big5" => Chinese.big5
  | "cp950" => Chinese.page950
  | "big5hkscs" => Chinese.hongKong
  | "euc_kr" => Korean.basic
  | "cp949" => Korean.unified
  | "johab" => Korean.combining
  | "shift_jis" => Japanese.shifted
  | "cp932" => Japanese.page932
  | "euc_jp" => Japanese.extended
  | "shift_jisx0213" => Japanese.shiftedExtended .year2000
  | "shift_jis_2004" => Japanese.shiftedExtended .year2004
  | "euc_jisx0213" => Japanese.upperExtended .year2000
  | "euc_jis_2004" => Japanese.upperExtended .year2004
  | _ => Chinese.gb18030

/-- The scheme of signs with some name. -/
def schemeNamed (name : String) : Switching.Scheme :=
  (Switching.schemes.find? fun s => s.label == name).getD ⟨name, [], false, false, false⟩

/-- Reads bytes in an encoding. -/
def decodeAs (e : Encoding) (handler : String) (bs : List UInt8) :
    Except CodecError (List Char) :=
  match e with
  | .ascii => (Bytewise.reader "ascii" 128).read handler bs
  | .latin1 => (Bytewise.reader "latin-1" 256).read handler bs
  | .utf7 => Utf7.decode handler bs
  | .utf8 => Utf8.reader.read handler bs
  | .utf8Marked =>
    Utf8.reader.read handler (if Utf8.mark.isPrefixOf bs then bs.drop Utf8.mark.length else bs)
  | .utf16 none => readMarked 2 Utf16.reader handler bs
  | .utf16 (some o) => (Utf16.reader o).read handler bs
  | .utf32 none => readMarked 4 Utf32.reader handler bs
  | .utf32 (some o) => (Utf32.reader o).read handler bs
  | .table name =>
    (SingleByte.reader (SingleByte.codesOfTable ((SingleByte.tables.lookup name).getD ""))).read
      handler bs
  | .multibyte name => (multibyteNamed name).reader.read handler bs
  | .switching name => (Switching.reader (schemeNamed name)).read handler 0 bs
  | .tildes => Switching.tildeReader.read handler 0 bs
  | .escape => Escape.reader.read handler bs
  | .rawEscape => Escape.rawReader.read handler bs
  | .punycode => Punycode.decode handler bs
  | .domainName => DomainName.decode handler bs
  | .undefined | .notForText => .error (.refused "undefined encoding")

/-- Writes characters in an encoding. -/
def encodeAs (e : Encoding) (handler : String) (cs : List Char) :
    Except CodecError (List UInt8) :=
  match e with
  | .ascii => (Bytewise.writer "ascii" 128).write handler cs
  | .latin1 => (Bytewise.writer "latin-1" 256).write handler cs
  | .utf7 => .ok (Utf7.encode cs)
  | .utf8 => .ok (cs.flatMap Utf8.ofChar)
  | .utf8Marked => .ok (Utf8.mark ++ cs.flatMap Utf8.ofChar)
  | .utf16 none => .ok (ByteOrder.little.bytes 2 0xfeff ++ Utf16.encode .little cs)
  | .utf16 (some o) => .ok (Utf16.encode o cs)
  | .utf32 none => .ok (ByteOrder.little.bytes 4 0xfeff ++ Utf32.encode .little cs)
  | .utf32 (some o) => .ok (Utf32.encode o cs)
  | .table name =>
    (SingleByte.writer (SingleByte.codesOfTable ((SingleByte.tables.lookup name).getD ""))).write
      handler cs
  | .multibyte name => (multibyteNamed name).writer.write handler cs
  | .switching name => (Switching.writer (schemeNamed name)).write handler cs
  | .tildes => Switching.tildeWriter.write handler cs
  | .escape => .ok (Escape.encode cs)
  | .rawEscape => .ok (Escape.encodeRaw cs)
  | .punycode => .ok ((Punycode.encode cs).map fun c => UInt8.ofNat c.toNat)
  | .domainName => DomainName.encode handler cs
  | .undefined | .notForText => .error (.refused "undefined encoding")

/-- The encoding with some name, to be used for texts. -/
def find (name verb : String) : Except CodecError Encoding :=
  match Encoding.ofName? name with
  | none => .error (.unknownEncoding name)
  | some .notForText => .error (.notForText name verb)
  | some e => .ok e

/-- A failure as it is told: with the name of the encoding unless that is a common one. -/
def told (activity name : String) (e : CodecError) : CodecError :=
  if Encoding.common.contains (Encoding.normalName name) then e else e.within activity name

/-- Reads bytes as a text; no bytes are no text in every encoding. -/
def decode (encoding handler : String) (bs : List UInt8) : Except CodecError String := do
  if bs.isEmpty then return ""
  let e ← find encoding "decode"
  return String.ofList (← (decodeAs e handler bs).mapError (told "decoding" encoding))

/-- Writes a text as bytes. -/
def encode (encoding handler : String) (s : String) : Except CodecError (List UInt8) := do
  let e ← find encoding "encode"
  (encodeAs e handler s.toList).mapError (told "encoding" encoding)

end Codec

end Marginalia
