import ChainArchive.Text.Chinese
import ChainArchive.Text.Japanese
import ChainArchive.Text.Korean
import ChainArchive.Text.SingleByte
import ChainArchive.Text.Utf8

namespace ChainArchive.Text

/-! The encodings that a content type can name. -/

inductive Charset where
  | utf8
  | utf16 (bigEndian : Bool)
  | singleByte (encoding : SingleByte)
  | doubleByte (encoding : DoubleByte)
  /-- Japanese in pairs of high bytes. -/
  | eucJp
  /-- Japanese in seven bits. -/
  | iso2022Jp
  /-- Chinese in two and four bytes. -/
  | gb18030
  /-- High bytes stand for private characters. -/
  | userDefined
  /-- Encodings that are not read at all. -/
  | unread

namespace Charset

def utf8Labels : List String :=
  ["unicode-1-1-utf-8", "unicode11utf8", "unicode20utf8", "utf-8", "utf8", "x-unicode20utf8"]

def littleEndianLabels : List String :=
  ["csunicode", "iso-10646-ucs-2", "ucs-2", "unicode", "unicodefeff", "utf-16", "utf-16le"]

def bigEndianLabels : List String := ["unicodefffe", "utf-16be"]

def unreadLabels : List String :=
  ["csiso2022kr", "hz-gb-2312", "iso-2022-cn", "iso-2022-cn-ext", "iso-2022-kr",
    "replacement"]

def shiftJisLabels : List String :=
  ["csshiftjis", "ms932", "ms_kanji", "shift-jis", "shift_jis", "sjis", "windows-31j", "x-sjis"]

def eucJpLabels : List String := ["cseucpkdfmtjapanese", "euc-jp", "x-euc-jp"]

def iso2022JpLabels : List String := ["csiso2022jp", "iso-2022-jp"]

def eucKrLabels : List String :=
  ["cseuckr", "csksc56011987", "euc-kr", "iso-ir-149", "korean", "ks_c_5601-1987",
    "ks_c_5601-1989", "ksc5601", "ksc_5601", "windows-949"]

def gbLabels : List String :=
  ["chinese", "csgb2312", "csiso58gb231280", "gb2312", "gb_2312", "gb_2312-80", "gbk",
    "iso-ir-58", "x-gbk", "gb18030"]

def big5Labels : List String := ["big5", "big5-hkscs", "cn-big5", "csbig5", "x-x-big5"]

def userDefinedLabels : List String := ["x-user-defined"]

def labelled : List (List String × Charset) :=
  [(utf8Labels, .utf8), (littleEndianLabels, .utf16 false), (bigEndianLabels, .utf16 true),
    (unreadLabels, .unread), (shiftJisLabels, .doubleByte Japanese.shiftJis),
    (eucJpLabels, .eucJp), (iso2022JpLabels, .iso2022Jp),
    (eucKrLabels, .doubleByte Korean.eucKr), (gbLabels, .gb18030),
    (big5Labels, .doubleByte Chinese.big5), (userDefinedLabels, .userDefined)]

def isLabelBlank (c : Char) : Bool :=
  c == ' ' || c == '\t' || c == '\n' || c == '\r' || c == '\x0c'

def ofLabel? (label : String) : Option Charset :=
  let inner := label.toList.dropWhile isLabelBlank
  let inner := (inner.reverse.dropWhile isLabelBlank).reverse
  let name := String.ofList (inner.map Char.toLower)
  match labelled.find? (·.1.contains name) with
  | some (_, charset) => some charset
  | none => (SingleByte.all.find? (·.labels.contains name)).map .singleByte

def decodeUnits (bigEndian : Bool) : Bytes → List Char
  | [] => []
  | [_] => ['\uFFFD']
  | a :: b :: rest =>
      let unit (x y : UInt8) : Nat :=
        if bigEndian then x.toNat * 256 + y.toNat else y.toNat * 256 + x.toNat
      let first := unit a b
      if first < 0xD800 || 0xE000 ≤ first then Char.ofNat first :: decodeUnits bigEndian rest
      else if 0xDC00 ≤ first then '\uFFFD' :: decodeUnits bigEndian rest
      else
        match rest with
        | c :: d :: further =>
            let second := unit c d
            if 0xDC00 ≤ second && second < 0xE000 then
              Char.ofNat (0x10000 + (first - 0xD800) * 1024 + (second - 0xDC00)) ::
                decodeUnits bigEndian further
            else '\uFFFD' :: decodeUnits bigEndian (c :: d :: further)
        | _ => ['\uFFFD']

def decodeBody (charset : Charset) (body : Bytes) : String :=
  match charset with
  | .utf8 => repaired body
  | .utf16 bigEndian => String.ofList (decodeUnits bigEndian body)
  | .singleByte encoding => String.ofList (body.map encoding.decodeByte)
  | .doubleByte encoding => String.ofList (encoding.decode body)
  | .eucJp => String.ofList (Japanese.decodeEuc body)
  | .iso2022Jp => String.ofList (Japanese.decodeSevenBit .ascii false body)
  | .gb18030 => String.ofList (Chinese.decodeGb body)
  | .userDefined =>
      String.ofList (body.map fun b => (ascii? b).getD (Char.ofNat (0xF700 + b.toNat)))
  | .unread => if body.isEmpty then "" else "\uFFFD"

/-- A mark at the beginning tells the encoding, whatever was named, and is not text. -/
def decode (charset : Charset) (body : Bytes) : String :=
  match body with
  | 0xEF :: 0xBB :: 0xBF :: rest => repaired rest
  | 0xFE :: 0xFF :: rest => decodeBody (.utf16 true) rest
  | 0xFF :: 0xFE :: rest => decodeBody (.utf16 false) rest
  | _ => decodeBody charset body

end Charset

/-! Content types: a type, a subtype and parameters. -/

namespace ContentType

def isToken (c : Char) : Bool :=
  ('a' ≤ c && c ≤ 'z') || ('A' ≤ c && c ≤ 'Z') || ('0' ≤ c && c ≤ '9') ||
    "!#$%&'*+-.^_\x60|~".toList.contains c

/-- Parameters between semicolons, their names in small letters. A quoted value has a
character at least, whatever it is. -/
def parameters : Nat → List Char → Option (List (String × String))
  | 0, _ => none
  | fuel + 1, text => do
      let text := text.dropWhile (· = ' ')
      if text.isEmpty then return []
      else
        let name := text.takeWhile isToken
        let key := String.ofList (name.map Char.toLower)
        match name, text.drop name.length with
        | _ :: _, '=' :: '"' :: rest =>
            let value := rest.take 1 ++ (rest.drop 1).takeWhile (· ≠ '"')
            if value.any (·.toNat < 32) then none
            else
              match rest.drop value.length with
              | '"' :: after =>
                  match after.dropWhile (· = ' ') with
                  | [] => return [(key, String.ofList value)]
                  | ';' :: further =>
                      return (key, String.ofList value) :: (← parameters fuel further)
                  | _ => none
              | _ => none
        | _ :: _, '=' :: rest =>
            let value := rest.takeWhile isToken
            match rest.drop value.length with
            | [] => return [(key, String.ofList value)]
            | ';' :: further =>
                if value.isEmpty then none
                else return (key, String.ofList value) :: (← parameters fuel further)
            | _ => none
        | _, _ => none

def parseText (text : List Char) : Option (List (String × String)) :=
  let main := text.takeWhile isToken
  match main, text.drop main.length with
  | _ :: _, '/' :: rest =>
      let sub := rest.takeWhile isToken
      match sub, rest.drop sub.length with
      | _ :: _, [] => some []
      | _ :: _, ';' :: further => parameters (further.length + 1) further
      | _, _ => none
  | _, _ => none

def isBlank (c : Char) : Bool := c == ' ' || c == '\t'

def parse (text : String) : Option (List (String × String)) :=
  let inner := text.toList.dropWhile isBlank
  let inner := (inner.reverse.dropWhile isBlank).reverse
  if inner.all fun c => c == '\t' || (32 ≤ c.toNat && c.toNat < 127) then parseText inner
  else none

def charset (contentType : String) : Charset :=
  let named := ((parse contentType).getD []).find? fun parameter => parameter.1 == "charset"
  (named.bind fun parameter => Charset.ofLabel? parameter.2).getD .utf8

end ContentType

end ChainArchive.Text
