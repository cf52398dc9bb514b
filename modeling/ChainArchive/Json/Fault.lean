import ChainArchive.Json.Printer
import ChainArchive.Text.Quoted

namespace ChainArchive.Json

/-! What can be wrong with a text, and with a value. -/

inductive Malformed where
  | endInValue
  | endInList
  | endInObject
  | endInString
  | valueExpected
  | wordExpected
  | colonExpected
  | listCommaExpected
  | objectCommaExpected
  | keyNotString
  | trailingComma
  | trailingCharacters
  | badNumber
  | numberOutOfRange
  | badEscape
  | loneSurrogate
  | escapePairExpected
  | badCodePoint
  | controlCharacter
  | tooDeep
  deriving DecidableEq, Repr

namespace Malformed

def message : Malformed → String
  | .endInValue => "EOF while parsing a value"
  | .endInList => "EOF while parsing a list"
  | .endInObject => "EOF while parsing an object"
  | .endInString => "EOF while parsing a string"
  | .valueExpected => "expected value"
  | .wordExpected => "expected ident"
  | .colonExpected => "expected `:`"
  | .listCommaExpected => "expected `,` or `]`"
  | .objectCommaExpected => "expected `,` or `\x7d`"
  | .keyNotString => "key must be a string"
  | .trailingComma => "trailing comma"
  | .trailingCharacters => "trailing characters"
  | .badNumber => "invalid number"
  | .numberOutOfRange => "number out of range"
  | .badEscape => "invalid escape"
  | .loneSurrogate => "lone leading surrogate in hex escape"
  | .escapePairExpected => "unexpected end of hex escape"
  | .badCodePoint => "invalid unicode code point"
  | .controlCharacter =>
      "control character (\\u0000-\\u001F) found while parsing a string"
  | .tooDeep => "recursion limit exceeded"

def isEnd : Malformed → Bool
  | .endInValue | .endInList | .endInObject | .endInString => true
  | _ => false

end Malformed

inductive Found where
  | null
  | bool (value : Bool)
  | number (value : Number)
  | string (value : String)
  | sequence
  | map

namespace Found

def ofScalar : Scalar → Found
  | .null => .null
  | .bool b => .bool b
  | .number n => .number n
  | .string s => .string s

def ofJson : Json → Found
  | .null => .null
  | .bool b => .bool b
  | .number n => .number n
  | .string s => .string s
  | .array _ => .sequence
  | .object _ => .map

def describe : Found → String
  | .null => "null"
  | .bool b => "boolean `" ++ toString b ++ "`"
  | .number (.integer n) => "integer `" ++ toString n.value ++ "`"
  | .number (.float negative x) => "floating point `" ++ floatText negative x ++ "`"
  | .string s => "string " ++ Text.quoted s
  | .sequence => "sequence"
  | .map => "map"

end Found

inductive Mismatch where
  | type (found : Found) (expected : String)
  | value (found : Found) (expected : String)
  | length (count : Nat) (expected : String)
  | missing (field : String)
  | duplicate (field : String)
  | refused (reason : String)

def Mismatch.message : Mismatch → String
  | .type found expected =>
      "invalid type: " ++ found.describe ++ ", expected " ++ expected
  | .value found expected =>
      "invalid value: " ++ found.describe ++ ", expected " ++ expected
  | .length count expected =>
      "invalid length " ++ toString count ++ ", expected " ++ expected
  | .missing field => "missing field `" ++ field ++ "`"
  | .duplicate field => "duplicate field `" ++ field ++ "`"
  | .refused reason => reason

inductive Cause where
  | malformed (fault : Malformed)
  | unfit (mismatch : Mismatch)

def Cause.message : Cause → String
  | .malformed fault => fault.message
  | .unfit mismatch => mismatch.message

/-- A cause and the number of bytes that were still unread where it arose. -/
structure Fault where
  cause : Cause
  left : Nat

namespace Fault

def behind (fault : Malformed) (rest : Bytes) : Fault :=
  ⟨.malformed fault, rest.length⟩

/-- A fault of the next byte, which counts as read if there is one. -/
def ahead (fault : Malformed) (rest : Bytes) : Fault :=
  ⟨.malformed fault, rest.length - 1⟩

def unfit (mismatch : Mismatch) (rest : Bytes) : Fault :=
  ⟨.unfit mismatch, rest.length⟩

end Fault

structure Failure where
  cause : Cause
  position : Option Position

namespace Failure

def ofFault (text : Bytes) (fault : Fault) : Failure :=
  ⟨fault.cause, some (Position.after (text.take (text.length - fault.left)))⟩

def ofMismatch (mismatch : Mismatch) : Failure := ⟨.unfit mismatch, none⟩

def message (failure : Failure) : String :=
  match failure.position with
  | none => failure.cause.message
  | some position =>
      failure.cause.message ++ " at line " ++ toString position.line ++
        " column " ++ toString position.column

end Failure

end ChainArchive.Json
