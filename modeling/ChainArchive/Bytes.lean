namespace ChainArchive

/-! Texts as they lie in files and messages: lists of bytes. -/

abbrev Bytes := List UInt8

abbrev byte (c : Char) : UInt8 := c.toUInt8

namespace Bytes

def ofString (s : String) : Bytes := s.toByteArray.data.toList

def toString? (bytes : Bytes) : Option String :=
  String.fromUTF8? ⟨bytes.toArray⟩

@[simp] theorem toString?_ofString (s : String) :
    (ofString s).toString? = some s := by
  have hvalid : s.toByteArray.IsValidUTF8 := s.isValidUTF8
  simp [toString?, ofString, String.fromUTF8?, hvalid, String.fromUTF8]

theorem ofString_injective {s t : String} (h : ofString s = ofString t) :
    s = t := by
  have hread := congrArg toString? h
  simpa using hread

end Bytes

/-! Positions in a text. -/

structure Position where
  line : Nat
  column : Nat
  deriving DecidableEq, Repr

namespace Position

def start : Position := ⟨1, 0⟩

def step (position : Position) (b : UInt8) : Position :=
  if b = byte '\n' then ⟨position.line + 1, 0⟩
  else ⟨position.line, position.column + 1⟩

/-- Lines count from one; a column is the number of bytes since the line began. -/
def after (text : Bytes) : Position := text.foldl step start

end Position

/-! Digits. -/

def isDigit (b : UInt8) : Bool := byte '0' ≤ b && b ≤ byte '9'

def digitValue (b : UInt8) : Nat := b.toNat - 48

def baseDigit? (b : UInt8) : Option Nat :=
  if isDigit b then some (b.toNat - 48)
  else if byte 'a' ≤ b && b ≤ byte 'z' then some (b.toNat - 87)
  else if byte 'A' ≤ b && b ≤ byte 'Z' then some (b.toNat - 55)
  else none

def hexDigit? (b : UInt8) : Option Nat :=
  (baseDigit? b).filter (· < 16)

def ofDigits? (base : Nat) (digits : Bytes) : Option Nat :=
  digits.foldlM (fun value b =>
    ((baseDigit? b).filter (· < base)).map (value * base + ·)) 0

def wordSize : Nat := 18446744073709551616

end ChainArchive
