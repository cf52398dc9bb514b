import ChainArchive.Text.DoubleByte
import ChainArchive.Text.Table.Jis0208
import ChainArchive.Text.Table.Jis0212

namespace ChainArchive.Text.Japanese

/-! Japanese text in its three encodings. -/

def katakana (b : UInt8) : Char := Char.ofNat (0xFF61 + (b.toNat - 0xA1))

def isKatakana (b : UInt8) : Bool := isBetween 0xA1 0xDF b

/-! Pairs that leave room for the narrow letters. -/

def rowsPerPlane : Nat := 94

def privateUse : Nat := 0xE000

def extensionRow : Nat := 114

/-- Rows of 94 characters, one after another; those beyond the standard are private, and
five rows more are common. -/
def place? (index : Nat) : Option Char :=
  let row := index / 94
  if row < rowsPerPlane then cell? Jis0208.plane row (index % 94)
  else if row < extensionRow then some (Char.ofNat (privateUse + (index - 8836)))
  else cell? Jis0208.extension (row - extensionRow) (index % 94)

def shiftPair? (a b : UInt8) : Option Char :=
  let lead := a.toNat - if a < 0xA0 then 0x81 else 0xC1
  if isBetween 0x40 0x7E b then place? (lead * 188 + (b.toNat - 0x40))
  else if isBetween 0x80 0xFC b then place? (lead * 188 + (b.toNat - 0x41))
  else none

def shiftJis : DoubleByte where
  single b :=
    if b ≤ 0x80 then some (Char.ofNat b.toNat)
    else if isKatakana b then some (katakana b)
    else none
  isLead b := isBetween 0x81 0x9F b || isBetween 0xE0 0xFC b
  pair a b := (shiftPair? a b).map ([·])

/-! Pairs of high bytes, and marks for the narrow letters and for a second standard. -/

def isHigh (b : UInt8) : Bool := isBetween 0xA1 0xFE b

def highPair? (plane : Array String) (a b : UInt8) : Option Char :=
  if isHigh a && isHigh b then cell? plane (a.toNat - 0xA1) (b.toNat - 0xA1) else none

def narrowMark : UInt8 := 0x8E

def secondMark : UInt8 := 0x8F

def isEucLead (b : UInt8) : Bool := b == narrowMark || b == secondMark || isHigh b

def eucPair? (a b : UInt8) : Option Char :=
  if a == narrowMark && isKatakana b then some (katakana b)
  else highPair? Jis0208.plane a b

def decodeEuc : Bytes → List Char
  | [] => []
  | [a] => [(ascii? a).getD '\uFFFD']
  | [a, b] =>
      if !isEucLead a then (ascii? a).getD '\uFFFD' :: decodeEuc [b]
      else if a == secondMark && isHigh b then ['\uFFFD']
      else
        match eucPair? a b with
        | some c => [c]
        | none => if b < 128 then '\uFFFD' :: decodeEuc [b] else ['\uFFFD']
  | a :: b :: c :: rest =>
      if !isEucLead a then (ascii? a).getD '\uFFFD' :: decodeEuc (b :: c :: rest)
      else if a == secondMark && isHigh b then
        match highPair? Jis0212.plane b c with
        | some character => character :: decodeEuc rest
        | none =>
            if c < 128 then '\uFFFD' :: decodeEuc (c :: rest)
            else '\uFFFD' :: decodeEuc rest
      else
        match eucPair? a b with
        | some character => character :: decodeEuc (c :: rest)
        | none =>
            if b < 128 then '\uFFFD' :: decodeEuc (b :: c :: rest)
            else '\uFFFD' :: decodeEuc (c :: rest)

/-! Seven bits, with escape sequences between the sets of characters. -/

inductive CharacterSet where
  | ascii
  | roman
  | katakana
  | pairs
  deriving DecidableEq, Repr

def escape : UInt8 := 0x1B

def CharacterSet.named? (a b : UInt8) : Option CharacterSet :=
  if a == byte '(' then
    if b == byte 'B' then some .ascii
    else if b == byte 'J' then some .roman
    else if b == byte 'I' then some .katakana
    else none
  else if a == byte '$' && (b == byte '@' || b == byte 'B') then some .pairs
  else none

def CharacterSet.single (set : CharacterSet) (b : UInt8) : Char :=
  let plain (b : UInt8) : Char :=
    if b < 128 && b != 0x0E && b != 0x0F && b != escape then Char.ofNat b.toNat
    else '\uFFFD'
  match set with
  | .ascii => plain b
  | .roman => if b == byte '\\' then '¥' else if b == byte '~' then '‾' else plain b
  | .katakana =>
      if isBetween 0x21 0x5F b then Char.ofNat (0xFF61 + (b.toNat - 0x21)) else '\uFFFD'
  | .pairs => '\uFFFD'

def isPairByte (b : UInt8) : Bool := isBetween 0x21 0x7E b

/-- Reads from a set, and notes whether an escape sequence has just gone before: two of
them in a row stand for a replacement character. -/
def decodeSevenBit (set : CharacterSet) (escaped : Bool) : Bytes → List Char
  | [] => []
  | [a] =>
      if a == escape then ['\uFFFD']
      else if set == .pairs then ['\uFFFD']
      else [set.single a]
  | [a, b] =>
      if a == escape then '\uFFFD' :: decodeSevenBit set false [b]
      else if set == .pairs && isPairByte a then
        if b == escape then ['\uFFFD', '\uFFFD']
        else
          if isPairByte b then
            [(cell? Jis0208.plane (a.toNat - 0x21) (b.toNat - 0x21)).getD '\uFFFD']
          else ['\uFFFD']
      else set.single a :: decodeSevenBit set false [b]
  | a :: b :: c :: rest =>
      if a == escape then
        match CharacterSet.named? b c with
        | some next =>
            if escaped then '\uFFFD' :: decodeSevenBit next true rest
            else decodeSevenBit next true rest
        | none => '\uFFFD' :: decodeSevenBit set false (b :: c :: rest)
      else if set == .pairs && isPairByte a then
        if b == escape then '\uFFFD' :: decodeSevenBit set false (b :: c :: rest)
        else if isPairByte b then
          (cell? Jis0208.plane (a.toNat - 0x21) (b.toNat - 0x21)).getD '\uFFFD' ::
            decodeSevenBit set false (c :: rest)
        else '\uFFFD' :: decodeSevenBit set false (c :: rest)
      else set.single a :: decodeSevenBit set false (b :: c :: rest)

end ChainArchive.Text.Japanese
