import ChainArchive.Bytes
import ChainArchive.Text.Table

namespace ChainArchive.Text

/-! Encodings in which a byte stands alone or leads a second one. -/

structure DoubleByte where
  /-- What a byte stands for alone; a lead byte for nothing. -/
  single : UInt8 → Option Char
  isLead : UInt8 → Bool
  pair : UInt8 → UInt8 → Option (List Char)

namespace DoubleByte

def decode (encoding : DoubleByte) : Bytes → List Char
  | [] => []
  | [a] =>
      if encoding.isLead a then ['\uFFFD'] else [(encoding.single a).getD '\uFFFD']
  | a :: b :: rest =>
      if encoding.isLead a then
        match encoding.pair a b with
        | some characters => characters ++ decode encoding rest
        | none =>
            if b < 128 then '\uFFFD' :: decode encoding (b :: rest)
            else '\uFFFD' :: decode encoding rest
      else (encoding.single a).getD '\uFFFD' :: decode encoding (b :: rest)

end DoubleByte

def isBetween (low high : UInt8) (b : UInt8) : Bool := low ≤ b && b ≤ high

def ascii? (b : UInt8) : Option Char :=
  if b < 128 then some (Char.ofNat b.toNat) else none

end ChainArchive.Text
