import ChainArchive.Text.DoubleByte
import ChainArchive.Text.Table.KsX1001

namespace ChainArchive.Text.Korean

/-! Korean text: the standard, and the other syllables around it. -/

def column? (b : UInt8) : Option Nat :=
  if isBetween 0x41 0x5A b then some (b.toNat - 0x41)
  else if isBetween 0x61 0x7A b then some (b.toNat - 0x47)
  else if isBetween 0x81 0xFE b then some (b.toNat - 0x4D)
  else none

def pair? (a b : UInt8) : Option Char :=
  if 0xA1 ≤ a && 0xA1 ≤ b then cell? KsX1001.plane (a.toNat - 0xA1) (b.toNat - 0xA1)
  else (column? b).bind (cell? KsX1001.syllables (a.toNat - 0x81))

def eucKr : DoubleByte where
  single := ascii?
  isLead := isBetween 0x81 0xFE
  pair a b := (pair? a b).map ([·])

end ChainArchive.Text.Korean
