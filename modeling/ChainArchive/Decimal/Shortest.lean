import ChainArchive.Decimal.Binary64

namespace ChainArchive

/-! The fewest decimal digits that read back as the same number. -/

structure Decimal where
  digits : Nat
  exponent : Int
  deriving DecidableEq, Repr

namespace Decimal

def digitCount (n : Nat) : Nat := (Nat.toDigits 10 n).length

def leading (d : Decimal) : Int := d.exponent + digitCount d.digits - 1

def stripZeros : Nat → Decimal → Decimal
  | 0, d => d
  | fuel + 1, d =>
      if d.digits ≠ 0 ∧ d.digits % 10 = 0 then
        stripZeros fuel ⟨d.digits / 10, d.exponent + 1⟩
      else d

end Decimal

namespace Binary64

def decimalExponent (num den : Nat) : Int :=
  if den ≤ num then (Decimal.digitCount (num / den) : Int) - 1
  else
    let places := Decimal.digitCount (den / num)
    if den ≤ num * tenTo (places - 1) then 1 - (places : Int) else -(places : Int)

/-- Four times the mantissas between which decimals read back as this number:
half a unit to either side, but a quarter below a power of two. -/
def bounds (x : Binary64) : Nat × Nat :=
  let below := if x.mantissa = twoTo 52 ∧ -1074 < x.exponent then 1 else 2
  (4 * x.mantissa - below, 4 * x.mantissa + 2)

def commonScale (tens twos : Int) : Nat × Nat :=
  (tenTo tens.toNat * twoTo (-twos).toNat, twoTo twos.toNat * tenTo (-tens).toNat)

def readsBack (x : Binary64) (d : Decimal) : Bool :=
  let scale := commonScale d.exponent (x.exponent - 2)
  let value := d.digits * scale.1
  let low := x.bounds.1 * scale.2
  let high := x.bounds.2 * scale.2
  if x.mantissa % 2 = 0 then low ≤ value && value ≤ high
  else low < value && value < high

/-- The multiple of a power of ten that reads back: the nearer of the two neighbours,
the even one of two equally near. -/
def onGrid? (x : Binary64) (exponent : Int) : Option Decimal :=
  let scale := commonScale exponent x.exponent
  let value := x.mantissa * scale.2
  let floor := value / scale.1
  let down : Decimal := ⟨floor, exponent⟩
  let up : Decimal := ⟨floor + 1, exponent⟩
  match x.readsBack down, x.readsBack up with
  | false, false => none
  | true, false => some down
  | false, true => some up
  | true, true =>
      let twice := 2 * (value % scale.1)
      if twice < scale.1 ∨ (twice = scale.1 ∧ floor % 2 = 0) then some down
      else some up

def shortest (x : Binary64) : Decimal :=
  if x.isZero then ⟨0, 0⟩
  else
    let top := decimalExponent x.ratio.1 x.ratio.2
    let found := (List.range 17).findSome? fun (n : Nat) => x.onGrid? (top - n)
    (found.getD ⟨x.mantissa, 0⟩).stripZeros 17

def wholeText (x : Binary64) : String :=
  let d := x.shortest
  toString (d.digits * tenTo d.exponent.toNat)

end Binary64

end ChainArchive
