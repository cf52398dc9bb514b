namespace ChainArchive

/-! Magnitudes of the binary64 format, computed with exact integers. -/

def twoTo (n : Nat) : Nat := Nat.pow 2 n

def tenTo (n : Nat) : Nat := Nat.pow 10 n

def roundHalfEven (num den : Nat) : Nat :=
  let quotient := num / den
  let twice := 2 * (num % den)
  if twice < den then quotient
  else if den < twice then quotient + 1
  else if quotient % 2 = 0 then quotient
  else quotient + 1

/-- The number of `mantissa` units, a unit being the power of two with that exponent.
Every operation below returns a mantissa under `twoTo 53` and an exponent of at least
`-1074`, with as large a mantissa as these allow. -/
structure Binary64 where
  mantissa : Nat
  exponent : Int
  deriving DecidableEq, Repr

namespace Binary64

def zero : Binary64 := ⟨0, -1074⟩

def largest : Binary64 := ⟨twoTo 53 - 1, 971⟩

def isZero (x : Binary64) : Bool := x.mantissa == 0

def inUnits (num den : Nat) (exponent : Int) : Nat × Nat :=
  (num * twoTo (-exponent).toNat, den * twoTo exponent.toNat)

def lastPlace (num den : Nat) : Int :=
  let guess : Int := (num.log2 : Int) - den.log2 - 52
  let scaled := inUnits num den guess
  let place := if scaled.1 < scaled.2 * twoTo 52 then guess - 1 else guess
  if place < -1074 then -1074 else place

def ofRatio? (num den : Nat) : Option Binary64 :=
  if num = 0 then some zero
  else
    let exponent := lastPlace num den
    let scaled := inUnits num den exponent
    let mantissa := roundHalfEven scaled.1 scaled.2
    let rounded : Binary64 :=
      if mantissa = twoTo 53 then ⟨twoTo 52, exponent + 1⟩ else ⟨mantissa, exponent⟩
    if rounded.exponent ≤ 971 then some rounded else none

def ofRatio (num den : Nat) : Binary64 := (ofRatio? num den).getD largest

def ofNat (n : Nat) : Binary64 := ofRatio n 1

def ratio (x : Binary64) : Nat × Nat :=
  (x.mantissa * twoTo x.exponent.toNat, twoTo (-x.exponent).toNat)

def mul? (x y : Binary64) : Option Binary64 :=
  ofRatio? (x.ratio.1 * y.ratio.1) (x.ratio.2 * y.ratio.2)

def div (x y : Binary64) : Binary64 :=
  ofRatio (x.ratio.1 * y.ratio.2) (x.ratio.2 * y.ratio.1)

def add (x y : Binary64) : Binary64 :=
  ofRatio (x.ratio.1 * y.ratio.2 + y.ratio.1 * x.ratio.2) (x.ratio.2 * y.ratio.2)

def isBelow (x y : Binary64) : Bool :=
  x.ratio.1 * y.ratio.2 < y.ratio.1 * x.ratio.2

def round (x : Binary64) : Binary64 :=
  ofNat ((2 * x.ratio.1 + x.ratio.2) / (2 * x.ratio.2))

def powerOfTen (k : Nat) : Binary64 := ofNat (tenTo k)

/-- Divides by the power of ten `308 * steps + last` in rounded steps of `308`,
stopping at zero. -/
def lower : Nat → Nat → Binary64 → Binary64
  | 0, last, x => x.div (powerOfTen last)
  | steps + 1, last, x =>
      if x.isZero then x else lower steps last (x.div (powerOfTen 308))

/-- The significand times a power of ten, each step rounded; none if the product lies
beyond the largest number. -/
def scale? (significand : Nat) (exponent : Int) : Option Binary64 :=
  let x := ofNat significand
  if exponent < 0 then
    let places := (-exponent).toNat - 1
    some (lower (places / 308) (places % 308 + 1) x)
  else if exponent ≤ 308 then x.mul? (powerOfTen exponent.toNat)
  else if x.isZero then some x
  else none

end Binary64

end ChainArchive
