namespace ChainArchive

/-! Words beyond ASCII in letters and digits: the plain letters, and then the others by
their distances. -/

namespace Punycode

def digit (d : Nat) : Char :=
  if d < 26 then Char.ofNat (97 + d) else Char.ofNat (22 + d)

def digitValue? (c : Char) : Option Nat :=
  if 'a' ≤ c ∧ c ≤ 'z' then some (c.toNat - 97)
  else if 'A' ≤ c ∧ c ≤ 'Z' then some (c.toNat - 65)
  else if '0' ≤ c ∧ c ≤ '9' then some (c.toNat - 22)
  else none

def threshold (place bias : Nat) : Nat :=
  if place ≤ bias then 1 else if bias + 26 ≤ place then 26 else place - bias

def settle : Nat → Nat → Nat → Nat × Nat
  | 0, distance, place => (distance, place)
  | fuel + 1, distance, place =>
      if 455 < distance then settle fuel (distance / 35) (place + 36)
      else (distance, place)

def adapt (distance count : Nat) (first : Bool) : Nat :=
  let scaled := if first then distance / 700 else distance / 2
  let settled := settle 64 (scaled + scaled / count) 0
  settled.2 + 36 * settled.1 / (settled.1 + 38)

def distanceDigits (bias : Nat) : Nat → Nat → Nat → List Char
  | 0, _, _ => []
  | fuel + 1, place, distance =>
      let t := threshold place bias
      if distance < t then [digit distance]
      else
        digit (t + (distance - t) % (36 - t)) ::
          distanceDigits bias fuel (place + 36) ((distance - t) / (36 - t))

structure Encoding where
  written : List Char
  distance : Nat
  bias : Nat
  done : Nat

def encodeOne (basic codePoint : Nat) (state : Encoding) (c : Char) : Encoding :=
  if c.toNat < codePoint then { state with distance := state.distance + 1 }
  else if c.toNat = codePoint then
    { written := state.written ++ distanceDigits state.bias 64 36 state.distance
      distance := 0
      bias := adapt state.distance (state.done + 1) (state.done == basic)
      done := state.done + 1 }
  else state

def encodeFrom (label : List Char) (basic : Nat) : List Nat → Nat → Encoding → Encoding
  | [], _, state => state
  | codePoint :: rest, next, state =>
      let moved := { state with
        distance := state.distance + (codePoint - next) * (state.done + 1) }
      let passed := label.foldl (encodeOne basic codePoint) moved
      encodeFrom label basic rest (codePoint + 1)
        { passed with distance := passed.distance + 1 }

def isBasic (c : Char) : Bool := c.toNat < 128

/-- The basic characters, and the others by their distances in ascending order. -/
def encode (label : List Char) : List Char :=
  let basic := label.filter isBasic
  let others := ((label.filter (!isBasic ·)).map Char.toNat).mergeSort.eraseDups
  basic ++ (if basic.isEmpty then [] else ['-']) ++
    (encodeFrom label basic.length others 128 ⟨[], 0, 72, basic.length⟩).written

def readDistance (bias : Nat) :
    Nat → Nat → Nat → List Char → Option (Nat × List Char)
  | _, _, _, [] => none
  | place, weight, sum, c :: rest => do
      let d ← digitValue? c
      let t := threshold place bias
      if d < t then return (sum + d * weight, rest)
      else readDistance bias (place + 36) (weight * (36 - t)) (sum + d * weight) rest

def decodeFrom : Nat → Nat → Nat → Nat → List Char → List Char → Option (List Char)
  | _, _, _, _, label, [] => some label
  | 0, _, _, _, _, _ :: _ => none
  | fuel + 1, bias, next, index, label, c :: rest => do
      let (sum, rest) ← readDistance bias 36 1 index (c :: rest)
      let count := label.length + 1
      let codePoint := next + sum / count
      let place := sum % count
      if codePoint.isValidChar then
        decodeFrom fuel (adapt (sum - index) count (index == 0)) codePoint (place + 1)
          (label.take place ++ [Char.ofNat codePoint] ++ label.drop place) rest
      else none

def decode (written : List Char) : Option (List Char) :=
  let tail := (written.reverse.takeWhile (· ≠ '-')).reverse
  let basic := written.take (written.length - tail.length - 1)
  decodeFrom (tail.length + 1) 72 128 0 basic tail

end Punycode

end ChainArchive
