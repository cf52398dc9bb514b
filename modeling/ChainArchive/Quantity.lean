import ChainArchive.Json.Decoder

namespace ChainArchive

/-! Counters and heights: integers of a word, in hexadecimal on the wire. -/

structure Quantity where
  value : Nat
  small : value < wordSize
  deriving DecidableEq

namespace Quantity

def hexDigits? (text : Bytes) : Option Bytes :=
  match text with
  | zero :: x :: digits =>
      if zero = byte '0' ∧ (x = byte 'x' ∨ x = byte 'X') then some digits else none
  | _ => none

def ofNat? (n : Nat) : Option Quantity :=
  if h : n < wordSize then some ⟨n, h⟩ else none

def unsigned (digits : Bytes) : Bytes :=
  match digits with
  | sign :: rest => if sign = byte '+' then rest else digits
  | [] => []

def ofHex? (s : String) : Option Quantity := do
  let digits := unsigned (← hexDigits? (Bytes.ofString s))
  if digits.isEmpty then none
  else ofNat? (← ofDigits? 16 digits)

def toHex (q : Quantity) : String := "0x" ++ Text.hexText q.value

def toText (q : Quantity) : String := toString q.value

def toJson (q : Quantity) : Json :=
  .number (.integer (.ofNat q.value q.small))

def ofInteger? (n : Json.Integer) : Option Quantity :=
  if 0 ≤ n.value then ofNat? n.value.toNat else none

def expected : String := "a hex encoded quantity or an unsigned integer"

def ofScalar : Json.Scalar → Except Json.Mismatch Quantity
  | .string s =>
      match ofHex? s with
      | some q => .ok q
      | none => .error (.refused ("failed to deserialize `" ++ s ++ "` as quantity"))
  | .number (.integer n) =>
      match ofInteger? n with
      | some q => .ok q
      | none => .error (.refused ("negative quantity " ++ toString n.value))
  | other => .error (.type (.ofScalar other) expected)

def decoder : Json.Decoder Quantity := .scalar true expected ofScalar

end Quantity

end ChainArchive
