import ChainArchive.Quantity

namespace ChainArchive

/-! Amounts: integers of 256 bits, in decimal digits within a string. -/

def Wei.size : Nat :=
  115792089237316195423570985008687907853269984665640564039457584007913129639936

structure Wei where
  value : Nat
  small : value < Wei.size
  deriving DecidableEq

namespace Wei

def ofNat? (n : Nat) : Option Wei :=
  if h : n < size then some ⟨n, h⟩ else none

theorem size_of_word {n : Nat} (h : n < wordSize) : n < size := by
  unfold wordSize at h
  unfold size
  omega

def ofQuantity (q : Quantity) : Wei := ⟨q.value, size_of_word q.small⟩

/-- Underscores between, before and after the digits do not count. -/
def ofText? (s : String) : Option Wei :=
  let text := Bytes.ofString s
  let (base, digits) :=
    match Quantity.hexDigits? text with
    | some digits => (16, digits)
    | none => (10, text)
  if digits.isEmpty then none
  else do
    let n ← ofDigits? base (digits.filter (· != byte '_'))
    ofNat? n

def toText (w : Wei) : String := toString w.value

def toJson (w : Wei) : Json := .string w.toText

def expected : String := "a hex quantity, a decimal string or an unsigned integer"

def ofScalar : Json.Scalar → Except Json.Mismatch Wei
  | .string s =>
      match ofText? s with
      | some w => .ok w
      | none => .error (.refused ("failed to deserialize `" ++ s ++ "` as wei amount"))
  | .number (.integer n) =>
      match Quantity.ofInteger? n with
      | some q => .ok (ofQuantity q)
      | none => .error (.refused ("negative amount " ++ toString n.value))
  | other => .error (.type (.ofScalar other) expected)

def decoder : Json.Decoder Wei := .scalar true expected ofScalar

end Wei

end ChainArchive
