import ChainArchive.Bytes
import ChainArchive.Decimal.Binary64

namespace ChainArchive

/-! JSON values. Objects keep their members as they were met. -/

structure Json.Integer where
  value : Int
  low : -9223372036854775808 ≤ value
  high : value < 18446744073709551616
  deriving DecidableEq

inductive Json.Number where
  | integer (n : Json.Integer)
  | float (negative : Bool) (magnitude : Binary64)
  deriving DecidableEq

inductive Json where
  | null
  | bool (value : Bool)
  | number (value : Json.Number)
  | string (value : String)
  | array (items : List Json)
  | object (members : List (String × Json))

namespace Json

theorem natural_low (n : Nat) : (-9223372036854775808 : Int) ≤ (n : Int) := by omega

def Integer.ofNat (n : Nat) (h : n < wordSize) : Integer :=
  ⟨n, natural_low n, by unfold wordSize at h; omega⟩

/-- A count, which starts again after a word is full. -/
def count (n : Nat) : Json :=
  .number (.integer (.ofNat (n % wordSize) (Nat.mod_lt n (by decide))))

inductive Scalar where
  | null
  | bool (value : Bool)
  | number (value : Number)
  | string (value : String)

def Scalar.toJson : Scalar → Json
  | .null => .null
  | .bool b => .bool b
  | .number n => .number n
  | .string s => .string s

def string? : Json → Option String
  | .string s => some s
  | _ => none

/-! Members in order of their names' bytes, each name once. -/

def nameBefore (k l : String) : Bool := decide (Bytes.ofString k < Bytes.ofString l)

def insertMember (key : String) (value : Json) :
    List (String × Json) → List (String × Json)
  | [] => [(key, value)]
  | (k, v) :: rest =>
      if nameBefore key k then (key, value) :: (k, v) :: rest
      else if nameBefore k key then (k, v) :: insertMember key value rest
      else (key, value) :: rest

/-- Of members with one name the last is kept. -/
def arrange (members : List (String × Json)) : List (String × Json) :=
  members.foldl (fun kept m => insertMember m.1 m.2 kept) []

mutual

def normal : Json → Json
  | .array items => .array (normalItems items)
  | .object members => .object (arrange (normalMembers members))
  | other => other

def normalItems : List Json → List Json
  | [] => []
  | item :: rest => normal item :: normalItems rest

def normalMembers : List (String × Json) → List (String × Json)
  | [] => []
  | (key, value) :: rest => (key, normal value) :: normalMembers rest

end

/-! Equality of values; a negative zero equals zero. -/

def Number.same : Number → Number → Bool
  | .integer n, .integer m => n == m
  | .float negative x, .float negative' y =>
      x == y && (negative == negative' || x.isZero)
  | _, _ => false

mutual

def same : Json → Json → Bool
  | .null, .null => true
  | .bool b, .bool c => b == c
  | .number n, .number m => n.same m
  | .string s, .string t => s == t
  | .array items, .array items' => sameItems items items'
  | .object members, .object members' => sameMembers members members'
  | _, _ => false

def sameItems : List Json → List Json → Bool
  | [], [] => true
  | x :: xs, y :: ys => same x y && sameItems xs ys
  | _, _ => false

def sameMembers : List (String × Json) → List (String × Json) → Bool
  | [], [] => true
  | (k, x) :: xs, (l, y) :: ys => k == l && same x y && sameMembers xs ys
  | _, _ => false

end

end Json

end ChainArchive
