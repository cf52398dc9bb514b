import ChainArchive.Domain.Name
import ChainArchive.Url.Basic
import ChainArchive.Text.Utf8

namespace ChainArchive

/-! Reading hosts. -/

namespace Percent

def encodeByte (b : UInt8) : List Char :=
  let digit (n : Nat) := (Nat.toDigits 16 n).map Char.toUpper
  '%' :: digit (b.toNat / 16) ++ digit (b.toNat % 16)

def encodeChar (set : String) (c : Char) : List Char :=
  if c.toNat < 32 || 127 ≤ c.toNat || set.toList.contains c then
    (Bytes.ofString (String.singleton c)).flatMap encodeByte
  else [c]

def encode (set : String) (text : List Char) : String :=
  String.ofList (text.flatMap (encodeChar set))

/-- A mark that two hexadecimal digits do not follow stands for itself. -/
def decode : Bytes → Bytes
  | [] => []
  | [a] => [a]
  | [a, b] => [a, b]
  | mark :: a :: b :: rest =>
      if mark = byte '%' then
        match hexDigit? a, hexDigit? b with
        | some high, some low => UInt8.ofNat (16 * high + low) :: decode rest
        | _, _ => mark :: decode (a :: b :: rest)
      else mark :: decode (a :: b :: rest)

end Percent

namespace Host

/-! Addresses of four numbers. -/

inductive Ipv4Number where
  | notNumber
  | tooLarge
  | number (value : Nat)
  deriving DecidableEq, Repr

def isAsciiDigit (c : Char) : Bool := '0' ≤ c && c ≤ '9'

def ofDigits (base : Nat) (digits : List Char) : Ipv4Number :=
  match ofDigits? base (Bytes.ofString (String.ofList digits)) with
  | none => .notNumber
  | some n => if n < 4294967296 then .number n else .tooLarge

def ipv4Number (part : List Char) : Ipv4Number :=
  match part with
  | [] => .notNumber
  | ['0'] => .number 0
  | '0' :: x :: digits =>
      if x = 'x' ∨ x = 'X' then
        if digits.isEmpty then .number 0 else ofDigits 16 digits
      else ofDigits 8 (x :: digits)
  | digits => ofDigits 10 digits

def withoutLastEmpty (parts : List (List Char)) : List (List Char) :=
  if parts.getLast? = some [] then parts.dropLast else parts

def endsInNumber (name : List Char) : Bool :=
  match (withoutLastEmpty (Text.splitWhere (· == '.') name)).getLast? with
  | none => false
  | some last =>
      (!last.isEmpty && last.all isAsciiDigit) || ipv4Number last != .notNumber

def sumParts : Nat → List Nat → Nat
  | _, [] => 0
  | unit, part :: rest => part * unit + sumParts (unit / 256) rest

/-- All numbers but the last are bytes; the last one fills the bytes that remain. -/
def ipv4? (name : List Char) : Option Nat := do
  let parts := withoutLastEmpty (Text.splitWhere (· == '.') name)
  if 4 < parts.length then none
  else
    let numbers ← parts.mapM fun part =>
      match ipv4Number part with
      | .number n => some n
      | _ => none
    let last ← numbers.getLast?
    let first := numbers.dropLast
    let room := [4294967296, 16777216, 65536, 256].getD first.length 0
    if first.any (255 < ·) || room ≤ last then none
    else some (sumParts 16777216 first + last)

/-! Addresses of eight pieces. -/

structure Pieces where
  read : List Nat
  gap : Option Nat

def finishPieces (pieces : Pieces) : Option (List Nat) :=
  match pieces.gap with
  | none => if pieces.read.length = 8 then some pieces.read else none
  | some gap =>
      if pieces.read.length ≤ 8 then
        some (pieces.read.take gap ++ List.replicate (8 - pieces.read.length) 0 ++
          pieces.read.drop gap)
      else none

def decimalByte? (digits : List Char) : Option Nat :=
  if digits.isEmpty || (1 < digits.length && digits.head? == some '0') || 3 < digits.length
  then none
  else
    match ofDigits 10 digits with
    | .number n => if n ≤ 255 then some n else none
    | _ => none

def lastPieces? (text : List Char) : Option (List Nat) :=
  match (Text.splitWhere (· == '.') text).mapM decimalByte? with
  | some [a, b, c, d] => some [a * 256 + b, c * 256 + d]
  | _ => none

def isHexDigit (c : Char) : Bool :=
  isAsciiDigit c || ('a' ≤ c && c ≤ 'f') || ('A' ≤ c && c ≤ 'F')

/-- A second colon makes the gap, which stands for one zero at least. -/
def ipv6From : Nat → Pieces → List Char → Option (List Nat)
  | _, pieces, [] => finishPieces pieces
  | 0, _, _ :: _ => none
  | fuel + 1, pieces, c :: rest =>
      if pieces.read.length = 8 then none
      else if c = ':' then
        if pieces.gap.isSome then none
        else ipv6From fuel ⟨pieces.read ++ [0], some (pieces.read.length + 1)⟩ rest
      else
        let digits := ((c :: rest).take 4).takeWhile isHexDigit
        let after := (c :: rest).drop digits.length
        match after with
        | '.' :: _ =>
            if digits.isEmpty || 6 < pieces.read.length then none
            else
              match lastPieces? (c :: rest) with
              | some last => finishPieces { pieces with read := pieces.read ++ last }
              | none => none
        | _ =>
            match ofDigits 16 digits with
            | .number piece =>
                let pieces := { pieces with read := pieces.read ++ [piece] }
                match after with
                | [] => if digits.isEmpty then none else finishPieces pieces
                | ':' :: further =>
                    if further.isEmpty then none else ipv6From fuel pieces further
                | _ => none
            | _ => none

def ipv6? (text : List Char) : Option (List Nat) :=
  match text with
  | ':' :: ':' :: rest => ipv6From text.length ⟨[0], some 1⟩ rest
  | ':' :: _ => none
  | [] | [_] => none
  | _ => ipv6From text.length ⟨[], none⟩ text

def bracketed (text : List Char) : Except UrlFault Host :=
  if text.getLast? ≠ some ']' then .error .badIpv6
  else
    match ipv6? (text.drop 1).dropLast with
    | some pieces => .ok (.ipv6 pieces)
    | none => .error .badIpv6

def ofDomain (text : List Char) : Except UrlFault Host :=
  if text.head? = some '[' then bracketed text
  else
    let name := (Percent.decode (Bytes.ofString (String.ofList text))).toString?
    match name.bind fun name => Domain.toAscii? name.toList with
    | none => .error .badDomain
    | some name =>
        if name.isEmpty then .error .emptyHost
        else if endsInNumber name.toList then
          match ipv4? name.toList with
          | some address => .ok (.ipv4 address)
          | none => .error .badIpv4
        else .ok (.domain name)

def ofOpaque (text : List Char) : Except UrlFault Host :=
  if text.head? = some '[' then bracketed text
  else if text.any fun c => "\x00\t\n\r #/:<>?@[\\]^|".toList.contains c then
    .error .badDomainCharacter
  else .ok (.domain (Percent.encode "" text))

end Host

end ChainArchive
