import ChainArchive.Json.Basic
import ChainArchive.Decimal.Shortest

namespace ChainArchive.Json

/-! The compact text of a value. -/

def zeros (n : Nat) : List Char := List.replicate n '0'

/-- Positional from ten to the minus fifth up to the fifteenth, always with a point;
scientific beyond. -/
def decimalText (d : Decimal) : List Char :=
  let digits := Nat.toDigits 10 d.digits
  let leading := d.leading
  if leading < -5 ∨ 15 < leading then
    let exponent :=
      (if leading < 0 then '-' else '+') :: Nat.toDigits 10 leading.natAbs
    match digits with
    | [single] => single :: 'e' :: exponent
    | first :: rest => first :: '.' :: (rest ++ 'e' :: exponent)
    | [] => []
  else if leading < 0 then
    '0' :: '.' :: (zeros ((-leading).toNat - 1) ++ digits)
  else
    let whole := leading.toNat + 1
    if digits.length ≤ whole then
      digits ++ zeros (whole - digits.length) ++ ['.', '0']
    else digits.take whole ++ '.' :: digits.drop whole

def floatText (negative : Bool) (x : Binary64) : String :=
  String.ofList (if negative then '-' :: decimalText x.shortest else decimalText x.shortest)

def Number.text : Number → String
  | .integer n => toString n.value
  | .float negative x => floatText negative x

def hexDigit (n : Nat) : UInt8 :=
  if n < 10 then UInt8.ofNat (48 + n) else UInt8.ofNat (87 + n)

def escapeByte (b : UInt8) : Bytes :=
  if b = byte '"' then [byte '\\', byte '"']
  else if b = byte '\\' then [byte '\\', byte '\\']
  else if b = 8 then [byte '\\', byte 'b']
  else if b = 12 then [byte '\\', byte 'f']
  else if b = byte '\n' then [byte '\\', byte 'n']
  else if b = byte '\r' then [byte '\\', byte 'r']
  else if b = byte '\t' then [byte '\\', byte 't']
  else if b < 32 then
    [byte '\\', byte 'u', byte '0', byte '0', hexDigit (b.toNat / 16), hexDigit (b.toNat % 16)]
  else [b]

def renderString (s : String) : Bytes :=
  byte '"' :: ((Bytes.ofString s).flatMap escapeByte ++ [byte '"'])

def renderKey (key : String) : Bytes := renderString key ++ [byte ':']

def joinComma : List Bytes → Bytes
  | [] => []
  | [part] => part
  | part :: rest => part ++ byte ',' :: joinComma rest

mutual

def render : Json → Bytes
  | .null => Bytes.ofString "null"
  | .bool true => Bytes.ofString "true"
  | .bool false => Bytes.ofString "false"
  | .number n => Bytes.ofString n.text
  | .string s => renderString s
  | .array items => byte '[' :: (joinComma (renderItems items) ++ [byte ']'])
  | .object members =>
      byte '\x7b' :: (joinComma (renderMembers members) ++ [byte '\x7d'])

def renderItems : List Json → List Bytes
  | [] => []
  | item :: rest => render item :: renderItems rest

def renderMembers : List (String × Json) → List Bytes
  | [] => []
  | (key, value) :: rest => (renderKey key ++ render value) :: renderMembers rest

end

end ChainArchive.Json
