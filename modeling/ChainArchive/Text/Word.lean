import ChainArchive.Bytes

namespace ChainArchive.Text

/-! Numbers as they are typed. Most are decimal digits, after a plus sign or not, of a value
that fits a word. -/

inductive NumberFault where
  | empty
  | badDigit
  | tooLarge
  deriving DecidableEq, Repr

def NumberFault.message : NumberFault → String
  | .empty => "cannot parse integer from empty string"
  | .badDigit => "invalid digit found in string"
  | .tooLarge => "number too large to fit in target type"

def addDigit (value : Nat) (c : Char) : Except NumberFault Nat :=
  if !c.isDigit then .error .badDigit
  else
    let next := 10 * value + (c.toNat - 48)
    if next < wordSize then .ok next else .error .tooLarge

def parseWord (text : String) : Except NumberFault Nat :=
  match text.toList with
  | [] => .error .empty
  | '+' :: digit :: rest => (digit :: rest).foldlM addDigit 0
  | digits => digits.foldlM addDigit 0

def isExponent : List Char → Bool
  | '+' :: digits | '-' :: digits | digits => !digits.isEmpty && digits.all (·.isDigit)

def isDecimal (text : List Char) : Bool :=
  let whole := text.takeWhile (·.isDigit)
  let rest := text.drop whole.length
  let pointed := rest.head? = some '.'
  let part := if pointed then (rest.drop 1).takeWhile (·.isDigit) else []
  let rest := rest.drop (if pointed then part.length + 1 else 0)
  !(whole ++ part).isEmpty &&
    match rest with
    | [] => true
    | c :: exponent => (c = 'e' || c = 'E') && isExponent exponent

def isNumeral (text : List Char) : Bool :=
  let unsigned :=
    match text with
    | '+' :: rest | '-' :: rest => rest
    | _ => text
  isDecimal unsigned ||
    ["inf", "infinity", "nan"].contains (String.ofList (unsigned.map (·.toLower)))

end ChainArchive.Text
