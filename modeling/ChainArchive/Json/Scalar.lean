import ChainArchive.Json.Fault
import ChainArchive.Text.Utf8

namespace ChainArchive.Json

/-! Readers take a text and return what they read together with the rest. -/

def isSpace (b : UInt8) : Bool :=
  b == byte ' ' || b == byte '\n' || b == byte '\t' || b == byte '\r'

def skipSpace (text : Bytes) : Bytes := text.dropWhile isSpace

/-! Words. -/

def readWord (word : Bytes) (text : Bytes) : Except Fault Bytes :=
  match word, text with
  | [], text => .ok text
  | _ :: _, [] => .error (.behind .endInValue [])
  | w :: word, b :: rest =>
      if b = w then readWord word rest else .error (.behind .wordExpected rest)

/-! Strings. The opening quote has been read. -/

def hexUnit? (a b c d : UInt8) : Option Nat := do
  let a ← hexDigit? a
  let b ← hexDigit? b
  let c ← hexDigit? c
  let d ← hexDigit? d
  return ((a * 16 + b) * 16 + c) * 16 + d

def shortEscape? (b : UInt8) : Option UInt8 :=
  if b = byte '"' then some (byte '"')
  else if b = byte '\\' then some (byte '\\')
  else if b = byte '/' then some (byte '/')
  else if b = byte 'b' then some 8
  else if b = byte 'f' then some 12
  else if b = byte 'n' then some (byte '\n')
  else if b = byte 'r' then some (byte '\r')
  else if b = byte 't' then some (byte '\t')
  else none

def isHighSurrogate (unit : Nat) : Bool := 0xD800 ≤ unit && unit ≤ 0xDBFF

def isLowSurrogate (unit : Nat) : Bool := 0xDC00 ≤ unit && unit ≤ 0xDFFF

def utf8 (code : Nat) : Bytes := Bytes.ofString (String.singleton (Char.ofNat code))

def pairCode (high low : Nat) : Nat :=
  0x10000 + (high - 0xD800) * 0x400 + (low - 0xDC00)

def readStringBytes (done : Bytes) (text : Bytes) :
    Except Fault (Bytes × Bytes) :=
  match text with
  | [] => .error (.behind .endInString [])
  | b :: rest =>
      if b = byte '"' then .ok (done, rest)
      else if b = byte '\\' then
        match rest with
        | [] => .error (.behind .endInString [])
        | e :: rest =>
            if e = byte 'u' then
              match rest with
              | h₁ :: h₂ :: h₃ :: h₄ :: rest =>
                  match hexUnit? h₁ h₂ h₃ h₄ with
                  | none => .error (.behind .badEscape rest)
                  | some unit =>
                      if isLowSurrogate unit then .error (.behind .loneSurrogate rest)
                      else if isHighSurrogate unit then
                        match rest with
                        | [] => .error (.behind .endInString [])
                        | slash :: rest =>
                            if slash = byte '\\' then
                              match rest with
                              | [] => .error (.behind .endInString [])
                              | u :: rest =>
                                  if u = byte 'u' then
                                    match rest with
                                    | l₁ :: l₂ :: l₃ :: l₄ :: rest =>
                                        match hexUnit? l₁ l₂ l₃ l₄ with
                                        | none => .error (.behind .badEscape rest)
                                        | some low =>
                                            if isLowSurrogate low then
                                              readStringBytes
                                                ((utf8 (pairCode unit low)).reverse ++ done) rest
                                            else .error (.behind .loneSurrogate rest)
                                    | _ => .error (.behind .endInString [])
                                  else .error (.behind .escapePairExpected rest)
                            else .error (.behind .escapePairExpected rest)
                      else readStringBytes ((utf8 unit).reverse ++ done) rest
              | _ => .error (.behind .endInString [])
            else
              match shortEscape? e with
              | some c => readStringBytes (c :: done) rest
              | none => .error (.behind .badEscape rest)
      else if b < 32 then .error (.behind .controlCharacter rest)
      else readStringBytes (b :: done) rest

/-- Where a string is no UTF-8 is counted back from its end in the bytes that it stands
for. -/
def readString (text : Bytes) : Except Fault (String × Bytes) := do
  let (reversed, rest) ← readStringBytes [] text
  let bytes : Bytes := reversed.reverse
  match bytes.toString? with
  | some s => .ok (s, rest)
  | none =>
      .error ⟨.malformed .badCodePoint,
        rest.length + (bytes.length - (Text.encodingFault bytes).index)⟩

/-! Numbers. A minus sign has been read. -/

/-- Digits are taken while the significand stays within a word. The second result counts
the digits taken. -/
def takeDigits (significand count : Nat) : Bytes → Nat × Nat × Bytes
  | [] => (significand, count, [])
  | b :: rest =>
      if isDigit b ∧ significand * 10 + digitValue b < wordSize then
        takeDigits (significand * 10 + digitValue b) (count + 1) rest
      else (significand, count, b :: rest)

def dropDigits (text : Bytes) : Bytes := text.dropWhile isDigit

def takeExponent (exponent : Nat) : Bytes → Option Nat × Bytes
  | [] => (some exponent, [])
  | b :: rest =>
      if isDigit b then
        if exponent * 10 + digitValue b < 2147483648 then
          takeExponent (exponent * 10 + digitValue b) rest
        else (none, rest)
      else (some exponent, b :: rest)

def finishFloat (negative : Bool) (significand : Nat) (exponent : Int)
    (rest : Bytes) : Except Fault (Number × Bytes) :=
  match Binary64.scale? significand exponent with
  | some x => .ok (.float negative x, rest)
  | none => .error (.behind .numberOutOfRange rest)

def readSign : Bytes → Bool × Bytes
  | [] => (false, [])
  | b :: rest =>
      if b = byte '-' then (true, rest)
      else if b = byte '+' then (false, rest)
      else (false, b :: rest)

def readExponent (negative : Bool) (significand : Nat) (exponent : Int)
    (text : Bytes) : Except Fault (Number × Bytes) :=
  let (down, text) := readSign text
  match text with
  | [] => .error (.behind .endInValue [])
  | b :: rest =>
      if isDigit b then
        match takeExponent (digitValue b) rest with
        | (some shift, rest) =>
            finishFloat negative significand
              (if down then exponent - shift else exponent + shift) rest
        | (none, rest) =>
            if significand ≠ 0 ∧ ¬down then .error (.behind .numberOutOfRange rest)
            else .ok (.float negative .zero, dropDigits rest)
      else .error (.behind .badNumber rest)

def isExponentLetter (b : UInt8) : Bool := b == byte 'e' || b == byte 'E'

def readScale (negative : Bool) (significand : Nat) (exponent : Int)
    (text : Bytes) : Except Fault (Number × Bytes) :=
  match text with
  | [] => finishFloat negative significand exponent []
  | b :: rest =>
      if isExponentLetter b then readExponent negative significand exponent rest
      else finishFloat negative significand exponent (b :: rest)

/-- What follows a point: digits that no longer fit the significand are dropped. -/
def readFraction (negative : Bool) (significand : Nat) (exponent : Int)
    (text : Bytes) : Except Fault (Number × Bytes) :=
  let (significand, count, rest) := takeDigits significand 0 text
  let rest' := dropDigits rest
  if text.length = rest'.length then
    .error (if text.isEmpty then .ahead .endInValue text else .ahead .badNumber text)
  else readScale negative significand (exponent - count) rest'

/-- Naturals within a word and negatives within a signed word are integers; the negative
zero is not. -/
def wholeNumber (negative : Bool) (significand : Nat) : Number :=
  if h : negative = false ∧ significand < wordSize then
    .integer (.ofNat significand h.2)
  else if h : 0 < significand ∧ significand ≤ 9223372036854775808 then
    .integer ⟨-(significand : Int), by omega, by omega⟩
  else .float negative (.ofNat significand)

/-- What follows the digits of the whole part. Digits that do not fit the significand
raise the exponent. -/
def readAfterWhole (negative : Bool) (significand : Nat) (text : Bytes) :
    Except Fault (Number × Bytes) :=
  let rest := dropDigits text
  let excess := text.length - rest.length
  match rest with
  | [] =>
      if excess = 0 then .ok (wholeNumber negative significand, [])
      else finishFloat negative significand excess []
  | b :: rest =>
      if b = byte '.' then readFraction negative significand excess rest
      else if isExponentLetter b then readExponent negative significand excess rest
      else if excess = 0 then .ok (wholeNumber negative significand, b :: rest)
      else finishFloat negative significand excess (b :: rest)

def readNumber (negative : Bool) (text : Bytes) : Except Fault (Number × Bytes) :=
  match text with
  | [] => .error (.behind .endInValue [])
  | b :: rest =>
      if b = byte '0' then
        match rest with
        | [] => .ok (wholeNumber negative 0, [])
        | c :: _ =>
            if isDigit c then .error (.ahead .badNumber rest)
            else readAfterWhole negative 0 rest
      else if isDigit b then
        let (significand, _, rest) := takeDigits (digitValue b) 1 rest
        readAfterWhole negative significand rest
      else .error (.behind .badNumber rest)

/-! The beginning of a value. -/

inductive Head where
  | scalar (value : Scalar) (rest : Bytes)
  | array (rest : Bytes)
  | object (rest : Bytes)

def readHead (text : Bytes) : Except Fault Head :=
  match skipSpace text with
  | [] => .error (.ahead .endInValue [])
  | b :: rest =>
      if b = byte 'n' then do
        return .scalar .null (← readWord (Bytes.ofString "ull") rest)
      else if b = byte 't' then do
        return .scalar (.bool true) (← readWord (Bytes.ofString "rue") rest)
      else if b = byte 'f' then do
        return .scalar (.bool false) (← readWord (Bytes.ofString "alse") rest)
      else if b = byte '-' then do
        let (n, rest) ← readNumber true rest
        return .scalar (.number n) rest
      else if isDigit b then do
        let (n, rest) ← readNumber false (b :: rest)
        return .scalar (.number n) rest
      else if b = byte '"' then do
        let (s, rest) ← readString rest
        return .scalar (.string s) rest
      else if b = byte '[' then .ok (.array rest)
      else if b = byte '\x7b' then .ok (.object rest)
      else .error (.ahead .valueExpected (b :: rest))

end ChainArchive.Json
