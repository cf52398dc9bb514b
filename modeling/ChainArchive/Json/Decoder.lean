import ChainArchive.Json.Skip

namespace ChainArchive.Json

/-- A type's two ways out of JSON: straight from a text, with at most so many containers
nested, and from a value. -/
structure Decoder (α : Type) where
  read : Nat → Bytes → Except Fault (α × Bytes)
  ofJson : Json → Except Mismatch α

def Scalar.ofJson? : Json → Option Scalar
  | .null => some .null
  | .bool b => some (.bool b)
  | .number n => some (.number n)
  | .string s => some (.string s)
  | .array _ => none
  | .object _ => none

/-- A value of the wrong form, met by its bracket, which stays unread. -/
def Fault.unopened (mismatch : Mismatch) (rest : Bytes) : Fault :=
  ⟨.unfit mismatch, rest.length + 1⟩

def placed (result : Except Mismatch α) (rest : Bytes) : Except Fault (α × Bytes) :=
  match result with
  | .ok a => .ok (a, rest)
  | .error mismatch => .error (.unfit mismatch rest)

def stopAt (result : Except Mismatch α) (rest : Bytes) : Except Stop (α × Bytes) :=
  match result with
  | .ok a => .ok (a, rest)
  | .error mismatch => .error (.unfit mismatch rest)

def opened (budget : Nat) (rest : Bytes) (inside : Nat → Except Fault α) :
    Except Fault α :=
  match budget with
  | 0 => .error (.behind .tooDeep rest)
  | budget + 1 => inside budget

namespace Decoder

def map (f : α → β) (decoder : Decoder α) : Decoder β where
  read budget text := (decoder.read budget text).map fun (a, rest) => (f a, rest)
  ofJson value := (decoder.ofJson value).map f

def json : Decoder Json where
  read budget text := (readValue budget text).map fun (value, rest) => (value.normal, rest)
  ofJson value := .ok value.normal

/-- One scalar. Who would take any value notices a container only once it is open. -/
def scalar (opens : Bool) (expected : String)
    (accept : Scalar → Except Mismatch α) : Decoder α where
  read budget text := do
    match ← readHead text with
    | .scalar value rest => placed (accept value) rest
    | .array rest =>
        if opens then
          opened budget rest fun _ =>
            .error (.unfit (.type .sequence expected) (abandonArray rest))
        else .error (.unopened (.type .sequence expected) rest)
    | .object rest =>
        if opens then
          opened budget rest fun _ =>
            .error (.unfit (.type .map expected) (abandonObject rest))
        else .error (.unopened (.type .map expected) rest)
  ofJson value :=
    match Scalar.ofJson? value with
    | some value => accept value
    | none => .error (.type (.ofJson value) expected)

def text : Decoder String :=
  scalar false "a string" fun
    | .string s => .ok s
    | other => .error (.type (.ofScalar other) "a string")

def signedWord : Decoder Int :=
  scalar false "i64" fun
    | .number (.integer n) =>
        if n.value < 9223372036854775808 then .ok n.value
        else .error (.value (.number (.integer n)) "i64")
    | other => .error (.type (.ofScalar other) "i64")

def option (decoder : Decoder α) : Decoder (Option α) where
  read budget text :=
    match skipSpace text with
    | [] => (decoder.read budget []).map fun (a, rest) => (some a, rest)
    | b :: rest =>
        if b = byte 'n' then
          (readWord (Bytes.ofString "ull") rest).map fun rest => (none, rest)
        else (decoder.read budget (b :: rest)).map fun (a, rest) => (some a, rest)
  ofJson
    | .null => .ok none
    | value => (decoder.ofJson value).map some

def pushElement (decoder : Decoder α) (budget : Nat) (items : List α) (text : Bytes) :
    Except Stop (List α × Bytes) := do
  let (item, rest) ← orStop (decoder.read budget text)
  return (item :: items, rest)

def list (decoder : Decoder α) : Decoder (List α) where
  read budget text := do
    match ← readHead text with
    | .scalar value rest => .error (.unfit (.type (.ofScalar value) "a sequence") rest)
    | .array rest =>
        opened budget rest fun budget => do
          let (items, rest) ← readElements (decoder.pushElement budget) [] rest
          return (items.reverse, rest)
    | .object rest => .error (.unopened (.type .map "a sequence") rest)
  ofJson
    | .array items => items.mapM decoder.ofJson
    | value => .error (.type (.ofJson value) "a sequence")

/-! Decoding a whole text. -/

def decode (decoder : Decoder α) (text : Bytes) : Except Failure α :=
  readWhole (decoder.read maxDepth) text

def decodeValue (decoder : Decoder α) (text : Bytes) : Except Failure α := do
  let value ← parse text
  match decoder.ofJson value.normal with
  | .ok a => .ok a
  | .error mismatch => .error (.ofMismatch mismatch)

end Decoder

end ChainArchive.Json
