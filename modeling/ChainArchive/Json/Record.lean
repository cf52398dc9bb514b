import ChainArchive.Json.Decoder

namespace ChainArchive.Json

/-! Records: objects with known members, or arrays with one element for each of them. -/

inductive Slot (σ : Type) where
  | ignored
  | refused (mismatch : Mismatch)
  | taken (decoder : Decoder σ)

structure Column (σ : Type) where
  decoder : σ → Decoder σ
  optional : Bool

structure Record (σ α : Type) where
  expected : String
  start : σ
  slot : σ → String → Slot σ
  columns : Option (List (Column σ))
  finish : σ → Except Mismatch α

def Slot.once (field : String) (given : Option α) (decoder : Decoder α)
    (put : α → σ) : Slot σ :=
  match given with
  | some _ => .refused (.duplicate field)
  | none => .taken (decoder.map put)

theorem Slot.once_taken {field : String} {given : Option α} {decoder : Decoder α} {put : α → σ}
    {taken : Decoder σ} (h : Slot.once field given decoder put = .taken taken) :
    taken = decoder.map put := by
  cases given with
  | some a => cases h
  | none =>
      cases h
      rfl

def required (field : String) : Option α → Except Mismatch α
  | some a => .ok a
  | none => .error (.missing field)

theorem required_eq_ok {field : String} {given : Option α} {a : α} :
    required field given = .ok a ↔ given = some a := by
  cases given <;> simp [required]

namespace Record

def shortRow (record : Record σ α) (width index : Nat) : Mismatch :=
  .length index
    (record.expected ++ " with " ++ toString width ++ " elements")

def readMember (record : Record σ α) (budget : Nat) (state : σ) (key : String)
    (text : Bytes) : Except Stop (σ × Bytes) :=
  match record.slot state key with
  | .refused mismatch => .error (.unfit mismatch text)
  | .ignored => do
      let rest ← orStop (readColon text)
      let rest ← orStop (skip rest)
      return (state, rest)
  | .taken decoder => do
      let rest ← orStop (readColon text)
      orStop (decoder.read budget rest)

def readObject (record : Record σ α) (budget : Nat) (text : Bytes) :
    Except Fault (α × Bytes) :=
  objectResult do
    let (state, rest) ←
      foldMembers (record.readMember budget) (text.length + 1) true record.start text
    stopAt (record.finish state) rest

/-- Reads the elements that are there; only optional ones may lack. -/
def readColumns (record : Record σ α) (width budget : Nat) :
    Nat → List (Column σ) → σ → Bytes → Except Stop (σ × Bytes)
  | _, [], state, text => .ok (state, text)
  | index, column :: columns, state, text => do
      match ← orStop (nextElement (index == 0) text) with
      | (true, rest) =>
          let (state, rest) ← orStop ((column.decoder state).read budget rest)
          readColumns record width budget (index + 1) columns state rest
      | (false, rest) =>
          if column.optional then
            readColumns record width budget (index + 1) columns state rest
          else .error (.unfit (record.shortRow width index) rest)

def readArray (record : Record σ α) (columns : List (Column σ)) (budget : Nat)
    (text : Bytes) : Except Fault (α × Bytes) :=
  arrayResult do
    let (state, rest) ←
      record.readColumns columns.length budget 0 columns record.start text
    stopAt (record.finish state) rest

def takeMember (record : Record σ α) (state : σ) (member : String × Json) :
    Except Mismatch σ :=
  match record.slot state member.1 with
  | .refused mismatch => .error mismatch
  | .ignored => .ok state
  | .taken decoder => decoder.ofJson member.2

def takeColumns (record : Record σ α) (width : Nat) :
    Nat → List (Column σ) → List Json → σ → Except Mismatch σ
  | _, [], _, state => .ok state
  | index, column :: columns, item :: items, state => do
      let state ← (column.decoder state).ofJson item
      takeColumns record width (index + 1) columns items state
  | index, column :: columns, [], state =>
      if column.optional then takeColumns record width (index + 1) columns [] state
      else .error (record.shortRow width index)

def takeRow (record : Record σ α) (columns : List (Column σ)) (items : List Json) :
    Except Mismatch α := do
  let state ← record.takeColumns columns.length 0 columns items record.start
  let result ← record.finish state
  if columns.length < items.length then
    .error (.length items.length "fewer elements in array")
  else .ok result

def decoder (record : Record σ α) : Decoder α where
  read budget text := do
    match ← readHead text with
    | .scalar value rest => .error (.unfit (.type (.ofScalar value) record.expected) rest)
    | .object rest => opened budget rest fun budget => record.readObject budget rest
    | .array rest =>
        match record.columns with
        | none => .error (.unopened (.type .sequence record.expected) rest)
        | some columns =>
            opened budget rest fun budget => record.readArray columns budget rest
  ofJson
    | .object members => do
        let state ← members.foldlM record.takeMember record.start
        record.finish state
    | .array items =>
        match record.columns with
        | none => .error (.type .sequence record.expected)
        | some columns => record.takeRow columns items
    | value => .error (.type (.ofJson value) record.expected)

end Record

end ChainArchive.Json
