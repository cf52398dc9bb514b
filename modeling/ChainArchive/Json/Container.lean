import ChainArchive.Json.Scalar

namespace ChainArchive.Json

/-! Arrays and objects whose opening bracket has been read. -/

def nextElement (first : Bool) (text : Bytes) : Except Fault (Bool × Bytes) :=
  match skipSpace text with
  | [] => .error (.ahead .endInList [])
  | b :: rest =>
      if b = byte ']' then .ok (false, b :: rest)
      else if first then .ok (true, b :: rest)
      else if b = byte ',' then
        match skipSpace rest with
        | [] => .error (.ahead .endInValue [])
        | c :: rest =>
            if c = byte ']' then .error (.ahead .trailingComma (c :: rest))
            else .ok (true, c :: rest)
      else .error (.ahead .listCommaExpected (b :: rest))

def closeArray (text : Bytes) : Except Fault Bytes :=
  match skipSpace text with
  | [] => .error (.ahead .endInList [])
  | b :: rest =>
      if b = byte ']' then .ok rest
      else if b = byte ',' then
        match skipSpace rest with
        | [] => .error (.ahead .trailingCharacters [])
        | c :: rest =>
            if c = byte ']' then .error (.ahead .trailingComma (c :: rest))
            else .error (.ahead .trailingCharacters (c :: rest))
      else .error (.ahead .trailingCharacters (b :: rest))

def abandonArray (text : Bytes) : Bytes :=
  match skipSpace text with
  | [] => []
  | b :: rest =>
      if b = byte ']' then rest
      else if b = byte ',' then skipSpace rest
      else b :: rest

def nextKey (first : Bool) (text : Bytes) : Except Fault (Option String × Bytes) :=
  match skipSpace text with
  | [] => .error (.ahead .endInObject [])
  | b :: rest =>
      if b = byte '\x7d' then .ok (none, b :: rest)
      else if first then
        if b = byte '"' then do
          let (key, rest) ← readString rest
          return (some key, rest)
        else .error (.ahead .keyNotString (b :: rest))
      else if b = byte ',' then
        match skipSpace rest with
        | [] => .error (.ahead .endInValue [])
        | c :: rest =>
            if c = byte '"' then do
              let (key, rest) ← readString rest
              return (some key, rest)
            else if c = byte '\x7d' then .error (.ahead .trailingComma (c :: rest))
            else .error (.ahead .keyNotString (c :: rest))
      else .error (.ahead .objectCommaExpected (b :: rest))

def readColon (text : Bytes) : Except Fault Bytes :=
  match skipSpace text with
  | [] => .error (.ahead .endInObject [])
  | b :: rest =>
      if b = byte ':' then .ok rest else .error (.ahead .colonExpected (b :: rest))

def closeObject (text : Bytes) : Except Fault Bytes :=
  match skipSpace text with
  | [] => .error (.ahead .endInObject [])
  | b :: rest =>
      if b = byte '\x7d' then .ok rest
      else if b = byte ',' then .error (.ahead .trailingComma (b :: rest))
      else .error (.ahead .trailingCharacters (b :: rest))

def abandonObject (text : Bytes) : Bytes :=
  match skipSpace text with
  | [] => []
  | b :: rest => if b = byte '\x7d' then rest else b :: rest

/-! Reading of the inside may end at a fault, which has its place already, or because
what was read does not fit, which is placed once the container has been given up. -/

inductive Stop where
  | fault (fault : Fault)
  | unfit (mismatch : Mismatch) (rest : Bytes)

def orStop (result : Except Fault α) : Except Stop α :=
  match result with
  | .ok a => .ok a
  | .error fault => .error (.fault fault)

def arrayResult (result : Except Stop (α × Bytes)) : Except Fault (α × Bytes) :=
  match result with
  | .ok (a, rest) => (closeArray rest).map (a, ·)
  | .error (.fault fault) => .error fault
  | .error (.unfit mismatch rest) => .error (.unfit mismatch (abandonArray rest))

def objectResult (result : Except Stop (α × Bytes)) : Except Fault (α × Bytes) :=
  match result with
  | .ok (a, rest) => (closeObject rest).map (a, ·)
  | .error (.fault fault) => .error fault
  | .error (.unfit mismatch rest) => .error (.unfit mismatch (abandonObject rest))

/-- Folds over the elements. No text holds more elements than bytes, so the first
argument, one more than the bytes left, does not run out. -/
def foldElements (step : σ → Bytes → Except Stop (σ × Bytes)) :
    Nat → Bool → σ → Bytes → Except Stop (σ × Bytes)
  | 0, _, state, text => .ok (state, text)
  | fuel + 1, first, state, text => do
      match ← orStop (nextElement first text) with
      | (false, rest) => .ok (state, rest)
      | (true, rest) =>
          let (state, rest) ← step state rest
          foldElements step fuel false state rest

def foldMembers (step : σ → String → Bytes → Except Stop (σ × Bytes)) :
    Nat → Bool → σ → Bytes → Except Stop (σ × Bytes)
  | 0, _, state, text => .ok (state, text)
  | fuel + 1, first, state, text => do
      match ← orStop (nextKey first text) with
      | (none, rest) => .ok (state, rest)
      | (some key, rest) =>
          let (state, rest) ← step state key rest
          foldMembers step fuel false state rest

def readElements (step : σ → Bytes → Except Stop (σ × Bytes)) (start : σ)
    (text : Bytes) : Except Fault (σ × Bytes) :=
  arrayResult (foldElements step (text.length + 1) true start text)

def readMembers (step : σ → String → Bytes → Except Stop (σ × Bytes)) (start : σ)
    (text : Bytes) : Except Fault (σ × Bytes) :=
  objectResult (foldMembers step (text.length + 1) true start text)

/-! Any value. At most `budget` containers may be opened inside one another. -/

def addElement (read : Bytes → Except Fault (Json × Bytes)) (items : List Json) (text : Bytes) :
    Except Stop (List Json × Bytes) := do
  let (item, rest) ← orStop (read text)
  return (item :: items, rest)

def addMember (read : Bytes → Except Fault (Json × Bytes)) (members : List (String × Json))
    (key : String) (text : Bytes) : Except Stop (List (String × Json) × Bytes) := do
  let rest ← orStop (readColon text)
  let (value, rest) ← orStop (read rest)
  return ((key, value) :: members, rest)

def readValue : Nat → Bytes → Except Fault (Json × Bytes)
  | 0, text => do
      match ← readHead text with
      | .scalar value rest => .ok (value.toJson, rest)
      | .array rest | .object rest => .error (.behind .tooDeep rest)
  | budget + 1, text => do
      match ← readHead text with
      | .scalar value rest => .ok (value.toJson, rest)
      | .array rest =>
          let (items, rest) ← readElements (addElement (readValue budget)) [] rest
          .ok (.array items.reverse, rest)
      | .object rest =>
          let (members, rest) ← readMembers (addMember (readValue budget)) [] rest
          .ok (.object members.reverse, rest)

def finish (rest : Bytes) : Except Fault Unit :=
  match skipSpace rest with
  | [] => .ok ()
  | b :: rest => .error (.ahead .trailingCharacters (b :: rest))

def maxDepth : Nat := 127

def readWhole (read : Bytes → Except Fault (α × Bytes)) (text : Bytes) : Except Failure α :=
  match read text with
  | .error fault => .error (.ofFault text fault)
  | .ok (a, rest) =>
      match finish rest with
      | .error fault => .error (.ofFault text fault)
      | .ok () => .ok a

def parse (text : Bytes) : Except Failure Json := readWhole (readValue maxDepth) text

end ChainArchive.Json
