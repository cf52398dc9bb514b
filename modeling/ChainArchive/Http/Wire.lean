import ChainArchive.Http
import ChainArchive.Text.Quoted
import ChainArchive.Text.Word

namespace ChainArchive.Http

/-! Requests and responses as they go over a connection, which serves one of each. -/

def lineEnd : String := "\x0d\n"

def Request.encode (request : Request) (host : String) : Bytes :=
  Bytes.ofString (String.join ([
    request.line, "host: " ++ host, "accept: */*",
    "content-type: " ++ Request.contentType,
    "content-length: " ++ toString request.body.length,
    "connection: close", ""].map (· ++ lineEnd))) ++ request.body

def takeLine : Bytes → Option (Bytes × Bytes)
  | [] => none
  | b :: rest =>
      if b = byte '\n' then some ([], rest)
      else
        match takeLine rest with
        | none => none
        | some (line, after) =>
            some (if b = byte '\r' ∧ line.isEmpty then [] else b :: line, after)

/-- Names are in lower case. -/
structure Header where
  name : String
  value : String
  deriving DecidableEq, Repr

namespace Header

def parse (line : Bytes) : Header :=
  let text := (Text.repaired line).toList
  let name := text.takeWhile (· ≠ ':')
  ⟨(String.ofList name).toLower,
    String.ofList (Text.trim ((text.drop name.length).drop 1))⟩

def find? (headers : List Header) (name : String) : Option String :=
  (headers.find? (·.name = name)).map (·.value)

def readAll (limit : Nat) (bytes : Bytes) : Option (List Header × Bytes) :=
  match limit with
  | 0 => none
  | limit + 1 => do
      let (line, rest) ← takeLine bytes
      if line.isEmpty then return ([], rest)
      let (headers, rest) ← readAll limit rest
      return (parse line :: headers, rest)

end Header

def joinChunks (limit : Nat) (bytes : Bytes) : Option Bytes :=
  match limit with
  | 0 => none
  | limit + 1 => do
      let (line, rest) ← takeLine bytes
      let length ← ofDigits? 16 (line.takeWhile fun b => (hexDigit? b).isSome)
      if length = 0 then return []
      let chunk := rest.take length
      if chunk.length < length then none
      let (_, rest) ← takeLine (rest.drop length)
      return chunk ++ (← joinChunks limit rest)

def readBody (headers : List Header) (bytes : Bytes) : Option Bytes :=
  match Header.find? headers "transfer-encoding", Header.find? headers "content-length" with
  | some _, _ => joinChunks (bytes.length + 1) bytes
  | none, some text =>
      match Text.parseWord text with
      | .ok length => if bytes.length < length then none else some (bytes.take length)
      | .error _ => none
  | none, none => some bytes

def withoutEmptyLines : Bytes → Bytes
  | [] => []
  | [b] => if b = byte '\n' then [] else [b]
  | a :: b :: rest =>
      if a = byte '\n' then withoutEmptyLines (b :: rest)
      else if a = byte '\r' ∧ b = byte '\n' then withoutEmptyLines rest
      else a :: b :: rest

def versions : List Bytes := [Bytes.ofString "HTTP/1.1", Bytes.ofString "HTTP/1.0"]

def readStatus (bytes : Bytes) : Except Outcome (Nat × Bytes) :=
  let digits := bytes.take 3
  if !digits.all isDigit then .error (.malformed .status)
  else
    match bytes.drop 3 with
    | [] => .error .closed
    | mark :: rest =>
        if mark = byte ' ' ∨ mark = byte '\r' ∨ mark = byte '\n' then
          match takeLine (mark :: rest) with
          | some (_, after) => .ok ((ofDigits? 10 digits).getD 0, after)
          | none => .error .closed
        else .error (.malformed .status)

def readFirstLine (bytes : Bytes) : Except Outcome (Nat × Bytes) :=
  if versions.any (·.isPrefixOf bytes) then
    match bytes.drop 8 with
    | [] => .error .closed
    | mark :: rest =>
        if mark = byte ' ' then readStatus rest else .error (.malformed .version)
  else if versions.any (bytes.isPrefixOf ·) then .error .closed
  else .error (.malformed .version)

/-- What arrived on a connection until it was closed: the first response that does more
than inform. Each of them is at least a byte long, which the fuel counts. -/
def Outcome.readFrom : Nat → Bytes → Outcome
  | 0, _ => .closed
  | fuel + 1, bytes =>
      match readFirstLine (withoutEmptyLines bytes) with
      | .error outcome => outcome
      | .ok (status, rest) =>
          match Header.readAll (rest.length + 1) rest with
          | none => .closed
          | some (headers, rest) =>
              let response : Response :=
                ⟨status, (Header.find? headers "content-type").getD "", []⟩
              if response.isInterim then readFrom fuel rest
              else if response.isBodiless then .answered response
              else
                match readBody headers rest with
                | some body => .answered { response with body }
                | none => .closed

def Outcome.read (bytes : Bytes) : Outcome := readFrom (bytes.length + 1) bytes

def isHeaderValue (text : String) : Bool :=
  text.toList.all fun c => c == '\t' || (32 ≤ c.toNat && c.toNat != 127)

def Response.outcome (response : Response) : Outcome :=
  if response.status < 100 || 999 < response.status then .malformed .status
  else if !isHeaderValue response.contentType then .malformed .header
  else if response.isInterim then .read response.body
  else .answered response

def Outcome.settled : Outcome → Outcome
  | .answered response => response.outcome
  | outcome => outcome

end ChainArchive.Http
