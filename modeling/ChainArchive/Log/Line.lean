import ChainArchive.Json.Printer
import ChainArchive.Log.Filter

namespace ChainArchive.Log

/-! How an event is written. -/

structure Style where
  json : Bool
  filter : Filter
  deriving DecidableEq, Repr

/-! Plain lines. -/

def twoHexDigits (n : Nat) : String :=
  if n < 16 then "0" ++ Text.hexText n else Text.hexText n

/-- Control characters that could steer a terminal are shown by their code points. -/
def showControl (c : Char) : String :=
  if c ∈ ['\x1b', '\x07', '\x08', '\x0c', '\x7f'] then "\\x" ++ twoHexDigits c.toNat
  else if 0x80 ≤ c.toNat && c.toNat < 0xA0 then Text.codePointEscape c
  else String.singleton c

def showControls (message : String) : String :=
  String.join (message.toList.map showControl)

def fieldText : FieldValue → String
  | .number n => toString n
  | .text s => Text.quoted s
  | .plain s => s

def paddedLevel (level : Level) : String :=
  (if level.name.length = 4 then " " else "") ++ level.name

def followed? (filter : Filter) (event : Event) : Option CallContext :=
  event.context?.filter fun _ => filter.followsCalls event.source

def words (event : Event) : List String :=
  (event.message?.map showControls).toList ++
    event.fields.map fun field => field.1 ++ "=" ++ fieldText field.2

def contextWords (context : CallContext) : List String :=
  ["url=" ++ context.url, "method=" ++ Text.quoted context.method]

def plainLine (filter : Filter) (time : String) (event : Event) : String :=
  let call := followed? filter event
  time ++ " " ++ paddedLevel event.level ++ " " ++
    (if call.isSome then CallContext.name ++ ": " else "") ++
    String.intercalate " " (words event ++ (call.map contextWords).getD [])

/-! Structured lines. -/

def fieldJson : FieldValue → Json
  | .number n => .count n
  | .text s | .plain s => .string s

def callJson (context : CallContext) : Json :=
  .object [("method", .string context.method), ("url", .string context.url),
    ("name", .string CallContext.name)]

def eventJson (filter : Filter) (time : String) (event : Event) : Json :=
  .object ([("timestamp", .string time), ("level", .string event.level.name),
    ("fields", .object ((event.message?.map fun message =>
        ("message", Json.string message)).toList ++
      event.fields.map fun field => (field.1, fieldJson field.2))),
    ("target", .string event.source)] ++
    ((followed? filter event).map fun context =>
      ("spans", Json.array [callJson context])).toList)

def Style.line? (style : Style) (time : String) (event : Event) : Option Bytes :=
  if style.filter.passes event then
    some (if style.json then (eventJson style.filter time event).render
      else Bytes.ofString (plainLine style.filter time event))
  else none

end ChainArchive.Log
