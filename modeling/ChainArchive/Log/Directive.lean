import ChainArchive.Event
import ChainArchive.Text.Pattern.Parser
import ChainArchive.Text.Word

namespace ChainArchive.Log

/-! Directives on what is logged. -/

inductive Threshold where
  | least (level : Level)
  | off
  deriving DecidableEq, Repr

namespace Threshold

def passes (threshold : Threshold) (level : Level) : Bool :=
  match threshold with
  | .least lowest => lowest.rank ≤ level.rank
  | .off => false

def all : Threshold := .least .trace

def ofNumber? : Nat → Option Threshold
  | 0 => some .off
  | 1 => some (.least .error)
  | 2 => some (.least .warn)
  | 3 => some (.least .info)
  | 4 => some (.least .debug)
  | 5 => some (.least .trace)
  | _ => none

def ofName? (name : String) : Option Threshold :=
  if name = "off" then some .off
  else
    ([Level.trace, .debug, .info, .warn, .error].find? (·.name.toLower = name)).map .least

def parse? (text : String) : Option Threshold :=
  match Text.parseWord text with
  | .ok n => ofNumber? n
  | .error _ => ofName? text.toLower

end Threshold

/-- What the value of a field must be. No field of a call is a number or a truth value. -/
inductive ValueTest where
  | unmet
  | pattern (pattern : Text.Pattern)
  deriving DecidableEq, Repr

structure FieldTest where
  name : String
  value : Option ValueTest
  deriving DecidableEq, Repr

/-- A threshold for the sources that begin with a text, during a call only if one is named,
and only for what has a field if one is. -/
structure Directive where
  source : Option String
  call : Option String
  field : Option FieldTest
  threshold : Threshold
  deriving DecidableEq, Repr

inductive DirectiveFault where
  | shape
  | level
  | value (fault : Text.Pattern.Fault)
  deriving DecidableEq, Repr

def DirectiveFault.message : DirectiveFault → String
  | .shape => "invalid filter directive"
  | .level =>
      "error parsing level filter: expected one of \"off\", \"error\", \"warn\", " ++
        "\"info\", \"debug\", \"trace\", or a number 0-5"
  | .value fault => "invalid field filter: " ++ fault.message

def ValueTest.parse (text : List Char) : Except DirectiveFault ValueTest :=
  let word := String.ofList text
  if word = "true" || word = "false" || Text.isNumeral text then .ok .unmet
  else ((Text.Pattern.parse word).mapError .value).map .pattern

def FieldTest.parse (text : List Char) : Except DirectiveFault FieldTest :=
  let name := String.ofList (text.takeWhile (· ≠ '='))
  match text.dropWhile (· ≠ '=') with
  | [] => .ok ⟨name, none⟩
  | _ :: value => do return ⟨name, some (← ValueTest.parse (value.takeWhile (· ≠ '=')))⟩

namespace Directive

def begins (c : Char) : Bool := Text.isLetterOrNumber c || c ∈ ['-', ':', '_']

def parseThreshold (text : List Char) : Except DirectiveFault Threshold :=
  if text.isEmpty then .ok .all
  else
    match Threshold.parse? (String.ofList text) with
    | some threshold => .ok threshold
    | none => .error .level

def parseRest (shape text : List Char) : Except DirectiveFault Threshold :=
  match shape with
  | [] => .ok .all
  | '=' :: _ => parseThreshold (text.drop 1)
  | _ => .error .shape

def parseCall (source : Option String) (shape text : List Char) :
    Except DirectiveFault Directive :=
  let name := shape.takeWhile fun c => c ≠ ']' ∧ c ≠ '\x7b'
  let call := String.ofList (text.take name.length)
  let text := text.drop (name.length + 1)
  match shape.drop name.length with
  | ']' :: rest => do return ⟨source, some call, none, ← parseRest rest text⟩
  | '\x7b' :: rest =>
      let field := rest.takeWhile (· ≠ '\x7d')
      match rest.drop field.length with
      | [] => .error .shape
      | _ :: rest =>
          if field.isEmpty then .error .shape
          else do
            let test ← FieldTest.parse (text.take field.length)
            match rest with
            | ']' :: rest =>
                return ⟨source, if call.isEmpty then none else some call, some test,
                  ← parseRest rest (text.drop (field.length + 2))⟩
            | _ => .error .shape
  | _ => .error .shape

/-- Where the parts of a directive end is seen without the blanks around it; the parts
are then cut from the whole text. -/
def parse (whole : String) : Except DirectiveFault Directive :=
  let text := whole.toList
  let shape := Text.trim text
  let head := shape.takeWhile fun c => c ≠ '=' ∧ c ≠ '['
  let source := String.ofList (text.take head.length)
  match head, shape.drop head.length with
  | [], '[' :: rest => parseCall none rest (text.drop 1)
  | [], _ => .error .shape
  | first :: _, rest =>
      if !begins first then .error .shape
      else
        match rest with
        | [] =>
            match Threshold.parse? whole with
            | some threshold => .ok ⟨none, none, none, threshold⟩
            | none => .ok ⟨some whole, none, none, .all⟩
        | '=' :: _ => do
            return ⟨some source, none, none, ← parseThreshold (text.drop (head.length + 1))⟩
        | _ :: rest => parseCall (some source) rest (text.drop (head.length + 1))

end Directive

end ChainArchive.Log
