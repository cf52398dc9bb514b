import ChainArchive.Bytes

namespace ChainArchive.Text

/-! Texts without the sequences that steer a terminal. -/

inductive Steering where
  | none
  | escape
  | escapeIntermediate
  | control
  /-- The head of a device string, which its final character ends. -/
  | device
  | deviceParameter
  | deviceIntermediate
  /-- A string up to the byte 9C. -/
  | hidden
  /-- A string up to a bell. -/
  | command
  deriving DecidableEq, Repr

namespace Steering

def isLayout (c : Char) : Bool := c ∈ ['\t', '\n', '\x0c', '\r']

/-- Layout shows in the middle of a sequence too, unless a string swallows it. -/
def shows (steering : Steering) (c : Char) : Bool :=
  match steering with
  | .none => isLayout c || (' ' ≤ c && c ≠ '\x7f')
  | .escape | .escapeIntermediate | .control => isLayout c
  | _ => false

def between (first last : Char) (c : Char) : Bool := first ≤ c && c ≤ last

def afterEscape (c : Char) : Steering :=
  if c = '[' then .control
  else if c = ']' then .command
  else if c = 'P' then .device
  else if c ∈ ['X', '^', '_'] then .hidden
  else if between ' ' '/' c then .escapeIntermediate
  else if between '0' '~' c then .none
  else .escape

def within (steering : Steering) (c : Char) : Steering :=
  match steering with
  | .none => .none
  | .escape => afterEscape c
  | .escapeIntermediate => if between '0' '~' c then .none else steering
  | .control => if between '@' '~' c then .none else steering
  | .device =>
      if between ' ' '/' c then .deviceIntermediate
      else if between '0' '?' c then .deviceParameter
      else if between '@' '~' c then .hidden
      else steering
  | .deviceParameter =>
      if between ' ' '/' c then .deviceIntermediate
      else if between '<' '~' c then .hidden
      else steering
  | .deviceIntermediate => if between '0' '~' c then .hidden else steering
  | .hidden =>
      if (Bytes.ofString (String.singleton c)).contains 0x9C then .none else steering
  | .command => if c = '\x07' then .none else steering

def after (steering : Steering) (c : Char) : Steering :=
  if c = '\x1b' then .escape
  else if c = '\x18' || c = '\x1a' || steering.shows c then .none
  else steering.within c

def shown : Steering → List Char → List Char
  | _, [] => []
  | steering, c :: rest =>
      if steering.shows c then c :: shown (steering.after c) rest
      else shown (steering.after c) rest

end Steering

def asShown (text : String) : String :=
  String.ofList (Steering.none.shown text.toList)

end ChainArchive.Text
