import ChainArchive.Text.Classes
import ChainArchive.Text.Letter
import ChainArchive.Text.Pattern

namespace ChainArchive.Text.Pattern

/-! The written form of patterns. They stand between braces themselves, so that repetitions
are not counted and no character is named in braces. Classes that need a table of all
scripts are not known. -/

inductive Fault where
  | malformed
  | edgeOfWord
  deriving DecidableEq, Repr

def Fault.message : Fault → String
  | .malformed => "error building NFA"
  | .edgeOfWord =>
      "unsupported regex feature for DFAs: cannot build DFAs for regexes with Unicode word " ++
        "boundaries; switch to ASCII word boundaries, or heuristically enable Unicode word " ++
        "boundaries or use a different regex engine"

/-! Modes of reading. -/

structure Mode where
  anyCase : Bool
  /-- Whether lines have starts and ends of their own. -/
  lines : Bool
  /-- Whether lines may end in a carriage return. -/
  returns : Bool
  dotAll : Bool
  /-- Whether repetitions rather are fewer. -/
  swapped : Bool
  allScripts : Bool
  /-- Whether blanks and comments mean nothing. -/
  spaced : Bool
  deriving DecidableEq, Repr

namespace Mode

def usual : Mode := ⟨false, false, false, false, false, true, false⟩

def set? (mode : Mode) (value : Bool) : Char → Option Mode
  | 'i' => some { mode with anyCase := value }
  | 'm' => some { mode with lines := value }
  | 'R' => some { mode with returns := value }
  | 's' => some { mode with dotAll := value }
  | 'U' => some { mode with swapped := value }
  | 'u' => some { mode with allScripts := value }
  | 'x' => some { mode with spaced := value }
  | _ => none

/-- Letters that turn modes on, then a dash and letters that turn modes off; nothing is
named twice. Also given are what was named and the mark behind the letters. -/
def read? (mode : Mode) (named : List Char) :
    List Char → Option (Mode × List Char × Char × List Char)
  | [] => none
  | c :: rest =>
      if c = ':' || c = ')' then
        if named.head? = some '-' then none else some (mode, named, c, rest)
      else if named.contains c then none
      else if c = '-' then mode.read? (c :: named) rest
      else
        match mode.set? (!named.contains '-') c with
        | none => none
        | some mode => mode.read? (c :: named) rest

end Mode

def skipBlanks (inComment : Bool) : List Char → List Char
  | [] => []
  | c :: rest =>
      if inComment then skipBlanks (c ≠ '\n') rest
      else if isBlank c then skipBlanks false rest
      else if c = '#' then skipBlanks true rest
      else c :: rest

def Mode.skip (mode : Mode) (text : List Char) : List Char :=
  if mode.spaced then skipBlanks false text else text

/-! Characters. -/

/-- Only a table of all scripts knows both cases of a letter, and only single characters
can be left out of all bytes. -/
def Mode.adopt (mode : Mode) (set : CharSet) (negated : Bool) : Option CharSet :=
  if mode.allScripts then
    if mode.anyCase then none else some (if negated then .compl set else set)
  else if negated then none
  else some (if mode.anyCase then .anyCase set else set)

inductive Escape where
  | char (c : Char)
  | set (set : CharSet)
  | edge (edge : Edge)
  /-- The edge of a word in any script. -/
  | edgeOfWord

def hexDigits (mode : Mode) : Nat → List Char → Nat → Option (Nat × List Char)
  | 0, text, value => some (value, text)
  | count + 1, text, value =>
      match mode.skip text with
      | [] => none
      | c :: rest =>
          if c.isDigit || ('a' ≤ c && c ≤ 'f') || ('A' ≤ c && c ≤ 'F') then
            hexDigits mode count rest (16 * value + hexValue [c.toLower])
          else none

def hexEscape (mode : Mode) (count : Nat) (text : List Char) :
    Option (Escape × List Char) := do
  let (value, rest) ← hexDigits mode count text 0
  if !(value < 0xD800 || (0xE000 ≤ value && value < 0x110000)) then none
  else if count = 2 && 0x80 ≤ value && !mode.allScripts then none
  else some (.char (Char.ofNat value), rest)

def Mode.edge (mode : Mode) (edge : Edge) : Escape :=
  if mode.allScripts then .edgeOfWord else .edge edge

def Mode.class? (mode : Mode) (set : CharSet) : Option Escape :=
  if mode.allScripts then none else some (.set set)

def escape? (mode : Mode) : List Char → Option (Escape × List Char)
  | [] => none
  | c :: rest =>
      match c with
      | 'x' => hexEscape mode 2 rest
      | 'u' => hexEscape mode 4 rest
      | 'U' => hexEscape mode 8 rest
      | 'd' => (mode.class? .digits).map (·, rest)
      | 's' => (mode.class? .spaces).map (·, rest)
      | 'w' => (mode.class? .wordChars).map (·, rest)
      | 'a' => some (.char '\x07', rest)
      | 'f' => some (.char '\x0c', rest)
      | 't' => some (.char '\t', rest)
      | 'n' => some (.char '\n', rest)
      | 'r' => some (.char '\r', rest)
      | 'v' => some (.char '\x0b', rest)
      | 'A' => some (.edge .start, rest)
      | 'z' => some (.edge .stop, rest)
      | 'b' => some (mode.edge .word, rest)
      | 'B' => some (mode.edge .noWord, rest)
      | '<' => some (mode.edge .wordStart, rest)
      | '>' => some (mode.edge .wordStop, rest)
      | c => if c.isAlphanum || 0x80 ≤ c.toNat then none else some (.char c, rest)

/-! Sets in brackets. -/

def namedSet? : String → Option CharSet
  | "alnum" => some .alphanumerics
  | "alpha" => some .letters
  | "ascii" => some (.span '\x00' '\x7f')
  | "blank" => some (.ofChars ['\t', ' '])
  | "cntrl" => some (.union (.span '\x00' '\x1f') (.single '\x7f'))
  | "digit" => some .digits
  | "graph" => some (.span '!' '~')
  | "lower" => some .lower
  | "print" => some (.span ' ' '~')
  | "punct" => some (.diff (.span '!' '~') .alphanumerics)
  | "space" => some .spaces
  | "upper" => some .upper
  | "word" => some .wordChars
  | "xdigit" => some (.union .digits (.union (.span 'A' 'F') (.span 'a' 'f')))
  | _ => none

def namedSetIn? (text : List Char) : Option (CharSet × Bool × List Char) :=
  match text with
  | ':' :: rest =>
      let negated := rest.head? = some '^'
      let rest := if negated then rest.drop 1 else rest
      let name := rest.takeWhile (· ≠ ':')
      match rest.drop name.length with
      | ':' :: ']' :: rest => (namedSet? (String.ofList name)).map (·, negated, rest)
      | _ => none
  | _ => none

inductive SetOperation where
  | inter
  | diff
  | symmDiff

def SetOperation.apply : SetOperation → CharSet → CharSet → CharSet
  | .inter, a, b => .inter a b
  | .diff, a, b => .diff a b
  | .symmDiff, a, b => .symmDiff a b

structure SetDraft where
  negated : Bool
  waiting : Option (SetOperation × CharSet)
  items : CharSet

namespace SetDraft

def add (draft : SetDraft) (set : CharSet) : SetDraft :=
  { draft with items := .union draft.items set }

def set (draft : SetDraft) : CharSet :=
  match draft.waiting with
  | none => draft.items
  | some (operation, first) => operation.apply first draft.items

def await (draft : SetDraft) (operation : SetOperation) : SetDraft :=
  ⟨draft.negated, some (operation, draft.set), .empty⟩

def start? (mode : Mode) (text : List Char) : Option (SetDraft × List Char) :=
  let text := mode.skip text
  let negated := text.head? = some '^'
  let text := if negated then mode.skip (text.drop 1) else text
  match text with
  | [] => none
  | '-' :: _ =>
      (mode.adopt (.single '-') false).map fun set =>
        (⟨negated, none, set⟩, text.dropWhile (· = '-'))
  | ']' :: rest =>
      (mode.adopt (.single ']') false).map fun set => (⟨negated, none, set⟩, rest)
  | _ => some (⟨negated, none, .empty⟩, text)

end SetDraft

def setItem? (mode : Mode) : List Char → Option (Escape × List Char)
  | [] => none
  | '\\' :: rest => escape? mode rest
  | c :: rest => some (.char c, rest)

def Mode.bound? (mode : Mode) : Escape → Option Char
  | .char c => if mode.allScripts || c.toNat < 0x80 then some c else none
  | _ => none

/-- An item, or two with a dash between as a range. A dash before the end or before
another dash stands for itself. -/
def setRange? (mode : Mode) (text : List Char) : Option (CharSet × List Char) := do
  let (item, rest) ← setItem? mode text
  let rest := mode.skip rest
  let alone : Option (CharSet × List Char) :=
    match item with
    | .set set => (mode.adopt set false).map (·, rest)
    | item => do return (← mode.adopt (.single (← mode.bound? item)) false, rest)
  match rest with
  | [] => none
  | '-' :: after =>
      match mode.skip after with
      | [] => none
      | ']' :: _ | '-' :: _ => alone
      | after => do
          let (last, rest) ← setItem? mode after
          let first ← mode.bound? item
          let last ← mode.bound? last
          if last < first then none
          else return (← mode.adopt (.span first last) false, rest)
  | _ => alone

def setRest? (mode : Mode) : Nat → SetDraft → List Char → Option (CharSet × List Char)
  | 0, _, _ => none
  | steps + 1, draft, text =>
      match mode.skip text with
      | [] => none
      | ']' :: rest => (mode.adopt draft.set draft.negated).map (·, rest)
      | '&' :: '&' :: rest => setRest? mode steps (draft.await .inter) rest
      | '-' :: '-' :: rest => setRest? mode steps (draft.await .diff) rest
      | '~' :: '~' :: rest => setRest? mode steps (draft.await .symmDiff) rest
      | '[' :: rest =>
          match namedSetIn? rest with
          | some (set, negated, rest) => do
              let set ← mode.adopt set negated
              setRest? mode steps (draft.add set) rest
          | none => do
              let (inner, rest) ← SetDraft.start? mode rest
              let (set, rest) ← setRest? mode steps inner rest
              setRest? mode steps (draft.add set) rest
      | text => do
          let (set, rest) ← setRange? mode text
          setRest? mode steps (draft.add set) rest

def bracketed? (mode : Mode) (text : List Char) : Option (CharSet × List Char) := do
  let (draft, rest) ← SetDraft.start? mode text
  setRest? mode (rest.length + 1) draft rest

/-! Groups. -/

/-- A group that is being read: the branches before the present one and the items of
that, each with the latest first. An item without a pattern is a change of mode. -/
structure Group where
  branches : List Pattern
  items : List (Option Pattern)
  mode : Mode

namespace Group

def fresh (mode : Mode) : Group := ⟨[], [], mode⟩

def add (group : Group) (pattern : Pattern) : Group :=
  { group with items := some pattern :: group.items }

def branch (group : Group) : Pattern :=
  match group.items.filterMap id with
  | [] => .empty
  | last :: others => others.foldl (fun rest item => .seq item rest) last

def divide (group : Group) : Group :=
  { group with branches := group.branch :: group.branches, items := [] }

def close (group : Group) : Pattern :=
  group.branches.foldl (fun rest branch => .choice branch rest) group.branch

end Group

structure Draft where
  outer : List Group
  group : Group
  names : List String
  hasEdgeOfWord : Bool

namespace Draft

def fresh : Draft := ⟨[], .fresh .usual, [], false⟩

def mode (draft : Draft) : Mode := draft.group.mode

def add (draft : Draft) (pattern : Pattern) : Draft :=
  { draft with group := draft.group.add pattern }

def enter (draft : Draft) (mode : Mode) : Draft :=
  { draft with outer := draft.group :: draft.outer, group := .fresh mode }

def leave? (draft : Draft) : Option Draft :=
  match draft.outer with
  | [] => none
  | group :: outer =>
      some { draft with outer := outer, group := group.add draft.group.close }

def name? (draft : Draft) (text : List Char) : Option (Draft × List Char) :=
  let name := text.takeWhile (· ≠ '>')
  match name, text.drop name.length with
  | first :: others, _ :: rest =>
      let inName (c : Char) := isLetterOrNumber c || c ∈ ['_', '.', '[', ']']
      if !(isLetter first || first = '_') || !others.all inName ||
          draft.names.contains (String.ofList name) then
        none
      else
        some ({ draft.enter draft.mode with names := String.ofList name :: draft.names },
          rest)
  | _, _ => none

/-- What follows an opening parenthesis: a name, or modes for the group, or modes for the
rest of the group around. -/
def openGroup? (draft : Draft) (text : List Char) : Option (Draft × List Char) :=
  match draft.mode.skip text with
  | '?' :: 'P' :: '<' :: rest | '?' :: '<' :: rest => draft.name? rest
  | '?' :: rest => do
      let (mode, named, mark, rest) ← draft.mode.read? [] rest
      if mark = ':' then return (draft.enter mode, rest)
      else if named.isEmpty then none
      else
        let group := { draft.group with items := none :: draft.group.items, mode := mode }
        return ({ draft with group := group }, rest)
  | rest => some (draft.enter draft.mode, rest)

/-- A pattern must stand before the sign of a repetition, and a question mark behind the
sign turns its preference around. -/
def repeated? (draft : Draft) (sign : Char) (text : List Char) :
    Option (Draft × List Char) :=
  match draft.group.items with
  | some item :: items =>
      let asked := text.head? = some '?'
      let more := asked == draft.mode.swapped
      let repeated :=
        if sign = '*' then .repeated more item
        else if sign = '+' then .seq item (.repeated more item)
        else if more then .choice item .empty
        else .choice .empty item
      some ({ draft with group := { draft.group with items := some repeated :: items } },
        if asked then text.drop 1 else text)
  | _ => none

def dot? (mode : Mode) : Option CharSet :=
  if !mode.allScripts then none
  else if mode.dotAll then some .any
  else some (.compl (.ofChars (if mode.returns then ['\n', '\r'] else ['\n'])))

def startEdge (mode : Mode) : Edge :=
  if !mode.lines then .start else if mode.returns then .anyLineStart else .lineStart

def stopEdge (mode : Mode) : Edge :=
  if !mode.lines then .stop else if mode.returns then .anyLineStop else .lineStop

def literal? (draft : Draft) (c : Char) : Option Draft :=
  (draft.mode.adopt (.single c) false).map fun set => draft.add (.char set)

def advance? (draft : Draft) : List Char → Option (Draft × List Char)
  | [] => none
  | c :: rest =>
      match c with
      | '(' => draft.openGroup? rest
      | ')' => draft.leave?.map (·, rest)
      | '|' => some ({ draft with group := draft.group.divide }, rest)
      | '[' => (bracketed? draft.mode rest).map fun read =>
          (draft.add (.char read.1), read.2)
      | '\x7b' => none
      | '?' | '*' | '+' => draft.repeated? c rest
      | '.' => (dot? draft.mode).map fun set => (draft.add (.char set), rest)
      | '^' => some (draft.add (.place (startEdge draft.mode)), rest)
      | '$' => some (draft.add (.place (stopEdge draft.mode)), rest)
      | '\\' => do
          let (escape, rest) ← escape? draft.mode rest
          match escape with
          | .char c => (draft.literal? c).map (·, rest)
          | .set set => return (draft.add (.char set), rest)
          | .edge edge => return (draft.add (.place edge), rest)
          | .edgeOfWord => return ({ draft.add .empty with hasEdgeOfWord := true }, rest)
      | c => (draft.literal? c).map (·, rest)

def finish? : Nat → Draft → List Char → Option Draft
  | 0, _, _ => none
  | steps + 1, draft, text =>
      match draft.mode.skip text with
      | [] => if draft.outer.isEmpty then some draft else none
      | text => do
          let (draft, rest) ← draft.advance? text
          finish? steps draft rest

end Draft

def parse (text : String) : Except Fault Pattern :=
  match Draft.fresh.finish? (text.length + 1) text.toList with
  | none => .error .malformed
  | some draft =>
      if draft.hasEdgeOfWord then .error .edgeOfWord else .ok draft.group.close

end ChainArchive.Text.Pattern
