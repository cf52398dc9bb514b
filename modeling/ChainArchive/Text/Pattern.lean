namespace ChainArchive.Text

/-! Patterns of texts. -/

inductive CharSet where
  | empty
  | span (first last : Char)
  | union (a b : CharSet)
  | inter (a b : CharSet)
  | diff (a b : CharSet)
  | symmDiff (a b : CharSet)
  | compl (a : CharSet)
  /-- The letters of the basic alphabet count in both cases. -/
  | anyCase (a : CharSet)
  deriving DecidableEq, Repr

namespace CharSet

def single (c : Char) : CharSet := .span c c

def any : CharSet := .compl .empty

def ofChars (chars : List Char) : CharSet :=
  chars.foldr (fun c rest => .union (single c) rest) .empty

def swapCase (c : Char) : Char := if c.isUpper then c.toLower else c.toUpper

def holds : CharSet → Char → Bool
  | .empty, _ => false
  | .span first last, c => first ≤ c && c ≤ last
  | .union a b, c => a.holds c || b.holds c
  | .inter a b, c => a.holds c && b.holds c
  | .diff a b, c => a.holds c && !b.holds c
  | .symmDiff a b, c => a.holds c != b.holds c
  | .compl a, c => !a.holds c
  | .anyCase a, c => a.holds c || a.holds (swapCase c)

def digits : CharSet := .span '0' '9'

def lower : CharSet := .span 'a' 'z'

def upper : CharSet := .span 'A' 'Z'

def letters : CharSet := .union lower upper

def alphanumerics : CharSet := .union digits letters

def wordChars : CharSet := .union alphanumerics (single '_')

def spaces : CharSet := ofChars ['\t', '\n', '\x0b', '\x0c', '\r', ' ']

end CharSet

structure Place where
  before : Option Char
  behind : Option Char
  deriving DecidableEq, Repr

inductive Edge where
  | start
  | stop
  | lineStart
  | lineStop
  /-- Lines may end in a carriage return too, but not between it and a line feed. -/
  | anyLineStart
  | anyLineStop
  | word
  | noWord
  | wordStart
  | wordStop
  deriving DecidableEq, Repr

def Edge.holds (edge : Edge) (place : Place) : Bool :=
  let wordBefore := place.before.any CharSet.wordChars.holds
  let wordBehind := place.behind.any CharSet.wordChars.holds
  match edge with
  | .start => place.before.isNone
  | .stop => place.behind.isNone
  | .lineStart => place.before.all (· = '\n')
  | .lineStop => place.behind.all (· = '\n')
  | .anyLineStart =>
      place.before.all fun c => c = '\n' || (c = '\r' && place.behind ≠ some '\n')
  | .anyLineStop =>
      place.behind.all fun c => c = '\r' || (c = '\n' && place.before ≠ some '\r')
  | .word => wordBefore != wordBehind
  | .noWord => wordBefore == wordBehind
  | .wordStart => !wordBefore && wordBehind
  | .wordStop => wordBefore && !wordBehind

/-- Of two ways to match the one that is named first is preferred. -/
inductive Pattern where
  | empty
  | place (edge : Edge)
  | char (set : CharSet)
  | seq (first second : Pattern)
  | choice (first second : Pattern)
  /-- Any number of times, rather more of them or rather fewer. -/
  | repeated (more : Bool) (body : Pattern)
  deriving DecidableEq, Repr

namespace Pattern

inductive Way where
  | finished
  | read (set : CharSet) (rest : Pattern)
  deriving DecidableEq, Repr

def Way.andThen (second : Pattern) (waysOfSecond : List Way) : Way → List Way
  | .finished => waysOfSecond
  | .read set rest => [.read set (.seq rest second)]

/-- All ways in the order of preference. A repetition ends after a turn that read
nothing. -/
def ways (place : Place) : Pattern → List Way
  | .empty => [.finished]
  | .place edge => if edge.holds place then [.finished] else []
  | .char set => [.read set .empty]
  | .seq first second =>
      ((ways place first).flatMap (Way.andThen second (ways place second))).eraseDups
  | .choice first second => (ways place first ++ ways place second).eraseDups
  | .repeated more body =>
      let turns :=
        (ways place body).flatMap (Way.andThen (.repeated more body) [.finished])
      (if more then turns ++ [.finished] else .finished :: turns).eraseDups

def waysOfAll (place : Place) (patterns : List Pattern) : List Way :=
  patterns.flatMap (ways place)

/-- A match that is finished rules out the ways behind it, even if it ends too early. -/
def advance (place : Place) (c : Char) (patterns : List Pattern) : List Pattern :=
  (((waysOfAll place patterns).takeWhile (· ≠ .finished)).filterMap fun way =>
    match way with
    | .finished => none
    | .read set rest => if set.holds c then some rest else none).eraseDups

def matchesFrom (before : Option Char) (patterns : List Pattern) : List Char → Bool
  | [] => (waysOfAll ⟨before, none⟩ patterns).contains .finished
  | c :: rest => matchesFrom (some c) (advance ⟨before, some c⟩ c patterns) rest

def accepts (pattern : Pattern) (text : String) : Bool :=
  matchesFrom none [pattern] text.toList

end Pattern

end ChainArchive.Text
