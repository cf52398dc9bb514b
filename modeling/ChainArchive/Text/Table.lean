namespace ChainArchive.Text

/-! Tables of code points, written down as words of hexadecimal digits. -/

def splitWhere (separates : Char → Bool) : List Char → List (List Char)
  | [] => [[]]
  | c :: rest =>
      match splitWhere separates rest with
      | [] => [[c]]
      | part :: parts =>
          if separates c then [] :: part :: parts else (c :: part) :: parts

def words (text : String) : List (List Char) :=
  (splitWhere (fun c => c == ' ' || c == '\n') text.toList).filter (!·.isEmpty)

def hexValue (digits : List Char) : Nat :=
  digits.foldl (fun value c => 16 * value + (c.toNat - if c.isDigit then 48 else 87)) 0

def cut (mark : Char) (word : List Char) : List Char × List Char :=
  let before := word.takeWhile (· ≠ mark)
  (before, word.drop (before.length + 1))

/-- The numbers from the first to the last, each or every second one, and a value that
belongs to the first of them. -/
structure Span where
  first : Nat
  last : Nat
  step : Nat
  value : Nat
  deriving DecidableEq, Repr

namespace Span

def holds (span : Span) (n : Nat) : Bool :=
  span.first ≤ n && n ≤ span.last && (n - span.first) % span.step == 0

/-- A number alone, `a-b` for a range or `a=b` for every second one of it; the value
follows a colon. -/
def ofWord (word : List Char) : Span :=
  let (range, value) := cut ':' word
  let (first, last) := cut '-' range
  let (start, end') := cut '=' range
  if !last.isEmpty then ⟨hexValue first, hexValue last, 1, hexValue value⟩
  else if !end'.isEmpty then ⟨hexValue start, hexValue end', 2, hexValue value⟩
  else ⟨hexValue range, hexValue range, 1, hexValue value⟩

end Span

def spans (text : String) : List Span := (words text).map Span.ofWord

def inSpans (table : List Span) (c : Char) : Bool := table.any (·.holds c.toNat)

structure Expansion where
  source : Char
  target : List Char
  deriving DecidableEq, Repr

def Expansion.ofWord (word : List Char) : Expansion :=
  let (source, target) := cut ':' word
  { source := Char.ofNat (hexValue source)
    target := (splitWhere (· == ',') target).map fun digits => Char.ofNat (hexValue digits) }

def expansions (text : String) : List Expansion := (words text).map Expansion.ofWord

def cell? (rows : Array String) (row column : Nat) : Option Char :=
  (rows[row]?.bind (·.toList[column]?)).filter (· ≠ ' ')

end ChainArchive.Text
