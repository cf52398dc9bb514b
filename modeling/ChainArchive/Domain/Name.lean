import ChainArchive.Domain.Mapping
import ChainArchive.Domain.Punycode
import ChainArchive.Text.Direction
import ChainArchive.Text.Joining

namespace ChainArchive.Domain

/-! Domain names: international labels are written with letters and digits alone. -/

def isForbidden (c : Char) : Bool :=
  c.toNat ≤ 32 || c.toNat == 127 || "#%/:<>?@[\\]^|".toList.contains c

/-! Joiners stand where they change how letters are written. -/

def joiner : Char := '\u200D'

def nonJoiner : Char := '\u200C'

def joiningMarkClass : Nat := 9

def neighbour (letters : List Char) : Option Text.Joining :=
  (letters.map Text.joining).find? (· != .transparent)

/-- After a mark that joins consonants, or between letters that would join; the letters
before it come in reverse. -/
def joinerFits (before : List Char) (c : Char) (behind : List Char) : Bool :=
  match before.head? with
  | none => false
  | some previous =>
      Text.markClass previous == joiningMarkClass ||
        (c == nonJoiner &&
          (neighbour before == some .both || neighbour before == some .behind) &&
          (neighbour behind == some .both || neighbour behind == some .before))

def joinersFit (before : List Char) : List Char → Bool
  | [] => true
  | c :: rest =>
      (!(c == joiner || c == nonJoiner) || joinerFits before c rest) &&
        joinersFit (c :: before) rest

/-! A label has one direction. -/

def hasRightToLeft (label : List Char) : Bool :=
  label.any fun c =>
    Text.direction c == .rightToLeft || Text.direction c == .arabicNumber

/-- What the direction of the first letter admits; numbers of one kind may end a label. -/
def keepsDirection (label : List Char) : Bool :=
  let directions := label.map Text.direction
  let last := (directions.reverse.dropWhile (· == .mark)).head?
  match directions.head? with
  | none => true
  | some .leftToRight =>
      !directions.contains .rightToLeft && !directions.contains .arabicNumber &&
        !directions.contains .separator &&
        (last == some .leftToRight || last == some .europeanNumber)
  | some .rightToLeft =>
      !directions.contains .leftToRight && !directions.contains .separator &&
        !(directions.contains .arabicNumber && directions.contains .europeanNumber) &&
        (last == some .rightToLeft || last == some .arabicNumber ||
          last == some .europeanNumber)
  | some _ => false

/-! Labels as they are read and as they are written. -/

structure Label where
  letters : List Char
  written : List Char

def marker : List Char := ['x', 'n', '-', '-']

def longestLabel : Nat := 1000

def longestWritten : Nat := 2000

def isSound (letters : List Char) : Bool :=
  !(letters.head?.any Text.isMark) && joinersFit [] letters &&
    letters.length ≤ longestLabel

def readLabel? (written : List Char) : Option Label := do
  let letters ← Punycode.decode (written.drop marker.length)
  if written.length ≤ longestWritten + marker.length && !letters.all Punycode.isBasic &&
      Punycode.encode letters == written.drop marker.length && isMapped letters &&
      !letters.any isForbidden && isSound letters then
    return ⟨letters, written⟩
  else none

def label? (letters : List Char) : Option Label :=
  if letters.take marker.length = marker then readLabel? letters
  else if letters.all Punycode.isBasic then some ⟨letters, letters⟩
  else if isSound letters then some ⟨letters, marker ++ Punycode.encode letters⟩
  else none

def toAscii? (name : List Char) : Option String := do
  let mapped ← mapped? name
  if mapped.any isForbidden then none
  else
    let labels ← (Text.splitWhere (· == '.') mapped).mapM label?
    if labels.any (hasRightToLeft ·.letters) && !labels.all (keepsDirection ·.letters) then
      none
    else return String.ofList (List.intercalate ['.'] (labels.map (·.written)))

end ChainArchive.Domain
