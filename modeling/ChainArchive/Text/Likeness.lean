import ChainArchive.Decimal.Binary64

namespace ChainArchive.Text

/-! How alike two words are: letters that both have at nearly the same place, less those
that come in another order. -/

/-- Takes the first letter equal to `c` among the places from `low` up to `high`, if one
is left there; the first letter stands at `index`. -/
def takeLetter (c : Char) (low high index : Nat) :
    List (Char × Bool) → Option (List (Char × Bool))
  | [] => none
  | (letter, taken) :: rest =>
      if letter = c ∧ !taken ∧ low ≤ index ∧ index < high then
        some ((letter, true) :: rest)
      else (takeLetter c low high (index + 1) rest).map ((letter, taken) :: ·)

def partners (reach index : Nat) :
    List Char → List (Char × Bool) → List Char × List Char
  | [], second => ([], (second.filter (·.2)).map (·.1))
  | c :: rest, second =>
      match takeLetter c (index - reach) (index + reach + 1) 0 second with
      | none => partners reach (index + 1) rest second
      | some second =>
          let found := partners reach (index + 1) rest second
          (c :: found.1, found.2)

def likeness (first second : String) : Binary64 :=
  let reach := Nat.max first.length second.length / 2 - 1
  let (mine, yours) := partners reach 0 first.toList (second.toList.map (·, false))
  let shared := mine.length
  let moved := ((mine.zip yours).filter fun pair => pair.1 ≠ pair.2).length / 2
  if shared = 0 then .zero
  else
    (((Binary64.ofRatio shared first.length).add (.ofRatio shared second.length)).add
      (.ofRatio (shared - moved) shared)).div (.ofNat 3)

def leastLikeness : Binary64 := .ofRatio 7 10

def mostSimilar? (word : String) (candidates : List String) : Option String :=
  (candidates.foldl
    (fun (best : Option String × Binary64) candidate =>
      let alike := likeness word candidate
      if leastLikeness.isBelow alike && !alike.isBelow best.2 then (some candidate, alike)
      else best)
    (none, Binary64.zero)).1

end ChainArchive.Text
