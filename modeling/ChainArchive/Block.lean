import ChainArchive.Quantity
import ChainArchive.Json.Record

namespace ChainArchive

/-! Blocks, with the hashes of their transactions in order of inclusion. -/

structure Block where
  number : Quantity
  hash : Option String
  transactions : List String
  deriving DecidableEq

namespace Block

structure Draft where
  number : Option Quantity
  hash : Option (Option String)
  transactions : Option (List String)

namespace Draft

def empty : Draft := ⟨none, none, none⟩

def slot (draft : Draft) (key : String) : Json.Slot Draft :=
  if key = "number" then
    .once key draft.number Quantity.decoder fun n => { draft with number := some n }
  else if key = "hash" then
    .once key draft.hash (.option .text) fun h => { draft with hash := some h }
  else if key = "transactions" then
    .once key draft.transactions (.list .text) fun ts =>
      { draft with transactions := some ts }
  else .ignored

def columns : List (Json.Column Draft) :=
  [⟨fun draft => Quantity.decoder.map fun n => { draft with number := some n }, false⟩,
   ⟨fun draft => .map (fun h => { draft with hash := some h }) (.option .text), true⟩,
   ⟨fun draft => .map (fun ts => { draft with transactions := some ts }) (.list .text),
    true⟩]

/-- A block has a number; no hash and no transactions are the default. -/
def finish (draft : Draft) : Except Json.Mismatch Block := do
  let number ← Json.required "number" draft.number
  return ⟨number, draft.hash.getD none, draft.transactions.getD []⟩

end Draft

def record : Json.Record Draft Block where
  expected := "struct Block"
  start := .empty
  slot := Draft.slot
  columns := some Draft.columns
  finish := Draft.finish

def decoder : Json.Decoder Block := record.decoder

end Block

end ChainArchive
