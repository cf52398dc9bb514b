import ChainArchive.Wei
import ChainArchive.Json.Record

namespace ChainArchive

/-! Transactions: typed members, and all other members as they were received. -/

structure Transaction where
  sender : String
  recipient : Option String
  nonce : Quantity
  blockNumber : Option Quantity
  transactionIndex : Option Quantity
  gas : Option Quantity
  value : Option Wei
  gasPrice : Option Wei
  maxFeePerGas : Option Wei
  maxPriorityFeePerGas : Option Wei
  extras : List (String × Json)

namespace Transaction

def extra? (tx : Transaction) (name : String) : Option Json :=
  (tx.extras.find? (·.1 == name)).map (·.2)

def hash? (tx : Transaction) : Option String := (tx.extra? "hash").bind Json.string?

def createsContract (tx : Transaction) : Bool := tx.recipient.isNone

def same (tx other : Transaction) : Bool :=
  tx.sender == other.sender && tx.recipient == other.recipient &&
    tx.nonce == other.nonce && tx.blockNumber == other.blockNumber &&
    tx.transactionIndex == other.transactionIndex && tx.gas == other.gas &&
    tx.value == other.value && tx.gasPrice == other.gasPrice &&
    tx.maxFeePerGas == other.maxFeePerGas &&
    tx.maxPriorityFeePerGas == other.maxPriorityFeePerGas &&
    Json.sameMembers tx.extras other.extras

/-! The written form. -/

def optionalMember (name : String) (write : α → Json) (value : Option α) :
    List (String × Json) :=
  match value with
  | some a => [(name, write a)]
  | none => []

/-- The recipient is always written; other absent members are left out. -/
def typedMembers (tx : Transaction) : List (String × Json) :=
  [("from", .string tx.sender),
   ("to", (tx.recipient.map Json.string).getD .null),
   ("nonce", tx.nonce.toJson)] ++
    optionalMember "blockNumber" Quantity.toJson tx.blockNumber ++
    optionalMember "transactionIndex" Quantity.toJson tx.transactionIndex ++
    optionalMember "gas" Quantity.toJson tx.gas ++
    optionalMember "value" Wei.toJson tx.value ++
    optionalMember "gasPrice" Wei.toJson tx.gasPrice ++
    optionalMember "maxFeePerGas" Wei.toJson tx.maxFeePerGas ++
    optionalMember "maxPriorityFeePerGas" Wei.toJson tx.maxPriorityFeePerGas

def toJson (tx : Transaction) : Json := .object (tx.typedMembers ++ tx.extras)

def line (tx : Transaction) : Bytes := tx.toJson.render

/-! Decoding. -/

structure Draft where
  sender : Option String
  recipient : Option (Option String)
  nonce : Option Quantity
  blockNumber : Option (Option Quantity)
  transactionIndex : Option (Option Quantity)
  gas : Option (Option Quantity)
  value : Option (Option Wei)
  gasPrice : Option (Option Wei)
  maxFeePerGas : Option (Option Wei)
  maxPriorityFeePerGas : Option (Option Wei)
  extras : List (String × Json)

namespace Draft

def empty : Draft :=
  ⟨none, none, none, none, none, none, none, none, none, none, []⟩

def slot (draft : Draft) (key : String) : Json.Slot Draft :=
  if key = "from" then
    .once key draft.sender .text fun s => { draft with sender := some s }
  else if key = "to" then
    .once key draft.recipient (.option .text) fun r => { draft with recipient := some r }
  else if key = "nonce" then
    .once key draft.nonce Quantity.decoder fun n => { draft with nonce := some n }
  else if key = "blockNumber" then
    .once key draft.blockNumber (.option Quantity.decoder) fun n =>
      { draft with blockNumber := some n }
  else if key = "transactionIndex" then
    .once key draft.transactionIndex (.option Quantity.decoder) fun n =>
      { draft with transactionIndex := some n }
  else if key = "gas" then
    .once key draft.gas (.option Quantity.decoder) fun n => { draft with gas := some n }
  else if key = "value" then
    .once key draft.value (.option Wei.decoder) fun w => { draft with value := some w }
  else if key = "gasPrice" then
    .once key draft.gasPrice (.option Wei.decoder) fun w =>
      { draft with gasPrice := some w }
  else if key = "maxFeePerGas" then
    .once key draft.maxFeePerGas (.option Wei.decoder) fun w =>
      { draft with maxFeePerGas := some w }
  else if key = "maxPriorityFeePerGas" then
    .once key draft.maxPriorityFeePerGas (.option Wei.decoder) fun w =>
      { draft with maxPriorityFeePerGas := some w }
  else
    .taken (Json.Decoder.json.map fun v =>
      { draft with extras := Json.insertMember key v draft.extras })

def finish (draft : Draft) : Except Json.Mismatch Transaction := do
  let sender ← Json.required "from" draft.sender
  let nonce ← Json.required "nonce" draft.nonce
  return {
    sender
    recipient := draft.recipient.getD none
    nonce
    blockNumber := draft.blockNumber.getD none
    transactionIndex := draft.transactionIndex.getD none
    gas := draft.gas.getD none
    value := draft.value.getD none
    gasPrice := draft.gasPrice.getD none
    maxFeePerGas := draft.maxFeePerGas.getD none
    maxPriorityFeePerGas := draft.maxPriorityFeePerGas.getD none
    extras := draft.extras }

end Draft

def record : Json.Record Draft Transaction where
  expected := "struct Transaction"
  start := .empty
  slot := Draft.slot
  columns := none
  finish := Draft.finish

def decoder : Json.Decoder Transaction := record.decoder

end Transaction

end ChainArchive
