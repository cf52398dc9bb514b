import ChainArchive.Json.Record

namespace ChainArchive.Rpc

/-! Replies to remote calls: a result, an error, or neither. -/

structure RemoteError where
  code : Int
  message : String
  deriving DecidableEq, Repr

namespace RemoteError

structure Draft where
  code : Option Int
  message : Option String

namespace Draft

def slot (draft : Draft) (key : String) : Json.Slot Draft :=
  if key = "code" then
    .once key draft.code .signedWord fun code => { draft with code := some code }
  else if key = "message" then
    .once key draft.message .text fun message => { draft with message := some message }
  else .ignored

def columns : List (Json.Column Draft) :=
  [⟨fun draft => .map (fun code => { draft with code := some code }) .signedWord, false⟩,
   ⟨fun draft => .map (fun message => { draft with message := some message }) .text, false⟩]

def finish (draft : Draft) : Except Json.Mismatch RemoteError := do
  let code ← Json.required "code" draft.code
  let message ← Json.required "message" draft.message
  return ⟨code, message⟩

end Draft

def record : Json.Record Draft RemoteError where
  expected := "struct RpcError"
  start := ⟨none, none⟩
  slot := Draft.slot
  columns := some Draft.columns
  finish := Draft.finish

def decoder : Json.Decoder RemoteError := record.decoder

end RemoteError

structure Envelope (α : Type) where
  result : Option α
  error : Option RemoteError

namespace Envelope

structure Draft (α : Type) where
  result : Option (Option α)
  error : Option (Option RemoteError)

variable {α : Type}

namespace Draft

def slot (result : Json.Decoder α) (draft : Draft α) (key : String) :
    Json.Slot (Draft α) :=
  if key = "result" then
    .once key draft.result (.option result) fun r => { draft with result := some r }
  else if key = "error" then
    .once key draft.error (.option RemoteError.decoder) fun e =>
      { draft with error := some e }
  else .ignored

def columns (result : Json.Decoder α) : List (Json.Column (Draft α)) :=
  [⟨fun draft => .map (fun r => { draft with result := some r }) (.option result), false⟩,
   ⟨fun draft => .map (fun e => { draft with error := some e })
      (.option RemoteError.decoder), false⟩]

def finish (draft : Draft α) : Except Json.Mismatch (Envelope α) :=
  .ok ⟨draft.result.getD none, draft.error.getD none⟩

end Draft

def record (result : Json.Decoder α) : Json.Record (Draft α) (Envelope α) where
  expected := "struct RpcResponse"
  start := ⟨none, none⟩
  slot := Draft.slot result
  columns := some (Draft.columns result)
  finish := Draft.finish

def decoder (result : Json.Decoder α) : Json.Decoder (Envelope α) := (record result).decoder

end Envelope

end ChainArchive.Rpc
