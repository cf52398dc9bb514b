import ChainArchive.Block
import ChainArchive.Event

namespace ChainArchive

/-! The read side of a node. -/

inductive Query where
  | height
  | block (number : Nat)
  | transaction (hash : String)
  deriving DecidableEq, Repr

/-- What a query came to, what was logged until then, and what else happened meanwhile:
whether a stop was asked for, and how many nanoseconds went by. -/
structure Reply (α : Type) where
  result : Except Trouble α
  events : List Event
  stop : Bool
  elapsed : Nat

structure Node (σ : Type) where
  height : σ → Reply Quantity × σ
  block : Nat → σ → Reply Block × σ
  transaction : String → σ → Reply Transaction × σ

/-! Nodes whose replies are written down beforehand. -/

/-- The next reply, to whatever query: a refusal, or a text for each kind of query. -/
structure ScriptedReply where
  stop : Bool
  elapsed : Nat
  refusal : Option Trouble
  height : Option String
  block : Option String
  transaction : Option String

namespace ScriptedReply

def answer (reply : ScriptedReply) (kind : String) (text : Option String)
    (decoder : Json.Decoder α) (wrap : Trouble → Trouble) : Reply α where
  result :=
    match reply.refusal, text with
    | some trouble, _ => .error trouble
    | none, none => .error (.of (.said ("reply has no " ++ kind)))
    | none, some text =>
        match decoder.decode (Bytes.ofString text) with
        | .ok value => .ok value
        | .error failure => .error (wrap (.of (.json failure)))
  events := []
  stop := reply.stop
  elapsed := reply.elapsed

end ScriptedReply

namespace Node

def next (answer : ScriptedReply → Reply α) :
    List ScriptedReply → Reply α × List ScriptedReply
  | [] => (⟨.error (.of (.said "no reply")), [], false, 0⟩, [])
  | reply :: rest => (answer reply, rest)

def scripted : Node (List ScriptedReply) where
  height := next fun reply => reply.answer "height" reply.height Quantity.decoder id
  block _ := next fun reply =>
    reply.answer "block" reply.block Block.decoder (.under (.said "bad block"))
  transaction _ := next fun reply =>
    reply.answer "tx" reply.transaction Transaction.decoder
      (.under (.said "bad transaction"))

end Node

end ChainArchive
