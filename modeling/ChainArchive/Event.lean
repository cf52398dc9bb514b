import ChainArchive.Trouble
import ChainArchive.Transaction

namespace ChainArchive

/-! What is logged. -/

inductive Level where
  | trace
  | debug
  | info
  | warn
  | error
  deriving DecidableEq, Repr

namespace Level

def name : Level → String
  | .trace => "TRACE"
  | .debug => "DEBUG"
  | .info => "INFO"
  | .warn => "WARN"
  | .error => "ERROR"

def rank : Level → Nat
  | .trace => 0
  | .debug => 1
  | .info => 2
  | .warn => 3
  | .error => 4

end Level

inductive FieldValue where
  | number (n : Nat)
  | text (s : String)
  /-- A text that the log shows as it is. -/
  | plain (s : String)
  deriving DecidableEq, Repr

structure CallContext where
  method : String
  url : String
  deriving DecidableEq, Repr

inductive Event where
  | readingChain (url : String)
  | stopRequested
  | done (transactions blocks : Nat)
  | deleted (path : String)
  | notDeleted (path : String) (fault : SystemFault)
  | creating (path : String)
  | total (head : Nat)
  | fetchedBlock (number : Nat) (hash : Option String) (transactions : Nat)
  | fetched (sender : String) (recipient : Option String) (nonce : Nat)
  | progress (number : Nat) (speed : String)
  | wrote (path : String) (blocks transactions : Nat)
  | sendRequest (id : Nat) (context : CallContext)
  | callFailed (report : String) (context : CallContext)
  deriving DecidableEq, Repr

namespace Event

def level : Event → Level
  | .notDeleted _ _ | .stopRequested => .warn
  | .fetchedBlock _ _ _ | .sendRequest _ _ => .debug
  | .callFailed _ _ => .error
  | _ => .info

/-- A failed call has fields only. -/
def message? : Event → Option String
  | .readingChain url => some ("reading chain from " ++ url)
  | .stopRequested => some "stop requested, finishing current transaction"
  | .done transactions blocks =>
      some ("done: " ++ toString transactions ++ " transactions from " ++
        toString blocks ++ " blocks")
  | .deleted path => some (path ++ " was deleted")
  | .notDeleted path _ => some ("failed to delete " ++ path)
  | .creating path => some ("creating file " ++ path)
  | .total head => some ("total number of blocks: " ++ toString head)
  | .fetchedBlock _ _ _ => some "fetched block"
  | .fetched sender recipient nonce =>
      some ("from: " ++ sender ++ " to: " ++ recipient.getD "null" ++ " nonce: " ++
        toString nonce)
  | .progress number speed =>
      some ("last block: " ++ toString number ++ ", progress: " ++ speed ++ " blocks/sec")
  | .wrote path _ _ => some ("wrote " ++ path)
  | .sendRequest _ _ => some "send request"
  | .callFailed _ _ => none

def fields : Event → List (String × FieldValue)
  | .notDeleted _ fault => [("error", .plain fault.details)]
  | .fetchedBlock number hash transactions =>
      [("block", .number number), ("hash", .text (hash.getD "None")),
        ("transactions", .number transactions)]
  | .wrote _ blocks transactions =>
      [("blocks", .number blocks), ("transactions", .number transactions)]
  | .sendRequest id _ => [("id", .number id)]
  | .callFailed report _ => [("error", .plain report)]
  | _ => []

def context? : Event → Option CallContext
  | .sendRequest _ context | .callFailed _ context => some context
  | _ => none

end Event

end ChainArchive
