import ChainArchive.Http.Wire
import ChainArchive.Node
import ChainArchive.Rpc.Envelope
import ChainArchive.Url.Parser

namespace ChainArchive.Rpc

/-! A node behind remote calls over HTTP. -/

inductive Method where
  | blockNumber
  | blockByNumber
  | transactionByHash
  deriving DecidableEq, Repr

def Method.name : Method → String
  | .blockNumber => "eth_blockNumber"
  | .blockByNumber => "eth_getBlockByNumber"
  | .transactionByHash => "eth_getTransactionByHash"

structure Client where
  url : Url
  hasHost : url.hasHost

namespace Client

def badAddress (layers : Trouble) : Trouble := layers.under .badAddress

def ofUrl (url : Url) : Except Trouble Client :=
  if h : url.hasHost then .ok ⟨url, h⟩
  else
    .error (badAddress ((Trouble.of .schemeRefused).under (.notBuilt (some url.render))))

def ofText (text : String) : Except Trouble Client :=
  match Url.parse text with
  | .ok url => ofUrl url
  | .error fault => .error (badAddress ((Trouble.of (.address fault)).under (.notBuilt none)))

def description (client : Client) : String :=
  "RpcClient \x7b url: " ++ Text.quoted client.url.render ++ " \x7d"

end Client

/-- What requests meet, one after another, and all that were sent. Calls are numbered
from one, within a word. -/
structure Link where
  script : List Http.Exchange
  /-- What a request meets when the script has ended. -/
  rest : Http.Exchange
  sent : List Http.Request
  calls : Nat
  stopped : Bool

namespace Link

def start (script : List Http.Exchange) (rest : Http.Exchange) : Link :=
  ⟨script, rest, [], 0, false⟩

def exchange (link : Link) : Http.Exchange := link.script.head?.getD link.rest

def id (link : Link) : Nat := (link.calls + 1) % wordSize

def advance (link : Link) (request : Http.Request) : Link :=
  { link with
    script := link.script.tail
    sent := link.sent ++ if link.exchange.outcome = .refused then [] else [request]
    stopped := link.stopped || link.exchange.stop }

end Link

/-! Calls. -/

structure Call (α : Type) where
  method : Method
  params : List Json
  decoder : Json.Decoder α
  /-- Why the call fails without a result. -/
  missing : Trouble

namespace Call

def height : Call Quantity where
  method := .blockNumber
  params := []
  decoder := Quantity.decoder
  missing := .of (.nullResult Method.blockNumber.name)

def block (number : Nat) : Call Block where
  method := .blockByNumber
  params := [.string ("0x" ++ Text.hexText number), .bool false]
  decoder := Block.decoder
  missing := .of (.absent ("block " ++ toString number))

def transaction (hash : String) : Call Transaction where
  method := .transactionByHash
  params := [.string hash]
  decoder := Transaction.decoder
  missing := .of (.absent ("transaction " ++ hash))

variable {α : Type}

def body (call : Call α) (id : Nat) : Json :=
  .object [("id", .count id), ("jsonrpc", .string "2.0"),
    ("method", .string call.method.name), ("params", .array call.params)]

/-- A remote error wins over a result, but only a body that decodes as a whole counts. -/
def open? (call : Call α) (response : Http.Response) : Except Trouble (Option α) :=
  if response.isSuccess then
    match (Envelope.decoder call.decoder).decode response.content with
    | .error failure =>
        .error (((Trouble.of (.json failure)).under .badBody).under
          (.undecodable call.method.name))
    | .ok envelope =>
        match envelope.error with
        | some error => .error (.of (.remote error.code error.message))
        | none => .ok envelope.result
  else .error (.of (.status response.status response.text))

end Call

namespace Client

variable {α : Type}

def request (client : Client) (call : Call α) (id : Nat) : Http.Request :=
  ⟨client.url.target, (call.body id).render⟩

def isWeb (client : Client) : Bool :=
  client.url.scheme == "http" || client.url.scheme == "https"

def barrier? (client : Client) : Option Layer :=
  if !client.isWeb then some .schemeRefused
  else if !client.url.isSendable then some .unsendable
  else none

def unsent (client : Client) (cause : Trouble) : Trouble :=
  cause.under (.unsent client.url.withoutCredentials.render)

def unanswered (client : Client) (cause : Layer) : Trouble :=
  client.unsent ((Trouble.of cause).under (.link .exchange))

def result (client : Client) (call : Call α) :
    Except Layer Http.Outcome → Except Trouble (Option α)
  | .error barrier =>
      .error ((Trouble.of barrier).under
        (.notBuilt (some client.url.withoutCredentials.render)))
  | .ok outcome =>
      match outcome.settled with
      | .refused =>
          .error (client.unsent
            (((Trouble.of (.system .connectionRefused)).under .tcpConnect).under
              (.link .connect)))
      | .closed => .error (client.unanswered .closedEarly)
      | .malformed fault => .error (client.unanswered (.malformed fault))
      | .answered response => call.open? response

def announcement (client : Client) (call : Call α) (id : Nat) : Event :=
  .sendRequest id ⟨call.method.name, client.url.render⟩

/-- The reply to a call with that number. A stop is noted once; a call without a result
fails unnoticed. -/
def reply (client : Client) (call : Call α) (id : Nat) (stopped : Bool)
    (exchange : Except Layer Http.Exchange) : Reply α :=
  let result := client.result call (exchange.map (·.outcome))
  let stop := (exchange.toOption.map (·.stop)).getD false
  { result := result.bind fun
      | some a => .ok a
      | none => .error call.missing
    events :=
      client.announcement call id ::
        ((if stop && !stopped then [.stopRequested] else []) ++
          match result with
          | .ok _ => []
          | .error trouble =>
              [.callFailed trouble.report ⟨call.method.name, client.url.render⟩])
    stop
    elapsed := (exchange.toOption.map (·.elapsed)).getD 0 }

def perform (client : Client) (call : Call α) (link : Link) : Reply α × Link :=
  let next := { link with calls := link.calls + 1 }
  match client.barrier? with
  | none =>
      (client.reply call link.id link.stopped (.ok link.exchange),
        next.advance (client.request call link.id))
  | some barrier => (client.reply call link.id link.stopped (.error barrier), next)

def node (client : Client) : Node Link where
  height := client.perform .height
  block number := client.perform (.block number)
  transaction hash := client.perform (.transaction hash)

end Client

end ChainArchive.Rpc
