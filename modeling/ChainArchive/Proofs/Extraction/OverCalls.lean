import Mathlib.Data.List.Forall2
import ChainArchive.Proofs.Extraction.Alike
import ChainArchive.Proofs.Rpc.Requests

namespace ChainArchive

/-! Replies that arrive, one for each request. -/

namespace Http

structure Arrival where
  response : Response
  stop : Bool
  elapsed : Nat

structure Exchange.Brings (exchange : Exchange) (arrival : Arrival) : Prop where
  outcome : exchange.outcome.settled = .answered arrival.response
  stop : exchange.stop = arrival.stop
  elapsed : exchange.elapsed = arrival.elapsed

end Http

namespace Rpc

variable {α : Type}

def Call.verdict (call : Call α) (response : Http.Response) : Except Trouble α :=
  if response.isSuccess then
    match (Envelope.decoder call.decoder).decode response.content with
    | .error failure => .error ⟨.undecodable call.method.name, [.badBody, .json failure]⟩
    | .ok ⟨_, some error⟩ => .error ⟨.remote error.code error.message, []⟩
    | .ok ⟨none, none⟩ => .error call.missing
    | .ok ⟨some a, none⟩ => .ok a
  else .error ⟨.status response.status response.text, []⟩

/-! A node in memory. -/

/-- The responses that are left, and what comes when none is. -/
structure Stock where
  ready : List Http.Arrival
  last : Http.Arrival

namespace Stock

def next (stock : Stock) : Http.Arrival := stock.ready.head?.getD stock.last

def answer (call : Call α) (stock : Stock) : Reply α × Stock :=
  (⟨call.verdict stock.next.response, [], stock.next.stop, stock.next.elapsed⟩,
    { stock with ready := stock.ready.tail })

def node : Node Stock where
  height := answer .height
  block number := answer (.block number)
  transaction hash := answer (.transaction hash)

end Stock

/-! A call and a query of the node in memory come to the same. -/

theorem Call.open?_bind (call : Call α) (response : Http.Response) :
    ((call.open? response).bind fun
      | some a => .ok a
      | none => .error call.missing) = call.verdict response := by
  unfold Call.open? Call.verdict
  cases response.isSuccess with
  | false => rfl
  | true =>
      simp only [if_true]
      cases (Envelope.decoder call.decoder).decode response.content with
      | error failure => rfl
      | ok envelope =>
          obtain ⟨result, error⟩ := envelope
          cases error with
          | some error => rfl
          | none => cases result <;> rfl

theorem Client.reply_result (client : Client) (call : Call α) (id : Nat) (stopped : Bool)
    {exchange : Http.Exchange} {arrival : Http.Arrival} (h : exchange.Brings arrival) :
    (client.reply call id stopped (.ok exchange)).result = call.verdict arrival.response := by
  have hresult : client.result call (.ok exchange.outcome) = call.open? arrival.response := by
    simp only [Client.result, h.outcome]
  change (client.result call (.ok exchange.outcome)).bind _ = _
  rw [hresult]
  exact call.open?_bind arrival.response

theorem Client.filter_reply_events (client : Client) (call : Call α) (id : Nat)
    (stopped : Bool) (exchange : Except Layer Http.Exchange) :
    (client.reply call id stopped exchange).events.filter Event.ofExtraction = [] := by
  refine List.filter_eq_nil_iff.mpr fun event hevent => ?_
  simp only [Client.reply, List.mem_cons, List.mem_append] at hevent
  rcases hevent with rfl | hstop | hfailed
  · simp [Client.announcement, Event.ofExtraction]
  · split at hstop
    · rw [List.mem_singleton.mp hstop]
      simp [Event.ofExtraction]
    · cases hstop
  · split at hfailed
    · cases hfailed
    · rw [List.mem_singleton.mp hfailed]
      simp [Event.ofExtraction]

theorem count_mod (n : Nat) : Json.count (n % wordSize) = Json.count n := by
  simp only [Json.count, Nat.mod_mod]

/-- The client has sent one request for each query, and what it still gets is what is left
in memory. -/
structure InStep (client : Client) (link : Link) (queries : List Query) (stock : Stock) :
    Prop where
  script : List.Forall₂ Http.Exchange.Brings link.script stock.ready
  rest : link.rest.Brings stock.last
  calls : link.calls = queries.length
  sent : Matched client queries link.sent

theorem InStep.brings {client : Client} {link : Link} {queries : List Query} {stock : Stock}
    (h : InStep client link queries stock) : link.exchange.Brings stock.next := by
  have hscript := h.script
  unfold Link.exchange Stock.next
  generalize link.script = script at hscript ⊢
  generalize stock.ready = ready at hscript ⊢
  cases hscript with
  | nil => exact h.rest
  | cons hfirst _ => exact hfirst

theorem not_refused {exchange : Http.Exchange} {arrival : Http.Arrival}
    (h : exchange.Brings arrival) : exchange.outcome ≠ .refused := by
  intro hrefused
  have houtcome := h.outcome
  rw [hrefused] at houtcome
  cases houtcome

theorem forall₂_tail {ι κ : Type} {related : ι → κ → Prop} {xs : List ι} {ys : List κ}
    (h : List.Forall₂ related xs ys) : List.Forall₂ related xs.tail ys.tail := by
  cases h with
  | nil => exact .nil
  | cons _ hrest => exact hrest

theorem Link.sent_advance (link : Link) (request : Http.Request)
    (h : link.exchange.outcome ≠ .refused) :
    (link.advance request).sent = link.sent ++ [request] := by
  simp only [Link.advance, if_neg h]

theorem InStep.advance {client : Client} {link : Link} {queries : List Query} {stock : Stock}
    (h : InStep client link queries stock) {query : Query} {call : Call α}
    (hasks : Asks query call.method.name call.params) :
    InStep client
      ({ link with calls := link.calls + 1 }.advance (client.request call link.id))
      (queries ++ [query]) { stock with ready := stock.ready.tail } where
  script := forall₂_tail h.script
  rest := h.rest
  calls := by simp [Link.advance, h.calls]
  sent := by
    have hid : client.request call link.id = client.request call (queries.length + 1) := by
      simp only [Client.request, Call.body, Link.id, h.calls, count_mod]
    rw [Link.sent_advance { link with calls := link.calls + 1 } _ (not_refused h.brings), hid]
    exact h.sent.snoc (Call.puts hasks client (queries.length + 1))

def calling (client : Client) : Kinship Link Stock where
  nodes := InStep client
  shown := Event.ofExtraction
  before := []
  before' := []

theorem perform_answers {client : Client} (hsends : client.barrier? = none) {link : Link}
    {queries : List Query} {stock : Stock} (h : InStep client link queries stock)
    {query : Query} {call : Call α} (hasks : Asks query call.method.name call.params) :
    (calling client).Answers queries query (client.perform call link)
      (Stock.answer call stock) := by
  have hbrings := h.brings
  have hperform : client.perform call link =
      (client.reply call link.id link.stopped (.ok link.exchange),
        { link with calls := link.calls + 1 }.advance (client.request call link.id)) := by
    simp only [Client.perform, hsends]
  rw [hperform]
  exact {
    node := h.advance hasks
    result := client.reply_result call link.id link.stopped hbrings
    events := client.filter_reply_events call link.id link.stopped _
    stop := hbrings.stop
    elapsed := hbrings.elapsed }

theorem calling_nodes {client : Client} (hsends : client.barrier? = none) :
    (calling client).Nodes client.node Stock.node where
  height _ _ _ h := perform_answers hsends h asks_height
  block _ hnumber _ _ _ h := perform_answers hsends h (asks_block hnumber)
  transaction hash _ _ _ h := perform_answers hsends h (asks_transaction hash)

end Rpc

namespace Extraction

open Rpc

/-- An extraction over calls, each of which gets a response, is an extraction from the
node in memory that means the same by its replies. The calls ask for nothing else and log
nothing of their own among the events of the extraction. -/
theorem extract_over_calls {client : Client} {script : List Http.Exchange}
    {rest : Http.Exchange} {stock : Stock} (disk : Disk) (path : String) (stopped : Bool)
    (hsends : client.barrier? = none)
    (hscript : List.Forall₂ Http.Exchange.Brings script stock.ready)
    (hrest : rest.Brings stock.last) :
    let remote := Run.perform (extract (Run.world client.node) path)
      (.start (.start script rest) disk stopped)
    let inMemory := Run.perform (extract (Run.world Stock.node) path)
      (.start stock disk stopped)
    remote.1 = inMemory.1 ∧
      (∀ file, remote.2.disk.read file = inMemory.2.disk.read file) ∧
      remote.2.events.filter Event.ofExtraction = inMemory.2.events ∧
      remote.2.clock = inMemory.2.clock ∧
      remote.2.queries = inMemory.2.queries ∧
      Matched client remote.2.queries remote.2.node.sent := by
  intro remote inMemory
  have hstart : InStep client (.start script rest) [] stock :=
    ⟨hscript, hrest, rfl, matched_nil client⟩
  have hworlds := Kinship.world_alike .none (calling_nodes hsends) fun _ h => h
  obtain ⟨hresult, hruns⟩ := extract_alike hworlds path
    (.start (.start script rest) disk stopped) (.start stock disk stopped) {
      node := hstart
      disk := .refl disk
      clock := rfl
      stopped := rfl
      queries := rfl
      events := ⟨[], rfl, rfl⟩ }
  obtain ⟨common, hevents, hevents'⟩ := hruns.events
  exact ⟨hresult, hruns.disk.read, hevents.trans hevents'.symm, hruns.clock, hruns.queries,
    hruns.node.sent⟩

/-- One block, whose only transaction the node does not know. -/
theorem extract_over_calls_unknown_transaction :
    let url : Url :=
      ⟨"http", "", none, some (.domain "localhost"), some 8545, .segments [""], none, none⟩
    let client : Client := ⟨url, rfl⟩
    let response (body : String) : Http.Response :=
      ⟨200, "application/json", Bytes.ofString body⟩
    let height := response "\x7b\"result\":\"0x1\"\x7d"
    let block := response
      "\x7b\"result\":\x7b\"number\":\"0x1\",\"transactions\":[\"0xaa\"]\x7d\x7d"
    let unknown := response "\x7b\"result\":null\x7d"
    let stock : Stock := ⟨[⟨height, false, 5⟩, ⟨block, false, 7⟩], ⟨unknown, true, 0⟩⟩
    let remote := Run.perform (extract (Run.world client.node) "log")
      (.start (.start [⟨.answered height, false, 5⟩, ⟨.answered block, false, 7⟩]
        ⟨.answered unknown, true, 0⟩) ⟨[]⟩ false)
    let inMemory := Run.perform (extract (Run.world Stock.node) "log")
      (.start stock ⟨[]⟩ false)
    remote.1 = inMemory.1 ∧
      remote.2.disk.read "log" = inMemory.2.disk.read "log" ∧
      remote.2.events.filter Event.ofExtraction = inMemory.2.events ∧
      remote.2.queries = inMemory.2.queries ∧
      Matched client remote.2.queries remote.2.node.sent := by
  intro url client response height block unknown stock
  have hsends : client.barrier? = none := by decide +kernel
  have hsettled (body : String) :
      (Http.Outcome.answered (response body)).settled = .answered (response body) := by
    have hvalue : Http.isHeaderValue "application/json" = true := by decide
    simp [Http.Outcome.settled, Http.Response.outcome, Http.Response.isInterim, response, hvalue]
  have hscript : List.Forall₂ Http.Exchange.Brings
      [⟨.answered height, false, 5⟩, ⟨.answered block, false, 7⟩] stock.ready :=
    .cons ⟨hsettled _, rfl, rfl⟩ (.cons ⟨hsettled _, rfl, rfl⟩ .nil)
  obtain ⟨hresult, hfiles, hevents, -, hqueries, hsent⟩ :=
    @extract_over_calls client _ ⟨.answered unknown, true, 0⟩ stock ⟨[]⟩ "log" false hsends
      hscript ⟨hsettled _, rfl, rfl⟩
  exact ⟨hresult, hfiles "log", hevents, hqueries, hsent⟩

end Extraction

end ChainArchive
