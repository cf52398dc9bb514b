import ChainArchive.Proofs.Extraction.OverCalls
import ChainArchive.Proofs.Extraction.Transcript

namespace ChainArchive

/-! What is sent, one request for each call, whatever the calls come to. -/

def Query.Fits : Query → Prop
  | .block number => number < wordSize
  | _ => True

namespace Rpc

variable {α : Type}

/-! One call. -/

/-- Whoever a request goes to listens. -/
structure Link.Connects (link : Link) : Prop where
  script : ∀ exchange ∈ link.script, exchange.outcome ≠ .refused
  rest : link.rest.outcome ≠ .refused

theorem Link.Connects.exchange {link : Link} (h : link.Connects) :
    link.exchange.outcome ≠ .refused := by
  unfold Link.exchange
  cases hscript : link.script with
  | nil => exact h.rest
  | cons first others => exact h.script first (by simp [hscript])

structure SendsOne (client : Client) (link : Link) (query : Query) (next : Link) : Prop where
  sent : ∃ request, next.sent = link.sent ++ [request] ∧
    Puts client (link.calls + 1) query request
  calls : next.calls = link.calls + 1
  connects : next.Connects

theorem perform_sendsOne {client : Client} (hsends : client.barrier? = none) {link : Link}
    (hconnects : link.Connects) {call : Call α} {query : Query}
    (h : Asks query call.method.name call.params) :
    SendsOne client link query (client.perform call link).2 := by
  have hnext : (client.perform call link).2 =
      { link with calls := link.calls + 1 }.advance (client.request call link.id) := by
    simp only [Client.perform, hsends]
  have hid : client.request call link.id = client.request call (link.calls + 1) := by
    simp only [Client.request, Call.body, Link.id, count_mod]
  rw [hnext, hid]
  constructor
  · exact ⟨_, Link.sent_advance _ _ hconnects.exchange, Call.puts h client (link.calls + 1)⟩
  · rfl
  · constructor
    · intro exchange hexchange
      exact hconnects.script exchange (List.mem_of_mem_tail hexchange)
    · exact hconnects.rest

theorem answer_sendsOne {client : Client} (hsends : client.barrier? = none) {link : Link}
    (hconnects : link.Connects) {query : Query} (hfits : query.Fits) :
    SendsOne client link query (client.node.answer link query).2 := by
  cases query with
  | height => exact perform_sendsOne hsends hconnects asks_height
  | block number => exact perform_sendsOne hsends hconnects (asks_block hfits)
  | transaction hash => exact perform_sendsOne hsends hconnects (asks_transaction hash)

/-! Calls in a row. -/

section Calls

variable {client : Client} (hsends : client.barrier? = none)
include hsends

theorem stateAfter_sends {link : Link} (hconnects : link.Connects) {queries : List Query}
    (hfits : ∀ query ∈ queries, query.Fits) :
    (client.node.stateAfter link queries).Connects ∧
      (client.node.stateAfter link queries).calls = link.calls + queries.length ∧
      ∃ more, (client.node.stateAfter link queries).sent = link.sent ++ more ∧
        more.length = queries.length := by
  induction queries generalizing link with
  | nil => exact ⟨hconnects, rfl, [], by simp [Node.stateAfter], rfl⟩
  | cons query rest ih =>
      obtain ⟨hquery, hrest⟩ := List.forall_mem_cons.mp hfits
      have hone := answer_sendsOne hsends hconnects hquery
      obtain ⟨request, hsent, -⟩ := hone.sent
      obtain ⟨hend, hcalls, more, hmore, hlength⟩ := ih hone.connects hrest
      refine ⟨hend, ?_, request :: more, ?_, by simp [hlength]⟩
      · rw [Node.stateAfter, hcalls, hone.calls, List.length_cons]
        omega
      · rw [Node.stateAfter, hmore, hsent, List.append_assoc, List.singleton_append]

end Calls

structure Numbered (client : Client) (start : Link) (queries : List Query) : Prop where
  length_eq : (client.node.stateAfter start queries).sent.length = queries.length
  puts : ∀ earlier query later, queries = earlier ++ query :: later →
    ∃ request, Puts client (earlier.length + 1) query request ∧
      (client.node.stateAfter start (earlier ++ [query])).sent =
        (client.node.stateAfter start earlier).sent ++ [request] ∧
      (client.node.stateAfter start queries).sent[earlier.length]? = some request

/-- Every call on a client sends one request and no more, whatever it or an earlier one comes
to, and the requests are numbered from one. -/
theorem node_numbered {client : Client} (hsends : client.barrier? = none)
    {script : List Http.Exchange} {rest : Http.Exchange}
    (hconnects : (Link.start script rest).Connects) {queries : List Query}
    (hfits : ∀ query ∈ queries, query.Fits) :
    Numbered client (.start script rest) queries where
  length_eq := by
    obtain ⟨-, -, more, hsent, hlength⟩ := stateAfter_sends hsends hconnects hfits
    rw [hsent, List.length_append, hlength]
    exact Nat.zero_add _
  puts earlier query later hsplit := by
    subst hsplit
    have hearlier : ∀ other ∈ earlier, other.Fits := fun other hother =>
      hfits other (List.mem_append_left _ hother)
    obtain ⟨hquery, hlater⟩ := List.forall_mem_cons.mp fun other hother =>
      hfits other (List.mem_append_right earlier hother)
    obtain ⟨hopen, hcalls, before, hbefore, hlength⟩ :=
      stateAfter_sends hsends hconnects hearlier
    have hone := answer_sendsOne hsends hopen hquery
    obtain ⟨request, hsent, hputs⟩ := hone.sent
    obtain ⟨-, -, behind, hbehind, -⟩ := stateAfter_sends hsends hone.connects hlater
    have hcount : (Link.start script rest).calls + earlier.length = earlier.length :=
      Nat.zero_add _
    have hnone : (Link.start script rest).sent ++ before = before := rfl
    refine ⟨request, ?_, ?_, ?_⟩
    · rwa [hcalls, hcount] at hputs
    · rw [Node.stateAfter_append]
      exact hsent
    · rw [Node.stateAfter_append, Node.stateAfter, hbehind, hsent, hbefore, hnone, ← hlength,
        List.append_assoc, List.getElem?_append_right (Nat.le_refl _), Nat.sub_self]
      rfl

/-- A connection that is closed, and replies that are none. -/
theorem node_numbered_failing :
    let url : Url :=
      ⟨"http", "", none, some (.domain "localhost"), some 8545, .segments [""], none, none⟩
    let client : Client := ⟨url, rfl⟩
    let queries : List Query := [.height, .block 7, .transaction "0x\"\n"]
    let start : Link := .start [⟨.closed, false, 0⟩] ⟨.answered ⟨500, "", []⟩, false, 0⟩
    client.barrier? = none ∧ start.Connects ∧ (∀ query ∈ queries, query.Fits) ∧
      (client.node.stateAfter start queries).sent.length = 3 ∧
      ∃ request, (client.node.stateAfter start queries).sent[2]? = some request ∧
        Puts client 3 (.transaction "0x\"\n") request := by
  intro url client queries start
  have hsends : client.barrier? = none := by decide +kernel
  have hconnects : start.Connects :=
    ⟨List.forall_mem_singleton.mpr (by decide), by decide⟩
  have hfits : ∀ query ∈ queries, query.Fits := by
    simp [queries, Query.Fits, wordSize]
  have hnumbered := node_numbered hsends hconnects hfits
  obtain ⟨request, hputs, -, hsent⟩ :=
    hnumbered.puts [.height, .block 7] (.transaction "0x\"\n") [] rfl
  exact ⟨hsends, hconnects, hfits, hnumbered.length_eq, request, hsent, hputs⟩

end Rpc

end ChainArchive
