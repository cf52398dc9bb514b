import ChainArchive.Proofs.Amounts
import ChainArchive.Proofs.Json.Written
import ChainArchive.Rpc.Client

namespace ChainArchive

theorem Json.parse_render {value : Json} (hwithin : Json.Within Json.maxDepth value)
    (hintegral : Json.Integral value) : Json.parse (Json.render value) = .ok value := by
  have hread := Json.readValue_render hwithin hintegral [] Json.endsNumber_nil
  rw [List.append_nil] at hread
  simp only [Json.parse, Json.readWhole, hread, Json.finish, Json.skipSpace,
    List.dropWhile_nil]

namespace Rpc

open Json

/-! What a request asks, read off the request itself. -/

/-- The method and the parameters that put a query; the number of a block is written as its
quantity is, and decodes to it. -/
inductive Asks : Query → String → List Json → Prop where
  | height : Asks .height "eth_blockNumber" []
  | block {number : Quantity} (h : Quantity.ofHex? number.toHex = some number) :
      Asks (.block number.value) "eth_getBlockByNumber" [.string number.toHex, .bool false]
  | transaction (hash : String) :
      Asks (.transaction hash) "eth_getTransactionByHash" [.string hash]

structure Numbers (id : Integer) (count : Nat) : Prop where
  modulo : id.value = ((count % wordSize : Nat) : Int)
  exact : count < wordSize → id.value = count

/-- A request to the client's address, the call of this number: its body is a text of the
object that asks the query, and decodes to it. -/
structure Puts (client : Client) (count : Nat) (query : Query) (request : Http.Request) :
    Prop where
  target : request.target = client.url.target
  body : ∃ (id : Integer) (method : String) (params : List Json),
    Numbers id count ∧ Asks query method params ∧
    let object : Json := .object [("id", .number (.integer id)), ("jsonrpc", .string "2.0"),
      ("method", .string method), ("params", .array params)]
    Document request.body object.tree ∧ Json.parse request.body = .ok object

/-- One request for each query, in the same order and numbered from one. -/
structure Matched (client : Client) (queries : List Query) (sent : List Http.Request) :
    Prop where
  length_eq : sent.length = queries.length
  puts : ∀ position query request, queries[position]? = some query →
    sent[position]? = some request → Puts client (position + 1) query request

theorem matched_nil (client : Client) : Matched client [] [] where
  length_eq := rfl
  puts _ _ _ hquery := by simp at hquery

theorem Matched.snoc {client : Client} {queries : List Query} {sent : List Http.Request}
    (h : Matched client queries sent) {query : Query} {request : Http.Request}
    (hputs : Puts client (queries.length + 1) query request) :
    Matched client (queries ++ [query]) (sent ++ [request]) where
  length_eq := by simp [h.length_eq]
  puts position other next hquery hrequest := by
    rcases Nat.lt_or_ge position queries.length with hbefore | hbehind
    · rw [List.getElem?_append_left hbefore] at hquery
      rw [List.getElem?_append_left (h.length_eq ▸ hbefore)] at hrequest
      exact h.puts position other next hquery hrequest
    · have hlast : position = queries.length := by
        have hsome := (List.getElem?_eq_some_iff.mp hquery).1
        simp at hsome
        omega
      subst hlast
      rw [List.getElem?_concat_length] at hquery
      rw [← h.length_eq, List.getElem?_concat_length] at hrequest
      cases hquery
      cases hrequest
      exact hputs

/-! The parameters of a call hold neither containers nor broken numbers. -/

theorem Asks.param {query : Query} {method : String} {params : List Json}
    (h : Asks query method params) : ∀ param ∈ params, Within 0 param ∧ Integral param := by
  cases h with
  | height => exact List.forall_mem_nil _
  | block =>
      exact List.forall_mem_cons.mpr ⟨⟨.string _, .string _⟩,
        List.forall_mem_singleton.mpr ⟨.bool _, .bool _⟩⟩
  | transaction hash => exact List.forall_mem_singleton.mpr ⟨.string _, .string _⟩

variable {α : Type}

theorem Call.parse_body {call : Call α} {query : Query}
    (h : Asks query call.method.name call.params) (id : Nat) :
    Json.parse (call.body id).render = .ok (call.body id) := by
  refine parse_render ?_ ?_
  · have hparams : Within 1 (.array call.params) :=
      .array fun param hparam => (h.param param hparam).1
    have hbody : Within 2 (call.body id) := by
      refine .object ?_
      simp only [List.forall_mem_cons]
      exact ⟨.number _, .string _, .string _, hparams, List.forall_mem_nil _⟩
    exact hbody.mono (by decide)
  · refine .object ?_
    simp only [List.forall_mem_cons]
    exact ⟨.number _, .string _, .string _, .array fun param hparam => (h.param param hparam).2,
      List.forall_mem_nil _⟩

theorem Call.puts {call : Call α} {query : Query}
    (h : Asks query call.method.name call.params) (client : Client) (count : Nat) :
    Puts client count query (client.request call count) where
  target := rfl
  body := by
    refine ⟨.ofNat (count % wordSize) (Nat.mod_lt count (by decide)), _, _,
      ⟨rfl, fun hsmall => ?_⟩, h, document_render blank_nil (call.body count),
      Call.parse_body h count⟩
    change ((count % wordSize : Nat) : Int) = count
    rw [Nat.mod_eq_of_lt hsmall]

theorem asks_height : Asks .height Call.height.method.name Call.height.params := .height

theorem asks_block {number : Nat} (h : number < wordSize) :
    Asks (.block number) (Call.block number).method.name (Call.block number).params :=
  .block (Quantity.ofHex?_toHex ⟨number, h⟩)

theorem asks_transaction (hash : String) :
    Asks (.transaction hash) (Call.transaction hash).method.name
      (Call.transaction hash).params :=
  .transaction hash

end Rpc

end ChainArchive
