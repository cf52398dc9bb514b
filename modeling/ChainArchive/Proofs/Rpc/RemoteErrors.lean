import ChainArchive.Proofs.Rpc.Answers

namespace ChainArchive.Rpc

open Json Bytes

variable {α : Type}

/-! Errors that a node tells, beside whatever else a body holds. -/

structure Carries (response : Http.Response) (members : List (String × Value))
    (error : RemoteError) : Prop where
  succeeds : response.Succeeds
  body : View.value.Holds (· ∈ Envelope.names) response.content members
  once : ∀ name ∈ Envelope.names, (members.map Prod.fst).count name ≤ 1
  error : ∃ value tree, members.lookup "error" = some value ∧
    Glimpses (· ∈ RemoteError.names) value.text tree [] ∧ RemoteError.Told tree error

def Readable (decoder : Decoder α) (members : List (String × Value)) : Prop :=
  ∃ found, Stands .null (decoder.Yields View.value (maxDepth - 1)) (members.lookup "result") found

theorem RemoteError.ne_null_of_told {value : Value} {tree : Tree} {error : RemoteError}
    (hglimpse : Glimpses (· ∈ names) value.text tree []) (h : Told tree error) :
    value ≠ .null := by
  rintro rfl
  have htree := (View.glimpse (· ∈ names)).null_iff hglimpse
  cases htree.mpr ⟨ofString "ull", rfl⟩
  cases h

theorem Carries.decodes_iff {response : Http.Response} {members : List (String × Value)}
    {error : RemoteError} (h : Carries response members error) {decoder : Decoder α}
    (hvalues : decoder.ReadsValues) {envelope : Envelope α} :
    Call.Decodes decoder response envelope ↔
      Stands .null (decoder.Yields View.value (maxDepth - 1)) (members.lookup "result")
        envelope.result ∧ envelope.error = some error := by
  obtain ⟨value, tree, hvalue, hglimpse, htold⟩ := h.error
  have hne : value ≠ .null := RemoteError.ne_null_of_told hglimpse htold
  have hyields : RemoteError.decoder.Yields View.value (maxDepth - 1) value error :=
    (RemoteError.decoder_yields_iff hglimpse).mpr ⟨by decide, htold⟩
  unfold Call.Decodes
  rw [Envelope.decode_holds hvalues.follows RemoteError.decoder_readsValues.follows h.body]
  constructor
  · intro hdecodes
    obtain ⟨-, hshows⟩ := hdecodes
    have herror := hshows.error
    rw [hvalue] at herror
    refine ⟨hshows.result, ?_⟩
    generalize envelope.error = found at herror
    cases herror with
    | null => exact absurd rfl hne
    | given _ hfound =>
        cases hyields.symm.trans hfound
        rfl
  · intro hstands
    obtain ⟨hresult, herror⟩ := hstands
    refine ⟨h.succeeds, h.once, hresult, ?_⟩
    rw [hvalue, herror]
    exact .given hne hyields

/-- How a query heeds the errors that it is told: each comes out with its own code and message
if the rest of the body can be read, and else the body is undecodable. -/
structure Heeds (ask : Link → Reply α × Link) (decoder : Decoder α) (method : String) :
    Prop where
  told : ∀ {link response members error}, link.Gets response → Carries response members error →
    Readable decoder members → (ask link).1.result = .error (.of (.remote error.code error.message))
  unread : ∀ {link response members error}, link.Gets response → Carries response members error →
    ¬ Readable decoder members →
      ∃ failure, (ask link).1.result = .error ⟨.undecodable method, [.badBody, .json failure]⟩

theorem Client.heeds {client : Client} (hsends : client.barrier? = none) {call : Call α}
    (hvalues : call.decoder.ReadsValues) :
    Heeds (client.perform call) call.decoder call.method.name where
  told {link response members error} h hcarries hreadable := by
    obtain ⟨found, hfound⟩ := hreadable
    have hdecodes : Call.Decodes call.decoder response ⟨found, some error⟩ :=
      (hcarries.decodes_iff hvalues).mpr ⟨hfound, rfl⟩
    rw [client.perform_result hsends call h, Call.verdict_of_decodes hdecodes]
    cases found <;> rfl
  unread h hcarries hreadable := by
    rw [client.perform_result hsends call h]
    apply Call.verdict_of_undecodable hcarries.succeeds
    intro envelope hdecodes
    exact hreadable ⟨_, ((hcarries.decodes_iff hvalues).mp hdecodes).1⟩

/-- Queries of a node over the wire fail with the error that a body holds, unless what stands
for the result in it cannot be read. -/
theorem node_heeds_errors {client : Client} (hsends : client.barrier? = none) :
    Heeds client.node.height Quantity.decoder "eth_blockNumber" ∧
      (∀ number, Heeds (client.node.block number) Block.decoder "eth_getBlockByNumber") ∧
      ∀ hash, Heeds (client.node.transaction hash) Transaction.decoder
        "eth_getTransactionByHash" :=
  ⟨client.heeds hsends Quantity.decoder_readsValues,
    fun _ => client.heeds hsends Block.decoder_readsValues,
    fun _ => client.heeds hsends Transaction.decoder_readsValues⟩

/-- The error comes behind half a surrogate pair, and there is no result. -/
theorem node_heeds_errors_block :
    let url : Url :=
      ⟨"http", "", none, some (.domain "localhost"), some 8545, .segments [""], none, none⟩
    let client : Client := ⟨url, rfl⟩
    let one : Numeral := ⟨false, [byte '1'], [], .digits (by decide) (by decide) digits_nil,
      .scale .none⟩
    let half : Value := ⟨byte '"' :: byte '\\' :: byte 'u' :: byte 'd' :: byte '8' :: byte '0' ::
      byte '0' :: [byte '"'], .string (.unit rfl (.close []))⟩
    let tree : Tree := .object [("message", .string "m"), ("data", .null), ("code", .number one)]
    let members : List (String × Value) := [("id", half), ("error", View.tree.bytes tree)]
    let response : Http.Response := ⟨200, "application/json", (Value.object members).text⟩
    let link : Link := .start [] ⟨.answered response, false, 0⟩
    client.barrier? = none ∧ link.Gets response ∧
      Carries response [("error", View.tree.bytes tree)] ⟨1, "m"⟩ ∧
      (client.node.block 7 link).1.result = .error (.of (.remote 1 "m")) := by
  intro url client one half tree members response link
  have hsends : client.barrier? = none := by decide +kernel
  have hsuccess : response.Succeeds := ⟨Nat.le_refl 200, Nat.le_of_ble_eq_true rfl⟩
  have hgets : link.Gets response := Link.start_gets hsuccess (by decide) false 0
  have hfits : one.Fits 1 := ⟨by decide, by decide, by decide, by decide⟩
  have htold : RemoteError.Told tree ⟨1, "m"⟩ := .object (by decide) rfl hfits (by decide) rfl
  have hcarries : Carries response [("error", View.tree.bytes tree)] ⟨1, "m"⟩ := {
    succeeds := hsuccess
    body := Value.holds_object (· ∈ Envelope.names) members
    once := by decide
    error := ⟨_, tree, rfl, .whole (View.tree.spells_alone tree), htold⟩ }
  obtain ⟨-, hheeds, -⟩ := node_heeds_errors hsends
  exact ⟨hsends, hgets, hcarries, (hheeds 7).told hgets hcarries ⟨none, .lacking⟩⟩

/-- Errors go unheard beside a result that is none, and with a negative zero for a code. -/
theorem node_unheard_errors :
    let url : Url :=
      ⟨"http", "", none, some (.domain "localhost"), some 8545, .segments [""], none, none⟩
    let client : Client := ⟨url, rfl⟩
    let one : Numeral := ⟨false, [byte '1'], [], .digits (by decide) (by decide) digits_nil,
      .scale .none⟩
    let zero : Numeral := ⟨true, [byte '0'], [], .zero, .scale .none⟩
    let error (code : Numeral) : String × Tree :=
      ("error", .object [("code", .number code), ("message", .string "m")])
    let response (members : List (String × Tree)) : Http.Response :=
      ⟨200, "application/json", (Tree.object members).text⟩
    let link (members : List (String × Tree)) : Link :=
      .start [] ⟨.answered (response members), false, 0⟩
    one.integer? = some 1 ∧ zero.integer? = some 0 ∧
      (client.node.height (link [error one, ("result", .string "zz")])).1.result ≠
        .error (.of (.remote 1 "m")) ∧
      (client.node.height (link [error zero])).1.result ≠ .error (.of (.remote 0 "m")) := by
  intro url client one zero error response link
  have hsends : client.barrier? = none := by decide +kernel
  have hvalue : Http.isHeaderValue "application/json" = true := by decide
  have hsuccess : ∀ members, (response members).Succeeds := fun _ =>
    ⟨Nat.le_refl 200, Nat.le_of_ble_eq_true rfl⟩
  have hgets : ∀ members, (link members).Gets (response members) := fun members =>
    Link.start_gets (hsuccess members) hvalue false 0
  have hsettles : Settles client.node.height Quantity.decoder (.nullResult "eth_blockNumber") :=
    client.settles hsends Quantity.decoder_uniform Quantity.decoder_readsValues rfl trivial
      (by simp)
  have htold : ∀ members code,
      (client.node.height (link members)).1.result = .error (.of (.remote code "m")) →
        ∃ found, Envelope.Told (Quantity.decoder.Makes (maxDepth - 1)) (.object members)
          ⟨found, some ⟨code, "m"⟩⟩ := by
    intro members code hresult
    obtain ⟨found, hdecodes⟩ := (hsettles.remote (hgets members) code "m").mp hresult
    have hbody : Document (response members).content (.object members) :=
      (Tree.object members).document_text
    exact ⟨found, ((hsettles.told hbody _).mp hdecodes).2⟩
  refine ⟨by decide, by decide, fun hresult => ?_, fun hresult => ?_⟩
  · obtain ⟨found, htold⟩ := htold _ 1 hresult
    cases htold with
    | object hshows =>
        have hnone : Quantity.ofHex? "zz" = none := by decide
        cases hshows.result with
        | given hne hmakes =>
            -- the result would have to be a quantity
            obtain ⟨scalar, hscalar, hquantity⟩ := Decoder.scalar_means.makes_iff.mp hmakes
            cases hscalar
            simp [Quantity.ofScalar, hnone] at hquantity
  · obtain ⟨found, htold⟩ := htold _ 0 hresult
    cases htold with
    | object hshows =>
        cases hshows.error with
        | given hne herror =>
            cases herror with
            | object once code fits small message =>
                -- a zero with a sign is no integer to the decoder, so it fits no code
                cases code
                exact fits.2.2.2 rfl rfl

end ChainArchive.Rpc
