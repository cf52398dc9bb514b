import ChainArchive.Proofs.Extraction.OverCalls
import ChainArchive.Proofs.Rpc.Envelopes

namespace ChainArchive

open Json Bytes

/-- A layer that repeats what a node said: an error, or nothing where something was asked
for. -/
def Layer.IsAnswer : Layer → Prop
  | .remote _ _ => True
  | .absent _ => True
  | .nullResult _ => True
  | _ => False

def Http.Response.Succeeds (response : Http.Response) : Prop :=
  200 ≤ response.status ∧ response.status ≤ 299

theorem Http.Response.isSuccess_iff {response : Http.Response} :
    response.isSuccess = true ↔ response.Succeeds := by
  simp [isSuccess, Succeeds]

namespace Rpc

variable {α : Type}

/-! What a call comes to. -/

namespace Call

def conclude (call : Call α) : Envelope α → Except Trouble α
  | ⟨_, some error⟩ => .error (.of (.remote error.code error.message))
  | ⟨none, none⟩ => .error call.missing
  | ⟨some a, none⟩ => .ok a

def Decodes (decoder : Decoder α) (response : Http.Response) (envelope : Envelope α) : Prop :=
  response.Succeeds ∧ (Envelope.decoder decoder).decode response.content = .ok envelope

theorem verdict_of_decodes {call : Call α} {response : Http.Response} {envelope : Envelope α}
    (h : Decodes call.decoder response envelope) :
    call.verdict response = call.conclude envelope := by
  unfold verdict
  rw [Http.Response.isSuccess_iff.mpr h.1, if_pos rfl, h.2]
  obtain ⟨result, error⟩ := envelope
  cases error with
  | some error => rfl
  | none => cases result <;> rfl

theorem verdict_of_not_succeeds {call : Call α} {response : Http.Response}
    (h : ¬ response.Succeeds) :
    call.verdict response = .error ⟨.status response.status response.text, []⟩ := by
  unfold verdict
  rw [if_neg (mt Http.Response.isSuccess_iff.mp h)]

theorem verdict_of_undecodable {call : Call α} {response : Http.Response}
    (hsuccess : response.Succeeds)
    (h : ∀ envelope, ¬ Decodes call.decoder response envelope) :
    ∃ failure, call.verdict response =
      .error ⟨.undecodable call.method.name, [.badBody, .json failure]⟩ := by
  unfold verdict
  rw [if_pos (Http.Response.isSuccess_iff.mpr hsuccess)]
  cases hdecode : (Envelope.decoder call.decoder).decode response.content with
  | ok envelope => exact absurd ⟨hsuccess, hdecode⟩ (h envelope)
  | error failure => exact ⟨failure, rfl⟩

theorem verdict_of_not_decodes {call : Call α} {response : Http.Response}
    (h : ∀ envelope, ¬ Decodes call.decoder response envelope) :
    ∃ trouble, call.verdict response = .error trouble ∧
      ∀ layer ∈ trouble.layers, ¬ layer.IsAnswer := by
  by_cases hsuccess : response.Succeeds
  · obtain ⟨failure, hfailure⟩ := verdict_of_undecodable hsuccess h
    refine ⟨_, hfailure, ?_⟩
    simp [Trouble.layers, Layer.IsAnswer]
  · refine ⟨_, verdict_of_not_succeeds hsuccess, ?_⟩
    simp [Trouble.layers, Layer.IsAnswer]

theorem verdict_eq_iff {call : Call α} {response : Http.Response} {result : Except Trouble α}
    (h : ∀ trouble, result = .error trouble → ∃ layer ∈ trouble.layers, layer.IsAnswer) :
    call.verdict response = result ↔
      ∃ envelope, Decodes call.decoder response envelope ∧ call.conclude envelope = result := by
  constructor
  · intro hverdict
    by_cases hdecodes : ∃ envelope, Decodes call.decoder response envelope
    · obtain ⟨envelope, hdecodes⟩ := hdecodes
      exact ⟨envelope, hdecodes, (verdict_of_decodes hdecodes).symm.trans hverdict⟩
    · -- what does not decode fails without an answer's layer, and the result has one
      obtain ⟨trouble, htrouble, hlayers⟩ :=
        verdict_of_not_decodes (not_exists.mp hdecodes)
      obtain ⟨layer, hlayer, hanswer⟩ := h trouble (hverdict.symm.trans htrouble)
      exact absurd hanswer (hlayers layer hlayer)
  · intro hconclude
    obtain ⟨envelope, hdecodes, hresult⟩ := hconclude
    exact (verdict_of_decodes hdecodes).trans hresult

theorem verdict_eq_ok {call : Call α} {response : Http.Response} {a : α} :
    call.verdict response = .ok a ↔ Decodes call.decoder response ⟨some a, none⟩ := by
  rw [verdict_eq_iff (by rintro trouble ⟨⟩)]
  constructor
  · intro hconclude
    obtain ⟨⟨result, error⟩, hdecodes, hresult⟩ := hconclude
    cases error with
    | some error => cases hresult
    | none =>
        cases result with
        | none => cases hresult
        | some found =>
            cases hresult
            exact hdecodes
  · intro hdecodes
    exact ⟨_, hdecodes, rfl⟩

theorem verdict_eq_answer {call : Call α} {response : Http.Response} {layer : Layer}
    (h : layer.IsAnswer) :
    call.verdict response = .error (.of layer) ↔
      ∃ envelope, Decodes call.decoder response envelope ∧
        call.conclude envelope = .error (.of layer) := by
  apply verdict_eq_iff
  intro trouble htrouble
  cases htrouble
  exact ⟨layer, by simp, h⟩

end Call

def Link.Gets (link : Link) (response : Http.Response) : Prop :=
  link.exchange.outcome.settled = .answered response

theorem Link.start_gets {response : Http.Response} (hsuccess : response.Succeeds)
    (hvalue : Http.isHeaderValue response.contentType = true) (stop : Bool) (elapsed : Nat) :
    (Link.start [] ⟨.answered response, stop, elapsed⟩).Gets response := by
  obtain ⟨hlow, hhigh⟩ := hsuccess
  have hinside : (response.status < 100 || 999 < response.status) = false := by
    simp only [Bool.or_eq_false_iff, decide_eq_false_iff_not]
    omega
  have hfinal : response.isInterim = false := by
    simp only [Http.Response.isInterim, Bool.and_eq_false_iff, decide_eq_false_iff_not]
    omega
  simp [Gets, exchange, start, Http.Outcome.settled, Http.Response.outcome, hinside, hvalue,
    hfinal]

theorem Client.perform_result {client : Client} (hsends : client.barrier? = none) (call : Call α)
    {link : Link} {response : Http.Response} (h : link.Gets response) :
    (client.perform call link).1.result = call.verdict response := by
  unfold perform
  rw [hsends]
  exact client.reply_result call link.id link.stopped
    (@Http.Exchange.Brings.mk link.exchange ⟨response, link.exchange.stop, link.exchange.elapsed⟩
      h rfl rfl)

/-- The same value, or the same answer that is none. -/
structure SameAnswer (result other : Except Trouble α) : Prop where
  value : ∀ a, result = .ok a ↔ other = .ok a
  answer : ∀ layer : Layer, layer.IsAnswer →
    (result = .error (.of layer) ↔ other = .error (.of layer))

/-- How a query comes out, whatever response it gets. Without a result it fails with the layer
given. -/
structure Settles (ask : Link → Reply α × Link) (decoder : Decoder α) (missing : Layer) :
    Prop where
  value : ∀ {link response}, link.Gets response → ∀ a,
    (ask link).1.result = .ok a ↔ Call.Decodes decoder response ⟨some a, none⟩
  remote : ∀ {link response}, link.Gets response → ∀ code message,
    (ask link).1.result = .error (.of (.remote code message)) ↔
      ∃ found, Call.Decodes decoder response ⟨found, some ⟨code, message⟩⟩
  missing : ∀ {link response}, link.Gets response →
    ((ask link).1.result = .error (.of missing) ↔ Call.Decodes decoder response ⟨none, none⟩)
  otherwise : ∀ {link response}, link.Gets response →
    (∀ envelope, ¬ Call.Decodes decoder response envelope) →
      ∃ trouble, (ask link).1.result = .error trouble ∧
        ∀ layer ∈ trouble.layers, ¬ layer.IsAnswer
  told : ∀ {response : Http.Response} {tree}, Document response.content tree → ∀ envelope,
    Call.Decodes decoder response envelope ↔
      response.Succeeds ∧ Envelope.Told (decoder.Makes (maxDepth - 1)) tree envelope
  held : ∀ {response : Http.Response} {members},
    View.value.Holds (· ∈ Envelope.names) response.content members → ∀ envelope,
      Call.Decodes decoder response envelope ↔ response.Succeeds ∧
        Envelope.Shows .null (decoder.Yields View.value (maxDepth - 1))
          (RemoteError.decoder.Yields View.value (maxDepth - 1)) members envelope
  holds : ∀ {response envelope gap inner}, Blank gap →
    response.content = gap ++ byte '\x7b' :: inner → Call.Decodes decoder response envelope →
      ∃ members, View.value.Holds (· ∈ Envelope.names) response.content members
  rearranged : ∀ {link response other response' members members'}, link.Gets response →
    other.Gets response' → response'.status = response.status →
    View.value.Holds (· ∈ Envelope.names) response.content members →
    View.value.Holds (· ∈ Envelope.names) response'.content members' → members.Perm members' →
      SameAnswer (ask link).1.result (ask other).1.result
  respelled : ∀ {link response other response' members members'}, link.Gets response →
    other.Gets response' → response'.status = response.status →
    Offers (· ∈ Envelope.names) response.content members →
    Offers (· ∈ Envelope.names) response'.content members' → members.Perm members' →
      SameAnswer (ask link).1.result (ask other).1.result

theorem Call.decodes_perm {view : View β} {decoder : Decoder α} (hresult : decoder.Follows view)
    (herror : RemoteError.decoder.Follows view) {response other : Http.Response}
    {members others : List (String × β)} (hstatus : other.status = response.status)
    (hbody : view.Holds (· ∈ Envelope.names) response.content members)
    (hother : view.Holds (· ∈ Envelope.names) other.content others) (hperm : members.Perm others)
    (envelope : Envelope α) :
    Decodes decoder response envelope ↔ Decodes decoder other envelope := by
  have hfollows := Envelope.record_follows hresult herror
  have hignores := (Envelope.layout decoder).ignores fun _ => Envelope.mem_names
  unfold Decodes Http.Response.Succeeds Envelope.decoder
  rw [hstatus, hfollows.decode_holds hignores hbody, hfollows.decode_holds hignores hother,
    (Envelope.layout decoder).sums_perm hperm]

theorem Client.perform_same {client : Client} (hsends : client.barrier? = none) {call : Call α}
    {link other : Link} {response response' : Http.Response} (h : link.Gets response)
    (h' : other.Gets response')
    (hdecodes : ∀ envelope, Call.Decodes call.decoder response envelope ↔
      Call.Decodes call.decoder response' envelope) :
    SameAnswer (client.perform call link).1.result (client.perform call other).1.result := by
  rw [client.perform_result hsends call h, client.perform_result hsends call h']
  constructor
  · intro a
    rw [Call.verdict_eq_ok, Call.verdict_eq_ok, hdecodes]
  · intro layer hlayer
    rw [Call.verdict_eq_answer hlayer, Call.verdict_eq_answer hlayer]
    simp only [hdecodes]

theorem Client.settles {client : Client} (hsends : client.barrier? = none) {call : Call α}
    (huniform : call.decoder.Uniform) (hvalues : call.decoder.ReadsValues) {missing : Layer}
    (hmissing : call.missing = .of missing)
    (hanswer : missing.IsAnswer) (hnamed : ∀ code message, missing ≠ .remote code message) :
    Settles (client.perform call) call.decoder missing where
  value h a := by rw [client.perform_result hsends call h, Call.verdict_eq_ok]
  remote h code message := by
    have hremote : (Layer.remote code message).IsAnswer := trivial
    rw [client.perform_result hsends call h, Call.verdict_eq_answer hremote]
    constructor
    · intro hconclude
      obtain ⟨⟨result, error⟩, hdecodes, hresult⟩ := hconclude
      cases error with
      | some error =>
          obtain ⟨code, message⟩ := error
          cases hresult
          exact ⟨result, hdecodes⟩
      | none =>
          cases result with
          | some a => cases hresult
          | none =>
              rw [Call.conclude, hmissing] at hresult
              cases hresult
              exact absurd rfl (hnamed code message)
    · intro hdecodes
      obtain ⟨found, hdecodes⟩ := hdecodes
      exact ⟨_, hdecodes, by cases found <;> rfl⟩
  missing h := by
    rw [client.perform_result hsends call h, Call.verdict_eq_answer hanswer]
    constructor
    · intro hconclude
      obtain ⟨⟨result, error⟩, hdecodes, hresult⟩ := hconclude
      cases error with
      | some error =>
          cases result <;> cases hresult <;> exact absurd rfl (hnamed error.code error.message)
      | none =>
          cases result with
          | some a => cases hresult
          | none => exact hdecodes
    · intro hdecodes
      exact ⟨_, hdecodes, by rw [Call.conclude, hmissing]⟩
  otherwise h hdecodes := by
    rw [client.perform_result hsends call h]
    exact Call.verdict_of_not_decodes hdecodes
  told h envelope := and_congr_right fun _ => Envelope.decode_iff huniform h
  held h envelope := and_congr_right fun _ =>
    Envelope.decode_holds hvalues.follows RemoteError.decoder_readsValues.follows h
  holds hgap hcontent hdecodes := (Envelope.record_asks hvalues).holds hgap hcontent hdecodes.2
  rearranged h h' hstatus hbody hother hperm := client.perform_same hsends h h'
    (Call.decodes_perm hvalues.follows RemoteError.decoder_readsValues.follows hstatus hbody
      hother hperm)
  respelled h h' hstatus hbody hother hperm := client.perform_same hsends h h'
    (Call.decodes_perm huniform RemoteError.decoder_uniform hstatus hbody hother hperm)

/-- Queries of a node over the wire come out by their responses: with the value, with the
error that the node told, without a result, or in trouble that is none of these. -/
theorem node_settles {client : Client} (hsends : client.barrier? = none) :
    Settles client.node.height Quantity.decoder (.nullResult "eth_blockNumber") ∧
      (∀ number, Settles (client.node.block number) Block.decoder
        (.absent ("block " ++ toString number))) ∧
      ∀ hash, Settles (client.node.transaction hash) Transaction.decoder
        (.absent ("transaction " ++ hash)) := by
  refine ⟨?_, fun number => ?_, fun hash => ?_⟩
  · exact client.settles hsends Quantity.decoder_uniform Quantity.decoder_readsValues rfl trivial
      (by simp)
  · exact client.settles hsends Block.decoder_uniform Block.decoder_readsValues rfl trivial
      (by simp)
  · exact client.settles hsends Transaction.decoder_uniform Transaction.decoder_readsValues rfl
      trivial (by simp)

/-- An unknown transaction, in a body that holds half a surrogate pair, and in one that holds
it elsewhere and twice. -/
theorem node_settles_unknown_transaction :
    let url : Url :=
      ⟨"http", "", none, some (.domain "localhost"), some 8545, .segments [""], none, none⟩
    let client : Client := ⟨url, rfl⟩
    let half : Value := ⟨byte '"' :: byte '\\' :: byte 'u' :: byte 'd' :: byte '8' :: byte '0' ::
      byte '0' :: [byte '"'], .string (.unit rfl (.close []))⟩
    let response (members : List (String × Value)) : Http.Response :=
      ⟨200, "application/json", (Value.object members).text⟩
    let link (members : List (String × Value)) : Link :=
      .start [] ⟨.answered (response members), false, 0⟩
    client.barrier? = none ∧
      (client.node.transaction "0xaa" (link [("id", half), ("result", .null)])).1.result =
        .error (.of (.absent ("transaction " ++ "0xaa"))) ∧
      (client.node.transaction "0xaa"
        (link [("result", .null), ("id", half), ("jsonrpc", half)])).1.result =
        .error (.of (.absent ("transaction " ++ "0xaa"))) := by
  intro url client half response link
  have hsends : client.barrier? = none := by decide +kernel
  have hvalue : Http.isHeaderValue "application/json" = true := by decide
  have hsuccess : ∀ members, (response members).Succeeds := fun _ =>
    ⟨Nat.le_refl 200, Nat.le_of_ble_eq_true rfl⟩
  have hgets : ∀ members, (link members).Gets (response members) := fun members =>
    Link.start_gets (hsuccess members) hvalue false 0
  have hholds : ∀ members, View.value.Holds (· ∈ Envelope.names) (response members).content
      (members.filter fun member => member.1 ∈ Envelope.names) :=
    Value.holds_object (· ∈ Envelope.names)
  obtain ⟨-, -, hsettles⟩ := node_settles hsends
  have hmissing : (client.node.transaction "0xaa"
      (link [("id", half), ("result", .null)])).1.result =
        .error (.of (.absent ("transaction " ++ "0xaa"))) := by
    apply ((hsettles "0xaa").missing (hgets _)).mpr
    exact ((hsettles "0xaa").held (hholds _) _).mpr ⟨hsuccess _, by decide, .null, .lacking⟩
  have hsame := (hsettles "0xaa").rearranged (hgets [("id", half), ("result", .null)])
    (hgets [("result", .null), ("id", half), ("jsonrpc", half)]) rfl (hholds _) (hholds _)
    (.refl _)
  exact ⟨hsends, hmissing, (hsame.answer (.absent _) trivial).mp hmissing⟩

end Rpc

end ChainArchive
