import ChainArchive.Proofs.Json.Decoding
import ChainArchive.Proofs.Json.Reading
import ChainArchive.Proofs.Transaction.Fields

namespace ChainArchive

open Json

namespace Transaction

/-! What a decoder leaves in a transaction. -/

structure Regular (extras : List (String × Json)) : Prop where
  ascending : Ascending extras
  untyped : ∀ member ∈ extras, member.1 ∉ typedNames
  arranged : ∀ member ∈ extras, Arranged member.2
  within : ∀ member ∈ extras, Within (maxDepth - 1) member.2

theorem regular_nil : Regular [] where
  ascending := List.Pairwise.nil
  untyped := List.forall_mem_nil _
  arranged := List.forall_mem_nil _
  within := List.forall_mem_nil _

theorem Regular.insertMember {extras : List (String × Json)} (h : Regular extras)
    {key : String} (hkey : key ∉ typedNames) {value : Json} (hvalue : Arranged value)
    (hwithin : Within (maxDepth - 1) value) : Regular (insertMember key value extras) where
  ascending := insertMember_ascending h.ascending key value
  untyped member hmember := by
    rcases mem_insertMember hmember with rfl | hmem
    · exact hkey
    · exact h.untyped member hmem
  arranged member hmember := by
    rcases mem_insertMember hmember with rfl | hmem
    · exact hvalue
    · exact h.arranged member hmem
  within member hmember := by
    rcases mem_insertMember hmember with rfl | hmem
    · exact hwithin
    · exact h.within member hmem

theorem Draft.slot_taken {draft : Draft} {key : String} {taken : Decoder Draft}
    (h : draft.slot key = .taken taken) :
    (∃ (α : Type) (decoder : Decoder α) (put : α → Draft),
      taken = decoder.map put ∧ ∀ a, (put a).extras = draft.extras) ∨
    (key ∉ typedNames ∧ taken = Decoder.json.map fun v =>
      { draft with extras := Json.insertMember key v draft.extras }) := by
  by_cases hkey : key ∈ typedNames
  · obtain ⟨field, rfl⟩ := Field.mem_typedNames.mp hkey
    rw [draft.slot_typed field] at h
    exact .inl ⟨_, _, _, Slot.once_taken h, field.extras_put draft⟩
  · rw [draft.slot_untyped hkey] at h
    cases h
    exact .inr ⟨hkey, rfl⟩

/-! Decoding leaves regular extras. -/

theorem Regular.read {draft next : Draft} (h : Regular draft.extras) {key : String}
    {taken : Decoder Draft} (hslot : draft.slot key = .taken taken) {budget : Nat}
    (hbudget : budget < maxDepth) {text rest : Bytes}
    (hread : taken.read budget text = .ok (next, rest)) : Regular next.extras := by
  rcases Draft.slot_taken hslot with ⟨α, decoder, put, rfl, hput⟩ | ⟨hkey, rfl⟩
  · obtain ⟨a, _, rfl⟩ := map_read_eq_ok hread
    rw [hput a]
    exact h
  · obtain ⟨value, hvalue, rfl⟩ := map_read_eq_ok hread
    obtain ⟨harranged, hwithin⟩ := json_read_eq_ok hvalue
    exact h.insertMember hkey harranged (hwithin.mono (by omega))

theorem Regular.ofJson {draft next : Draft} (h : Regular draft.extras) {key : String}
    {taken : Decoder Draft} (hslot : draft.slot key = .taken taken) {value : Json}
    (hwithin : Within (maxDepth - 1) value) (htaken : taken.ofJson value = .ok next) :
    Regular next.extras := by
  rcases Draft.slot_taken hslot with ⟨α, decoder, put, rfl, hput⟩ | ⟨hkey, rfl⟩
  · obtain ⟨a, _, rfl⟩ := map_ofJson_eq_ok htaken
    rw [hput a]
    exact h
  · obtain ⟨arranged, hvalue, rfl⟩ := map_ofJson_eq_ok htaken
    cases hvalue
    exact h.insertMember hkey (normal_arranged value) hwithin.normal

/-- What the decoder can return, from a text or a part of one, or from a value that nests
no deeper than a text can. -/
def Decoded (tx : Transaction) : Prop :=
  (∃ budget text rest, budget ≤ maxDepth ∧ decoder.read budget text = .ok (tx, rest)) ∨
  (∃ value, Within maxDepth value ∧ decoder.ofJson value = .ok tx)

theorem decoded_of_decode {text : Bytes} {tx : Transaction}
    (h : decoder.decode text = .ok tx) : Decoded tx := by
  obtain ⟨rest, hread, -⟩ := readWhole_eq_ok.mp h
  exact .inl ⟨maxDepth, text, rest, Nat.le_refl _, hread⟩

theorem Decoded.regular {tx : Transaction} (h : Decoded tx) : Regular tx.extras := by
  rcases h with ⟨budget, text, rest, hbudget, hread⟩ | ⟨value, hwithin, hvalue⟩
  · obtain ⟨smaller, inner, rfl, hobject⟩ := Record.read_object rfl hread
    obtain ⟨last, hlast, hfinish⟩ :=
      Record.readObject_keeps (fun draft : Draft => Regular draft.extras) regular_nil
        (fun draft key taken text next rest hdraft hslot htaken =>
          hdraft.read hslot (by omega) htaken) hobject
    rw [finish_extras hfinish]
    exact hlast
  · obtain ⟨members, last, rfl, hfold, hfinish⟩ := Record.ofJson_object rfl hvalue
    cases hwithin with
    | object inner =>
        rw [finish_extras hfinish]
        exact Record.takeMembers_keeps (fun draft : Draft => Regular draft.extras)
          (fun draft taken next member hmember hdraft hslot htaken =>
            hdraft.ofJson hslot (inner member hmember) htaken) hfold regular_nil

end Transaction

end ChainArchive
