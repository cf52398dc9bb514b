import ChainArchive.Transaction
import ChainArchive.Proofs.Except
import Mathlib.Data.List.Induction

namespace ChainArchive.Transaction

open Json

/-! The typed members of a transaction, each with the place that it fills in a draft. -/

def typedNames : List String :=
  ["from", "to", "nonce", "blockNumber", "transactionIndex", "gas", "value", "gasPrice",
   "maxFeePerGas", "maxPriorityFeePerGas"]

inductive Field where
  | sender
  | recipient
  | nonce
  | blockNumber
  | transactionIndex
  | gas
  | value
  | gasPrice
  | maxFeePerGas
  | maxPriorityFeePerGas
  deriving DecidableEq

namespace Field

def name : Field → String
  | sender => "from"
  | recipient => "to"
  | nonce => "nonce"
  | blockNumber => "blockNumber"
  | transactionIndex => "transactionIndex"
  | gas => "gas"
  | value => "value"
  | gasPrice => "gasPrice"
  | maxFeePerGas => "maxFeePerGas"
  | maxPriorityFeePerGas => "maxPriorityFeePerGas"

def Value : Field → Type
  | sender => String
  | recipient => Option String
  | nonce => Quantity
  | blockNumber | transactionIndex | gas => Option Quantity
  | value | gasPrice | maxFeePerGas | maxPriorityFeePerGas => Option Wei

def decoder : (field : Field) → Decoder field.Value
  | sender => .text
  | recipient => .option .text
  | nonce => Quantity.decoder
  | blockNumber | transactionIndex | gas => .option Quantity.decoder
  | value | gasPrice | maxFeePerGas | maxPriorityFeePerGas => .option Wei.decoder

def given : (field : Field) → Draft → Option field.Value
  | sender, draft => draft.sender
  | recipient, draft => draft.recipient
  | nonce, draft => draft.nonce
  | blockNumber, draft => draft.blockNumber
  | transactionIndex, draft => draft.transactionIndex
  | gas, draft => draft.gas
  | value, draft => draft.value
  | gasPrice, draft => draft.gasPrice
  | maxFeePerGas, draft => draft.maxFeePerGas
  | maxPriorityFeePerGas, draft => draft.maxPriorityFeePerGas

def put : (field : Field) → Draft → field.Value → Draft
  | sender, draft, s => { draft with sender := some s }
  | recipient, draft, r => { draft with recipient := some r }
  | nonce, draft, n => { draft with nonce := some n }
  | blockNumber, draft, n => { draft with blockNumber := some n }
  | transactionIndex, draft, n => { draft with transactionIndex := some n }
  | gas, draft, n => { draft with gas := some n }
  | value, draft, w => { draft with value := some w }
  | gasPrice, draft, w => { draft with gasPrice := some w }
  | maxFeePerGas, draft, w => { draft with maxFeePerGas := some w }
  | maxPriorityFeePerGas, draft, w => { draft with maxPriorityFeePerGas := some w }

def default? : (field : Field) → Option field.Value
  | sender => none
  | recipient => some none
  | nonce => none
  | blockNumber | transactionIndex | gas => some none
  | value | gasPrice | maxFeePerGas | maxPriorityFeePerGas => some none

def of : (field : Field) → Transaction → field.Value
  | sender, tx => tx.sender
  | recipient, tx => tx.recipient
  | nonce, tx => tx.nonce
  | blockNumber, tx => tx.blockNumber
  | transactionIndex, tx => tx.transactionIndex
  | gas, tx => tx.gas
  | value, tx => tx.value
  | gasPrice, tx => tx.gasPrice
  | maxFeePerGas, tx => tx.maxFeePerGas
  | maxPriorityFeePerGas, tx => tx.maxPriorityFeePerGas

/-! A place holds what was put there last, and no other place is touched. -/

@[simp] theorem given_put (field : Field) (draft : Draft) (a : field.Value) :
    field.given (field.put draft a) = some a := by
  cases field <;> rfl

theorem given_put_of_ne {field other : Field} (h : field ≠ other) (draft : Draft)
    (a : field.Value) : other.given (field.put draft a) = other.given draft := by
  cases field <;> cases other <;> first | rfl | exact absurd rfl h

@[simp] theorem extras_put (field : Field) (draft : Draft) (a : field.Value) :
    (field.put draft a).extras = draft.extras := by
  cases field <;> rfl

@[simp] theorem given_with_extras (field : Field) (draft : Draft)
    (extras : List (String × Json)) : field.given { draft with extras } = field.given draft := by
  cases field <;> rfl

@[simp] theorem given_empty (field : Field) : field.given .empty = none := by
  cases field <;> rfl

/-! Names tell the typed members apart. -/

theorem mem_typedNames {key : String} : key ∈ typedNames ↔ ∃ field : Field, field.name = key := by
  constructor
  · intro h
    simp only [typedNames, List.mem_cons, List.not_mem_nil, or_false] at h
    rcases h with rfl | rfl | rfl | rfl | rfl | rfl | rfl | rfl | rfl | rfl
    · exact ⟨sender, rfl⟩
    · exact ⟨recipient, rfl⟩
    · exact ⟨nonce, rfl⟩
    · exact ⟨blockNumber, rfl⟩
    · exact ⟨transactionIndex, rfl⟩
    · exact ⟨gas, rfl⟩
    · exact ⟨value, rfl⟩
    · exact ⟨gasPrice, rfl⟩
    · exact ⟨maxFeePerGas, rfl⟩
    · exact ⟨maxPriorityFeePerGas, rfl⟩
  · rintro ⟨field, rfl⟩
    cases field <;> decide

theorem name_mem (field : Field) : field.name ∈ typedNames := mem_typedNames.mpr ⟨field, rfl⟩

theorem name_injective {field other : Field} (h : field.name = other.name) : field = other := by
  cases field <;> cases other <;> first | rfl | exact absurd h (by decide)

end Field

theorem Draft.slot_typed (draft : Draft) (field : Field) :
    draft.slot field.name =
      .once field.name (field.given draft) field.decoder (field.put draft) := by
  cases field <;> simp only [Draft.slot, Field.name, String.reduceEq, if_true, if_false] <;> rfl

theorem Draft.slot_untyped (draft : Draft) {key : String} (h : key ∉ typedNames) :
    draft.slot key = .taken (Decoder.json.map fun v =>
      { draft with extras := Json.insertMember key v draft.extras }) := by
  simp only [typedNames, List.mem_cons, List.not_mem_nil, or_false, not_or] at h
  simp only [Draft.slot, h, if_false]

/-! Members are taken one by one. -/

theorem takeMember_typed {draft next : Draft} {field : Field} {value : Json} :
    record.takeMember draft (field.name, value) = .ok next ↔
      field.given draft = none ∧ ∃ a, field.decoder.ofJson value = .ok a ∧
        field.put draft a = next := by
  have hslot : record.slot draft field.name = _ := draft.slot_typed field
  simp only [Record.takeMember, hslot, Slot.once]
  cases field.given draft with
  | some b => simp
  | none => simp [Decoder.map, Outcome.map_eq_ok]

theorem takeMember_untyped (draft : Draft) {key : String} (hkey : key ∉ typedNames)
    (value : Json) :
    record.takeMember draft (key, value) =
      .ok { draft with extras := Json.insertMember key value.normal draft.extras } := by
  have hslot : record.slot draft key = _ := draft.slot_untyped hkey
  simp only [Record.takeMember, hslot]
  rfl

theorem takeMember_given {draft next : Draft} {member : String × Json}
    (h : record.takeMember draft member = .ok next) (field : Field) :
    (member.1 = field.name ∧ field.given draft = none ∧
      ∃ a, field.decoder.ofJson member.2 = .ok a ∧ field.given next = some a) ∨
    (member.1 ≠ field.name ∧ field.given next = field.given draft) := by
  obtain ⟨key, value⟩ := member
  by_cases hkey : key ∈ typedNames
  · obtain ⟨other, rfl⟩ := Field.mem_typedNames.mp hkey
    obtain ⟨hnone, a, ha, rfl⟩ := takeMember_typed.mp h
    by_cases hsame : other = field
    · subst hsame
      exact .inl ⟨rfl, hnone, a, ha, other.given_put draft a⟩
    · exact .inr ⟨fun hname => hsame (Field.name_injective hname),
        Field.given_put_of_ne hsame draft a⟩
  · rw [takeMember_untyped draft hkey] at h
    cases h
    refine .inr ⟨?_, field.given_with_extras draft _⟩
    rintro rfl
    exact hkey field.name_mem

theorem given_of_mem {members : List (String × Json)} {last : Draft}
    (h : members.foldlM record.takeMember .empty = .ok last) {field : Field} {value : Json}
    (hmember : (field.name, value) ∈ members) :
    ∃ a, field.decoder.ofJson value = .ok a ∧ field.given last = some a := by
  induction members using List.reverseRecOn generalizing last with
  | nil => cases hmember
  | append_singleton members member ih =>
      obtain ⟨middle, hmiddle, htake⟩ := Outcome.foldlM_snoc_eq_ok.mp h
      have hstep := takeMember_given htake field
      rcases List.mem_append.mp hmember with hbefore | hthis
      · obtain ⟨a, ha, hgiven⟩ := ih hmiddle hbefore
        rcases hstep with ⟨-, hnone, -⟩ | ⟨-, hkeep⟩
        · rw [hgiven] at hnone
          cases hnone
        · exact ⟨a, ha, hkeep.trans hgiven⟩
      · rw [← List.mem_singleton.mp hthis] at hstep
        rcases hstep with ⟨-, -, a, ha, hgiven⟩ | ⟨hne, -⟩
        · exact ⟨a, ha, hgiven⟩
        · exact absurd rfl hne

theorem mem_of_given {members : List (String × Json)} {last : Draft}
    (h : members.foldlM record.takeMember .empty = .ok last) {field : Field} {a : field.Value}
    (hgiven : field.given last = some a) :
    ∃ value, (field.name, value) ∈ members ∧ field.decoder.ofJson value = .ok a := by
  induction members using List.reverseRecOn generalizing last with
  | nil =>
      cases h
      rw [Field.given_empty] at hgiven
      cases hgiven
  | append_singleton members member ih =>
      obtain ⟨middle, hmiddle, htake⟩ := Outcome.foldlM_snoc_eq_ok.mp h
      rcases takeMember_given htake field with ⟨hname, -, b, hb, hput⟩ | ⟨-, hkeep⟩
      · obtain rfl : b = a := Option.some.inj (hput.symm.trans hgiven)
        exact ⟨member.2, by simp [← hname], hb⟩
      · obtain ⟨value, hvalue, ha⟩ := ih hmiddle (hkeep.symm.trans hgiven)
        exact ⟨value, List.mem_append_left _ hvalue, ha⟩

theorem exists_fold {members : List (String × Json)} (hnodup : (members.map Prod.fst).Nodup)
    (hdecodes : ∀ (field : Field) value, (field.name, value) ∈ members →
      ∃ a, field.decoder.ofJson value = .ok a) :
    ∃ last, members.foldlM record.takeMember .empty = .ok last := by
  induction members using List.reverseRecOn with
  | nil => exact ⟨.empty, rfl⟩
  | append_singleton members member ih =>
      obtain ⟨key, value⟩ := member
      rw [List.map_append, List.nodup_append] at hnodup
      obtain ⟨hbefore, -, hfresh⟩ := hnodup
      obtain ⟨middle, hmiddle⟩ := ih hbefore fun field value hvalue =>
        hdecodes field value (List.mem_append_left _ hvalue)
      by_cases hkey : key ∈ typedNames
      · obtain ⟨field, rfl⟩ := Field.mem_typedNames.mp hkey
        obtain ⟨a, ha⟩ := hdecodes field value (by simp)
        have hnone : field.given middle = none := by
          cases hgiven : field.given middle with
          | none => rfl
          | some b =>
              obtain ⟨other, hother, -⟩ := mem_of_given hmiddle hgiven
              exact absurd rfl (hfresh _ (List.mem_map_of_mem hother) _ (by simp))
        exact ⟨_, Outcome.foldlM_snoc_eq_ok.mpr
          ⟨middle, hmiddle, takeMember_typed.mpr ⟨hnone, a, ha, rfl⟩⟩⟩
      · exact ⟨_, Outcome.foldlM_snoc_eq_ok.mpr
          ⟨middle, hmiddle, takeMember_untyped middle hkey value⟩⟩

theorem eq_of_fields {tx other : Transaction}
    (h : ∀ field : Field, field.of tx = field.of other) (hextras : tx.extras = other.extras) :
    tx = other := by
  cases tx
  cases other
  rw [Transaction.mk.injEq]
  exact ⟨h .sender, h .recipient, h .nonce, h .blockNumber, h .transactionIndex, h .gas,
    h .value, h .gasPrice, h .maxFeePerGas, h .maxPriorityFeePerGas, hextras⟩

theorem fields_of_finish {draft : Draft} {tx : Transaction} (h : draft.finish = .ok tx)
    (field : Field) : (field.given draft).or field.default? = some (field.of tx) := by
  obtain ⟨sender, hsender, h⟩ := Outcome.bind_eq_ok.mp h
  obtain ⟨nonce, hnonce, h⟩ := Outcome.bind_eq_ok.mp h
  cases h
  cases field with
  | sender => exact Option.or_none.trans (required_eq_ok.mp hsender)
  | nonce => exact Option.or_none.trans (required_eq_ok.mp hnonce)
  | _ => exact Option.or_some

theorem finish_extras {draft : Draft} {tx : Transaction} (h : draft.finish = .ok tx) :
    tx.extras = draft.extras := by
  obtain ⟨sender, _, h⟩ := Outcome.bind_eq_ok.mp h
  obtain ⟨nonce, _, h⟩ := Outcome.bind_eq_ok.mp h
  cases h
  rfl

theorem finish_eq_ok {draft : Draft} {tx : Transaction}
    (hfields : ∀ field : Field, (field.given draft).or field.default? = some (field.of tx))
    (hextras : tx.extras = draft.extras) : draft.finish = .ok tx := by
  have hsender : draft.sender = some tx.sender := Option.or_none.symm.trans (hfields .sender)
  have hnonce : draft.nonce = some tx.nonce := Option.or_none.symm.trans (hfields .nonce)
  obtain ⟨made, hmade⟩ : ∃ made, draft.finish = .ok made := by
    simp only [Draft.finish, hsender, hnonce, required]
    exact ⟨_, rfl⟩
  have hsame : made = tx := by
    refine eq_of_fields (fun field => ?_) ((finish_extras hmade).trans hextras.symm)
    exact Option.some.inj ((fields_of_finish hmade field).symm.trans (hfields field))
  rw [hmade, hsame]

end ChainArchive.Transaction
