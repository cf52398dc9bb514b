import ChainArchive.Proofs.Amounts
import ChainArchive.Proofs.Transaction.Decoding

namespace ChainArchive

open Json

theorem Quantity.given_toJson (q : Quantity) : Given q.toJson := given_integer _

theorem Wei.given_toJson (w : Wei) : Given w.toJson := given_string _

namespace Transaction

/-! A transaction's line is read member by member: each takes the draft nearer to the
transaction. -/

def typedDraft (tx : Transaction) : Draft where
  sender := some tx.sender
  recipient := some tx.recipient
  nonce := some tx.nonce
  blockNumber := tx.blockNumber.map some
  transactionIndex := tx.transactionIndex.map some
  gas := tx.gas.map some
  value := tx.value.map some
  gasPrice := tx.gasPrice.map some
  maxFeePerGas := tx.maxFeePerGas.map some
  maxPriorityFeePerGas := tx.maxPriorityFeePerGas.map some
  extras := []

theorem takes_optionalMember (put : Draft → Option (Option α) → Draft) {draft : Draft}
    {name : String} {decoder : Decoder α} {write : α → Json} {budget : Nat}
    (hempty : put draft none = draft)
    (hslot : draft.slot name =
      .taken ((Decoder.option decoder).map fun read => put draft (some read)))
    (hread : ∀ a, ReadsBack (decoder.read budget) (write a) a) (hgiven : ∀ a, Given (write a))
    (value : Option α) :
    Takes (record.readMember budget) draft (optionalMember name write value)
      (put draft (value.map some)) := by
  cases value with
  | none =>
      rw [Option.map_none, hempty]
      exact .nil draft
  | some a =>
      exact Record.takes_member hslot
        ((option_given (hread a) (hgiven a)).map fun read => put draft (some read))

theorem takes_quantity (put : Draft → Option (Option Quantity) → Draft) {draft : Draft}
    {name : String} (hempty : put draft none = draft)
    (hslot : draft.slot name =
      .taken ((Decoder.option Quantity.decoder).map fun read => put draft (some read)))
    (value : Option Quantity) (budget : Nat) :
    Takes (record.readMember budget) draft (optionalMember name Quantity.toJson value)
      (put draft (value.map some)) :=
  takes_optionalMember put hempty hslot (fun q => q.readsBack budget) Quantity.given_toJson
    value

theorem takes_amount (put : Draft → Option (Option Wei) → Draft) {draft : Draft}
    {name : String} (hempty : put draft none = draft)
    (hslot : draft.slot name =
      .taken ((Decoder.option Wei.decoder).map fun read => put draft (some read)))
    (value : Option Wei) (budget : Nat) :
    Takes (record.readMember budget) draft (optionalMember name Wei.toJson value)
      (put draft (value.map some)) :=
  takes_optionalMember put hempty hslot (fun w => w.readsBack budget) Wei.given_toJson value

theorem recipient_readsBack (recipient : Option String) (budget : Nat) :
    ReadsBack ((Decoder.option .text).read budget) ((recipient.map Json.string).getD .null)
      recipient := by
  cases recipient with
  | none => exact option_null _ budget
  | some s => exact option_given (text_readsBack s budget) (given_string s)

theorem takes_typedMembers (tx : Transaction) (budget : Nat) :
    Takes (record.readMember budget) Draft.empty tx.typedMembers tx.typedDraft := by
  simp only [typedMembers, List.append_assoc, List.cons_append, List.nil_append]
  refine .cons (Record.readMember_taken rfl ((text_readsBack tx.sender budget).map _)) ?_
  refine .cons (Record.readMember_taken rfl
    ((recipient_readsBack tx.recipient budget).map _)) ?_
  refine .cons (Record.readMember_taken rfl ((tx.nonce.readsBack budget).map _)) ?_
  refine (takes_quantity (fun draft n => { draft with blockNumber := n }) rfl rfl
    tx.blockNumber budget).append ?_
  refine (takes_quantity (fun draft n => { draft with transactionIndex := n }) rfl rfl
    tx.transactionIndex budget).append ?_
  refine (takes_quantity (fun draft n => { draft with gas := n }) rfl rfl
    tx.gas budget).append ?_
  refine (takes_amount (fun draft w => { draft with value := w }) rfl rfl
    tx.value budget).append ?_
  refine (takes_amount (fun draft w => { draft with gasPrice := w }) rfl rfl
    tx.gasPrice budget).append ?_
  refine (takes_amount (fun draft w => { draft with maxFeePerGas := w }) rfl rfl
    tx.maxFeePerGas budget).append ?_
  exact takes_amount (fun draft w => { draft with maxPriorityFeePerGas := w }) rfl rfl
    tx.maxPriorityFeePerGas budget

def IntegralExtras (tx : Transaction) : Prop := ∀ member ∈ tx.extras, Integral member.2

theorem takes_extras {draft : Draft} {extras : List (String × Json)}
    (h : Regular (draft.extras ++ extras)) (hintegral : ∀ member ∈ extras, Integral member.2) :
    Takes (record.readMember (maxDepth - 1)) draft extras
      { draft with extras := draft.extras ++ extras } := by
  induction extras generalizing draft with
  | nil =>
      rw [List.append_nil]
      exact .nil draft
  | cons member rest ih =>
      -- Every name read so far stands before this one, so it is put at the end.
      have hmember : member ∈ draft.extras ++ member :: rest := by simp
      have hread := json_readsBack (h.within member hmember) (hintegral member (by simp))
        (h.arranged member hmember)
      have hlast : ∀ other ∈ draft.extras, nameBefore other.1 member.1 = true :=
        fun other hother =>
          (List.pairwise_append.mp h.ascending).2.2 other hother member (by simp)
      have hslot := draft.slot_untyped (h.untyped member hmember)
      have hrest := @ih { draft with extras := draft.extras ++ [member] }
        (by simpa using h) fun other hother => hintegral other (by simp [hother])
      refine .cons (Record.readMember_taken hslot (hread.map _)) ?_
      rw [insertMember_last hlast]
      simpa using hrest

theorem getD_map_some (value : Option α) : (value.map some).getD none = value := by
  cases value <;> rfl

theorem finish_typedDraft (tx : Transaction) :
    Draft.finish { tx.typedDraft with extras := tx.extras } = .ok tx := by
  simp [Draft.finish, typedDraft, required, getD_map_some]

theorem line_readsBack {tx : Transaction} (h : Regular tx.extras)
    (hintegral : tx.IntegralExtras) :
    ReadsBack (decoder.read maxDepth) tx.toJson tx :=
  Record.readsBack_object
    ((tx.takes_typedMembers (maxDepth - 1)).append (takes_extras h hintegral))
    tx.finish_typedDraft

theorem Decoded.decode_line {tx : Transaction} (h : tx.Decoded) (hintegral : tx.IntegralExtras) :
    decoder.decode tx.line = .ok tx :=
  decode_render (line_readsBack h.regular hintegral)

theorem Decoded.eq_of_line_eq {tx other : Transaction} (h : tx.Decoded)
    (hintegral : tx.IntegralExtras) (hother : other.Decoded)
    (hotherIntegral : other.IntegralExtras) (hline : tx.line = other.line) : tx = other := by
  have hread := h.decode_line hintegral
  rw [hline, hother.decode_line hotherIntegral] at hread
  exact (Except.ok.inj hread).symm

end Transaction

end ChainArchive
