import ChainArchive.Proofs.Json.Decoding
import ChainArchive.Proofs.Json.Reading

namespace ChainArchive.Json

/-! What a decoder makes of a text is what it makes of the value that the text is read as. -/

def Decoder.Faithful (decoder : Decoder α) : Prop :=
  ∀ {budget : Nat} {text rest : Bytes} {a : α}, decoder.read budget text = .ok (a, rest) →
    ∃ value, readValue budget text = .ok (value, rest) ∧ decoder.ofJson value = .ok a

theorem readValue_skipSpace (budget : Nat) (text : Bytes) :
    readValue budget (skipSpace text) = readValue budget text := by
  obtain ⟨gap, hgap, htext⟩ := exists_gap text
  calc
    readValue budget (skipSpace text) = readValue budget (gap ++ skipSpace text) :=
      (readValue_gap hgap budget _).symm
    _ = readValue budget text := by rw [← htext]

theorem Scalar.ofJson?_toJson (value : Scalar) : Scalar.ofJson? value.toJson = some value := by
  cases value <;> rfl

namespace Decoder

theorem Faithful.map {decoder : Decoder α} (h : decoder.Faithful) (f : α → β) :
    (decoder.map f).Faithful := by
  intro budget text rest b hread
  obtain ⟨⟨a, behind⟩, hread, hpair⟩ := Outcome.map_eq_ok.mp hread
  cases hpair
  obtain ⟨value, hvalue, ha⟩ := h hread
  exact ⟨value, hvalue, Outcome.map_eq_ok.mpr ⟨a, ha, rfl⟩⟩

theorem json_faithful : Decoder.json.Faithful := by
  intro budget text rest value hread
  obtain ⟨⟨plain, behind⟩, hread, hpair⟩ := Outcome.map_eq_ok.mp hread
  cases hpair
  exact ⟨plain, hread, rfl⟩

theorem scalar_faithful (opens : Bool) (expected : String)
    (accept : Scalar → Except Mismatch α) : (scalar opens expected accept).Faithful := by
  intro budget text rest a hread
  obtain ⟨head, hhead, hread⟩ := Outcome.bind_eq_ok.mp hread
  cases head with
  | scalar value behind =>
      cases haccept : accept value with
      | error mismatch => simp [placed, haccept] at hread
      | ok b =>
          simp only [placed, haccept, Except.ok.injEq, Prod.mk.injEq] at hread
          obtain ⟨rfl, rfl⟩ := hread
          refine ⟨value.toJson, readValue_scalar hhead, ?_⟩
          simp only [scalar, Scalar.ofJson?_toJson, haccept]
  -- An opened container is given up whatever is left of the budget.
  | array behind => cases opens <;> cases budget <;> cases hread
  | object behind => cases opens <;> cases budget <;> cases hread

theorem option_faithful {decoder : Decoder α} (h : decoder.Faithful)
    (hnull : ∀ a, decoder.ofJson .null ≠ .ok a) : (option decoder).Faithful := by
  have hsome : ∀ {budget text rest a}, decoder.read budget text = .ok (a, rest) →
      ∃ value, readValue budget text = .ok (value, rest) ∧
        (option decoder).ofJson value = .ok (some a) := by
    intro budget text rest a hread
    obtain ⟨value, hvalue, ha⟩ := h hread
    refine ⟨value, hvalue, ?_⟩
    cases value with
    | null => exact absurd ha (hnull a)
    | _ => exact Outcome.map_eq_ok.mpr ⟨a, ha, rfl⟩
  intro budget text rest found hread
  rw [← readValue_skipSpace]
  simp only [option] at hread
  split at hread
  · rename_i hskip
    obtain ⟨⟨a, behind⟩, hinner, hpair⟩ := Outcome.map_eq_ok.mp hread
    cases hpair
    rw [hskip]
    exact hsome hinner
  · rename_i b inner hskip
    rw [hskip]
    split at hread
    · rename_i hb
      obtain ⟨behind, hword, hpair⟩ := Outcome.map_eq_ok.mp hread
      cases hpair
      have hnullWord : render .null ++ rest = byte 'n' :: (Bytes.ofString "ull" ++ rest) := rfl
      rw [hb, readWord_sound hword, ← hnullWord]
      exact ⟨.null, readValue_scalar (readHead_null rest), rfl⟩
    · obtain ⟨⟨a, behind⟩, hinner, hpair⟩ := Outcome.map_eq_ok.mp hread
      cases hpair
      exact hsome hinner

end Decoder

def Slot.Faithful : Slot σ → Prop
  | .ignored => False
  | .refused _ => True
  | .taken decoder => decoder.Faithful

theorem Slot.once_faithful {decoder : Decoder α} (h : decoder.Faithful) (field : String)
    (given : Option α) (put : α → σ) : (Slot.once field given decoder put).Faithful := by
  cases given with
  | some a => trivial
  | none => exact h.map put

namespace Record

structure Faithful (record : Record σ α) : Prop where
  columns : record.columns = none
  slot : ∀ state key, (record.slot state key).Faithful

variable {record : Record σ α}

theorem Faithful.readMember (h : record.Faithful) {budget : Nat} {state next : σ} {key : String}
    {text rest : Bytes} (hread : record.readMember budget state key text = .ok (next, rest))
    (done : List (String × Json)) :
    ∃ value, addMember (readValue budget) done key text = .ok ((key, value) :: done, rest) ∧
      record.takeMember state (key, value) = .ok next := by
  have hfaithful := h.slot state key
  unfold Record.readMember at hread
  cases hslot : record.slot state key with
  | ignored =>
      rw [hslot] at hfaithful
      exact hfaithful.elim
  | refused mismatch => simp [hslot] at hread
  | taken decoder =>
      rw [hslot] at hfaithful
      simp only [hslot] at hread
      obtain ⟨after, hcolon, hread⟩ := Outcome.bind_eq_ok.mp hread
      obtain ⟨value, hvalue, hnext⟩ := hfaithful (orStop_eq_ok.mp hread)
      have hstop := orStop_eq_ok.mpr hvalue
      refine ⟨value, ?_, by simp only [takeMember, hslot, hnext]⟩
      simp only [addMember, hcolon, Outcome.ok_bind, hstop, Outcome.pure_eq_ok]

theorem Faithful.foldMembers (h : record.Faithful) {budget fuel : Nat} {first : Bool}
    {state last : σ} {text rest : Bytes}
    (hfold : Json.foldMembers (record.readMember budget) fuel first state text = .ok (last, rest))
    (done : List (String × Json)) :
    ∃ members : List (String × Json),
      Json.foldMembers (addMember (readValue budget)) fuel first done text =
        .ok (members.reverse ++ done, rest) ∧
      members.foldlM record.takeMember state = .ok last := by
  induction fuel generalizing first state text done with
  | zero =>
      cases hfold
      exact ⟨[], rfl, rfl⟩
  | succ fuel ih =>
      rw [Json.foldMembers] at hfold
      obtain ⟨⟨found, inner⟩, hnext, hfold⟩ := Outcome.bind_eq_ok.mp hfold
      cases found with
      | none =>
          cases hfold
          refine ⟨[], ?_, rfl⟩
          rw [Json.foldMembers, hnext]
          rfl
      | some key =>
          obtain ⟨⟨next, behind⟩, hmember, hfold⟩ := Outcome.bind_eq_ok.mp hfold
          obtain ⟨value, hadd, htake⟩ := h.readMember hmember done
          obtain ⟨members, hmembers, htaken⟩ := ih hfold ((key, value) :: done)
          refine ⟨(key, value) :: members, ?_, ?_⟩
          · rw [Json.foldMembers, hnext, Outcome.ok_bind]
            simp only [hadd, Outcome.ok_bind, hmembers]
            simp
          · rw [List.foldlM_cons, htake, Outcome.ok_bind, htaken]

theorem Faithful.decoder (h : record.Faithful) : record.decoder.Faithful := by
  intro budget text rest a hread
  obtain ⟨head, hhead, hread⟩ := Outcome.bind_eq_ok.mp hread
  cases head with
  | scalar value behind => cases hread
  | array behind => simp [h.columns] at hread
  | object behind =>
      cases budget with
      | zero => cases hread
      | succ budget =>
          obtain ⟨inner, hobject, hclose⟩ := objectResult_eq_ok hread
          obtain ⟨⟨last, after⟩, hfold, hfinish⟩ := Outcome.bind_eq_ok.mp hobject
          obtain ⟨members, hmembers, htaken⟩ := h.foldMembers hfold []
          cases hlast : record.finish last with
          | error mismatch => simp [stopAt, hlast] at hfinish
          | ok b =>
              simp only [stopAt, hlast, Except.ok.injEq, Prod.mk.injEq] at hfinish
              obtain ⟨rfl, rfl⟩ := hfinish
              refine ⟨.object members, ?_, ?_⟩
              · rw [readValue, hhead, Outcome.ok_bind]
                simp only [readMembers, hmembers, objectResult, hclose, Outcome.map_ok,
                  Outcome.ok_bind, List.append_nil, List.reverse_reverse]
              · simp only [Record.decoder, htaken, Outcome.ok_bind, hlast]

end Record

end ChainArchive.Json
