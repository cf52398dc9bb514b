import ChainArchive.Json.Record
import ChainArchive.Proofs.Json.Budget
import ChainArchive.Proofs.Json.Containers

namespace ChainArchive.Json

open Bytes

/-! Decoders that get back what was written. -/

theorem ReadsBack.map {decoder : Decoder α} {budget : Nat} {value : Json} {a : α}
    (h : ReadsBack (decoder.read budget) value a) (f : α → β) :
    ReadsBack ((decoder.map f).read budget) value (f a) := by
  intro rest hrest
  simp only [Decoder.map, h rest hrest]
  rfl

theorem readsBack_string {accept : Scalar → Except Mismatch α} {s : String} {a : α}
    (h : accept (.string s) = .ok a) (opens : Bool) (expected : String) (budget : Nat) :
    ReadsBack ((Decoder.scalar opens expected accept).read budget) (.string s) a := by
  intro rest _
  simp only [Decoder.scalar, readHead_string, Outcome.ok_bind, placed, h]

theorem readsBack_integer {accept : Scalar → Except Mismatch α} {n : Integer} {a : α}
    (h : accept (.number (.integer n)) = .ok a) (opens : Bool) (expected : String)
    (budget : Nat) :
    ReadsBack ((Decoder.scalar opens expected accept).read budget) (.number (.integer n)) a := by
  intro rest hrest
  simp only [Decoder.scalar, readHead_integer n hrest, Outcome.ok_bind, placed, h]

theorem text_readsBack (s : String) (budget : Nat) :
    ReadsBack (Decoder.text.read budget) (.string s) s := by
  unfold Decoder.text
  refine readsBack_string ?_ false "a string" budget
  rfl

theorem json_readsBack {budget : Nat} {value : Json} (hwithin : Within budget value)
    (hintegral : Integral value) (harranged : Arranged value) :
    ReadsBack (Decoder.json.read budget) value value := by
  intro rest hrest
  simp only [Decoder.json, readValue_render hwithin hintegral rest hrest, Outcome.map_ok,
    harranged.normal_eq]

def Given (value : Json) : Prop :=
  ∃ b rest, render value = b :: rest ∧ isSpace b = false ∧ b ≠ byte 'n'

theorem given_string (s : String) : Given (.string s) :=
  ⟨byte '"', _, rfl, by decide, by decide⟩

theorem given_integer (n : Integer) : Given (.number (.integer n)) := by
  obtain ⟨b, rest, hwritten, hdigit | rfl⟩ := render_integer_head n
  · exact ⟨b, rest, hwritten, isSpace_of_isDigit hdigit, ne_of_isDigit hdigit (by decide)⟩
  · exact ⟨byte '-', rest, hwritten, by decide, by decide⟩

theorem option_null (decoder : Decoder α) (budget : Nat) :
    ReadsBack ((Decoder.option decoder).read budget) .null none := by
  intro rest _
  have hword : render .null = byte 'n' :: ofString "ull" := by decide
  simp only [Decoder.option, hword, List.cons_append,
    skipSpace_cons (by decide : isSpace (byte 'n') = false), if_pos, readWord_append,
    Outcome.map_ok]

theorem option_given {decoder : Decoder α} {budget : Nat} {value : Json} {a : α}
    (h : ReadsBack (decoder.read budget) value a) (hgiven : Given value) :
    ReadsBack ((Decoder.option decoder).read budget) value (some a) := by
  intro rest hrest
  obtain ⟨b, written, hwritten, hspace, hb⟩ := hgiven
  have hread := h rest hrest
  rw [hwritten] at hread
  simp only [Decoder.option, hwritten, List.cons_append, skipSpace_cons hspace, if_neg hb]
  rw [List.cons_append] at hread
  rw [hread, Outcome.map_ok]

theorem decode_render {decoder : Decoder α} {value : Json} {a : α}
    (h : ReadsBack (decoder.read maxDepth) value a) : decoder.decode (render value) = .ok a := by
  have hread := h [] endsNumber_nil
  rw [List.append_nil] at hread
  simp only [Decoder.decode, readWhole, hread, finish, skipSpace, List.dropWhile_nil]

/-! What decoders made of others return. -/

theorem stopAt_eq_ok {result : Except Mismatch α} {rest behind : Bytes} {a : α} :
    stopAt result rest = .ok (a, behind) ↔ result = .ok a ∧ rest = behind := by
  cases result <;> simp [stopAt]

theorem opened_eq_ok {budget : Nat} {rest : Bytes} {inside : Nat → Except Fault α} {a : α} :
    opened budget rest inside = .ok a ↔
      ∃ smaller, budget = smaller + 1 ∧ inside smaller = .ok a := by
  cases budget <;> simp [opened]

theorem map_read_eq_ok {α β : Type} {decoder : Decoder α} {f : α → β} {budget : Nat}
    {text rest : Bytes} {b : β} (h : (decoder.map f).read budget text = .ok (b, rest)) :
    ∃ a, decoder.read budget text = .ok (a, rest) ∧ f a = b := by
  obtain ⟨⟨a, behind⟩, hread, hpair⟩ := Outcome.map_eq_ok.mp h
  cases hpair
  exact ⟨a, hread, rfl⟩

theorem map_ofJson_eq_ok {α β : Type} {decoder : Decoder α} {f : α → β} {value : Json} {b : β}
    (h : (decoder.map f).ofJson value = .ok b) :
    ∃ a, decoder.ofJson value = .ok a ∧ f a = b :=
  Outcome.map_eq_ok.mp h

theorem json_read_eq_ok {budget : Nat} {text rest : Bytes} {value : Json}
    (h : Decoder.json.read budget text = .ok (value, rest)) :
    Arranged value ∧ Within budget value := by
  obtain ⟨⟨plain, behind⟩, hread, hpair⟩ := Outcome.map_eq_ok.mp h
  cases hpair
  exact ⟨normal_arranged plain, (readValue_within hread).normal⟩

/-! Records. -/

namespace Record

theorem readMember_taken {record : Record σ α} {state next : σ} {key : String}
    {decoder : Decoder σ} {budget : Nat} {value : Json}
    (hslot : record.slot state key = .taken decoder)
    (hread : ReadsBack (decoder.read budget) value next) (text : Bytes)
    (htext : EndsNumber text) :
    record.readMember budget state key (byte ':' :: (render value ++ text)) =
      .ok (next, text) := by
  simp only [readMember, hslot, readColon_colon, orStop, Outcome.ok_bind, hread text htext]

theorem takes_member {record : Record σ α} {state next : σ} {key : String}
    {decoder : Decoder σ} {budget : Nat} {value : Json}
    (hslot : record.slot state key = .taken decoder)
    (hread : ReadsBack (decoder.read budget) value next) :
    Takes (record.readMember budget) state [(key, value)] next :=
  .cons (readMember_taken hslot hread) (.nil next)

theorem readsBack_object {record : Record σ α} {members : List (String × Json)} {last : σ}
    {a : α} {budget : Nat} (h : Takes (record.readMember budget) record.start members last)
    (hfinish : record.finish last = .ok a) :
    ReadsBack (record.decoder.read (budget + 1)) (.object members) a := by
  intro rest _
  have htext : render (.object members) ++ rest =
      byte '\x7b' :: (joinComma (members.map renderMember) ++ byte '\x7d' :: rest) := by
    simp [render_object]
  have hfold := foldMembers_render h rest (length_le_members members rest)
  rw [htext]
  simp only [decoder, readHead_object, Outcome.ok_bind, opened, readObject, hfold, hfinish,
    stopAt, objectResult, closeObject_brace, Outcome.map_ok]

theorem read_object {record : Record σ α} (hcolumns : record.columns = none) {budget : Nat}
    {text rest : Bytes} {a : α} (h : record.decoder.read budget text = .ok (a, rest)) :
    ∃ smaller inner, budget = smaller + 1 ∧ record.readObject smaller inner = .ok (a, rest) := by
  obtain ⟨head, _, h⟩ := Outcome.bind_eq_ok.mp h
  cases head with
  | scalar found behind => cases h
  | array behind => simp [hcolumns] at h
  | object behind =>
      cases budget with
      | zero => cases h
      | succ smaller => exact ⟨smaller, behind, rfl, h⟩

theorem readObject_keeps {record : Record σ α} {budget : Nat} (keeps : σ → Prop)
    (hstart : keeps record.start)
    (hstep : ∀ state key decoder text next rest, keeps state →
      record.slot state key = .taken decoder → decoder.read budget text = .ok (next, rest) →
        keeps next)
    {text rest : Bytes} {a : α} (h : record.readObject budget text = .ok (a, rest)) :
    ∃ last, keeps last ∧ record.finish last = .ok a := by
  obtain ⟨inner, h, _⟩ := objectResult_eq_ok h
  obtain ⟨⟨last, behind⟩, hfold, h⟩ := Outcome.bind_eq_ok.mp h
  refine ⟨last, ?_, ?_⟩
  · refine foldMembers_keeps keeps (fun state key text next rest hstate hmember => ?_) hfold
      hstart
    unfold readMember at hmember
    split at hmember
    · cases hmember
    · obtain ⟨_, _, hmember⟩ := Outcome.bind_eq_ok.mp hmember
      obtain ⟨_, _, hmember⟩ := Outcome.bind_eq_ok.mp hmember
      cases hmember
      exact hstate
    · rename_i decoder hslot
      obtain ⟨after, _, hmember⟩ := Outcome.bind_eq_ok.mp hmember
      exact hstep state key decoder after next rest hstate hslot (orStop_eq_ok.mp hmember)
  · cases hlast : record.finish last with
    | error mismatch => simp [hlast, stopAt] at h
    | ok b =>
        simp only [hlast, stopAt, Except.ok.injEq, Prod.mk.injEq] at h
        rw [h.1]

theorem takeMembers_keeps {record : Record σ α} (keeps : σ → Prop)
    {members : List (String × Json)}
    (hstep : ∀ state decoder next, ∀ member ∈ members, keeps state →
      record.slot state member.1 = .taken decoder → decoder.ofJson member.2 = .ok next →
        keeps next)
    {state last : σ} (h : members.foldlM record.takeMember state = .ok last)
    (hstate : keeps state) : keeps last := by
  induction members generalizing state with
  | nil =>
      cases h
      exact hstate
  | cons member rest ih =>
      rw [List.foldlM_cons] at h
      obtain ⟨next, hmember, h⟩ := Outcome.bind_eq_ok.mp h
      refine ih (fun state decoder next other hother =>
        hstep state decoder next other (by simp [hother])) h ?_
      unfold takeMember at hmember
      split at hmember
      · cases hmember
      · cases hmember
        exact hstate
      · rename_i decoder hslot
        exact hstep state decoder next member (by simp) hstate hslot hmember

theorem ofJson_object {record : Record σ α} (hcolumns : record.columns = none) {value : Json}
    {a : α} (h : record.decoder.ofJson value = .ok a) :
    ∃ members last, value = .object members ∧
      members.foldlM record.takeMember record.start = .ok last ∧
      record.finish last = .ok a := by
  cases value with
  | object members =>
      obtain ⟨last, hfold, h⟩ := Outcome.bind_eq_ok.mp h
      exact ⟨members, last, rfl, hfold, h⟩
  | array items => simp [decoder, hcolumns] at h
  | null => cases h
  | bool b => cases h
  | number n => cases h
  | string s => cases h

end Record

end ChainArchive.Json
