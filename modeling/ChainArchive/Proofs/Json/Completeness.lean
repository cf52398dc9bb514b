import ChainArchive.Proofs.Json.Faithful

namespace ChainArchive.Json

open Bytes

/-! What a decoder makes of a value it makes of every text that is read as that value. -/

def Decoder.Complete (decoder : Decoder α) : Prop :=
  ∀ ⦃budget : Nat⦄ ⦃text rest : Bytes⦄ ⦃value : Json⦄ ⦃a : α⦄,
    readValue budget text = .ok (value, rest) → decoder.ofJson value = .ok a →
      decoder.read budget text = .ok (a, rest)

theorem readValue_cases {budget : Nat} {text rest : Bytes} {value : Json}
    (h : readValue budget text = .ok (value, rest)) :
    (∃ found, readHead text = .ok (.scalar found rest) ∧ value = found.toJson) ∨
    (∃ items, value = .array items) ∨
    ∃ members smaller inner, value = .object members ∧ budget = smaller + 1 ∧
      readHead text = .ok (.object inner) ∧
      readMembers (addMember (readValue smaller)) [] inner = .ok (members.reverse, rest) := by
  cases budget with
  | zero =>
      obtain ⟨head, hhead, h⟩ := Outcome.bind_eq_ok.mp h
      cases head with
      | scalar found behind =>
          cases h
          exact .inl ⟨found, hhead, rfl⟩
      | array behind => cases h
      | object behind => cases h
  | succ smaller =>
      obtain ⟨head, hhead, h⟩ := Outcome.bind_eq_ok.mp h
      cases head with
      | scalar found behind =>
          cases h
          exact .inl ⟨found, hhead, rfl⟩
      | array behind =>
          obtain ⟨⟨items, after⟩, -, h⟩ := Outcome.bind_eq_ok.mp h
          cases h
          exact .inr (.inl ⟨items.reverse, rfl⟩)
      | object behind =>
          obtain ⟨⟨found, after⟩, hread, h⟩ := Outcome.bind_eq_ok.mp h
          cases h
          refine .inr (.inr ⟨found.reverse, smaller, behind, rfl, rfl, hhead, ?_⟩)
          rwa [List.reverse_reverse]

theorem readHead_of_scalar {budget : Nat} {text rest : Bytes} {value : Json} {found : Scalar}
    (h : readValue budget text = .ok (value, rest)) (hfound : Scalar.ofJson? value = some found) :
    readHead text = .ok (.scalar found rest) := by
  rcases readValue_cases h with
    ⟨other, hhead, rfl⟩ | ⟨items, rfl⟩ | ⟨members, smaller, inner, rfl, -⟩
  · rw [Scalar.ofJson?_toJson] at hfound
    cases hfound
    exact hhead
  · cases hfound
  · cases hfound

theorem readHead_null_sound {text rest : Bytes} (h : readHead text = .ok (.scalar .null rest)) :
    ∃ more, skipSpace text = byte 'n' :: more ∧ readWord (ofString "ull") more = .ok rest := by
  unfold readHead at h
  split at h
  · cases h
  rename_i b more hskip
  split at h
  · rename_i hb
    obtain ⟨behind, hword, h⟩ := Outcome.bind_eq_ok.mp h
    cases h
    exact ⟨more, hb ▸ hskip, hword⟩
  -- no other word, number or string is null
  · iterate 5
      split at h
      · obtain ⟨read, -, h⟩ := Outcome.bind_eq_ok.mp h
        cases h
    split at h
    · cases h
    · split at h <;> cases h

theorem readValue_n {budget : Nat} {more rest : Bytes} {value : Json}
    (h : readValue budget (byte 'n' :: more) = .ok (value, rest)) : value = .null := by
  cases budget <;>
  · obtain ⟨head, hhead, h⟩ := Outcome.bind_eq_ok.mp h
    obtain ⟨behind, -, hhead⟩ := Outcome.bind_eq_ok.mp hhead
    cases hhead
    cases h
    rfl

namespace Decoder

theorem Complete.map {decoder : Decoder α} (h : decoder.Complete) (f : α → β) :
    (decoder.map f).Complete := by
  intro budget text rest value b hvalue hb
  obtain ⟨a, ha, rfl⟩ := Outcome.map_eq_ok.mp hb
  exact Outcome.map_eq_ok.mpr ⟨(a, rest), h hvalue ha, rfl⟩

theorem json_complete : Decoder.json.Complete := by
  intro budget text rest value a hvalue ha
  cases ha
  exact Outcome.map_eq_ok.mpr ⟨(value, rest), hvalue, rfl⟩

theorem scalar_complete (opens : Bool) (expected : String)
    (accept : Scalar → Except Mismatch α) : (scalar opens expected accept).Complete := by
  intro budget text rest value a hvalue ha
  simp only [scalar] at ha ⊢
  cases hfound : Scalar.ofJson? value with
  | none => simp [hfound] at ha
  | some found =>
      rw [hfound] at ha
      rw [readHead_of_scalar hvalue hfound]
      simp only [Outcome.ok_bind, placed, ha]

theorem option_complete {decoder : Decoder α} (h : decoder.Complete) :
    (option decoder).Complete := by
  intro budget text rest value found hvalue hfound
  by_cases hnull : value = .null
  · subst hnull
    cases hfound
    obtain ⟨more, hskip, hword⟩ := readHead_null_sound (readHead_of_scalar hvalue rfl)
    simp only [option, hskip, if_true, hword]
    rfl
  · have hsome : (decoder.ofJson value).map some = .ok found := by
      cases value with
      | null => exact absurd rfl hnull
      | _ => exact hfound
    obtain ⟨a, ha, rfl⟩ := Outcome.map_eq_ok.mp hsome
    rw [← readValue_skipSpace] at hvalue
    have hread := h hvalue ha
    cases hskip : skipSpace text with
    | nil =>
        rw [hskip] at hvalue
        cases budget <;> cases hvalue
    | cons b more =>
        rw [hskip] at hvalue hread
        have hb : b ≠ byte 'n' := by
          rintro rfl
          exact hnull (readValue_n hvalue)
        simp only [option, hskip, if_neg hb, hread, Outcome.map_ok]

end Decoder

namespace Record

structure Complete (record : Record σ α) : Prop where
  columns : record.columns = none
  slot : ∀ state key decoder, record.slot state key = .taken decoder → decoder.Complete
  takes : ∀ state key, record.slot state key ≠ .ignored

variable {record : Record σ α}

theorem Complete.readMember (h : record.Complete) {budget : Nat} {state next : σ}
    {done : List (String × Json)} {key : String} {value : Json} {text rest : Bytes}
    (hadd : addMember (readValue budget) done key text = .ok ((key, value) :: done, rest))
    (htake : record.takeMember state (key, value) = .ok next) :
    record.readMember budget state key text = .ok (next, rest) := by
  obtain ⟨after, hcolon, hadd⟩ := Outcome.bind_eq_ok.mp hadd
  obtain ⟨⟨_, behind⟩, hvalue, hpair⟩ := Outcome.bind_eq_ok.mp hadd
  cases hpair
  unfold takeMember at htake
  unfold Record.readMember
  dsimp only at htake
  cases hslot : record.slot state key with
  | ignored => exact absurd hslot (h.takes state key)
  | refused mismatch => simp [hslot] at htake
  | taken decoder =>
      rw [hslot] at htake
      have hread := h.slot state key decoder hslot (orStop_eq_ok.mp hvalue) htake
      simp only [hcolon, Outcome.ok_bind]
      exact orStop_eq_ok.mpr hread

theorem Complete.foldMembers (h : record.Complete) {budget fuel : Nat} {first : Bool}
    {done found : List (String × Json)} {text rest : Bytes}
    (hfold : Json.foldMembers (addMember (readValue budget)) fuel first done text =
      .ok (found, rest)) :
    ∃ members : List (String × Json), found = members.reverse ++ done ∧
      ∀ {state last : σ}, members.foldlM record.takeMember state = .ok last →
        Json.foldMembers (record.readMember budget) fuel first state text = .ok (last, rest) := by
  induction fuel generalizing first done text with
  | zero =>
      cases hfold
      refine ⟨[], rfl, fun htaken => ?_⟩
      cases htaken
      rfl
  | succ fuel ih =>
      rw [Json.foldMembers] at hfold
      obtain ⟨⟨named, inner⟩, hnext, hfold⟩ := Outcome.bind_eq_ok.mp hfold
      cases named with
      | none =>
          cases hfold
          refine ⟨[], rfl, fun htaken => ?_⟩
          cases htaken
          rw [Json.foldMembers, hnext]
          rfl
      | some key =>
          obtain ⟨⟨more, behind⟩, hadd, hfold⟩ := Outcome.bind_eq_ok.mp hfold
          obtain ⟨members, rfl, hrest⟩ := ih hfold
          obtain ⟨after, hcolon, hvalue⟩ := Outcome.bind_eq_ok.mp hadd
          obtain ⟨⟨value, _⟩, -, hpair⟩ := Outcome.bind_eq_ok.mp hvalue
          cases hpair
          refine ⟨(key, value) :: members, by simp, fun {state last} htaken => ?_⟩
          rw [List.foldlM_cons] at htaken
          obtain ⟨next, htake, htaken⟩ := Outcome.bind_eq_ok.mp htaken
          rw [Json.foldMembers, hnext, Outcome.ok_bind]
          simp only [h.readMember hadd htake, Outcome.ok_bind, hrest htaken]

theorem Complete.decoder (h : record.Complete) : record.decoder.Complete := by
  intro budget text rest value a hvalue ha
  obtain ⟨members, last, rfl, htaken, hfinish⟩ := ofJson_object h.columns ha
  rcases readValue_cases hvalue with
    ⟨found, -, hfound⟩ | ⟨items, hitems⟩ | ⟨found, smaller, inner, hfound, rfl, hhead, hread⟩
  · cases found <;> cases hfound
  · cases hitems
  · cases hfound
    obtain ⟨inside, hfold, hclose⟩ := objectResult_eq_ok hread
    obtain ⟨found, hreverse, hrest⟩ := h.foldMembers hfold
    obtain rfl : members = found := by simpa using hreverse
    simp only [Record.decoder, hhead, Outcome.ok_bind, opened, readObject, hrest htaken, hfinish,
      stopAt, objectResult, hclose, Outcome.map_ok]

end Record

theorem Tree.eq_null_of_read? {budget : Nat} {tree : Tree}
    (h : tree.read? budget = some .null) : tree = .null := by
  cases tree with
  | null => rfl
  | bool b | string s | number n => simp [Tree.read?] at h
  | array items | object members => cases budget <;> simp [Tree.read?] at h

namespace Decoder

def Reads (decoder : Decoder α) (budget : Nat) (tree : Tree) (a : α) : Prop :=
  ∃ value, tree.read? budget = some value ∧ decoder.ofJson value = .ok a

theorem scalar_reads_string {opens : Bool} {expected : String}
    {accept : Scalar → Except Mismatch α} {budget : Nat} {s : String} {a : α} :
    (scalar opens expected accept).Reads budget (.string s) a ↔ accept (.string s) = .ok a := by
  simp [Reads, Tree.read?, scalar, Scalar.ofJson?]

theorem scalar_reads_number {opens : Bool} {expected : String}
    {accept : Scalar → Except Mismatch α} {budget : Nat} {n : Numeral} {a : α} :
    (scalar opens expected accept).Reads budget (.number n) a ↔
      ∃ x, n.number? = some x ∧ accept (.number x) = .ok a := by
  rw [Reads, Tree.read?]
  constructor
  · rintro ⟨value, hread, ha⟩
    obtain ⟨x, hx, rfl⟩ := Option.map_eq_some_iff.mp hread
    exact ⟨x, hx, ha⟩
  · rintro ⟨x, hx, ha⟩
    exact ⟨.number x, by rw [hx, Option.map_some], ha⟩

theorem option_reads_null {decoder : Decoder α} {budget : Nat} {found : Option α} :
    (option decoder).Reads budget .null found ↔ found = none := by
  simp [Reads, Tree.read?, option, eq_comm]

theorem option_reads {decoder : Decoder α} {budget : Nat} {tree : Tree} (h : tree ≠ .null)
    {found : Option α} :
    (option decoder).Reads budget tree found ↔
      ∃ a, found = some a ∧ decoder.Reads budget tree a := by
  have hvalue : ∀ value, tree.read? budget = some value →
      (option decoder).ofJson value = (decoder.ofJson value).map some := by
    rintro value hread
    cases value with
    | null => exact absurd (Tree.eq_null_of_read? hread) h
    | _ => rfl
  constructor
  · rintro ⟨value, hread, hfound⟩
    rw [hvalue value hread] at hfound
    obtain ⟨a, ha, rfl⟩ := Outcome.map_eq_ok.mp hfound
    exact ⟨a, rfl, value, hread, ha⟩
  · rintro ⟨a, rfl, value, hread, ha⟩
    exact ⟨value, hread, by rw [hvalue value hread, ha, Outcome.map_ok]⟩

end Decoder

end ChainArchive.Json
