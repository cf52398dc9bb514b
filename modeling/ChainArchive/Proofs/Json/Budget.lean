import ChainArchive.Proofs.Except
import ChainArchive.Proofs.Json.Forms

namespace ChainArchive.Json

/-! What holds of a state after the members of a container have been read, when every
step keeps it. -/

theorem orStop_eq_ok {result : Except Fault α} {a : α} :
    orStop result = .ok a ↔ result = .ok a := by
  cases result with
  | error fault => simp [orStop]
  | ok b => simp [orStop]

theorem arrayResult_eq_ok {α : Type} {result : Except Stop (α × Bytes)} {a : α} {rest : Bytes}
    (h : arrayResult result = .ok (a, rest)) :
    ∃ inner, result = .ok (a, inner) ∧ closeArray inner = .ok rest := by
  cases result with
  | error stop => cases stop <;> simp [arrayResult] at h
  | ok read =>
      obtain ⟨b, inner⟩ := read
      have hmap : (closeArray inner).map (b, ·) = .ok (a, rest) := h
      obtain ⟨closed, hclose, hpair⟩ := Outcome.map_eq_ok.mp hmap
      cases hpair
      exact ⟨inner, rfl, hclose⟩

theorem objectResult_eq_ok {α : Type} {result : Except Stop (α × Bytes)} {a : α} {rest : Bytes}
    (h : objectResult result = .ok (a, rest)) :
    ∃ inner, result = .ok (a, inner) ∧ closeObject inner = .ok rest := by
  cases result with
  | error stop => cases stop <;> simp [objectResult] at h
  | ok read =>
      obtain ⟨b, inner⟩ := read
      have hmap : (closeObject inner).map (b, ·) = .ok (a, rest) := h
      obtain ⟨closed, hclose, hpair⟩ := Outcome.map_eq_ok.mp hmap
      cases hpair
      exact ⟨inner, rfl, hclose⟩

theorem foldElements_keeps {step : σ → Bytes → Except Stop (σ × Bytes)} (keeps : σ → Prop)
    (hstep : ∀ state text next rest, keeps state → step state text = .ok (next, rest) →
      keeps next)
    {fuel : Nat} {first : Bool} {state last : σ} {text rest : Bytes}
    (h : foldElements step fuel first state text = .ok (last, rest)) (hstate : keeps state) :
    keeps last := by
  induction fuel generalizing first state text with
  | zero =>
      cases h
      exact hstate
  | succ fuel ih =>
      rw [foldElements] at h
      obtain ⟨⟨more, inner⟩, _, h⟩ := Outcome.bind_eq_ok.mp h
      cases more with
      | false =>
          cases h
          exact hstate
      | true =>
          obtain ⟨⟨next, behind⟩, hread, h⟩ := Outcome.bind_eq_ok.mp h
          exact ih h (hstep state inner next behind hstate hread)

theorem foldMembers_keeps {step : σ → String → Bytes → Except Stop (σ × Bytes)}
    (keeps : σ → Prop)
    (hstep : ∀ state key text next rest, keeps state →
      step state key text = .ok (next, rest) → keeps next)
    {fuel : Nat} {first : Bool} {state last : σ} {text rest : Bytes}
    (h : foldMembers step fuel first state text = .ok (last, rest)) (hstate : keeps state) :
    keeps last := by
  induction fuel generalizing first state text with
  | zero =>
      cases h
      exact hstate
  | succ fuel ih =>
      rw [foldMembers] at h
      obtain ⟨⟨key?, inner⟩, _, h⟩ := Outcome.bind_eq_ok.mp h
      cases key? with
      | none =>
          cases h
          exact hstate
      | some key =>
          obtain ⟨⟨next, behind⟩, hread, h⟩ := Outcome.bind_eq_ok.mp h
          exact ih h (hstep state key inner next behind hstate hread)

/-! Reading within a budget. -/

theorem addElement_eq_ok {read : Bytes → Except Fault (Json × Bytes)} {items next : List Json}
    {text rest : Bytes} (h : addElement read items text = .ok (next, rest)) :
    ∃ item, read text = .ok (item, rest) ∧ next = item :: items := by
  obtain ⟨⟨item, behind⟩, hread, h⟩ := Outcome.bind_eq_ok.mp h
  cases h
  exact ⟨item, orStop_eq_ok.mp hread, rfl⟩

theorem addMember_eq_ok {read : Bytes → Except Fault (Json × Bytes)}
    {members next : List (String × Json)} {key : String} {text rest : Bytes}
    (h : addMember read members key text = .ok (next, rest)) :
    ∃ value inner, read inner = .ok (value, rest) ∧ next = (key, value) :: members := by
  obtain ⟨inner, _, h⟩ := Outcome.bind_eq_ok.mp h
  obtain ⟨⟨value, behind⟩, hread, h⟩ := Outcome.bind_eq_ok.mp h
  cases h
  exact ⟨value, inner, orStop_eq_ok.mp hread, rfl⟩

theorem Scalar.within (value : Scalar) (budget : Nat) : Within budget value.toJson := by
  cases value with
  | null => exact .null
  | bool b => exact .bool b
  | number n => exact .number n
  | string s => exact .string s

theorem readValue_within {budget : Nat} {text rest : Bytes} {value : Json}
    (h : readValue budget text = .ok (value, rest)) : Within budget value := by
  induction budget generalizing text rest value with
  | zero =>
      obtain ⟨head, _, h⟩ := Outcome.bind_eq_ok.mp h
      cases head with
      | scalar found behind =>
          cases h
          exact found.within 0
      | array behind => cases h
      | object behind => cases h
  | succ budget ih =>
      obtain ⟨head, _, h⟩ := Outcome.bind_eq_ok.mp h
      cases head with
      | scalar found behind =>
          cases h
          exact found.within _
      | array behind =>
          obtain ⟨⟨items, after⟩, hread, h⟩ := Outcome.bind_eq_ok.mp h
          cases h
          obtain ⟨inner, hfold, _⟩ := arrayResult_eq_ok hread
          have hitems : ∀ item ∈ items, Within budget item := by
            refine foldElements_keeps (fun items => ∀ item ∈ items, Within budget item)
              (fun state text next rest hstate hstep => ?_) hfold
              (List.forall_mem_nil _)
            obtain ⟨item, hitem, rfl⟩ := addElement_eq_ok hstep
            exact List.forall_mem_cons.mpr ⟨ih hitem, hstate⟩
          exact .array fun item hitem => hitems item (List.mem_reverse.mp hitem)
      | object behind =>
          obtain ⟨⟨members, after⟩, hread, h⟩ := Outcome.bind_eq_ok.mp h
          cases h
          obtain ⟨inner, hfold, _⟩ := objectResult_eq_ok hread
          have hmembers : ∀ member ∈ members, Within budget member.2 := by
            refine foldMembers_keeps
              (fun members => ∀ member ∈ members, Within budget member.2)
              (fun state key text next rest hstate hstep => ?_) hfold
              (List.forall_mem_nil _)
            obtain ⟨value, inner, hvalue, rfl⟩ := addMember_eq_ok hstep
            exact List.forall_mem_cons.mpr ⟨ih hvalue, hstate⟩
          exact .object fun member hmember =>
            hmembers member (List.mem_reverse.mp hmember)

end ChainArchive.Json
