import ChainArchive.Proofs.Json.Forms

namespace ChainArchive.Json

/-! Without floats, values that pass for the same are the same. -/

theorem sameItems_iff {items others : List Json}
    (h : ∀ item ∈ items, ∀ other, same item other = true ↔ item = other) :
    sameItems items others = true ↔ items = others := by
  induction items generalizing others with
  | nil => cases others <;> simp [sameItems]
  | cons item rest ih =>
      cases others with
      | nil => simp [sameItems]
      | cons other others =>
          have hrest : sameItems rest others = true ↔ rest = others :=
            ih fun next hnext => h next (by simp [hnext])
          simp [sameItems, h item (by simp), hrest]

theorem sameMembers_iff {members others : List (String × Json)}
    (h : ∀ member ∈ members, ∀ other, same member.2 other = true ↔ member.2 = other) :
    sameMembers members others = true ↔ members = others := by
  induction members generalizing others with
  | nil => cases others <;> simp [sameMembers]
  | cons member rest ih =>
      cases others with
      | nil => simp [sameMembers]
      | cons other others =>
          obtain ⟨key, value⟩ := member
          obtain ⟨name, found⟩ := other
          have hrest : sameMembers rest others = true ↔ rest = others :=
            ih fun next hnext => h next (by simp [hnext])
          have hvalue : same value found = true ↔ value = found := h (key, value) (by simp) found
          simp [sameMembers, hvalue, hrest, and_assoc]

theorem same_iff {value : Json} (h : Integral value) (other : Json) :
    same value other = true ↔ value = other := by
  induction h generalizing other with
  | null => cases other <;> simp [same]
  | bool b => cases other <;> simp [same]
  | number n =>
      cases other with
      | number m => cases m <;> simp [same, Number.same]
      | _ => simp [same]
  | string s => cases other <;> simp [same]
  | array inner ih =>
      cases other with
      | array others => simp [same, sameItems_iff ih]
      | _ => simp [same]
  | object inner ih =>
      cases other with
      | object others => simp [same, sameMembers_iff ih]
      | _ => simp [same]

/-! With floats, a value still passes for itself. -/

theorem sameItems_self {items : List Json} (h : ∀ item ∈ items, same item item = true) :
    sameItems items items = true := by
  induction items with
  | nil => rfl
  | cons item rest ih =>
      have hrest := ih fun next hnext => h next (by simp [hnext])
      simp [sameItems, h item (by simp), hrest]

theorem sameMembers_self {members : List (String × Json)}
    (h : ∀ member ∈ members, same member.2 member.2 = true) :
    sameMembers members members = true := by
  induction members with
  | nil => rfl
  | cons member rest ih =>
      obtain ⟨key, value⟩ := member
      have hrest := ih fun next hnext => h next (by simp [hnext])
      have hvalue : same value value = true := h (key, value) (by simp)
      simp [sameMembers, hvalue, hrest]

theorem same_self (value : Json) : same value value = true := by
  induction value using inside with
  | null | bool | string => simp [same]
  | number x => cases x <;> simp [same, Number.same]
  | array items ih => rw [same, sameItems_self ih]
  | object members ih => rw [same, sameMembers_self ih]

end ChainArchive.Json
