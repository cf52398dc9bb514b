import ChainArchive.Proofs.Json.Passing

namespace ChainArchive.Json

open Bytes

/-! Whatever is passed over is a value. -/

theorem skipString_sound {text rest : Bytes} (h : skipString text = .ok rest) :
    PassesChars text rest := by
  -- Of all branches these four go on or close; the others are failures.
  fun_induction skipString text with
  | case2 =>
      cases h
      exact .close _
  | case4 h₁ h₂ h₃ h₄ behind hunit _ ih =>
      obtain ⟨unit, hunit⟩ := Option.isSome_iff_exists.mp hunit
      exact .unit hunit (ih h)
  | case7 e behind he hshort _ ih =>
      obtain ⟨c, hshort⟩ := Option.isSome_iff_exists.mp hshort
      exact .short he hshort (ih h)
  | case10 b behind hquote hslash hplain ih => exact .plain hquote hslash hplain (ih h)
  | _ => cases h

/-! Numbers. -/

theorem skipDigits_sound {text rest : Bytes} (h : skipDigits text = some rest) :
    ∃ digits, digits ≠ [] ∧ Digits digits ∧ text = digits ++ rest := by
  unfold skipDigits at h
  split at h
  · cases h
  · rename_i b behind
    split at h
    · rename_i hb
      cases h
      obtain ⟨digits, hdigits, hbehind⟩ := dropDigits_sound behind
      refine ⟨b :: digits, by simp, List.forall_mem_cons.mpr ⟨hb, hdigits⟩, ?_⟩
      rw [List.cons_append, ← hbehind]
    · cases h

theorem skipExponent_sound {text rest : Bytes} (h : skipExponent text = .ok rest) :
    ∃ sign digits, (sign = [] ∨ sign = [byte '-'] ∨ sign = [byte '+']) ∧ digits ≠ [] ∧
      Digits digits ∧ text = sign ++ digits ++ rest := by
  unfold skipExponent at h
  cases hsign : readSign text with
  | mk down behind =>
      obtain ⟨sign, hform, rfl⟩ := readSign_sound hsign
      simp only [hsign] at h
      split at h
      · rename_i left hleft
        cases h
        obtain ⟨digits, hne, hdigits, rfl⟩ := skipDigits_sound hleft
        exact ⟨sign, digits, hform, hne, hdigits, by rw [List.append_assoc]⟩
      · cases h

theorem skipScale_sound {text rest : Bytes} (h : skipScale text = .ok rest) :
    ∃ scale, Scale scale ∧ text = scale ++ rest := by
  unfold skipScale at h
  split at h
  · cases h
    exact ⟨[], .none, rfl⟩
  · split at h
    · rename_i hletter
      obtain ⟨sign, digits, hsign, hne, hdigits, rfl⟩ := skipExponent_sound h
      exact ⟨_, .power hletter hsign hne hdigits, by simp⟩
    · cases h
      exact ⟨[], .none, rfl⟩

theorem skipAfterWhole_sound {text rest : Bytes} (h : skipAfterWhole text = .ok rest) :
    ∃ places, Places places ∧ text = places ++ rest := by
  unfold skipAfterWhole at h
  split at h
  · cases h
    exact ⟨[], .scale .none, rfl⟩
  · split at h
    · rename_i hpoint
      unfold skipFraction at h
      split at h
      · rename_i left hleft
        obtain ⟨digits, hne, hdigits, rfl⟩ := skipDigits_sound hleft
        obtain ⟨scale, hscale, rfl⟩ := skipScale_sound h
        exact ⟨_, .fraction hne hdigits hscale, by simp [hpoint]⟩
      · cases h
    · obtain ⟨scale, hscale, htext⟩ := skipScale_sound h
      exact ⟨scale, .scale hscale, htext⟩

theorem skipNumber_sound {text rest : Bytes} (h : skipNumber text = .ok rest) :
    ∃ whole places, Whole whole ∧ Places places ∧ text = whole ++ (places ++ rest) := by
  unfold skipNumber at h
  split at h
  · cases h
  · rename_i b behind
    split at h
    · rename_i hzero
      split at h
      · cases h
      · obtain ⟨places, hplaces, rfl⟩ := skipAfterWhole_sound h
        exact ⟨_, places, .zero, hplaces, by rw [hzero, List.singleton_append]⟩
    · rename_i hzero
      split at h
      · rename_i hb
        obtain ⟨digits, hdigits, hbehind⟩ := dropDigits_sound behind
        obtain ⟨places, hplaces, hdrop⟩ := skipAfterWhole_sound h
        refine ⟨b :: digits, places, .digits hb hzero hdigits, hplaces, ?_⟩
        rw [List.cons_append, ← hdrop, ← hbehind]
      · cases h

theorem skipNumber_passes {text rest : Bytes} (h : skipNumber text = .ok rest) :
    Passes text rest ∧ Passes (byte '-' :: text) rest := by
  obtain ⟨whole, places, hwhole, hplaces, rfl⟩ := skipNumber_sound h
  have hplain := Passes.number ⟨false, whole, places, hwhole, hplaces⟩ rest
  have hminus := Passes.number ⟨true, whole, places, hwhole, hplaces⟩ rest
  simp only [Numeral.text, Numeral.sign, Bool.false_eq_true, if_false, if_true, List.nil_append,
    List.cons_append, List.append_assoc] at hplain hminus
  exact ⟨hplain, hminus⟩

/-! Values. -/

def PassesBehind (text rest : Bytes) : Prop :=
  ∃ gap inner, text = gap ++ inner ∧ Blank gap ∧ Passes inner rest

theorem skipKey_sound {text rest : Bytes} (h : skipKey text = .ok rest) :
    ∃ gap inner after, text = gap ++ byte '"' :: inner ∧ Blank gap ∧ PassesChars inner after ∧
      Colon after rest := by
  obtain ⟨gap, hgap, htext⟩ := exists_gap text
  unfold skipKey at h
  split at h
  · cases h
  · rename_i b inner hskip
    rw [hskip] at htext
    split at h
    · rename_i hquote
      obtain ⟨after, hname, hcolon⟩ := Outcome.bind_eq_ok.mp h
      rw [hquote] at htext
      exact ⟨gap, inner, after, htext, hgap, skipString_sound hname, readColon_sound hcolon⟩
    · cases h

theorem PassesMembers.of_key {first : Bool} {text member rest after behind : Bytes}
    (lead : Lead first text member) (hkey : skipKey member = .ok after)
    (h : PassesBehind after behind) (more : PassesMembers false behind rest) :
    PassesMembers first text rest := by
  obtain ⟨gap, inner, colon, rfl, hgap, hname, hcolon⟩ := skipKey_sound hkey
  obtain ⟨space, value, rfl, hspace, hvalue⟩ := h
  exact .member (lead.behind hgap) hname (hcolon.behind hspace) hvalue more

theorem PassesItems.of_value {first : Bool} {text item rest behind : Bytes}
    (lead : Lead first text item) (h : PassesBehind item behind)
    (more : PassesItems false behind rest) : PassesItems first text rest := by
  obtain ⟨gap, inner, rfl, hgap, hvalue⟩ := h
  exact .item (lead.behind hgap) hvalue more

mutual

theorem skipValue_sound {rest : Bytes} : ∀ {fuel : Nat} {text : Bytes},
    skipValue fuel text = .ok rest → PassesBehind text rest
  | fuel + 1, text, h => by
      obtain ⟨gap, hgap, htext⟩ := exists_gap text
      unfold skipValue at h
      split at h
      · cases h
      · rename_i b behind hskip
        rw [hskip] at htext
        refine ⟨gap, b :: behind, htext, hgap, ?_⟩
        split at h
        · rename_i hb
          rw [hb, readWord_sound h]
          exact .null rest
        split at h
        · rename_i hb
          rw [hb, readWord_sound h]
          exact .bool true rest
        split at h
        · rename_i hb
          rw [hb, readWord_sound h]
          exact .bool false rest
        split at h
        · rename_i hb
          rw [hb]
          exact (skipNumber_passes h).2
        split at h
        · exact (skipNumber_passes h).1
        split at h
        · rename_i hb
          rw [hb]
          exact .string (skipString_sound h)
        split at h
        · rename_i hb
          rw [hb]
          exact .array (skipItems_sound h)
        split at h
        · rename_i hb
          rw [hb]
          exact .object (skipMembers_sound h)
        · cases h

theorem skipItems_sound {rest : Bytes} : ∀ {fuel : Nat} {text : Bytes},
    skipItems fuel text = .ok rest → PassesItems true text rest
  | fuel + 1, text, h => by
      obtain ⟨gap, hgap, htext⟩ := exists_gap text
      unfold skipItems at h
      split at h
      · cases h
      · rename_i b behind hskip
        rw [htext, hskip]
        split at h
        · rename_i hb
          cases h
          rw [hb]
          exact .close hgap _
        · obtain ⟨left, hvalue, hmore⟩ := Outcome.bind_eq_ok.mp h
          exact .of_value (.first hgap) (skipValue_sound hvalue) (skipMoreItems_sound hmore)

theorem skipMoreItems_sound {rest : Bytes} : ∀ {fuel : Nat} {text : Bytes},
    skipMoreItems fuel text = .ok rest → PassesItems false text rest
  | fuel + 1, text, h => by
      obtain ⟨gap, hgap, htext⟩ := exists_gap text
      unfold skipMoreItems at h
      split at h
      · cases h
      · rename_i b behind hskip
        rw [htext, hskip]
        split at h
        · rename_i hb
          cases h
          rw [hb]
          exact .close hgap _
        split at h
        · rename_i hcomma
          obtain ⟨left, hvalue, hmore⟩ := Outcome.bind_eq_ok.mp h
          rw [hcomma]
          exact .of_value (.comma hgap blank_nil) (skipValue_sound hvalue)
            (skipMoreItems_sound hmore)
        · cases h

theorem skipMembers_sound {rest : Bytes} : ∀ {fuel : Nat} {text : Bytes},
    skipMembers fuel text = .ok rest → PassesMembers true text rest
  | fuel + 1, text, h => by
      obtain ⟨gap, hgap, htext⟩ := exists_gap text
      unfold skipMembers at h
      split at h
      · cases h
      · rename_i b behind hskip
        rw [htext, hskip]
        split at h
        · rename_i hb
          cases h
          rw [hb]
          exact .close hgap _
        · obtain ⟨after, hkey, h⟩ := Outcome.bind_eq_ok.mp h
          obtain ⟨left, hvalue, hmore⟩ := Outcome.bind_eq_ok.mp h
          exact .of_key (.first hgap) hkey (skipValue_sound hvalue) (skipMoreMembers_sound hmore)

theorem skipMoreMembers_sound {rest : Bytes} : ∀ {fuel : Nat} {text : Bytes},
    skipMoreMembers fuel text = .ok rest → PassesMembers false text rest
  | fuel + 1, text, h => by
      obtain ⟨gap, hgap, htext⟩ := exists_gap text
      unfold skipMoreMembers at h
      split at h
      · cases h
      · rename_i b behind hskip
        rw [htext, hskip]
        split at h
        · rename_i hb
          cases h
          rw [hb]
          exact .close hgap _
        split at h
        · rename_i hcomma
          obtain ⟨after, hkey, h⟩ := Outcome.bind_eq_ok.mp h
          obtain ⟨left, hvalue, hmore⟩ := Outcome.bind_eq_ok.mp h
          rw [hcomma]
          exact .of_key (.comma hgap blank_nil) hkey (skipValue_sound hvalue)
            (skipMoreMembers_sound hmore)
        · cases h

end

theorem skip_sound {text rest : Bytes} (h : skip text = .ok rest) : PassesBehind text rest :=
  skipValue_sound h

end ChainArchive.Json
