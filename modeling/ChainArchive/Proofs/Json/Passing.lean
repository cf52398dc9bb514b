import ChainArchive.Json.Skip
import ChainArchive.Proofs.Json.Reading

namespace ChainArchive.Json

open Bytes

/-! Values that nobody asks for: whatever their depth, their numbers and their pairing of
surrogates, they are passed over to where they end. -/

inductive PassesChars : Bytes → Bytes → Prop where
  | close (rest : Bytes) : PassesChars (byte '"' :: rest) rest
  | plain {b : UInt8} {text rest : Bytes} (hquote : b ≠ byte '"') (hslash : b ≠ byte '\\')
      (hplain : ¬ b < 32) (h : PassesChars text rest) : PassesChars (b :: text) rest
  | short {e c : UInt8} {text rest : Bytes} (he : e ≠ byte 'u') (hshort : shortEscape? e = some c)
      (h : PassesChars text rest) : PassesChars (byte '\\' :: e :: text) rest
  | unit {h₁ h₂ h₃ h₄ : UInt8} {unit : Nat} {text rest : Bytes}
      (hunit : hexUnit? h₁ h₂ h₃ h₄ = some unit) (h : PassesChars text rest) :
      PassesChars (byte '\\' :: byte 'u' :: h₁ :: h₂ :: h₃ :: h₄ :: text) rest

mutual

inductive Passes : Bytes → Bytes → Prop where
  | null (rest : Bytes) : Passes (ofString "null" ++ rest) rest
  | bool (b : Bool) (rest : Bytes) : Passes (ofString (toString b) ++ rest) rest
  | number (n : Numeral) (rest : Bytes) : Passes (n.text ++ rest) rest
  | string {text rest : Bytes} (h : PassesChars text rest) : Passes (byte '"' :: text) rest
  | array {text rest : Bytes} (h : PassesItems true text rest) : Passes (byte '[' :: text) rest
  | object {text rest : Bytes} (h : PassesMembers true text rest) :
      Passes (byte '\x7b' :: text) rest

inductive PassesItems : Bool → Bytes → Bytes → Prop where
  | close {first : Bool} {gap : Bytes} (h : Blank gap) (rest : Bytes) :
      PassesItems first (gap ++ byte ']' :: rest) rest
  | item {first : Bool} {text inner behind rest : Bytes} (lead : Lead first text inner)
      (h : Passes inner behind) (more : PassesItems false behind rest) :
      PassesItems first text rest

inductive PassesMembers : Bool → Bytes → Bytes → Prop where
  | close {first : Bool} {gap : Bytes} (h : Blank gap) (rest : Bytes) :
      PassesMembers first (gap ++ byte '\x7d' :: rest) rest
  | member {first : Bool} {text inner after value behind rest : Bytes}
      (lead : Lead first text (byte '"' :: inner)) (hname : PassesChars inner after)
      (colon : Colon after value) (h : Passes value behind)
      (more : PassesMembers false behind rest) : PassesMembers first text rest

end

/-! Every value that is spelled is one of them. -/

theorem SpellsChars.passes {text bytes rest : Bytes} (h : SpellsChars text bytes rest) :
    PassesChars text rest := by
  induction h with
  | close rest => exact .close rest
  | plain hquote hslash hplain _ ih => exact .plain hquote hslash hplain ih
  | short he hshort _ ih => exact .short he hshort ih
  | unit hunit _ _ _ ih => exact .unit hunit ih
  | pair hunit _ _ hnext _ _ ih => exact .unit hunit (.unit hnext ih)

mutual

theorem Spells.passes {text rest : Bytes} {tree : Tree} :
    Spells text tree rest → Passes text rest
  | .null rest => .null rest
  | .bool b rest => .bool b rest
  | .number n rest => .number n rest
  | .string h => .string h.passes
  | .array h => .array h.passes
  | .object h => .object h.passes

theorem SpellsItems.passes {first : Bool} {text rest : Bytes} {items : List Tree} :
    SpellsItems first text items rest → PassesItems first text rest
  | .close hgap rest => .close hgap rest
  | .item lead h more => .item lead h.passes more.passes

theorem SpellsMembers.passes {first : Bool} {text rest : Bytes}
    {members : List (String × Tree)} :
    SpellsMembers first text members rest → PassesMembers first text rest
  | .close hgap rest => .close hgap rest
  | .member lead hname colon h more => .member lead hname.passes colon h.passes more.passes

end

/-! What they begin and end with, and how much they leave. -/

theorem PassesChars.length_lt {text rest : Bytes} (h : PassesChars text rest) :
    rest.length < text.length := by
  induction h with
  | close => simp
  | plain _ _ _ _ ih => simp; omega
  | short _ _ _ ih => simp; omega
  | unit _ _ ih => simp; omega

mutual

theorem Passes.length_lt {text rest : Bytes} : Passes text rest → rest.length < text.length
  | .null rest => (Spells.null rest).length_lt
  | .bool b rest => (Spells.bool b rest).length_lt
  | .number n rest => (Spells.number n rest).length_lt
  | .string h => Nat.lt_succ_of_lt h.length_lt
  | .array h => Nat.lt_succ_of_lt h.length_lt
  | .object h => Nat.lt_succ_of_lt h.length_lt

theorem PassesItems.length_lt {first : Bool} {text rest : Bytes} :
    PassesItems first text rest → rest.length < text.length
  | .close _ rest => by simp; omega
  | .item lead h more => by
      have hinner := lead.length_le
      have hvalue := h.length_lt
      have hmore := more.length_lt
      omega

theorem PassesMembers.length_lt {first : Bool} {text rest : Bytes} :
    PassesMembers first text rest → rest.length < text.length
  | .close _ rest => by simp; omega
  | .member lead hname colon h more => by
      have hafter := lead.name_length_lt hname.length_lt
      have hvalue := colon.length_lt
      have hbehind := h.length_lt
      have hmore := more.length_lt
      omega

end

theorem Passes.head {text rest : Bytes} (h : Passes text rest) :
    ∃ b more, text = b :: more ∧ isSpace b = false ∧ b ≠ byte ']' := by
  cases h with
  | null => exact (Spells.null rest).head
  | bool b => exact (Spells.bool b rest).head
  | number n => exact (Spells.number n rest).head
  | string => exact ⟨byte '"', _, rfl, by decide, by decide⟩
  | array => exact ⟨byte '[', _, rfl, by decide, by decide⟩
  | object => exact ⟨byte '\x7b', _, rfl, by decide, by decide⟩

theorem PassesItems.endsNumber {text rest : Bytes} (h : PassesItems false text rest) :
    EndsNumber text := by
  cases h with
  | close h rest => exact endsNumber_gap h (endsNumber_bracket rest)
  | item lead => exact lead.endsNumber

theorem PassesMembers.endsNumber {text rest : Bytes} (h : PassesMembers false text rest) :
    EndsNumber text := by
  cases h with
  | close h rest => exact endsNumber_gap h (endsNumber_brace rest)
  | member lead => exact lead.endsNumber

/-! Strings. -/

theorem PassesChars.skipString_eq {text rest : Bytes} (h : PassesChars text rest) :
    skipString text = .ok rest := by
  have hslash : byte '\\' ≠ byte '"' := by decide
  induction h with
  | close rest =>
      rw [skipString.eq_def]
      simp only [if_true]
  | plain hquote hback hplain _ ih =>
      rw [skipString.eq_def]
      simp only [if_neg hquote, if_neg hback, if_neg hplain, ih]
  | short he hshort _ ih =>
      rw [skipString.eq_def]
      simp only [if_neg hslash, if_true, if_neg he, hshort, Option.isSome_some, ih]
  | unit hunit _ ih =>
      rw [skipString.eq_def]
      simp only [if_neg hslash, if_true, hunit, Option.isSome_some, ih]

/-! Numbers. -/

theorem skipDigits_append {digits tail : Bytes} (hne : digits ≠ []) (h : Digits digits)
    (htail : NoDigit tail) : skipDigits (digits ++ tail) = some tail := by
  obtain ⟨b, more, rfl⟩ := List.exists_cons_of_ne_nil hne
  obtain ⟨hb, hmore⟩ := List.forall_mem_cons.mp h
  rw [List.cons_append, skipDigits, if_pos hb, dropDigits_append hmore htail]

theorem skipScale_append {scale rest : Bytes} (h : Scale scale) (hrest : EndsNumber rest) :
    skipScale (scale ++ rest) = .ok rest := by
  cases h with
  | none =>
      cases rest with
      | nil => rfl
      | cons b rest =>
          have hletter : isExponentLetter b = false := (hrest b rfl).2.2
          simp [skipScale, hletter]
  | @power letter sign digits hletter hsign hne h =>
      obtain ⟨down, hread⟩ := readSign_append hsign
      obtain ⟨b, more, rfl⟩ := List.exists_cons_of_ne_nil hne
      have hsigned := hread b (more ++ rest) (h b (by simp))
      have hdigits := skipDigits_append hne h hrest.noDigit
      rw [List.cons_append, skipScale, if_pos hletter, List.append_assoc, List.cons_append,
        skipExponent, hsigned]
      rw [List.cons_append] at hdigits
      simp only [hdigits]

theorem skipAfterWhole_append {places rest : Bytes} (h : Places places)
    (hrest : EndsNumber rest) : skipAfterWhole (places ++ rest) = .ok rest := by
  cases h with
  | scale h =>
      have hscale := skipScale_append h hrest
      cases htext : places ++ rest with
      | nil =>
          rw [htext] at hscale
          exact hscale
      | cons b tail =>
          have hpoint : b ≠ byte '.' := by
            cases h with
            | none =>
                rw [List.nil_append] at htext
                subst htext
                exact (hrest b rfl).2.1
            | power hletter =>
                cases htext
                exact (isDigit_of_isExponentLetter hletter).2
          rw [htext] at hscale
          rw [skipAfterWhole, if_neg hpoint, hscale]
  | fraction hne h hscale =>
      rw [List.cons_append, skipAfterWhole, if_pos rfl, skipFraction, List.append_assoc,
        skipDigits_append hne h (hscale.noDigit hrest)]
      exact skipScale_append hscale hrest

theorem skipNumber_append {whole places rest : Bytes} (h : Whole whole) (hplaces : Places places)
    (hrest : EndsNumber rest) : skipNumber (whole ++ (places ++ rest)) = .ok rest := by
  have hend := hplaces.noDigit hrest
  have hafter := skipAfterWhole_append hplaces hrest
  cases h with
  | zero =>
      have hdigit : ((places ++ rest).head?.map isDigit).getD false = false := by
        cases htext : places ++ rest with
        | nil => rfl
        | cons b tail => exact hend b (by rw [htext]; rfl)
      rw [List.singleton_append, skipNumber, if_pos rfl, hdigit]
      simp only [Bool.false_eq_true, if_false, hafter]
  | digits hb hne h =>
      rw [List.cons_append, skipNumber, if_neg hne, if_pos hb, dropDigits_append h hend, hafter]

/-! Values. -/

theorem skipKey_quoted {gap inner after value : Bytes} (hgap : Blank gap)
    (hname : PassesChars inner after) (colon : Colon after value) :
    ∃ behind, Blank behind ∧ skipKey (gap ++ byte '"' :: inner) = .ok (behind ++ value) := by
  obtain ⟨behind, hbehind, hcolon⟩ := colon.readColon_eq
  refine ⟨behind, hbehind, ?_⟩
  rw [skipKey, skipSpace_gap hgap (by decide)]
  simp only [if_true, hname.skipString_eq, Outcome.ok_bind, hcolon]

theorem skipValue_numeral (n : Numeral) {rest : Bytes} (h : EndsNumber rest) {fuel : Nat}
    (hfuel : 0 < fuel) : skipValue fuel (n.text ++ rest) = .ok rest := by
  obtain ⟨fuel, rfl⟩ := Nat.exists_eq_add_one.mpr hfuel
  have hnumber := skipNumber_append n.isWhole n.isPlaces h
  cases hnegative : n.negative with
  | true =>
      have htext : n.text ++ rest = byte '-' :: (n.whole ++ (n.places ++ rest)) := by
        simp [Numeral.text, Numeral.sign, hnegative]
      have hn : byte '-' ≠ byte 'n' := by decide
      have ht : byte '-' ≠ byte 't' := by decide
      have hf : byte '-' ≠ byte 'f' := by decide
      rw [htext, skipValue, skipSpace_cons (by decide)]
      simp only [if_neg hn, if_neg ht, if_neg hf, if_true, hnumber]
  | false =>
      obtain ⟨b, more, hwhole, hb⟩ := n.isWhole.head
      have htext : n.text ++ rest = b :: (more ++ (n.places ++ rest)) := by
        simp [Numeral.text, Numeral.sign, hnegative, hwhole]
      rw [hwhole, List.cons_append] at hnumber
      have hn : b ≠ byte 'n' := ne_of_isDigit hb (by decide)
      have ht : b ≠ byte 't' := ne_of_isDigit hb (by decide)
      have hf : b ≠ byte 'f' := ne_of_isDigit hb (by decide)
      have hminus : b ≠ byte '-' := ne_of_isDigit hb (by decide)
      rw [htext, skipValue, skipSpace_cons (isSpace_of_isDigit hb)]
      simp only [if_neg hn, if_neg ht, if_neg hf, if_neg hminus, if_pos hb, hnumber]

theorem skipValue_gap {gap : Bytes} (h : Blank gap) {fuel : Nat} (hfuel : 0 < fuel)
    (text : Bytes) : skipValue fuel (gap ++ text) = skipValue fuel text := by
  obtain ⟨fuel, rfl⟩ := Nat.exists_eq_add_one.mpr hfuel
  rw [skipValue, skipValue, skipSpace_blank h]

/-! The fuel is spent by two for every byte at most. -/

mutual

theorem Passes.skipValue_eq {text rest : Bytes} :
    Passes text rest → (∀ n : Numeral, text = n.text ++ rest → EndsNumber rest) →
      ∀ {fuel : Nat}, 2 * text.length ≤ fuel → skipValue fuel text = .ok rest
  | .null rest, _, fuel + 1, _ => by
      have hword : ofString "null" = byte 'n' :: ofString "ull" := by decide
      rw [hword, List.cons_append, skipValue, skipSpace_cons (by decide)]
      simp only [if_true, readWord_append]
  | .bool true rest, _, fuel + 1, _ => by
      have hword : ofString (toString true) = byte 't' :: ofString "rue" := by decide
      have hn : byte 't' ≠ byte 'n' := by decide
      rw [hword, List.cons_append, skipValue, skipSpace_cons (by decide)]
      simp only [if_neg hn, if_true, readWord_append]
  | .bool false rest, _, fuel + 1, _ => by
      have hword : ofString (toString false) = byte 'f' :: ofString "alse" := by decide
      have hn : byte 'f' ≠ byte 'n' := by decide
      have ht : byte 'f' ≠ byte 't' := by decide
      rw [hword, List.cons_append, skipValue, skipSpace_cons (by decide)]
      simp only [if_neg hn, if_neg ht, if_true, readWord_append]
  | .number n rest, hends, fuel, hfuel => by
      have hpositive := (Spells.number n rest).length_lt
      exact skipValue_numeral n (hends n rfl) (by omega)
  | .string h, _, fuel + 1, _ => by
      rw [skipValue, skipSpace_cons (by decide)]
      exact h.skipString_eq
  | .array h, _, fuel + 1, hfuel => by
      rw [List.length_cons] at hfuel
      rw [skipValue, skipSpace_cons (by decide)]
      exact h.skipItems_eq (by omega)
  | .object h, _, fuel + 1, hfuel => by
      rw [List.length_cons] at hfuel
      rw [skipValue, skipSpace_cons (by decide)]
      exact h.skipMembers_eq (by omega)

theorem PassesItems.skipItems_eq {text rest : Bytes} :
    PassesItems true text rest → ∀ {fuel : Nat}, 2 * text.length < fuel →
      skipItems fuel text = .ok rest
  | .close hgap rest, fuel + 1, _ => by
      rw [skipItems, skipSpace_gap hgap (by decide)]
      simp only [if_true]
  | .item (.first hgap) h more, fuel + 1, hfuel => by
      obtain ⟨b, inner, rfl, hspace, hb⟩ := h.head
      have hshorter := h.length_lt
      rw [List.length_append] at hfuel
      rw [skipItems, skipSpace_gap hgap hspace]
      simp only [if_neg hb, h.skipValue_eq (fun _ _ => more.endsNumber)
        (by omega : 2 * (b :: inner).length ≤ fuel), Outcome.ok_bind]
      exact more.skipMoreItems_eq (by omega)

theorem PassesItems.skipMoreItems_eq {text rest : Bytes} :
    PassesItems false text rest → ∀ {fuel : Nat}, 2 * text.length < fuel →
      skipMoreItems fuel text = .ok rest
  | .close hgap rest, fuel + 1, _ => by
      rw [skipMoreItems, skipSpace_gap hgap (by decide)]
      simp only [if_true]
  | @PassesItems.item _ _ inner _ _ (.comma hgap hbehind) h more, fuel + 1, hfuel => by
      have hcomma : byte ',' ≠ byte ']' := by decide
      have hshorter := h.length_lt
      simp only [List.length_append, List.length_cons] at hfuel
      rw [skipMoreItems, skipSpace_gap hgap (by decide)]
      simp only [if_neg hcomma, if_true, skipValue_gap hbehind (by omega : 0 < fuel),
        h.skipValue_eq (fun _ _ => more.endsNumber)
          (by omega : 2 * inner.length ≤ fuel), Outcome.ok_bind]
      exact more.skipMoreItems_eq (by omega)

theorem PassesMembers.skipMembers_eq {text rest : Bytes} :
    PassesMembers true text rest → ∀ {fuel : Nat}, 2 * text.length < fuel →
      skipMembers fuel text = .ok rest
  | .close hgap rest, fuel + 1, _ => by
      rw [skipMembers, skipSpace_gap hgap (by decide)]
      simp only [if_true]
  | @PassesMembers.member _ _ inner _ value _ _ (.first hgap) hname colon h more,
      fuel + 1, hfuel => by
      have hquote : byte '"' ≠ byte '\x7d' := by decide
      obtain ⟨behind, hbehind, hkey⟩ := skipKey_quoted blank_nil hname colon
      have hquoted := hname.length_lt
      have hshort := colon.length_lt
      have hshorter := h.length_lt
      simp only [List.length_append, List.length_cons] at hfuel
      rw [List.nil_append] at hkey
      rw [skipMembers, skipSpace_gap hgap (by decide)]
      simp only [if_neg hquote, hkey, Outcome.ok_bind, skipValue_gap hbehind (by omega : 0 < fuel),
        h.skipValue_eq (fun _ _ => more.endsNumber)
          (by omega : 2 * value.length ≤ fuel)]
      exact more.skipMoreMembers_eq (by omega)

theorem PassesMembers.skipMoreMembers_eq {text rest : Bytes} :
    PassesMembers false text rest → ∀ {fuel : Nat}, 2 * text.length < fuel →
      skipMoreMembers fuel text = .ok rest
  | .close hgap rest, fuel + 1, _ => by
      rw [skipMoreMembers, skipSpace_gap hgap (by decide)]
      simp only [if_true]
  | @PassesMembers.member _ _ inner _ value _ _ (.comma hgap hafter) hname colon h more,
      fuel + 1, hfuel => by
      have hcomma : byte ',' ≠ byte '\x7d' := by decide
      obtain ⟨behind, hbehind, hkey⟩ := skipKey_quoted hafter hname colon
      have hquoted := hname.length_lt
      have hshort := colon.length_lt
      have hshorter := h.length_lt
      simp only [List.length_append, List.length_cons] at hfuel
      rw [skipMoreMembers, skipSpace_gap hgap (by decide)]
      simp only [if_neg hcomma, if_true, hkey, Outcome.ok_bind,
        skipValue_gap hbehind (by omega : 0 < fuel),
        h.skipValue_eq (fun _ _ => more.endsNumber)
          (by omega : 2 * value.length ≤ fuel)]
      exact more.skipMoreMembers_eq (by omega)

end

theorem Passes.skip_eq_of {text rest : Bytes} (h : Passes text rest)
    (hends : ∀ n : Numeral, text = n.text ++ rest → EndsNumber rest) {gap : Bytes}
    (hgap : Blank gap) : skip (gap ++ text) = .ok rest := by
  rw [skip, List.length_append, skipValue_gap hgap (by omega)]
  exact h.skipValue_eq hends (by omega)

theorem Passes.skip_eq {text rest : Bytes} (h : Passes text rest) (hrest : EndsNumber rest)
    {gap : Bytes} (hgap : Blank gap) : skip (gap ++ text) = .ok rest :=
  h.skip_eq_of (fun _ _ => hrest) hgap

/-! Where they end. -/

theorem byte_ne_numeral {c : Char} (h : byte c ≠ byte '-' ∧ isDigit (byte c) = false)
    (text : Bytes) (n : Numeral) (more : Bytes) : byte c :: text ≠ n.text ++ more := by
  obtain ⟨b, digits, hdigits, hb⟩ := n.head
  rw [hdigits]
  intro heq
  obtain ⟨rfl, -⟩ := List.cons.inj heq
  rcases hb with hminus | hdigit
  · exact h.1 hminus
  · rw [h.2] at hdigit
    cases hdigit

theorem Passes.numeral_or {text rest : Bytes} (h : Passes text rest) :
    (∃ n : Numeral, text = n.text ++ rest) ∨
      ∀ (n : Numeral) (more : Bytes), text ≠ n.text ++ more := by
  cases h with
  | number n => exact .inl ⟨n, rfl⟩
  | null => exact .inr (byte_ne_numeral (by decide) _)
  | bool b =>
      cases b with
      | true => exact .inr (byte_ne_numeral (by decide) _)
      | false => exact .inr (byte_ne_numeral (by decide) _)
  | string | array | object => exact .inr (byte_ne_numeral (by decide) _)

/-- Only a number can be taken to end in several places. -/
theorem Passes.rest_eq {text rest behind : Bytes} (h : Passes text rest)
    (hother : Passes text behind)
    (hnumeral : ∀ (n : Numeral) (more : Bytes), text ≠ n.text ++ more) :
    behind = rest := by
  have hskip := h.skip_eq_of (fun n heq => absurd heq (hnumeral n rest)) blank_nil
  rw [hother.skip_eq_of (fun n heq => absurd heq (hnumeral n behind)) blank_nil] at hskip
  cases hskip
  rfl

end ChainArchive.Json
