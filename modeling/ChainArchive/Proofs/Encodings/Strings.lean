import ChainArchive.Proofs.Encodings
import ChainArchive.Proofs.Json.Agreement

namespace ChainArchive

open Json Bytes

/-! Strings decoded as numbers. A quantity also takes a plus sign before its digits, an amount
also takes underscores anywhere among them. -/

/-- A plus sign stands between the hexadecimal mark and the digits. -/
def PlusHexadecimal (s : String) (n : Nat) : Prop :=
  ∃ x digits, ofString s = byte '0' :: x :: byte '+' :: digits ∧
    (x = byte 'x' ∨ x = byte 'X') ∧ digits ≠ [] ∧ InBase 16 digits n

/-- What is left without underscores are digits of the number; none need be left. -/
def Spaced (base : Nat) (text : Bytes) (n : Nat) : Prop :=
  text ≠ [] ∧ InBase base (text.filter (· != byte '_')) n

def SpacedHexadecimal (s : String) (n : Nat) : Prop :=
  ∃ x text, ofString s = byte '0' :: x :: text ∧ (x = byte 'x' ∨ x = byte 'X') ∧
    Spaced 16 text n

/-! Bytes that are no digits. -/

theorem InBase.not_mem {base n : Nat} {digits : Bytes} (h : InBase base digits n) {b : UInt8}
    (hb : ∀ d < base, byte d.digitChar ≠ b ∧ byte d.digitChar.toUpper ≠ b) : b ∉ digits := by
  have hdigits : ∀ c ∈ digits, c ≠ b := h.forall_mem hb
  exact fun hmem => hdigits b hmem rfl

theorem Hexadecimal.not_mem {s : String} {n : Nat} (h : Hexadecimal s n) {b : UInt8}
    (hb : ∀ d < 16, byte d.digitChar ≠ b ∧ byte d.digitChar.toUpper ≠ b)
    (hmarks : byte 'x' ≠ b ∧ byte 'X' ≠ b) : b ∉ ofString s := by
  obtain ⟨x, digits, htext, hmark, -, hdigits⟩ := h
  have hzero : b ≠ byte '0' := (hb 0 (by decide)).1.symm
  have hx : b ≠ x := by
    rcases hmark with rfl | rfl
    · exact hmarks.1.symm
    · exact hmarks.2.symm
  simp [htext, hzero, hx, hdigits.not_mem hb]

/-! Decoders of scalars. -/

namespace Json.Decoder

variable {opens : Bool} {expected : String} {accept : Scalar → Except Mismatch α}

theorem scalar_string {text : Bytes} {s : String} (h : Document text (.string s)) {a : α}
    {accepted : Prop} (haccept : accept (.string s) = .ok a ↔ accepted) :
    ((scalar opens expected accept).decode text = .ok a ↔ accepted) ∧
    ((scalar opens expected accept).decodeValue text = .ok a ↔ accepted) := by
  have hparse : parse text = .ok (.string s) := h.parse_eq rfl
  have hvalue : (scalar opens expected accept).ofJson (Json.string s).normal =
      accept (.string s) := rfl
  rw [scalar_means.decode_iff h, decodeValue, hparse, Outcome.ok_bind, hvalue, ← haccept]
  refine ⟨by simp [Tree.scalar?], ?_⟩
  cases accept (.string s) <;> simp

end Json.Decoder

/-! Quantities. -/

namespace Quantity

theorem hexDigits?_eq_some {text digits : Bytes} :
    hexDigits? text = some digits ↔
      ∃ x, text = byte '0' :: x :: digits ∧ (x = byte 'x' ∨ x = byte 'X') := by
  constructor
  · intro h
    unfold hexDigits? at h
    split at h
    · rename_i zero x rest
      split at h
      · rename_i hmark
        cases h
        exact ⟨x, by rw [hmark.1], hmark.2⟩
      · cases h
    · cases h
  · rintro ⟨x, rfl, hmark⟩
    exact if_pos ⟨rfl, hmark⟩

theorem ofHex?_of_plus {s : String} {n : Nat} (h : PlusHexadecimal s n) : ofHex? s = ofNat? n := by
  obtain ⟨x, digits, htext, hmark, hne, hdigits⟩ := h
  have hhex : hexDigits? (ofString s) = some (byte '+' :: digits) :=
    hexDigits?_eq_some.mpr ⟨x, htext, hmark⟩
  simp [ofHex?, hhex, unsigned, hne, hdigits.ofDigits?_eq]

theorem ofHex?_eq_some {s : String} {q : Quantity} :
    ofHex? s = some q ↔ Hexadecimal s q.value ∨ PlusHexadecimal s q.value := by
  constructor
  · intro h
    obtain ⟨behind, hhex, h⟩ := Option.bind_eq_some_iff.mp h
    obtain ⟨x, htext, hmark⟩ := hexDigits?_eq_some.mp hhex
    dsimp only at h
    split at h
    · cases h
    rename_i hne
    rw [List.isEmpty_iff] at hne
    obtain ⟨n, hread, hn⟩ := Option.bind_eq_some_iff.mp h
    rw [← ofNat?_eq_some.mp hn, ← inBase_iff (by decide)] at hread
    cases behind with
    | nil => exact absurd rfl hne
    | cons sign rest =>
        by_cases hsign : sign = byte '+'
        · rw [unsigned, if_pos hsign] at hne hread
          exact .inr ⟨x, rest, by rw [htext, hsign], hmark, hne, hread⟩
        · rw [unsigned, if_neg hsign] at hne hread
          exact .inl ⟨x, sign :: rest, htext, hmark, hne, hread⟩
  · rintro (h | h)
    · rw [ofHex?_of_hexadecimal h, ofNat?_value]
    · rw [ofHex?_of_plus h, ofNat?_value]

end Quantity

theorem PlusHexadecimal.plus_mem {s : String} {n : Nat} (h : PlusHexadecimal s n) :
    byte '+' ∈ ofString s := by
  obtain ⟨x, digits, htext, -⟩ := h
  simp [htext]

/-- A string is decoded as a quantity, from its text or from its value, just when it is a
hexadecimal mark and digits of the number, or has a plus sign between these. -/
theorem decode_quantity_string {text : Bytes} {s : String} (h : Document text (.string s))
    (q : Quantity) :
    (Quantity.decoder.decode text = .ok q ↔
      Hexadecimal s q.value ∨ PlusHexadecimal s q.value) ∧
    (Quantity.decoder.decodeValue text = .ok q ↔
      Hexadecimal s q.value ∨ PlusHexadecimal s q.value) ∧
    (byte '+' ∉ ofString s →
      (Quantity.decoder.decode text = .ok q ↔ Hexadecimal s q.value)) := by
  have hscalar := Quantity.ofScalar_string.trans (@Quantity.ofHex?_eq_some s q)
  obtain ⟨hdecode, hvalue⟩ := Decoder.scalar_string h hscalar
  refine ⟨hdecode, hvalue, fun hplus => hdecode.trans ?_⟩
  exact or_iff_left fun hsigned => hplus hsigned.plus_mem

/-- Capitals behind zeros, a plus sign, and a minus sign. -/
theorem decode_quantity_string_forms :
    Quantity.decoder.decode (ofString "\"0X00fF\"") = .ok ⟨255, by decide⟩ ∧
    Quantity.decoder.decodeValue (ofString "\"0x+1a\"") = .ok ⟨26, by decide⟩ ∧
    ∀ q, Quantity.decoder.decode (ofString "\"0x-1\"") ≠ .ok q := by
  have hcapitals : Document (ofString "\"0X00fF\"") (.string "0X00fF") :=
    Tree.document_text (.string "0X00fF")
  have hplus : Document (ofString "\"0x+1a\"") (.string "0x+1a") :=
    Tree.document_text (.string "0x+1a")
  have hminus : Document (ofString "\"0x-1\"") (.string "0x-1") :=
    Tree.document_text (.string "0x-1")
  refine ⟨(decode_quantity_string hcapitals _).1.mpr (.inl ⟨_, _, rfl, .inr rfl, by decide, ?_⟩),
    (decode_quantity_string hplus _).2.1.mpr (.inr ⟨_, _, rfl, .inl rfl, by decide, ?_⟩),
    fun q hdecode => ?_⟩
  · exact (inBase_iff (by decide)).mpr (by decide)
  · exact (inBase_iff (by decide)).mpr (by decide)
  · have hsign := ((decode_quantity_string hminus q).2.2 (by decide)).mp hdecode
    exact hsign.not_mem (b := byte '-') (by decide) (by decide) (by decide)

/-- A string that decodes without being a mark and digits. -/
theorem decode_quantity_string_plus :
    Document (ofString "\"0x+5\"") (.string "0x+5") ∧
    Quantity.decoder.decode (ofString "\"0x+5\"") = .ok ⟨5, by decide⟩ ∧
    ∀ n, ¬ Hexadecimal "0x+5" n := by
  refine ⟨Tree.document_text (.string "0x+5"), rfl, fun n h => ?_⟩
  exact h.not_mem (b := byte '+') (by decide) (by decide) (by decide)

/-! Amounts. -/

namespace Wei

theorem read_spaced {base : Nat} (hbase : base ≤ 16) (text : Bytes) (w : Wei) :
    (if text.isEmpty then none
      else (ofDigits? base (text.filter (· != byte '_'))).bind ofNat?) = some w ↔
        Spaced base text w.value := by
  rw [Spaced, inBase_iff hbase]
  cases text with
  | nil => simp
  | cons b rest =>
      simp only [List.isEmpty_cons, Bool.false_eq_true, if_false, Option.bind_eq_some_iff,
        ofNat?_eq_some, exists_eq_right', ne_eq, reduceCtorEq, not_false_eq_true, true_and]

theorem spacedHexadecimal_iff {s : String} {n : Nat} :
    SpacedHexadecimal s n ↔
      ∃ text, Quantity.hexDigits? (ofString s) = some text ∧ Spaced 16 text n := by
  simp only [SpacedHexadecimal, Quantity.hexDigits?_eq_some]
  constructor
  · rintro ⟨x, text, htext, hmark, hspaced⟩
    exact ⟨text, ⟨x, htext, hmark⟩, hspaced⟩
  · rintro ⟨text, ⟨x, htext, hmark⟩, hspaced⟩
    exact ⟨x, text, htext, hmark, hspaced⟩

theorem not_spaced_of_marked {text digits : Bytes} (h : Quantity.hexDigits? text = some digits)
    (n : Nat) : ¬ Spaced 10 text n := by
  obtain ⟨x, rfl, hmark⟩ := Quantity.hexDigits?_eq_some.mp h
  rintro ⟨-, hdigits⟩
  rcases hmark with rfl | rfl
  · exact hdigits.not_mem (b := byte 'x') (by decide) (List.mem_filter.mpr ⟨by simp, by decide⟩)
  · exact hdigits.not_mem (b := byte 'X') (by decide) (List.mem_filter.mpr ⟨by simp, by decide⟩)

theorem ofText?_eq_some {s : String} {w : Wei} :
    ofText? s = some w ↔ SpacedHexadecimal s w.value ∨ Spaced 10 (ofString s) w.value := by
  rw [spacedHexadecimal_iff]
  unfold ofText?
  cases hhex : Quantity.hexDigits? (ofString s) with
  | some text =>
      have hread := read_spaced (Nat.le_refl 16) text w
      have hdecimal := not_spaced_of_marked hhex w.value
      simp only [hhex, Option.some.injEq, exists_eq_left', hdecimal, or_false]
      exact hread
  | none =>
      have hread := read_spaced (by decide : 10 ≤ 16) (ofString s) w
      simp only [hhex, reduceCtorEq, false_and, exists_false, false_or]
      exact hread

end Wei

theorem spaced_iff_inBase {base : Nat} {text : Bytes} (h : byte '_' ∉ text) (n : Nat) :
    Spaced base text n ↔ text ≠ [] ∧ InBase base text n := by
  have hfilter : text.filter (· != byte '_') = text :=
    Wei.filter_eq_self fun b hb hmark => h (hmark ▸ hb)
  rw [Spaced, hfilter]

theorem spacedHexadecimal_iff_hexadecimal {s : String} (h : byte '_' ∉ ofString s) (n : Nat) :
    SpacedHexadecimal s n ↔ Hexadecimal s n := by
  unfold SpacedHexadecimal Hexadecimal
  refine exists_congr fun x => exists_congr fun text => and_congr_right fun htext =>
    and_congr_right fun _ => spaced_iff_inBase (fun hmark => h ?_) n
  rw [htext]
  exact List.mem_cons_of_mem _ (List.mem_cons_of_mem _ hmark)

/-- A string is decoded as an amount, from its text or from its value, just when it is digits of
the number, in hexadecimal behind a mark and else in decimal, with underscores among them that do
not count. A string of underscores alone is zero. -/
theorem decode_amount_string {text : Bytes} {s : String} (h : Document text (.string s))
    (w : Wei) :
    (Wei.decoder.decode text = .ok w ↔
      SpacedHexadecimal s w.value ∨ Spaced 10 (ofString s) w.value) ∧
    (Wei.decoder.decodeValue text = .ok w ↔
      SpacedHexadecimal s w.value ∨ Spaced 10 (ofString s) w.value) ∧
    (byte '_' ∉ ofString s →
      (Wei.decoder.decode text = .ok w ↔
        Hexadecimal s w.value ∨ ofString s ≠ [] ∧ InBase 10 (ofString s) w.value)) := by
  have hscalar := Wei.ofScalar_string.trans (@Wei.ofText?_eq_some s w)
  obtain ⟨hdecode, hvalue⟩ := Decoder.scalar_string h hscalar
  refine ⟨hdecode, hvalue, fun hmark => hdecode.trans ?_⟩
  rw [spacedHexadecimal_iff_hexadecimal hmark, spaced_iff_inBase hmark]

/-- Decimal digits, hexadecimal digits with underscores, and a sign. -/
theorem decode_amount_string_forms :
    Wei.decoder.decode (ofString "\"0100\"") = .ok ⟨100, by decide⟩ ∧
    Wei.decoder.decodeValue (ofString "\"0X_f_F\"") = .ok ⟨255, by decide⟩ ∧
    ∀ w, Wei.decoder.decode (ofString "\"+1\"") ≠ .ok w := by
  have hdecimal : Document (ofString "\"0100\"") (.string "0100") :=
    Tree.document_text (.string "0100")
  have hspaced : Document (ofString "\"0X_f_F\"") (.string "0X_f_F") :=
    Tree.document_text (.string "0X_f_F")
  have hplus : Document (ofString "\"+1\"") (.string "+1") :=
    Tree.document_text (.string "+1")
  refine ⟨((decode_amount_string hdecimal _).2.2 (by decide)).mpr (.inr ⟨by decide, ?_⟩),
    (decode_amount_string hspaced _).2.1.mpr (.inl ⟨_, _, rfl, .inr rfl, by decide, ?_⟩),
    fun w hdecode => ?_⟩
  · exact (inBase_iff (by decide)).mpr (by decide)
  · exact (inBase_iff (by decide)).mpr (by decide)
  · rcases ((decode_amount_string hplus w).2.2 (by decide)).mp hdecode with hsign | ⟨-, hsign⟩
    · exact hsign.not_mem (b := byte '+') (by decide) (by decide) (by decide)
    · exact hsign.not_mem (b := byte '+') (by decide) (by decide)

/-- A string that decodes without a digit in it. -/
theorem decode_amount_string_underscore :
    Document (ofString "\"_\"") (.string "_") ∧
    Wei.decoder.decode (ofString "\"_\"") = .ok ⟨0, by decide⟩ ∧
    ∀ n, ¬ Hexadecimal "_" n ∧ ¬ InBase 10 (ofString "_") n := by
  refine ⟨Tree.document_text (.string "_"), rfl, fun n => ⟨fun h => ?_, fun h => ?_⟩⟩
  · exact h.not_mem (b := byte '_') (by decide) (by decide) (by decide)
  · exact h.not_mem (b := byte '_') (by decide) (by decide)

end ChainArchive
