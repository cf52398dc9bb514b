import ChainArchive.Proofs.Amounts
import ChainArchive.Proofs.Json.Carrying
import ChainArchive.Proofs.Json.Completeness

namespace ChainArchive

open Json

/-! Numbers in digits of a base. -/

inductive InBase (base : Nat) : Bytes → Nat → Prop where
  | nil : InBase base [] 0
  | snoc {digits : Bytes} {n d : Nat} {b : UInt8} (h : InBase base digits n) (hd : d < base)
      (hb : b = byte d.digitChar ∨ b = byte d.digitChar.toUpper) :
      InBase base (digits ++ [b]) (n * base + d)

theorem InBase.ofDigits?_eq {base n : Nat} {digits : Bytes} (h : InBase base digits n)
    (hbase : base ≤ 16) : ofDigits? base digits = some n := by
  induction h with
  | nil => rfl
  | @snoc digits n d b _ hd hb ih =>
      have hdigit : baseDigit? b = some d := by
        rcases hb with rfl | rfl
        · exact baseDigit?_digitChar d (by omega)
        · exact baseDigit?_toUpper d (by omega)
      exact ofDigits?_snoc.mpr ⟨n, d, ih, hdigit, hd, rfl⟩

theorem digitChar_of_ofNat :
    ∀ n < 256, ∀ d < 16, baseDigit? (UInt8.ofNat n) = some d →
      UInt8.ofNat n = byte d.digitChar ∨ UInt8.ofNat n = byte d.digitChar.toUpper := by
  decide +kernel

theorem digitChar_of_baseDigit? {b : UInt8} {d : Nat} (h : baseDigit? b = some d)
    (hd : d < 16) : b = byte d.digitChar ∨ b = byte d.digitChar.toUpper := by
  have hb := digitChar_of_ofNat b.toNat b.toNat_lt d hd
  rw [UInt8.ofNat_toNat] at hb
  exact hb h

theorem inBase_iff {base n : Nat} {digits : Bytes} (hbase : base ≤ 16) :
    InBase base digits n ↔ ofDigits? base digits = some n := by
  refine ⟨fun h => h.ofDigits?_eq hbase, fun h => ?_⟩
  induction digits using List.reverseRecOn generalizing n with
  | nil =>
      cases h
      exact .nil
  | append_singleton digits b ih =>
      obtain ⟨m, d, hm, hdigit, hd, rfl⟩ := ofDigits?_snoc.mp h
      exact .snoc (ih hm) hd (digitChar_of_baseDigit? hdigit (by omega))

theorem InBase.forall_mem {base n : Nat} {digits : Bytes} (h : InBase base digits n)
    {p : UInt8 → Prop}
    (hp : ∀ d < base, p (byte d.digitChar) ∧ p (byte d.digitChar.toUpper)) :
    ∀ b ∈ digits, p b := by
  induction h with
  | nil => exact List.forall_mem_nil _
  | @snoc digits n d b _ hd hb ih =>
      intro c hc
      rcases List.mem_append.mp hc with hbefore | hthis
      · exact ih c hbefore
      · rw [List.mem_singleton.mp hthis]
        rcases hb with rfl | rfl
        · exact (hp d hd).1
        · exact (hp d hd).2

def Hexadecimal (s : String) (n : Nat) : Prop :=
  ∃ x digits, Bytes.ofString s = byte '0' :: x :: digits ∧ (x = byte 'x' ∨ x = byte 'X') ∧
    digits ≠ [] ∧ InBase 16 digits n

/-! Quantities. -/

namespace Quantity

inductive Encodes : Tree → Nat → Prop where
  | hex {s : String} {n : Nat} (h : Hexadecimal s n) : Encodes (.string s) n
  | number {numeral : Numeral} {n : Nat} (hsign : numeral.negative = false)
      (h : numeral.integer? = some (n : Int)) : Encodes (.number numeral) n

theorem ofNat?_eq_some {n : Nat} {q : Quantity} : ofNat? n = some q ↔ q.value = n := by
  unfold ofNat?
  split
  · rw [Option.some.injEq]
    constructor
    · rintro rfl
      rfl
    · rintro rfl
      rfl
  · rename_i hlarge
    constructor
    · rintro ⟨⟩
    · rintro rfl
      exact absurd q.small hlarge

theorem ofHex?_of_hexadecimal {s : String} {n : Nat} (h : Hexadecimal s n) :
    ofHex? s = ofNat? n := by
  obtain ⟨x, digits, htext, hx, hne, hdigits⟩ := h
  have hplus : ∀ b ∈ digits, b ≠ byte '+' := hdigits.forall_mem (by decide)
  have hunsigned : unsigned digits = digits := by
    cases digits with
    | nil => rfl
    | cons b rest => exact if_neg (hplus b (by simp))
  simp [ofHex?, htext, hexDigits?, hx, hunsigned, hne, hdigits.ofDigits?_eq]

theorem ofInteger?_eq_some {word : Integer} {q : Quantity} :
    ofInteger? word = some q ↔ word.value = (q.value : Int) := by
  unfold ofInteger?
  split
  · rw [ofNat?_eq_some]
    omega
  · constructor
    · rintro ⟨⟩
    · omega

theorem reads_number {numeral : Numeral} {n : Nat} (hsign : numeral.negative = false)
    (h : numeral.integer? = some (n : Int)) {q : Quantity} :
    (∃ word, numeral.number? = some (.integer word) ∧ ofInteger? word = some q) ↔
      q.value = n := by
  constructor
  · rintro ⟨word, hread, hword⟩
    have hfits := Numeral.fits_of_number? hread
    have hvalue : word.value = n := Option.some.inj (hfits.1.symm.trans h)
    have hquantity := ofInteger?_eq_some.mp hword
    omega
  · rintro rfl
    have hsmall := q.small
    unfold wordSize at hsmall
    have hfits : numeral.Fits q.value :=
      ⟨h, by omega, by omega, fun hnegative => by simp [hsign] at hnegative⟩
    obtain ⟨word, hread, hvalue⟩ := hfits.number?_eq
    exact ⟨word, hread, ofInteger?_eq_some.mpr hvalue⟩

theorem ofScalar_string {s : String} {q : Quantity} :
    ofScalar (.string s) = .ok q ↔ ofHex? s = some q := by
  unfold ofScalar
  dsimp only
  split <;> rename_i hread <;> simp [hread]

theorem ofScalar_number {x : Number} {q : Quantity} :
    ofScalar (.number x) = .ok q ↔ ∃ word, x = .integer word ∧ ofInteger? word = some q := by
  cases x with
  | float negative magnitude => simp [ofScalar]
  | integer word =>
      unfold ofScalar
      dsimp only
      split <;> rename_i hread <;> simp [hread]

theorem Encodes.ne_null {tree : Tree} {n : Nat} (h : Encodes tree n) : tree ≠ .null := by
  cases h <;> nofun

theorem Encodes.reads_iff {tree : Tree} {n : Nat} (h : Encodes tree n) {budget : Nat}
    {q : Quantity} : decoder.Reads budget tree q ↔ q.value = n := by
  unfold decoder
  cases h with
  | hex h =>
      rw [Decoder.scalar_reads_string, ofScalar_string, ofHex?_of_hexadecimal h, ofNat?_eq_some]
  | number hsign h =>
      rw [Decoder.scalar_reads_number, ← reads_number hsign h]
      simp only [ofScalar_number]
      constructor
      · rintro ⟨_, hread, word, rfl, hword⟩
        exact ⟨word, hread, hword⟩
      · rintro ⟨word, hread, hword⟩
        exact ⟨_, hread, word, rfl, hword⟩

theorem encodes_toJson (q : Quantity) : Encodes q.toJson.tree q.value :=
  .number (Number.numeral_natural (by simp [Integer.ofNat]))
    ((Number.numeral_integer _ _).mpr ⟨_, rfl, rfl⟩)

end Quantity

/-! Amounts. -/

namespace Wei

/-- The number is given in hexadecimal or in decimal digits, or as an integer without a sign.
A number that no word holds is given as digits only: as a number it would be rounded. -/
inductive Encodes : Tree → Nat → Prop where
  | hex {s : String} {n : Nat} (h : Hexadecimal s n) : Encodes (.string s) n
  | decimal {s : String} {n : Nat} (hne : Bytes.ofString s ≠ [])
      (h : InBase 10 (Bytes.ofString s) n) : Encodes (.string s) n
  | number {numeral : Numeral} {n : Nat} (hsign : numeral.negative = false)
      (h : numeral.integer? = some (n : Int)) (hword : n < wordSize) :
      Encodes (.number numeral) n

theorem ofNat?_eq_some {n : Nat} {w : Wei} : ofNat? n = some w ↔ w.value = n := by
  unfold ofNat?
  split
  · rw [Option.some.injEq]
    constructor
    · rintro rfl
      rfl
    · rintro rfl
      rfl
  · rename_i hlarge
    constructor
    · rintro ⟨⟩
    · rintro rfl
      exact absurd w.small hlarge

theorem filter_eq_self {digits : Bytes} (h : ∀ b ∈ digits, b ≠ byte '_') :
    digits.filter (· != byte '_') = digits := by
  refine List.filter_eq_self.mpr fun b hb => ?_
  simpa using h b hb

theorem ofText?_of_hexadecimal {s : String} {n : Nat} (h : Hexadecimal s n) :
    ofText? s = ofNat? n := by
  obtain ⟨x, digits, htext, hx, hne, hdigits⟩ := h
  have hfilter := filter_eq_self (hdigits.forall_mem (by decide))
  simp [ofText?, htext, Quantity.hexDigits?, hx, hne, hfilter, hdigits.ofDigits?_eq]

theorem ofText?_of_decimal {s : String} {n : Nat} (hne : Bytes.ofString s ≠ [])
    (h : InBase 10 (Bytes.ofString s) n) : ofText? s = ofNat? n := by
  have hhex := Quantity.hexDigits?_of_digits (h.forall_mem (by decide))
  have hfilter := filter_eq_self (h.forall_mem (by decide))
  simp [ofText?, hhex, hne, hfilter, h.ofDigits?_eq]

theorem ofScalar_string {s : String} {w : Wei} :
    ofScalar (.string s) = .ok w ↔ ofText? s = some w := by
  unfold ofScalar
  dsimp only
  split <;> rename_i hread <;> simp [hread]

theorem ofScalar_number {x : Number} {w : Wei} :
    ofScalar (.number x) = .ok w ↔
      ∃ word q, x = .integer word ∧ Quantity.ofInteger? word = some q ∧ w.value = q.value := by
  cases x with
  | float negative magnitude => simp [ofScalar]
  | integer word =>
      cases hread : Quantity.ofInteger? word with
      | none => simp [ofScalar, hread]
      | some q =>
          simp only [ofScalar, hread, Except.ok.injEq]
          constructor
          · rintro rfl
            exact ⟨word, q, rfl, hread, rfl⟩
          · rintro ⟨_, other, hword, hother, hvalue⟩
            cases hword
            obtain rfl := Option.some.inj (hread.symm.trans hother)
            cases w
            cases hvalue
            rfl

theorem Encodes.ne_null {tree : Tree} {n : Nat} (h : Encodes tree n) : tree ≠ .null := by
  cases h <;> nofun

theorem Encodes.reads_iff {tree : Tree} {n : Nat} (h : Encodes tree n) {budget : Nat}
    {w : Wei} : decoder.Reads budget tree w ↔ w.value = n := by
  unfold decoder
  cases h with
  | hex h =>
      rw [Decoder.scalar_reads_string, ofScalar_string, ofText?_of_hexadecimal h, ofNat?_eq_some]
  | decimal hne h =>
      rw [Decoder.scalar_reads_string, ofScalar_string, ofText?_of_decimal hne h, ofNat?_eq_some]
  | number hsign h hword =>
      rw [Decoder.scalar_reads_number]
      simp only [ofScalar_number]
      constructor
      · rintro ⟨_, hread, word, q, rfl, hq, hvalue⟩
        exact hvalue.trans ((Quantity.reads_number hsign h).mp ⟨word, hread, hq⟩)
      · rintro rfl
        obtain ⟨word, hread, hq⟩ :=
          (Quantity.reads_number (q := ⟨w.value, hword⟩) hsign h).mpr rfl
        exact ⟨_, hread, word, _, rfl, hq, rfl⟩

end Wei

end ChainArchive
