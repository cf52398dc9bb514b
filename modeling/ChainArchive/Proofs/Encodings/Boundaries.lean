import ChainArchive.Proofs.Encodings
import ChainArchive.Proofs.Json.Uniform
import ChainArchive.Proofs.Transaction.Meaning

namespace ChainArchive

open Json Bytes

/-! Texts of numbers, letter by letter. -/

/-- Any number of zeros and the digits of the number, whose letters may be of either case. -/
def Padded (base n : Nat) (chars : List Char) : Prop :=
  ∃ zeros, chars.map Char.toLower = List.replicate zeros '0' ++ Nat.toDigits base n

def Marked (n : Nat) (s : String) : Prop :=
  ∃ mark chars, s.toList = '0' :: mark :: chars ∧ (mark = 'x' ∨ mark = 'X') ∧ Padded 16 n chars

/-- Digits in lower case that stand for the number, of which a zero leads only when it is the
number. -/
structure Shortest (base n : Nat) (digits : List Char) : Prop where
  value : InBase base (digits.map byte) n
  lower : ∀ c ∈ digits, ∃ d, d < base ∧ c = d.digitChar
  zero : n = 0 → digits = ['0']
  lead : n ≠ 0 → digits.head? ≠ some '0'

theorem ascii_of_toLower {c : Char} (h : c.toLower.toNat < 128) : c.toNat < 128 := by
  unfold Char.toLower at h
  split at h
  · rename_i hupper
    have hle : c.toNat ≤ 'Z'.toNat := UInt32.le_iff_toNat_le.mp hupper.2
    exact Nat.lt_of_le_of_lt hle (by decide)
  · exact h

theorem baseDigit?_lower : ∀ n < 128,
    baseDigit? (byte (Char.ofNat n).toLower) = baseDigit? (byte (Char.ofNat n)) := by
  decide

section Digits

variable {base : Nat}

theorem ofDigits?_toLower {chars : List Char} (h : ∀ c ∈ chars, c.toNat < 128) :
    ofDigits? base ((chars.map Char.toLower).map byte) = ofDigits? base (chars.map byte) := by
  induction chars using List.reverseRecOn with
  | nil => rfl
  | append_singleton chars c ih =>
      have hbefore := ih fun d hd => h d (List.mem_append_left _ hd)
      have hlower := baseDigit?_lower c.toNat (h c (by simp))
      rw [Char.ofNat_toNat] at hlower
      apply Option.ext
      intro n
      simp only [List.map_append, List.map_singleton, ofDigits?_snoc, hbefore, hlower]

variable (hlow : 1 < base)

include hlow

theorem ofDigits?_zeros (zeros : Nat) (digits : Bytes) :
    ofDigits? base (List.replicate zeros (byte '0') ++ digits) = ofDigits? base digits := by
  induction zeros with
  | zero => rfl
  | succ zeros ih =>
      have hzero : (baseDigit? (byte '0')).filter (· < base) = some 0 := by
        rw [show baseDigit? (byte '0') = some 0 by decide, Option.filter_some,
          if_pos (by simpa using Nat.lt_of_succ_lt hlow)]
      rw [List.replicate_succ, List.cons_append, ← ih, ofDigits?, List.foldlM_cons, hzero]
      simp [ofDigits?]

variable (hhigh : base ≤ 16)

include hhigh

theorem shortest_toDigits (n : Nat) : Shortest base n (Nat.toDigits base n) where
  value := (inBase_iff hhigh).mpr (ofDigits?_toDigits hlow hhigh n)
  lower _ hc := exists_digitChar hlow hc
  zero h := by rw [h, Nat.toDigits_zero]
  lead h := by
    obtain ⟨c, rest, hdigits, hc⟩ := toDigits_head hlow h
    rw [hdigits, List.head?_cons, Ne, Option.some.injEq]
    exact hc

theorem Padded.inBase {n : Nat} {chars : List Char} (h : Padded base n chars) :
    (∀ c ∈ chars, c.toNat < 128) ∧ chars ≠ [] ∧ InBase base (chars.map byte) n := by
  obtain ⟨zeros, hchars⟩ := h
  have hlower : ∀ c ∈ chars, c.toLower.toNat < 128 := by
    intro c hc
    have hmem : c.toLower ∈ List.replicate zeros '0' ++ Nat.toDigits base n :=
      hchars ▸ List.mem_map_of_mem hc
    rcases List.mem_append.mp hmem with hzero | hdigit
    · rw [List.eq_of_mem_replicate hzero]
      decide
    · obtain ⟨d, hd, heq⟩ := exists_digitChar hlow hdigit
      rw [heq]
      exact (digitChar_ascii d (by omega)).1
  have hascii : ∀ c ∈ chars, c.toNat < 128 := fun c hc => ascii_of_toLower (hlower c hc)
  refine ⟨hascii, ?_, ?_⟩
  · rintro rfl
    have hdigits := (List.append_eq_nil_iff.mp hchars.symm).2
    exact Nat.toDigits_ne_nil hdigits
  · rw [inBase_iff hhigh, ← ofDigits?_toLower hascii, hchars, List.map_append,
      List.map_replicate, ofDigits?_zeros hlow, ofDigits?_toDigits hlow hhigh]

end Digits

theorem Marked.hexadecimal {n : Nat} {s : String} (h : Marked n s) : Hexadecimal s n := by
  obtain ⟨mark, chars, hs, hmark, hpadded⟩ := h
  obtain ⟨hascii, hne, hvalue⟩ := hpadded.inBase (by decide) (by decide)
  have hmarks : ∀ c ∈ s.toList, c.toNat < 128 := by
    rw [hs]
    refine List.forall_mem_cons.mpr ⟨by decide, List.forall_mem_cons.mpr ⟨?_, hascii⟩⟩
    rcases hmark with rfl | rfl <;> decide
  have htext : ofString s = byte '0' :: byte mark :: chars.map byte := by
    rw [← String.ofList_toList (s := s), ofString_ascii hmarks, hs, List.map_cons, List.map_cons]
  refine ⟨byte mark, chars.map byte, htext, hmark.imp (congrArg byte) (congrArg byte), ?_, hvalue⟩
  rw [Ne, List.map_eq_nil_iff]
  exact hne

theorem Padded.decimal {n : Nat} {s : String} (h : Padded 10 n s.toList) :
    ofString s ≠ [] ∧ InBase 10 (ofString s) n := by
  obtain ⟨hascii, hne, hvalue⟩ := h.inBase (by decide) (by decide)
  rw [← String.ofList_toList (s := s), ofString_ascii hascii]
  refine ⟨?_, hvalue⟩
  rw [Ne, List.map_eq_nil_iff]
  exact hne

/-! Digits are written as they are. -/

theorem escapeByte_digitChar : ∀ d < 10, escapeByte (byte d.digitChar) = [byte d.digitChar] := by
  decide

theorem renderString_repr (n : Nat) :
    renderString n.repr = byte '"' :: ((Nat.toDigits 10 n).map byte ++ [byte '"']) := by
  have hplain : ∀ b ∈ digitsOf n, escapeByte b = [b] := by
    intro b hb
    obtain ⟨c, hc, rfl⟩ := List.mem_map.mp hb
    obtain ⟨d, hd, rfl⟩ := exists_digitChar (by decide) hc
    exact escapeByte_digitChar d hd
  rw [renderString, ofString_repr, escaped_plain hplain, digitsOf]

/-! What is decoded from texts of numbers. -/

inductive Quantity.Gives (text : Bytes) (n : Nat) : Prop where
  | hex {s : String} (hdocument : Document text (.string s)) (h : Marked n s)
  | number {numeral : Numeral} (hdocument : Document text (.number numeral))
      (hsign : numeral.negative = false) (h : numeral.integer? = some (n : Int))

inductive Wei.Gives (text : Bytes) (n : Nat) : Prop where
  | hex {s : String} (hdocument : Document text (.string s)) (h : Marked n s)
  | decimal {s : String} (hdocument : Document text (.string s)) (h : Padded 10 n s.toList)
  | number {numeral : Numeral} (hdocument : Document text (.number numeral))
      (hsign : numeral.negative = false) (h : numeral.integer? = some (n : Int))
      (hword : n < wordSize)

theorem Quantity.Gives.decode_iff {text : Bytes} {n : Nat} (h : Quantity.Gives text n)
    (q : Quantity) : Quantity.decoder.decode text = .ok q ↔ q.value = n := by
  have hmeans := Decoder.Faithful.means Quantity.decoder_faithful Quantity.decoder_complete
  cases h with
  | hex hdocument h =>
      rw [hmeans.decode_iff hdocument, (Quantity.Encodes.hex h.hexadecimal).reads_iff]
  | number hdocument hsign h =>
      rw [hmeans.decode_iff hdocument, (Quantity.Encodes.number hsign h).reads_iff]

theorem Wei.Gives.decode_iff {text : Bytes} {n : Nat} (h : Wei.Gives text n) (w : Wei) :
    Wei.decoder.decode text = .ok w ↔ w.value = n := by
  have hmeans := Decoder.Faithful.means Wei.decoder_faithful Wei.decoder_complete
  cases h with
  | hex hdocument h =>
      rw [hmeans.decode_iff hdocument, (Wei.Encodes.hex h.hexadecimal).reads_iff]
  | decimal hdocument h =>
      obtain ⟨hne, hvalue⟩ := h.decimal
      rw [hmeans.decode_iff hdocument, (Wei.Encodes.decimal hne hvalue).reads_iff]
  | number hdocument hsign h hword =>
      rw [hmeans.decode_iff hdocument, (Wei.Encodes.number hsign h hword).reads_iff]

/-- Numbers are decoded from all their texts just when they fit, and from what is written of
them. -/
theorem decode_numbers (text : Bytes) (n : Nat) :
    (Quantity.Gives text n →
      (∀ h : n < wordSize, Quantity.decoder.decode text = .ok ⟨n, h⟩) ∧
      (wordSize ≤ n → ∃ failure, Quantity.decoder.decode text = .error failure)) ∧
    (∀ q : Quantity,
      (∃ digits, q.toHex.toList = '0' :: 'x' :: digits ∧ Shortest 16 q.value digits) ∧
      Quantity.ofHex? q.toHex = some q ∧ Quantity.decoder.decode q.toJson.render = .ok q) ∧
    (Wei.Gives text n →
      (∀ h : n < Wei.size, Wei.decoder.decode text = .ok ⟨n, h⟩) ∧
      (Wei.size ≤ n → ∃ failure, Wei.decoder.decode text = .error failure)) ∧
    (∀ w : Wei,
      (∃ digits, w.toJson.render = byte '"' :: (digits.map byte ++ [byte '"']) ∧
        Shortest 10 w.value digits) ∧
      Wei.decoder.decode w.toJson.render = .ok w) := by
  refine ⟨fun hgives => ⟨fun h => (hgives.decode_iff _).mpr rfl, fun hlarge => ?_⟩,
    fun q => ⟨⟨Nat.toDigits 16 q.value, ?_, shortest_toDigits (by decide) (by decide) _⟩,
      q.ofHex?_toHex, decode_render (q.readsBack maxDepth)⟩,
    fun hgives => ⟨fun h => (hgives.decode_iff _).mpr rfl, fun hlarge => ?_⟩,
    fun w => ⟨⟨Nat.toDigits 10 w.value, renderString_repr w.value,
      shortest_toDigits (by decide) (by decide) _⟩, decode_render (w.readsBack maxDepth)⟩⟩
  · cases hdecode : Quantity.decoder.decode text with
    | error failure => exact ⟨failure, rfl⟩
    | ok q =>
        have hvalue := (hgives.decode_iff q).mp hdecode
        exact absurd q.small (by omega)
  · simp [Quantity.toHex, Text.hexText]
  · cases hdecode : Wei.decoder.decode text with
    | error failure => exact ⟨failure, rfl⟩
    | ok w =>
        have hvalue := (hgives.decode_iff w).mp hdecode
        exact absurd w.small (by omega)

/-- Eight bits in capitals behind zeros, the first number beyond a word, and the greatest amount
and the first number beyond it. -/
theorem decode_numbers_bounds :
    let greatest := String.ofList (Nat.toDigits 10 (Wei.size - 1))
    let beyond := String.ofList ('0' :: Nat.toDigits 10 Wei.size)
    Quantity.decoder.decode (ofString "\"0X00fF\"") = .ok ⟨255, by decide⟩ ∧
    (∃ failure, Quantity.decoder.decode (ofString "\"0x10000000000000000\"") = .error failure) ∧
    Wei.decoder.decode (renderString greatest) = .ok ⟨Wei.size - 1, by decide⟩ ∧
    (∃ failure, Wei.decoder.decode (renderString beyond) = .error failure) := by
  intro greatest beyond
  have hcapital : Quantity.Gives (ofString "\"0X00fF\"") 255 :=
    .hex (Tree.document_text (.string "0X00fF")) ⟨'X', _, rfl, .inr rfl, 2, by decide +kernel⟩
  have hlarge : Quantity.Gives (ofString "\"0x10000000000000000\"") wordSize :=
    .hex (Tree.document_text (.string "0x10000000000000000"))
      ⟨'x', _, rfl, .inl rfl, 0, by decide +kernel⟩
  have hgreatest : Wei.Gives (renderString greatest) (Wei.size - 1) :=
    .decimal (Tree.document_text (.string greatest)) ⟨0, by decide +kernel⟩
  have hbeyond : Wei.Gives (renderString beyond) Wei.size :=
    .decimal (Tree.document_text (.string beyond)) ⟨1, by decide +kernel⟩
  exact ⟨((decode_numbers _ _).1 hcapital).1 (by decide),
    ((decode_numbers _ _).1 hlarge).2 (Nat.le_refl _),
    ((decode_numbers _ _).2.2.1 hgreatest).1 (by decide),
    ((decode_numbers _ _).2.2.1 hbeyond).2 (Nat.le_refl _)⟩

end ChainArchive
