import ChainArchive.Proofs.Except
import ChainArchive.Proofs.Json.Rendering

namespace ChainArchive.Json

open Bytes

/-! Written strings are read back byte by byte. -/

theorem hexDigit?_hexDigit : ∀ n, n < 16 → hexDigit? (hexDigit n) = some n := by
  decide

theorem hexUnit?_control {b : UInt8} (h : b < 32) :
    hexUnit? (byte '0') (byte '0') (hexDigit (b.toNat / 16)) (hexDigit (b.toNat % 16)) =
      some b.toNat := by
  have hsmall : b.toNat < 32 := UInt8.lt_iff_toNat_lt.mp h
  have hzero : hexDigit? (byte '0') = some 0 := by decide
  have hhigh := hexDigit?_hexDigit (b.toNat / 16) (by omega)
  have hlow := hexDigit?_hexDigit (b.toNat % 16) (by omega)
  have hvalue : ((0 * 16 + 0) * 16 + b.toNat / 16) * 16 + b.toNat % 16 = b.toNat := by omega
  simp only [hexUnit?, hzero, hhigh, hlow, Option.bind_eq_bind, Option.bind_some,
    Option.pure_def, hvalue]

theorem toNat_ofNat_control : ∀ n, n < 32 → (Char.ofNat n).toNat = n := by
  decide

theorem utf8_control {b : UInt8} (h : b < 32) : utf8 b.toNat = [b] := by
  have hsmall : b.toNat < 32 := UInt8.lt_iff_toNat_lt.mp h
  have hchar := toNat_ofNat_control b.toNat hsmall
  have hbyte : byte (Char.ofNat b.toNat) = b := by
    apply UInt8.toNat_inj.mp
    rw [byte_toNat (by omega), hchar]
  rw [utf8, String.singleton_eq_ofList, ofString_ofList, List.flatMap_singleton,
    utf8EncodeChar_ascii (by omega), hbyte]

theorem readStringBytes_quote (done rest : Bytes) :
    readStringBytes done (byte '"' :: rest) = .ok (done, rest) := by
  rw [readStringBytes.eq_def]
  simp only [if_pos]

theorem readStringBytes_plain {b : UInt8} (hquote : b ≠ byte '"') (hslash : b ≠ byte '\\')
    (hprintable : ¬ b < 32) (done rest : Bytes) :
    readStringBytes done (b :: rest) = readStringBytes (b :: done) rest := by
  rw [readStringBytes.eq_def]
  simp only [if_neg hquote, if_neg hslash, if_neg hprintable]

theorem readStringBytes_short {e c : UInt8} (he : e ≠ byte 'u') (h : shortEscape? e = some c)
    (done rest : Bytes) :
    readStringBytes done (byte '\\' :: e :: rest) = readStringBytes (c :: done) rest := by
  have hslash : byte '\\' ≠ byte '"' := by decide
  rw [readStringBytes.eq_def]
  simp only [if_neg hslash, if_pos, if_neg he, h]

theorem readStringBytes_unit {h₁ h₂ h₃ h₄ : UInt8} {unit : Nat}
    (hunit : hexUnit? h₁ h₂ h₃ h₄ = some unit) (hlow : isLowSurrogate unit = false)
    (hhigh : isHighSurrogate unit = false) (done rest : Bytes) :
    readStringBytes done (byte '\\' :: byte 'u' :: h₁ :: h₂ :: h₃ :: h₄ :: rest) =
      readStringBytes ((utf8 unit).reverse ++ done) rest := by
  have hslash : byte '\\' ≠ byte '"' := by decide
  rw [readStringBytes.eq_def]
  simp only [if_neg hslash, if_pos, hunit, hlow, hhigh, Bool.false_eq_true, if_false]

theorem readStringBytes_escapeByte (done : Bytes) (b : UInt8) (rest : Bytes) :
    readStringBytes done (escapeByte b ++ rest) = readStringBytes (b :: done) rest := by
  obtain ⟨e, hshort, hu, _, _, hescape⟩ | ⟨hcontrol, hescape⟩ |
    ⟨hquote, hslash, hplain, hescape⟩ := escapeByte_forms b
  · rw [hescape]
    exact readStringBytes_short hu hshort done rest
  · have hsmall : b.toNat < 32 := UInt8.lt_iff_toNat_lt.mp hcontrol
    have hlow : isLowSurrogate b.toNat = false := by
      simp only [isLowSurrogate, Bool.and_eq_false_iff, decide_eq_false_iff_not]
      omega
    have hhigh : isHighSurrogate b.toNat = false := by
      simp only [isHighSurrogate, Bool.and_eq_false_iff, decide_eq_false_iff_not]
      omega
    rw [hescape]
    calc
      _ = readStringBytes ((utf8 b.toNat).reverse ++ done) rest :=
        readStringBytes_unit (hexUnit?_control hcontrol) hlow hhigh done rest
      _ = readStringBytes (b :: done) rest := by rw [utf8_control hcontrol]; rfl
  · rw [hescape]
    exact readStringBytes_plain hquote hslash hplain done rest

theorem readStringBytes_escaped (done bytes rest : Bytes) :
    readStringBytes done (bytes.flatMap escapeByte ++ byte '"' :: rest) =
      .ok (bytes.reverse ++ done, rest) := by
  induction bytes generalizing done with
  | nil => exact readStringBytes_quote done rest
  | cons b bytes ih =>
      rw [List.flatMap_cons, List.append_assoc, readStringBytes_escapeByte, ih]
      simp

theorem readString_render (s : String) (rest : Bytes) :
    readString ((ofString s).flatMap escapeByte ++ byte '"' :: rest) = .ok (s, rest) := by
  rw [readString, readStringBytes_escaped]
  simp

/-! Written numbers, when nothing follows that would go on with them. -/

def EndsNumber (rest : Bytes) : Prop :=
  ∀ b ∈ rest.head?, isDigit b = false ∧ b ≠ byte '.' ∧ isExponentLetter b = false

theorem endsNumber_nil : EndsNumber [] := by
  simp [EndsNumber]

theorem endsNumber_cons {b : UInt8} {rest : Bytes}
    (h : isDigit b = false ∧ b ≠ byte '.' ∧ isExponentLetter b = false) :
    EndsNumber (b :: rest) := by
  simpa [EndsNumber] using h

theorem takeDigits_digits {value : Nat} {digits rest : Bytes} (count : Nat)
    (hdigits : ∀ b ∈ digits, isDigit b = true) (hfits : continued value digits < wordSize)
    (hrest : EndsNumber rest) :
    takeDigits value count (digits ++ rest) =
      (continued value digits, count + digits.length, rest) := by
  induction digits generalizing value count with
  | nil =>
      cases rest with
      | nil => rfl
      | cons b rest =>
          have hb : isDigit b = false := (hrest b rfl).1
          simp [takeDigits, hb]
  | cons b digits ih =>
      rw [continued_cons] at hfits ⊢
      have hb := hdigits b (by simp)
      have hsmall : value * 10 + digitValue b < wordSize :=
        Nat.lt_of_le_of_lt (le_continued _ digits) hfits
      rw [List.cons_append, takeDigits, if_pos ⟨hb, hsmall⟩,
        ih (count + 1) (fun d hd => hdigits d (by simp [hd])) hfits]
      simp only [List.length_cons]
      congr 2
      omega

theorem readAfterWhole_ends {negative : Bool} {significand : Nat} {rest : Bytes}
    (h : EndsNumber rest) :
    readAfterWhole negative significand rest = .ok (wholeNumber negative significand, rest) := by
  cases rest with
  | nil => simp [readAfterWhole, dropDigits]
  | cons b rest =>
      obtain ⟨hdigit, hpoint, hletter⟩ := h b rfl
      simp [readAfterWhole, dropDigits, hdigit, hpoint, hletter]

theorem readNumber_digits {b : UInt8} {digits rest : Bytes} (negative : Bool)
    (hne : b ≠ byte '0') (hb : isDigit b = true) (hdigits : ∀ d ∈ digits, isDigit d = true)
    (hfits : continued (digitValue b) digits < wordSize) (hrest : EndsNumber rest) :
    readNumber negative (b :: digits ++ rest) =
      .ok (wholeNumber negative (continued (digitValue b) digits), rest) := by
  have htake := takeDigits_digits 1 hdigits hfits hrest
  rw [List.cons_append, readNumber.eq_def]
  simp only [if_neg hne, if_pos hb, htake]
  exact readAfterWhole_ends hrest

theorem readNumber_digitsOf {n : Nat} (negative : Bool) (hn : n < wordSize) {rest : Bytes}
    (hrest : EndsNumber rest) :
    readNumber negative (digitsOf n ++ rest) = .ok (wholeNumber negative n, rest) := by
  by_cases hzero : n = 0
  · subst hzero
    rw [digitsOf_zero, List.singleton_append]
    cases rest with
    | nil => rfl
    | cons b rest =>
        have hb : isDigit b = false := (hrest b rfl).1
        simpa [readNumber, hb] using readAfterWhole_ends hrest
  · obtain ⟨b, digits, hwritten, hne, hdigit, hdigits, hvalue⟩ := digitsOf_head hzero
    rw [hwritten, readNumber_digits negative hne hdigit hdigits (hvalue ▸ hn) hrest, hvalue]

/-! The beginning of written values. -/

theorem skipSpace_cons {b : UInt8} (h : isSpace b = false) (rest : Bytes) :
    skipSpace (b :: rest) = b :: rest := by
  simp [skipSpace, h]

theorem readWord_append (word rest : Bytes) : readWord word (word ++ rest) = .ok rest := by
  induction word with
  | nil => rfl
  | cons w word ih => rw [List.cons_append, readWord, if_pos rfl, ih]

theorem readHead_null (rest : Bytes) :
    readHead (render .null ++ rest) = .ok (.scalar .null rest) := by
  have hword : render .null = byte 'n' :: ofString "ull" := by decide
  rw [hword, List.cons_append, readHead, skipSpace_cons (by decide)]
  simp only [if_pos, readWord_append]
  rfl

theorem readHead_bool (b : Bool) (rest : Bytes) :
    readHead (render (.bool b) ++ rest) = .ok (.scalar (.bool b) rest) := by
  cases b with
  | true =>
      have hword : render (.bool true) = byte 't' :: ofString "rue" := by decide
      have hn : byte 't' ≠ byte 'n' := by decide
      rw [hword, List.cons_append, readHead, skipSpace_cons (by decide)]
      simp only [if_neg hn, if_pos, readWord_append]
      rfl
  | false =>
      have hword : render (.bool false) = byte 'f' :: ofString "alse" := by decide
      have hn : byte 'f' ≠ byte 'n' := by decide
      have ht : byte 'f' ≠ byte 't' := by decide
      rw [hword, List.cons_append, readHead, skipSpace_cons (by decide)]
      simp only [if_neg hn, if_neg ht, if_pos, readWord_append]
      rfl

theorem readHead_string (s : String) (rest : Bytes) :
    readHead (render (.string s) ++ rest) = .ok (.scalar (.string s) rest) := by
  have htext : render (.string s) ++ rest =
      byte '"' :: ((ofString s).flatMap escapeByte ++ byte '"' :: rest) := by
    simp [render, renderString]
  rw [htext, readHead, skipSpace_cons (by decide)]
  simp only [readString_render]
  rfl

theorem readHead_array (rest : Bytes) : readHead (byte '[' :: rest) = .ok (.array rest) := by
  rw [readHead, skipSpace_cons (by decide)]
  rfl

theorem readHead_object (rest : Bytes) :
    readHead (byte '\x7b' :: rest) = .ok (.object rest) := by
  rw [readHead, skipSpace_cons (by decide)]
  rfl

theorem wholeNumber_natural {n : Nat} (h : n < wordSize) :
    wholeNumber false n = .integer (.ofNat n h) := by
  simp [wholeNumber, h]

theorem wholeNumber_negative {n : Integer} (h : n.value < 0) :
    wholeNumber true (-n.value).toNat = .integer n := by
  have hlow := n.low
  have hrange : 0 < (-n.value).toNat ∧ (-n.value).toNat ≤ 9223372036854775808 := by omega
  have hvalue : -((-n.value).toNat : Int) = n.value := by omega
  rw [wholeNumber, dif_neg (by simp), dif_pos hrange]
  cases n with
  | mk value low high =>
      simp only [Number.integer.injEq, Integer.mk.injEq]
      exact hvalue

theorem wholeNumber_eq_integer {negative : Bool} {n : Nat} {z : Integer}
    (h : wholeNumber negative n = .integer z) :
    z.value = (if negative then -(n : Int) else (n : Int)) ∧ (negative = true → n ≠ 0) := by
  unfold wholeNumber at h
  split at h
  · rename_i hnatural
    cases h
    obtain ⟨rfl, _⟩ := hnatural
    exact ⟨rfl, fun htrue => Bool.noConfusion htrue⟩
  · split at h
    · rename_i hnot hrange
      cases h
      cases negative with
      | true => exact ⟨rfl, fun _ => Nat.pos_iff_ne_zero.mp hrange.1⟩
      | false =>
          refine absurd ⟨rfl, ?_⟩ hnot
          unfold wordSize
          omega
    · cases h

theorem ne_of_isDigit {b c : UInt8} (h : isDigit b = true) (hc : isDigit c = false) :
    b ≠ c := by
  rintro rfl
  simp [hc] at h

theorem isSpace_of_isDigit {b : UInt8} (h : isDigit b = true) : isSpace b = false := by
  simp [isSpace, ne_of_isDigit h (by decide : isDigit (byte ' ') = false),
    ne_of_isDigit h (by decide : isDigit (byte '\n') = false),
    ne_of_isDigit h (by decide : isDigit (byte '\t') = false),
    ne_of_isDigit h (by decide : isDigit (byte '\r') = false)]

theorem readHead_digit {b : UInt8} (h : isDigit b = true) {text rest : Bytes} {n : Number}
    (hread : readNumber false (b :: text) = .ok (n, rest)) :
    readHead (b :: text) = .ok (.scalar (.number n) rest) := by
  have hn : b ≠ byte 'n' := ne_of_isDigit h (by decide)
  have ht : b ≠ byte 't' := ne_of_isDigit h (by decide)
  have hf : b ≠ byte 'f' := ne_of_isDigit h (by decide)
  have hminus : b ≠ byte '-' := ne_of_isDigit h (by decide)
  rw [readHead, skipSpace_cons (isSpace_of_isDigit h)]
  simp only [if_neg hn, if_neg ht, if_neg hf, if_neg hminus, if_pos h, hread]
  rfl

theorem readHead_minus {text rest : Bytes} {n : Number}
    (hread : readNumber true text = .ok (n, rest)) :
    readHead (byte '-' :: text) = .ok (.scalar (.number n) rest) := by
  rw [readHead, skipSpace_cons (by decide)]
  have hn : byte '-' ≠ byte 'n' := by decide
  have ht : byte '-' ≠ byte 't' := by decide
  have hf : byte '-' ≠ byte 'f' := by decide
  simp only [if_neg hn, if_neg ht, if_neg hf, if_pos, hread]
  rfl

theorem render_natural {n : Integer} (h : 0 ≤ n.value) :
    render (.number (.integer n)) = digitsOf n.value.toNat := by
  rw [render, Number.text, Int.toString_eq_repr, Int.repr_eq_if, if_pos h, ofString_repr]

theorem render_negative {n : Integer} (h : n.value < 0) :
    render (.number (.integer n)) = byte '-' :: digitsOf (-n.value).toNat := by
  have hminus : ofString "-" = [byte '-'] := by decide
  rw [render, Number.text, Int.toString_eq_repr, Int.repr_eq_if, if_neg (by omega),
    ofString_append, hminus, ofString_repr, List.singleton_append]

theorem render_integer_head (n : Integer) :
    ∃ b rest, render (.number (.integer n)) = b :: rest ∧
      (isDigit b = true ∨ b = byte '-') := by
  by_cases hsign : 0 ≤ n.value
  · obtain ⟨b, digits, hdigits, hdigit⟩ := digitsOf_cons n.value.toNat
    exact ⟨b, digits, (render_natural hsign).trans hdigits, .inl hdigit⟩
  · exact ⟨byte '-', _, render_negative (by omega), .inr rfl⟩

theorem readHead_integer (n : Integer) {rest : Bytes} (hrest : EndsNumber rest) :
    readHead (render (.number (.integer n)) ++ rest) =
      .ok (.scalar (.number (.integer n)) rest) := by
  by_cases hsign : 0 ≤ n.value
  · have hhigh := n.high
    have hfits : n.value.toNat < wordSize := by unfold wordSize; omega
    have hvalue : Integer.ofNat n.value.toNat hfits = n := by
      cases n with
      | mk value low high =>
          simp only [Integer.ofNat, Integer.mk.injEq]
          exact Int.toNat_of_nonneg hsign
    have hread := readNumber_digitsOf false hfits hrest
    rw [wholeNumber_natural hfits, hvalue] at hread
    obtain ⟨b, digits, hdigits, hdigit⟩ := digitsOf_cons n.value.toNat
    rw [render_natural hsign]
    rw [hdigits] at hread ⊢
    exact readHead_digit hdigit hread
  · have hlow := n.low
    have hnegative : n.value < 0 := by omega
    have hfits : (-n.value).toNat < wordSize := by unfold wordSize; omega
    have hread := readNumber_digitsOf true hfits hrest
    rw [wholeNumber_negative hnegative] at hread
    rw [render_negative hnegative]
    exact readHead_minus hread

end ChainArchive.Json
