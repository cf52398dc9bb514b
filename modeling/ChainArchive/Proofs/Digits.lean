import ChainArchive.Proofs.Bytes

namespace ChainArchive

/-! Numbers in decimal digits. -/

def digitsOf (n : Nat) : Bytes := (Nat.toDigits 10 n).map byte

def continued (value : Nat) (digits : Bytes) : Nat :=
  digits.foldl (fun value b => value * 10 + digitValue b) value

@[simp] theorem continued_nil (value : Nat) : continued value [] = value := rfl

@[simp] theorem continued_cons (value : Nat) (b : UInt8) (digits : Bytes) :
    continued value (b :: digits) = continued (value * 10 + digitValue b) digits := by
  rw [continued, List.foldl_cons, continued]

theorem le_continued (value : Nat) (digits : Bytes) : value ≤ continued value digits := by
  induction digits generalizing value with
  | nil => exact Nat.le_refl value
  | cons b rest ih =>
      have hrest := ih (value * 10 + digitValue b)
      rw [continued_cons]
      omega

theorem toNat_lt_of_isDigit {c : Char} (h : c.isDigit) : 48 ≤ c.toNat ∧ c.toNat ≤ 57 := by
  simpa [Char.isDigit, UInt32.le_iff_toNat_le] using h

theorem byte_toNat {c : Char} (h : c.toNat < 128) : (byte c).toNat = c.toNat := by
  have hmod : (byte c).toNat = c.toNat % 256 := UInt32.toNat_toUInt8 c.val
  omega

theorem isDigit_byte {c : Char} (h : c.isDigit) : isDigit (byte c) = true := by
  have hrange := toNat_lt_of_isDigit h
  have hbyte : (byte c).toNat = c.toNat := byte_toNat (by omega)
  simp only [isDigit, Bool.and_eq_true, decide_eq_true_eq, UInt8.le_iff_toNat_le, hbyte]
  exact hrange

theorem digit_of_mem_toDigits {n : Nat} {c : Char} (h : c ∈ Nat.toDigits 10 n) : c.isDigit :=
  Nat.isDigit_of_mem_toDigits (by decide) (by decide) h

theorem toDigits_ascii (n : Nat) : ∀ c ∈ Nat.toDigits 10 n, c.toNat < 128 := by
  intro c hc
  have hrange := toNat_lt_of_isDigit (digit_of_mem_toDigits hc)
  omega

theorem ofString_repr (n : Nat) : Bytes.ofString n.repr = digitsOf n := by
  rw [Nat.repr_eq_ofList_toDigits, Bytes.ofString_ascii (toDigits_ascii n), digitsOf]

theorem isDigit_of_mem_digitsOf {n : Nat} {b : UInt8} (h : b ∈ digitsOf n) :
    isDigit b = true := by
  obtain ⟨c, hc, rfl⟩ := List.mem_map.mp h
  exact isDigit_byte (digit_of_mem_toDigits hc)

theorem continued_map_byte (value : Nat) {chars : List Char}
    (h : ∀ c ∈ chars, c.toNat < 128) :
    continued value (chars.map byte) = Nat.ofDigitChars 10 chars value := by
  induction chars generalizing value with
  | nil => simp
  | cons c rest ih =>
      have hc : digitValue (byte c) = c.toNat - '0'.toNat := by
        rw [digitValue, byte_toNat (h c (by simp))]
        rfl
      rw [List.map_cons, continued_cons, Nat.ofDigitChars_cons, hc, Nat.mul_comm value,
        ih _ fun d hd => h d (by simp [hd])]

theorem continued_digitsOf (n : Nat) : continued 0 (digitsOf n) = n := by
  rw [digitsOf, continued_map_byte 0 (toDigits_ascii n), Nat.ofDigitChars_ten_toDigits]

theorem digitsOf_zero : digitsOf 0 = [byte '0'] := by
  simp [digitsOf]

theorem toDigits_head {base n : Nat} (hbase : 1 < base) (h : n ≠ 0) :
    ∃ c rest, Nat.toDigits base n = c :: rest ∧ c ≠ '0' := by
  induction n using Nat.base_induction base hbase with
  | single m hm =>
      refine ⟨m.digitChar, [], Nat.toDigits_of_lt_base hm, ?_⟩
      rw [Ne, Nat.digitChar_eq_zero]
      exact h
  | digit m k hk hm ih =>
      obtain ⟨c, rest, hdigits, hc⟩ := ih (Nat.pos_iff_ne_zero.mp hm)
      refine ⟨c, rest ++ Nat.toDigits base k, ?_, hc⟩
      rw [← Nat.toDigits_append_toDigits hbase hm hk, hdigits, List.cons_append]

theorem digitsOf_head {n : Nat} (h : n ≠ 0) :
    ∃ b rest, digitsOf n = b :: rest ∧ b ≠ byte '0' ∧ isDigit b = true ∧
      (∀ d ∈ rest, isDigit d = true) ∧ continued (digitValue b) rest = n := by
  obtain ⟨c, rest, hdigits, hc⟩ := toDigits_head (by decide : 1 < 10) h
  have hwritten : digitsOf n = byte c :: rest.map byte := by
    rw [digitsOf, hdigits, List.map_cons]
  have hdigit : ∀ b ∈ byte c :: rest.map byte, isDigit b = true := by
    intro b hb
    exact isDigit_of_mem_digitsOf (n := n) (hwritten ▸ hb)
  have hascii : c.toNat < 128 := toDigits_ascii n c (by simp [hdigits])
  have hne : byte c ≠ byte '0' := by
    intro heq
    apply hc
    have htoNat : (byte c).toNat = (byte '0').toNat := by rw [heq]
    rw [byte_toNat hascii, byte_toNat (by decide)] at htoNat
    exact Char.toNat_inj.mp htoNat
  have hvalue := continued_digitsOf n
  rw [hwritten, continued_cons, Nat.zero_mul, Nat.zero_add] at hvalue
  exact ⟨byte c, rest.map byte, hwritten, hne, hdigit _ (by simp),
    fun d hd => hdigit d (by simp [hd]), hvalue⟩

theorem digitsOf_ne_nil (n : Nat) : digitsOf n ≠ [] := by
  simp [digitsOf, Nat.toDigits_ne_nil]

theorem digitsOf_cons (n : Nat) :
    ∃ b rest, digitsOf n = b :: rest ∧ isDigit b = true := by
  cases hdigits : digitsOf n with
  | nil => exact absurd hdigits (digitsOf_ne_nil n)
  | cons b rest =>
      have hb : b ∈ digitsOf n := by simp [hdigits]
      exact ⟨b, rest, rfl, isDigit_of_mem_digitsOf hb⟩

/-! Digits as numbers of a base up to ten and beyond. -/

theorem baseDigit?_of_isDigit {b : UInt8} (h : isDigit b = true) :
    (baseDigit? b).filter (· < 10) = some (digitValue b) := by
  have hrange : digitValue b < 10 := by
    simp only [isDigit, Bool.and_eq_true, decide_eq_true_eq, UInt8.le_iff_toNat_le] at h
    have hhigh : (byte '9').toNat = 57 := by decide
    unfold digitValue
    omega
  rw [baseDigit?, if_pos h]
  simpa [digitValue, Option.filter] using hrange

theorem ofDigits?_continued (value : Nat) {digits : Bytes}
    (h : ∀ b ∈ digits, isDigit b = true) :
    digits.foldlM (fun value b =>
      ((baseDigit? b).filter (· < 10)).map (value * 10 + ·)) value =
        some (continued value digits) := by
  induction digits generalizing value with
  | nil => rfl
  | cons b rest ih =>
      rw [List.foldlM_cons, baseDigit?_of_isDigit (h b (by simp))]
      exact ih (value * 10 + digitValue b) fun d hd => h d (by simp [hd])

theorem ofDigits?_digitsOf (n : Nat) : ofDigits? 10 (digitsOf n) = some n := by
  have hread := ofDigits?_continued 0 fun b hb => isDigit_of_mem_digitsOf (n := n) hb
  rw [continued_digitsOf] at hread
  exact hread

/-! Hexadecimal digits. -/

theorem ofDigits?_snoc {base m : Nat} {digits : Bytes} {b : UInt8} :
    ofDigits? base (digits ++ [b]) = some m ↔
      ∃ n d, ofDigits? base digits = some n ∧ baseDigit? b = some d ∧ d < base ∧
        n * base + d = m := by
  unfold ofDigits?
  simp only [List.foldlM_append, List.foldlM_cons, List.foldlM_nil, Option.pure_def,
    Option.bind_eq_bind, Option.bind_fun_some, Option.bind_eq_some_iff, Option.map_eq_some_iff,
    Option.filter_eq_some_iff, decide_eq_true_eq, exists_and_left, and_assoc]

theorem baseDigit?_digitChar : ∀ d < 16, baseDigit? (byte d.digitChar) = some d := by
  decide

theorem baseDigit?_toUpper : ∀ d < 16, baseDigit? (byte d.digitChar.toUpper) = some d := by
  decide

theorem digitChar_ascii : ∀ n, n < 16 → n.digitChar.toNat < 128 ∧ n.digitChar ≠ '+' := by
  decide

theorem exists_digitChar {base n : Nat} (hbase : 1 < base) {c : Char}
    (h : c ∈ Nat.toDigits base n) : ∃ d, d < base ∧ c = d.digitChar := by
  induction n using Nat.base_induction base hbase with
  | single m hm =>
      rw [Nat.toDigits_of_lt_base hm, List.mem_singleton] at h
      exact ⟨m, hm, h⟩
  | digit m k hk hm ih =>
      rw [← Nat.toDigits_append_toDigits hbase hm hk, Nat.toDigits_of_lt_base hk,
        List.mem_append, List.mem_singleton] at h
      rcases h with hhigh | hlow
      · exact ih hhigh
      · exact ⟨k, hk, hlow⟩

theorem ofDigits?_toDigits {base : Nat} (hlow : 1 < base) (hhigh : base ≤ 16) (n : Nat) :
    ofDigits? base ((Nat.toDigits base n).map byte) = some n := by
  induction n using Nat.base_induction base hlow with
  | single m hm =>
      rw [Nat.toDigits_of_lt_base hm]
      have hsnoc := @ofDigits?_snoc base m [] (byte m.digitChar)
      exact hsnoc.mpr ⟨0, m, rfl, baseDigit?_digitChar m (by omega), hm, by omega⟩
  | digit m k hk hm ih =>
      rw [← Nat.toDigits_append_toDigits hlow hm hk, Nat.toDigits_of_lt_base hk,
        List.map_append]
      refine ofDigits?_snoc.mpr ⟨m, k, ih, baseDigit?_digitChar k (by omega), hk, ?_⟩
      rw [Nat.mul_comm]

end ChainArchive
