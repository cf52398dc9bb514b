import ChainArchive.Wei
import ChainArchive.Proofs.Json.Decoding

namespace ChainArchive

open Json

/-! Quantities and amounts are read back from what is written of them. -/

theorem Quantity.ofNat?_value (q : Quantity) : Quantity.ofNat? q.value = some q := by
  simp [Quantity.ofNat?, q.small]

theorem Quantity.readsBack (q : Quantity) (budget : Nat) :
    ReadsBack (Quantity.decoder.read budget) q.toJson q := by
  have haccept : Quantity.ofScalar (.number (.integer (.ofNat q.value q.small))) = .ok q := by
    simp [Quantity.ofScalar, Quantity.ofInteger?, Integer.ofNat, Quantity.ofNat?_value]
  exact readsBack_integer haccept true Quantity.expected budget

theorem Quantity.hexDigits?_of_digits {digits : Bytes} (h : ∀ b ∈ digits, isDigit b = true) :
    Quantity.hexDigits? digits = none := by
  unfold Quantity.hexDigits?
  split
  · rename_i zero x digits
    have hx : isDigit x = true := h x (by simp)
    have hlower : x ≠ byte 'x' := ne_of_isDigit hx (by decide)
    have hupper : x ≠ byte 'X' := ne_of_isDigit hx (by decide)
    simp [hlower, hupper]
  · rfl

theorem Quantity.ofHex?_toHex (q : Quantity) : Quantity.ofHex? q.toHex = some q := by
  have hdigits : ∀ c ∈ Nat.toDigits 16 q.value, c.toNat < 128 ∧ c ≠ '+' := by
    intro c hc
    obtain ⟨d, hd, rfl⟩ := exists_digitChar (by decide) hc
    exact digitChar_ascii d hd
  have htext : Bytes.ofString q.toHex =
      byte '0' :: byte 'x' :: (Nat.toDigits 16 q.value).map byte := by
    rw [Quantity.toHex, Bytes.ofString_append, Text.hexText,
      Bytes.ofString_ascii fun c hc => (hdigits c hc).1]
    rfl
  have hne : (Nat.toDigits 16 q.value).map byte ≠ [] := by
    simp [Nat.toDigits_ne_nil]
  have hunsigned : Quantity.unsigned ((Nat.toDigits 16 q.value).map byte) =
      (Nat.toDigits 16 q.value).map byte := by
    cases hwritten : Nat.toDigits 16 q.value with
    | nil => rfl
    | cons c rest =>
        obtain ⟨hascii, hplus⟩ := hdigits c (by simp [hwritten])
        have hbyte : byte c ≠ byte '+' := by
          intro heq
          have htoNat : (byte c).toNat = (byte '+').toNat := by rw [heq]
          rw [byte_toNat hascii, byte_toNat (by decide)] at htoNat
          exact hplus (Char.toNat_inj.mp htoNat)
        simp [Quantity.unsigned, hbyte]
  simp [Quantity.ofHex?, htext, Quantity.hexDigits?, hunsigned, hne,
    ofDigits?_toDigits (by decide : 1 < 16) (by decide), Quantity.ofNat?_value]

theorem Wei.ofNat?_value (w : Wei) : Wei.ofNat? w.value = some w := by
  simp [Wei.ofNat?, w.small]

theorem Wei.ofText?_toText (w : Wei) : Wei.ofText? w.toText = some w := by
  have htext : Bytes.ofString w.toText = digitsOf w.value := by
    rw [Wei.toText, Nat.toString_eq_repr, ofString_repr]
  have hfilter : (digitsOf w.value).filter (· != byte '_') = digitsOf w.value := by
    refine List.filter_eq_self.mpr fun b hb => ?_
    have hmark : isDigit (byte '_') = false := by decide
    simpa using ne_of_isDigit (isDigit_of_mem_digitsOf hb) hmark
  have hhex : Quantity.hexDigits? (digitsOf w.value) = none :=
    Quantity.hexDigits?_of_digits fun b hb => isDigit_of_mem_digitsOf hb
  have hne : (digitsOf w.value).isEmpty = false := by
    simpa using digitsOf_ne_nil w.value
  simp [Wei.ofText?, htext, hhex, hne, hfilter, ofDigits?_digitsOf,
    Wei.ofNat?_value]

theorem Wei.readsBack (w : Wei) (budget : Nat) :
    ReadsBack (Wei.decoder.read budget) w.toJson w := by
  have haccept : Wei.ofScalar (.string w.toText) = .ok w := by
    simp [Wei.ofScalar, Wei.ofText?_toText]
  exact readsBack_string haccept true Wei.expected budget

end ChainArchive
