import ChainArchive.Decimal.Binary64
import Mathlib.Algebra.Order.Field.Power
import Mathlib.Algebra.Order.Field.Rat
import Mathlib.Tactic.Linarith
import Mathlib.Tactic.NormNum
import Mathlib.Tactic.Positivity
import Mathlib.Tactic.Ring

namespace ChainArchive

/-! How far quotients are from the numbers that they are rounded to. -/

/-- By so much a number may shrink when it is rounded once. -/
def shrink : ℚ := 1 - 1 / 2 ^ 53

/-- Each number is at least the other one shrunk so many times. -/
def Near (roundings : Nat) (p q : ℚ) : Prop :=
  p * shrink ^ roundings ≤ q ∧ q * shrink ^ roundings ≤ p

theorem shrink_pos : 0 < shrink := by norm_num [shrink]

theorem shrink_le_one : shrink ≤ 1 := by norm_num [shrink]

namespace Near

variable {j k : Nat} {p q r s : ℚ}

theorem symm (h : Near k p q) : Near k q p := ⟨h.2, h.1⟩

theorem zero (k : Nat) : Near k 0 0 := by simp [Near]

theorem mono (h : Near j p q) (hp : 0 ≤ p) (hq : 0 ≤ q) (hle : j ≤ k) : Near k p q := by
  have hpow : shrink ^ k ≤ shrink ^ j := pow_le_pow_of_le_one shrink_pos.le shrink_le_one hle
  exact ⟨(mul_le_mul_of_nonneg_left hpow hp).trans h.1,
    (mul_le_mul_of_nonneg_left hpow hq).trans h.2⟩

theorem trans (h : Near j p q) (hmore : Near k q r) : Near (j + k) p r := by
  have hpow : ∀ n, 0 ≤ shrink ^ n := fun n => (pow_pos shrink_pos n).le
  constructor
  · calc
      p * shrink ^ (j + k) = p * shrink ^ j * shrink ^ k := by ring
      _ ≤ q * shrink ^ k := mul_le_mul_of_nonneg_right h.1 (hpow k)
      _ ≤ r := hmore.1
  · calc
      r * shrink ^ (j + k) = r * shrink ^ k * shrink ^ j := by ring
      _ ≤ q * shrink ^ j := mul_le_mul_of_nonneg_right hmore.2 (hpow j)
      _ ≤ p := h.2

theorem add (h : Near k p q) (hother : Near k r s) : Near k (p + r) (q + s) := by
  constructor
  · rw [add_mul]
    exact add_le_add h.1 hother.1
  · rw [add_mul]
    exact add_le_add h.2 hother.2

theorem scale (h : Near k p q) (hr : 0 ≤ r) : Near k (p * r) (q * r) := by
  constructor
  · rw [mul_right_comm]
    exact mul_le_mul_of_nonneg_right h.1 hr
  · rw [mul_right_comm]
    exact mul_le_mul_of_nonneg_right h.2 hr

theorem inv (h : Near k p q) (hp : 0 < p) (hq : 0 < q) : Near k p⁻¹ q⁻¹ := by
  constructor
  · rw [inv_mul_le_iff₀ hp, ← div_eq_mul_inv, le_div_iff₀ hq, mul_comm]
    exact h.2
  · rw [inv_mul_le_iff₀ hq, ← div_eq_mul_inv, le_div_iff₀ hp, mul_comm]
    exact h.1

theorem mul (h : Near j p q) (hother : Near k r s) (hp : 0 ≤ p) (hq : 0 ≤ q) (hr : 0 ≤ r)
    (hs : 0 ≤ s) : Near (j + k) (p * r) (q * s) := by
  have hpow : ∀ n, 0 ≤ shrink ^ n := fun n => (pow_pos shrink_pos n).le
  constructor
  · calc
      p * r * shrink ^ (j + k) = p * shrink ^ j * (r * shrink ^ k) := by ring
      _ ≤ q * s := mul_le_mul h.1 hother.1 (mul_nonneg hr (hpow k)) hq
  · calc
      q * s * shrink ^ (j + k) = q * shrink ^ j * (s * shrink ^ k) := by ring
      _ ≤ p * r := mul_le_mul h.2 hother.2 (mul_nonneg hs (hpow k)) hp

theorem div (h : Near j p q) (hother : Near k r s) (hp : 0 ≤ p) (hq : 0 ≤ q) (hr : 0 < r)
    (hs : 0 < s) : Near (j + k) (p / r) (q / s) := by
  rw [div_eq_mul_inv, div_eq_mul_inv]
  exact h.mul (hother.inv hr hs) hp hq (inv_pos.mpr hr).le (inv_pos.mpr hs).le

theorem le_double (h : Near k p q) (hq : 0 ≤ q) (hk : k ≤ 8) : q ≤ 2 * p := by
  have hpow : (1 : ℚ) / 2 ≤ shrink ^ k := by
    calc
      (1 : ℚ) / 2 ≤ shrink ^ 8 := by norm_num [shrink]
      _ ≤ shrink ^ k := pow_le_pow_of_le_one shrink_pos.le shrink_le_one hk
  have hhalf : q * (1 / 2) ≤ p := (mul_le_mul_of_nonneg_left hpow hq).trans h.2
  linarith

theorem error (h : Near 6 p q) (hp : 0 ≤ p) (hq : 0 ≤ q) : |q - p| ≤ p / 2 ^ 50 := by
  have hbelow : (1 - 1 / 2 ^ 50 : ℚ) ≤ shrink ^ 6 := by norm_num [shrink]
  have habove : (1 : ℚ) / (1 + 1 / 2 ^ 50) ≤ shrink ^ 6 := by norm_num [shrink]
  have hlow : p * (1 - 1 / 2 ^ 50) ≤ q := (mul_le_mul_of_nonneg_left hbelow hp).trans h.1
  have hhigh : q * (1 / (1 + 1 / 2 ^ 50)) ≤ p := (mul_le_mul_of_nonneg_left habove hq).trans h.2
  rw [mul_one_div, div_le_iff₀ (by norm_num)] at hhigh
  rw [abs_le]
  constructor <;> linarith

end Near

/-! One rounding. -/

theorem roundHalfEven_within (num : Nat) {den : Nat} (hden : 0 < den) :
    2 * (roundHalfEven num den * den) ≤ 2 * num + den ∧
      2 * num ≤ 2 * (roundHalfEven num den * den) + den := by
  have hnum := Nat.div_add_mod num den
  have hrest := Nat.mod_lt num hden
  have hnext : (num / den + 1) * den = den * (num / den) + den := by ring
  have hsame : num / den * den = den * (num / den) := Nat.mul_comm _ _
  unfold roundHalfEven
  dsimp only
  split
  · omega
  split
  · omega
  split <;> omega

theorem roundHalfEven_near {num den : Nat} (hden : 0 < den)
    (hlarge : (2 : ℚ) ^ 52 ≤ num / den) : Near 1 (num / den : ℚ) (roundHalfEven num den) := by
  have hden' : (0 : ℚ) < den := Nat.cast_pos.mpr hden
  obtain ⟨hup, hdown⟩ := roundHalfEven_within num hden
  generalize roundHalfEven num den = rounded at hup hdown ⊢
  have hup : (rounded : ℚ) ≤ num / den + 1 / 2 := by
    have hcast : (2 * (rounded * den) : ℚ) ≤ 2 * num + den := by exact_mod_cast hup
    rw [div_add_div _ _ hden'.ne' two_ne_zero, le_div_iff₀ (by positivity)]
    linarith
  have hdown : (num / den : ℚ) ≤ rounded + 1 / 2 := by
    have hcast : (2 * num : ℚ) ≤ 2 * (rounded * den) + den := by exact_mod_cast hdown
    rw [div_le_iff₀ hden']
    linarith
  generalize (num / den : ℚ) = quotient at hlarge hup hdown
  have hone : shrink ^ 1 = 1 - 1 / 2 ^ 53 := pow_one _
  rw [Near, hone]
  constructor <;> linarith

namespace Binary64

def value (x : Binary64) : ℚ := x.mantissa * 2 ^ x.exponent

theorem value_nonneg (x : Binary64) : 0 ≤ x.value := by
  unfold value
  positivity

theorem ofRatio_zero (den : Nat) : ofRatio 0 den = zero := rfl

theorem value_zero : zero.value = 0 := by simp [value, zero]

theorem ratio_pos (x : Binary64) : 0 < x.ratio.2 := Nat.pow_pos (by decide)

theorem two_zpow_eq (exponent : Int) :
    (2 : ℚ) ^ exponent = 2 ^ exponent.toNat / 2 ^ (-exponent).toNat := by
  rw [← zpow_natCast, ← zpow_natCast, ← zpow_sub₀ two_ne_zero]
  congr 1
  omega

theorem cast_twoTo (n : Nat) : (twoTo n : ℚ) = 2 ^ n := Nat.cast_pow 2 n

theorem ratio_eq_value (x : Binary64) : (x.ratio.1 : ℚ) / x.ratio.2 = x.value := by
  unfold ratio value
  rw [two_zpow_eq, Nat.cast_mul, cast_twoTo, cast_twoTo, mul_div_assoc]

theorem inUnits_pos (num : Nat) {den : Nat} (hden : 0 < den) (exponent : Int) :
    0 < (inUnits num den exponent).2 :=
  Nat.mul_pos hden (Nat.pow_pos (by decide))

theorem inUnits_eq (num den : Nat) (exponent : Int) :
    ((inUnits num den exponent).1 : ℚ) / (inUnits num den exponent).2 =
      num / den / 2 ^ exponent := by
  unfold inUnits
  rw [two_zpow_eq, Nat.cast_mul, Nat.cast_mul, cast_twoTo, cast_twoTo, div_div_div_eq]

theorem quotient_within {num den : Nat} (hnum : 0 < num) (hden : 0 < den) :
    (2 : ℚ) ^ ((num.log2 : Int) - den.log2 - 1) ≤ num / den ∧
      (num / den : ℚ) < 2 ^ ((num.log2 : Int) - den.log2 + 1) := by
  have hden' : (0 : ℚ) < den := Nat.cast_pos.mpr hden
  have hnumLow : (2 : ℚ) ^ num.log2 ≤ num := by exact_mod_cast Nat.log2_self_le hnum.ne'
  have hnumHigh : (num : ℚ) < 2 ^ (num.log2 + 1) := by exact_mod_cast Nat.lt_log2_self
  have hdenLow : (2 : ℚ) ^ den.log2 ≤ den := by exact_mod_cast Nat.log2_self_le hden.ne'
  have hdenHigh : (den : ℚ) < 2 ^ (den.log2 + 1) := by exact_mod_cast Nat.lt_log2_self
  constructor
  · calc
      (2 : ℚ) ^ ((num.log2 : Int) - den.log2 - 1) = 2 ^ num.log2 / 2 ^ (den.log2 + 1) := by
        rw [← zpow_natCast, ← zpow_natCast, ← zpow_sub₀ two_ne_zero]
        congr 1
        omega
      _ ≤ num / den := div_le_div₀ (Nat.cast_nonneg num) hnumLow hden' hdenHigh.le
  · calc
      (num / den : ℚ) ≤ num / 2 ^ den.log2 :=
        div_le_div_of_nonneg_left (Nat.cast_nonneg num) (by positivity) hdenLow
      _ < 2 ^ (num.log2 + 1) / 2 ^ den.log2 := div_lt_div_of_pos_right hnumHigh (by positivity)
      _ = 2 ^ ((num.log2 : Int) - den.log2 + 1) := by
        rw [← zpow_natCast, ← zpow_natCast, ← zpow_sub₀ two_ne_zero]
        congr 1
        omega

/-- The last place kept leaves 53 binary digits of a quotient that is not too small. -/
theorem lastPlace_within {num den : Nat} (hnum : 0 < num) (hden : 0 < den)
    (hlow : (2 : ℚ) ^ (-1000 : Int) ≤ num / den) :
    (2 : ℚ) ^ (lastPlace num den + 52) ≤ num / den ∧
      (num / den : ℚ) < 2 ^ (lastPlace num den + 53) := by
  obtain ⟨hfloor, hceiling⟩ := quotient_within hnum hden
  generalize hguess : (num.log2 : Int) - den.log2 - 52 = guess
  have hscaled : (inUnits num den guess).1 < (inUnits num den guess).2 * twoTo 52 ↔
      (num / den : ℚ) < 2 ^ (guess + 52) := by
    have hunits := inUnits_pos num hden guess
    have hcast : ((inUnits num den guess).1 : ℚ) <
        ((inUnits num den guess).2 * twoTo 52 : Nat) ↔ _ := Nat.cast_lt
    rw [← hcast, Nat.cast_mul, cast_twoTo, mul_comm, ← div_lt_iff₀ (Nat.cast_pos.mpr hunits),
      inUnits_eq, div_lt_iff₀ (by positivity), zpow_add₀ two_ne_zero, mul_comm]
    rfl
  have hplace : ∀ place : Int, (num / den : ℚ) < 2 ^ (place + 53) → ¬ place < -1074 := by
    intro place hbelow hsmall
    have hpow : (2 : ℚ) ^ (place + 53) ≤ 2 ^ (-1000 : Int) :=
      zpow_le_zpow_right₀ one_le_two (by omega)
    exact absurd (hlow.trans_lt hbelow) (not_lt.mpr hpow)
  unfold lastPlace
  simp only [hguess, hscaled]
  by_cases hless : (num / den : ℚ) < 2 ^ (guess + 52)
  · have hbelow : (num / den : ℚ) < 2 ^ (guess - 1 + 53) := by
      rwa [show guess - 1 + 53 = guess + 52 by omega]
    rw [if_pos hless, if_neg (hplace _ hbelow)]
    refine ⟨?_, hbelow⟩
    rwa [show guess - 1 + 52 = (num.log2 : Int) - den.log2 - 1 by omega]
  · have hbelow : (num / den : ℚ) < 2 ^ (guess + 53) := by
      rwa [show guess + 53 = (num.log2 : Int) - den.log2 + 1 by omega]
    rw [if_neg hless, if_neg (hplace _ hbelow)]
    exact ⟨not_lt.mp hless, hbelow⟩

theorem ofRatio_near {num den : Nat} (hnum : 0 < num) (hden : 0 < den)
    (hlow : (2 : ℚ) ^ (-1000 : Int) ≤ num / den) (hhigh : (num / den : ℚ) ≤ 2 ^ (1000 : Int)) :
    Near 1 (num / den : ℚ) (ofRatio num den).value := by
  obtain ⟨hfloor, -⟩ := lastPlace_within hnum hden hlow
  have hplace : lastPlace num den ≤ 948 := by
    have htwo : (1 : ℚ) < 2 := one_lt_two
    have hpow := (zpow_le_zpow_iff_right₀ htwo).mp (hfloor.trans hhigh)
    omega
  have hrounded : (ofRatio num den).value =
      roundHalfEven (inUnits num den (lastPlace num den)).1
        (inUnits num den (lastPlace num den)).2 * 2 ^ lastPlace num den := by
    unfold ofRatio ofRatio?
    simp only [if_neg hnum.ne']
    split
    · rename_i hcarry
      rw [if_pos (by dsimp only; omega), Option.getD_some, hcarry, value, cast_twoTo, cast_twoTo,
        zpow_add_one₀ two_ne_zero]
      ring
    · rw [if_pos (by dsimp only; omega), Option.getD_some, value]
  generalize lastPlace num den = place at hfloor hrounded
  have hunits :
      ((inUnits num den place).1 : ℚ) / (inUnits num den place).2 = num / den / 2 ^ place :=
    inUnits_eq num den place
  have hpositive : (0 : ℚ) < 2 ^ place := by positivity
  have hlarge : (2 : ℚ) ^ 52 ≤ (inUnits num den place).1 / (inUnits num den place).2 := by
    rw [hunits, le_div_iff₀ hpositive]
    calc
      (2 : ℚ) ^ 52 * 2 ^ place = 2 ^ (place + 52) := by
        rw [zpow_add₀ two_ne_zero, mul_comm]
        rfl
      _ ≤ num / den := hfloor
  have hnear := (roundHalfEven_near (inUnits_pos num hden place) hlarge).scale hpositive.le
  rwa [hunits, div_mul_cancel₀ _ hpositive.ne', ← hrounded] at hnear

/-! Quotients of a moderate size, and the numbers that stand for them after some roundings. -/

structure Moderate (digits : Nat) (q : ℚ) : Prop where
  least : q = 0 ∨ 1 / 2 ^ digits ≤ q
  most : q ≤ 2 ^ digits

namespace Moderate

variable {a b : Nat} {p q : ℚ}

theorem nonneg (h : Moderate a p) : 0 ≤ p := by
  rcases h.least with hzero | hleast
  · exact hzero.ge
  · exact le_trans (by positivity) hleast

theorem mono (h : Moderate a p) (hle : a ≤ b) : Moderate b p where
  least := h.least.imp_right fun hleast =>
    (one_div_le_one_div_of_le (by positivity) (pow_le_pow_right₀ one_le_two hle)).trans hleast
  most := h.most.trans (pow_le_pow_right₀ one_le_two hle)

theorem natCast {n : Nat} (h : n ≤ 2 ^ a) : Moderate a n where
  least := by
    rcases Nat.eq_zero_or_pos n with hzero | hpos
    · exact .inl (Nat.cast_eq_zero.mpr hzero)
    · have hone : (1 : ℚ) ≤ n := by exact_mod_cast hpos
      have hpow : (1 : ℚ) ≤ 2 ^ a := one_le_pow₀ one_le_two
      exact .inr (((div_le_one₀ (by positivity)).mpr hpow).trans hone)
  most := by exact_mod_cast h

theorem add (h : Moderate a p) (hother : Moderate a q) : Moderate (a + 1) (p + q) where
  least := by
    have hmore : (1 : ℚ) / 2 ^ (a + 1) ≤ 1 / 2 ^ a :=
      one_div_le_one_div_of_le (by positivity) (pow_le_pow_right₀ one_le_two (Nat.le_succ a))
    have hp := h.nonneg
    have hq := hother.nonneg
    rcases h.least with hzero | hleast
    · rcases hother.least with hnone | hleast
      · exact .inl (by rw [hzero, hnone, add_zero])
      · exact .inr (by linarith)
    · exact .inr (by linarith)
  most := by
    have hp := h.most
    have hq := hother.most
    rw [pow_succ]
    linarith

theorem div (h : Moderate a p) (hother : Moderate b q) (hq : 0 < q) : Moderate (a + b) (p / q) where
  least := by
    rcases h.least with hzero | hleast
    · exact .inl (by rw [hzero, zero_div])
    · refine .inr ?_
      calc
        (1 : ℚ) / 2 ^ (a + b) = 1 / 2 ^ a / 2 ^ b := by rw [pow_add, div_div]
        _ ≤ p / q := div_le_div₀ h.nonneg hleast hq hother.most
  most := by
    have hleast := hother.least.resolve_left hq.ne'
    calc
      p / q ≤ 2 ^ a / (1 / 2 ^ b) := div_le_div₀ (by positivity) h.most (by positivity) hleast
      _ = 2 ^ (a + b) := by rw [div_div_eq_mul_div, div_one, pow_add]

end Moderate

/-- The number is the quotient after so many roundings. -/
structure Approximates (x : Binary64) (roundings digits : Nat) (q : ℚ) : Prop where
  near : Near roundings q x.value
  moderate : Moderate digits q

namespace Approximates

variable {x y : Binary64} {j k a b : Nat} {p q : ℚ}

theorem mono (h : x.Approximates j a p) (hle : j ≤ k) (hdigits : a ≤ b) :
    x.Approximates k b p where
  near := h.near.mono h.moderate.nonneg x.value_nonneg hle
  moderate := h.moderate.mono hdigits

theorem ofRatio {num den : Nat} (hden : 0 < den) (hnear : Near j q (num / den))
    (hmoderate : Moderate a q) (hj : j ≤ 8) (ha : a ≤ 999) :
    (ofRatio num den).Approximates (j + 1) a q := by
  refine ⟨?_, hmoderate⟩
  rcases Nat.eq_zero_or_pos num with rfl | hnum
  · have hq : q = 0 := by
      rw [Nat.cast_zero, zero_div] at hnear
      have hbelow := hnear.symm.le_double hmoderate.nonneg hj
      exact le_antisymm (by simpa using hbelow) hmoderate.nonneg
    rw [hq, ofRatio_zero, value_zero]
    exact .zero _
  · have hquotient : (0 : ℚ) < num / den := by positivity
    have hmost := hnear.le_double hquotient.le hj
    have hhalf := hnear.symm.le_double hmoderate.nonneg hj
    have hq : q ≠ 0 := by
      rintro rfl
      linarith
    have hleast := hmoderate.least.resolve_left hq
    have hroom : (2 : ℚ) ^ (a + 1) ≤ 2 ^ 1000 := pow_le_pow_right₀ one_le_two (by omega)
    refine hnear.trans (ofRatio_near hnum hden ?_ ?_)
    · calc
        (2 : ℚ) ^ (-1000 : Int) = 1 / 2 ^ 1000 := by
          rw [one_div]
          rfl
        _ ≤ 1 / 2 ^ (a + 1) := one_div_le_one_div_of_le (by positivity) hroom
        _ = 1 / 2 ^ a / 2 := by rw [pow_succ, div_div]
        _ ≤ num / den := by linarith
    · calc
        (num / den : ℚ) ≤ 2 * q := hmost
        _ ≤ 2 ^ (a + 1) := by
          rw [pow_succ]
          linarith [hmoderate.most]
        _ ≤ 2 ^ (1000 : Int) := hroom

theorem ofNat {n : Nat} (h : n ≤ 2 ^ a) (ha : a ≤ 999) : (ofNat n).Approximates 1 a n :=
  ofRatio Nat.one_pos (by simp [Near]) (.natCast h) (Nat.zero_le 8) ha

theorem add (h : x.Approximates k a p) (hother : y.Approximates k a q) (hk : k ≤ 8)
    (ha : a + 1 ≤ 999) : (x.add y).Approximates (k + 1) (a + 1) (p + q) := by
  have hx : (0 : ℚ) < x.ratio.2 := Nat.cast_pos.mpr x.ratio_pos
  have hy : (0 : ℚ) < y.ratio.2 := Nat.cast_pos.mpr y.ratio_pos
  refine ofRatio (Nat.mul_pos x.ratio_pos y.ratio_pos) ?_ (h.moderate.add hother.moderate) hk ha
  have hsum : ((x.ratio.1 * y.ratio.2 + y.ratio.1 * x.ratio.2 : Nat) : ℚ) /
      (x.ratio.2 * y.ratio.2 : Nat) = x.value + y.value := by
    rw [← x.ratio_eq_value, ← y.ratio_eq_value, div_add_div _ _ hx.ne' hy.ne']
    push_cast
    ring
  rw [hsum]
  exact h.near.add hother.near

theorem div (h : x.Approximates j a p) (hother : y.Approximates k b q) (hq : 0 < q)
    (hjk : j + k ≤ 8) (hab : a + b ≤ 999) : (x.div y).Approximates (j + k + 1) (a + b) (p / q) := by
  have hvalue : 0 < y.value := by
    have hhalf := hother.near.symm.le_double hq.le (by omega)
    linarith
  have hnum : 0 < y.ratio.1 := by
    rcases Nat.eq_zero_or_pos y.ratio.1 with hzero | hpos
    · rw [← y.ratio_eq_value, hzero, Nat.cast_zero, zero_div] at hvalue
      exact absurd hvalue (lt_irrefl 0)
    · exact hpos
  refine ofRatio (Nat.mul_pos x.ratio_pos hnum) ?_ (h.moderate.div hother.moderate hq) hjk hab
  have hquotient : ((x.ratio.1 * y.ratio.2 : Nat) : ℚ) / (x.ratio.2 * y.ratio.1 : Nat) =
      x.value / y.value := by
    rw [← x.ratio_eq_value, ← y.ratio_eq_value, div_div_div_eq, Nat.cast_mul, Nat.cast_mul]
  rw [hquotient]
  exact h.near.div hother.near h.moderate.nonneg x.value_nonneg hq hvalue

end Approximates

end Binary64

end ChainArchive
