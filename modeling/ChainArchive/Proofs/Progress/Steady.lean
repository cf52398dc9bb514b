import ChainArchive.Proofs.Decimal.Rounding
import ChainArchive.Proofs.Progress.History
import Mathlib.Algebra.Order.Field.Rat
import Mathlib.Tactic.Positivity
import Mathlib.Tactic.Ring

namespace ChainArchive.Progress

/-! The rate of samples that rise by one at even intervals. -/

/-- The rate that the speed stands for: the growth over the time it took. -/
def rate (progress : Progress) : ℚ := progress.growth.1 / progress.growth.2

theorem seconds_approximates {time : Nat} (h : time < 2 ^ 64 * second) :
    (seconds time).Approximates 4 65 (time / second) := by
  have hsecond : 0 < second := by decide
  have hwhole : (Binary64.ofNat (time / second)).Approximates 1 64 (time / second : Nat) :=
    .ofNat (Nat.div_lt_of_lt_mul (by rwa [Nat.mul_comm])).le (by decide)
  have hrest : (Binary64.ofNat (time % second)).Approximates 1 30 (time % second : Nat) :=
    .ofNat ((Nat.mod_lt time hsecond).le.trans (by decide)) (by decide)
  have hunit : (Binary64.ofNat second).Approximates 1 30 second := .ofNat (by decide) (by decide)
  have hpart := hrest.div hunit (Nat.cast_pos.mpr hsecond) (by decide) (by decide)
  have hsum := (hwhole.mono (by decide) le_rfl).add (hpart.mono le_rfl (by decide : 60 ≤ 64))
    (by decide) (by decide)
  have hexact : ((time / second : Nat) : ℚ) + (time % second : Nat) / second = time / second := by
    rw [eq_div_iff (Nat.cast_pos.mpr hsecond).ne', add_mul,
      div_mul_cancel₀ _ (Nat.cast_pos.mpr hsecond).ne']
    exact_mod_cast Nat.div_add_mod' time second
  rwa [hexact] at hsum

/-- The speed is the rate in seconds, but for a few roundings. -/
theorem speed_error {progress : Progress} (hvalue : progress.growth.1 < 2 ^ 64)
    (htime : progress.growth.2 < 2 ^ 64 * second) :
    |progress.speed.value - second * progress.rate| ≤ second * progress.rate / 2 ^ 50 := by
  unfold speed rate
  dsimp only
  split
  · rename_i hnone
    simp [hnone, Binary64.value_zero]
  · rename_i hsome
    have hpositive : (0 : ℚ) < progress.growth.2 / second :=
      div_pos (Nat.cast_pos.mpr (Nat.pos_of_ne_zero hsome)) (Nat.cast_pos.mpr (by decide))
    have hspeed := (Binary64.Approximates.ofNat hvalue.le (by decide)).div
      (seconds_approximates htime) hpositive (by decide) (by decide)
    have hrate : (progress.growth.1 : ℚ) / (progress.growth.2 / second) =
        second * (progress.growth.1 / progress.growth.2) := by
      rw [div_div_eq_mul_div, mul_comm, mul_div_assoc]
    rw [hrate] at hspeed
    exact hspeed.near.error hspeed.moderate.nonneg (Binary64.value_nonneg _)

def steady (first : Sample) (period count : Nat) : List Sample :=
  (List.range count).map fun i => ⟨first.value + i, first.time + i * period⟩

@[simp] theorem steady_zero (first : Sample) (period : Nat) : steady first period 0 = [] := rfl

theorem steady_succ (first : Sample) (period count : Nat) :
    steady first period (count + 1) =
      steady first period count ++ [⟨first.value + count, first.time + count * period⟩] := by
  simp [steady, List.range_succ]

/-! Windows of such samples. A bucket takes the sample that opens it and `room` others. -/

/-- Full buckets, the newest first, behind which this sample opens the next. -/
inductive Filled (room period : Nat) : Sample → List Bucket → Prop where
  | nil {opening : Sample} : Filled room period opening []
  | cons {opening : Sample} {older : List Bucket} (h : Filled room period opening older) :
      Filled room period
        ⟨opening.value + (room + 1), opening.time + (room + 1) * period⟩
        (⟨opening.value + room, opening.time⟩ :: older)

/-- The window when this sample was pushed last: full buckets and, before them, one that holds
some samples besides the one that opened it. -/
inductive Holds (room period : Nat) (latest : Sample) : List Bucket → Prop where
  | intro {opening : Sample} {older : List Bucket} {held : Nat} (hheld : held ≤ room)
      (hvalue : latest.value = opening.value + held)
      (htime : latest.time = opening.time + held * period)
      (h : Filled room period opening older) :
      Holds room period latest (⟨latest.value, opening.time⟩ :: older)

theorem Filled.take {room period : Nat} {opening : Sample} {older : List Bucket}
    (h : Filled room period opening older) (kept : Nat) :
    Filled room period opening (older.take kept) := by
  induction h generalizing kept with
  | nil =>
      rw [List.take_nil]
      exact .nil
  | cons h ih =>
      cases kept with
      | zero => exact .nil
      | succ kept => exact .cons (ih kept)

theorem Filled.ends {room period : Nat} {opening : Sample} {between : List Bucket}
    {oldest : Bucket} (h : Filled room period opening (between ++ [oldest])) :
    opening.value = oldest.value + between.length * (room + 1) + 1 ∧
      opening.time = oldest.time + (between.length + 1) * ((room + 1) * period) := by
  induction between generalizing opening with
  | nil =>
      cases h with
      | cons h => simp; omega
  | cons bucket between ih =>
      cases h with
      | cons h =>
          obtain ⟨hvalue, htime⟩ := ih h
          dsimp only
          rw [hvalue, htime, List.length_cons]
          constructor <;> ring

section Window

variable {pace : Pace} {period : Nat}

theorem Holds.push (hperiod : 0 < period) {latest : Sample} {window : List Bucket}
    (h : Holds (pace.granularity / period) period latest window) :
    Holds (pace.granularity / period) period ⟨latest.value + 1, latest.time + period⟩
      (addSample pace window (latest.value + 1) (latest.time + period)) := by
  cases h with
  | @intro opening older held hheld hvalue htime h =>
      have hmax : Nat.max (latest.value + 1) latest.value = latest.value + 1 :=
        Nat.max_eq_left (Nat.le_succ _)
      have hlater : latest.time + period = opening.time + (held + 1) * period := by
        rw [htime]
        ring
      have hroom : latest.time + period ≤ opening.time + pace.granularity ↔
          held + 1 ≤ pace.granularity / period := by
        rw [hlater, Nat.add_le_add_iff_left, Nat.le_div_iff_mul_le hperiod]
      dsimp only [addSample]
      rw [hmax]
      by_cases hmore : held + 1 ≤ pace.granularity / period
      · rw [if_pos (hroom.mpr hmore)]
        exact .intro hmore (congrArg (· + 1) hvalue) hlater h
      · rw [if_neg (mt hroom.mp hmore), List.take_succ_cons]
        have hfull : held = pace.granularity / period := by omega
        rw [← hfull] at h ⊢
        rw [hvalue, hlater]
        have hnext := h.cons.take pace.steps
        exact .intro (Nat.zero_le held) rfl (by rw [Nat.zero_mul]; rfl) hnext

theorem holds_steady (hperiod : 0 < period) (now : Nat) (first : Sample) (count : Nat) :
    Holds (pace.granularity / period) period
      ⟨first.value + count, first.time + count * period⟩
      ((start pace now).pushAll (steady first period (count + 1))).window := by
  induction count with
  | zero =>
      have hwindow : ((start pace now).pushAll (steady first period 1)).window =
          [⟨first.value + 0, first.time⟩] := by
        simp [steady_succ, pushAll, push, addSample, start]
      rw [hwindow]
      exact @Holds.intro _ _ _ first [] 0 (Nat.zero_le _) rfl rfl .nil
  | succ count ih =>
      have hlater : first.time + (count + 1) * period = first.time + count * period + period := by
        ring
      rw [steady_succ, pushAll_snoc, Progress.push, pushAll_pace, hlater]
      exact ih.push hperiod

end Window

/-! Growth and rate. -/

theorem Holds.growth {room period : Nat} {latest : Sample} {progress : Progress}
    (h : Holds room period latest progress.window) {steps : Nat}
    (hlength : progress.window.length = steps + 2) :
    ∃ held, held ≤ room ∧ progress.growth =
      (steps * (room + 1) + held + 1, (steps + 1) * ((room + 1) * period)) := by
  generalize hwindow : progress.window = window at h hlength
  cases h with
  | @intro opening older held hheld hvalue htime h =>
      obtain ⟨between, oldest, rfl⟩ : ∃ between oldest, older = between ++ [oldest] :=
        (List.eq_nil_or_concat' older).resolve_left (by rintro rfl; simp at hlength)
      have hsteps : between.length = steps := by simpa using hlength
      obtain ⟨hopening, hopened⟩ := h.ends
      rw [hsteps] at hopening hopened
      refine ⟨held, hheld, ?_⟩
      rw [growth_ends hwindow, Prod.mk.injEq]
      dsimp only
      omega

theorem rate_few {progress : Progress} (h : progress.window.length < 2) : progress.rate = 0 := by
  rw [rate, growth_few h, Nat.cast_zero, div_zero]

section Rate

variable {progress : Progress} {steps room period held : Nat} (hperiod : 0 < period)
  (hgrowth : progress.growth =
    (steps * (room + 1) + held + 1, (steps + 1) * ((room + 1) * period)))

include hperiod hgrowth

theorem rate_le_of_growth (hheld : held ≤ room) : progress.rate ≤ 1 / period := by
  have hcross : (steps * (room + 1) + held + 1) * period ≤
      1 * ((steps + 1) * ((room + 1) * period)) := by
    calc
      (steps * (room + 1) + held + 1) * period ≤ (steps * (room + 1) + room + 1) * period :=
        Nat.mul_le_mul_right period (by omega)
      _ = 1 * ((steps + 1) * ((room + 1) * period)) := by ring
  rw [rate, hgrowth, div_le_div_iff₀ (by positivity) (by positivity)]
  exact_mod_cast hcross

theorem lt_rate_of_growth : (steps : ℚ) / ((steps + 1) * period) < progress.rate := by
  have hcross : steps * ((steps + 1) * ((room + 1) * period)) <
      (steps * (room + 1) + held + 1) * ((steps + 1) * period) := by
    calc
      steps * ((steps + 1) * ((room + 1) * period)) =
          (steps * (room + 1)) * ((steps + 1) * period) := by ring
      _ < (steps * (room + 1) + held + 1) * ((steps + 1) * period) :=
        Nat.mul_lt_mul_of_pos_right (by omega) (by positivity)
  rw [rate, hgrowth, div_lt_div_iff₀ (by positivity) (by positivity)]
  exact_mod_cast hcross

end Rate

/-- The rate of a steady stream is never above the true one, and over a full window it falls
short by less than one step's share. The speed is that rate in seconds, up to its rounding, as
long as growth and seconds are below the end of a word. -/
theorem rate_steady (pace : Pace) (hsteps : 0 < pace.steps) {period : Nat} (hperiod : 0 < period)
    (now : Nat) (first : Sample) (count : Nat) :
    let progress := (start pace now).pushAll (steady first period count)
    progress.rate ≤ 1 / period ∧
    (progress.window.length = pace.steps + 1 →
      ((pace.steps : ℚ) - 1) / (pace.steps * period) < progress.rate) ∧
    (progress.growth.1 < 2 ^ 64 → progress.growth.2 < 2 ^ 64 * second →
      |progress.speed.value - second * progress.rate| ≤ second * progress.rate / 2 ^ 50) := by
  intro progress
  rw [← and_assoc]
  refine ⟨?_, speed_error⟩
  rcases Nat.lt_or_ge progress.window.length 2 with hfew | hmany
  · rw [rate_few hfew]
    refine ⟨by positivity, fun hfull => ?_⟩
    omega
  obtain ⟨steps, hlength⟩ := Nat.exists_eq_add_of_le' hmany
  obtain ⟨held, hheld, hgrowth⟩ : ∃ held, held ≤ pace.granularity / period ∧ progress.growth =
      (steps * (pace.granularity / period + 1) + held + 1,
        (steps + 1) * ((pace.granularity / period + 1) * period)) := by
    cases count with
    | zero => simp [progress, start] at hmany
    | succ count => exact (holds_steady hperiod now first count).growth hlength
  refine ⟨rate_le_of_growth hperiod hgrowth hheld, fun hfull => ?_⟩
  have hall : pace.steps = steps + 1 := by omega
  have hshort := lt_rate_of_growth hperiod hgrowth
  rw [hall]
  push_cast
  rwa [add_sub_cancel_right]

/-- Three samples to a bucket, when the newest of two buckets has just opened. -/
theorem rate_steady_opened :
    let progress := (start ⟨1, 5, 0⟩ 0).pushAll (steady ⟨7, 100⟩ 2 4)
    progress.window = [⟨10, 106⟩, ⟨9, 100⟩] ∧ progress.rate ≤ 1 / 2 ∧ 0 < progress.rate ∧
      0 < progress.speed.value := by
  intro progress
  have hwindow : progress.window = [⟨10, 106⟩, ⟨9, 100⟩] := by decide
  have hgrowth : progress.growth = (1, 6) := by decide
  obtain ⟨hle, hlt, hspeed⟩ :=
    rate_steady ⟨1, 5, 0⟩ (by decide) (by decide : 0 < 2) 0 ⟨7, 100⟩ 4
  have hshort : 0 < progress.rate := by simpa using hlt (congrArg List.length hwindow)
  have herror : |progress.speed.value - second * progress.rate| ≤ second * progress.rate / 2 ^ 50 :=
    hspeed (by rw [hgrowth]; decide) (by rw [hgrowth]; decide)
  refine ⟨hwindow, ?_, hshort, ?_⟩
  · simpa using hle
  · have hbelow := (abs_le.mp herror).1
    have hscaled : 0 < (second : ℚ) * progress.rate :=
      mul_pos (Nat.cast_pos.mpr (by decide)) hshort
    linarith

end ChainArchive.Progress
