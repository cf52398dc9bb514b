import ChainArchive.Decimal.Shortest

namespace ChainArchive

/-! Only zero is written with the digit zero alone. -/

theorem Decimal.stripZeros_digits {d : Decimal} (fuel : Nat) (h : d.digits ≠ 0) :
    (d.stripZeros fuel).digits ≠ 0 := by
  induction fuel generalizing d with
  | zero => exact h
  | succ fuel ih =>
      rw [stripZeros]
      split
      · refine ih ?_
        change d.digits / 10 ≠ 0
        omega
      · exact h

namespace Binary64

variable {x : Binary64}

theorem bounds_pos (h : x.mantissa ≠ 0) : 0 < x.bounds.1 := by
  simp only [bounds]
  split <;> omega

theorem digits_of_readsBack (h : x.mantissa ≠ 0) {d : Decimal} (hreads : x.readsBack d = true) :
    d.digits ≠ 0 := by
  intro hzero
  have hscale : 0 < (commonScale d.exponent (x.exponent - 2)).2 :=
    Nat.mul_pos (Nat.pow_pos (by decide)) (Nat.pow_pos (by decide))
  have hlow : 0 < x.bounds.1 * (commonScale d.exponent (x.exponent - 2)).2 :=
    Nat.mul_pos (bounds_pos h) hscale
  simp only [readsBack, hzero, Nat.zero_mul] at hreads
  split at hreads
  · simp only [Bool.and_eq_true, decide_eq_true_eq] at hreads
    omega
  · simp only [Bool.and_eq_true, decide_eq_true_eq] at hreads
    omega

theorem digits_of_onGrid? (h : x.mantissa ≠ 0) {exponent : Int} {d : Decimal}
    (hfound : x.onGrid? exponent = some d) : d.digits ≠ 0 := by
  unfold onGrid? at hfound
  simp only at hfound
  split at hfound
  · cases hfound
  · rename_i hdown _
    cases hfound
    exact digits_of_readsBack h hdown
  · rename_i _ hup
    cases hfound
    exact digits_of_readsBack h hup
  · rename_i hdown hup
    split at hfound
    · cases hfound
      exact digits_of_readsBack h hdown
    · cases hfound
      exact digits_of_readsBack h hup

theorem shortest_digits (h : x.mantissa ≠ 0) : x.shortest.digits ≠ 0 := by
  have hzero : x.isZero = false := by simpa [isZero] using h
  rw [shortest, hzero]
  simp only [Bool.false_eq_true, if_false]
  refine Decimal.stripZeros_digits 17 ?_
  cases hfound : (List.range 17).findSome? fun (n : Nat) =>
      x.onGrid? (decimalExponent x.ratio.1 x.ratio.2 - n) with
  | none => exact h
  | some d =>
      obtain ⟨n, _, hgrid⟩ := List.exists_of_findSome?_eq_some hfound
      exact digits_of_onGrid? h hgrid

theorem shortest_zero (h : x.mantissa = 0) : x.shortest = ⟨0, 0⟩ := by
  have hzero : x.isZero = true := by simpa [isZero] using h
  rw [shortest, hzero]
  rfl

end Binary64

end ChainArchive
