import ChainArchive.Proofs.Progress.History

namespace ChainArchive.Progress

/-! Reports that are made when they are due, against the whole history of the samples pushed. -/

/-- The samples that are reported: each one that comes an interval or more after the one that
was reported before it, or after the start. -/
def reported (interval : Nat) : Nat → List Sample → List Sample
  | _, [] => []
  | last, sample :: later =>
      if last + interval ≤ sample.time then sample :: reported interval sample.time later
      else reported interval last later

def latest (started : Nat) (reports : List Sample) : Nat :=
  (reports.getLast?.map Sample.time).getD started

theorem latest_nil (started : Nat) : latest started [] = started := rfl

theorem latest_cons (started : Nat) (first : Sample) (reports : List Sample) :
    latest started (first :: reports) = latest first.time reports := by
  cases reports with
  | nil => rfl
  | cons next reports => rfl

theorem latest_snoc (started : Nat) (reports : List Sample) (sample : Sample) :
    latest started (reports ++ [sample]) = sample.time := by
  simp [latest]

theorem latest_le {started bound : Nat} {reports : List Sample} (hstarted : started ≤ bound)
    (h : ∀ report ∈ reports, report.time ≤ bound) : latest started reports ≤ bound := by
  rcases List.eq_nil_or_concat reports with rfl | ⟨before, last, rfl⟩
  · exact hstarted
  · rw [List.concat_eq_append, latest_snoc]
    exact h last (by simp)

section Reported

variable (interval : Nat)

theorem reported_snoc (started : Nat) (samples : List Sample) (sample : Sample) :
    reported interval started (samples ++ [sample]) =
      reported interval started samples ++
        if latest started (reported interval started samples) + interval ≤ sample.time then
          [sample]
        else [] := by
  induction samples generalizing started with
  | nil => rfl
  | cons first later ih =>
      rw [List.cons_append, reported, reported]
      split
      · rw [ih, latest_cons, List.cons_append]
      · rw [ih]

theorem reported_sublist (started : Nat) (samples : List Sample) :
    (reported interval started samples).Sublist samples := by
  induction samples generalizing started with
  | nil => exact .slnil
  | cons first later ih =>
      rw [reported]
      split
      · exact (ih first.time).cons_cons first
      · exact (ih started).cons first

theorem le_time_of_reported (started : Nat) (samples : List Sample) :
    ∀ report ∈ reported interval started samples, started + interval ≤ report.time := by
  induction samples generalizing started with
  | nil => simp [reported]
  | cons first later ih =>
      intro report hreport
      rw [reported] at hreport
      split at hreport
      · rename_i hdue
        cases hreport with
        | head => exact hdue
        | tail _ hlater =>
            have hbehind := ih first.time report hlater
            omega
      · exact ih started report hreport

theorem reported_apart (started : Nat) (samples : List Sample) :
    (reported interval started samples).Pairwise fun earlier later =>
      earlier.time + interval ≤ later.time := by
  induction samples generalizing started with
  | nil => exact .nil
  | cons first later ih =>
      rw [reported]
      split
      · exact .cons (le_time_of_reported interval first.time later) (ih first.time)
      · exact ih started

theorem length_reported (started : Nat) (samples : List Sample) :
    started + (reported interval started samples).length * interval ≤
      latest started (reported interval started samples) := by
  induction samples generalizing started with
  | nil => simp [reported, latest_nil]
  | cons first later ih =>
      rw [reported]
      split
      · have hlater := ih first.time
        rw [latest_cons, List.length_cons, Nat.succ_mul]
        omega
      · exact ih started

theorem started_le_latest (started : Nat) (samples : List Sample) :
    started ≤ latest started (reported interval started samples) :=
  Nat.le_trans (Nat.le_add_right _ _) (length_reported interval started samples)

theorem time_lt_latest (hinterval : 0 < interval) (started : Nat) (samples : List Sample) :
    ∀ sample ∈ samples,
      sample.time < latest started (reported interval started samples) + interval := by
  induction samples generalizing started with
  | nil => simp
  | cons first later ih =>
      intro sample hsample
      rw [reported]
      split
      · have hlatest := started_le_latest interval first.time later
        rw [latest_cons]
        cases hsample with
        | head => omega
        | tail _ hlater => exact ih first.time sample hlater
      · have hlatest := started_le_latest interval started later
        cases hsample with
        | head => omega
        | tail _ hlater => exact ih started sample hlater

theorem mem_reported_iff {started : Nat} {earlier later : List Sample} {sample : Sample}
    (h : (earlier ++ sample :: later).Pairwise fun before behind => before.value < behind.value) :
    sample ∈ reported interval started (earlier ++ sample :: later) ↔
      latest started (reported interval started earlier) + interval ≤ sample.time := by
  induction earlier generalizing started with
  | nil =>
      obtain ⟨hfirst, -⟩ := List.pairwise_cons.mp h
      change sample ∈ (if started + interval ≤ sample.time then
        sample :: reported interval sample.time later else reported interval started later) ↔
          started + interval ≤ sample.time
      constructor
      · intro hmem
        split at hmem
        · assumption
        · have hlater := (reported_sublist interval started later).subset hmem
          exact absurd (hfirst sample hlater) (Nat.lt_irrefl _)
      · intro hdue
        rw [if_pos hdue]
        exact List.mem_cons_self
  | cons first earlier ih =>
      obtain ⟨hfirst, hrest⟩ := List.pairwise_cons.mp h
      have hne : sample ≠ first := by
        intro heq
        subst heq
        exact absurd (hfirst sample (by simp)) (Nat.lt_irrefl _)
      rw [List.cons_append, reported, reported]
      split
      · rw [latest_cons, ← ih hrest, List.mem_cons, or_iff_right hne]
      · exact ih hrest

end Reported

/-! The state that a history has led to. -/

theorem roundedSpeed_of_window {progress other : Progress} (h : progress.window = other.window) :
    progress.roundedSpeed = other.roundedSpeed := by
  unfold roundedSpeed speed growth
  rw [h]

structure Follows (pace : Pace) (started : Nat) (samples : List Sample) (progress : Progress) :
    Prop where
  pace_eq : progress.pace = pace
  window_eq : progress.window = ((start pace started).pushAll samples).window
  lastReport_eq : progress.lastReport = latest started (reported pace.interval started samples)

theorem follows_start (pace : Pace) (started : Nat) :
    Follows pace started [] (start pace started) :=
  ⟨rfl, rfl, rfl⟩

theorem Follows.report {pace : Pace} {started : Nat} {samples : List Sample} {progress : Progress}
    (h : Follows pace started samples progress) (hinterval : 0 < pace.interval) (sample : Sample) :
    let reports := reported pace.interval started samples
    let next := (progress.push sample.value sample.time).report sample.time
    next.1 = decide (latest started reports + pace.interval ≤ sample.time) ∧
      next.2.roundedSpeed = ((start pace started).pushAll (samples ++ [sample])).roundedSpeed ∧
      Follows pace started (samples ++ [sample]) next.2 := by
  intro reports next
  have hwindow : (progress.push sample.value sample.time).window =
      ((start pace started).pushAll (samples ++ [sample])).window := by
    rw [pushAll_snoc, push, push, h.window_eq, h.pace_eq, pushAll_pace]
    rfl
  have hdue : (progress.push sample.value sample.time).pace.interval ≤
      sample.time - (progress.push sample.value sample.time).lastReport ↔
        latest started reports + pace.interval ≤ sample.time := by
    have hlast : (progress.push sample.value sample.time).lastReport = latest started reports :=
      h.lastReport_eq
    rw [push_pace, h.pace_eq, hlast]
    omega
  by_cases hmade : latest started reports + pace.interval ≤ sample.time
  · have hnext : next =
        (true, { progress.push sample.value sample.time with lastReport := sample.time }) :=
      if_pos (hdue.mpr hmade)
    rw [hnext]
    refine ⟨(decide_eq_true hmade).symm, roundedSpeed_of_window hwindow, h.pace_eq, hwindow, ?_⟩
    rw [reported_snoc, if_pos hmade, latest_snoc]
  · have hnext : next = (false, progress.push sample.value sample.time) :=
      if_neg (mt hdue.mp hmade)
    rw [hnext]
    refine ⟨(decide_eq_false hmade).symm, roundedSpeed_of_window hwindow, h.pace_eq, hwindow, ?_⟩
    rw [reported_snoc, if_neg hmade, List.append_nil]
    exact h.lastReport_eq

end ChainArchive.Progress
