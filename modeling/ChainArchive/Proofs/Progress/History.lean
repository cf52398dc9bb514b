import ChainArchive.Progress
import Mathlib.Data.List.Induction

namespace ChainArchive.Progress

/-! The window against the whole history of the samples pushed. -/

structure Sample where
  value : Nat
  time : Nat
  deriving DecidableEq, Repr

structure Batch where
  first : Sample
  others : List Sample
  deriving DecidableEq, Repr

def Batch.samples (batch : Batch) : List Sample := batch.first :: batch.others

def greatest (samples : List Sample) : Nat := (samples.map Sample.value).foldl Nat.max 0

def near (granularity : Nat) (first sample : Sample) : Bool :=
  sample.time ≤ first.time + granularity

/-- A history, from its first sample on. A sample shares the bucket of the one that opened it
until a sample comes that lies beyond the granularity. -/
def batches (granularity : Nat) (samples : List Sample) : List Batch :=
  match samples with
  | [] => []
  | first :: later =>
      ⟨first, later.takeWhile (near granularity first)⟩ ::
        batches granularity (later.dropWhile (near granularity first))
termination_by samples.length
decreasing_by exact Nat.lt_succ_of_le (List.dropWhile_sublist _).length_le

/-- A bucket has the time of its first sample, and the greatest value up to its last. -/
def bucketsBehind (before : List Sample) : List Batch → List Bucket
  | [] => []
  | batch :: later =>
      ⟨greatest (before ++ batch.samples), batch.first.time⟩ ::
        bucketsBehind (before ++ batch.samples) later

def buckets (granularity : Nat) (samples : List Sample) : List Bucket :=
  bucketsBehind [] (batches granularity samples)

structure Precedes (granularity : Nat) (older newer : Bucket) : Prop where
  value : older.value ≤ newer.value
  time : older.time + granularity < newer.time

def pushAll (progress : Progress) (samples : List Sample) : Progress :=
  samples.foldl (fun progress sample => progress.push sample.value sample.time) progress

@[simp] theorem pushAll_nil (progress : Progress) : progress.pushAll [] = progress := rfl

@[simp] theorem pushAll_snoc (progress : Progress) (samples : List Sample) (sample : Sample) :
    progress.pushAll (samples ++ [sample]) =
      (progress.pushAll samples).push sample.value sample.time := by
  simp [pushAll]

@[simp] theorem push_pace (progress : Progress) (value time : Nat) :
    (progress.push value time).pace = progress.pace := rfl

@[simp] theorem pushAll_pace (progress : Progress) (samples : List Sample) :
    (progress.pushAll samples).pace = progress.pace := by
  induction samples using List.reverseRecOn with
  | nil => rfl
  | append_singleton samples sample ih => rw [pushAll_snoc, push_pace, ih]

@[simp] theorem greatest_snoc (samples : List Sample) (sample : Sample) :
    greatest (samples ++ [sample]) = Nat.max (greatest samples) sample.value := by
  simp [greatest]

theorem Precedes.rise {granularity : Nat} {older newer : Bucket}
    (h : Precedes granularity older newer) {value : Nat} (hvalue : newer.value ≤ value) :
    Precedes granularity older ⟨value, newer.time⟩ :=
  ⟨Nat.le_trans h.value hvalue, h.time⟩

theorem Precedes.trans {granularity : Nat} {older newer newest : Bucket}
    (h : Precedes granularity older newer) (hnewest : Precedes granularity newer newest) :
    Precedes granularity older newest where
  value := Nat.le_trans h.value hnewest.value
  time := by
    have holder := h.time
    have hnewer := hnewest.time
    omega

/-! What one more sample does to a history. -/

section Batches

variable (granularity : Nat)

@[simp] theorem batches_nil : batches granularity [] = [] := by
  rw [batches]

theorem batches_cons (first : Sample) (later : List Sample) :
    batches granularity (first :: later) =
      ⟨first, later.takeWhile (near granularity first)⟩ ::
        batches granularity (later.dropWhile (near granularity first)) := by
  rw [batches]

theorem flatMap_batches (samples : List Sample) :
    (batches granularity samples).flatMap Batch.samples = samples := by
  fun_induction batches granularity samples with
  | case1 => rfl
  | case2 first later ih =>
      rw [List.flatMap_cons, ih, Batch.samples, List.cons_append,
        List.takeWhile_append_dropWhile]

theorem batches_snoc {samples : List Sample} (h : samples ≠ []) (sample : Sample) :
    ∃ earlier newest, batches granularity samples = earlier ++ [newest] ∧
      batches granularity (samples ++ [sample]) =
        if near granularity newest.first sample then
          earlier ++ [⟨newest.first, newest.others ++ [sample]⟩]
        else earlier ++ [newest, ⟨sample, []⟩] := by
  fun_induction batches granularity samples with
  | case1 => exact absurd rfl h
  | case2 first later ih =>
      rw [List.cons_append, batches_cons, List.takeWhile_append, List.dropWhile_append]
      have hwhole := List.takeWhile_append_dropWhile (p := near granularity first) (l := later)
      cases hbeyond : later.dropWhile (near granularity first) with
      | nil =>
          -- The first batch is the newest as well.
          rw [hbeyond, List.append_nil] at hwhole
          refine ⟨[], ⟨first, later⟩, by simp [hwhole], ?_⟩
          by_cases hnear : near granularity first sample
          · simp [hwhole, hnear]
          · simp [hwhole, hnear, batches_cons]
      | cons next beyond =>
          rw [hbeyond] at ih hwhole
          have hshort : (later.takeWhile (near granularity first)).length ≠ later.length := by
            have hlength := congrArg List.length hwhole
            rw [List.length_append, List.length_cons] at hlength
            omega
          obtain ⟨earlier, newest, hbatches, hmore⟩ := ih (List.cons_ne_nil next beyond)
          refine ⟨⟨first, later.takeWhile (near granularity first)⟩ :: earlier, newest, ?_, ?_⟩
          · rw [hbatches, List.cons_append]
          · rw [if_neg hshort, if_neg (by simp), hmore]
            split <;> rfl

theorem bucketsBehind_snoc (before : List Sample) (earlier : List Batch) (newest : Batch) :
    bucketsBehind before (earlier ++ [newest]) = bucketsBehind before earlier ++
      [⟨greatest (before ++ (earlier ++ [newest]).flatMap Batch.samples), newest.first.time⟩] := by
  induction earlier generalizing before with
  | nil => simp [bucketsBehind]
  | cons batch earlier ih => simp [bucketsBehind, ih]

theorem buckets_snoc {samples : List Sample} (h : samples ≠ []) (sample : Sample) :
    ∃ older newest, buckets granularity samples = older ++ [newest] ∧
      newest.value = greatest samples ∧
      buckets granularity (samples ++ [sample]) =
        if sample.time ≤ newest.time + granularity then
          older ++ [⟨Nat.max newest.value sample.value, newest.time⟩]
        else older ++ [newest, ⟨Nat.max newest.value sample.value, sample.time⟩] := by
  obtain ⟨earlier, newest, hbatches, hmore⟩ := batches_snoc granularity h sample
  have hsamples := flatMap_batches granularity samples
  have hall := flatMap_batches granularity (samples ++ [sample])
  rw [hbatches] at hsamples
  refine ⟨bucketsBehind [] earlier, ⟨greatest samples, newest.first.time⟩, ?_, rfl, ?_⟩
  · rw [buckets, hbatches, bucketsBehind_snoc, List.nil_append, hsamples]
  · rw [buckets]
    simp only [near, decide_eq_true_eq] at hmore
    by_cases hnear : sample.time ≤ newest.first.time + granularity
    · rw [if_pos hnear] at hmore ⊢
      rw [hmore] at hall ⊢
      rw [bucketsBehind_snoc, List.nil_append, hall, greatest_snoc]
    · rw [if_neg hnear, List.append_cons earlier newest] at hmore
      rw [if_neg hnear]
      rw [hmore] at hall ⊢
      rw [bucketsBehind_snoc, bucketsBehind_snoc, List.nil_append, List.nil_append, hsamples,
        hall, greatest_snoc, List.append_assoc, List.singleton_append]

@[simp] theorem buckets_nil : buckets granularity [] = [] := by
  simp [buckets, bucketsBehind]

theorem buckets_singleton (sample : Sample) :
    buckets granularity [sample] = [⟨sample.value, sample.time⟩] := by
  simp [buckets, batches_cons, bucketsBehind, greatest, Batch.samples]

theorem buckets_pairwise (samples : List Sample) :
    (buckets granularity samples).Pairwise (Precedes granularity) := by
  induction samples using List.reverseRecOn with
  | nil => simp
  | append_singleton samples sample ih =>
      rcases eq_or_ne samples [] with rfl | hne
      · rw [List.nil_append, buckets_singleton]
        exact List.pairwise_singleton _ _
      obtain ⟨older, newest, hbuckets, -, hmore⟩ := buckets_snoc granularity hne sample
      have hgrows : newest.value ≤ Nat.max newest.value sample.value := Nat.le_max_left _ _
      rw [hbuckets, List.pairwise_append] at ih
      obtain ⟨holder, -, hnewest⟩ := ih
      have hbefore : ∀ bucket ∈ older, Precedes granularity bucket newest :=
        fun bucket hbucket => hnewest bucket hbucket newest (List.mem_singleton_self newest)
      rw [hmore]
      split
      · refine List.pairwise_append.mpr ⟨holder, List.pairwise_singleton _ _, ?_⟩
        intro bucket hbucket
        exact List.forall_mem_singleton.mpr ((hbefore bucket hbucket).rise hgrows)
      · rename_i hfar
        have hopens : Precedes granularity newest
            ⟨Nat.max newest.value sample.value, sample.time⟩ := ⟨hgrows, Nat.lt_of_not_le hfar⟩
        refine List.pairwise_append.mpr ⟨holder, List.pairwise_pair.mpr hopens, ?_⟩
        intro bucket hbucket
        have hthis := hbefore bucket hbucket
        exact List.forall_mem_cons.mpr
          ⟨hthis, List.forall_mem_singleton.mpr (hthis.trans hopens)⟩

theorem newest_value {samples : List Sample} {newest : Bucket} {older : List Bucket}
    (h : (buckets granularity samples).reverse = newest :: older) :
    newest.value = greatest samples := by
  have hne : samples ≠ [] := by
    rintro rfl
    simp at h
  obtain ⟨before, last, hbuckets, hvalue, -⟩ := buckets_snoc granularity hne ⟨0, 0⟩
  rw [hbuckets, List.reverse_append, List.reverse_singleton, List.singleton_append] at h
  cases h
  exact hvalue

end Batches

/-! The growth between the ends of a window. -/

section Growth

variable {progress : Progress}

theorem growth_few (h : progress.window.length < 2) : progress.growth.2 = 0 := by
  unfold growth
  match hwindow : progress.window with
  | [] => rfl
  | [only] => exact Nat.sub_self only.time
  | newest :: next :: older =>
      rw [hwindow] at h
      simp only [List.length_cons] at h
      omega

theorem growth_ends {newest oldest : Bucket} {between : List Bucket}
    (h : progress.window = newest :: (between ++ [oldest])) :
    progress.growth = (newest.value - oldest.value, newest.time - oldest.time) := by
  have hlast : (newest :: (between ++ [oldest])).getLast? = some oldest := by
    rw [← List.cons_append, List.getLast?_concat]
  rw [growth, h, hlast, List.head?_cons]

end Growth

/-! The window of the newest buckets. -/

section Window

variable (pace : Pace) (now : Nat) (samples : List Sample)

/-- What a sample does to the window, it does to all buckets: those that the window has lost do
not matter. -/
theorem addSample_take (newest : Bucket) (older : List Bucket) (value time : Nat) :
    addSample pace ((newest :: older).take (pace.steps + 1)) value time =
      (if time ≤ newest.time + pace.granularity then
        ⟨Nat.max newest.value value, newest.time⟩ :: older
      else ⟨Nat.max newest.value value, time⟩ :: newest :: older).take (pace.steps + 1) := by
  have hvalue : Nat.max value newest.value = Nat.max newest.value value := Nat.max_comm _ _
  rw [List.take_succ_cons]
  dsimp only [addSample]
  rw [hvalue]
  split
  · rw [List.take_succ_cons]
  · have hkept : (newest :: older.take pace.steps).take pace.steps =
        (newest :: older).take pace.steps := by
      cases pace.steps with
      | zero => rfl
      | succ steps => simp [List.take_take]
    rw [List.take_succ_cons, List.take_succ_cons, hkept]

theorem window_pushAll :
    ((start pace now).pushAll samples).window =
      (buckets pace.granularity samples).reverse.take (pace.steps + 1) := by
  induction samples using List.reverseRecOn with
  | nil => simp [start]
  | append_singleton samples sample ih =>
      rw [pushAll_snoc, push, pushAll_pace, ih]
      rcases eq_or_ne samples [] with rfl | hne
      · simp [buckets_singleton, addSample]
      obtain ⟨older, newest, hbuckets, -, hmore⟩ := buckets_snoc pace.granularity hne sample
      rw [hmore, hbuckets, List.reverse_append, List.reverse_singleton, List.singleton_append]
      refine (addSample_take pace newest older.reverse sample.value sample.time).trans ?_
      split <;> simp

theorem window_newest {newest : Bucket} {older : List Bucket}
    (h : ((start pace now).pushAll samples).window = newest :: older) :
    newest.value = greatest samples := by
  rw [window_pushAll] at h
  cases hall : (buckets pace.granularity samples).reverse with
  | nil => simp [hall] at h
  | cons first others =>
      rw [hall, List.take_succ_cons] at h
      cases h
      exact newest_value pace.granularity hall

end Window

/-- The window is the newest buckets of the whole history, and the speed is taken from the
greatest value of all samples. -/
theorem pushAll_recent (pace : Pace) (now : Nat) (samples : List Sample) :
    let progress := (start pace now).pushAll samples
    progress.window = (buckets pace.granularity samples).reverse.take (pace.steps + 1) ∧
    progress.window.Pairwise (fun newer older => Precedes pace.granularity older newer) ∧
    (progress.window.length < 2 → progress.speed = .zero) ∧
    ∀ newest between oldest, progress.window = newest :: (between ++ [oldest]) →
      newest.value = greatest samples ∧ oldest.value ≤ newest.value ∧ oldest.time < newest.time ∧
      progress.growth = (greatest samples - oldest.value, newest.time - oldest.time) ∧
      progress.speed =
        (Binary64.ofNat (greatest samples - oldest.value)).div
          (seconds (newest.time - oldest.time)) := by
  intro progress
  have hwindow := window_pushAll pace now samples
  have hordered : progress.window.Pairwise
      (fun newer older => Precedes pace.granularity older newer) := by
    rw [hwindow]
    exact (List.pairwise_reverse.mpr (buckets_pairwise pace.granularity samples)).sublist
      (List.take_sublist _ _)
  refine ⟨hwindow, hordered, fun hfew => ?_, fun newest between oldest hends => ?_⟩
  · rw [speed]
    exact if_pos (growth_few hfew)
  · have hgreatest : newest.value = greatest samples := window_newest pace now samples hends
    have holdest : Precedes pace.granularity oldest newest := by
      rw [hends] at hordered
      exact List.rel_of_pairwise_cons hordered (by simp)
    have htime : oldest.time < newest.time := by
      have hapart := holdest.time
      omega
    have hgrowth := growth_ends hends
    rw [hgreatest] at hgrowth
    refine ⟨hgreatest, holdest.value, htime, hgrowth, ?_⟩
    rw [speed, hgrowth]
    exact if_neg (Nat.sub_ne_zero_of_lt htime)

/-- The second sample steps back in time, and the third falls below it. -/
theorem pushAll_recent_unordered :
    let progress := (start ⟨1, 0, 0⟩ 0).pushAll [⟨5, 100⟩, ⟨9, 50⟩, ⟨3, 101⟩, ⟨12, 102⟩]
    progress.window = [⟨12, 102⟩, ⟨9, 101⟩] ∧ progress.growth = (3, 1) := by
  intro progress
  have hwindow : progress.window = [⟨12, 102⟩, ⟨9, 101⟩] := by decide
  obtain ⟨-, -, -, hends⟩ :=
    pushAll_recent ⟨1, 0, 0⟩ 0 [⟨5, 100⟩, ⟨9, 50⟩, ⟨3, 101⟩, ⟨12, 102⟩]
  exact ⟨hwindow, (hends _ [] _ hwindow).2.2.2.1⟩

end ChainArchive.Progress
