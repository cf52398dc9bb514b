import ChainArchive.Decimal.Shortest

namespace ChainArchive

/-! The rate at which a count grows, over a sliding window of samples. Times are in
nanoseconds. -/

/-- How many steps between samples the rate spans, how close samples fall into one, and
how long to wait between reports. -/
structure Pace where
  steps : Nat
  granularity : Nat
  interval : Nat
  deriving DecidableEq, Repr

structure Bucket where
  value : Nat
  time : Nat
  deriving DecidableEq, Repr

/-- The window holds its newest bucket first. -/
structure Progress where
  pace : Pace
  window : List Bucket
  lastReport : Nat
  deriving DecidableEq, Repr

namespace Progress

def second : Nat := 1000000000

inductive Refusal where
  | emptyWindow
  deriving DecidableEq, Repr

def Refusal.message : Refusal → String
  | .emptyWindow => "assertion failed: window_size > 0"

def start (pace : Pace) (now : Nat) : Progress := ⟨pace, [], now⟩

def start? (pace : Pace) (now : Nat) : Except Refusal Progress :=
  if pace.steps = 0 then .error .emptyWindow else .ok (start pace now)

/-- A later sample opens a bucket when it lies beyond the granularity of the newest;
values never fall. -/
def addSample (pace : Pace) (window : List Bucket) (value time : Nat) : List Bucket :=
  match window with
  | [] => [⟨value, time⟩]
  | newest :: older =>
      let value := Nat.max value newest.value
      if time ≤ newest.time + pace.granularity then ⟨value, newest.time⟩ :: older
      else (⟨value, time⟩ :: window).take (pace.steps + 1)

def push (progress : Progress) (value time : Nat) : Progress :=
  { progress with window := addSample progress.pace progress.window value time }

def growth (progress : Progress) : Nat × Nat :=
  match progress.window.head?, progress.window.getLast? with
  | some newest, some oldest =>
      (newest.value - oldest.value, newest.time - oldest.time)
  | _, _ => (0, 0)

def seconds (time : Nat) : Binary64 :=
  (Binary64.ofNat (time / second)).add
    ((Binary64.ofNat (time % second)).div (Binary64.ofNat second))

def speed (progress : Progress) : Binary64 :=
  let growth := progress.growth
  if growth.2 = 0 then .zero
  else (Binary64.ofNat growth.1).div (seconds growth.2)

def roundedSpeed (progress : Progress) : String := progress.speed.round.wholeText

def report (progress : Progress) (now : Nat) : Bool × Progress :=
  if progress.pace.interval ≤ now - progress.lastReport then
    (true, { progress with lastReport := now })
  else (false, progress)

end Progress

end ChainArchive
