import ChainArchive.Proofs.Extraction.Course

namespace ChainArchive

open Relation

variable {σ : Type}

namespace Trouble

@[simp] theorem root_under (layer : Layer) (trouble : Trouble) :
    (trouble.under layer).root = trouble.root := by
  simp [root, under, List.getLast?_cons]

theorem isInterruption_under (layer : Layer) (trouble : Trouble) :
    (trouble.under layer).isInterruption = trouble.isInterruption := by
  simp [isInterruption]

end Trouble

namespace Extraction

/-! Queries that are sent although a stop is pending. -/

def stopPending (node : Node σ) (start : σ) (stopped : Bool) (queries : List Query) :
    Bool :=
  stopped || (node.answers start queries).any Answer.stop

/-- With a stop pending only the height is asked for. -/
def HeedsStop (node : Node σ) (start : σ) (stopped : Bool) (queries : List Query) : Prop :=
  ∀ before query after, queries = before ++ query :: after →
    stopPending node start stopped before = true → query = .height

theorem HeedsStop.snoc {node : Node σ} {start : σ} {stopped : Bool}
    {queries : List Query} (h : HeedsStop node start stopped queries)
    (hpending : stopPending node start stopped queries = false) (query : Query) :
    HeedsStop node start stopped (queries ++ [query]) := by
  intro before other after heq hbefore
  rcases List.eq_nil_or_concat after with rfl | ⟨init, last, rfl⟩
  · obtain ⟨rfl, -⟩ := List.append_inj' heq rfl
    rw [hpending] at hbefore
    cases hbefore
  · rw [List.concat_eq_append, ← List.cons_append, ← List.append_assoc] at heq
    obtain ⟨rfl, -⟩ := List.append_inj' heq rfl
    exact h before other init rfl hbefore

theorem heedsStop_height (node : Node σ) (start : σ) (stopped : Bool) :
    HeedsStop node start stopped [.height] := by
  intro before query after heq _
  cases before with
  | nil => exact (List.cons.inj heq).1.symm
  | cons first rest => cases rest <;> simp at heq

theorem Abreast.stopPending_eq {node : Node σ} {start : σ} {stopped : Bool} {path : String}
    {head : Nat} {agenda : Agenda} {tally : Tally} {run : Run σ}
    (h : Abreast node start stopped path head ⟨agenda, tally, run⟩) :
    stopPending node start stopped run.queries = run.stopped :=
  h.traced.stopped_eq.symm

theorem Step.heedsStop {node : Node σ} {start : σ} {stopped : Bool} {path : String}
    {head : Nat} {stage next : Stage σ} (h : Step node .none stage next)
    (habreast : Abreast node start stopped path head stage)
    (hheeds : HeedsStop node start stopped stage.run.queries) :
    HeedsStop node start stopped next.run.queries := by
  cases h with
  | close => simpa using hheeds
  | block hstop => exact hheeds.snoc (habreast.stopPending_eq.trans hstop) _
  | transaction hstop => exact hheeds.snoc (habreast.stopPending_eq.trans hstop) _

theorem Halts.heedsStop {node : Node σ} {start : σ} {stopped : Bool} {path : String}
    {head : Nat} {stage : Stage σ} {outcome : Except Trouble Tally × Run σ}
    (h : Halts node .none stage outcome)
    (habreast : Abreast node start stopped path head stage)
    (hheeds : HeedsStop node start stopped stage.run.queries) :
    HeedsStop node start stopped outcome.2.queries := by
  cases h with
  | finished => exact hheeds
  | stopped => exact hheeds
  | broken _ hstop =>
      rw [Run.queries_heard]
      exact hheeds.snoc (habreast.stopPending_eq.trans hstop) _
  | unwritten hstop => exact hheeds.snoc (habreast.stopPending_eq.trans hstop) _

theorem extract_ends {node : Node σ} {start next : σ} {disk : Disk} {path : String}
    (stopped : Bool) {reply : Reply Quantity} {head : Quantity}
    (hpath : disk.Accepts path) (hreply : node.height start = (reply, next))
    (hhead : reply.result = .ok head) :
    ∃ stage outcome, Halts node .none stage outcome ∧
      Abreast node start stopped path head.value stage ∧
      HeedsStop node start stopped stage.run.queries ∧
      Run.perform (extract (Run.world node) path) (.start start disk stopped) =
        conclude path head.value outcome := by
  obtain ⟨tally, run, hperform, habreast, -, hqueries, -⟩ :=
    extract_begins stopped hpath hreply hhead
  obtain ⟨last, hsteps, hhalts⟩ := exists_halts node .none ⟨.blocks 1 head.value, tally, run⟩
  have hheeds : HeedsStop node start stopped last.run.queries := by
    clear hhalts
    induction hsteps with
    | refl => exact hqueries ▸ heedsStop_height node start stopped
    | tail hfirst hstep ih => exact hstep.heedsStop (steps_abreast hfirst habreast) ih
  exact ⟨last, _, hhalts, steps_abreast hsteps habreast, hheeds, hperform⟩

theorem queries_conclude (path : String) (head : Nat)
    (outcome : Except Trouble Tally × Run σ) :
    (conclude path head outcome).2.queries = outcome.2.queries := by
  obtain ⟨result, run⟩ := outcome
  cases result <;> rfl

theorem extract_heightUnknown {node : Node σ} {refuses : Refusals} {start next : σ}
    (disk : Disk) (path : String) (stopped : Bool) {reply : Reply Quantity} {trouble : Trouble}
    (hreply : node.height start = (reply, next)) (hresult : reply.result = .error trouble) :
    Run.perform (extract (Run.refusing node refuses) path) (.start start disk stopped) =
      (.error (trouble.under .heightUnknown),
        (cleared (Run.start start disk stopped) path).heard (.height reply) next) := by
  have hperform :
      Run.perform (extract (Run.refusing node refuses) path) (.start start disk stopped) = _ :=
    perform_extract node refuses hreply
  simpa only [hresult] using hperform

theorem extract_heedsStop {node : Node σ} {start : σ} {disk : Disk} {path : String}
    (stopped : Bool) (hpath : disk.Accepts path) :
    HeedsStop node start stopped
      (Run.perform (extract (Run.world node) path) (.start start disk stopped)).2.queries := by
  cases hresult : (node.height start).1.result with
  | error trouble =>
      rw [extract_heightUnknown disk path stopped rfl hresult]
      simpa [Run.start, Answer.query] using heedsStop_height node start stopped
  | ok head =>
      obtain ⟨stage, outcome, hhalts, habreast, hheeds, hperform⟩ :=
        extract_ends stopped hpath rfl hresult
      rw [hperform, queries_conclude]
      exact hhalts.heedsStop habreast hheeds

theorem extract_recorded {node : Node σ} {start next : σ} {disk : Disk} {path : String}
    (stopped : Bool) {reply : Reply Quantity} {head : Quantity} (hpath : disk.Accepts path)
    (hreply : node.height start = (reply, next)) (hhead : reply.result = .ok head) :
    Recorded node start stopped path
      (Run.perform (extract (Run.world node) path) (.start start disk stopped)).2 := by
  obtain ⟨stage, outcome, hhalts, habreast, -, hperform⟩ :=
    extract_ends stopped hpath hreply hhead
  rw [hperform]
  exact conclude_recorded head.value (hhalts.recorded habreast)

/-! What a pending stop comes to. -/

theorem extract_interrupted {node : Node σ} {start next last : σ} {disk : Disk}
    {path : String} {stopped : Bool} {reply : Reply Quantity} {head : Quantity}
    {answers : List Answer} {agenda : Agenda} {target : Target} (hpath : disk.Accepts path)
    (hreply : node.height start = (reply, next)) (hhead : reply.result = .ok head)
    (hcourse : Course node (.blocks 1 head.value) next answers agenda last)
    (hsent : Answer.SentUnstopped (stopped || reply.stop) answers)
    (hpending : (stopped || reply.stop || answers.any Answer.stop) = true)
    (hnext : agenda.next? = some target) :
    let outcome := Run.perform (extract (Run.world node) path) (.start start disk stopped)
    outcome.1 = .error ((Trouble.of .interrupted).under (.fetch target)) ∧
      outcome.2.queries = .height :: answers.map Answer.query ∧
      outcome.2.disk.read path = .ok (Archive.text (Answer.transactions answers)) := by
  obtain ⟨agenda', tally, run, hperform, habreast, hasks, -, -, hqueries, htranscript⟩ :=
    extract_reaches hpath hreply hhead hcourse hsent
  have hstopped : run.stopped = true := by
    rw [habreast.traced.stopped_eq, htranscript, List.any_cons, ← Bool.or_assoc]
    exact hpending
  have hhalts : Halts node .none ⟨agenda', tally, run⟩ _ := .stopped (hasks.trans hnext) hstopped
  have hread := habreast.recorded.read_eq
  rw [htranscript] at hread
  rw [hperform, hhalts.outcome_eq]
  exact ⟨rfl, hqueries, hread⟩

theorem extract_uninterrupted {node : Node σ} {start : σ} {disk : Disk} {path : String}
    {trouble : Trouble} (hpath : disk.Accepts path)
    (hnode : ∀ state query own, (node.answer state query).1.error? = some own →
      own.isInterruption = false)
    (hquiet : ∀ answer ∈ (Run.perform (extract (Run.world node) path)
      (.start start disk false)).2.transcript node start, answer.stop = false)
    (htrouble : (Run.perform (extract (Run.world node) path)
      (.start start disk false)).1 = .error trouble) :
    trouble.isInterruption = false := by
  cases hresult : (node.height start).1.result with
  | error own =>
      rw [extract_heightUnknown disk path false rfl hresult] at htrouble
      cases htrouble
      rw [Trouble.isInterruption_under]
      exact hnode start .height own (by simp [Node.answer, Answer.error?, Reply.error?, hresult])
  | ok head =>
      obtain ⟨stage, outcome, hhalts, habreast, -, hperform⟩ :=
        extract_ends false hpath rfl hresult
      rw [hperform] at htrouble hquiet
      cases hhalts with
      | finished => cases htrouble
      | stopped _ hstop =>
          have hany := habreast.traced.stopped_eq.symm.trans hstop
          simp only [Bool.false_or, List.any_eq_true] at hany
          obtain ⟨answer, hmem, hset⟩ := hany
          rw [hquiet answer hmem] at hset
          cases hset
      | @broken _ _ run target answer _ fault _ _ hanswer hfault =>
          cases htrouble
          rw [Trouble.isInterruption_under]
          cases hown : answer.error? with
          | some own =>
              rw [Answer.trouble?_of_error? hown] at hfault
              cases hfault
              exact hnode run.node target.query fault (by rw [hanswer, hown])
          | none =>
              obtain ⟨number, rfl⟩ := Answer.trouble?_of_no_error hfault hown
              rfl
      | unwritten _ _ _ happend => exact absurd happend habreast.holds.attempt_none

/-- A stop that is asked for before or during an extraction. Once it is pending nothing but
the height is asked for, and every transaction that was returned is in the archive. When it
comes with a good reply, the extraction is interrupted at what it would have asked for
next, or, if that was all, returns its totals. Without a stop it is never interrupted. -/
theorem extract_stop {node : Node σ} {start next : σ} {disk : Disk} {path : String}
    {stopped : Bool} {reply : Reply Quantity} (hpath : disk.Accepts path)
    (hreply : node.height start = (reply, next)) :
    let outcome := Run.perform (extract (Run.world node) path) (.start start disk stopped)
    HeedsStop node start stopped outcome.2.queries ∧
    (∀ head, reply.result = .ok head →
      outcome.2.disk.read path =
        .ok (Archive.text (Answer.transactions (outcome.2.transcript node start)))) ∧
    (∀ head answers agenda last, reply.result = .ok head →
      Course node (.blocks 1 head.value) next answers agenda last →
      Answer.SentUnstopped (stopped || reply.stop) answers →
      (stopped || reply.stop || answers.any Answer.stop) = true →
      outcome.2.queries = .height :: answers.map Answer.query ∧
      outcome.2.disk.read path = .ok (Archive.text (Answer.transactions answers)) ∧
      outcome.1 =
        match agenda.next? with
        | some target => .error ((Trouble.of .interrupted).under (.fetch target))
        | none => .ok ⟨head.value, head.value, (Answer.transactions answers).length⟩) ∧
    ((∀ state query own, (node.answer state query).1.error? = some own →
        own.isInterruption = false) →
      stopped = false →
      (∀ answer ∈ outcome.2.transcript node start, answer.stop = false) →
      ∀ trouble, outcome.1 = .error trouble → trouble.isInterruption = false) := by
  intro outcome
  refine ⟨extract_heedsStop stopped hpath, ?_, ?_, ?_⟩
  · intro head hhead
    exact (extract_recorded stopped hpath hreply hhead).read_eq
  · intro head answers agenda last hhead hcourse hsent hpending
    cases hnext : agenda.next? with
    | none =>
        obtain ⟨hresult, hqueries, hread⟩ :=
          extract_finishes hpath hreply hhead hcourse hsent hnext
        exact ⟨hqueries, hread, hresult⟩
    | some target =>
        obtain ⟨hresult, hqueries, hread⟩ :=
          extract_interrupted hpath hreply hhead hcourse hsent hpending hnext
        exact ⟨hqueries, hread, hresult⟩
  · rintro hnode rfl hquiet trouble htrouble
    exact extract_uninterrupted hpath hnode hquiet htrouble

/-- The stop comes with the last transaction of the first of two blocks. -/
theorem extract_stop_between_blocks :
    let tx : Transaction :=
      ⟨"0x1", none, ⟨7, by decide⟩, none, none, none, none, none, none, none, []⟩
    let block : Block := ⟨⟨1, by decide⟩, none, ["0xaa", "0xbb"]⟩
    let node := Node.steady (.ok ⟨2, by decide⟩) (fun _ => .ok block) (fun _ => .ok tx)
      (fun query => query = .transaction "0xbb")
    let outcome := Run.perform (extract (Run.world node) "log") (.start () ⟨[]⟩ false)
    outcome.2.queries = [.height, .block 1, .transaction "0xaa", .transaction "0xbb"] ∧
      outcome.2.disk.read "log" = .ok (Archive.text [tx, tx]) ∧
      outcome.1 = .error ⟨.fetch (.block 2), [.interrupted]⟩ := by
  intro tx block node
  let answers : List Answer :=
    [.block 1 ⟨.ok block, [], false, 0⟩, .transaction "0xaa" ⟨.ok tx, [], false, 0⟩,
      .transaction "0xbb" ⟨.ok tx, [], true, 0⟩]
  have hpath : (⟨[]⟩ : Disk).Accepts "log" :=
    ⟨["log"], ⟨[(["log"], .file [])]⟩, by with_unfolding_all rfl, by decide⟩
  have hheight : node.height () = (⟨.ok ⟨2, by decide⟩, [], false, 0⟩, ()) := rfl
  have hcourse : Course node (.blocks 1 2) () answers (.transactions 1 [] 1) () :=
    .block rfl rfl rfl (.transaction rfl rfl (.transaction rfl rfl .done))
  have hsent : Answer.SentUnstopped (false || false) answers := ⟨rfl, rfl, rfl, trivial⟩
  exact (extract_stop hpath hheight).2.2.1 _ _ _ _ rfl hcourse hsent rfl

end Extraction

end ChainArchive
