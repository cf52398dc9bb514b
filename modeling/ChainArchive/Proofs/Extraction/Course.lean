import ChainArchive.Proofs.Archive.Writing
import ChainArchive.Proofs.Extraction.Steps

namespace ChainArchive

open Relation

variable {σ : Type}

namespace Answer

def transactions (answers : List Answer) : List Transaction :=
  answers.filterMap transaction?

@[simp] theorem transactions_append (answers others : List Answer) :
    transactions (answers ++ others) = transactions answers ++ transactions others := by
  simp [transactions]

theorem transactions_singleton (answer : Answer) :
    transactions [answer] = answer.transaction?.toList := by
  cases h : answer.transaction? <;> simp [transactions, h]

theorem transactions_of_ok {hash : String} {reply : Reply Transaction} {tx : Transaction}
    (h : reply.result = .ok tx) : transactions [.transaction hash reply] = [tx] := by
  simp [transactions_singleton, transaction?, h]

theorem transaction?_of_trouble {answer : Answer} {trouble : Trouble}
    (h : answer.trouble? = some trouble) : answer.transaction? = none := by
  cases answer with
  | height reply => rfl
  | block number reply => rfl
  | transaction hash reply =>
      simp only [trouble?, error?, Reply.error?] at h
      cases hresult : reply.result with
      | error fault => simp [transaction?, hresult, Except.toOption]
      | ok tx => simp [hresult] at h

def SentUnstopped : Bool → List Answer → Prop
  | _, [] => True
  | pending, answer :: rest => pending = false ∧ SentUnstopped answer.stop rest

theorem sentUnstopped_of_quiet {answers : List Answer}
    (hquiet : ∀ answer ∈ answers, answer.stop = false) : SentUnstopped false answers := by
  induction answers with
  | nil => trivial
  | cons answer rest ih =>
      refine ⟨rfl, ?_⟩
      rw [hquiet answer (by simp)]
      exact ih fun other hother => hquiet other (by simp [hother])

end Answer

namespace Extraction

/-! Good replies, one after another. -/

/-- The node answers what the first agenda asks, reply by reply and each one good, until
the second agenda is reached. -/
inductive Course (node : Node σ) : Agenda → σ → List Answer → Agenda → σ → Prop where
  | done {agenda : Agenda} {state : σ} : Course node agenda state [] agenda state
  | close {number count : Nat} {state last : σ} {answers : List Answer}
      {agenda : Agenda} :
      Course node (.blocks (number + 1) count) state answers agenda last →
      Course node (.transactions number [] count) state answers agenda last
  | block {number count : Nat} {state next last : σ} {reply : Reply Block} {block : Block}
      {answers : List Answer} {agenda : Agenda} :
      node.block number state = (reply, next) →
      reply.result = .ok block →
      block.number.value = number →
      Course node (.transactions number block.transactions count) next answers agenda last →
      Course node (.blocks number (count + 1)) state (.block number reply :: answers)
        agenda last
  | transaction {number count : Nat} {hash : String} {rest : List String}
      {state next last : σ} {reply : Reply Transaction} {tx : Transaction}
      {answers : List Answer} {agenda : Agenda} :
      node.transaction hash state = (reply, next) →
      reply.result = .ok tx →
      Course node (.transactions number rest count) next answers agenda last →
      Course node (.transactions number (hash :: rest) count) state
        (.transaction hash reply :: answers) agenda last

theorem Course.trans {node : Node σ} {first second third : Agenda} {s t u : σ}
    {answers others : List Answer} (h : Course node first s answers second t)
    (hrest : Course node second t others third u) :
    Course node first s (answers ++ others) third u := by
  induction h with
  | done => exact hrest
  | close _ ih => exact .close (ih hrest)
  | block hreply hresult hnumber _ ih => exact .block hreply hresult hnumber (ih hrest)
  | transaction hreply hresult _ ih => exact .transaction hreply hresult (ih hrest)

theorem Course.answers_eq {node : Node σ} {first last : Agenda} {s t : σ}
    {answers : List Answer} (h : Course node first s answers last t) :
    node.answers s (answers.map Answer.query) = answers := by
  induction h with
  | done => rfl
  | close _ ih => exact ih
  | block hreply _ _ _ ih =>
      simp [Answer.query, Node.answers, Node.answer, hreply, ih]
  | transaction hreply _ _ ih =>
      simp [Answer.query, Node.answers, Node.answer, hreply, ih]

end Extraction

/-! Runs that only their queries have led to where they are. -/

namespace Run

def transcript (node : Node σ) (start : σ) (run : Run σ) : List Answer :=
  node.answers start run.queries

structure Traced (node : Node σ) (start : σ) (stopped : Bool) (run : Run σ) : Prop where
  node_eq : run.node = node.stateAfter start run.queries
  stopped_eq : run.stopped = (stopped || (run.transcript node start).any Answer.stop)

theorem transcript_heard {node : Node σ} {start : σ} {stopped : Bool} {run : Run σ}
    (h : run.Traced node start stopped) {query : Query} {answer : Answer} {next : σ}
    (hanswer : node.answer run.node query = (answer, next)) :
    (run.heard answer next).transcript node start =
      run.transcript node start ++ [answer] := by
  have hquery : answer.query = query := by
    rw [← node.query_answer run.node query, hanswer]
  simp [transcript, hquery, Node.answers, ← h.node_eq, hanswer]

theorem Traced.heard {node : Node σ} {start : σ} {stopped : Bool} {run : Run σ}
    (h : run.Traced node start stopped) {query : Query} {answer : Answer} {next : σ}
    (hanswer : node.answer run.node query = (answer, next)) :
    (run.heard answer next).Traced node start stopped := by
  have hquery : answer.query = query := by
    rw [← node.query_answer run.node query, hanswer]
  constructor
  · simp [hquery, Node.stateAfter, ← h.node_eq, hanswer]
  · simp [transcript_heard h hanswer, h.stopped_eq, Bool.or_assoc]

end Run

namespace Extraction

/-! What every stage of an extraction has in common. -/

def Agenda.Counts (head done : Nat) : Agenda → Prop
  | .blocks number count => number = done + 1 ∧ done + count = head
  | .transactions number _ count => number = done + 1 ∧ done + 1 + count = head

structure Abreast (node : Node σ) (start : σ) (stopped : Bool) (path : String)
    (head : Nat) (stage : Stage σ) : Prop where
  traced : stage.run.Traced node start stopped
  path_eq : stage.tally.writer.path = path
  holds : stage.tally.writer.Holds stage.run.disk
    (Answer.transactions (stage.run.transcript node start))
  counts : stage.agenda.Counts head stage.tally.blocks

section Noted

variable (run : Run σ) (number : Nat) (tally : Tally)

@[simp] theorem node_noted : (noted run number tally).node = run.node := by
  unfold noted
  split <;> rfl

@[simp] theorem disk_noted : (noted run number tally).disk = run.disk := by
  unfold noted
  split <;> rfl

@[simp] theorem stopped_noted : (noted run number tally).stopped = run.stopped := by
  unfold noted
  split <;> rfl

@[simp] theorem queries_noted : (noted run number tally).queries = run.queries := by
  unfold noted
  split <;> rfl

end Noted

theorem Step.abreast {node : Node σ} {start : σ} {stopped : Bool} {path : String}
    {head : Nat} {stage next : Stage σ} (h : Step node .none stage next)
    (habreast : Abreast node start stopped path head stage) :
    Abreast node start stopped path head next := by
  obtain ⟨htraced, hpath, hholds, hcounts⟩ := habreast
  cases h with
  | close =>
      obtain ⟨hnumber, hcount⟩ := hcounts
      refine ⟨⟨?_, ?_⟩, hpath, ?_, congrArg (· + 1) hnumber, hcount⟩
      · simpa using htraced.node_eq
      · simpa [Run.transcript] using htraced.stopped_eq
      · rw [disk_noted]
        simpa [Run.transcript, Tally.completed] using hholds
  | @block number count tally run reply next block hstop hreply hresult hnumber =>
      have hanswer : node.answer run.node (.block number) = (.block number reply, next) := by
        simp [Node.answer, hreply]
      have hheard := htraced.heard hanswer
      have htranscript := Run.transcript_heard htraced hanswer
      obtain ⟨hfirst, hcount⟩ := hcounts
      refine ⟨⟨hheard.node_eq, hheard.stopped_eq⟩, hpath, ?_, hfirst, ?_⟩
      · change tally.writer.Holds _
          (Answer.transactions ((run.heard (.block number reply) next).transcript node start))
        rw [htranscript, Answer.transactions_append, Answer.transactions_singleton]
        simpa [Answer.transaction?] using hholds
      · change tally.blocks + 1 + count = head
        change tally.blocks + (count + 1) = head at hcount
        omega
  | @transaction number count hash rest tally run reply next tx writer disk hstop hreply
      hresult happend =>
      have hanswer : node.answer run.node (.transaction hash) =
          (.transaction hash reply, next) := by
        simp [Node.answer, hreply]
      have hheard := htraced.heard hanswer
      have htranscript := Run.transcript_heard htraced hanswer
      obtain ⟨-, happend⟩ := Writer.attempt_eq_ok.mp happend
      obtain ⟨later, hlater, hnext⟩ := hholds.append tx
      obtain ⟨rfl, rfl⟩ : writer = _ ∧ disk = later := by
        simpa [happend] using hlater
      refine ⟨⟨hheard.node_eq, hheard.stopped_eq⟩, hpath, ?_, hcounts⟩
      change (tally.writer.advance (Archive.record tx)).Holds disk
        (Answer.transactions ((run.heard (.transaction hash reply) next).transcript node start))
      rw [htranscript, Answer.transactions_append, Answer.transactions_singleton]
      simpa [Answer.transaction?, hresult, Except.toOption] using hnext

theorem steps_abreast {node : Node σ} {start : σ} {stopped : Bool} {path : String}
    {head : Nat} {stage last : Stage σ} (h : ReflTransGen (Step node .none) stage last)
    (habreast : Abreast node start stopped path head stage) :
    Abreast node start stopped path head last := by
  induction h with
  | refl => exact habreast
  | tail _ hstep ih => exact hstep.abreast ih

/-! From a course of the node to the steps of the extraction. -/

theorem Course.steps {node : Node σ} {start : σ} {stopped : Bool} {path : String}
    {head : Nat} {first last : Agenda} {s t : σ} {answers : List Answer}
    (h : Course node first s answers last t) {tally : Tally} {run : Run σ}
    (habreast : Abreast node start stopped path head ⟨first, tally, run⟩)
    (hnode : run.node = s) (hsent : Answer.SentUnstopped run.stopped answers) :
    ∃ tally' run', ReflTransGen (Step node .none) ⟨first, tally, run⟩ ⟨last, tally', run'⟩ ∧
      run'.node = t ∧ run'.queries = run.queries ++ answers.map Answer.query := by
  induction h generalizing tally run with
  | done => exact ⟨tally, run, .refl, hnode, by simp⟩
  | @close number count _ _ _ _ _ ih =>
      have hstep : Step node .none ⟨.transactions number [] count, tally, run⟩ _ := .close
      obtain ⟨tally', run', hsteps, hlast, hqueries⟩ :=
        ih (hstep.abreast habreast) (by simpa using hnode) (by simpa using hsent)
      exact ⟨tally', run', .head hstep hsteps, hlast, by simpa using hqueries⟩
  | @block number count _ _ _ _ _ _ _ hreply hresult hnumber _ ih =>
      obtain ⟨hstop, hsent⟩ := hsent
      have hstep : Step node .none ⟨.blocks number (count + 1), tally, run⟩ _ :=
        .block hstop (hnode ▸ hreply) hresult hnumber
      obtain ⟨tally', run', hsteps, hlast, hqueries⟩ :=
        ih (hstep.abreast habreast) (by simp) (by simpa [hstop] using hsent)
      exact ⟨tally', run', .head hstep hsteps, hlast,
        by simpa [Answer.query] using hqueries⟩
  | @transaction number count hash rest _ _ _ _ tx _ _ hreply hresult _ ih =>
      obtain ⟨hstop, hsent⟩ := hsent
      obtain ⟨later, happend, _⟩ := habreast.holds.append tx
      have hstep : Step node .none ⟨.transactions number (hash :: rest) count, tally, run⟩ _ :=
        .transaction hstop (hnode ▸ hreply) hresult (Writer.attempt_eq_ok.mpr ⟨rfl, happend⟩)
      obtain ⟨tally', run', hsteps, hlast, hqueries⟩ :=
        ih (hstep.abreast habreast) (by simp) (by simpa [hstop] using hsent)
      exact ⟨tally', run', .head hstep hsteps, hlast,
        by simpa [Answer.query] using hqueries⟩

theorem exists_asks (node : Node σ) (agenda : Agenda) (tally : Tally) (run : Run σ) :
    ∃ stage, ReflTransGen (Step node .none) ⟨agenda, tally, run⟩ stage ∧
      stage.agenda.asks = agenda.next? ∧
      (agenda.next? = none → ∃ number, stage.agenda = .blocks number 0) ∧
      stage.run.node = run.node ∧ stage.run.queries = run.queries := by
  match agenda with
  | .blocks number 0 => exact ⟨_, .refl, rfl, fun _ => ⟨number, rfl⟩, rfl, rfl⟩
  | .blocks number (count + 1) => exact ⟨_, .refl, rfl, nofun, rfl, rfl⟩
  | .transactions number (hash :: rest) count => exact ⟨_, .refl, rfl, nofun, rfl, rfl⟩
  | .transactions number [] 0 =>
      exact ⟨_, .single .close, rfl, fun _ => ⟨_, rfl⟩, by simp, by simp⟩
  | .transactions number [] (count + 1) =>
      exact ⟨_, .single .close, rfl, nofun, by simp, by simp⟩

theorem cleared_accepts {run : Run σ} {path : String} (h : run.disk.Accepts path) :
    (cleared run path).disk.Accepts path := by
  unfold cleared
  split
  · rename_i disk hremove
    exact h.remove hremove
  · exact h
  · exact h

section Beginning

variable {node : Node σ} {start next : σ} {reply : Reply Quantity}
  (hreply : node.height start = (reply, next)) (disk : Disk) (stopped : Bool) (path : String)
  (head : Nat)

include hreply

theorem transcript_announced :
    (announced ((cleared (Run.start start disk stopped) path).heard (.height reply) next) path
      head).transcript node start = [.height reply] := by
  simp [Run.transcript, announced, Answer.query, Run.start, Node.answers, Node.answer, hreply]

theorem traced_announced :
    (announced ((cleared (Run.start start disk stopped) path).heard (.height reply) next) path
      head).Traced node start stopped := by
  constructor
  · simp [announced, Answer.query, Run.start, Node.stateAfter, Node.answer, hreply]
  · rw [transcript_announced hreply]
    simp [announced, Run.start, Answer.stop]

end Beginning

theorem extract_begins {node : Node σ} {start next : σ} {disk : Disk} {path : String}
    (stopped : Bool) {reply : Reply Quantity} {head : Quantity}
    (hpath : disk.Accepts path) (hreply : node.height start = (reply, next))
    (hhead : reply.result = .ok head) :
    ∃ tally run,
      Run.perform (extract (Run.world node) path) (.start start disk stopped) =
        conclude path head.value (Stage.outcome node .none ⟨.blocks 1 head.value, tally, run⟩) ∧
      Abreast node start stopped path head.value ⟨.blocks 1 head.value, tally, run⟩ ∧
      run.node = next ∧ run.queries = [.height] ∧ run.stopped = (stopped || reply.stop) := by
  have hclear : (cleared (Run.start start disk stopped) path).disk.Accepts path :=
    cleared_accepts hpath
  obtain ⟨writer, made, hcreate, hwriter, hholds⟩ := Writer.create_holds hclear
  have hperform : Run.perform (extract (Run.world node) path) (.start start disk stopped) = _ :=
    perform_extract node .none hreply
  simp only [hhead, Run.disk_heard, hcreate] at hperform
  have htraced := traced_announced hreply disk stopped path head.value
  refine ⟨_, _, hperform, ?_, rfl, ?_, ?_⟩
  · refine ⟨⟨htraced.node_eq, htraced.stopped_eq⟩, hwriter, ?_, rfl, Nat.zero_add _⟩
    change writer.Holds made (Answer.transactions ((announced ((cleared
      (Run.start start disk stopped) path).heard (.height reply) next) path
        head.value).transcript node start))
    rw [transcript_announced hreply]
    exact hholds
  · simp [announced, Answer.query, Run.start]
  · simp [announced, Run.start, Answer.stop]

/-- A course that the node takes, and that no stop breaks off, leads the extraction to what
is asked next. -/
theorem extract_reaches {node : Node σ} {start next last : σ} {disk : Disk} {path : String}
    {stopped : Bool} {reply : Reply Quantity} {head : Quantity} {answers : List Answer}
    {agenda : Agenda} (hpath : disk.Accepts path)
    (hreply : node.height start = (reply, next)) (hhead : reply.result = .ok head)
    (hcourse : Course node (.blocks 1 head.value) next answers agenda last)
    (hsent : Answer.SentUnstopped (stopped || reply.stop) answers) :
    ∃ agenda' tally run,
      Run.perform (extract (Run.world node) path) (.start start disk stopped) =
        conclude path head.value (Stage.outcome node .none ⟨agenda', tally, run⟩) ∧
      Abreast node start stopped path head.value ⟨agenda', tally, run⟩ ∧
      agenda'.asks = agenda.next? ∧
      (agenda.next? = none → ∃ number, agenda' = .blocks number 0) ∧
      run.node = last ∧ run.queries = .height :: answers.map Answer.query ∧
      run.transcript node start = .height reply :: answers := by
  obtain ⟨tally, run, hperform, habreast, hnode, hqueries, hstopped⟩ :=
    extract_begins stopped hpath hreply hhead
  obtain ⟨tally', run', hsteps, hlast, hlater⟩ :=
    hcourse.steps habreast hnode (hstopped ▸ hsent)
  obtain ⟨⟨agenda', tally'', run''⟩, hmore, hasks, hidle, hsame, hlatest⟩ :=
    exists_asks node agenda tally' run'
  have hall := hsteps.trans hmore
  have hasked : run''.queries = .height :: answers.map Answer.query := by
    rw [show run''.queries = run'.queries from hlatest, hlater, hqueries]
    rfl
  refine ⟨agenda', tally'', run'', ?_, steps_abreast hall habreast, hasks, hidle,
    hsame.trans hlast, hasked, ?_⟩
  · rw [hperform, steps_outcome_eq hall]
  · simp only [Run.transcript, hasked, Node.answers, Node.answer, hreply]
    exact congrArg _ hcourse.answers_eq

theorem extract_finishes {node : Node σ} {start next last : σ} {disk : Disk} {path : String}
    {stopped : Bool} {reply : Reply Quantity} {head : Quantity} {answers : List Answer}
    {agenda : Agenda} (hpath : disk.Accepts path)
    (hreply : node.height start = (reply, next)) (hhead : reply.result = .ok head)
    (hcourse : Course node (.blocks 1 head.value) next answers agenda last)
    (hsent : Answer.SentUnstopped (stopped || reply.stop) answers) (hend : agenda.next? = none) :
    let outcome := Run.perform (extract (Run.world node) path) (.start start disk stopped)
    outcome.1 = .ok ⟨head.value, head.value, (Answer.transactions answers).length⟩ ∧
      outcome.2.queries = .height :: answers.map Answer.query ∧
      outcome.2.disk.read path = .ok (Archive.text (Answer.transactions answers)) := by
  obtain ⟨agenda', tally, run, hperform, habreast, -, hidle, -, hqueries, htranscript⟩ :=
    extract_reaches hpath hreply hhead hcourse hsent
  obtain ⟨number, rfl⟩ := hidle hend
  obtain ⟨-, hcount⟩ := habreast.counts
  have hholds := habreast.holds
  have htxs : Answer.transactions (.height reply :: answers) = Answer.transactions answers := rfl
  rw [htranscript, htxs] at hholds
  have hread : run.disk.read path = .ok (Archive.text (Answer.transactions answers)) :=
    habreast.path_eq ▸ hholds.read
  rw [hperform, Halts.finished.outcome_eq]
  refine ⟨?_, hqueries, hread⟩
  have hblocks : tally.blocks = head.value := hcount
  have hwritten : tally.writer.written = (Answer.transactions answers).length := hholds.written
  simp [conclude, hblocks, hwritten]

/-! What the archive holds once the extraction has ended. -/

structure Recorded (node : Node σ) (start : σ) (stopped : Bool) (path : String)
    (run : Run σ) : Prop where
  traced : run.Traced node start stopped
  read_eq : run.disk.read path =
    .ok (Archive.text (Answer.transactions (run.transcript node start)))

theorem Abreast.recorded {node : Node σ} {start : σ} {stopped : Bool} {path : String}
    {head : Nat} {stage : Stage σ} (h : Abreast node start stopped path head stage) :
    Recorded node start stopped path stage.run :=
  ⟨h.traced, h.path_eq ▸ h.holds.read⟩

theorem Recorded.logged {node : Node σ} {start : σ} {stopped : Bool} {path : String}
    {run : Run σ} (h : Recorded node start stopped path run) (event : Event) :
    Recorded node start stopped path (run.logged event) :=
  ⟨⟨h.traced.node_eq, h.traced.stopped_eq⟩, h.read_eq⟩

theorem Recorded.heard {node : Node σ} {start : σ} {stopped : Bool} {path : String}
    {run : Run σ} (h : Recorded node start stopped path run) {query : Query}
    {answer : Answer} {next : σ} (hanswer : node.answer run.node query = (answer, next))
    (hnone : answer.transaction? = none) :
    Recorded node start stopped path (run.heard answer next) := by
  refine ⟨h.traced.heard hanswer, ?_⟩
  rw [Run.transcript_heard h.traced hanswer, Answer.transactions_append,
    Answer.transactions_singleton, hnone]
  simpa using h.read_eq

theorem Halts.recorded {node : Node σ} {start : σ} {stopped : Bool} {path : String}
    {head : Nat} {stage : Stage σ} {outcome : Except Trouble Tally × Run σ}
    (h : Halts node .none stage outcome) (habreast : Abreast node start stopped path head stage) :
    Recorded node start stopped path outcome.2 := by
  cases h with
  | finished => exact habreast.recorded
  | stopped => exact habreast.recorded
  | broken _ _ hanswer htrouble =>
      exact habreast.recorded.heard hanswer (Answer.transaction?_of_trouble htrouble)
  | unwritten _ _ _ happend => exact absurd happend habreast.holds.attempt_none

theorem conclude_recorded {node : Node σ} {start : σ} {stopped : Bool} {path : String}
    {outcome : Except Trouble Tally × Run σ} (head : Nat)
    (h : Recorded node start stopped path outcome.2) :
    Recorded node start stopped path (conclude path head outcome).2 := by
  obtain ⟨result, run⟩ := outcome
  cases result with
  | error trouble => exact h
  | ok tally => exact h.logged _

end Extraction

end ChainArchive
