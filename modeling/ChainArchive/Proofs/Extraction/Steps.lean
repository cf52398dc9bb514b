import ChainArchive.Proofs.Archive.Writing
import ChainArchive.Proofs.Except
import ChainArchive.Proofs.Extraction.Parametric
import ChainArchive.Proofs.Extraction.Transcript
import Mathlib.Logic.Relation

namespace ChainArchive

/-! Lines that are refused or not. -/

namespace Writer

variable {refuses : Refusals} {writer : Writer} {disk : Disk} {tx : Transaction}

theorem attempt_eq_ok {appended : Writer × Disk} :
    writer.attempt refuses disk tx = .ok appended ↔
      refuses writer.written = none ∧ writer.append disk tx = .ok appended := by
  unfold attempt Session.unlessRefused
  cases refuses writer.written <;> simp

theorem attempt_eq_error {trouble : Trouble} :
    writer.attempt refuses disk tx = .error trouble ↔
      (∃ fault, refuses writer.written = some fault ∧
        trouble = fileTrouble .append writer.path (.system fault)) ∨
      refuses writer.written = none ∧ writer.append disk tx = .error trouble := by
  unfold attempt Session.unlessRefused
  cases refuses writer.written <;> simp [eq_comm]

theorem Holds.attempt_none {txs : List Transaction} (h : writer.Holds disk txs)
    {trouble : Trouble} : writer.attempt .none disk tx ≠ .error trouble := by
  obtain ⟨later, happend, -⟩ := h.append tx
  rw [attempt_eq_ok.mpr ⟨rfl, happend⟩]
  exact nofun

end Writer

namespace Extraction

open Relation

/-! An extraction between two queries. -/

inductive Agenda where
  /-- So many blocks, the first of which has that number. -/
  | blocks (number count : Nat)
  /-- The transactions of a block, and so many blocks after it. -/
  | transactions (number : Nat) (hashes : List String) (count : Nat)

namespace Agenda

def asks : Agenda → Option Target
  | .blocks _ 0 => none
  | .blocks number (_ + 1) => some (.block number)
  | .transactions _ [] _ => none
  | .transactions number (hash :: _) _ => some (.transaction number hash)

def next? : Agenda → Option Target
  | .transactions number [] count => (blocks (number + 1) count).asks
  | agenda => agenda.asks

end Agenda

namespace Tally

def due (tally : Tally) (number now : Nat) : Bool :=
  ((tally.progress.push number now).report now).1

def completed (tally : Tally) (number now : Nat) : Tally :=
  ⟨tally.writer, ((tally.progress.push number now).report now).2, tally.blocks + 1⟩

end Tally

variable {σ : Type}

def noted (run : Run σ) (number : Nat) (tally : Tally) : Run σ :=
  if tally.due number run.clock then
    run.logged (.progress number (tally.completed number run.clock).progress.roundedSpeed)
  else run

def resume {m : Type → Type} [Monad m] (world : World m) (tally : Tally) :
    Agenda → Job m Tally
  | .blocks number count => archiveBlocks world count number tally
  | .transactions number hashes count => do
      let writer ← archiveTransactions world number hashes tally.writer
      let progress ← noteProgress world number tally.progress
      archiveBlocks world count (number + 1) ⟨writer, progress, tally.blocks + 1⟩

structure Stage (σ : Type) where
  agenda : Agenda
  tally : Tally
  run : Run σ

def Stage.outcome (node : Node σ) (refuses : Refusals) (stage : Stage σ) :
    Except Trouble Tally × Run σ :=
  Run.perform (resume (Run.refusing node refuses) stage.tally stage.agenda) stage.run

/-- A good reply moves the extraction on, and so does the end of a block. -/
inductive Step (node : Node σ) (refuses : Refusals) : Stage σ → Stage σ → Prop where
  | close {number count : Nat} {tally : Tally} {run : Run σ} :
      Step node refuses ⟨.transactions number [] count, tally, run⟩
        ⟨.blocks (number + 1) count, tally.completed number run.clock,
          noted run number tally⟩
  | block {number count : Nat} {tally : Tally} {run : Run σ} {reply : Reply Block}
      {next : σ} {block : Block} :
      run.stopped = false →
      node.block number run.node = (reply, next) →
      reply.result = .ok block →
      block.number.value = number →
      Step node refuses ⟨.blocks number (count + 1), tally, run⟩
        ⟨.transactions number block.transactions count, tally,
          (run.heard (.block number reply) next).logged
            (.fetchedBlock number block.hash block.transactions.length)⟩
  | transaction {number count : Nat} {hash : String} {rest : List String}
      {tally : Tally} {run : Run σ} {reply : Reply Transaction} {next : σ}
      {tx : Transaction} {writer : Writer} {disk : Disk} :
      run.stopped = false →
      node.transaction hash run.node = (reply, next) →
      reply.result = .ok tx →
      tally.writer.attempt refuses run.disk tx = .ok (writer, disk) →
      Step node refuses ⟨.transactions number (hash :: rest) count, tally, run⟩
        ⟨.transactions number rest count, { tally with writer },
          { (run.heard (.transaction hash reply) next).logged
              (.fetched tx.sender tx.recipient tx.nonce.value) with disk }⟩

/-- How an extraction ends: nothing is left to ask, a stop was asked for, an answer was no
good, or a line could not be written. -/
inductive Halts (node : Node σ) (refuses : Refusals) :
    Stage σ → Except Trouble Tally × Run σ → Prop where
  | finished {number : Nat} {tally : Tally} {run : Run σ} :
      Halts node refuses ⟨.blocks number 0, tally, run⟩ (.ok tally, run)
  | stopped {agenda : Agenda} {tally : Tally} {run : Run σ} {target : Target} :
      agenda.asks = some target →
      run.stopped = true →
      Halts node refuses ⟨agenda, tally, run⟩
        (.error ((Trouble.of .interrupted).under (.fetch target)), run)
  | broken {agenda : Agenda} {tally : Tally} {run : Run σ} {target : Target}
      {answer : Answer} {next : σ} {trouble : Trouble} :
      agenda.asks = some target →
      run.stopped = false →
      node.answer run.node target.query = (answer, next) →
      answer.trouble? = some trouble →
      Halts node refuses ⟨agenda, tally, run⟩
        (.error (trouble.under (.fetch target)), run.heard answer next)
  | unwritten {number count : Nat} {hash : String} {rest : List String} {tally : Tally}
      {run : Run σ} {reply : Reply Transaction} {next : σ} {tx : Transaction}
      {trouble : Trouble} :
      run.stopped = false →
      node.transaction hash run.node = (reply, next) →
      reply.result = .ok tx →
      tally.writer.attempt refuses run.disk tx = .error trouble →
      Halts node refuses ⟨.transactions number (hash :: rest) count, tally, run⟩
        (.error trouble,
          (run.heard (.transaction hash reply) next).logged
            (.fetched tx.sender tx.recipient tx.nonce.value))

/-! The jobs of an extraction, performed from one query to the next. -/

variable (node : Node σ) (refuses : Refusals)

theorem perform_checkStop (target : Target) (run : Run σ) :
    Run.perform (checkStop (Run.refusing node refuses) target) run =
      if run.stopped then (.error ((Trouble.of .interrupted).under (.fetch target)), run)
      else (.ok (), run) := by
  unfold checkStop
  rw [Run.perform_bind]
  cases hstop : run.stopped <;> simp [Run.refusing, hstop]

theorem perform_log (event : Event) (run : Run σ) :
    Run.perform (log (Run.refusing node refuses) event) run = (.ok (), run.logged event) := rfl

theorem perform_noteProgress (number : Nat) (tally : Tally) (run : Run σ) :
    Run.perform (noteProgress (Run.refusing node refuses) number tally.progress) run =
      (.ok (tally.completed number run.clock).progress, noted run number tally) := by
  change Run.perform
    (if tally.due number run.clock then
      log (Run.refusing node refuses) (.progress number
        (tally.completed number run.clock).progress.roundedSpeed) >>= fun _ =>
          pure (tally.completed number run.clock).progress
    else pure (tally.completed number run.clock).progress) run = _
  unfold noted
  cases tally.due number run.clock with
  | true => rfl
  | false => rfl

theorem perform_block (layer : Layer) (number : Nat) (run : Run σ) :
    Run.perform (Job.under layer (ExceptT.mk ((Run.refusing node refuses).block number))) run =
      ((node.block number run.node).1.result.mapError (Trouble.under layer),
        run.heard (.block number (node.block number run.node).1)
          (node.block number run.node).2) := rfl

theorem perform_transaction (layer : Layer) (hash : String) (run : Run σ) :
    Run.perform (Job.under layer (ExceptT.mk ((Run.refusing node refuses).transaction hash)))
        run =
      ((node.transaction hash run.node).1.result.mapError (Trouble.under layer),
        run.heard (.transaction hash (node.transaction hash run.node).1)
          (node.transaction hash run.node).2) := rfl

theorem perform_append (writer : Writer) (tx : Transaction) (run : Run σ) :
    Run.perform (ExceptT.mk ((Run.refusing node refuses).append writer tx)) run =
      match writer.attempt refuses run.disk tx with
      | .ok (writer, disk) => (.ok writer, { run with disk })
      | .error trouble => (.error trouble, run) := by
  change Run.onDisk (fun disk => writer.attempt refuses disk tx) run = _
  simp only [Run.onDisk]
  cases writer.attempt refuses run.disk tx with
  | error trouble => rfl
  | ok appended => rfl

theorem perform_fetchBlock {number : Nat} {run : Run σ} {reply : Reply Block} {next : σ}
    (hstop : run.stopped = false) (hreply : node.block number run.node = (reply, next)) :
    Run.perform (fetchBlock (Run.refusing node refuses) number) run =
      match reply.result with
      | .error trouble =>
          (.error (trouble.under (.fetch (.block number))),
            run.heard (.block number reply) next)
      | .ok block =>
          if block.number.value = number then
            (.ok block, (run.heard (.block number reply) next).logged
              (.fetchedBlock number block.hash block.transactions.length))
          else
            (.error ((Trouble.of (.misnumbered block.number.value)).under
              (.fetch (.block number))), run.heard (.block number reply) next) := by
  unfold fetchBlock
  rw [Run.perform_bind, perform_checkStop, hstop]
  simp only [Bool.false_eq_true, if_false]
  rw [Run.perform_bind, perform_block, hreply]
  cases reply.result with
  | error trouble => rfl
  | ok block =>
      by_cases hnumber : block.number.value = number
      · simp only [Outcome.mapError_ok, hnumber, ne_eq, not_true_eq_false, if_true, if_false]
        rfl
      · simp only [Outcome.mapError_ok, hnumber, ne_eq, not_false_eq_true, if_true, if_false]
        rfl

theorem perform_archiveTransaction {number : Nat} {hash : String} {writer : Writer}
    {run : Run σ} {reply : Reply Transaction} {next : σ} (hstop : run.stopped = false)
    (hreply : node.transaction hash run.node = (reply, next)) :
    Run.perform (archiveTransaction (Run.refusing node refuses) number hash writer) run =
      match reply.result with
      | .error trouble =>
          (.error (trouble.under (.fetch (.transaction number hash))),
            run.heard (.transaction hash reply) next)
      | .ok tx =>
          let fetched := (run.heard (.transaction hash reply) next).logged
            (.fetched tx.sender tx.recipient tx.nonce.value)
          match writer.attempt refuses run.disk tx with
          | .ok (writer, disk) => (.ok writer, { fetched with disk })
          | .error trouble => (.error trouble, fetched) := by
  unfold archiveTransaction
  rw [Run.perform_bind, perform_checkStop, hstop]
  simp only [Bool.false_eq_true, if_false]
  rw [Run.perform_bind, perform_transaction, hreply]
  cases reply.result with
  | error trouble => rfl
  | ok tx => simp only [Outcome.mapError_ok, Run.perform_bind, perform_log, perform_append,
      Run.disk_logged, Run.disk_heard]

/-! Each step leaves the outcome as it is, and the last stage has it. -/

theorem resume_blocks_succ {m : Type → Type} [Monad m] [LawfulMonad m] (world : World m)
    (tally : Tally) (number count : Nat) :
    resume world tally (.blocks number (count + 1)) =
      fetchBlock world number >>= fun block =>
        resume world tally (.transactions number block.transactions count) := by
  simp only [resume, archiveBlocks, archiveBlock, bind_assoc, pure_bind]

theorem resume_transactions_cons {m : Type → Type} [Monad m] [LawfulMonad m]
    (world : World m) (tally : Tally) (number count : Nat) (hash : String)
    (rest : List String) :
    resume world tally (.transactions number (hash :: rest) count) =
      archiveTransaction world number hash tally.writer >>= fun writer =>
        resume world { tally with writer } (.transactions number rest count) := by
  simp only [resume, archiveTransactions, bind_assoc]

theorem resume_transactions_nil {m : Type → Type} [Monad m] [LawfulMonad m]
    (world : World m) (tally : Tally) (number count : Nat) :
    resume world tally (.transactions number [] count) =
      noteProgress world number tally.progress >>= fun progress =>
        resume world ⟨tally.writer, progress, tally.blocks + 1⟩
          (.blocks (number + 1) count) := by
  simp only [resume, archiveTransactions, pure_bind]

theorem Step.outcome_eq {node : Node σ} {refuses : Refusals} {stage next : Stage σ}
    (h : Step node refuses stage next) :
    stage.outcome node refuses = next.outcome node refuses := by
  unfold Stage.outcome
  cases h with
  | close =>
      rw [resume_transactions_nil, Run.perform_bind, perform_noteProgress]
      rfl
  | block hstop hreply hresult hnumber =>
      rw [resume_blocks_succ, Run.perform_bind, perform_fetchBlock node refuses hstop hreply]
      simp only [hresult, hnumber, if_true]
  | transaction hstop hreply hresult happend =>
      rw [resume_transactions_cons, Run.perform_bind,
        perform_archiveTransaction node refuses hstop hreply]
      simp only [hresult, happend]

theorem steps_outcome_eq {node : Node σ} {refuses : Refusals} {stage last : Stage σ}
    (h : ReflTransGen (Step node refuses) stage last) :
    stage.outcome node refuses = last.outcome node refuses := by
  induction h with
  | refl => rfl
  | tail _ hstep ih => exact ih.trans hstep.outcome_eq

theorem outcome_of_stopped {agenda : Agenda} {tally : Tally} {run : Run σ}
    {target : Target} (hasks : agenda.asks = some target) (hstop : run.stopped = true) :
    Stage.outcome node refuses ⟨agenda, tally, run⟩ =
      (.error ((Trouble.of .interrupted).under (.fetch target)), run) := by
  unfold Stage.outcome
  match agenda, hasks with
  | .blocks number (count + 1), rfl =>
      rw [resume_blocks_succ]
      unfold fetchBlock
      simp only [Run.perform_bind, perform_checkStop, hstop, if_true]
  | .transactions number (hash :: rest) count, rfl =>
      rw [resume_transactions_cons]
      unfold archiveTransaction
      simp only [Run.perform_bind, perform_checkStop, hstop, if_true]

theorem outcome_of_trouble {agenda : Agenda} {tally : Tally} {run : Run σ}
    {target : Target} {answer : Answer} {next : σ} {trouble : Trouble}
    (hasks : agenda.asks = some target) (hstop : run.stopped = false)
    (hanswer : node.answer run.node target.query = (answer, next))
    (htrouble : answer.trouble? = some trouble) :
    Stage.outcome node refuses ⟨agenda, tally, run⟩ =
      (.error (trouble.under (.fetch target)), run.heard answer next) := by
  unfold Stage.outcome
  match agenda, hasks with
  | .blocks number (count + 1), rfl =>
      cases hanswer
      rw [resume_blocks_succ, Run.perform_bind, perform_fetchBlock node refuses hstop rfl]
      simp only [Answer.trouble?] at htrouble ⊢
      cases hresult : (node.block number run.node).1.result with
      | error fault =>
          rw [hresult] at htrouble
          cases htrouble
          rfl
      | ok block =>
          simp only [hresult] at htrouble
          split at htrouble
          · cases htrouble
          · rename_i hnumber
            cases htrouble
            simp only [hnumber, if_false]
            rfl
  | .transactions number (hash :: rest) count, rfl =>
      cases hanswer
      rw [resume_transactions_cons, Run.perform_bind,
        perform_archiveTransaction node refuses hstop rfl]
      simp only [Answer.trouble?, Answer.error?, Reply.error?] at htrouble ⊢
      cases hresult : (node.transaction hash run.node).1.result with
      | error fault =>
          rw [hresult] at htrouble
          cases htrouble
          rfl
      | ok tx =>
          rw [hresult] at htrouble
          cases htrouble

theorem Halts.outcome_eq {node : Node σ} {refuses : Refusals} {stage : Stage σ}
    {outcome : Except Trouble Tally × Run σ} (h : Halts node refuses stage outcome) :
    stage.outcome node refuses = outcome := by
  cases h with
  | finished => rfl
  | stopped hasks hstop => exact outcome_of_stopped node refuses hasks hstop
  | broken hasks hstop hanswer htrouble =>
      exact outcome_of_trouble node refuses hasks hstop hanswer htrouble
  | unwritten hstop hreply hresult happend =>
      unfold Stage.outcome
      rw [resume_transactions_cons, Run.perform_bind,
        perform_archiveTransaction node refuses hstop hreply]
      simp only [hresult, happend]

/-! Every extraction comes to an end. -/

theorem halts_or_step (stage : Stage σ) :
    (∃ outcome, Halts node refuses stage outcome) ∨ ∃ next, Step node refuses stage next := by
  obtain ⟨agenda, tally, run⟩ := stage
  cases hstop : run.stopped with
  | true =>
      match agenda with
      | .blocks number 0 => exact .inl ⟨_, .finished⟩
      | .blocks number (count + 1) => exact .inl ⟨_, .stopped rfl hstop⟩
      | .transactions number [] count => exact .inr ⟨_, .close⟩
      | .transactions number (hash :: rest) count => exact .inl ⟨_, .stopped rfl hstop⟩
  | false =>
      match agenda with
      | .blocks number 0 => exact .inl ⟨_, .finished⟩
      | .transactions number [] count => exact .inr ⟨_, .close⟩
      | .blocks number (count + 1) =>
          cases hresult : (node.block number run.node).1.result with
          | error trouble =>
              exact .inl ⟨_, .broken rfl hstop rfl (Answer.trouble?_block_error hresult)⟩
          | ok block =>
              by_cases hnumber : block.number.value = number
              · exact .inr ⟨_, .block hstop rfl hresult hnumber⟩
              · exact .inl ⟨_, .broken rfl hstop rfl
                  (Answer.trouble?_misnumbered hresult hnumber)⟩
      | .transactions number (hash :: rest) count =>
          cases hresult : (node.transaction hash run.node).1.result with
          | error trouble =>
              exact .inl ⟨_, .broken rfl hstop rfl
                (Answer.trouble?_transaction_error hresult)⟩
          | ok tx =>
              cases happend : tally.writer.attempt refuses run.disk tx with
              | error trouble => exact .inl ⟨_, .unwritten hstop rfl hresult happend⟩
              | ok appended => exact .inr ⟨_, .transaction hstop rfl hresult happend⟩

namespace Agenda

def size : Agenda → Nat × Nat
  | .blocks _ count => (count, 0)
  | .transactions _ hashes count => (count, hashes.length + 1)

end Agenda

theorem Step.size_lt {node : Node σ} {refuses : Refusals} {stage next : Stage σ}
    (h : Step node refuses stage next) :
    Prod.Lex (· < ·) (· < ·) next.agenda.size stage.agenda.size := by
  cases h with
  | close => exact .right _ (Nat.zero_lt_succ _)
  | block => exact .left _ _ (Nat.lt_succ_self _)
  | transaction => exact .right _ (Nat.lt_succ_self _)

theorem exists_halts (stage : Stage σ) :
    ∃ last, ReflTransGen (Step node refuses) stage last ∧
      Halts node refuses last (stage.outcome node refuses) := by
  rcases halts_or_step node refuses stage with ⟨outcome, hhalts⟩ | ⟨next, hstep⟩
  · exact ⟨stage, .refl, hhalts.outcome_eq.symm ▸ hhalts⟩
  · obtain ⟨last, hsteps, hhalts⟩ := exists_halts next
    exact ⟨last, .head hstep hsteps, hstep.outcome_eq.symm ▸ hhalts⟩
termination_by stage.agenda.size
decreasing_by exact hstep.size_lt

/-! Before the first block and after the last one. -/

def cleared (run : Run σ) (output : String) : Run σ :=
  match run.disk.remove output with
  | .ok disk => { run.logged (.deleted output) with disk }
  | .error .notFound => run
  | .error fault => run.logged (.notDeleted output fault)

theorem perform_removeStale (output : String) (run : Run σ) :
    Run.perform (removeStale (Run.refusing node refuses) output) run =
      (.ok (), cleared run output) := by
  unfold removeStale cleared
  rw [Run.perform_bind, Run.perform_lift]
  have hremove : (Run.refusing node refuses).remove output run =
      Run.onDisk (fun disk => do return ((), ← disk.remove output)) run := rfl
  simp only [hremove, Run.onDisk]
  cases run.disk.remove output with
  | ok disk => rfl
  | error fault => cases fault <;> rfl

def conclude (output : String) (head : Nat) :
    Except Trouble Tally × Run σ → Except Trouble Stats × Run σ
  | (.ok tally, run) =>
      (.ok ⟨head, tally.blocks, tally.writer.written⟩,
        run.logged (.wrote output tally.blocks tally.writer.written))
  | (.error trouble, run) => (.error trouble, run)

def firstStage (head : Nat) (writer : Writer) (run : Run σ) : Stage σ :=
  ⟨.blocks 1 head, ⟨writer, Progress.start pace run.clock, 0⟩, run⟩

def announced (run : Run σ) (output : String) (head : Nat) : Run σ :=
  (run.logged (.creating output)).logged (.total head)

@[simp] theorem node_cleared (run : Run σ) (output : String) :
    (cleared run output).node = run.node := by
  unfold cleared
  split <;> rfl

@[simp] theorem queries_cleared (run : Run σ) (output : String) :
    (cleared run output).queries = run.queries := by
  unfold cleared
  split <;> rfl

@[simp] theorem stopped_cleared (run : Run σ) (output : String) :
    (cleared run output).stopped = run.stopped := by
  unfold cleared
  split <;> rfl

theorem perform_height (layer : Layer) (run : Run σ) :
    Run.perform (Job.under layer (ExceptT.mk (Run.refusing node refuses).height)) run =
      ((node.height run.node).1.result.mapError (Trouble.under layer),
        run.heard (.height (node.height run.node).1) (node.height run.node).2) := rfl

theorem perform_create (output : String) (run : Run σ) :
    Run.perform (ExceptT.mk ((Run.refusing node refuses).create output)) run =
      match Writer.create run.disk output with
      | .ok (writer, disk) => (.ok writer, { run with disk })
      | .error trouble => (.error trouble, run) := by
  change Run.onDisk (fun disk => Writer.create disk output) run = _
  simp only [Run.onDisk]
  cases Writer.create run.disk output with
  | error trouble => rfl
  | ok created => rfl

theorem perform_conclude (output : String) (head : Nat) (tally : Tally) (run : Run σ) :
    Run.perform
        (do
          let tally ← archiveBlocks (Run.refusing node refuses) head 1 tally
          log (Run.refusing node refuses) (.wrote output tally.blocks tally.writer.written)
          return ⟨head, tally.blocks, tally.writer.written⟩) run =
      conclude output head (Stage.outcome node refuses ⟨.blocks 1 head, tally, run⟩) := by
  rw [Run.perform_bind]
  unfold Stage.outcome resume
  generalize Run.perform (archiveBlocks (Run.refusing node refuses) head 1 tally) run = outcome
  obtain ⟨result, reached⟩ := outcome
  cases result with
  | error trouble => rfl
  | ok tally => rfl

theorem perform_extractAnew {output : String} {run : Run σ} {reply : Reply Quantity} {next : σ}
    (hreply : node.height run.node = (reply, next)) :
    Run.perform (extractAnew (Run.refusing node refuses) output) run =
      let heard := run.heard (.height reply) next
      match reply.result with
      | .error trouble => (.error (trouble.under .heightUnknown), heard)
      | .ok head =>
          match Writer.create heard.disk output with
          | .error trouble => (.error trouble, announced heard output head.value)
          | .ok (writer, disk) =>
              conclude output head.value
                ((firstStage head.value writer
                  { announced heard output head.value with disk }).outcome node refuses) := by
  unfold extractAnew
  rw [Run.perform_bind, perform_height, hreply]
  cases reply.result with
  | error trouble => rfl
  | ok head =>
      dsimp only [Outcome.mapError_ok]
      rw [Run.perform_bind, perform_log]
      dsimp only
      rw [Run.perform_bind, perform_log]
      dsimp only
      rw [Run.perform_bind, perform_create]
      simp only [Run.disk_logged]
      cases Writer.create (run.heard (.height reply) next).disk output with
      | error trouble => rfl
      | ok created =>
          dsimp only
          rw [Run.perform_bind, Run.perform_lift]
          exact perform_conclude node refuses output head.value _ _

theorem perform_extract {output : String} {run : Run σ} {reply : Reply Quantity} {next : σ}
    (hreply : node.height run.node = (reply, next)) :
    Run.perform (extract (Run.refusing node refuses) output) run =
      let heard := (cleared run output).heard (.height reply) next
      match reply.result with
      | .error trouble => (.error (trouble.under .heightUnknown), heard)
      | .ok head =>
          match Writer.create heard.disk output with
          | .error trouble => (.error trouble, announced heard output head.value)
          | .ok (writer, disk) =>
              conclude output head.value
                ((firstStage head.value writer
                  { announced heard output head.value with disk }).outcome node refuses) := by
  rw [extract_eq, Run.perform_bind, perform_removeStale]
  exact perform_extractAnew node refuses (by rw [node_cleared, hreply])

end Extraction

end ChainArchive
