import ChainArchive.Extraction

namespace ChainArchive

/-! An extraction does nothing but what its world offers, so a relation between jobs that
holds of all that two worlds offer holds of their extractions. -/

variable {m n : Type → Type} [Monad m] [Monad n]

structure Job.Congruent (related : ∀ α : Type, Job m α → Job n α → Prop) : Prop where
  pure : ∀ {α : Type} (a : α), related α (Pure.pure a) (Pure.pure a)
  throw : ∀ {α : Type} (trouble : Trouble),
    related α (MonadExcept.throw trouble) (MonadExcept.throw trouble)
  bind : ∀ {α β : Type} {job : Job m α} {other : Job n α} {next : α → Job m β}
    {next' : α → Job n β}, related α job other → (∀ a, related β (next a) (next' a)) →
      related β (job >>= next) (other >>= next')
  under : ∀ {α : Type} {job : Job m α} {other : Job n α}, related α job other →
    ∀ layer, related α (Job.under layer job) (Job.under layer other)

theorem Quantity.one_add_le (quantity : Quantity) : 1 + quantity.value ≤ wordSize := by
  have hsmall := quantity.small
  omega

namespace Event

def ofExtraction : Event → Bool
  | .readingChain _ | .stopRequested | .done _ _ | .sendRequest _ _ | .callFailed _ _ => false
  | _ => true

end Event

/-- All that is done once a previous archive is out of the way is related in the two
worlds; blocks are asked for by words only. -/
structure World.Meets (related : ∀ α : Type, Job m α → Job n α → Prop) (world : World m)
    (other : World n) : Prop where
  height : related Quantity (ExceptT.mk world.height) (ExceptT.mk other.height)
  block : ∀ number, number < wordSize →
    related Block (ExceptT.mk (world.block number)) (ExceptT.mk (other.block number))
  transaction : ∀ hash, related Transaction (ExceptT.mk (world.transaction hash))
    (ExceptT.mk (other.transaction hash))
  stopped : related Bool (ExceptT.lift world.stopped) (ExceptT.lift other.stopped)
  now : related Nat (ExceptT.lift world.now) (ExceptT.lift other.now)
  log : ∀ event, event.ofExtraction = true →
    related Unit (ExceptT.lift (world.log event)) (ExceptT.lift (other.log event))
  create : ∀ path, related Writer (ExceptT.mk (world.create path))
    (ExceptT.mk (other.create path))
  append : ∀ writer tx, related Writer (ExceptT.mk (world.append writer tx))
    (ExceptT.mk (other.append writer tx))

namespace Extraction

def extractAnew (world : World m) (output : String) : Job m Stats := do
  let head ← Job.under .heightUnknown (ExceptT.mk world.height)
  log world (.creating output)
  log world (.total head.value)
  let writer ← ExceptT.mk (world.create output)
  let progress := Progress.start pace (← ExceptT.lift world.now)
  let tally ← archiveBlocks world head.value 1 ⟨writer, progress, 0⟩
  log world (.wrote output tally.blocks tally.writer.written)
  return ⟨head.value, tally.blocks, tally.writer.written⟩

theorem extract_eq (world : World m) (output : String) :
    extract world output = removeStale world output >>= fun _ => extractAnew world output :=
  rfl

/-! The jobs of an extraction, each from those it is made of. -/

section Worlds

variable {related : ∀ α : Type, Job m α → Job n α → Prop} {world : World m} {other : World n}
  (hjobs : Job.Congruent related) (h : World.Meets related world other)

include hjobs h

theorem checkStop_meets (target : Target) :
    related Unit (checkStop world target) (checkStop other target) := by
  refine hjobs.bind h.stopped fun stopped => ?_
  cases stopped with
  | true => exact hjobs.throw _
  | false => exact hjobs.pure _

theorem removeStale_meets {output : String}
    (hremove : related _ (ExceptT.lift (world.remove output))
      (ExceptT.lift (other.remove output))) :
    related Unit (removeStale world output) (removeStale other output) := by
  refine hjobs.bind hremove fun removed => ?_
  cases removed with
  | ok _ => exact h.log _ rfl
  | error fault =>
      cases fault with
      | notFound => exact hjobs.pure _
      | _ => exact h.log _ rfl

theorem fetchBlock_meets {number : Nat} (hnumber : number < wordSize) :
    related Block (fetchBlock world number) (fetchBlock other number) := by
  refine hjobs.bind (checkStop_meets hjobs h _) fun _ => ?_
  refine hjobs.bind (hjobs.under (h.block number hnumber) _) fun block => ?_
  by_cases hsame : block.number.value = number
  · simp only [hsame, ne_eq, not_true_eq_false, if_false]
    exact hjobs.bind (h.log _ rfl) fun _ => hjobs.pure block
  · simp only [hsame, ne_eq, not_false_eq_true, if_true]
    exact hjobs.bind (hjobs.throw _) fun _ =>
      hjobs.bind (h.log _ rfl) fun _ => hjobs.pure block

theorem archiveTransaction_meets (number : Nat) (hash : String) (writer : Writer) :
    related Writer (archiveTransaction world number hash writer)
      (archiveTransaction other number hash writer) := by
  refine hjobs.bind (checkStop_meets hjobs h _) fun _ => ?_
  refine hjobs.bind (hjobs.under (h.transaction hash) _) fun tx => ?_
  exact hjobs.bind (h.log _ rfl) fun _ => h.append writer tx

theorem archiveTransactions_meets (number : Nat) (hashes : List String) (writer : Writer) :
    related Writer (archiveTransactions world number hashes writer)
      (archiveTransactions other number hashes writer) := by
  induction hashes generalizing writer with
  | nil => exact hjobs.pure writer
  | cons hash rest ih =>
      exact hjobs.bind (archiveTransaction_meets hjobs h number hash writer) ih

theorem noteProgress_meets (number : Nat) (progress : Progress) :
    related Progress (noteProgress world number progress)
      (noteProgress other number progress) := by
  refine hjobs.bind h.now fun now => ?_
  cases hdue : (progress.push number now).report now with
  | mk due reported =>
      cases due with
      | true => exact hjobs.bind (h.log _ rfl) fun _ => hjobs.pure reported
      | false => exact hjobs.pure reported

theorem archiveBlock_meets {number : Nat} (hnumber : number < wordSize) (tally : Tally) :
    related Tally (archiveBlock world number tally) (archiveBlock other number tally) := by
  refine hjobs.bind (fetchBlock_meets hjobs h hnumber) fun block => ?_
  refine hjobs.bind
    (archiveTransactions_meets hjobs h number block.transactions tally.writer) fun writer => ?_
  exact hjobs.bind (noteProgress_meets hjobs h number tally.progress) fun progress =>
    hjobs.pure _

theorem archiveBlocks_meets {count number : Nat} (hcount : number + count ≤ wordSize)
    (tally : Tally) :
    related Tally (archiveBlocks world count number tally)
      (archiveBlocks other count number tally) := by
  induction count generalizing number tally with
  | zero => exact hjobs.pure tally
  | succ count ih =>
      refine hjobs.bind (archiveBlock_meets hjobs h (by omega) tally) fun next => ?_
      exact ih (by omega) next

theorem conclude_meets (output : String) {head : Nat} (hhead : 1 + head ≤ wordSize)
    (tally : Tally) :
    related Stats
      (do
        let tally ← archiveBlocks world head 1 tally
        log world (.wrote output tally.blocks tally.writer.written)
        return ⟨head, tally.blocks, tally.writer.written⟩)
      (do
        let tally ← archiveBlocks other head 1 tally
        log other (.wrote output tally.blocks tally.writer.written)
        return ⟨head, tally.blocks, tally.writer.written⟩) := by
  refine hjobs.bind (archiveBlocks_meets hjobs h hhead tally) fun tally => ?_
  exact hjobs.bind (h.log _ rfl) fun _ => hjobs.pure _

theorem extractAnew_meets (output : String) :
    related Stats (extractAnew world output) (extractAnew other output) := by
  refine hjobs.bind (hjobs.under h.height _) fun head => ?_
  refine hjobs.bind (h.log _ rfl) fun _ => hjobs.bind (h.log _ rfl) fun _ => ?_
  refine hjobs.bind (h.create output) fun writer => hjobs.bind h.now fun now => ?_
  exact conclude_meets hjobs h output head.one_add_le _

theorem extract_meets {output : String}
    (hremove : related _ (ExceptT.lift (world.remove output))
      (ExceptT.lift (other.remove output))) :
    related Stats (extract world output) (extract other output) :=
  hjobs.bind (removeStale_meets hjobs h hremove) fun _ => extractAnew_meets hjobs h output

end Worlds

end Extraction

end ChainArchive
