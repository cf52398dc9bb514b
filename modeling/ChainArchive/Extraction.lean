import ChainArchive.Progress
import ChainArchive.World

namespace ChainArchive

/-! Archiving a chain: every transaction of the blocks from one to the height that the node
first tells. -/

structure Stats where
  head : Nat
  blocks : Nat
  transactions : Nat
  deriving DecidableEq, Repr

namespace Extraction

variable {m : Type → Type} [Monad m] (world : World m)

def log (event : Event) : Job m Unit := ExceptT.lift (world.log event)

def checkStop (target : Target) : Job m Unit := do
  if ← ExceptT.lift world.stopped then
    throw ((Trouble.of .interrupted).under (.fetch target))

/-- A previous archive that cannot be removed is left to the creation of the new one. -/
def removeStale (output : String) : Job m Unit := do
  match ← ExceptT.lift (world.remove output) with
  | .ok () => log world (.deleted output)
  | .error .notFound => pure ()
  | .error fault => log world (.notDeleted output fault)

def fetchBlock (number : Nat) : Job m Block := do
  let target := Target.block number
  checkStop world target
  let block ← Job.under (.fetch target) (ExceptT.mk (world.block number))
  if block.number.value ≠ number then
    throw ((Trouble.of (.misnumbered block.number.value)).under (.fetch target))
  log world (.fetchedBlock number block.hash block.transactions.length)
  return block

def archiveTransaction (number : Nat) (hash : String) (writer : Writer) :
    Job m Writer := do
  let target := Target.transaction number hash
  checkStop world target
  let tx ← Job.under (.fetch target) (ExceptT.mk (world.transaction hash))
  log world (.fetched tx.sender tx.recipient tx.nonce.value)
  ExceptT.mk (world.append writer tx)

def archiveTransactions (number : Nat) : List String → Writer → Job m Writer
  | [], writer => pure writer
  | hash :: rest, writer => do
      let writer ← archiveTransaction world number hash writer
      archiveTransactions number rest writer

def noteProgress (number : Nat) (progress : Progress) : Job m Progress := do
  let now ← ExceptT.lift world.now
  let (due, progress) := (progress.push number now).report now
  if due then log world (.progress number progress.roundedSpeed)
  return progress

structure Tally where
  writer : Writer
  progress : Progress
  blocks : Nat

def archiveBlock (number : Nat) (tally : Tally) : Job m Tally := do
  let block ← fetchBlock world number
  let writer ← archiveTransactions world number block.transactions tally.writer
  let progress ← noteProgress world number tally.progress
  return ⟨writer, progress, tally.blocks + 1⟩

def archiveBlocks : Nat → Nat → Tally → Job m Tally
  | 0, _, tally => pure tally
  | count + 1, number, tally => do
      let tally ← archiveBlock world number tally
      archiveBlocks count (number + 1) tally

/-- The rate spans ten steps of at least a second; reports are five seconds apart. -/
def pace : Pace := ⟨10, Progress.second, 5 * Progress.second⟩

def extract (output : String) : Job m Stats := do
  removeStale world output
  let head ← Job.under .heightUnknown (ExceptT.mk world.height)
  log world (.creating output)
  log world (.total head.value)
  let writer ← ExceptT.mk (world.create output)
  let progress := Progress.start pace (← ExceptT.lift world.now)
  let tally ← archiveBlocks world head.value 1 ⟨writer, progress, 0⟩
  log world (.wrote output tally.blocks tally.writer.written)
  return ⟨head.value, tally.blocks, tally.writer.written⟩

end Extraction

end ChainArchive
