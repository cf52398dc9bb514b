import ChainArchive.Archive.Session
import ChainArchive.Node
import ChainArchive.World

namespace ChainArchive

/-- Why the system refuses a line, if it does, after so many lines. -/
abbrev Refusals := Nat → Option SystemFault

abbrev Refusals.none : Refusals := fun _ => Option.none

def Writer.attempt (refuses : Refusals) (writer : Writer) (disk : Disk) (tx : Transaction) :
    Except Trouble (Writer × Disk) :=
  Session.unlessRefused (refuses writer.written) .append writer.path (writer.append disk tx)

/-! Runs as values: the world of a node, a disk and a clock that are all computed. -/

/-- What a run has reached: the node, the disk and the clock as they are now, whether a
stop was asked for, and all queries and events so far. -/
structure Run (σ : Type) where
  node : σ
  disk : Disk
  clock : Nat
  stopped : Bool
  queries : List Query
  events : List Event

namespace Run

variable {σ α : Type}

def start (node : σ) (disk : Disk) (stopped : Bool) : Run σ :=
  ⟨node, disk, 0, stopped, [], []⟩

def after (run : Run σ) (query : Query) (reply : Reply α) (node : σ) : Run σ where
  node
  disk := run.disk
  clock := run.clock + reply.elapsed
  stopped := run.stopped || reply.stop
  queries := run.queries ++ [query]
  events := run.events ++ reply.events

def ask (query : Query) (send : σ → Reply α × σ) : StateM (Run σ) (Except Trouble α) :=
  fun run =>
    let (reply, node) := send run.node
    (reply.result, run.after query reply node)

def onDisk (operation : Disk → Except ε (α × Disk)) : StateM (Run σ) (Except ε α) :=
  fun run =>
    match operation run.disk with
    | .ok (a, disk) => (.ok a, { run with disk })
    | .error fault => (.error fault, run)

def refusing (node : Node σ) (refuses : Refusals) : World (StateM (Run σ)) where
  height := ask .height node.height
  block number := ask (.block number) (node.block number)
  transaction hash := ask (.transaction hash) (node.transaction hash)
  stopped := fun run => (run.stopped, run)
  now := fun run => (run.clock, run)
  log event := fun run => ((), { run with events := run.events ++ [event] })
  remove path := onDisk fun disk => do return ((), ← disk.remove path)
  create path := onDisk fun disk => Writer.create disk path
  append writer tx := onDisk fun disk => writer.attempt refuses disk tx

abbrev world (node : Node σ) : World (StateM (Run σ)) := refusing node .none

/-! Jobs, performed step by step. -/

def perform (job : Job (StateM (Run σ)) α) (run : Run σ) : Except Trouble α × Run σ :=
  job.run run

variable {β : Type}

@[simp] theorem perform_pure (a : α) (run : Run σ) :
    perform (pure a) run = (.ok a, run) := rfl

@[simp] theorem perform_throw (trouble : Trouble) (run : Run σ) :
    perform (throw trouble : Job (StateM (Run σ)) α) run = (.error trouble, run) := rfl

theorem perform_bind (job : Job (StateM (Run σ)) α) (next : α → Job (StateM (Run σ)) β)
    (run : Run σ) :
    perform (job >>= next) run =
      match perform job run with
      | (.ok a, reached) => perform (next a) reached
      | (.error trouble, reached) => (.error trouble, reached) := by
  change StateT.bind job.run (ExceptT.bindCont next) run = _
  simp only [StateT.bind, perform]
  rcases job.run run with ⟨_ | _, _⟩ <;> rfl

@[simp] theorem perform_mk (action : StateM (Run σ) (Except Trouble α)) (run : Run σ) :
    perform (ExceptT.mk action) run = action run := rfl

@[simp] theorem perform_lift (action : StateM (Run σ) α) (run : Run σ) :
    perform (ExceptT.lift action) run = (.ok (action run).1, (action run).2) := rfl

@[simp] theorem perform_under (layer : Layer) (job : Job (StateM (Run σ)) α)
    (run : Run σ) :
    perform (Job.under layer job) run =
      ((perform job run).1.mapError (Trouble.under layer), (perform job run).2) := rfl

end Run

end ChainArchive
