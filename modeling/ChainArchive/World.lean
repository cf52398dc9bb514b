import ChainArchive.Archive
import ChainArchive.Block
import ChainArchive.Event

namespace ChainArchive

/-! What an extraction acts on: a node, a disk, a clock and a log. -/

/-- Each operation is an action in `m`. Times are in nanoseconds. -/
structure World (m : Type → Type) where
  height : m (Except Trouble Quantity)
  block : Nat → m (Except Trouble Block)
  transaction : String → m (Except Trouble Transaction)
  /-- Whether a stop was asked for. -/
  stopped : m Bool
  now : m Nat
  log : Event → m Unit
  remove : String → m (Except SystemFault Unit)
  create : String → m (Except Trouble Writer)
  append : Writer → Transaction → m (Except Trouble Writer)

abbrev Job (m : Type → Type) := ExceptT Trouble m

namespace Job

variable {m : Type → Type} [Monad m] {α : Type}

def under (layer : Layer) (job : Job m α) : Job m α :=
  ExceptT.adapt (Trouble.under layer) job

end Job

end ChainArchive
