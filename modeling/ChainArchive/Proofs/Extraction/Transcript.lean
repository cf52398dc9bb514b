import ChainArchive.Run

namespace ChainArchive

/-! What a node was asked, and what it said. -/

def Target.query : Target → Query
  | .block number => .block number
  | .transaction _ hash => .transaction hash

def Reply.error? {α : Type} (reply : Reply α) : Option Trouble :=
  match reply.result with
  | .ok _ => none
  | .error trouble => some trouble

inductive Answer where
  | height (reply : Reply Quantity)
  | block (number : Nat) (reply : Reply Block)
  | transaction (hash : String) (reply : Reply Transaction)

namespace Answer

def query : Answer → Query
  | .height _ => .height
  | .block number _ => .block number
  | .transaction hash _ => .transaction hash

def stop : Answer → Bool
  | .height reply => reply.stop
  | .block _ reply => reply.stop
  | .transaction _ reply => reply.stop

def transaction? : Answer → Option Transaction
  | .transaction _ reply => reply.result.toOption
  | _ => none

def error? : Answer → Option Trouble
  | .height reply => reply.error?
  | .block _ reply => reply.error?
  | .transaction _ reply => reply.error?

/-- Why the extraction does not go on with the answer: the error of the node, or a block
of another number than was asked for. -/
def trouble? : Answer → Option Trouble
  | .block number reply =>
      match reply.result with
      | .ok found =>
          if found.number.value = number then none
          else some (.of (.misnumbered found.number.value))
      | .error trouble => some trouble
  | answer => answer.error?

theorem trouble?_block_error {number : Nat} {reply : Reply Block} {trouble : Trouble}
    (h : reply.result = .error trouble) :
    (block number reply).trouble? = some trouble := by
  simp [trouble?, h]

theorem trouble?_misnumbered {number : Nat} {reply : Reply Block} {found : Block}
    (h : reply.result = .ok found) (hnumber : found.number.value ≠ number) :
    (block number reply).trouble? = some (.of (.misnumbered found.number.value)) := by
  simp [trouble?, h, hnumber]

theorem trouble?_transaction_error {hash : String} {reply : Reply Transaction}
    {trouble : Trouble} (h : reply.result = .error trouble) :
    (transaction hash reply).trouble? = some trouble := by
  simp [trouble?, error?, Reply.error?, h]

theorem trouble?_of_error? {answer : Answer} {own : Trouble}
    (h : answer.error? = some own) : answer.trouble? = some own := by
  cases answer with
  | height reply => exact h
  | transaction hash reply => exact h
  | block number reply =>
      simp only [error?, Reply.error?] at h
      cases hresult : reply.result with
      | error fault =>
          rw [hresult] at h
          simp only [trouble?, hresult, h]
      | ok found => simp [hresult] at h

theorem trouble?_of_no_error {answer : Answer} {trouble : Trouble}
    (h : answer.trouble? = some trouble) (hnone : answer.error? = none) :
    ∃ number, trouble = .of (.misnumbered number) := by
  cases answer with
  | height reply => simp [trouble?, hnone] at h
  | transaction hash reply => simp [trouble?, hnone] at h
  | block number reply =>
      simp only [error?, Reply.error?] at hnone
      cases hresult : reply.result with
      | error fault => simp [hresult] at hnone
      | ok found =>
          simp only [trouble?, hresult] at h
          split at h
          · cases h
          · exact ⟨_, (Option.some.inj h).symm⟩

end Answer

namespace Node

def steady (height : Except Trouble Quantity) (block : Nat → Except Trouble Block)
    (transaction : String → Except Trouble Transaction) (stop : Query → Bool) :
    Node Unit where
  height _ := (⟨height, [], stop .height, 0⟩, ())
  block number _ := (⟨block number, [], stop (.block number), 0⟩, ())
  transaction hash _ := (⟨transaction hash, [], stop (.transaction hash), 0⟩, ())

variable {σ : Type}

def answer (node : Node σ) (state : σ) : Query → Answer × σ
  | .height => ((node.height state).map .height id)
  | .block number => ((node.block number state).map (.block number) id)
  | .transaction hash => ((node.transaction hash state).map (.transaction hash) id)

def answers (node : Node σ) : σ → List Query → List Answer
  | _, [] => []
  | state, query :: rest =>
      (node.answer state query).1 :: node.answers (node.answer state query).2 rest

def stateAfter (node : Node σ) : σ → List Query → σ
  | state, [] => state
  | state, query :: rest => node.stateAfter (node.answer state query).2 rest

@[simp] theorem query_answer (node : Node σ) (state : σ) (query : Query) :
    (node.answer state query).1.query = query := by
  cases query <;> rfl

@[simp] theorem answers_append (node : Node σ) (state : σ) (queries others : List Query) :
    node.answers state (queries ++ others) =
      node.answers state queries ++ node.answers (node.stateAfter state queries) others := by
  induction queries generalizing state with
  | nil => rfl
  | cons query rest ih => simp [answers, stateAfter, ih]

@[simp] theorem stateAfter_append (node : Node σ) (state : σ)
    (queries others : List Query) :
    node.stateAfter state (queries ++ others) =
      node.stateAfter (node.stateAfter state queries) others := by
  induction queries generalizing state with
  | nil => rfl
  | cons query rest ih => simp [stateAfter, ih]

@[simp] theorem query_answers (node : Node σ) (state : σ) (queries : List Query) :
    (node.answers state queries).map Answer.query = queries := by
  induction queries generalizing state with
  | nil => rfl
  | cons query rest ih => simp [answers, ih]

end Node

namespace Run

variable {σ : Type}

def logged (run : Run σ) (event : Event) : Run σ :=
  { run with events := run.events ++ [event] }

def heard (run : Run σ) (answer : Answer) (node : σ) : Run σ :=
  match answer with
  | .height reply => run.after .height reply node
  | .block number reply => run.after (.block number) reply node
  | .transaction hash reply => run.after (.transaction hash) reply node

@[simp] theorem node_heard (run : Run σ) (answer : Answer) (node : σ) :
    (run.heard answer node).node = node := by
  cases answer <;> rfl

@[simp] theorem disk_heard (run : Run σ) (answer : Answer) (node : σ) :
    (run.heard answer node).disk = run.disk := by
  cases answer <;> rfl

@[simp] theorem stopped_heard (run : Run σ) (answer : Answer) (node : σ) :
    (run.heard answer node).stopped = (run.stopped || answer.stop) := by
  cases answer <;> rfl

@[simp] theorem queries_heard (run : Run σ) (answer : Answer) (node : σ) :
    (run.heard answer node).queries = run.queries ++ [answer.query] := by
  cases answer <;> rfl

@[simp] theorem node_logged (run : Run σ) (event : Event) :
    (run.logged event).node = run.node := rfl

@[simp] theorem disk_logged (run : Run σ) (event : Event) :
    (run.logged event).disk = run.disk := rfl

@[simp] theorem stopped_logged (run : Run σ) (event : Event) :
    (run.logged event).stopped = run.stopped := rfl

@[simp] theorem queries_logged (run : Run σ) (event : Event) :
    (run.logged event).queries = run.queries := rfl

end Run

end ChainArchive
