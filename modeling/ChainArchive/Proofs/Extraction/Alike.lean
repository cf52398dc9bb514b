import ChainArchive.Run
import ChainArchive.Proofs.Disk.Agreement
import ChainArchive.Proofs.Except
import ChainArchive.Proofs.Extraction.Parametric

namespace ChainArchive

/-! Jobs that come to the same in two worlds. -/

variable {σ τ α β : Type}

namespace Job

def Alike (related : Run σ → Run τ → Prop) (job : Job (StateM (Run σ)) α)
    (other : Job (StateM (Run τ)) α) : Prop :=
  ∀ run run', related run run' →
    (Run.perform job run).1 = (Run.perform other run').1 ∧
      related (Run.perform job run).2 (Run.perform other run').2

variable {related : Run σ → Run τ → Prop}

theorem Alike.pure (a : α) : Alike related (Pure.pure a) (Pure.pure a) :=
  fun _ _ hrelated => ⟨rfl, hrelated⟩

theorem Alike.throw (trouble : Trouble) :
    Alike (α := α) related (MonadExcept.throw trouble) (MonadExcept.throw trouble) :=
  fun _ _ hrelated => ⟨rfl, hrelated⟩

theorem Alike.bind {job : Job (StateM (Run σ)) α} {other : Job (StateM (Run τ)) α}
    {next : α → Job (StateM (Run σ)) β} {next' : α → Job (StateM (Run τ)) β}
    (h : Alike related job other) (hnext : ∀ a, Alike related (next a) (next' a)) :
    Alike related (job >>= next) (other >>= next') := by
  intro run run' hrelated
  obtain ⟨hresult, hreached⟩ := h run run' hrelated
  rw [Run.perform_bind, Run.perform_bind]
  generalize Run.perform job run = outcome at hresult hreached ⊢
  generalize Run.perform other run' = outcome' at hresult hreached ⊢
  obtain ⟨result, reached⟩ := outcome
  obtain ⟨result', reached'⟩ := outcome'
  cases hresult
  cases result with
  | error trouble => exact ⟨rfl, hreached⟩
  | ok a => exact hnext a reached reached' hreached

theorem Alike.under {job : Job (StateM (Run σ)) α} {other : Job (StateM (Run τ)) α}
    (h : Alike related job other) (layer : Layer) :
    Alike related (Job.under layer job) (Job.under layer other) := by
  intro run run' hrelated
  obtain ⟨hresult, hreached⟩ := h run run' hrelated
  rw [Run.perform_under, Run.perform_under]
  exact ⟨congrArg (Except.mapError (Trouble.under layer)) hresult, hreached⟩

theorem alike_congruent (related : Run σ → Run τ → Prop) :
    Congruent fun _ => Alike related where
  pure := .pure
  throw := .throw
  bind := .bind
  under := .under

end Job

structure World.Alike (related : Run σ → Run τ → Prop) (world : World (StateM (Run σ)))
    (other : World (StateM (Run τ))) : Prop where
  height : Job.Alike related (ExceptT.mk world.height) (ExceptT.mk other.height)
  block : ∀ number, number < wordSize →
    Job.Alike related (ExceptT.mk (world.block number)) (ExceptT.mk (other.block number))
  transaction : ∀ hash,
    Job.Alike related (ExceptT.mk (world.transaction hash))
      (ExceptT.mk (other.transaction hash))
  stopped : Job.Alike related (ExceptT.lift world.stopped) (ExceptT.lift other.stopped)
  now : Job.Alike related (ExceptT.lift world.now) (ExceptT.lift other.now)
  log : ∀ event, event.ofExtraction = true →
    Job.Alike related (ExceptT.lift (world.log event)) (ExceptT.lift (other.log event))
  remove : ∀ path,
    Job.Alike related (ExceptT.lift (world.remove path)) (ExceptT.lift (other.remove path))
  create : ∀ path,
    Job.Alike related (ExceptT.mk (world.create path)) (ExceptT.mk (other.create path))
  append : ∀ writer tx,
    Job.Alike related (ExceptT.mk (world.append writer tx))
      (ExceptT.mk (other.append writer tx))

theorem World.Alike.meets {related : Run σ → Run τ → Prop} {world : World (StateM (Run σ))}
    {other : World (StateM (Run τ))} (h : World.Alike related world other) :
    World.Meets (fun _ => Job.Alike related) world other where
  height := h.height
  block := h.block
  transaction := h.transaction
  stopped := h.stopped
  now := h.now
  log := h.log
  create := h.create
  append := h.append

namespace Extraction

theorem extractAnew_alike {related : Run σ → Run τ → Prop} {world : World (StateM (Run σ))}
    {other : World (StateM (Run τ))} (h : World.Alike related world other)
    (output : String) :
    Job.Alike related (extractAnew world output) (extractAnew other output) :=
  extractAnew_meets (Job.alike_congruent related) h.meets output

theorem extract_alike {related : Run σ → Run τ → Prop} {world : World (StateM (Run σ))}
    {other : World (StateM (Run τ))} (h : World.Alike related world other)
    (output : String) :
    Job.Alike related (extract world output) (extract other output) :=
  extract_meets (Job.alike_congruent related) h.meets (h.remove output)

end Extraction

/-! Runs that go the same way. -/

/-- What tells two runs apart: states of their nodes, given what was asked, events that are
not shown, and what was shown before. -/
structure Kinship (σ τ : Type) where
  nodes : σ → List Query → τ → Prop
  shown : Event → Bool
  before : List Event
  before' : List Event

namespace Kinship

structure Runs (kinship : Kinship σ τ) (run : Run σ) (other : Run τ) : Prop where
  node : kinship.nodes run.node run.queries other.node
  disk : run.disk.Alike other.disk
  clock : run.clock = other.clock
  stopped : run.stopped = other.stopped
  queries : run.queries = other.queries
  events : ∃ common, run.events.filter kinship.shown = kinship.before ++ common ∧
    other.events = kinship.before' ++ common

structure Answers (kinship : Kinship σ τ) (queries : List Query) (query : Query)
    (answer : Reply α × σ) (other : Reply α × τ) : Prop where
  node : kinship.nodes answer.2 (queries ++ [query]) other.2
  result : answer.1.result = other.1.result
  events : answer.1.events.filter kinship.shown = other.1.events
  stop : answer.1.stop = other.1.stop
  elapsed : answer.1.elapsed = other.1.elapsed

structure Nodes (kinship : Kinship σ τ) (node : Node σ) (other : Node τ) : Prop where
  height : ∀ state queries state', kinship.nodes state queries state' →
    kinship.Answers queries .height (node.height state) (other.height state')
  block : ∀ number, number < wordSize → ∀ state queries state',
    kinship.nodes state queries state' →
      kinship.Answers queries (.block number) (node.block number state)
        (other.block number state')
  transaction : ∀ hash state queries state', kinship.nodes state queries state' →
    kinship.Answers queries (.transaction hash) (node.transaction hash state)
      (other.transaction hash state')

variable {kinship : Kinship σ τ}

theorem Runs.after {run : Run σ} {other : Run τ} (h : kinship.Runs run other) {query : Query}
    {answer : Reply α × σ} {answer' : Reply α × τ}
    (hanswers : kinship.Answers run.queries query answer answer') :
    kinship.Runs (run.after query answer.1 answer.2) (other.after query answer'.1 answer'.2) := by
  obtain ⟨common, hevents, hevents'⟩ := h.events
  exact {
    node := hanswers.node
    disk := h.disk
    clock := by simp only [Run.after, h.clock, hanswers.elapsed]
    stopped := by simp only [Run.after, h.stopped, hanswers.stop]
    queries := by simp only [Run.after, h.queries]
    events := ⟨common ++ answer'.1.events, by
      simp only [Run.after, List.filter_append, hevents, hanswers.events,
        List.append_assoc], by
      simp only [Run.after, hevents', List.append_assoc]⟩ }

theorem ask_alike {query : Query} {send : σ → Reply α × σ} {send' : τ → Reply α × τ}
    (h : ∀ state queries state', kinship.nodes state queries state' →
      kinship.Answers queries query (send state) (send' state')) :
    Job.Alike kinship.Runs (ExceptT.mk (Run.ask query send))
      (ExceptT.mk (Run.ask query send')) := by
  intro run run' hruns
  have hanswers := h run.node run.queries run'.node hruns.node
  exact ⟨hanswers.result, hruns.after hanswers⟩

theorem onDisk_alike {operation operation' : Disk → Except ε (α × Disk)}
    (h : ∀ disk other, disk.Alike other →
      Outcome.Like Disk.AlikeWith (operation disk) (operation' other))
    {run : Run σ} {run' : Run τ} (hruns : kinship.Runs run run') :
    (Run.onDisk operation run).1 = (Run.onDisk operation' run').1 ∧
      kinship.Runs (Run.onDisk operation run).2 (Run.onDisk operation' run').2 := by
  have hlike := h run.disk run'.disk hruns.disk
  simp only [Run.onDisk]
  generalize operation run.disk = made at hlike ⊢
  generalize operation' run'.disk = made' at hlike ⊢
  cases hlike with
  | error fault => exact ⟨rfl, hruns⟩
  | @ok a b hmade =>
      obtain ⟨first, disk⟩ := a
      obtain ⟨second, disk'⟩ := b
      obtain ⟨rfl, halike⟩ := hmade
      exact ⟨rfl, { hruns with disk := halike }⟩

theorem removeUnit_like {disk other : Disk} (h : disk.Alike other) (path : String) :
    Outcome.Like Disk.AlikeWith (do return ((), ← disk.remove path))
      (do return ((), ← other.remove path)) := by
  have hremove := h.remove path
  generalize disk.remove path = removed at hremove ⊢
  generalize other.remove path = removed' at hremove ⊢
  cases hremove with
  | error fault => exact .error fault
  | ok halike => exact .ok ⟨rfl, halike⟩

theorem attempt_like {disk other : Disk} (h : disk.Alike other) (refuses : Refusals)
    (writer : Writer) (tx : Transaction) :
    Outcome.Like Disk.AlikeWith (writer.attempt refuses disk tx)
      (writer.attempt refuses other tx) := by
  unfold Writer.attempt Session.unlessRefused
  cases refuses writer.written with
  | none => exact Writer.append_like h writer tx
  | some fault => exact .error _

theorem world_alike (refuses : Refusals) {node : Node σ} {other : Node τ}
    (h : kinship.Nodes node other)
    (hshown : ∀ event : Event, event.ofExtraction = true → kinship.shown event = true) :
    World.Alike kinship.Runs (Run.refusing node refuses) (Run.refusing other refuses) where
  height := ask_alike h.height
  block number hnumber := ask_alike (h.block number hnumber)
  transaction hash := ask_alike (h.transaction hash)
  stopped run run' hruns := ⟨congrArg Except.ok hruns.stopped, hruns⟩
  now run run' hruns := ⟨congrArg Except.ok hruns.clock, hruns⟩
  log event hevent run run' hruns := by
    obtain ⟨common, hevents, hevents'⟩ := hruns.events
    refine ⟨rfl, { hruns with events := ⟨common ++ [event], ?_, ?_⟩ }⟩
    · change (run.events ++ [event]).filter kinship.shown = _
      rw [List.filter_append, hevents, List.filter_cons_of_pos (hshown event hevent),
        List.filter_nil, List.append_assoc]
    · change run'.events ++ [event] = _
      rw [hevents', List.append_assoc]
  remove path _ _ hruns := by
    have hremove := onDisk_alike (fun _ _ halike => removeUnit_like halike path) hruns
    exact ⟨congrArg Except.ok hremove.1, hremove.2⟩
  create path _ _ hruns :=
    onDisk_alike (fun _ _ halike => Writer.create_like (halike.create path)) hruns
  append writer tx _ _ hruns :=
    onDisk_alike (fun _ _ halike => attempt_like halike refuses writer tx) hruns

/-! One node twice. -/

def ofEvents (σ : Type) (before before' : List Event) : Kinship σ σ where
  nodes state _ state' := state = state'
  shown _ := true
  before := before
  before' := before'

theorem filter_ofEvents_shown (before before' events : List Event) :
    events.filter (ofEvents σ before before').shown = events :=
  List.filter_eq_self.mpr fun _ _ => rfl

theorem ofEvents_nodes (node : Node σ) (before before' : List Event) :
    (ofEvents σ before before').Nodes node node where
  height := by
    rintro state queries _ rfl
    exact ⟨rfl, rfl, filter_ofEvents_shown .., rfl, rfl⟩
  block := by
    rintro number _ state queries _ rfl
    exact ⟨rfl, rfl, filter_ofEvents_shown .., rfl, rfl⟩
  transaction := by
    rintro hash state queries _ rfl
    exact ⟨rfl, rfl, filter_ofEvents_shown .., rfl, rfl⟩

end Kinship

end ChainArchive
