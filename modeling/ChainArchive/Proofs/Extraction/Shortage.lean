import ChainArchive.Proofs.Extraction.Failing

namespace ChainArchive

variable {α β : Type}

/-! Runs that have fewer replies at hand than others. -/

abbrev ScriptedRun := Run (List ScriptedReply)

namespace Run

def stocked (run : ScriptedRun) (more : List ScriptedReply) : ScriptedRun :=
  { run with node := run.node ++ more }

structure Grows (run reached : ScriptedRun) : Prop where
  queries : run.queries <+: reached.queries
  events : run.events <+: reached.events
  node : reached.node.length ≤ run.node.length

theorem Grows.refl (run : ScriptedRun) : run.Grows run :=
  ⟨List.prefix_rfl, List.prefix_rfl, Nat.le_refl _⟩

theorem Grows.trans {first second third : ScriptedRun} (h : first.Grows second)
    (hnext : second.Grows third) : first.Grows third :=
  ⟨h.queries.trans hnext.queries, h.events.trans hnext.events,
    Nat.le_trans hnext.node h.node⟩

def reach (run : ScriptedRun) : Nat := run.queries.length + run.node.length

end Run

/-- A job that does without the replies that are left out, and comes to the same; or one
that fails at the query for which it has none, where the other goes on. -/
inductive Curtailed (lost : List ScriptedReply) (run : ScriptedRun) :
    Except Trouble α × ScriptedRun → Except Trouble α × ScriptedRun → Prop where
  | same {result : Except Trouble α} {reached : ScriptedRun} :
      ((∃ a, result = .ok a) → reached.reach = run.reach) →
      Curtailed lost run (result, reached) (result, reached.stocked lost)
  | cut {trouble : Trouble} {result : Except Trouble α} {reached longer : ScriptedRun} :
      trouble.root = .said "no reply" →
      reached.queries.length = run.reach + 1 →
      reached.queries <+: longer.queries →
      reached.events <+: longer.events →
      longer.node.length < lost.length →
      Curtailed lost run (.error trouble, reached) (result, longer)

namespace Job

structure Curtails (lost : List ScriptedReply) (job other : Job (StateM ScriptedRun) α) :
    Prop where
  grows : ∀ run : ScriptedRun, run.Grows (Run.perform other run).2
  compare : ∀ run, Curtailed lost run (Run.perform job run)
    (Run.perform other (run.stocked lost))

variable {lost : List ScriptedReply}

theorem Curtails.pure (a : α) : Curtails lost (Pure.pure a) (Pure.pure a) where
  grows run := .refl run
  compare _ := .same fun _ => rfl

theorem Curtails.throw (trouble : Trouble) :
    Curtails (α := α) lost (MonadExcept.throw trouble) (MonadExcept.throw trouble) where
  grows run := .refl run
  compare _ := .same fun _ => rfl

theorem Curtails.bind {job other : Job (StateM ScriptedRun) α}
    {next next' : α → Job (StateM ScriptedRun) β} (h : Curtails lost job other)
    (hnext : ∀ a, Curtails lost (next a) (next' a)) :
    Curtails lost (job >>= next) (other >>= next') := by
  constructor
  · intro run
    have hgrows := h.grows run
    rw [Run.perform_bind]
    generalize Run.perform other run = outcome at hgrows ⊢
    obtain ⟨result, reached⟩ := outcome
    cases result with
    | error trouble => exact hgrows
    | ok a => exact hgrows.trans ((hnext a).grows reached)
  · intro run
    have hcompare := h.compare run
    rw [Run.perform_bind, Run.perform_bind]
    generalize Run.perform job run = outcome at hcompare ⊢
    generalize Run.perform other (run.stocked lost) = outcome' at hcompare ⊢
    cases hcompare with
    | @same result reached hreach =>
        cases result with
        | error trouble => exact .same nofun
        | ok a =>
            have hlast := (hnext a).compare reached
            dsimp only
            generalize Run.perform (next a) reached = last at hlast ⊢
            generalize Run.perform (next' a) (reached.stocked lost) = last' at hlast ⊢
            cases hlast with
            | same hlater => exact .same fun hok => (hlater hok).trans (hreach ⟨a, rfl⟩)
            | cut hroot hcount hqueries hevents hleft =>
                exact .cut hroot (hreach ⟨a, rfl⟩ ▸ hcount) hqueries hevents hleft
    | @cut trouble result reached longer hroot hcount hqueries hevents hleft =>
        cases result with
        | error trouble => exact .cut hroot hcount hqueries hevents hleft
        | ok a =>
            have hlater := (hnext a).grows longer
            exact .cut hroot hcount (hqueries.trans hlater.queries)
              (hevents.trans hlater.events) (Nat.lt_of_le_of_lt hlater.node hleft)

theorem Curtails.under {job other : Job (StateM ScriptedRun) α} (h : Curtails lost job other)
    (layer : Layer) : Curtails lost (Job.under layer job) (Job.under layer other) := by
  constructor
  · exact h.grows
  · intro run
    have hcompare := h.compare run
    rw [Run.perform_under, Run.perform_under]
    generalize Run.perform job run = outcome at hcompare ⊢
    generalize Run.perform other (run.stocked lost) = outcome' at hcompare ⊢
    cases hcompare with
    | @same result reached hreach =>
        cases result with
        | error trouble => exact .same nofun
        | ok a => exact .same fun _ => hreach ⟨a, rfl⟩
    | @cut trouble result reached longer hroot hcount hqueries hevents hleft =>
        exact .cut ((Trouble.root_under layer trouble).trans hroot) hcount hqueries hevents hleft

theorem curtails_congruent (lost : List ScriptedReply) :
    Congruent fun α (job other : Job (StateM ScriptedRun) α) => Curtails lost job other where
  pure := .pure
  throw := .throw
  bind := .bind
  under := .under

theorem curtails_of_local {job : Job (StateM ScriptedRun) α}
    (h : ∀ run : ScriptedRun, ∃ result disk events, ∀ node,
      Run.perform job { run with node } =
        (result, { run with node, disk, events := run.events ++ events })) :
    Curtails lost job job := by
  constructor
  · intro run
    obtain ⟨result, disk, events, hperform⟩ := h run
    rw [show Run.perform job run = _ from hperform run.node]
    exact ⟨List.prefix_rfl, List.prefix_append _ _, Nat.le_refl _⟩
  · intro run
    obtain ⟨result, disk, events, hperform⟩ := h run
    rw [show Run.perform job run = _ from hperform run.node,
      show Run.perform job (run.stocked lost) = _ from hperform (run.node ++ lost)]
    exact .same fun _ => rfl

theorem ask_curtails (query : Query) (answer : ScriptedReply → Reply α) :
    Curtails lost (ExceptT.mk (Run.ask query (Node.next answer)))
      (ExceptT.mk (Run.ask query (Node.next answer))) := by
  constructor
  · rintro ⟨node, disk, clock, stopped, queries, events⟩
    cases node with
    | nil => exact ⟨List.prefix_append _ _, List.prefix_append _ _, Nat.le_refl _⟩
    | cons reply rest =>
        exact ⟨List.prefix_append _ _, List.prefix_append _ _, Nat.le_succ _⟩
  · rintro ⟨node, disk, clock, stopped, queries, events⟩
    cases node with
    | cons reply rest =>
        refine .same fun _ => ?_
        simp only [Run.reach, Run.after, List.length_append, List.length_cons,
          List.length_nil]
        omega
    | nil =>
        cases lost with
        | nil =>
            refine .same ?_
            rintro ⟨_, ⟨⟩⟩
        | cons reply rest =>
            refine .cut rfl ?_ List.prefix_rfl ?_ (Nat.lt_succ_self _)
            · simp [Run.reach, Run.after]
            · simp only [Run.after, List.append_nil]
              exact List.prefix_append _ _

end Job

namespace Run

variable {lost : List ScriptedReply}

theorem onDisk_local {ε : Type} (operation : Disk → Except ε (α × Disk)) (run : ScriptedRun) :
    ∃ result disk, ∀ node : List ScriptedReply, onDisk operation { run with node } =
      (result, { run with node, disk }) := by
  simp only [onDisk]
  cases operation run.disk with
  | error fault => exact ⟨.error fault, run.disk, fun _ => rfl⟩
  | ok made => exact ⟨.ok made.1, made.2, fun _ => rfl⟩

theorem refusing_curtails (refuses : Refusals) :
    World.Meets (fun α (job other : Job (StateM ScriptedRun) α) => Job.Curtails lost job other)
      (refusing Node.scripted refuses) (refusing Node.scripted refuses) where
  height := Job.ask_curtails _ _
  block _ _ := Job.ask_curtails _ _
  transaction _ := Job.ask_curtails _ _
  stopped := Job.curtails_of_local fun run => ⟨.ok run.stopped, run.disk, [], fun _ => by
    simp [refusing]⟩
  now := Job.curtails_of_local fun run => ⟨.ok run.clock, run.disk, [], fun _ => by
    simp [refusing]⟩
  log event _ := Job.curtails_of_local fun run => ⟨.ok (), run.disk, [event], fun _ => rfl⟩
  create path := Job.curtails_of_local fun run => by
    obtain ⟨result, disk, hlocal⟩ := onDisk_local (fun disk => Writer.create disk path) run
    exact ⟨result, disk, [], fun node => by rw [List.append_nil]; exact hlocal node⟩
  append writer tx := Job.curtails_of_local fun run => by
    obtain ⟨result, disk, hlocal⟩ := onDisk_local (fun disk => writer.attempt refuses disk tx) run
    exact ⟨result, disk, [], fun node => by rw [List.append_nil]; exact hlocal node⟩

theorem remove_curtails (refuses : Refusals) (path : String) :
    Job.Curtails lost (ExceptT.lift ((refusing Node.scripted refuses).remove path))
      (ExceptT.lift ((refusing Node.scripted refuses).remove path)) :=
  Job.curtails_of_local fun run => by
    obtain ⟨result, disk, hlocal⟩ :=
      onDisk_local (fun disk => do return ((), ← disk.remove path)) run
    exact ⟨.ok result, disk, [], fun node => by
      rw [perform_lift, List.append_nil]
      exact congrArg (fun reached => (Except.ok reached.1, reached.2)) (hlocal node)⟩

end Run

namespace Extraction

theorem extract_curtails (lost : List ScriptedReply) (refuses : Refusals) (path : String) :
    Job.Curtails lost (extract (Run.refusing Node.scripted refuses) path)
      (extract (Run.refusing Node.scripted refuses) path) :=
  extract_meets (Job.curtails_congruent lost) (Run.refusing_curtails refuses)
    (Run.remove_curtails refuses path)

end Extraction

/-! Answers from fewer replies. -/

namespace Node

theorem answers_take {σ : Type} (node : Node σ) (state : σ) (queries : List Query)
    (count : Nat) :
    node.answers state (queries.take count) = (node.answers state queries).take count := by
  induction queries generalizing state count with
  | nil => simp [answers]
  | cons query rest ih =>
      cases count with
      | zero => rfl
      | succ count => simp [answers, ih]

theorem exists_answer_scripted (reply : ScriptedReply) (query : Query) :
    ∃ answer, ∀ rest, scripted.answer (reply :: rest) query = (answer, rest) :=
  ⟨(scripted.answer [reply] query).1, fun rest => by cases query <;> rfl⟩

theorem answers_scripted_append {replies : List ScriptedReply} {queries : List Query}
    (h : queries.length ≤ replies.length) (more : List ScriptedReply) :
    scripted.answers (replies ++ more) queries = scripted.answers replies queries := by
  induction queries generalizing replies with
  | nil => rfl
  | cons query rest ih =>
      cases replies with
      | nil => cases h
      | cons reply replies =>
          obtain ⟨answer, hanswer⟩ := exists_answer_scripted reply query
          simp only [List.cons_append, answers, hanswer, ih (Nat.le_of_succ_le_succ h)]

theorem stateAfter_scripted {replies : List ScriptedReply} {queries : List Query}
    (h : queries.length = replies.length) : scripted.stateAfter replies queries = [] := by
  induction queries generalizing replies with
  | nil => exact List.length_eq_zero_iff.mp h.symm
  | cons query rest ih =>
      cases replies with
      | nil => cases h
      | cons reply replies =>
          obtain ⟨answer, hanswer⟩ := exists_answer_scripted reply query
          simp only [stateAfter, hanswer]
          exact ih (Nat.succ.inj h)

theorem transactions_scripted_nil (query : Query) :
    Answer.transactions (scripted.answers [] [query]) = [] := by
  cases query <;> rfl

end Node

namespace Archive

theorem text_prefix {txs others : List Transaction} (h : txs <+: others) :
    text txs <+: text others := by
  obtain ⟨more, rfl⟩ := h
  exact ⟨text more, (text_append txs more).symm⟩

theorem text_ends (txs : List Transaction) :
    text txs = [] ∨ (text txs).getLast? = some (byte '\n') := by
  rcases List.eq_nil_or_concat txs with rfl | ⟨before, tx, rfl⟩
  · exact .inl rfl
  · right
    simp [record]

end Archive

namespace Extraction

theorem Ending.content_eq {σ : Type} {node : Node σ} {refuses : Refusals} {start : σ}
    {disk : Disk} {path : String} {run : Run σ} {result : Except Trouble Stats}
    (h : Ending node refuses start disk path run result) :
    ∃ count, run.queries.length ≤ count + 1 ∧
      run.disk.content path =
        Archive.text (Answer.transactions ((run.transcript node start).take count)) := by
  cases h with
  | heightUnknown _ hqueries hfile =>
      exact ⟨0, by simp [hqueries], Disk.content_of_not_hasFile hfile⟩
  | uncreated _ _ hqueries hfile =>
      exact ⟨0, by simp [hqueries], Disk.content_of_not_hasFile hfile⟩
  | unwritten _ hcreate _ hunwritten =>
      obtain ⟨before, hash, reply, tx, last, htranscript, hqueries, -, hlines, -⟩ := hunwritten
      refine ⟨before.length, by simp [hqueries], ?_⟩
      rw [htranscript, List.take_left' rfl]
      exact Writer.content_attemptAll hcreate hlines
  | written _ hcreate hlines =>
      refine ⟨run.queries.length, Nat.le_succ _, ?_⟩
      rw [Run.transcript, ← Node.answers_take, List.take_length]
      exact Writer.content_attemptAll hcreate hlines

theorem Ending.content_prefix {refuses : Refusals} {replies : List ScriptedReply} {k : Nat}
    {disk : Disk} {path : String} {short run : ScriptedRun} {result result' : Except Trouble Stats}
    (hshort : Ending Node.scripted refuses (replies.take k) disk path short result)
    (h : Ending Node.scripted refuses replies disk path run result')
    (hk : k < run.queries.length) (hfew : k ≤ replies.length)
    (hqueries : short.queries = run.queries.take (k + 1)) :
    short.disk.content path <+: run.disk.content path := by
  obtain ⟨count, -, hcontent⟩ := hshort.content_eq
  obtain ⟨count', hcount', hcontent'⟩ := h.content_eq
  have hfirst : Answer.transactions (short.transcript Node.scripted (replies.take k)) =
      Answer.transactions ((run.transcript Node.scripted replies).take k) := by
    have hlength : (run.queries.take k).length = (replies.take k).length := by
      rw [List.length_take_of_le hfew, List.length_take_of_le (Nat.le_of_lt hk)]
    have hsame : Node.scripted.answers replies (run.queries.take k) =
        Node.scripted.answers (replies.take k) (run.queries.take k) := by
      have happend := Node.answers_scripted_append (Nat.le_of_eq hlength) (replies.drop k)
      rwa [List.take_append_drop] at happend
    rw [Run.transcript, hqueries, List.take_succ_eq_append_getElem hk, Node.answers_append,
      Node.stateAfter_scripted hlength, Answer.transactions_append,
      Node.transactions_scripted_nil, List.append_nil, Run.transcript, ← Node.answers_take, hsame]
  rw [hcontent, hcontent']
  apply Archive.text_prefix
  have hbegins : Answer.transactions ((run.transcript Node.scripted replies).take k) <+:
      Answer.transactions ((run.transcript Node.scripted replies).take count') :=
    (List.take_prefix_take_left (by omega)).filterMap _
  rw [← hfirst] at hbegins
  exact ((List.take_prefix count _).filterMap _).trans hbegins

/-- The first so many replies, with the same lines refused. Where they are all that an
extraction uses it comes to the same with them alone; where it uses more it fails for want of
a reply at the query after them, and what it has asked, logged and written until then is the
beginning of what it would have. -/
theorem extract_take (refuses : Refusals) (replies : List ScriptedReply) (k : Nat) (disk : Disk)
    (path : String) (stopped : Bool) :
    let job := extract (Run.refusing Node.scripted refuses) path
    let outcome := Run.perform job (.start replies disk stopped)
    let short := Run.perform job (.start (replies.take k) disk stopped)
    let used := replies.length - outcome.2.node.length
    (used ≤ k → short.1 = outcome.1 ∧ short.2.stocked (replies.drop k) = outcome.2) ∧
    (k < used →
      (∃ trouble, short.1 = .error trouble ∧ trouble.root = .said "no reply") ∧
      k < outcome.2.queries.length ∧
      short.2.queries = outcome.2.queries.take (k + 1) ∧
      short.2.events <+: outcome.2.events ∧
      short.2.disk.content path <+: outcome.2.disk.content path ∧
      (short.2.disk.content path = [] ∨
        (short.2.disk.content path).getLast? = some (byte '\n'))) := by
  intro job outcome short used
  have hending : Ending Node.scripted refuses replies disk path outcome.2 outcome.1 :=
    extract_ending Node.scripted refuses replies disk path stopped
  have hshort : Ending Node.scripted refuses (replies.take k) disk path short.2 short.1 :=
    extract_ending Node.scripted refuses (replies.take k) disk path stopped
  have hcompare : Curtailed (replies.drop k) (.start (replies.take k) disk stopped) short
      outcome := by
    have hstocked : (Run.start (replies.take k) disk stopped).stocked (replies.drop k) =
        .start replies disk stopped := by
      simp [Run.stocked, Run.start]
    have hcompare := (extract_curtails (replies.drop k) refuses path).compare
      (.start (replies.take k) disk stopped)
    rwa [hstocked] at hcompare
  clear_value short outcome
  cases hcompare with
  | @same result reached hreach =>
      have hused : used ≤ k := by
        simp only [used, Run.stocked, List.length_append, List.length_drop]
        omega
      exact ⟨fun _ => ⟨rfl, rfl⟩, fun hmore => absurd hused (Nat.not_le.mpr hmore)⟩
  | @cut trouble result reached longer hroot hcount hqueries hevents hleft =>
      rw [List.length_drop] at hleft
      have hused : k < used := by
        simp only [used]
        omega
      have hlength : reached.queries.length = k + 1 := by
        rw [hcount]
        simp only [Run.reach, Run.start, List.length_nil, List.length_take]
        omega
      have htake : reached.queries = longer.queries.take (k + 1) := by
        rw [← hlength]
        exact List.prefix_iff_eq_take.mp hqueries
      have hlonger : k < longer.queries.length := by
        have hle := hqueries.length_le
        omega
      have hcontent := hshort.content_prefix hending hlonger (by omega) htake
      obtain ⟨count, -, htext⟩ := hshort.content_eq
      have hends := Archive.text_ends
        (Answer.transactions ((reached.transcript Node.scripted (replies.take k)).take count))
      rw [← htext] at hends
      exact ⟨fun hfew => absurd hfew (Nat.not_le.mpr hused), fun _ =>
        ⟨⟨trouble, rfl, hroot⟩, hlonger, htake, hevents, hcontent, hends⟩⟩

end Extraction

end ChainArchive
