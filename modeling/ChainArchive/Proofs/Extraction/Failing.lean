import ChainArchive.Proofs.Archive.RoundTrip
import ChainArchive.Proofs.Extraction.Afresh
import ChainArchive.Proofs.Extraction.Stopping

namespace ChainArchive

open Relation

variable {σ α : Type}

/-- The result is an error, and this layer is its outermost. -/
def FailsAs (layer : Layer) (result : Except Trouble α) : Prop :=
  ∃ causes, result = .error ⟨layer, causes⟩

theorem failsAs_error {layer : Layer} {trouble : Trouble} :
    FailsAs layer (.error trouble : Except Trouble α) ↔ trouble.outer = layer := by
  obtain ⟨outer, causes⟩ := trouble
  constructor
  · rintro ⟨_, h⟩
    cases h
    rfl
  · rintro rfl
    exact ⟨causes, rfl⟩

/-! Writers that fail. -/

namespace Writer

theorem create_eq_error {disk : Disk} {path : String} {trouble : Trouble} :
    Writer.create disk path = .error trouble ↔
      ∃ fault, disk.create path = .error fault ∧
        trouble = fileTrouble .create path (.system fault) := by
  unfold Writer.create
  cases disk.create path with
  | ok made => simp
  | error fault => simp [eq_comm]

theorem path_of_create {disk made : Disk} {path : String} {writer : Writer}
    (h : Writer.create disk path = .ok (writer, made)) : writer.path = path := by
  unfold Writer.create at h
  cases hcreate : disk.create path with
  | error fault => simp [hcreate] at h
  | ok created =>
      simp only [hcreate, Except.ok.injEq, Prod.mk.injEq] at h
      rw [← h.1]

theorem append_path {writer next : Writer} {disk later : Disk} {tx : Transaction}
    (h : writer.append disk tx = .ok (next, later)) : next.path = writer.path := by
  unfold Writer.append at h
  dsimp only at h
  split at h
  · cases h
    rfl
  · cases h

theorem append_outer {writer : Writer} {disk : Disk} {tx : Transaction} {trouble : Trouble}
    (h : writer.append disk tx = .error trouble) :
    trouble.outer = .file .append writer.path := by
  unfold Writer.append at h
  dsimp only at h
  split at h
  · cases h
  · cases h
    rfl

theorem attempt_outer {refuses : Refusals} {writer : Writer} {disk : Disk} {tx : Transaction}
    {trouble : Trouble} (h : writer.attempt refuses disk tx = .error trouble) :
    trouble.outer = .file .append writer.path := by
  rcases attempt_eq_error.mp h with ⟨fault, -, rfl⟩ | ⟨-, happend⟩
  · rfl
  · exact append_outer happend

def attemptAll (refuses : Refusals) (writer : Writer) (disk : Disk) (txs : List Transaction) :
    Except Trouble (Writer × Disk) :=
  txs.foldlM (fun reached tx => reached.1.attempt refuses reached.2 tx) (writer, disk)

theorem attemptAll_snoc {refuses : Refusals} {writer last : Writer} {disk later : Disk}
    {txs : List Transaction} (h : writer.attemptAll refuses disk txs = .ok (last, later))
    (tx : Transaction) :
    writer.attemptAll refuses disk (txs ++ [tx]) = last.attempt refuses later tx := by
  unfold attemptAll at h ⊢
  rw [List.foldlM_append, h, Outcome.ok_bind, List.foldlM_cons]
  cases last.attempt refuses later tx <;> rfl

theorem appendAll_of_attemptAll {refuses : Refusals} {writer : Writer} {disk : Disk}
    {txs : List Transaction} {reached : Writer × Disk}
    (h : writer.attemptAll refuses disk txs = .ok reached) :
    writer.appendAll disk txs = .ok reached := by
  induction txs generalizing writer disk with
  | nil => exact h
  | cons tx rest ih =>
      obtain ⟨⟨next, later⟩, hnext, hrest⟩ := Outcome.bind_eq_ok.mp h
      rw [appendAll, (attempt_eq_ok.mp hnext).2, Outcome.ok_bind]
      exact ih hrest

theorem content_attemptAll {refuses : Refusals} {disk made later : Disk} {path : String}
    {writer last : Writer} {txs : List Transaction}
    (hcreate : Writer.create disk path = .ok (writer, made))
    (h : writer.attemptAll refuses made txs = .ok (last, later)) :
    later.content path = Archive.text txs :=
  content_appendAll hcreate (appendAll_of_attemptAll h)

end Writer

namespace Extraction

/-! Lines that cannot be written. -/

structure Appended (node : Node σ) (refuses : Refusals) (start : σ) (stopped : Bool)
    (writer : Writer) (made : Disk) (stage : Stage σ) : Prop where
  traced : stage.run.Traced node start stopped
  path_eq : stage.tally.writer.path = writer.path
  appended : writer.attemptAll refuses made
    (Answer.transactions (stage.run.transcript node start)) =
      .ok (stage.tally.writer, stage.run.disk)

theorem Step.appended {node : Node σ} {refuses : Refusals} {start : σ} {stopped : Bool}
    {writer : Writer} {made : Disk} {stage next : Stage σ} (h : Step node refuses stage next)
    (happended : Appended node refuses start stopped writer made stage) :
    Appended node refuses start stopped writer made next := by
  obtain ⟨htraced, hpath, hlines⟩ := happended
  cases h with
  | close =>
      refine ⟨⟨?_, ?_⟩, hpath, ?_⟩
      · simpa using htraced.node_eq
      · simpa [Run.transcript] using htraced.stopped_eq
      · simpa [Run.transcript, Tally.completed] using hlines
  | @block number count tally run reply next block hstop hreply =>
      have hanswer : node.answer run.node (.block number) = (.block number reply, next) := by
        simp [Node.answer, hreply]
      have hheard := htraced.heard hanswer
      refine ⟨⟨hheard.node_eq, hheard.stopped_eq⟩, hpath, ?_⟩
      change writer.attemptAll refuses made (Answer.transactions
        ((run.heard (.block number reply) next).transcript node start)) = _
      rw [Run.transcript_heard htraced hanswer, Answer.transactions_append,
        Answer.transactions_singleton]
      simpa [Answer.transaction?] using hlines
  | @transaction number count hash rest tally run reply next tx last disk hstop hreply
      hresult happend =>
      have hanswer : node.answer run.node (.transaction hash) =
          (.transaction hash reply, next) := by
        simp [Node.answer, hreply]
      have hheard := htraced.heard hanswer
      have hsame := Writer.append_path (Writer.attempt_eq_ok.mp happend).2
      refine ⟨⟨hheard.node_eq, hheard.stopped_eq⟩, hsame.trans hpath, ?_⟩
      change writer.attemptAll refuses made (Answer.transactions
        ((run.heard (.transaction hash reply) next).transcript node start)) = _
      rw [Run.transcript_heard htraced hanswer, Answer.transactions_append,
        Answer.transactions_of_ok hresult, Writer.attemptAll_snoc hlines]
      exact happend

theorem steps_appended {node : Node σ} {refuses : Refusals} {start : σ} {stopped : Bool}
    {writer : Writer} {made : Disk} {stage last : Stage σ}
    (h : ReflTransGen (Step node refuses) stage last)
    (happended : Appended node refuses start stopped writer made stage) :
    Appended node refuses start stopped writer made last := by
  induction h with
  | refl => exact happended
  | tail _ hstep ih => exact hstep.appended ih

/-- The transaction that was asked for last has come, and its line could not be written
after those of the transactions before it. -/
def Unwritten (node : Node σ) (refuses : Refusals) (start : σ) (writer : Writer) (made : Disk)
    (run : Run σ) (trouble : Trouble) : Prop :=
  ∃ before hash reply tx last,
    run.transcript node start = before ++ [.transaction hash reply] ∧
    run.queries = before.map Answer.query ++ [.transaction hash] ∧
    reply.result = .ok tx ∧
    writer.attemptAll refuses made (Answer.transactions before) = .ok (last, run.disk) ∧
    last.attempt refuses run.disk tx = .error trouble

theorem Halts.written_or_unwritten {node : Node σ} {refuses : Refusals} {start : σ} {stopped : Bool}
    {writer : Writer} {made : Disk} {stage : Stage σ}
    {outcome : Except Trouble Tally × Run σ} (h : Halts node refuses stage outcome)
    (happended : Appended node refuses start stopped writer made stage) :
    ((∀ trouble, outcome.1 = .error trouble → ∃ target, trouble.outer = .fetch target) ∧
      ∃ last, writer.attemptAll refuses made
        (Answer.transactions (outcome.2.transcript node start)) = .ok (last, outcome.2.disk)) ∨
    ∃ trouble, outcome.1 = .error trouble ∧
      trouble.outer = .file .append writer.path ∧
      writer.attemptAll refuses made (Answer.transactions (outcome.2.transcript node start)) =
        .error trouble ∧
      Unwritten node refuses start writer made outcome.2 trouble := by
  obtain ⟨htraced, hpath, hlines⟩ := happended
  cases h with
  | finished =>
      refine .inl ⟨fun trouble h => ?_, _, hlines⟩
      cases h
  | @stopped _ _ _ target =>
      refine .inl ⟨fun trouble h => ?_, _, hlines⟩
      cases h
      exact ⟨target, rfl⟩
  | @broken _ tally run target _ _ _ _ _ hanswer htrouble =>
      refine .inl ⟨fun trouble h => ?_, tally.writer, ?_⟩
      · cases h
        exact ⟨target, rfl⟩
      · rw [Run.transcript_heard htraced hanswer, Answer.transactions_append,
          Answer.transactions_singleton, Answer.transaction?_of_trouble htrouble]
        simpa using hlines
  | @unwritten number count hash rest tally run reply next tx trouble hstop hreply hresult
      happend =>
      have hanswer : node.answer run.node (.transaction hash) =
          (.transaction hash reply, next) := by
        simp [Node.answer, hreply]
      have htranscript := Run.transcript_heard htraced hanswer
      refine .inr ⟨trouble, rfl, ?_, ?_, run.transcript node start, hash, reply, tx, _,
        htranscript, ?_, hresult, hlines, happend⟩
      · rw [Writer.attempt_outer happend]
        exact congrArg (Layer.file .append) hpath
      · change writer.attemptAll refuses made (Answer.transactions
          ((run.heard (.transaction hash reply) next).transcript node start)) = _
        rw [htranscript, Answer.transactions_append, Answer.transactions_of_ok hresult,
          Writer.attemptAll_snoc hlines]
        exact happend
      · simp [Run.transcript, Run.logged, Run.heard, Run.after]

/-! How an extraction ends. -/

theorem error_conclude {path : String} {head : Nat} {outcome : Except Trouble Tally × Run σ}
    {trouble : Trouble} :
    (conclude path head outcome).1 = .error trouble ↔ outcome.1 = .error trouble := by
  obtain ⟨result, run⟩ := outcome
  cases result <;> simp [conclude]

/-- The height is not told, no archive can be created, a line cannot be written, or all
lines are written. -/
inductive Ending (node : Node σ) (refuses : Refusals) (start : σ) (disk : Disk) (path : String)
    (run : Run σ) : Except Trouble Stats → Prop where
  | heightUnknown {own : Trouble} :
      (node.height start).1.result = .error own →
      run.queries = [.height] →
      ¬ run.disk.HasFile path →
      Ending node refuses start disk path run (.error (own.under .heightUnknown))
  | uncreated {head : Quantity} {fault : SystemFault} :
      (node.height start).1.result = .ok head →
      disk.create path = .error fault →
      run.queries = [.height] →
      ¬ run.disk.HasFile path →
      Ending node refuses start disk path run
        (.error (Writer.fileTrouble .create path (.system fault)))
  | unwritten {head : Quantity} {writer : Writer} {made : Disk} {trouble : Trouble} :
      (node.height start).1.result = .ok head →
      Writer.create (disk.discard path) path = .ok (writer, made) →
      writer.attemptAll refuses made (Answer.transactions (run.transcript node start)) =
        .error trouble →
      Unwritten node refuses start writer made run trouble →
      trouble.outer = .file .append path →
      Ending node refuses start disk path run (.error trouble)
  | written {head : Quantity} {writer last : Writer} {made : Disk}
      {result : Except Trouble Stats} :
      (node.height start).1.result = .ok head →
      Writer.create (disk.discard path) path = .ok (writer, made) →
      writer.attemptAll refuses made (Answer.transactions (run.transcript node start)) =
        .ok (last, run.disk) →
      (∀ trouble, result = .error trouble → ∃ target, trouble.outer = .fetch target) →
      Ending node refuses start disk path run result

theorem disk_cleared (run : Run σ) (path : String) :
    (cleared run path).disk = run.disk.discard path := by
  unfold cleared Disk.discard
  cases run.disk.remove path with
  | ok later => rfl
  | error fault => cases fault <;> rfl

theorem Halts.ending {node : Node σ} {refuses : Refusals} {start : σ} {stopped : Bool}
    {disk made : Disk} {path : String} {head : Quantity} {writer : Writer} {stage : Stage σ}
    {outcome : Except Trouble Tally × Run σ} (h : Halts node refuses stage outcome)
    (happended : Appended node refuses start stopped writer made stage)
    (hhead : (node.height start).1.result = .ok head)
    (hcreate : Writer.create (disk.discard path) path = .ok (writer, made)) :
    Ending node refuses start disk path (conclude path head.value outcome).2
      (conclude path head.value outcome).1 := by
  rcases h.written_or_unwritten happended with
    ⟨hfetch, last, hlines⟩ | ⟨trouble, hresult, houter, hlines, hunwritten⟩
  · have hwritten : writer.attemptAll refuses made (Answer.transactions
        ((conclude path head.value outcome).2.transcript node start)) =
        .ok (last, (conclude path head.value outcome).2.disk) := by
      rw [Run.transcript, queries_conclude, disk_conclude]
      exact hlines
    exact .written hhead hcreate hwritten fun trouble hresult =>
      hfetch trouble (error_conclude.mp hresult)
  · obtain ⟨result, run⟩ := outcome
    cases hresult
    rw [Writer.path_of_create hcreate] at houter
    exact .unwritten hhead hcreate hlines hunwritten houter

theorem extract_ending (node : Node σ) (refuses : Refusals) (start : σ) (disk : Disk)
    (path : String) (stopped : Bool) :
    let outcome :=
      Run.perform (extract (Run.refusing node refuses) path) (.start start disk stopped)
    Ending node refuses start disk path outcome.2 outcome.1 := by
  intro outcome
  cases hheight : (node.height start).1.result with
  | error own =>
      have hperform : outcome = _ := extract_heightUnknown disk path stopped rfl hheight
      rw [hperform]
      refine .heightUnknown hheight (by simp [Run.start, Answer.query]) ?_
      rw [Run.disk_heard, disk_cleared]
      exact disk.not_hasFile_discard path
  | ok head =>
      have hperform : outcome = _ := perform_extract node refuses rfl
      have hdisk : (cleared (Run.start start disk stopped) path).disk = disk.discard path :=
        disk_cleared ..
      simp only [Run.start, hheight, Run.disk_heard] at hperform hdisk
      rw [hdisk] at hperform
      cases hcreate : Writer.create (disk.discard path) path with
      | error trouble =>
          obtain ⟨fault, hfault, rfl⟩ := Writer.create_eq_error.mp hcreate
          rw [hperform, hcreate]
          refine .uncreated hheight ((disk.create_discard_like path).error_iff.mp hfault)
            (by simp [announced, Answer.query]) ?_
          simp only [announced, Run.disk_logged, Run.disk_heard, hdisk]
          exact disk.not_hasFile_discard path
      | ok created =>
          obtain ⟨writer, made⟩ := created
          rw [hperform, hcreate]
          have hreply : node.height start = ((node.height start).1, (node.height start).2) := rfl
          have htraced := traced_announced hreply disk stopped path head.value
          have hheard := transcript_announced hreply disk stopped path head.value
          have hbegun : Appended node refuses start stopped writer made
              (firstStage head.value writer
                { announced ((cleared (Run.start start disk stopped) path).heard
                    (.height (node.height start).1) (node.height start).2) path head.value with
                  disk := made }) := by
            refine ⟨⟨htraced.node_eq, htraced.stopped_eq⟩, rfl, ?_⟩
            exact congrArg
              (fun answers => writer.attemptAll refuses made (Answer.transactions answers)) hheard
          obtain ⟨last, hsteps, hhalts⟩ := exists_halts node refuses _
          exact hhalts.ending (steps_appended hsteps hbegun) hheight hcreate

theorem not_failsAs {layer : Layer} {result : Except Trouble α}
    (hfetch : ∀ trouble, result = .error trouble → ∃ target, trouble.outer = .fetch target)
    (hlayer : ∀ target, layer ≠ .fetch target) : ¬ FailsAs layer result := by
  rintro ⟨causes, rfl⟩
  obtain ⟨target, htarget⟩ := hfetch _ rfl
  exact hlayer target htarget

section Endings

variable {node : Node σ} {refuses : Refusals} {start : σ} {disk : Disk} {path : String}
  {run : Run σ} {result : Except Trouble Stats} (h : Ending node refuses start disk path run result)

include h

theorem Ending.failsAs_heightUnknown :
    FailsAs .heightUnknown result ↔ ∃ own, (node.height start).1.result = .error own := by
  cases h with
  | heightUnknown hheight => simp [failsAs_error, Trouble.under, hheight]
  | uncreated hheight => simp [failsAs_error, Writer.fileTrouble, Trouble.under, hheight]
  | unwritten hheight _ _ _ houter => simp [failsAs_error, houter, hheight]
  | written hheight _ _ hfetch =>
      simp only [hheight, reduceCtorEq, exists_false, iff_false]
      exact not_failsAs hfetch (by simp)

theorem Ending.failsAs_create :
    FailsAs (.file .create path) result ↔
      (∃ head, (node.height start).1.result = .ok head) ∧
        ∃ fault, disk.create path = .error fault := by
  have hcreated {writer : Writer} {made : Disk}
      (hcreate : Writer.create (disk.discard path) path = .ok (writer, made))
      (fault : SystemFault) :
      disk.create path ≠ .error fault := by
    intro hfault
    rw [← (disk.create_discard_like path).error_iff] at hfault
    simp [Writer.create, hfault] at hcreate
  cases h with
  | heightUnknown hheight => simp [failsAs_error, Trouble.under, hheight]
  | uncreated hheight hfault =>
      simp [failsAs_error, Writer.fileTrouble, Trouble.under, hheight, hfault]
  | unwritten hheight hcreate _ _ houter => simp [failsAs_error, houter, hcreated hcreate]
  | written hheight hcreate _ hfetch =>
      simp only [hcreated hcreate, exists_false, and_false, iff_false]
      exact not_failsAs hfetch (by simp)

theorem Ending.failsAs_append :
    FailsAs (.file .append path) result ↔
      (∃ head, (node.height start).1.result = .ok head) ∧ ∃ writer made trouble,
        Writer.create (disk.discard path) path = .ok (writer, made) ∧
        writer.attemptAll refuses made (Answer.transactions (run.transcript node start)) =
          .error trouble := by
  cases h with
  | heightUnknown hheight => simp [failsAs_error, Trouble.under, hheight]
  | uncreated hheight hfault =>
      rw [← (disk.create_discard_like path).error_iff] at hfault
      simp [failsAs_error, Writer.fileTrouble, Trouble.under, Writer.create, hfault]
  | unwritten hheight hcreate hlines _ houter =>
      exact ⟨fun _ => ⟨⟨_, hheight⟩, _, _, _, hcreate, hlines⟩,
        fun _ => failsAs_error.mpr houter⟩
  | written hheight hcreate hlines hfetch =>
      simp only [hcreate, Except.ok.injEq, Prod.mk.injEq, and_assoc]
      constructor
      · intro hfails
        exact absurd hfails (not_failsAs hfetch (by simp))
      · rintro ⟨-, _, _, trouble, rfl, rfl, hunwritten⟩
        rw [hlines] at hunwritten
        cases hunwritten

theorem Ending.without_height {own : Trouble} (hown : (node.height start).1.result = .error own) :
    result = .error (own.under .heightUnknown) ∧ run.queries = [.height] ∧
      ¬ run.disk.HasFile path := by
  cases h with
  | heightUnknown hheight hqueries hfile =>
      rw [hown] at hheight
      cases hheight
      exact ⟨rfl, hqueries, hfile⟩
  | uncreated hheight => simp [hown] at hheight
  | unwritten hheight => simp [hown] at hheight
  | written hheight => simp [hown] at hheight

theorem Ending.queries_uncreated (hfails : FailsAs (.file .create path) result) :
    run.queries = [.height] := by
  cases h with
  | heightUnknown _ hqueries => exact hqueries
  | uncreated _ _ hqueries => exact hqueries
  | unwritten _ _ _ _ houter => simp [failsAs_error, houter] at hfails
  | written _ _ _ hfetch => exact absurd hfails (not_failsAs hfetch (by simp))

theorem Ending.line_unwritten {trouble : Trouble} (hresult : result = .error trouble)
    (houter : trouble.outer = .file .append path) :
    ∃ writer made, Writer.create (disk.discard path) path = .ok (writer, made) ∧
      Unwritten node refuses start writer made run trouble := by
  cases h with
  | heightUnknown =>
      cases hresult
      cases houter
  | uncreated =>
      cases hresult
      cases houter
  | unwritten _ hcreate _ hunwritten =>
      cases hresult
      exact ⟨_, _, hcreate, hunwritten⟩
  | written _ _ _ hfetch =>
      obtain ⟨target, htarget⟩ := hfetch _ hresult
      simp [houter] at htarget

end Endings

/-! Files that cannot be removed. -/

end Extraction

/-- The world of a node where nothing can be removed, for that reason. -/
def Run.unremoving (node : Node σ) (refuses : Refusals) (fault : SystemFault) :
    World (StateM (Run σ)) :=
  { Run.refusing node refuses with remove := fun _ => pure (.error fault) }

namespace Extraction

def removalNote (path : String) : Except SystemFault Disk → List Event
  | .ok _ => [.deleted path]
  | .error .notFound => []
  | .error fault => [.notDeleted path fault]

theorem cleared_eq (run : Run σ) (path : String) :
    cleared run path =
      { run with
        disk := run.disk.discard path
        events := run.events ++ removalNote path (run.disk.remove path) } := by
  unfold cleared Disk.discard removalNote
  cases run.disk.remove path with
  | ok later => rfl
  | error fault => cases fault <;> simp [Run.logged]

theorem perform_removeStale_unremoving (node : Node σ) (refuses : Refusals)
    (fault : SystemFault) (path : String) (run : Run σ) :
    Run.perform (removeStale (Run.unremoving node refuses fault) path) run =
      (.ok (), { run with events := run.events ++ removalNote path (.error fault) }) := by
  unfold removeStale
  rw [Run.perform_bind]
  cases fault <;> simp [removalNote] <;> rfl

theorem extractAnew_unremoving (node : Node σ) (refuses : Refusals) (fault : SystemFault)
    (path : String) :
    extractAnew (Run.unremoving node refuses fault) path =
      extractAnew (Run.refusing node refuses) path := by
  have hequal : Job.Congruent fun α (job other : Job (StateM (Run σ)) α) => job = other :=
    { pure := fun _ => rfl
      throw := fun _ => rfl
      bind := fun hjob hnext => congrArg₂ (· >>= ·) hjob (funext hnext)
      under := fun hjob layer => congrArg (Job.under layer) hjob }
  have hworlds : World.Meets (fun _ job other => job = other) (Run.unremoving node refuses fault)
      (Run.refusing node refuses) :=
    { height := rfl
      block := fun _ _ => rfl
      transaction := fun _ => rfl
      stopped := rfl
      now := rfl
      log := fun _ _ => rfl
      create := fun _ => rfl
      append := fun _ _ => rfl }
  exact extractAnew_meets hequal hworlds path

theorem extractAnew_beside (node : Node σ) (refuses : Refusals) {path : String} {run : Run σ}
    {disk : Disk} (events : List Event)
    (hcreate : Outcome.Like Disk.AlikeWith (run.disk.create path) (disk.create path)) :
    let outcome := Run.perform (extractAnew (Run.refusing node refuses) path) run
    let beside :=
      Run.perform (extractAnew (Run.refusing node refuses) path) { run with disk, events }
    outcome.1 = beside.1 ∧ outcome.2.queries = beside.2.queries ∧
      ∃ common, outcome.2.events = run.events ++ common ∧
        beside.2.events = events ++ common := by
  intro outcome beside
  have houtcome : outcome = _ := perform_extractAnew node refuses rfl
  have hbeside : beside = _ := perform_extractAnew node refuses rfl
  rw [houtcome, hbeside]
  dsimp only
  cases (node.height run.node).1.result with
  | error own => exact ⟨rfl, rfl, (node.height run.node).1.events, rfl, rfl⟩
  | ok head =>
      have hmade := Writer.create_like hcreate
      simp only [Run.disk_heard]
      generalize Writer.create run.disk path = made at hmade ⊢
      generalize Writer.create disk path = made' at hmade ⊢
      cases hmade with
      | error trouble =>
          refine ⟨rfl, rfl, (node.height run.node).1.events ++ [.creating path, .total head.value],
            ?_, ?_⟩ <;> simp [announced, Run.logged, Run.heard, Run.after]
      | @ok created created' halike =>
          obtain ⟨writer, made⟩ := created
          obtain ⟨writer', made'⟩ := created'
          obtain ⟨rfl, hdisks⟩ := halike
          have hworlds := Kinship.world_alike refuses
            (Kinship.ofEvents_nodes node run.events events) fun _ _ => rfl
          have hmeets := conclude_meets (Job.alike_congruent _) hworlds.meets path
            head.one_add_le
          have hruns : (Kinship.ofEvents σ run.events events).Runs
              { announced (run.heard (.height (node.height run.node).1)
                (node.height run.node).2) path head.value with disk := made }
              { announced (Run.heard { run with disk, events } (.height (node.height run.node).1)
                (node.height run.node).2) path head.value with disk := made' } :=
            { node := rfl
              disk := hdisks
              clock := rfl
              stopped := rfl
              queries := rfl
              events := ⟨(node.height run.node).1.events ++ [.creating path, .total head.value],
                by
                  rw [Kinship.filter_ofEvents_shown]
                  simp [announced, Run.logged, Run.heard, Run.after, Kinship.ofEvents],
                by simp [announced, Run.logged, Run.heard, Run.after, Kinship.ofEvents]⟩ }
          simp only [firstStage, ← perform_conclude]
          obtain ⟨hresult, hlast⟩ := hmeets _ _ _ hruns
          obtain ⟨common, hevents, hevents'⟩ := hlast.events
          rw [Kinship.filter_ofEvents_shown] at hevents
          exact ⟨hresult, hlast.queries, common, hevents, hevents'⟩

theorem extract_unremoving (node : Node σ) (refuses : Refusals) (start : σ) (disk : Disk)
    (path : String) (stopped : Bool) (fault : SystemFault) :
    let outcome :=
      Run.perform (extract (Run.refusing node refuses) path) (.start start disk stopped)
    let unable :=
      Run.perform (extract (Run.unremoving node refuses fault) path) (.start start disk stopped)
    outcome.1 = unable.1 ∧ outcome.2.queries = unable.2.queries ∧
      ∃ events, outcome.2.events = removalNote path (disk.remove path) ++ events ∧
        unable.2.events = removalNote path (.error fault) ++ events := by
  simp only [extract_eq, Run.perform_bind, perform_removeStale, cleared_eq,
    perform_removeStale_unremoving, extractAnew_unremoving]
  exact extractAnew_beside node refuses _ (disk.create_discard_like path)

/-- How an extraction fails, whatever the node replies, whatever is at the path and whichever
lines are refused. It fails for want of the height, or of an archive, when there is none; then
nothing more is asked for, and without the height no file is left at the path. It fails at a
line when that line cannot be written after those before it, and then the transaction of the
line was the last that was asked for. That a file cannot be removed is only mentioned. -/
theorem extract_failures (node : Node σ) (refuses : Refusals) (start : σ) (disk : Disk)
    (path : String) (stopped : Bool) :
    let outcome :=
      Run.perform (extract (Run.refusing node refuses) path) (.start start disk stopped)
    let height := (node.height start).1.result
    (FailsAs .heightUnknown outcome.1 ↔ ∃ own, height = .error own) ∧
    (∀ own, height = .error own → outcome.1 = .error (own.under .heightUnknown) ∧
      outcome.2.queries = [.height] ∧ ¬ outcome.2.disk.HasFile path) ∧
    (FailsAs (.file .create path) outcome.1 ↔
      (∃ head, height = .ok head) ∧ ∃ fault, disk.create path = .error fault) ∧
    (FailsAs (.file .create path) outcome.1 → outcome.2.queries = [.height]) ∧
    (FailsAs (.file .append path) outcome.1 ↔
      (∃ head, height = .ok head) ∧ ∃ writer made trouble,
        Writer.create (disk.discard path) path = .ok (writer, made) ∧
        writer.attemptAll refuses made (Answer.transactions (outcome.2.transcript node start)) =
          .error trouble) ∧
    (∀ trouble, outcome.1 = .error trouble → trouble.outer = .file .append path →
      ∃ writer made, Writer.create (disk.discard path) path = .ok (writer, made) ∧
        Unwritten node refuses start writer made outcome.2 trouble) ∧
    ∀ fault,
      let unable :=
        Run.perform (extract (Run.unremoving node refuses fault) path) (.start start disk stopped)
      outcome.1 = unable.1 ∧ outcome.2.queries = unable.2.queries ∧
        ∃ events, outcome.2.events = removalNote path (disk.remove path) ++ events ∧
          unable.2.events = removalNote path (.error fault) ++ events := by
  intro outcome height
  have hremoval := extract_unremoving node refuses start disk path stopped
  have hending : Ending node refuses start disk path outcome.2 outcome.1 :=
    extract_ending node refuses start disk path stopped
  exact ⟨hending.failsAs_heightUnknown, fun _ hown => hending.without_height hown,
    hending.failsAs_create, hending.queries_uncreated, hending.failsAs_append,
    fun _ hresult houter => hending.line_unwritten hresult houter, hremoval⟩

/-- The disk is full when the second line is written. -/
example :
    let tx : Transaction :=
      ⟨"0x1", none, ⟨7, by decide⟩, none, none, none, none, none, none, none, []⟩
    let node := Node.steady (.ok ⟨1, by decide⟩)
      (fun _ => .ok ⟨⟨1, by decide⟩, none, ["0xaa", "0xbb", "0xcc"]⟩) (fun _ => .ok tx)
      (fun _ => false)
    let full : Refusals := fun lines => if lines = 1 then some .noSpace else none
    let outcome := Run.perform (extract (Run.refusing node full) "log") (.start () ⟨[]⟩ false)
    outcome.1.isOk = false ∧
      outcome.2.queries = [.height, .block 1, .transaction "0xaa", .transaction "0xbb"] ∧
      outcome.2.disk.content "log" = Archive.text [tx] := by
  decide +kernel

end Extraction

end ChainArchive
