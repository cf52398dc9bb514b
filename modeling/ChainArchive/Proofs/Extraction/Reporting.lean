import ChainArchive.Proofs.Extraction.Journal

namespace ChainArchive

variable {σ : Type}

/-! The progress lines of a journal. -/

def Note.reported? : Note → Option Nat
  | .logged (.progress number _) => some number
  | _ => none

namespace Answer

theorem reported?_notes (path : String) (answer : Answer) :
    (answer.notes path).filterMap Note.reported? = [] := by
  cases answer with
  | height reply =>
      cases hresult : reply.result <;> simp [notes, news, Note.reported?, hresult]
  | block number reply =>
      cases hfound : (block number reply).block? <;> simp [notes, news, Note.reported?, hfound]
  | transaction hash reply =>
      cases hresult : reply.result <;> simp [notes, news, Note.reported?, hresult]

@[simp] theorem reported?_flatMap_notes (path : String) (answers : List Answer) :
    (answers.flatMap (notes path)).filterMap Note.reported? = [] := by
  induction answers with
  | nil => rfl
  | cons answer later ih =>
      rw [List.flatMap_cons, List.filterMap_append, ih, reported?_notes, List.append_nil]

end Answer

namespace Extraction

open Progress (Sample reported latest)

@[simp] theorem reported?_beginning (node : Node σ) (start : σ) (disk : Disk) (path : String) :
    (beginning node start disk path).filterMap Note.reported? = [] := by
  rw [beginning, List.filterMap_append, Answer.reported?_notes, List.append_nil]
  unfold removalNote
  split <;> rfl

@[simp] theorem reported?_closing (path : String) (result : Except Trouble Stats) :
    (closing path result).filterMap Note.reported? = [] := by
  cases result <;> rfl

section Chronicle

variable {path : String} {created : Nat} {chapters : List (List Answer)}
  {completions : List Sample} {notes : List Note}

theorem Chronicle.values_eq (h : Chronicle path created chapters completions notes) :
    completions.map Sample.value = List.range' 1 chapters.length := by
  induction h with
  | nil => rfl
  | @snoc chapters _ _ answers _ _ ih =>
      rw [List.map_append, ih, List.length_append, List.length_singleton, List.range'_1_concat,
        Nat.add_comm 1]
      simp [completionOf]

theorem Chronicle.values_lt (h : Chronicle path created chapters completions notes) :
    completions.Pairwise fun before behind => before.value < behind.value := by
  rw [← List.pairwise_map (f := Sample.value), h.values_eq]
  exact List.pairwise_lt_range'

theorem Chronicle.time_le (h : Chronicle path created chapters completions notes) :
    ∀ completion ∈ completions, completion.time ≤ created + Answer.time chapters.flatten := by
  induction h with
  | nil => simp
  | @snoc chapters _ _ answers _ _ ih =>
      intro completion hcompletion
      rcases List.mem_append.mp hcompletion with hbefore | hlast
      · have hle := ih completion hbefore
        rw [List.flatten_append, Answer.time_append]
        omega
      · rw [List.mem_singleton.mp hlast]
        exact Nat.le_refl _

theorem Chronicle.lines_eq (h : Chronicle path created chapters completions notes) :
    notes.filterMap Note.reported? =
      (reported pace.interval created completions).map Sample.value := by
  induction h with
  | nil => rfl
  | snoc _ _ ih =>
      rw [List.filterMap_append, List.filterMap_append, ih, Answer.reported?_flatMap_notes,
        List.append_nil, Progress.reported_snoc, List.map_append, line]
      split <;> rfl

end Chronicle

/-! Where the lines stand. -/

/-- Every progress line comes right after what was noted of a block, with all its
transactions, and names that block. -/
def BehindBlocks (path : String) (chapters : List (List Answer)) (notes : List Note) : Prop :=
  ∀ before number speed after, notes = before ++ .logged (.progress number speed) :: after →
    ∃ earlier answers, answers ∈ chapters ∧ Opened number answers [] ∧
      before = earlier ++ answers.flatMap (Answer.notes path)

theorem split_append {α : Type} {first second before after : List α} {item : α}
    (h : first ++ second = before ++ item :: after) :
    (∃ between, first = before ++ item :: between) ∨
      ∃ between, before = first ++ between ∧ second = between ++ item :: after := by
  rcases List.append_eq_append_iff.mp h with ⟨between, hbefore, hsecond⟩ | ⟨between, hfirst, hitem⟩
  · exact .inr ⟨between, hbefore, hsecond⟩
  · cases between with
    | nil => exact .inr ⟨[], by simpa using hfirst.symm, by simpa using hitem.symm⟩
    | cons other between =>
        cases hitem
        exact .inl ⟨between, hfirst⟩

section BehindBlocks

variable {path : String} {chapters : List (List Answer)} {notes more : List Note}

theorem quiet_absurd {before after : List Note} {number : Nat} {speed : String}
    (hquiet : more.filterMap Note.reported? = [])
    (h : more = before ++ .logged (.progress number speed) :: after) : False := by
  rw [h, List.filterMap_append, List.filterMap_cons] at hquiet
  simp [Note.reported?] at hquiet

theorem behindBlocks_nil : BehindBlocks path chapters [] := by
  intro before number speed after h
  simp at h

theorem BehindBlocks.mono (h : BehindBlocks path chapters notes) (others : List (List Answer)) :
    BehindBlocks path (chapters ++ others) notes := by
  intro before number speed after hnotes
  obtain ⟨earlier, answers, hmem, hopened, hbefore⟩ := h before number speed after hnotes
  exact ⟨earlier, answers, List.mem_append_left others hmem, hopened, hbefore⟩

theorem BehindBlocks.append (h : BehindBlocks path chapters notes)
    (hquiet : more.filterMap Note.reported? = []) :
    BehindBlocks path chapters (notes ++ more) := by
  intro before number speed after hnotes
  rcases split_append hnotes with ⟨between, hfirst⟩ | ⟨between, -, hmore⟩
  · exact h before number speed between hfirst
  · exact (quiet_absurd hquiet hmore).elim

theorem BehindBlocks.after (h : BehindBlocks path chapters notes)
    (hquiet : more.filterMap Note.reported? = []) :
    BehindBlocks path chapters (more ++ notes) := by
  intro before number speed after hnotes
  rcases split_append hnotes with ⟨between, hmore⟩ | ⟨between, rfl, hlater⟩
  · exact (quiet_absurd hquiet hmore).elim
  · obtain ⟨earlier, answers, hmem, hopened, rfl⟩ := h between number speed after hlater
    exact ⟨more ++ earlier, answers, hmem, hopened, by rw [List.append_assoc]⟩

theorem BehindBlocks.line {number : Nat} {answers : List Answer} (speed : String)
    (h : BehindBlocks path chapters notes) (hmem : answers ∈ chapters)
    (hopened : Opened number answers []) :
    BehindBlocks path chapters
      (notes ++ answers.flatMap (Answer.notes path) ++ [.logged (.progress number speed)]) := by
  intro before other speed' after hnotes
  rcases split_append hnotes with ⟨between, hfirst⟩ | ⟨between, rfl, hline⟩
  · exact (h.append (Answer.reported?_flatMap_notes path answers)) before other speed' between
      hfirst
  · rcases List.singleton_eq_append_iff.mp hline with ⟨rfl, hlast⟩ | ⟨-, hlast⟩
    · cases hlast
      exact ⟨notes, answers, hmem, hopened, List.append_nil _⟩
    · cases hlast

theorem Chronicle.behindBlocks {created : Nat} {completions : List Sample}
    (h : Chronicle path created chapters completions notes) :
    BehindBlocks path chapters notes := by
  induction h with
  | nil => exact behindBlocks_nil
  | @snoc chapters completions notes answers _ hopened ih =>
      have hbefore := ih.mono [answers]
      have hmem : answers ∈ chapters ++ [answers] := by simp
      unfold Extraction.line
      split
      · have hnumber : (completionOf created (chapters ++ [answers])).value =
            chapters.length + 1 := List.length_append
        rw [hnumber]
        exact hbefore.line _ hmem hopened
      · rw [List.map_nil, List.append_nil]
        exact hbefore.append (Answer.reported?_flatMap_notes path answers)

end BehindBlocks

section Account

variable {node : Node σ} {start : σ} {stopped : Bool} {disk : Disk} {path : String}
  {chapters : List (List Answer)} {completions : List Sample} {notes : List Note}
  {rest : List Answer} {outcome : Except Trouble Stats × Run σ}

theorem reported?_journal (result : Except Trouble Stats) :
    (journal node start disk path notes rest result).filterMap Note.reported? =
      notes.filterMap Note.reported? := by
  simp [journal]

theorem Account.answers_eq
    (h : Account node start stopped disk path chapters completions notes rest outcome) :
    outcome.2.transcript node start =
      .height (node.height start).1 :: (chapters ++ [rest]).flatten := by
  have hclosing : (closing path outcome.1).filterMap Note.answer? = [] := by
    cases outcome.1 <;> rfl
  rw [h.keeps.transcript_eq, journal, List.filterMap_append, List.filterMap_append,
    List.filterMap_append, answers_beginning, h.chronicle.answers_eq, hclosing]
  simp

theorem Account.clock_eq
    (h : Account node start stopped disk path chapters completions notes rest outcome) :
    outcome.2.clock = (node.height start).1.elapsed + Answer.time chapters.flatten +
      Answer.time rest := by
  rw [h.keeps.clock_eq, h.answers_eq, List.flatten_append, ← List.singleton_append,
    Answer.time_append, Answer.time_append, Answer.time_singleton, ← Nat.add_assoc]
  simp [Answer.elapsed]

theorem Account.behindBlocks
    (h : Account node start stopped disk path chapters completions notes rest outcome) :
    BehindBlocks path chapters (journal node start disk path notes rest outcome.1) := by
  have hnotes := h.chronicle.behindBlocks.after (reported?_beginning node start disk path)
  have hrest := hnotes.append (Answer.reported?_flatMap_notes path rest)
  exact hrest.append (reported?_closing path outcome.1)

theorem Account.length_lines
    (h : Account node start stopped disk path chapters completions notes rest outcome) :
    (reported pace.interval (node.height start).1.elapsed completions).length ≤
      (outcome.2.clock - (node.height start).1.elapsed) / pace.interval := by
  have hclock := h.clock_eq
  have hlength := Progress.length_reported pace.interval (node.height start).1.elapsed completions
  have hlatest : latest (node.height start).1.elapsed
      (reported pace.interval (node.height start).1.elapsed completions) ≤ outcome.2.clock := by
    apply Progress.latest_le (by omega)
    intro line hline
    have hcompletion := (Progress.reported_sublist _ _ completions).subset hline
    have htime := h.chronicle.time_le line hcompletion
    omega
  rw [Nat.le_div_iff_mul_le (by decide)]
  omega

end Account

/-- The progress lines of an extraction, whatever the node replies, however long it takes and
wherever a line that is refused ends it. The clock is read when the archive has been created
and when a block has been completed, and between two readings some query is answered: all
time that goes by, while a query is under way or since the one before it, is counted to its
reply. -/
theorem extract_reports (node : Node σ) (refuses : Refusals) (start : σ) (disk : Disk)
    (path : String) (stopped : Bool) :
    let outcome :=
      Run.perform (extract (Run.refusing node refuses) path) (.start start disk stopped)
    let created := (node.height start).1.elapsed
    ∃ chapters completions notes rest,
      Account node start stopped disk path chapters completions notes rest outcome ∧
      let journal := journal node start disk path notes rest outcome.1
      let lines := reported (5 * Progress.second) created completions
      BehindBlocks path chapters journal ∧
      journal.filterMap Note.reported? = lines.map Sample.value ∧
      (∀ earlier completion later, completions = earlier ++ completion :: later →
        (completion ∈ lines ↔
          latest created (reported (5 * Progress.second) created earlier) +
            5 * Progress.second ≤ completion.time)) ∧
      lines.Pairwise (fun line next =>
        line.value < next.value ∧ line.time + 5 * Progress.second ≤ next.time) ∧
      lines.length ≤ (outcome.2.clock - created) / (5 * Progress.second) ∧
      ∀ completion ∈ completions,
        completion.time < latest created lines + 5 * Progress.second := by
  intro outcome created
  obtain ⟨chapters, completions, notes, rest, haccount⟩ :=
    extract_account node refuses start disk path stopped
  have hnumbered := haccount.chronicle.values_lt
  refine ⟨chapters, completions, notes, rest, haccount, haccount.behindBlocks, ?_, ?_, ?_,
    haccount.length_lines, ?_⟩
  · rw [reported?_journal]
    exact haccount.chronicle.lines_eq
  · rintro earlier completion later rfl
    exact Progress.mem_reported_iff _ hnumbered
  · have hvalues := hnumbered.sublist
      (Progress.reported_sublist (5 * Progress.second) created completions)
    exact hvalues.and (Progress.reported_apart _ created completions)
  · exact Progress.time_lt_latest _ (by decide) created completions

end Extraction

end ChainArchive
