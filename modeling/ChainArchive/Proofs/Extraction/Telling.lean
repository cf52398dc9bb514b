import ChainArchive.Proofs.Archive.Reading
import ChainArchive.Proofs.Extraction.Reporting

namespace ChainArchive

variable {σ : Type}

/-! What the events of an extraction tell. -/

namespace Event

inductive Subject where
  | block
  | transaction
  | totals
  deriving DecidableEq, Repr

def subject? : Event → Option Subject
  | .fetchedBlock _ _ _ => some .block
  | .fetched _ _ _ => some .transaction
  | .wrote _ _ _ => some .totals
  | _ => none

def reports (events : List Event) : List Event := events.filter fun event => event.subject?.isSome

def on (subject : Subject) (events : List Event) : List Event :=
  events.filter fun event => event.subject? = some subject

@[simp] theorem reports_append (events others : List Event) :
    reports (events ++ others) = reports events ++ reports others := List.filter_append ..

@[simp] theorem on_append (subject : Subject) (events others : List Event) :
    on subject (events ++ others) = on subject events ++ on subject others :=
  List.filter_append ..

theorem on_reports (subject : Subject) (events : List Event) :
    on subject (reports events) = on subject events := by
  unfold on reports
  rw [List.filter_filter]
  apply List.filter_congr
  intro event _
  cases event.subject? <;> simp

end Event

def Block.fetched (block : Block) : Event :=
  .fetchedBlock block.number.value block.hash block.transactions.length

def Transaction.fetched (tx : Transaction) : Event :=
  .fetched tx.sender tx.recipient tx.nonce.value

namespace Answer

def blocks (answers : List Answer) : List Block := answers.filterMap block?

@[simp] theorem blocks_append (answers others : List Answer) :
    blocks (answers ++ others) = blocks answers ++ blocks others := List.filterMap_append ..

theorem blocks_singleton (answer : Answer) : blocks [answer] = answer.block?.toList := by
  cases h : answer.block? <;> simp [blocks, h]

def tidings (answer : Answer) : List Event :=
  answer.block?.toList.map Block.fetched ++ answer.transaction?.toList.map Transaction.fetched

theorem block?_number {number : Nat} {reply : Reply Block} {found : Block}
    (h : (block number reply).block? = some found) : found.number.value = number := by
  rw [block?, Option.filter_eq_some_iff] at h
  simpa using h.2

theorem reports_news (path : String) (answer : Answer) :
    Event.reports (answer.news path) = answer.tidings := by
  cases answer with
  | height reply =>
      cases hresult : reply.result <;>
        simp [Event.reports, news, tidings, block?, transaction?, hresult, Event.subject?]
  | block number reply =>
      cases hfound : (block number reply).block? with
      | none => simp [Event.reports, news, tidings, hfound, transaction?]
      | some found =>
          have hnumber := block?_number hfound
          simp [Event.reports, news, tidings, hfound, transaction?, Event.subject?,
            Block.fetched, hnumber]
  | transaction hash reply =>
      cases hresult : reply.result <;>
        simp [Event.reports, news, tidings, block?, transaction?, hresult, Event.subject?,
          Transaction.fetched]

theorem reports_flatMap_news (path : String) (answers : List Answer) :
    Event.reports (answers.flatMap (news path)) = answers.flatMap tidings := by
  rw [Event.reports, List.filter_flatMap]
  exact congrArg answers.flatMap (funext (reports_news path))

theorem on_tidings (answers : List Answer) :
    Event.on .block (answers.flatMap tidings) = (blocks answers).map Block.fetched ∧
    Event.on .transaction (answers.flatMap tidings) =
      (transactions answers).map Transaction.fetched ∧
    Event.on .totals (answers.flatMap tidings) = [] := by
  induction answers with
  | nil => exact ⟨rfl, rfl, rfl⟩
  | cons answer later ih =>
      obtain ⟨hblocks, htransactions, htotals⟩ := ih
      simp only [List.flatMap_cons, Event.on_append, hblocks, htransactions, htotals, blocks,
        transactions, List.filterMap_cons]
      cases hblock : answer.block? <;> cases htx : answer.transaction? <;>
        simp [Event.on, tidings, hblock, htx, Event.subject?, Block.fetched, Transaction.fetched]

theorem tidings_blockless {answers : List Answer} (h : ∀ answer ∈ answers, answer.block? = none) :
    answers.flatMap tidings = (transactions answers).map Transaction.fetched ∧
      blocks answers = [] := by
  induction answers with
  | nil => exact ⟨rfl, rfl⟩
  | cons answer later ih =>
      obtain ⟨hfirst, hlater⟩ := List.forall_mem_cons.mp h
      obtain ⟨htidings, hblocks⟩ := ih hlater
      rw [List.flatMap_cons, htidings, ← List.singleton_append, blocks_append,
        transactions_append, blocks_singleton, transactions_singleton, hblocks, hfirst, tidings,
        hfirst]
      simp

end Answer

namespace Extraction

open Progress (Sample)

/-! The answers to what is asked for one block. -/

/-- The block was asked for, and if it came under its number the first of its transactions. -/
def Chapter (number : Nat) (answers : List Answer) : Prop :=
  ∃ reply asked, answers = .block number reply :: asked ∧
    asked.map Answer.query <+:
      ((Answer.block number reply).block?.toList.flatMap Block.transactions).map .transaction

theorem Opened.asked {number : Nat} {answers : List Answer} {hashes : List String}
    (h : Opened number answers hashes) :
    ∃ reply block asked, answers = .block number reply :: asked ∧
      (Answer.block number reply).block? = some block ∧
      asked.map Answer.query ++ hashes.map .transaction = block.transactions.map .transaction := by
  induction h with
  | @block reply block hresult hnumber =>
      refine ⟨reply, block, [], rfl, ?_, rfl⟩
      simp [Answer.block?, hresult, Option.filter, hnumber]
  | @transaction answers hash rest reply tx _ _ ih =>
      obtain ⟨first, block, asked, rfl, hblock, hasked⟩ := ih
      refine ⟨first, block, asked ++ [.transaction hash reply], rfl, hblock, ?_⟩
      rw [← hasked]
      simp [Answer.query]

theorem Opened.chapter {number : Nat} {answers : List Answer} {hashes : List String}
    (h : Opened number answers hashes) : Chapter number answers := by
  obtain ⟨reply, block, asked, rfl, hblock, hasked⟩ := h.asked
  refine ⟨reply, asked, rfl, hashes.map .transaction, ?_⟩
  rw [hasked, hblock]
  simp

theorem Opened.chapter_snoc {number : Nat} {answers : List Answer} {hash : String}
    {rest : List String} (h : Opened number answers (hash :: rest)) (reply : Reply Transaction) :
    Chapter number (answers ++ [.transaction hash reply]) := by
  obtain ⟨first, block, asked, rfl, hblock, hasked⟩ := h.asked
  refine ⟨first, asked ++ [.transaction hash reply], rfl, rest.map .transaction, ?_⟩
  rw [hblock, Option.toList_some, List.flatMap_singleton, ← hasked]
  simp [Answer.query]

theorem Unfinished.chapter {number : Nat} {unwritten : Prop} {answers : List Answer}
    (h : Unfinished number unwritten answers) : answers = [] ∨ Chapter number answers := by
  cases h with
  | nothing => exact .inl rfl
  | refused _ => exact .inr ⟨_, [], rfl, List.nil_prefix⟩
  | part hopened => exact .inr hopened.chapter
  | broken hopened _ => exact .inr (hopened.chapter_snoc _)
  | unwritten hopened _ _ => exact .inr (hopened.chapter_snoc _)

theorem Chapter.tidings_eq {number : Nat} {answers : List Answer} (h : Chapter number answers) :
    answers.flatMap Answer.tidings =
      (Answer.blocks answers).map Block.fetched ++
        (Answer.transactions answers).map Transaction.fetched := by
  obtain ⟨reply, asked, rfl, hasked⟩ := h
  have hblockless : ∀ answer ∈ asked, answer.block? = none := by
    intro answer hanswer
    have hquery := hasked.subset (List.mem_map_of_mem hanswer)
    obtain ⟨hash, -, hhash⟩ := List.mem_map.mp hquery
    cases answer with
    | height reply => rfl
    | block number reply => cases hhash
    | transaction hash reply => rfl
  obtain ⟨htidings, hblocks⟩ := Answer.tidings_blockless hblockless
  rw [List.flatMap_cons, htidings, ← List.singleton_append, Answer.blocks_append,
    Answer.transactions_append, Answer.blocks_singleton, Answer.transactions_singleton, hblocks,
    Answer.tidings]
  simp [Answer.transaction?]

/-! The whole journal. -/

@[simp] theorem reports_line (created : Nat) (completions : List Sample) (completion : Sample) :
    Event.reports (line created completions completion) = [] := by
  unfold line
  split <;> rfl

theorem Chronicle.reports_eq {path : String} {created : Nat} {chapters : List (List Answer)}
    {completions : List Sample} {notes : List Note}
    (h : Chronicle path created chapters completions notes) :
    Event.reports (notes.filterMap Note.event?) = chapters.flatten.flatMap Answer.tidings := by
  induction h with
  | nil => rfl
  | snoc _ _ ih =>
      simp [ih, Answer.reports_flatMap_news]

theorem Chronicle.opened {path : String} {created : Nat} {chapters : List (List Answer)}
    {completions : List Sample} {notes : List Note}
    (h : Chronicle path created chapters completions notes) :
    ∀ k answers, chapters[k]? = some answers → Opened (k + 1) answers [] := by
  induction h with
  | nil => simp
  | @snoc chapters _ _ last _ hopened ih =>
      intro k answers hanswers
      rcases Nat.lt_trichotomy k chapters.length with hlt | rfl | hgt
      · rw [List.getElem?_append_left hlt] at hanswers
        exact ih k answers hanswers
      · rw [List.getElem?_concat_length] at hanswers
        cases hanswers
        exact hopened
      · rw [List.getElem?_eq_none (by simp; omega)] at hanswers
        cases hanswers

theorem flatMap_tidings {parts : List (List Answer)}
    (h : ∀ part ∈ parts, ∃ number, Chapter number part) :
    parts.flatten.flatMap Answer.tidings = parts.flatMap fun part =>
      (Answer.blocks part).map Block.fetched ++
        (Answer.transactions part).map Transaction.fetched := by
  induction parts with
  | nil => rfl
  | cons part later ih =>
      obtain ⟨⟨number, hchapter⟩, hlater⟩ := List.forall_mem_cons.mp h
      rw [List.flatten_cons, List.flatMap_append, List.flatMap_cons, hchapter.tidings_eq, ih hlater]

theorem Opened.length_blocks {number : Nat} {answers : List Answer} {hashes : List String}
    (h : Opened number answers hashes) : (Answer.blocks answers).length = 1 := by
  induction h with
  | block hresult hnumber =>
      simp [Answer.blocks_singleton, Answer.block?, hresult, Option.filter, hnumber]
  | transaction _ _ ih => simp [Answer.blocks_singleton, Answer.block?, ih]

theorem Chronicle.length_blocks {path : String} {created : Nat} {chapters : List (List Answer)}
    {completions : List Sample} {notes : List Note}
    (h : Chronicle path created chapters completions notes) :
    (Answer.blocks chapters.flatten).length = chapters.length := by
  induction h with
  | nil => rfl
  | snoc _ hopened ih => simp [ih, hopened.length_blocks]

theorem reports_events {journal : List Note}
    (h : ∀ answer ∈ journal.filterMap Note.answer?, Event.reports answer.events = []) :
    Event.reports (journal.flatMap Note.events) =
      Event.reports (journal.filterMap Note.event?) := by
  induction journal with
  | nil => rfl
  | cons note later ih =>
      cases note with
      | heard answer =>
          obtain ⟨hanswer, hlater⟩ := List.forall_mem_cons.mp h
          rw [List.flatMap_cons, Event.reports_append, ih hlater]
          exact congrArg (· ++ _) hanswer
      | logged event =>
          rw [List.flatMap_cons, Event.reports_append, ih h, ← Event.reports_append]
          rfl

section Account

variable {node : Node σ} {start : σ} {stopped : Bool} {disk : Disk} {path : String}
  {chapters : List (List Answer)} {completions : List Sample} {notes : List Note}
  {rest : List Answer} {outcome : Except Trouble Stats × Run σ}

theorem reports_beginning :
    Event.reports ((beginning node start disk path).filterMap Note.event?) = [] := by
  have hremoval : Event.reports (removalNote path (disk.remove path)) = [] := by
    unfold removalNote
    split <;> rfl
  have hheight := Answer.event?_notes path [.height (node.height start).1]
  rw [List.flatMap_singleton, List.flatMap_singleton] at hheight
  rw [beginning, List.filterMap_append, hheight, Event.reports_append, Answer.reports_news]
  simp [hremoval, Answer.tidings, Answer.block?, Answer.transaction?]

theorem Account.reports_eq
    (h : Account node start stopped disk path chapters completions notes rest outcome) :
    Event.reports ((journal node start disk path notes rest outcome.1).filterMap Note.event?) =
      (chapters ++ [rest]).flatten.flatMap Answer.tidings ++
        (closing path outcome.1).filterMap Note.event? := by
  have hclosing : Event.reports ((closing path outcome.1).filterMap Note.event?) =
      (closing path outcome.1).filterMap Note.event? := by
    cases outcome.1 <;> rfl
  simp only [journal, List.filterMap_append, Event.reports_append, reports_beginning,
    h.chronicle.reports_eq, Answer.event?_notes, Answer.reports_flatMap_news, hclosing]
  simp

theorem Account.on_eq
    (h : Account node start stopped disk path chapters completions notes rest outcome) :
    let own := (journal node start disk path notes rest outcome.1).filterMap Note.event?
    let answers := outcome.2.transcript node start
    Event.on .block own = (Answer.blocks answers).map Block.fetched ∧
    Event.on .transaction own = (Answer.transactions answers).map Transaction.fetched ∧
    Event.on .totals own = (closing path outcome.1).filterMap Note.event? := by
  intro own answers
  obtain ⟨hblocks, htransactions, htotals⟩ := Answer.on_tidings (chapters ++ [rest]).flatten
  have hclosing (subject : Event.Subject) :
      Event.on subject ((closing path outcome.1).filterMap Note.event?) =
        if subject = .totals then (closing path outcome.1).filterMap Note.event? else [] := by
    cases outcome.1 <;> cases subject <;> rfl
  have hown (subject : Event.Subject) : Event.on subject own = _ :=
    (Event.on_reports subject own).symm.trans (congrArg (Event.on subject) h.reports_eq)
  have hanswers : answers = _ := h.answers_eq
  refine ⟨?_, ?_, ?_⟩
  · rw [hown, Event.on_append, hblocks, hclosing, hanswers]
    exact List.append_nil _
  · rw [hown, Event.on_append, htransactions, hclosing, hanswers]
    exact List.append_nil _
  · rw [hown, Event.on_append, htotals, hclosing, if_pos rfl, List.nil_append]

theorem Account.parts
    (h : Account node start stopped disk path chapters completions notes rest outcome) :
    ∃ parts : List (List Answer), (chapters ++ [rest]).flatten = parts.flatten ∧
      ∀ k part, parts[k]? = some part → Chapter (k + 1) part := by
  have hchapters := h.chronicle.opened
  rcases h.unfinished.chapter with rfl | hrest
  · refine ⟨chapters, by simp, ?_⟩
    intro k part hpart
    exact (hchapters k part hpart).chapter
  · refine ⟨chapters ++ [rest], rfl, ?_⟩
    intro k part hpart
    rcases Nat.lt_or_ge k chapters.length with hlt | hge
    · rw [List.getElem?_append_left hlt] at hpart
      exact (hchapters k part hpart).chapter
    · obtain ⟨hk, rfl⟩ : k - chapters.length = 0 ∧ rest = part := by
        rw [List.getElem?_append_right hge, List.getElem?_singleton] at hpart
        simpa using hpart
      rwa [show k = chapters.length by omega]

theorem Account.reports_own
    (h : Account node start stopped disk path chapters completions notes rest outcome)
    (hquiet : ∀ answer ∈ outcome.2.transcript node start, Event.reports answer.events = []) :
    Event.reports outcome.2.events =
      Event.reports
        ((journal node start disk path notes rest outcome.1).filterMap Note.event?) := by
  rw [h.keeps.events_eq]
  apply reports_events
  rwa [← h.keeps.transcript_eq]

theorem Account.reports_parts
    (h : Account node start stopped disk path chapters completions notes rest outcome) :
    let own := (journal node start disk path notes rest outcome.1).filterMap Note.event?
    ∃ parts : List (List Answer),
      outcome.2.transcript node start = .height (node.height start).1 :: parts.flatten ∧
      (∀ k part, parts[k]? = some part → Chapter (k + 1) part) ∧
      Event.reports own = (parts.flatMap fun part =>
        (Answer.blocks part).map Block.fetched ++
          (Answer.transactions part).map Transaction.fetched) ++ Event.on .totals own := by
  obtain ⟨-, -, htotals⟩ := h.on_eq
  obtain ⟨parts, hparts, hchapter⟩ := h.parts
  refine ⟨parts, hparts ▸ h.answers_eq, hchapter, ?_⟩
  rw [htotals, ← flatMap_tidings, ← hparts]
  · exact h.reports_eq
  · intro part hpart
    obtain ⟨k, hk⟩ := List.getElem?_of_mem hpart
    exact ⟨k + 1, hchapter k part hk⟩

theorem Account.totals_told
    (h : Account node start stopped disk path chapters completions notes rest outcome)
    {stats : Stats} (hok : outcome.1 = .ok stats) :
    let own := (journal node start disk path notes rest outcome.1).filterMap Note.event?
    Event.on .totals own = [.wrote path stats.blocks stats.transactions] ∧
      own.getLast? = some (.wrote path stats.blocks stats.transactions) ∧
      stats.blocks = (Event.on .block own).length ∧
      stats.transactions = (Event.on .transaction own).length := by
  intro own
  obtain ⟨hblocks, htransactions, htotals⟩ := h.on_eq
  obtain ⟨rfl, hcount, hsum⟩ := h.totals stats hok
  have hclosing : (closing path outcome.1).filterMap Note.event? =
      [.wrote path stats.blocks stats.transactions] := by
    rw [hok]
    rfl
  refine ⟨htotals.trans hclosing, ?_, ?_, ?_⟩
  · change ((journal node start disk path notes [] outcome.1).filterMap Note.event?).getLast? = _
    rw [journal, List.filterMap_append, hclosing]
    exact List.getLast?_concat
  · have hanswers : outcome.2.transcript node start =
        .height (node.height start).1 :: chapters.flatten := by
      simpa using h.answers_eq
    rw [hblocks, List.length_map, hcount, ← h.chronicle.length_blocks, hanswers]
    rfl
  · rw [htransactions, List.length_map]
    exact hsum

theorem Account.totals_untold
    (h : Account node start stopped disk path chapters completions notes rest outcome)
    {trouble : Trouble} (herror : outcome.1 = .error trouble) :
    Event.on .totals
      ((journal node start disk path notes rest outcome.1).filterMap Note.event?) = [] := by
  rw [h.on_eq.2.2, herror]
  rfl

end Account

/-- All transactions that came have a line each, but for one whose append failed. -/
theorem Ending.lines_eq {node : Node σ} {refuses : Refusals} {start : σ} {disk : Disk}
    {path : String} {run : Run σ} {result : Except Trouble Stats}
    (h : Ending node refuses start disk path run result) :
    ∃ written, run.disk.content path = Archive.text written ∧
      (Answer.transactions (run.transcript node start) = written ∧
          ¬ FailsAs (.file .append path) result ∨
        (∃ tx, Answer.transactions (run.transcript node start) = written ++ [tx]) ∧
          FailsAs (.file .append path) result) := by
  have hnone (hqueries : run.queries = [.height]) :
      Answer.transactions (run.transcript node start) = [] := by
    rw [Run.transcript, hqueries]
    rfl
  cases h with
  | heightUnknown _ hqueries hfile =>
      refine ⟨[], Disk.content_of_not_hasFile hfile, .inl ⟨hnone hqueries, ?_⟩⟩
      simp [failsAs_error, Trouble.under]
  | uncreated _ _ hqueries hfile =>
      refine ⟨[], Disk.content_of_not_hasFile hfile, .inl ⟨hnone hqueries, ?_⟩⟩
      simp [failsAs_error, Writer.fileTrouble, Trouble.under]
  | unwritten _ hcreate _ hunwritten houter =>
      obtain ⟨before, hash, reply, tx, last, htranscript, -, hresult, hlines, -⟩ := hunwritten
      refine ⟨Answer.transactions before, Writer.content_attemptAll hcreate hlines,
        .inr ⟨⟨tx, ?_⟩, failsAs_error.mpr houter⟩⟩
      rw [htranscript, Answer.transactions_append, Answer.transactions_of_ok hresult]
  | written _ hcreate hlines hfetch =>
      exact ⟨_, Writer.content_attemptAll hcreate hlines, .inl ⟨rfl, not_failsAs hfetch (by simp)⟩⟩

/-- The events of an extraction against its answers, its lines and its result, whatever the
node replies, and wherever a stop, a failure or a refused line ends it. -/
theorem extract_tells (node : Node σ) (refuses : Refusals) (start : σ) (disk : Disk)
    (path : String) (stopped : Bool) :
    let outcome :=
      Run.perform (extract (Run.refusing node refuses) path) (.start start disk stopped)
    let answers := outcome.2.transcript node start
    ∃ chapters completions notes rest,
      Account node start stopped disk path chapters completions notes rest outcome ∧
      let own := (journal node start disk path notes rest outcome.1).filterMap Note.event?
      ((∀ answer ∈ answers, Event.reports answer.events = []) →
        Event.reports outcome.2.events = Event.reports own) ∧
      Event.on .transaction own = (Answer.transactions answers).map Transaction.fetched ∧
      (∃ written, Archive.splitLines (outcome.2.disk.content path) = written.map Archive.record ∧
        (Answer.transactions answers = written ∧ ¬ FailsAs (.file .append path) outcome.1 ∨
          (∃ tx, Answer.transactions answers = written ++ [tx]) ∧
            FailsAs (.file .append path) outcome.1)) ∧
      Event.on .block own = (Answer.blocks answers).map Block.fetched ∧
      (∃ parts : List (List Answer), answers = .height (node.height start).1 :: parts.flatten ∧
        (∀ k part, parts[k]? = some part → Chapter (k + 1) part) ∧
        Event.reports own = (parts.flatMap fun part =>
          (Answer.blocks part).map Block.fetched ++
            (Answer.transactions part).map Transaction.fetched) ++ Event.on .totals own) ∧
      (∀ trouble, outcome.1 = .error trouble → Event.on .totals own = []) ∧
      ∀ stats, outcome.1 = .ok stats →
        Event.on .totals own = [.wrote path stats.blocks stats.transactions] ∧
        own.getLast? = some (.wrote path stats.blocks stats.transactions) ∧
        stats.blocks = (Event.on .block own).length ∧
        stats.transactions = (Event.on .transaction own).length := by
  intro outcome answers
  obtain ⟨chapters, completions, notes, rest, haccount⟩ :=
    extract_account node refuses start disk path stopped
  have hending : Ending node refuses start disk path outcome.2 outcome.1 :=
    extract_ending node refuses start disk path stopped
  obtain ⟨written, hcontent, hwritten⟩ := hending.lines_eq
  have hlines : Archive.splitLines (outcome.2.disk.content path) = written.map Archive.record := by
    rw [hcontent, Archive.splitLines_text]
  obtain ⟨hblocks, htransactions, -⟩ := haccount.on_eq
  exact ⟨chapters, completions, notes, rest, haccount, haccount.reports_own, htransactions,
    ⟨written, hlines, hwritten⟩, hblocks, haccount.reports_parts,
    fun _ => haccount.totals_untold, fun _ => haccount.totals_told⟩

end Extraction

end ChainArchive
