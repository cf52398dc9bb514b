import ChainArchive.Proofs.Extraction.Failing
import ChainArchive.Proofs.Progress.Reports

namespace ChainArchive

open Relation

variable {σ : Type}

/-! Answers and events in the order in which they came. -/

namespace Answer

def events : Answer → List Event
  | .height reply => reply.events
  | .block _ reply => reply.events
  | .transaction _ reply => reply.events

def elapsed : Answer → Nat
  | .height reply => reply.elapsed
  | .block _ reply => reply.elapsed
  | .transaction _ reply => reply.elapsed

def time : List Answer → Nat
  | [] => 0
  | answer :: later => answer.elapsed + time later

@[simp] theorem time_nil : time [] = 0 := rfl

@[simp] theorem time_append (answers others : List Answer) :
    time (answers ++ others) = time answers + time others := by
  induction answers with
  | nil => rw [List.nil_append, time_nil, Nat.zero_add]
  | cons answer later ih => rw [List.cons_append, time, time, ih, Nat.add_assoc]

@[simp] theorem time_singleton (answer : Answer) : time [answer] = answer.elapsed := rfl

def block? : Answer → Option Block
  | .block number reply => reply.result.toOption.filter fun block => block.number.value = number
  | _ => none

def news (path : String) : Answer → List Event
  | .height reply =>
      match reply.result with
      | .ok head => [.creating path, .total head.value]
      | .error _ => []
  | .block number reply =>
      match (Answer.block number reply).block? with
      | some found => [.fetchedBlock number found.hash found.transactions.length]
      | none => []
  | .transaction _ reply =>
      match reply.result with
      | .ok tx => [.fetched tx.sender tx.recipient tx.nonce.value]
      | .error _ => []

theorem news_block (path : String) {number : Nat} {reply : Reply Block} {found : Block}
    (h : reply.result = .ok found) (hnumber : found.number.value = number) :
    (block number reply).news path =
      [.fetchedBlock number found.hash found.transactions.length] := by
  simp [news, block?, h, Except.toOption, Option.filter, hnumber]

theorem news_transaction (path hash : String) {reply : Reply Transaction} {tx : Transaction}
    (h : reply.result = .ok tx) :
    (transaction hash reply).news path = [.fetched tx.sender tx.recipient tx.nonce.value] := by
  simp [news, h]

theorem news_of_trouble (path : String) {answer : Answer} {trouble : Trouble}
    (h : answer.trouble? = some trouble) : answer.news path = [] := by
  cases answer with
  | height reply =>
      cases hresult : reply.result with
      | ok head => simp [trouble?, error?, Reply.error?, hresult] at h
      | error fault => simp [news, hresult]
  | block number reply =>
      cases hresult : reply.result with
      | ok found =>
          simp only [trouble?, hresult] at h
          split at h
          · cases h
          · rename_i hnumber
            simp [news, block?, hresult, Except.toOption, Option.filter, hnumber]
      | error fault => simp [news, block?, hresult, Except.toOption]
  | transaction hash reply =>
      cases hresult : reply.result with
      | ok tx => simp [trouble?, error?, Reply.error?, hresult] at h
      | error fault => simp [news, hresult]

end Answer

namespace Run

@[simp] theorem events_heard (run : Run σ) (answer : Answer) (node : σ) :
    (run.heard answer node).events = run.events ++ answer.events := by
  cases answer <;> rfl

@[simp] theorem clock_heard (run : Run σ) (answer : Answer) (node : σ) :
    (run.heard answer node).clock = run.clock + answer.elapsed := by
  cases answer <;> rfl

@[simp] theorem events_logged (run : Run σ) (event : Event) :
    (run.logged event).events = run.events ++ [event] := rfl

@[simp] theorem clock_logged (run : Run σ) (event : Event) :
    (run.logged event).clock = run.clock := rfl

end Run

/-- An answer of the node, or an event of the extraction itself. -/
inductive Note where
  | heard (answer : Answer)
  | logged (event : Event)

namespace Note

def events : Note → List Event
  | .heard answer => answer.events
  | .logged event => [event]

def answer? : Note → Option Answer
  | .heard answer => some answer
  | .logged _ => none

def event? : Note → Option Event
  | .heard _ => none
  | .logged event => some event

@[simp] theorem answer?_logged (event : Event) : (logged event).answer? = none := rfl

@[simp] theorem event?_logged (event : Event) : (logged event).event? = some event := rfl

@[simp] theorem event?_comp_logged : event? ∘ logged = some := rfl

@[simp] theorem flatMap_events_logged (events : List Event) :
    (events.map logged).flatMap Note.events = events := by
  simp [List.flatMap_map, Note.events]

end Note

namespace Answer

def notes (path : String) (answer : Answer) : List Note :=
  .heard answer :: (answer.news path).map .logged

@[simp] theorem answer?_notes (path : String) (answers : List Answer) :
    (answers.flatMap (notes path)).filterMap Note.answer? = answers := by
  induction answers with
  | nil => rfl
  | cons answer later ih =>
      rw [List.flatMap_cons, List.filterMap_append, ih, notes, List.filterMap_cons]
      simp [Note.answer?]

@[simp] theorem event?_notes (path : String) (answers : List Answer) :
    (answers.flatMap (notes path)).filterMap Note.event? = answers.flatMap (news path) := by
  induction answers with
  | nil => rfl
  | cons answer later ih =>
      rw [List.flatMap_cons, List.filterMap_append, ih, notes, List.filterMap_cons]
      simp [Note.event?]

theorem notes_of_trouble (path : String) {answer : Answer} {trouble : Trouble}
    (h : answer.trouble? = some trouble) : answer.notes path = [.heard answer] := by
  rw [notes, news_of_trouble path h]
  rfl

end Answer

theorem Writer.written_of_create {disk made : Disk} {path : String} {writer : Writer}
    (h : Writer.create disk path = .ok (writer, made)) : writer.written = 0 := by
  unfold Writer.create at h
  split at h
  · cases h
    rfl
  · cases h

theorem Writer.append_advance {writer next : Writer} {disk later : Disk} {tx : Transaction}
    (h : writer.append disk tx = .ok (next, later)) :
    next = writer.advance (Archive.record tx) := by
  unfold Writer.append at h
  dsimp only at h
  split at h
  · cases h
    rfl
  · cases h

/-! Journals that are kept of a run. -/

namespace Run

theorem transactions_heard {node : Node σ} {start : σ} {stopped : Bool} {run : Run σ}
    (h : run.Traced node start stopped) {query : Query} {answer : Answer} {next : σ}
    (hanswer : node.answer run.node query = (answer, next)) :
    Answer.transactions ((run.heard answer next).transcript node start) =
      Answer.transactions (run.transcript node start) ++ answer.transaction?.toList := by
  rw [transcript_heard h hanswer, Answer.transactions_append, Answer.transactions_singleton]

/-- The journal has all that the node answered and all that was logged, in order. -/
structure Keeps (node : Node σ) (start : σ) (stopped : Bool) (journal : List Note)
    (run : Run σ) : Prop where
  traced : run.Traced node start stopped
  events_eq : run.events = journal.flatMap Note.events
  transcript_eq : run.transcript node start = journal.filterMap Note.answer?
  clock_eq : run.clock = Answer.time (run.transcript node start)

variable {node : Node σ} {start : σ} {stopped : Bool} {journal : List Note} {run : Run σ}

theorem Keeps.logged (h : run.Keeps node start stopped journal) (event : Event) :
    (run.logged event).Keeps node start stopped (journal ++ [.logged event]) where
  traced := ⟨h.traced.node_eq, h.traced.stopped_eq⟩
  events_eq := by simp [h.events_eq, Note.events]
  transcript_eq := by
    rw [List.filterMap_append]
    exact h.transcript_eq.trans (List.append_nil _).symm
  clock_eq := h.clock_eq

theorem Keeps.heard (h : run.Keeps node start stopped journal) {query : Query}
    {answer : Answer} {next : σ} (hanswer : node.answer run.node query = (answer, next)) :
    (run.heard answer next).Keeps node start stopped (journal ++ [.heard answer]) where
  traced := h.traced.heard hanswer
  events_eq := by simp [h.events_eq, Note.events]
  transcript_eq := by
    rw [transcript_heard h.traced hanswer, h.transcript_eq, List.filterMap_append]
    rfl
  clock_eq := by
    rw [transcript_heard h.traced hanswer, clock_heard, Answer.time_append,
      Answer.time_singleton, h.clock_eq]

theorem Keeps.answered (h : run.Keeps node start stopped journal) {query : Query}
    {answer : Answer} {next : σ} (hanswer : node.answer run.node query = (answer, next))
    {path : String} {event : Event} (hnews : answer.news path = [event]) :
    ((run.heard answer next).logged event).Keeps node start stopped
      (journal ++ answer.notes path) := by
  rw [Answer.notes, hnews, List.map_singleton, ← List.singleton_append, ← List.append_assoc]
  exact (h.heard hanswer).logged event

theorem Keeps.onDisk (h : run.Keeps node start stopped journal) (disk : Disk) :
    { run with disk }.Keeps node start stopped journal :=
  ⟨⟨h.traced.node_eq, h.traced.stopped_eq⟩, h.events_eq, h.transcript_eq, h.clock_eq⟩

end Run

namespace Extraction

open Progress (Sample reported latest)

/-! What the journal of an extraction is made of. -/

/-- A block came under the number that was asked for and then the first of its transactions,
all but those of these hashes. -/
inductive Opened (number : Nat) : List Answer → List String → Prop where
  | block {reply : Reply Block} {block : Block} :
      reply.result = .ok block →
      block.number.value = number →
      Opened number [.block number reply] block.transactions
  | transaction {answers : List Answer} {hash : String} {rest : List String}
      {reply : Reply Transaction} {tx : Transaction} :
      Opened number answers (hash :: rest) →
      reply.result = .ok tx →
      Opened number (answers ++ [.transaction hash reply]) rest

def line (created : Nat) (completions : List Sample) (completion : Sample) : List Event :=
  if latest created (reported pace.interval created completions) + pace.interval ≤
      completion.time then
    [.progress completion.value
      ((Progress.start pace created).pushAll (completions ++ [completion])).roundedSpeed]
  else []

def completionOf (created : Nat) (chapters : List (List Answer)) : Sample :=
  ⟨chapters.length, created + Answer.time chapters.flatten⟩

/-- Blocks one after another, each with all its transactions: the answers to each, when each
was completed, and what was noted meanwhile. -/
inductive Chronicle (path : String) (created : Nat) :
    List (List Answer) → List Sample → List Note → Prop where
  | nil : Chronicle path created [] [] []
  | snoc {chapters : List (List Answer)} {completions : List Sample} {notes : List Note}
      {answers : List Answer} :
      Chronicle path created chapters completions notes →
      Opened (chapters.length + 1) answers [] →
      Chronicle path created (chapters ++ [answers])
        (completions ++ [completionOf created (chapters ++ [answers])])
        (notes ++ answers.flatMap (Answer.notes path) ++
          (line created completions (completionOf created (chapters ++ [answers]))).map .logged)

/-- The answers to what was asked for a block that has not been completed, if anything was
asked. Only where an append failed can they be those to a whole block. -/
inductive Unfinished (number : Nat) (unwritten : Prop) : List Answer → Prop where
  | nothing : Unfinished number unwritten []
  | refused {reply : Reply Block} {trouble : Trouble} :
      (Answer.block number reply).trouble? = some trouble →
      Unfinished number unwritten [.block number reply]
  | part {answers : List Answer} {hash : String} {rest : List String} :
      Opened number answers (hash :: rest) →
      Unfinished number unwritten answers
  | broken {answers : List Answer} {hash : String} {rest : List String}
      {reply : Reply Transaction} {trouble : Trouble} :
      Opened number answers (hash :: rest) →
      (Answer.transaction hash reply).trouble? = some trouble →
      Unfinished number unwritten (answers ++ [.transaction hash reply])
  | unwritten {answers : List Answer} {hash : String} {rest : List String}
      {reply : Reply Transaction} {tx : Transaction} :
      Opened number answers (hash :: rest) →
      reply.result = .ok tx →
      unwritten →
      Unfinished number unwritten (answers ++ [.transaction hash reply])

section Chronicle

variable {path : String} {created : Nat} {chapters : List (List Answer)}
  {completions : List Sample} {notes : List Note}

theorem Chronicle.length_eq (h : Chronicle path created chapters completions notes) :
    completions.length = chapters.length := by
  induction h with
  | nil => rfl
  | snoc _ _ ih => simp [ih]

theorem Chronicle.answers_eq (h : Chronicle path created chapters completions notes) :
    notes.filterMap Note.answer? = chapters.flatten := by
  induction h with
  | nil => rfl
  | snoc _ _ ih => simp [ih]

end Chronicle

/-! From stage to stage. -/

def Agenda.Stands (done : Nat) (answers : List Answer) : Agenda → Prop
  | .blocks number _ => number = done + 1 ∧ answers = []
  | .transactions number hashes _ => number = done + 1 ∧ Opened number answers hashes

theorem Agenda.Stands.asked {done : Nat} {answers : List Answer} {agenda : Agenda}
    {target : Target} (h : agenda.Stands done answers) (hasks : agenda.asks = some target) :
    (target = .block (done + 1) ∧ answers = []) ∨
      ∃ hash rest, target = .transaction (done + 1) hash ∧
        Opened (done + 1) answers (hash :: rest) := by
  cases agenda with
  | blocks number count =>
      obtain ⟨rfl, rfl⟩ := h
      cases count with
      | zero => cases hasks
      | succ count =>
          cases hasks
          exact .inl ⟨rfl, rfl⟩
  | transactions number hashes count =>
      obtain ⟨rfl, hopened⟩ := h
      cases hashes with
      | nil => cases hasks
      | cons hash rest =>
          cases hasks
          exact .inr ⟨hash, rest, rfl, hopened⟩

structure Narrated (node : Node σ) (start : σ) (stopped : Bool) (path : String)
    (opening : List Note) (chapters : List (List Answer)) (completions : List Sample)
    (notes : List Note) (answers : List Answer) (stage : Stage σ) : Prop where
  keeps : stage.run.Keeps node start stopped
    (opening ++ notes ++ answers.flatMap (Answer.notes path))
  chronicle : Chronicle path (Answer.time (opening.filterMap Note.answer?)) chapters
    completions notes
  follows : Progress.Follows pace (Answer.time (opening.filterMap Note.answer?)) completions
    stage.tally.progress
  path_eq : stage.tally.writer.path = path
  stands : stage.agenda.Stands chapters.length answers
  blocks_eq : stage.tally.blocks = chapters.length
  written_eq : stage.tally.writer.written =
    (Answer.transactions (stage.run.transcript node start)).length

section Narrated

variable {node : Node σ} {start : σ} {stopped : Bool} {path : String} {opening : List Note}
  {chapters : List (List Answer)} {completions : List Sample} {notes : List Note}
  {answers : List Answer}

theorem keeps_noted {journal : List Note} {run : Run σ} {tally : Tally} {created : Nat}
    (h : run.Keeps node start stopped journal)
    (hfollows : Progress.Follows pace created completions tally.progress) (number : Nat) :
    (noted run number tally).Keeps node start stopped
      (journal ++ (line created completions ⟨number, run.clock⟩).map .logged) := by
  obtain ⟨hdue, hspeed, -⟩ := hfollows.report (by decide) ⟨number, run.clock⟩
  have hdue : tally.due number run.clock = _ := hdue
  rw [noted, hdue]
  by_cases hmade : latest created (reported pace.interval created completions) +
      pace.interval ≤ run.clock
  · have hline : line created completions ⟨number, run.clock⟩ = [.progress number _] :=
      if_pos hmade
    rw [if_pos (decide_eq_true hmade), hline, ← hspeed]
    exact h.logged _
  · have hline : line created completions ⟨number, run.clock⟩ = [] := if_neg hmade
    rw [if_neg (by simpa using hmade), hline]
    simpa using h

theorem Narrated.clock_eq {stage : Stage σ}
    (h : Narrated node start stopped path opening chapters completions notes answers stage) :
    stage.run.clock = Answer.time (opening.filterMap Note.answer?) +
      Answer.time (chapters ++ [answers]).flatten := by
  rw [h.keeps.clock_eq, h.keeps.transcript_eq, List.filterMap_append, List.filterMap_append,
    h.chronicle.answers_eq, Answer.answer?_notes]
  simp

theorem Step.narrated {refuses : Refusals} {stage next : Stage σ}
    (h : Step node refuses stage next)
    (hnarrated : Narrated node start stopped path opening chapters completions notes answers
      stage) :
    ∃ chapters completions notes answers,
      Narrated node start stopped path opening chapters completions notes answers next := by
  have hclock := hnarrated.clock_eq
  obtain ⟨hkeeps, hchronicle, hfollows, hpath, hstands, hblocks, hwritten⟩ := hnarrated
  cases h with
  | @close number count tally run =>
      obtain ⟨rfl, hopened⟩ := hstands
      have hcompletion : (⟨chapters.length + 1, run.clock⟩ : Sample) =
          completionOf (Answer.time (opening.filterMap Note.answer?)) (chapters ++ [answers]) := by
        rw [completionOf, ← hclock, List.length_append]
        rfl
      have hnoted := keeps_noted hkeeps hfollows (chapters.length + 1)
      have hnext : Progress.Follows pace _ (completions ++ [⟨chapters.length + 1, run.clock⟩])
          (tally.completed (chapters.length + 1) run.clock).progress :=
        (hfollows.report (by decide) ⟨chapters.length + 1, run.clock⟩).2.2
      rw [hcompletion] at hnoted hnext
      refine ⟨_, _, _, [], ?_, hchronicle.snoc hopened, hnext, hpath, ⟨?_, rfl⟩, ?_, ?_⟩
      · simpa [List.append_assoc] using hnoted
      · simp
      · simpa [Tally.completed] using hblocks
      · simpa [Tally.completed, Run.transcript] using hwritten
  | @block number count tally run reply next block hstop hreply hresult hnumber =>
      obtain ⟨rfl, rfl⟩ := hstands
      have hanswer : node.answer run.node (.block (chapters.length + 1)) =
          (.block (chapters.length + 1) reply, next) := by
        simp [Node.answer, hreply]
      have hnext := hkeeps.answered hanswer (Answer.news_block path hresult hnumber)
      refine ⟨chapters, completions, notes, [.block (chapters.length + 1) reply], ?_, hchronicle,
        hfollows, hpath, ⟨rfl, .block hresult hnumber⟩, hblocks, ?_⟩
      · simpa using hnext
      · change tally.writer.written = (Answer.transactions (Run.transcript node start
          (run.heard (.block (chapters.length + 1) reply) next))).length
        rw [Run.transactions_heard hkeeps.traced hanswer]
        simpa [Answer.transaction?] using hwritten
  | @transaction number count hash rest tally run reply next tx writer disk hstop hreply
      hresult happend =>
      obtain ⟨rfl, hopened⟩ := hstands
      have happend := (Writer.attempt_eq_ok.mp happend).2
      have hanswer : node.answer run.node (.transaction hash) =
          (.transaction hash reply, next) := by
        simp [Node.answer, hreply]
      have hnext := hkeeps.answered hanswer (Answer.news_transaction path hash hresult)
      refine ⟨chapters, completions, notes, answers ++ [.transaction hash reply], ?_, hchronicle,
        hfollows, (Writer.append_path happend).trans hpath, ⟨rfl, hopened.transaction hresult⟩,
        hblocks, ?_⟩
      · simpa using hnext.onDisk disk
      · change writer.written = (Answer.transactions (Run.transcript node start
          (run.heard (.transaction hash reply) next))).length
        rw [Run.transactions_heard hkeeps.traced hanswer, Writer.append_advance happend]
        simpa [Writer.advance, Answer.transaction?, hresult] using hwritten

theorem steps_narrated {refuses : Refusals} {stage last : Stage σ}
    (h : ReflTransGen (Step node refuses) stage last)
    (hnarrated : Narrated node start stopped path opening chapters completions notes answers
      stage) :
    ∃ chapters completions notes answers,
      Narrated node start stopped path opening chapters completions notes answers last := by
  induction h with
  | refl => exact ⟨chapters, completions, notes, answers, hnarrated⟩
  | tail _ hstep ih =>
      obtain ⟨_, _, _, _, hreached⟩ := ih
      exact hstep.narrated hreached

end Narrated

/-! Whole extractions. -/

def beginning (node : Node σ) (start : σ) (disk : Disk) (path : String) : List Note :=
  (removalNote path (disk.remove path)).map .logged ++
    (Answer.height (node.height start).1).notes path

def closing (path : String) : Except Trouble Stats → List Note
  | .ok stats => [.logged (.wrote path stats.blocks stats.transactions)]
  | .error _ => []

/-- The journal of an extraction, by what was noted of the completed blocks and the answers
to the last one. -/
def journal (node : Node σ) (start : σ) (disk : Disk) (path : String) (notes : List Note)
    (rest : List Answer) (result : Except Trouble Stats) : List Note :=
  beginning node start disk path ++ notes ++ rest.flatMap (Answer.notes path) ++
    closing path result

/-- What an extraction has come to, as its journal tells it. -/
structure Account (node : Node σ) (start : σ) (stopped : Bool) (disk : Disk) (path : String)
    (chapters : List (List Answer)) (completions : List Sample) (notes : List Note)
    (rest : List Answer) (outcome : Except Trouble Stats × Run σ) : Prop where
  keeps : outcome.2.Keeps node start stopped
    (journal node start disk path notes rest outcome.1)
  chronicle : Chronicle path (node.height start).1.elapsed chapters completions notes
  unfinished : Unfinished (chapters.length + 1) (FailsAs (.file .append path) outcome.1) rest
  totals : ∀ stats, outcome.1 = .ok stats → rest = [] ∧ stats.blocks = chapters.length ∧
    stats.transactions = (Answer.transactions (outcome.2.transcript node start)).length

section Account

variable {node : Node σ} {start : σ} {stopped : Bool} {disk : Disk} {path : String}
  {chapters : List (List Answer)} {completions : List Sample} {notes : List Note}
  {answers : List Answer}

theorem answers_beginning :
    (beginning node start disk path).filterMap Note.answer? =
      [.height (node.height start).1] := by
  have hheight := Answer.answer?_notes path [.height (node.height start).1]
  rw [List.flatMap_singleton] at hheight
  rw [beginning, List.filterMap_append, hheight]
  simp

theorem Halts.account {refuses : Refusals} {stage : Stage σ}
    {outcome : Except Trouble Tally × Run σ} (h : Halts node refuses stage outcome)
    (hnarrated : Narrated node start stopped path (beginning node start disk path) chapters
      completions notes answers stage) (head : Nat) :
    ∃ rest, Account node start stopped disk path chapters completions notes rest
      (conclude path head outcome) := by
  obtain ⟨hkeeps, hchronicle, -, hpath, hstands, hblocks, hwritten⟩ := hnarrated
  rw [answers_beginning, Answer.time_singleton] at hchronicle
  cases h with
  | @finished number tally run =>
      obtain ⟨-, rfl⟩ := hstands
      refine ⟨[], ?_, hchronicle, .nothing, ?_⟩
      · exact hkeeps.logged _
      · rintro _ ⟨⟩
        exact ⟨rfl, hblocks, hwritten⟩
  | @stopped agenda tally run target hasks =>
      refine ⟨answers, ?_, hchronicle, ?_, by rintro _ ⟨⟩⟩
      · simpa [conclude, journal, closing] using hkeeps
      · rcases hstands.asked hasks with ⟨rfl, rfl⟩ | ⟨hash, rest, rfl, hopened⟩
        · exact .nothing
        · exact .part hopened
  | @broken agenda tally run target answer next trouble hasks hstop hanswer htrouble =>
      refine ⟨answers ++ [answer], ?_, hchronicle, ?_, by rintro _ ⟨⟩⟩
      · simpa [conclude, journal, closing, Answer.notes_of_trouble path htrouble] using
          hkeeps.heard hanswer
      · rcases hstands.asked hasks with ⟨rfl, rfl⟩ | ⟨hash, rest, rfl, hopened⟩
        · cases hanswer
          exact .refused htrouble
        · cases hanswer
          exact .broken hopened htrouble
  | @unwritten number count hash rest tally run reply next tx trouble hstop hreply hresult
      happend =>
      obtain ⟨rfl, hopened⟩ := hstands
      have hanswer : node.answer run.node (.transaction hash) =
          (.transaction hash reply, next) := by
        simp [Node.answer, hreply]
      have hfails : FailsAs (.file .append path) (.error trouble : Except Trouble Stats) := by
        rw [failsAs_error, Writer.attempt_outer happend]
        exact congrArg (Layer.file .append) hpath
      refine ⟨answers ++ [Answer.transaction hash reply], ?_, hchronicle,
        .unwritten hopened hresult hfails, by rintro _ ⟨⟩⟩
      simpa [conclude, journal, closing] using
        hkeeps.answered hanswer (Answer.news_transaction path hash hresult)

end Account

section Beginning

variable {node : Node σ} {start next : σ} {reply : Reply Quantity}
  (hreply : node.height start = (reply, next)) (disk : Disk) (stopped : Bool) (path : String)

include hreply

theorem keeps_height :
    ((cleared (Run.start start disk stopped) path).heard (.height reply) next).Keeps node start
      stopped ((removalNote path (disk.remove path)).map .logged ++ [.heard (.height reply)]) := by
  have hcleared : (cleared (Run.start start disk stopped) path).Keeps node start stopped
      ((removalNote path (disk.remove path)).map .logged) := by
    rw [cleared_eq]
    exact ⟨⟨rfl, by simp [Run.start, Run.transcript, Node.answers]⟩, by simp [Run.start],
      by simp [Run.start, Run.transcript, Node.answers], rfl⟩
  have hanswer : node.answer (cleared (Run.start start disk stopped) path).node .height =
      (.height reply, next) := by
    rw [node_cleared]
    simp [Run.start, Node.answer, hreply]
  exact hcleared.heard hanswer

theorem keeps_announced {head : Quantity} (hhead : reply.result = .ok head) :
    (announced ((cleared (Run.start start disk stopped) path).heard (.height reply) next) path
      head.value).Keeps node start stopped (beginning node start disk path) := by
  have hlogged := ((keeps_height hreply disk stopped path).logged (.creating path)).logged
    (.total head.value)
  rw [beginning, hreply, Answer.notes, Answer.news, hhead]
  simpa [announced] using hlogged

theorem narrated_first {head : Quantity} (hhead : reply.result = .ok head) {writer : Writer}
    {made : Disk}
    (hcreate : Writer.create
      ((cleared (Run.start start disk stopped) path).heard (.height reply) next).disk path =
        .ok (writer, made)) :
    Narrated node start stopped path (beginning node start disk path) [] [] [] []
      (firstStage head.value writer
        { announced ((cleared (Run.start start disk stopped) path).heard (.height reply) next) path
          head.value with disk := made }) where
  keeps := by
    have hannounced := keeps_announced hreply disk stopped path hhead
    simpa [firstStage] using hannounced.onDisk made
  chronicle := .nil
  follows := by
    have hclock := (keeps_announced hreply disk stopped path hhead).clock_eq
    rw [(keeps_announced hreply disk stopped path hhead).transcript_eq] at hclock
    rw [← hclock]
    exact Progress.follows_start pace _
  path_eq := Writer.path_of_create hcreate
  stands := ⟨rfl, rfl⟩
  blocks_eq := rfl
  written_eq := by
    rw [show (firstStage _ _ _).tally.writer.written = 0 from Writer.written_of_create hcreate]
    change 0 = (Answer.transactions ((announced ((cleared (Run.start start disk stopped)
      path).heard (.height reply) next) path head.value).transcript node start)).length
    rw [transcript_announced hreply]
    rfl

end Beginning

theorem extract_account (node : Node σ) (refuses : Refusals) (start : σ) (disk : Disk)
    (path : String) (stopped : Bool) :
    ∃ chapters completions notes rest,
      Account node start stopped disk path chapters completions notes rest
        (Run.perform (extract (Run.refusing node refuses) path) (.start start disk stopped)) := by
  rcases hreply : node.height start with ⟨reply, next⟩
  cases hresult : reply.result with
  | error own =>
      rw [extract_heightUnknown disk path stopped hreply hresult]
      refine ⟨[], [], [], [], ?_, .nil, .nothing, nofun⟩
      rw [journal, beginning, hreply, Answer.notes, Answer.news, hresult]
      simpa [closing] using keeps_height hreply disk stopped path
  | ok head =>
      have hperform : Run.perform (extract (Run.refusing node refuses) path)
          (.start start disk stopped) = _ := perform_extract node refuses hreply
      simp only [hresult] at hperform
      rw [hperform]
      cases hcreate : Writer.create _ path with
      | error trouble =>
          refine ⟨[], [], [], [], ?_, .nil, .nothing, nofun⟩
          simpa [journal, closing] using keeps_announced hreply disk stopped path hresult
      | ok created =>
          obtain ⟨writer, made⟩ := created
          obtain ⟨last, hsteps, hhalts⟩ := exists_halts node refuses _
          obtain ⟨chapters, completions, notes, answers, hnarrated⟩ :=
            steps_narrated hsteps (narrated_first hreply disk stopped path hresult hcreate)
          exact ⟨chapters, completions, notes, hhalts.account hnarrated head.value⟩

end Extraction

end ChainArchive
