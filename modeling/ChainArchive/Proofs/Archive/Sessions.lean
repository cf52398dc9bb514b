import ChainArchive.Archive.Session
import Mathlib.Logic.Function.Basic
import ChainArchive.Proofs.Disk.Agreement

namespace ChainArchive

/-! The line that a writer composes is what it writes, whatever it has composed before. -/

namespace Scribe

@[simp] theorem compose_line (scribe : Scribe) (tx : Transaction) :
    (scribe.compose tx).line = Archive.record tx := rfl

@[simp] theorem compose_writer (scribe : Scribe) (tx : Transaction) :
    (scribe.compose tx).writer = scribe.writer := rfl

theorem flush_compose (scribe : Scribe) (disk : Disk) (tx : Transaction) :
    (scribe.compose tx).flush disk =
      (scribe.writer.append disk tx).map fun (writer, later) =>
        (⟨writer, Archive.record tx⟩, later) := by
  simp only [flush, Writer.append, compose_line, compose_writer]
  cases disk.write scribe.writer.place scribe.writer.offset (Archive.record tx) <;> rfl

end Scribe

theorem Disk.create_made {disk made : Disk} {path : String} {place : Place}
    (h : disk.create path = .ok (place, made)) :
    made.LeadsTo path place ∧ disk.KeepsDirectories made ∧ AlikeBut place disk made ∧
      (made.find? place = some (.file []) ∨ made.find? place = some .device) := by
  obtain ⟨hleads, hmade⟩ := create_eq_ok h
  rcases hmade with ⟨hfree, rfl⟩ | ⟨hdevice, rfl⟩
  · have hkeeps : disk.KeepsDirectories (disk.insert place (.file [])) :=
      keepsDirectories_insert hfree.not_directory
    exact ⟨hleads.keep hkeeps, hkeeps, alikeBut_insert disk place (.file []),
      .inl (find?_insert_self hleads.ne_root)⟩
  · exact ⟨hleads, fun _ hdirectory => hdirectory, .refl place made, .inr hdevice⟩

theorem Disk.ne_root_of_file {disk : Disk} {place : Place} {content : Bytes}
    (h : disk.find? place = some (.file content)) : place ≠ [] := by
  rintro rfl
  rw [find?_root] at h
  cases h

theorem Disk.read_device {disk : Disk} {path : String} {place : Place}
    (h : disk.LeadsTo path place) (hdevice : disk.find? place = some .device) :
    disk.read path = .ok [] := by
  obtain ⟨goal, hresolve, -, hslash, rfl, hlookup⟩ := h.lookup
  simp [read, hresolve, hslash, hlookup, hdevice]

def Operation.IsOwn : Operation → Prop
  | .create _ => True
  | .append _ => True
  | .drop => True
  | .read _ => True
  | _ => False

/-! What is known of the archives from what was done and how it came out. -/

structure Ledger where
  /-- Where the current writer writes, and how many of its appends succeeded. -/
  current : Option (Place × Nat)
  /-- The paths at which files were created, and where they led. -/
  opened : List (String × Place)
  /-- The transactions appended to a file since it was created last. -/
  files : Place → Option (List Transaction)

namespace Ledger

def empty : Ledger := ⟨none, [], fun _ => none⟩

def opening (ledger : Ledger) (path : String) (place : Place) : Ledger where
  current := some (place, 0)
  opened := (path, place) :: ledger.opened
  files := Function.update ledger.files place (some [])

def adding (ledger : Ledger) (tx : Transaction) : Ledger :=
  match ledger.current with
  | none => ledger
  | some (place, count) =>
      { ledger with
        current := some (place, count + 1)
        files := Function.update ledger.files place ((ledger.files place).map (· ++ [tx])) }

def note (ledger : Ledger) : Operation → Outcome → Ledger
  | .create path, .opened writer => ledger.opening path writer.place
  | .append tx, .appended _ => ledger.adding tx
  | .drop, _ => { ledger with current := none }
  | _, _ => ledger

def noteAll (ledger : Ledger) : List Attempt → List Outcome → Ledger
  | attempt :: attempts, outcome :: outcomes =>
      (ledger.note attempt.operation outcome).noteAll attempts outcomes
  | _, _ => ledger

end Ledger

namespace Session

/-- The disk has the lines of these transactions at the place. A device has none. -/
def Records (disk : Disk) (place : Place) (txs : List Transaction) : Prop :=
  disk.find? place = some (.file (Archive.text txs)) ∨
    disk.find? place = some .device ∧ txs = []

structure Accounts (session : Session) (ledger : Ledger) : Prop where
  current : session.writer.map (fun scribe => (scribe.writer.place, scribe.writer.written)) =
    ledger.current
  opened : ∀ path place, (path, place) ∈ ledger.opened →
    session.disk.LeadsTo path place ∧ ∃ txs, ledger.files place = some txs
  files : ∀ place txs, ledger.files place = some txs → Records session.disk place txs

/-- Besides, the writer stands at the end of what it has written. -/
structure Tracks (session : Session) (ledger : Ledger) : Prop extends
    Accounts session ledger where
  ends : ∀ scribe, session.writer = some scribe → ∃ txs,
    ledger.files scribe.writer.place = some txs ∧
      scribe.writer.offset = (Archive.text txs).length

theorem tracks_empty (disk : Disk) : (⟨disk, none⟩ : Session).Tracks .empty where
  current := rfl
  opened _ _ h := absurd h List.not_mem_nil
  files _ _ h := by cases h
  ends _ h := by cases h

/-! What one operation does. -/

variable {session : Session} {ledger : Ledger}

structure Changed (disk later : Disk) (place : Place) (txs : List Transaction) : Prop where
  keeps : disk.KeepsDirectories later
  alike : Disk.AlikeBut place disk later
  records : Records later place txs

theorem Accounts.opened_changed (h : session.Accounts ledger) {later : Disk} {place : Place}
    {txs : List Transaction} (hchanged : Changed session.disk later place txs) {path : String}
    {other : Place} (hopened : (path, other) ∈ ledger.opened) :
    later.LeadsTo path other ∧
      ∃ others, Function.update ledger.files place (some txs) other = some others := by
  obtain ⟨hleads, others, hothers⟩ := h.opened path other hopened
  refine ⟨hleads.keep hchanged.keeps, ?_⟩
  by_cases heq : other = place
  · exact ⟨txs, by rw [heq, Function.update_self]⟩
  · exact ⟨others, by rw [Function.update_of_ne heq, hothers]⟩

theorem Accounts.files_changed (h : session.Accounts ledger) {later : Disk} {place : Place}
    {txs : List Transaction} (hchanged : Changed session.disk later place txs) {other : Place}
    {others : List Transaction}
    (hothers : Function.update ledger.files place (some txs) other = some others) :
    Records later other others := by
  by_cases heq : other = place
  · rw [heq, Function.update_self] at hothers
    cases hothers
    rw [heq]
    exact hchanged.records
  · rw [Function.update_of_ne heq] at hothers
    unfold Records
    rw [← hchanged.alike other heq]
    exact h.files other others hothers

theorem Tracks.opening (h : session.Tracks ledger) {path : String} {place : Place} {made : Disk}
    (hcreate : session.disk.create path = .ok (place, made)) :
    (⟨made, some ⟨⟨path, place, 0, 0⟩, []⟩⟩ : Session).Tracks (ledger.opening path place) := by
  obtain ⟨hleads, hkeeps, halike, hfound⟩ := Disk.create_made hcreate
  have hchanged : Changed session.disk made place [] :=
    ⟨hkeeps, halike, hfound.imp id fun hdevice => ⟨hdevice, rfl⟩⟩
  have hempty : (ledger.opening path place).files place = some [] := Function.update_self ..
  constructor
  · constructor
    · rfl
    · intro other found hmem
      cases List.mem_cons.mp hmem with
      | inl heq =>
          cases heq
          exact ⟨hleads, [], hempty⟩
      | inr hmem => exact h.opened_changed hchanged hmem
    · intro other others hothers
      exact h.files_changed hchanged hothers
  · intro scribe hscribe
    cases hscribe
    exact ⟨[], hempty, rfl⟩

theorem Tracks.append_eq_ok (h : session.Tracks ledger) {scribe : Scribe}
    (hscribe : session.writer = some scribe) {tx : Transaction} {writer : Writer} {later : Disk}
    (happend : scribe.writer.append session.disk tx = .ok (writer, later)) :
    ∃ txs, ledger.files scribe.writer.place = some txs ∧
      scribe.writer.offset = (Archive.text txs).length ∧
      session.disk.find? scribe.writer.place = some (.file (Archive.text txs)) ∧
      writer = scribe.writer.advance (Archive.record tx) ∧
      later = session.disk.insert scribe.writer.place (.file (Archive.text (txs ++ [tx]))) := by
  obtain ⟨txs, htxs, hoffset⟩ := h.ends scribe hscribe
  unfold Writer.append Disk.write at happend
  cases h.files scribe.writer.place txs htxs with
  | inl hfile =>
      simp only [hfile, hoffset, Writer.overwrite_end] at happend
      cases happend
      refine ⟨txs, htxs, hoffset, hfile, rfl, ?_⟩
      rw [Archive.text_append, Archive.text_singleton]
  | inr hdevice =>
      simp [hdevice.1, Archive.record] at happend

theorem Tracks.adding (h : session.Tracks ledger) {scribe : Scribe}
    (hscribe : session.writer = some scribe) {tx : Transaction} {writer : Writer} {later : Disk}
    (happend : scribe.writer.append session.disk tx = .ok (writer, later)) (line : Bytes) :
    (⟨later, some ⟨writer, line⟩⟩ : Session).Tracks (ledger.adding tx) := by
  obtain ⟨txs, htxs, hoffset, hfile, rfl, rfl⟩ := h.append_eq_ok hscribe happend
  have hcurrent : ledger.current = some (scribe.writer.place, scribe.writer.written) := by
    rw [← h.current, hscribe, Option.map_some]
  have hadding : ledger.adding tx = {
      current := some (scribe.writer.place, scribe.writer.written + 1)
      opened := ledger.opened
      files := Function.update ledger.files scribe.writer.place (some (txs ++ [tx])) } := by
    rw [Ledger.adding, hcurrent]
    simp only [htxs, Option.map_some]
  have hchanged : Changed session.disk _ scribe.writer.place (txs ++ [tx]) :=
    ⟨Disk.keepsDirectories_insert (by simp [hfile]), Disk.alikeBut_insert _ _ _,
      .inl (Disk.find?_insert_self (Disk.ne_root_of_file hfile))⟩
  rw [hadding]
  constructor
  · constructor
    · rfl
    · intro path place hmem
      exact h.opened_changed hchanged hmem
    · intro place others hothers
      exact h.files_changed hchanged hothers
  · intro last hlast
    cases hlast
    exact ⟨txs ++ [tx], Function.update_self .., by simp [Writer.advance, hoffset]⟩

/-! What comes of an operation, refused or not. -/

inductive Happens (session : Session) : Operation → Outcome × Session → Prop where
  | opened {path : String} {place : Place} {made : Disk}
      (h : session.disk.create path = .ok (place, made)) :
      Happens session (.create path)
        (.opened ⟨path, place, 0, 0⟩, ⟨made, some ⟨⟨path, place, 0, 0⟩, []⟩⟩)
  | notOpened (path : String) (trouble : Trouble) :
      Happens session (.create path) (.failed trouble, session)
  | noWriter (tx : Transaction) (h : session.writer = none) :
      Happens session (.append tx) (.noWriter, session)
  | appended {tx : Transaction} {scribe : Scribe} {writer : Writer} {later : Disk}
      (hscribe : session.writer = some scribe)
      (h : scribe.writer.append session.disk tx = .ok (writer, later)) :
      Happens session (.append tx)
        (.appended writer.written, ⟨later, some ⟨writer, Archive.record tx⟩⟩)
  | notAppended (tx : Transaction) {scribe : Scribe} (trouble : Trouble)
      (hscribe : session.writer = some scribe) :
      Happens session (.append tx) (.notAppended scribe.writer.written trouble,
        { session with writer := some (scribe.compose tx) })
  | dropped : Happens session .drop (.done, { session with writer := none })
  | wasRead (path : String) (txs : List Transaction) :
      Happens session (.read path) (.transactions txs, session)
  | notRead (path : String) (trouble : Trouble) :
      Happens session (.read path) (.failed trouble, session)

theorem unlessRefused_eq_ok {refusal : Option SystemFault} {act : FileAct} {path : String}
    {result : Except Trouble α} {a : α} (h : unlessRefused refusal act path result = .ok a) :
    result = .ok a := by
  cases refusal with
  | some fault => cases h
  | none => exact h

theorem attempt_happens (session : Session) {attempt : Attempt}
    (h : attempt.operation.IsOwn) :
    Happens session attempt.operation (session.attempt attempt) := by
  obtain ⟨operation, refusal⟩ := attempt
  unfold Session.attempt
  cases operation with
  | create path =>
      dsimp only
      split
      · rename_i writer made hresult
        have hcreate := unlessRefused_eq_ok hresult
        unfold Writer.create at hcreate
        split at hcreate
        · rename_i hopened
          cases hcreate
          exact .opened hopened
        · cases hcreate
      · exact .notOpened path _
  | append tx =>
      cases hscribe : session.writer with
      | none => exact .noWriter tx hscribe
      | some scribe =>
          dsimp only
          split
          · rename_i next later hresult
            have hflush := unlessRefused_eq_ok hresult
            rw [Scribe.flush_compose] at hflush
            obtain ⟨⟨writer, later⟩, happend, hpair⟩ := Outcome.map_eq_ok.mp hflush
            cases hpair
            exact .appended hscribe happend
          · exact @Happens.notAppended session tx scribe _ hscribe
  | drop => exact .dropped
  | read path =>
      dsimp only
      split
      · exact .wasRead path _
      · exact .notRead path _
  | content path => exact h.elim
  | put path content => exact h.elim
  | makeDirectory path => exact h.elim

theorem Tracks.note (h : session.Tracks ledger) {operation : Operation} {outcome : Outcome}
    {next : Session} (hhappens : Happens session operation (outcome, next)) :
    next.Tracks (ledger.note operation outcome) := by
  cases hhappens with
  | opened hcreate => exact h.opening hcreate
  | notOpened => exact h
  | noWriter => exact h
  | appended hscribe happend => exact h.adding hscribe happend _
  | @notAppended tx scribe trouble hscribe =>
      -- Another line is composed, which the ledger does not know of and the next one clears.
      constructor
      · constructor
        · change _ = ledger.current
          rw [← h.current, hscribe]
          rfl
        · exact h.opened
        · exact h.files
      · intro last hlast
        cases hlast
        exact h.ends scribe hscribe
  | dropped =>
      constructor
      · constructor
        · rfl
        · exact h.opened
        · exact h.files
      · intro last hlast
        cases hlast
  | wasRead => exact h
  | notRead => exact h

theorem Tracks.run (h : session.Tracks ledger) {attempts : List Attempt}
    (hown : ∀ attempt ∈ attempts, attempt.operation.IsOwn) :
    (session.run attempts).2.Tracks (ledger.noteAll attempts (session.run attempts).1) := by
  -- Whatever the first attempt comes to is noted, so the others start tracked again.
  induction attempts generalizing session ledger with
  | nil => exact h
  | cons first rest ih =>
      obtain ⟨hfirst, hrest⟩ := List.forall_mem_cons.mp hown
      exact ih (h.note (attempt_happens session hfirst)) hrest

/-- How an operation leaves what it does not succeed in, and what a line that is appended
changes. Files take lines, unless the system refuses. -/
structure Advances (session : Session) (attempt : Attempt) : Prop where
  notOpened : ∀ path trouble, attempt.operation = .create path →
    (session.attempt attempt).1 = .failed trouble → (session.attempt attempt).2 = session
  notAppended : ∀ tx written trouble, attempt.operation = .append tx →
    (session.attempt attempt).1 = .notAppended written trouble →
      (session.attempt attempt).2.disk = session.disk ∧
      (session.attempt attempt).2.writer.map Scribe.writer = session.writer.map Scribe.writer ∧
      session.writer.map (fun scribe => scribe.writer.written) = some written
  appended : ∀ tx written, attempt.operation = .append tx →
    (session.attempt attempt).1 = .appended written → ∃ scribe content,
      session.writer = some scribe ∧ written = scribe.writer.written + 1 ∧
      session.disk.find? scribe.writer.place = some (.file content) ∧
      (session.attempt attempt).2.disk.find? scribe.writer.place =
        some (.file (content ++ Archive.record tx)) ∧
      Disk.AlikeBut scribe.writer.place session.disk (session.attempt attempt).2.disk
  accepts : ∀ tx scribe content, attempt = ⟨.append tx, none⟩ → session.writer = some scribe →
    session.disk.find? scribe.writer.place = some (.file content) →
      ∃ written, (session.attempt attempt).1 = .appended written

theorem Tracks.advances (h : session.Tracks ledger) {attempt : Attempt}
    (hown : attempt.operation.IsOwn) : session.Advances attempt := by
  have hhappens := attempt_happens session hown
  constructor
  · intro path trouble hoperation houtcome
    rw [hoperation] at hhappens
    generalize session.attempt attempt = result at hhappens houtcome ⊢
    cases hhappens with
    | opened => cases houtcome
    | notOpened => rfl
  · intro tx written trouble hoperation houtcome
    rw [hoperation] at hhappens
    generalize session.attempt attempt = result at hhappens houtcome ⊢
    cases hhappens with
    | noWriter => cases houtcome
    | appended => cases houtcome
    | notAppended tx trouble hscribe =>
        cases houtcome
        exact ⟨rfl, by rw [hscribe]; rfl, by rw [hscribe]; rfl⟩
  · intro tx written hoperation houtcome
    rw [hoperation] at hhappens
    generalize session.attempt attempt = result at hhappens houtcome ⊢
    cases hhappens with
    | noWriter => cases houtcome
    | notAppended => cases houtcome
    | @appended tx scribe writer later hscribe happend =>
        cases houtcome
        obtain ⟨txs, -, -, hfile, rfl, rfl⟩ := h.append_eq_ok hscribe happend
        refine ⟨scribe, Archive.text txs, hscribe, rfl, hfile, ?_, Disk.alikeBut_insert _ _ _⟩
        rw [Disk.find?_insert_self (Disk.ne_root_of_file hfile), Archive.text_append,
          Archive.text_singleton]
  · intro tx scribe content hattempt hscribe hfile
    subst hattempt
    simp only [Session.attempt, hscribe, unlessRefused, Scribe.flush_compose, Writer.append,
      Disk.write, hfile, Outcome.map_ok]
    exact ⟨_, rfl⟩

/-- After operations in any order, refused or not, the writer has counted the lines that it
wrote, and every file that was created has the lines that were appended to it since, and no
others. -/
theorem run_accounts {disk : Disk} {attempts : List Attempt}
    (hown : ∀ attempt ∈ attempts, attempt.operation.IsOwn) :
    let start : Session := ⟨disk, none⟩
    let session := (start.run attempts).2
    let ledger := Ledger.empty.noteAll attempts (start.run attempts).1
    session.Accounts ledger ∧
      (∀ path place txs, (path, place) ∈ ledger.opened → ledger.files place = some txs →
        session.disk.read path = .ok (Archive.text txs)) ∧
      ∀ attempt : Attempt, attempt.operation.IsOwn → session.Advances attempt := by
  intro start session ledger
  have htracks : session.Tracks ledger := (tracks_empty disk).run hown
  refine ⟨htracks.toAccounts, ?_, fun attempt hattempt => htracks.advances hattempt⟩
  intro path place txs hopened htxs
  obtain ⟨hleads, -⟩ := htracks.opened path place hopened
  cases htracks.files place txs htxs with
  | inl hfile => exact Disk.read_of_leadsTo hleads hfile
  | inr hdevice =>
      rw [hdevice.2]
      exact Disk.read_device hleads hdevice.1

/-- A refused line, and a file that cannot be created again. -/
theorem run_accounts_refused :
    let tx : Transaction :=
      ⟨"a", none, ⟨1, by decide⟩, none, none, none, none, none, none, none, []⟩
    let attempts : List Attempt :=
      [⟨.create "log", none⟩, ⟨.append tx, some .noSpace⟩, ⟨.append tx, none⟩,
        ⟨.create "log", some .permissionDenied⟩, ⟨.drop, none⟩]
    let start : Session := ⟨⟨[(["log"], .file [byte 'x'])]⟩, none⟩
    (∀ attempt ∈ attempts, attempt.operation.IsOwn) ∧
      (start.run attempts).2.disk.read "log" = .ok (Archive.record tx) := by
  intro tx attempts start
  have hown : ∀ attempt ∈ attempts, attempt.operation.IsOwn := by
    simp [attempts, Operation.IsOwn]
  obtain ⟨-, hread, -⟩ := @run_accounts start.disk attempts hown
  refine ⟨hown, ?_⟩
  rw [← Archive.text_singleton]
  refine hread "log" ["log"] [tx] ?_ ?_
  · with_unfolding_all exact List.mem_cons_self
  · with_unfolding_all rfl

end Session

end ChainArchive
