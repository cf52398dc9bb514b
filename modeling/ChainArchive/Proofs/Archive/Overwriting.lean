import ChainArchive.Proofs.Archive.Sessions

namespace ChainArchive

open Bytes

namespace Disk

/-! Paths that stay open, whatever is put on the disk. -/

structure Opens (disk : Disk) (path : String) (place : Place) : Prop where
  leads : disk.LeadsTo path place
  takes : (∃ content, disk.find? place = some (.file content)) ∨
    disk.find? place = some .device

section Opens

variable {disk later : Disk} {path : String} {place other : Place}

theorem Opens.insert_file (h : disk.Opens path place) (hfree : disk.Free other)
    (content : Bytes) : (disk.insert other (.file content)).Opens path place := by
  refine ⟨h.leads.keep (keepsDirectories_insert hfree.not_directory), ?_⟩
  by_cases heq : place = other
  · subst heq
    exact .inl ⟨content, find?_insert_self h.leads.ne_root⟩
  · rw [find?_insert_of_ne heq]
    exact h.takes

theorem Opens.insert_absent (h : disk.Opens path place) (habsent : disk.find? other = none)
    (entry : Entry) : (disk.insert other entry).Opens path place := by
  have hne : place ≠ other := by
    rintro rfl
    rcases h.takes with ⟨content, hfile⟩ | hdevice
    · simp [habsent] at hfile
    · simp [habsent] at hdevice
  refine ⟨h.leads.keep (keepsDirectories_insert (by simp [habsent])), ?_⟩
  rw [find?_insert_of_ne hne]
  exact h.takes

theorem Opens.create (h : disk.Opens path place) {target : String}
    (hcreate : disk.create target = .ok (other, later)) : later.Opens path place := by
  obtain ⟨-, ⟨hfree, rfl⟩ | ⟨-, rfl⟩⟩ := create_eq_ok hcreate
  · exact h.insert_file hfree []
  · exact h

theorem Opens.write (h : disk.Opens path place) {offset : Nat} {bytes : Bytes}
    (hwrite : disk.write other offset bytes = .ok later) : later.Opens path place := by
  unfold Disk.write at hwrite
  split at hwrite
  · rename_i content hfile
    cases hwrite
    exact h.insert_file (.inr ⟨content, hfile⟩) _
  · split at hwrite
    · cases hwrite
      exact h
    · cases hwrite
  · cases hwrite
  · cases hwrite
    exact h

theorem Opens.put (h : disk.Opens path place) {target : String} {content : Bytes}
    (hput : disk.put target content = .ok later) : later.Opens path place := by
  obtain ⟨⟨other, made⟩, hcreate, hwrite⟩ := Outcome.bind_eq_ok.mp hput
  exact (h.create hcreate).write hwrite

theorem Opens.makeDirectories (h : disk.Opens path place) (target : String) :
    (disk.makeDirectories target).Opens path place := by
  unfold Disk.makeDirectories
  refine List.foldlRecOn (Path.names target) _ (motive := fun reached : Place × Disk =>
    reached.2.Opens path place) h fun reached hreached name _ => ?_
  dsimp only
  split
  · rename_i habsent
    exact hreached.insert_absent habsent .directory
  · exact hreached

end Opens

/-! What writing at an offset leaves of a content. -/

/-- The line lies over the content from the offset on, behind zeros if the content ends before
it, and the content goes on behind the line if it is longer. -/
structure Overlaid (content : Bytes) (offset : Nat) (line later : Bytes) : Prop where
  eq : later = content.take offset ++ List.replicate (offset - content.length) 0 ++ line ++
    content.drop (offset + line.length)
  /-- The line is added at the end, and nothing else is done, just when that is where it goes. -/
  appended_iff : later = content ++ line ↔ content.length = offset
  /-- Of a content that is not longer everything stays. -/
  kept : content.length ≤ offset → content <+: later
  /-- The line is the last one unless the content goes on behind it. -/
  last : content.length ≤ offset + line.length → line <:+ later
  /-- A longer content ends as it ended, and has grown by nothing. -/
  tail : offset + line.length ≤ content.length →
    later.length = content.length ∧ content.drop (offset + line.length) <:+ later

theorem length_overwrite (content : Bytes) (offset : Nat) (line : Bytes) :
    (overwrite content offset line).length = max content.length (offset + line.length) := by
  simp only [overwrite, List.length_append, List.length_take, List.length_replicate,
    List.length_drop]
  omega

theorem overlaid_overwrite (content : Bytes) (offset : Nat) {line : Bytes} (hline : line ≠ []) :
    Overlaid content offset line (overwrite content offset line) where
  eq := rfl
  appended_iff := by
    constructor
    · intro h
      have hlength := congrArg List.length h
      have hpos : 0 < line.length := List.length_pos_iff.mpr hline
      rw [length_overwrite, List.length_append] at hlength
      omega
    · rintro rfl
      exact Writer.overwrite_end content line
  kept h := by
    rw [overwrite, List.take_of_length_le h, List.append_assoc, List.append_assoc]
    exact List.prefix_append content _
  last h := by
    rw [overwrite, List.drop_of_length_le h, List.append_nil]
    exact List.suffix_append _ line
  tail h := by
    refine ⟨?_, List.suffix_append _ _⟩
    rw [length_overwrite]
    omega

end Disk

namespace Ledger

variable {ledger : Ledger} {place : Place} {count : Nat}

theorem adding_current (h : ledger.current = some (place, count)) (tx : Transaction) :
    (ledger.adding tx).current = some (place, count + 1) := by
  rw [adding, h]

theorem adding_files (h : ledger.current = some (place, count)) {txs : List Transaction}
    (htxs : ledger.files place = some txs) (tx : Transaction) :
    (ledger.adding tx).files place = some (txs ++ [tx]) := by
  rw [adding, h]
  simp only [Function.update_self, htxs, Option.map_some]

end Ledger

namespace Session

/-! Sessions in which other programs write as well. -/

/-- The writer stands where its own lines end since it was created, and its path still leads to
what it writes. -/
structure Follows (session : Session) (ledger : Ledger) : Prop where
  current : session.writer.map (fun scribe => (scribe.writer.place, scribe.writer.written)) =
    ledger.current
  stands : ∀ scribe, session.writer = some scribe → ∃ own,
    ledger.files scribe.writer.place = some own ∧
      scribe.writer.offset = (Archive.text own).length
  opens : ∀ scribe, session.writer = some scribe →
    session.disk.Opens scribe.writer.path scribe.writer.place

theorem follows_empty (disk : Disk) : (⟨disk, none⟩ : Session).Follows .empty where
  current := rfl
  stands _ h := by cases h
  opens _ h := by cases h

variable {session : Session} {ledger : Ledger}

theorem Follows.disk (h : session.Follows ledger) {later : Disk}
    (hlater : ∀ path place, session.disk.Opens path place → later.Opens path place) :
    ({ session with disk := later } : Session).Follows ledger where
  current := h.current
  stands := h.stands
  opens scribe hscribe := hlater _ _ (h.opens scribe hscribe)

theorem Follows.append_eq_ok (h : session.Follows ledger) {scribe : Scribe}
    (hscribe : session.writer = some scribe) {tx : Transaction} {writer : Writer} {later : Disk}
    (happend : scribe.writer.append session.disk tx = .ok (writer, later)) :
    ∃ content, session.disk.find? scribe.writer.place = some (.file content) ∧
      writer = scribe.writer.advance (Archive.record tx) ∧
      later = session.disk.insert scribe.writer.place
        (.file (Disk.overwrite content scribe.writer.offset (Archive.record tx))) := by
  unfold Writer.append Disk.write at happend
  rcases (h.opens scribe hscribe).takes with ⟨content, hfile⟩ | hdevice
  · simp only [hfile] at happend
    cases happend
    exact ⟨content, hfile, rfl, rfl⟩
  · simp [hdevice, Archive.record] at happend

theorem Follows.adding (h : session.Follows ledger) {scribe : Scribe}
    (hscribe : session.writer = some scribe) {tx : Transaction} {writer : Writer} {later : Disk}
    (happend : scribe.writer.append session.disk tx = .ok (writer, later)) (line : Bytes) :
    (⟨later, some ⟨writer, line⟩⟩ : Session).Follows (ledger.adding tx) := by
  obtain ⟨content, hfile, rfl, rfl⟩ := h.append_eq_ok hscribe happend
  obtain ⟨own, hown, hoffset⟩ := h.stands scribe hscribe
  have hcurrent : ledger.current = some (scribe.writer.place, scribe.writer.written) := by
    rw [← h.current, hscribe, Option.map_some]
  constructor
  · exact (Ledger.adding_current hcurrent tx).symm
  · intro last hlast
    cases hlast
    exact ⟨own ++ [tx], Ledger.adding_files hcurrent hown tx, by simp [Writer.advance, hoffset]⟩
  · intro last hlast
    cases hlast
    exact (h.opens scribe hscribe).insert_file (.inr ⟨content, hfile⟩) _

theorem Follows.note (h : session.Follows ledger) {operation : Operation} {outcome : Outcome}
    {next : Session} (hhappens : Happens session operation (outcome, next)) :
    next.Follows (ledger.note operation outcome) := by
  cases hhappens with
  | @opened path place made hcreate =>
      obtain ⟨hleads, -, -, hfound⟩ := Disk.create_made hcreate
      constructor
      · rfl
      · intro scribe hscribe
        cases hscribe
        exact ⟨[], Function.update_self .., rfl⟩
      · intro scribe hscribe
        cases hscribe
        exact ⟨hleads, hfound.imp_left fun hfile => ⟨[], hfile⟩⟩
  | notOpened => exact h
  | noWriter => exact h
  | appended hscribe happend => exact h.adding hscribe happend _
  | @notAppended tx scribe trouble hscribe =>
      constructor
      · change _ = ledger.current
        rw [← h.current, hscribe]
        rfl
      · intro last hlast
        cases hlast
        exact h.stands scribe hscribe
      · intro last hlast
        cases hlast
        exact h.opens scribe hscribe
  | dropped =>
      constructor
      · rfl
      · intro last hlast
        cases hlast
      · intro last hlast
        cases hlast
  | wasRead => exact h
  | notRead => exact h

theorem Follows.attempt (h : session.Follows ledger) (attempt : Attempt) :
    (session.attempt attempt).2.Follows
      (ledger.note attempt.operation (session.attempt attempt).1) := by
  by_cases hown : attempt.operation.IsOwn
  · exact h.note (attempt_happens session hown)
  · obtain ⟨operation, refusal⟩ := attempt
    cases operation with
    | create path => exact absurd trivial hown
    | append tx => exact absurd trivial hown
    | drop => exact absurd trivial hown
    | read path => exact absurd trivial hown
    | content path => exact h
    | put path content =>
        cases hput : session.disk.put path content with
        | error fault =>
            simp only [Session.attempt, hput]
            exact h
        | ok later =>
            simp only [Session.attempt, hput]
            exact h.disk fun _ _ hopens => hopens.put hput
    | makeDirectory path => exact h.disk fun _ _ hopens => hopens.makeDirectories path

theorem Follows.run (h : session.Follows ledger) (attempts : List Attempt) :
    (session.run attempts).2.Follows (ledger.noteAll attempts (session.run attempts).1) := by
  induction attempts generalizing session ledger with
  | nil => exact h
  | cons first rest ih => exact ih (h.attempt first)

/-- Whatever was done before, and whatever other programs have put into the file, a line that
is appended is written behind the lines that the writer itself has written since the file was
created: it ends the file only as far as that is the end of it. -/
theorem run_overwrites (disk : Disk) (attempts : List Attempt) (attempt : Attempt)
    {tx : Transaction} (hoperation : attempt.operation = .append tx) {written : Nat} :
    let start : Session := ⟨disk, none⟩
    let session := (start.run attempts).2
    let ledger := Ledger.empty.noteAll attempts (start.run attempts).1
    let next := session.attempt attempt
    next.1 = .appended written → ∃ scribe own content later,
      session.writer = some scribe ∧ ledger.files scribe.writer.place = some own ∧
      session.disk.read scribe.writer.path = .ok content ∧
      next.2.disk.read scribe.writer.path = .ok later ∧
      Disk.AlikeBut scribe.writer.place session.disk next.2.disk ∧
      Disk.Overlaid content (Archive.text own).length (Archive.record tx) later := by
  intro start session ledger next hnext
  have hfollows : session.Follows ledger := (follows_empty disk).run attempts
  have hhappens := @attempt_happens session attempt (by rw [hoperation]; trivial)
  rw [hoperation] at hhappens
  change Happens session (.append tx) next at hhappens
  generalize next = result at hhappens hnext ⊢
  cases hhappens with
  | noWriter => cases hnext
  | notAppended => cases hnext
  | @appended tx scribe writer later hscribe happend =>
      obtain ⟨content, hfile, -, rfl⟩ := hfollows.append_eq_ok hscribe happend
      obtain ⟨own, hown, hoffset⟩ := hfollows.stands scribe hscribe
      have hopens := hfollows.opens scribe hscribe
      have hlater := hopens.insert_file (.inr ⟨content, hfile⟩)
        (Disk.overwrite content scribe.writer.offset (Archive.record tx))
      refine ⟨scribe, own, content, _, hscribe, hown, Disk.read_of_leadsTo hopens.leads hfile,
        Disk.read_of_leadsTo hlater.leads (Disk.find?_insert_self hopens.leads.ne_root),
        Disk.alikeBut_insert _ _ _, ?_⟩
      rw [hoffset]
      exact Disk.overlaid_overwrite content _ (by simp [Archive.record])

/-- The file has been cut short meanwhile, so that zeros come before the line. -/
theorem run_overwrites_gap :
    let tx : Transaction :=
      ⟨"a", none, ⟨1, by decide⟩, none, none, none, none, none, none, none, []⟩
    let attempts : List Attempt :=
      [⟨.create "log", none⟩, ⟨.append tx, none⟩, ⟨.put "log" [byte 'x'], none⟩]
    let start : Session := ⟨⟨[]⟩, none⟩
    ((start.run attempts).2.attempt ⟨.append tx, none⟩).2.disk.read "log" =
      .ok (byte 'x' :: List.replicate 32 0 ++ Archive.record tx) := by
  intro tx attempts start
  have hnext : ((start.run attempts).2.attempt ⟨.append tx, none⟩).1 = .appended 2 := by
    with_unfolding_all rfl
  obtain ⟨scribe, own, content, later, hscribe, hown, hcontent, hlater, -, hoverlaid⟩ :=
    run_overwrites ⟨[]⟩ attempts ⟨.append tx, none⟩ rfl hnext
  have hwriter : (start.run attempts).2.writer =
      some ⟨⟨"log", ["log"], 33, 1⟩, Archive.record tx⟩ := by with_unfolding_all rfl
  have hfound : (start.run attempts).2.disk.read "log" = .ok [byte 'x'] := by
    with_unfolding_all rfl
  have hledger : (Ledger.empty.noteAll attempts (start.run attempts).1).files ["log"] =
      some [tx] := by with_unfolding_all rfl
  cases hscribe.symm.trans hwriter
  cases hown.symm.trans hledger
  cases hcontent.symm.trans hfound
  have hlength : (Archive.text [tx]).length = 33 := by decide +kernel
  have hshort : List.drop (33 + (Archive.record tx).length) [byte 'x'] = [] :=
    List.drop_of_length_le (by simp; omega)
  rw [hlater, hoverlaid.eq, hlength, hshort, List.append_nil]
  rfl

/-- The line of another program is lost in part, and the one that is appended does not end the
file. -/
theorem run_overwrites_line :
    let tx : Transaction :=
      ⟨"a", none, ⟨1, by decide⟩, none, none, none, none, none, none, none, []⟩
    let other : Transaction :=
      ⟨"other program", none, ⟨7, by decide⟩, none, none, none, none, none, none, none, []⟩
    let attempts : List Attempt :=
      [⟨.create "log", none⟩, ⟨.put "log" (Archive.record other), none⟩]
    let session := ((⟨⟨[]⟩, none⟩ : Session).run attempts).2
    let next := session.attempt ⟨.append tx, none⟩
    next.1 = .appended 1 ∧ ∃ later, next.2.disk.read "log" = .ok later ∧
      ¬ Archive.record other <+: later ∧ ¬ Archive.record tx <:+ later := by
  intro tx other attempts session next
  have hnext : next.1 = .appended 1 := by with_unfolding_all rfl
  have hread : next.2.disk.read "log" =
      .ok (Disk.overwrite (Archive.record other) 0 (Archive.record tx)) := by
    with_unfolding_all rfl
  exact ⟨hnext, _, hread, by decide +kernel, by decide +kernel⟩

end Session

end ChainArchive
