import ChainArchive.Archive
import ChainArchive.Proofs.Except

namespace ChainArchive

/-! Paths that lead to a file, as long as no directory goes. -/

namespace Disk

/-- Every step of the path is a directory of the disk, and its last name is that of the
place, which may hold anything or nothing. -/
def LeadsTo (disk : Disk) (path : String) (place : Place) : Prop :=
  ∃ parent name, disk.resolve path = .ok ⟨parent, some name, false⟩ ∧
    name.utf8ByteSize ≤ Path.maxName ∧ place = parent ++ [name]

def Accepts (disk : Disk) (path : String) : Prop :=
  ∃ place made, disk.create path = .ok (place, made) ∧ disk.find? place ≠ some .device

/-- A file is at the place, or nothing. -/
def Free (disk : Disk) (place : Place) : Prop :=
  disk.find? place = none ∨ ∃ content, disk.find? place = some (.file content)

theorem Free.not_directory {disk : Disk} {place : Place} (h : disk.Free place) :
    disk.find? place ≠ some .directory := by
  rcases h with hnone | ⟨content, hfile⟩
  · simp [hnone]
  · simp [hfile]

theorem Free.not_device {disk : Disk} {place : Place} (h : disk.Free place) :
    disk.find? place ≠ some .device := by
  rcases h with hnone | ⟨content, hfile⟩
  · simp [hnone]
  · simp [hfile]

def KeepsDirectories (disk other : Disk) : Prop :=
  ∀ place, disk.find? place = some .directory → other.find? place = some .directory

theorem keepsDirectories_insert {disk : Disk} {place : Place} {entry : Entry}
    (hplace : disk.find? place ≠ some .directory) :
    disk.KeepsDirectories (disk.insert place entry) := by
  intro other hother
  have hne : other ≠ place := fun heq => hplace (heq ▸ hother)
  rw [find?_insert_of_ne hne, hother]

theorem keepsDirectories_erase {disk : Disk} {place : Place}
    (hplace : disk.find? place ≠ some .directory) :
    disk.KeepsDirectories (disk.erase place) := by
  intro other hother
  have hne : other ≠ place := fun heq => hplace (heq ▸ hother)
  rw [find?_erase_of_ne hne, hother]

theorem descend_ok {disk other : Disk} (hkeeps : disk.KeepsDirectories other)
    {names : List String} {place reached : Place}
    (h : disk.descend place names = .ok reached) :
    other.descend place names = .ok reached := by
  induction names generalizing place with
  | nil => exact h
  | cons name rest ih =>
      cases hnext : placeOf place name with
      | error fault => simp [descend, hnext] at h
      | ok next =>
          cases hfound : disk.find? next with
          | none => simp [descend, hnext, hfound] at h
          | some entry =>
              cases entry with
              | file content => simp [descend, hnext, hfound] at h
              | device => simp [descend, hnext, hfound] at h
              | directory =>
                  have hrest : disk.descend next rest = .ok reached := by
                    simpa [descend, hnext, hfound] using h
                  simpa [descend, hnext, hkeeps next hfound] using
                    ih hrest

theorem resolve_ok {disk other : Disk} (hkeeps : disk.KeepsDirectories other)
    {path : String} {goal : Destination} (h : disk.resolve path = .ok goal) :
    other.resolve path = .ok goal := by
  unfold resolve at h ⊢
  split at h
  · cases h
  · split at h
    · cases h
    · rename_i hzero hlong
      rw [if_neg hzero, if_neg hlong]
      cases hlast : (Path.names path).getLast? with
      | none => simpa [hlast] using h
      | some last =>
          cases hparent : disk.descend [] (Path.names path).dropLast with
          | error fault => simp [hlast, hparent] at h
          | ok parent => simpa [hlast, hparent, descend_ok hkeeps hparent] using h

theorem LeadsTo.keep {disk other : Disk} (hkeeps : disk.KeepsDirectories other)
    {path : String} {place : Place} (h : disk.LeadsTo path place) :
    other.LeadsTo path place := by
  obtain ⟨parent, name, hresolve, hshort, hplace⟩ := h
  exact ⟨parent, name, resolve_ok hkeeps hresolve, hshort, hplace⟩

theorem LeadsTo.ne_root {disk : Disk} {path : String} {place : Place}
    (h : disk.LeadsTo path place) : place ≠ [] := by
  obtain ⟨parent, name, _, _, rfl⟩ := h
  simp

theorem LeadsTo.lookup {disk : Disk} {path : String} {place : Place}
    (h : disk.LeadsTo path place) :
    ∃ goal, disk.resolve path = .ok goal ∧ goal.name ≠ none ∧
      goal.slash = false ∧ goal.place = place ∧
      disk.lookup goal = .ok (disk.find? place) := by
  obtain ⟨parent, name, hresolve, hshort, rfl⟩ := h
  refine ⟨_, hresolve, by simp, rfl, rfl, ?_⟩
  simp [Disk.lookup, Destination.place, Nat.not_lt.mpr hshort]

theorem create_of_leadsTo {disk : Disk} {path : String} {place : Place}
    (h : disk.LeadsTo path place) (hfree : disk.Free place) :
    disk.create path = .ok (place, disk.insert place (.file [])) := by
  obtain ⟨goal, hresolve, hname, hslash, rfl, hlookup⟩ := h.lookup
  rcases hfree with hnone | ⟨content, hfile⟩
  · simp [create, hresolve, hname, hslash, hlookup, hnone]
  · simp [create, hresolve, hname, hslash, hlookup, hfile]

theorem remove_of_leadsTo {disk : Disk} {path : String} {place : Place}
    (h : disk.LeadsTo path place) {content : Bytes}
    (hfile : disk.find? place = some (.file content)) :
    disk.remove path = .ok (disk.erase place) := by
  obtain ⟨goal, hresolve, hname, hslash, rfl, hlookup⟩ := h.lookup
  simp [remove, hresolve, hname, hslash, hlookup, hfile]

theorem remove_absent {disk : Disk} {path : String} {place : Place}
    (h : disk.LeadsTo path place) (habsent : disk.find? place = none) :
    disk.remove path = .error .notFound := by
  obtain ⟨goal, hresolve, hname, hslash, rfl, hlookup⟩ := h.lookup
  simp [remove, hresolve, hname, hlookup, habsent]

theorem read_of_leadsTo {disk : Disk} {path : String} {place : Place}
    (h : disk.LeadsTo path place) {content : Bytes}
    (hfile : disk.find? place = some (.file content)) :
    disk.read path = .ok content := by
  obtain ⟨goal, hresolve, _, hslash, rfl, hlookup⟩ := h.lookup
  simp [read, hresolve, hslash, hlookup, hfile]

theorem leadsTo_of_lookup {disk : Disk} {path : String} {parent : Place} {name : String}
    {found : Option Entry} (hresolve : disk.resolve path = .ok ⟨parent, some name, false⟩)
    (hlookup : disk.lookup ⟨parent, some name, false⟩ = .ok found) :
    disk.LeadsTo path (parent ++ [name]) ∧ disk.find? (parent ++ [name]) = found := by
  unfold lookup at hlookup
  split at hlookup
  · cases hlookup
  · rename_i hshort
    exact ⟨⟨parent, name, hresolve, Nat.not_lt.mp hshort, rfl⟩, Except.ok.inj hlookup⟩

/-- A file is created anew, and a device is opened as it is. -/
theorem create_eq_ok {disk made : Disk} {path : String} {place : Place}
    (h : disk.create path = .ok (place, made)) :
    disk.LeadsTo path place ∧
      (disk.Free place ∧ made = disk.insert place (.file []) ∨
        disk.find? place = some .device ∧ made = disk) := by
  unfold create at h
  obtain ⟨⟨parent, name, slash⟩, hresolve, h⟩ := Outcome.bind_eq_ok.mp h
  split at h
  · cases h
  rename_i hgoal
  obtain ⟨found, hlookup, h⟩ := Outcome.bind_eq_ok.mp h
  cases name with
  | none => simp at hgoal
  | some name =>
      have hslash : slash = false := by simpa using hgoal
      subst hslash
      obtain ⟨hleads, hfound⟩ := leadsTo_of_lookup hresolve hlookup
      match found with
      | some .directory => cases h
      | none =>
          cases h
          exact ⟨hleads, .inl ⟨.inl hfound, rfl⟩⟩
      | some .device =>
          cases h
          exact ⟨hleads, .inr ⟨hfound, rfl⟩⟩
      | some (.file content) =>
          cases h
          exact ⟨hleads, .inl ⟨.inr ⟨content, hfound⟩, rfl⟩⟩

theorem Accepts.leadsTo {disk : Disk} {path : String} (h : disk.Accepts path) :
    ∃ place, disk.LeadsTo path place ∧ disk.Free place := by
  obtain ⟨place, made, hcreate, hdevice⟩ := h
  obtain ⟨hleads, ⟨hfree, -⟩ | ⟨hfound, -⟩⟩ := create_eq_ok hcreate
  · exact ⟨place, hleads, hfree⟩
  · exact absurd hfound hdevice

theorem accepts_of_leadsTo {disk : Disk} {path : String} {place : Place}
    (h : disk.LeadsTo path place) (hfree : disk.Free place) : disk.Accepts path :=
  ⟨place, _, create_of_leadsTo h hfree, hfree.not_device⟩

theorem Accepts.remove {disk cleared : Disk} {path : String} (h : disk.Accepts path)
    (hremove : disk.remove path = .ok cleared) : cleared.Accepts path := by
  obtain ⟨place, hleads, hnone | ⟨content, hfile⟩⟩ := h.leadsTo
  · rw [remove_absent hleads hnone] at hremove
    cases hremove
  · rw [remove_of_leadsTo hleads hfile] at hremove
    cases hremove
    have hkeeps : disk.KeepsDirectories (disk.erase place) :=
      keepsDirectories_erase (by simp [hfile])
    exact accepts_of_leadsTo (hleads.keep hkeeps)
      (.inl (find?_erase_self hleads.ne_root))

end Disk

/-! Open archives. -/

namespace Archive

def text (txs : List Transaction) : Bytes := txs.flatMap record

@[simp] theorem text_nil : text [] = [] := rfl

@[simp] theorem text_append (txs others : List Transaction) :
    text (txs ++ others) = text txs ++ text others := by
  simp [text]

@[simp] theorem text_singleton (tx : Transaction) : text [tx] = record tx := by
  simp [text]

end Archive

namespace Writer

/-- The writer's path leads to a file of the lines of these transactions, and the writer
stands at its end. -/
structure Holds (writer : Writer) (disk : Disk) (txs : List Transaction) : Prop where
  leads : disk.LeadsTo writer.path writer.place
  entry : disk.find? writer.place = some (.file (Archive.text txs))
  offset : writer.offset = (Archive.text txs).length
  written : writer.written = txs.length

theorem create_holds {disk : Disk} {path : String} (h : disk.Accepts path) :
    ∃ writer made, Writer.create disk path = .ok (writer, made) ∧ writer.path = path ∧
      writer.Holds made [] := by
  obtain ⟨place, hleads, hfree⟩ := h.leadsTo
  have hcreate := Disk.create_of_leadsTo hleads hfree
  refine ⟨⟨path, place, 0, 0⟩, disk.insert place (.file []),
    by simp [Writer.create, hcreate], rfl, ?_⟩
  exact {
    leads := hleads.keep (Disk.keepsDirectories_insert hfree.not_directory)
    entry := Disk.find?_insert_self hleads.ne_root
    offset := rfl
    written := rfl }

theorem overwrite_end (content bytes : Bytes) :
    Disk.overwrite content content.length bytes = content ++ bytes := by
  simp [Disk.overwrite]

theorem Holds.append {writer : Writer} {disk : Disk} {txs : List Transaction}
    (h : writer.Holds disk txs) (tx : Transaction) :
    ∃ later, writer.append disk tx = .ok (writer.advance (Archive.record tx), later) ∧
      (writer.advance (Archive.record tx)).Holds later (txs ++ [tx]) := by
  have hwrite : disk.write writer.place writer.offset (Archive.record tx) =
      .ok (disk.insert writer.place (.file (Archive.text (txs ++ [tx])))) := by
    rw [Disk.write, h.entry, h.offset]
    simp [overwrite_end]
  refine ⟨disk.insert writer.place (.file (Archive.text (txs ++ [tx]))),
    by simp [Writer.append, hwrite], ?_⟩
  have hkeeps : disk.KeepsDirectories
      (disk.insert writer.place (.file (Archive.text (txs ++ [tx])))) :=
    Disk.keepsDirectories_insert (by simp [h.entry])
  exact {
    leads := h.leads.keep hkeeps
    entry := Disk.find?_insert_self h.leads.ne_root
    offset := by simp [advance, h.offset]
    written := by simp [advance, h.written] }

theorem Holds.read {writer : Writer} {disk : Disk} {txs : List Transaction}
    (h : writer.Holds disk txs) : disk.read writer.path = .ok (Archive.text txs) :=
  Disk.read_of_leadsTo h.leads h.entry

end Writer

end ChainArchive
