import ChainArchive.Proofs.Archive.Writing

namespace ChainArchive

namespace Outcome

variable {ε : Type u} {α : Type v} {β : Type w}

inductive Like (related : α → β → Prop) : Except ε α → Except ε β → Prop where
  | ok {a : α} {b : β} (h : related a b) : Like related (.ok a) (.ok b)
  | error (fault : ε) : Like related (.error fault) (.error fault)

theorem Like.error_iff {related : α → β → Prop} {result : Except ε α} {other : Except ε β}
    (h : Like related result other) {fault : ε} :
    result = .error fault ↔ other = .error fault := by
  cases h with
  | ok => simp
  | error own => simp

end Outcome

/-! Disks that hold the same, wherever one looks or wherever one looks but at one place. -/

namespace Disk

def Alike (disk other : Disk) : Prop := ∀ place, disk.find? place = other.find? place

def AlikeBut (place : Place) (disk other : Disk) : Prop :=
  ∀ elsewhere, elsewhere ≠ place → disk.find? elsewhere = other.find? elsewhere

theorem Alike.refl (disk : Disk) : disk.Alike disk := fun _ => rfl

theorem Alike.symm {disk other : Disk} (h : disk.Alike other) : other.Alike disk :=
  fun place => (h place).symm

theorem Alike.trans {first second third : Disk} (h : first.Alike second)
    (hnext : second.Alike third) : first.Alike third :=
  fun place => (h place).trans (hnext place)

theorem AlikeBut.refl (place : Place) (disk : Disk) : AlikeBut place disk disk := fun _ _ => rfl

theorem AlikeBut.trans {place : Place} {first second third : Disk}
    (h : AlikeBut place first second) (hnext : AlikeBut place second third) :
    AlikeBut place first third :=
  fun elsewhere hne => (h elsewhere hne).trans (hnext elsewhere hne)

@[simp] theorem find?_root (disk : Disk) : disk.find? [] = some .directory := by
  simp [find?]

theorem AlikeBut.alike {place : Place} {disk other : Disk} (h : AlikeBut place disk other)
    (hplace : disk.find? place = other.find? place) : disk.Alike other := by
  intro elsewhere
  by_cases heq : elsewhere = place
  · rw [heq, hplace]
  · exact h elsewhere heq

theorem alikeBut_insert (disk : Disk) (place : Place) (entry : Entry) :
    AlikeBut place disk (disk.insert place entry) :=
  fun _ hne => (find?_insert_of_ne hne).symm

theorem alikeBut_erase (disk : Disk) (place : Place) :
    AlikeBut place disk (disk.erase place) :=
  fun _ hne => (find?_erase_of_ne hne).symm

theorem AlikeBut.erase {place : Place} {disk other : Disk} (h : AlikeBut place disk other) :
    (disk.erase place).Alike (other.erase place) := by
  have hboth : AlikeBut place (disk.erase place) (other.erase place) := by
    intro elsewhere hne
    rw [find?_erase_of_ne hne, find?_erase_of_ne hne, h elsewhere hne]
  refine hboth.alike ?_
  by_cases hroot : place = []
  · simp [hroot]
  · rw [find?_erase_self hroot, find?_erase_self hroot]

theorem Alike.insert {disk other : Disk} (h : disk.Alike other) (place : Place)
    (entry : Entry) : (disk.insert place entry).Alike (other.insert place entry) := by
  have hboth : AlikeBut place (disk.insert place entry) (other.insert place entry) := by
    intro elsewhere hne
    rw [find?_insert_of_ne hne, find?_insert_of_ne hne, h elsewhere]
  refine hboth.alike ?_
  by_cases hroot : place = []
  · simp [hroot]
  · rw [find?_insert_self hroot, find?_insert_self hroot]

/-! The operations look at places only. -/

theorem Alike.descend {disk other : Disk} (h : disk.Alike other) (place : Place)
    (names : List String) : disk.descend place names = other.descend place names := by
  induction names generalizing place with
  | nil => rfl
  | cons name rest ih => simp only [Disk.descend, h _, ih]

theorem Alike.resolve {disk other : Disk} (h : disk.Alike other) (path : String) :
    disk.resolve path = other.resolve path := by
  simp only [Disk.resolve, h.descend]

theorem Alike.lookup {disk other : Disk} (h : disk.Alike other) (goal : Destination) :
    disk.lookup goal = other.lookup goal := by
  simp only [Disk.lookup, h _]

theorem Alike.read {disk other : Disk} (h : disk.Alike other) (path : String) :
    disk.read path = other.read path := by
  simp only [Disk.read, h.resolve, h.lookup]

theorem Alike.remove {disk other : Disk} (h : disk.Alike other) (path : String) :
    Outcome.Like Alike (disk.remove path) (other.remove path) := by
  simp only [Disk.remove, h.resolve, h.lookup]
  cases other.resolve path with
  | error fault => exact .error fault
  | ok goal =>
      simp only [Outcome.ok_bind]
      split
      · exact .error _
      · cases other.lookup goal with
        | error fault => exact .error fault
        | ok found =>
            simp only [Outcome.ok_bind]
            split
            · exact .error _
            · exact .error _
            · exact .error _
            · split
              · exact .error _
              · exact .ok (AlikeBut.erase fun elsewhere _ => h elsewhere)

def AlikeWith (made made' : α × Disk) : Prop := made.1 = made'.1 ∧ made.2.Alike made'.2

theorem Alike.create {disk other : Disk} (h : disk.Alike other) (path : String) :
    Outcome.Like AlikeWith (disk.create path) (other.create path) := by
  simp only [Disk.create, h.resolve, h.lookup]
  cases other.resolve path with
  | error fault => exact .error fault
  | ok goal =>
      simp only [Outcome.ok_bind]
      split
      · exact .error _
      · cases other.lookup goal with
        | error fault => exact .error fault
        | ok found =>
            simp only [Outcome.ok_bind]
            split
            · exact .error _
            · exact .ok ⟨rfl, h⟩
            · exact .ok ⟨rfl, h.insert _ _⟩
            · exact .ok ⟨rfl, h.insert _ _⟩

theorem Alike.write {disk other : Disk} (h : disk.Alike other) (place : Place)
    (offset : Nat) (bytes : Bytes) :
    Outcome.Like Alike (disk.write place offset bytes) (other.write place offset bytes) := by
  simp only [Disk.write, h place]
  split
  · exact .ok (h.insert _ _)
  · split
    · exact .ok h
    · exact .error _
  · exact .error _
  · exact .ok h

/-- A path leads where it led while only its end changes, and no directory is there. -/
theorem LeadsTo.alikeBut {disk other : Disk} {path : String} {place : Place}
    (h : disk.LeadsTo path place) (hfree : disk.Free place)
    (halike : AlikeBut place disk other) : other.LeadsTo path place := by
  refine h.keep fun elsewhere hdirectory => ?_
  have hne : elsewhere ≠ place := by
    rintro rfl
    exact hfree.not_directory hdirectory
  rw [← halike elsewhere hne, hdirectory]

end Disk

namespace Writer

theorem create_like {disk other : Disk} {path : String}
    (hcreate : Outcome.Like Disk.AlikeWith (disk.create path) (other.create path)) :
    Outcome.Like Disk.AlikeWith (Writer.create disk path) (Writer.create other path) := by
  unfold Writer.create
  generalize disk.create path = made at hcreate ⊢
  generalize other.create path = made' at hcreate ⊢
  cases hcreate with
  | error fault => exact .error _
  | ok hmade =>
      obtain ⟨hplace, halike⟩ := hmade
      exact .ok ⟨by rw [hplace], halike⟩

theorem append_like {disk other : Disk} (h : disk.Alike other) (writer : Writer)
    (tx : Transaction) :
    Outcome.Like Disk.AlikeWith (writer.append disk tx) (writer.append other tx) := by
  have hwrite := h.write writer.place writer.offset (Archive.record tx)
  unfold Writer.append
  dsimp only
  generalize disk.write writer.place writer.offset (Archive.record tx) = made at hwrite ⊢
  generalize other.write writer.place writer.offset (Archive.record tx) = made' at hwrite ⊢
  cases hwrite with
  | error fault => exact .error _
  | ok halike => exact .ok ⟨rfl, halike⟩

end Writer

end ChainArchive
