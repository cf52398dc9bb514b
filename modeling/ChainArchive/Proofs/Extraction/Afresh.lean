import ChainArchive.Proofs.Extraction.Alike
import ChainArchive.Proofs.Extraction.Course

namespace ChainArchive

open Relation

variable {σ : Type}

/-! What an extraction changes on the disk. -/

namespace Disk

structure KeptBut (place : Place) (before disk : Disk) : Prop where
  elsewhere : AlikeBut place before disk
  free : disk.Free place

theorem KeptBut.insert {place : Place} {before disk : Disk} (h : KeptBut place before disk)
    (hplace : place ≠ []) (content : Bytes) :
    KeptBut place before (disk.insert place (.file content)) where
  elsewhere := h.elsewhere.trans (alikeBut_insert disk place _)
  free := .inr ⟨content, find?_insert_self hplace⟩

end Disk

theorem Writer.append_kept {writer next : Writer} {before disk later : Disk}
    {tx : Transaction} (happend : writer.append disk tx = .ok (next, later))
    (hplace : writer.place ≠ []) (h : Disk.KeptBut writer.place before disk) :
    next.place = writer.place ∧ Disk.KeptBut writer.place before later := by
  unfold Writer.append Disk.write at happend
  dsimp only at happend
  rcases h.free with hnone | ⟨content, hfile⟩
  · simp only [hnone, Except.ok.injEq, Prod.mk.injEq] at happend
    obtain ⟨rfl, rfl⟩ := happend
    exact ⟨rfl, h⟩
  · simp only [hfile, Except.ok.injEq, Prod.mk.injEq] at happend
    obtain ⟨rfl, rfl⟩ := happend
    exact ⟨rfl, h.insert hplace _⟩

namespace Extraction

def Confined (place : Place) (before : Disk) (stage : Stage σ) : Prop :=
  stage.tally.writer.place = place ∧ Disk.KeptBut place before stage.run.disk

theorem Step.confined {node : Node σ} {refuses : Refusals} {place : Place} {before : Disk}
    {stage next : Stage σ} (h : Step node refuses stage next) (hplace : place ≠ [])
    (hconfined : Confined place before stage) : Confined place before next := by
  obtain ⟨rfl, hkept⟩ := hconfined
  cases h with
  | close => exact ⟨rfl, by rwa [disk_noted]⟩
  | block => exact ⟨rfl, hkept⟩
  | transaction _ _ _ happend =>
      exact Writer.append_kept (Writer.attempt_eq_ok.mp happend).2 hplace hkept

theorem steps_confined {node : Node σ} {refuses : Refusals} {place : Place} {before : Disk}
    {stage last : Stage σ} (h : ReflTransGen (Step node refuses) stage last)
    (hplace : place ≠ []) (hconfined : Confined place before stage) :
    Confined place before last := by
  induction h with
  | refl => exact hconfined
  | tail _ hstep ih => exact hstep.confined hplace ih

theorem Halts.disk_eq {node : Node σ} {refuses : Refusals} {stage : Stage σ}
    {outcome : Except Trouble Tally × Run σ} (h : Halts node refuses stage outcome) :
    outcome.2.disk = stage.run.disk := by
  cases h with
  | finished => rfl
  | stopped => rfl
  | broken => simp
  | unwritten => simp

theorem disk_conclude (path : String) (head : Nat)
    (outcome : Except Trouble Tally × Run σ) :
    (conclude path head outcome).2.disk = outcome.2.disk := by
  obtain ⟨result, run⟩ := outcome
  cases result <;> rfl

/-! The beginning, when a file is at the path or nothing. -/

def leftover (disk : Disk) (place : Place) (path : String) : List Event :=
  match disk.find? place with
  | some _ => [.deleted path]
  | none => []

theorem cleared_free (run : Run σ) {path : String} {place : Place}
    (hleads : run.disk.LeadsTo path place) (hfree : run.disk.Free place) :
    ∃ disk, cleared run path =
        { run with disk, events := run.events ++ leftover run.disk place path } ∧
      disk.find? place = none ∧ Disk.AlikeBut place run.disk disk := by
  rcases hfree with hnone | ⟨content, hfile⟩
  · refine ⟨run.disk, ?_, hnone, .refl place run.disk⟩
    simp only [cleared, Disk.remove_absent hleads hnone, leftover, hnone, List.append_nil]
  · refine ⟨run.disk.erase place, ?_, Disk.find?_erase_self hleads.ne_root,
      Disk.alikeBut_erase run.disk place⟩
    simp only [cleared, Disk.remove_of_leadsTo hleads hfile, leftover, hfile]
    rfl

theorem extract_kept (node : Node σ) (refuses : Refusals) (start : σ) {disk : Disk}
    {path : String} {place : Place} (stopped : Bool) (hleads : disk.LeadsTo path place)
    (hfree : disk.Free place) :
    Disk.KeptBut place disk
      (Run.perform (extract (Run.refusing node refuses) path)
        (.start start disk stopped)).2.disk := by
  obtain ⟨emptied, hcleared, hnone, helsewhere⟩ :=
    cleared_free (.start start disk stopped) hleads hfree
  have hemptied : Disk.KeptBut place disk emptied := ⟨helsewhere, .inl hnone⟩
  rw [perform_extract node refuses rfl, hcleared]
  cases (node.height (Run.start start disk stopped).node).1.result with
  | error trouble => simpa using hemptied
  | ok head =>
      have hcreate := Disk.create_of_leadsTo (hleads.alikeBut hfree helsewhere) (.inl hnone)
      simp only [Run.disk_heard, Writer.create, hcreate]
      rw [disk_conclude]
      obtain ⟨last, hsteps, hhalts⟩ := exists_halts node refuses (firstStage head.value _ _)
      rw [hhalts.disk_eq]
      exact (steps_confined hsteps hleads.ne_root
        ⟨rfl, hemptied.insert hleads.ne_root []⟩).2

/-! Two extractions from disks that differ at the path only. -/

def remnants (σ : Type) (disk other : Disk) (place : Place) (path : String) :
    Kinship σ σ where
  nodes state _ state' := state = state'
  shown _ := true
  before := leftover disk place path
  before' := leftover other place path

theorem filter_remnants_shown (disk other : Disk) (place : Place) (path : String)
    (events : List Event) :
    events.filter (remnants σ disk other place path).shown = events :=
  Kinship.filter_ofEvents_shown ..

theorem remnants_nodes (node : Node σ) (disk other : Disk) (place : Place) (path : String) :
    (remnants σ disk other place path).Nodes node node :=
  Kinship.ofEvents_nodes node _ _

theorem extract_beside (node : Node σ) (refuses : Refusals) (start : σ) {disk other : Disk}
    {path : String} {place : Place} (stopped : Bool) (hleads : disk.LeadsTo path place)
    (hfree : disk.Free place) (hother : other.Free place)
    (halike : Disk.AlikeBut place disk other) :
    let outcome :=
      Run.perform (extract (Run.refusing node refuses) path) (.start start disk stopped)
    let outcome' :=
      Run.perform (extract (Run.refusing node refuses) path) (.start start other stopped)
    outcome.1 = outcome'.1 ∧
      (remnants σ disk other place path).Runs outcome.2 outcome'.2 := by
  intro outcome outcome'
  obtain ⟨emptied, hcleared, hnone, helsewhere⟩ :=
    cleared_free (.start start disk stopped) hleads hfree
  obtain ⟨emptied', hcleared', hnone', helsewhere'⟩ :=
    cleared_free (.start start other stopped) (hleads.alikeBut hfree halike) hother
  have hdisks : emptied.Alike emptied' := by
    have hbut : Disk.AlikeBut place emptied emptied' := fun elsewhere hne =>
      (helsewhere elsewhere hne).symm.trans
        ((halike elsewhere hne).trans (helsewhere' elsewhere hne))
    exact hbut.alike (hnone.trans hnone'.symm)
  have hworlds := Kinship.world_alike refuses (remnants_nodes node disk other place path)
    fun _ _ => rfl
  simp only [outcome, outcome', extract_eq, Run.perform_bind, perform_removeStale, hcleared,
    hcleared']
  exact extractAnew_alike hworlds path _ _ {
    node := rfl
    disk := hdisks
    clock := rfl
    stopped := rfl
    queries := rfl
    events := ⟨[], by
      simp [Run.start, remnants, leftover], by simp [Run.start, remnants]⟩ }

def rerun (node : Node σ) (refuses : Refusals) (start : σ) (stopped : Bool) (path : String) :
    Nat → Disk → Disk
  | 0, disk => disk
  | count + 1, disk =>
      rerun node refuses start stopped path count
        (Run.perform (extract (Run.refusing node refuses) path)
          (.start start disk stopped)).2.disk

theorem rerun_alike (node : Node σ) (refuses : Refusals) (start : σ) {disk : Disk}
    {path : String} {place : Place} (stopped : Bool) (hleads : disk.LeadsTo path place)
    (hfree : disk.Free place) (count : Nat) :
    (rerun node refuses start stopped path (count + 1) disk).Alike
      (rerun node refuses start stopped path 1 disk) := by
  induction count generalizing disk with
  | zero => exact .refl _
  | succ count ih =>
      have hkept := extract_kept node refuses start stopped hleads hfree
      have hagain := ih (hleads.alikeBut hfree hkept.elsewhere) hkept.free
      have hbeside :=
        extract_beside node refuses start stopped hleads hfree hkept.free hkept.elsewhere
      exact hagain.trans hbeside.2.disk.symm

/-- What an extraction does, whichever lines are refused, owes nothing to the file that was at
its path before, if one was: only the first event tells whether it was there. So the archive
of many extractions that meet the same replies is that of the first one. -/
theorem extract_afresh (node : Node σ) (refuses : Refusals) (start : σ) {disk other : Disk}
    {path : String} {place : Place} (stopped : Bool) (hleads : disk.LeadsTo path place)
    (hfree : disk.Free place) (hother : other.Free place)
    (halike : Disk.AlikeBut place disk other) :
    let outcome :=
      Run.perform (extract (Run.refusing node refuses) path) (.start start disk stopped)
    let outcome' :=
      Run.perform (extract (Run.refusing node refuses) path) (.start start other stopped)
    outcome.1 = outcome'.1 ∧
      outcome.2.queries = outcome'.2.queries ∧
      outcome.2.disk.Alike outcome'.2.disk ∧
      outcome.2.disk.Free place ∧
      outcome.2.disk.read path = outcome'.2.disk.read path ∧
      (∃ events, outcome.2.events = leftover disk place path ++ events ∧
        outcome'.2.events = leftover other place path ++ events) ∧
      ∀ count, (rerun node refuses start stopped path (count + 1) disk).Alike outcome.2.disk ∧
        (rerun node refuses start stopped path (count + 1) disk).read path =
          outcome.2.disk.read path := by
  intro outcome outcome'
  obtain ⟨hresult, hruns⟩ :=
    extract_beside node refuses start stopped hleads hfree hother halike
  have hkept := extract_kept node refuses start stopped hleads hfree
  have hrerun := rerun_alike node refuses start stopped hleads hfree
  obtain ⟨events, hevents, hevents'⟩ := hruns.events
  rw [filter_remnants_shown] at hevents
  exact ⟨hresult, hruns.queries, hruns.disk, hkept.free, hruns.disk.read path,
    ⟨events, hevents, hevents'⟩, fun count => ⟨hrerun count, (hrerun count).read path⟩⟩

/-- An empty disk, and one with a longer file at the path. -/
theorem extract_afresh_over_file :
    let tx : Transaction :=
      ⟨"0x1", none, ⟨7, by decide⟩, none, none, none, none, none, none, none, []⟩
    let node := Node.steady (.ok ⟨1, by decide⟩)
      (fun _ => .ok ⟨⟨1, by decide⟩, none, ["0xaa"]⟩) (fun _ => .ok tx) (fun _ => false)
    let other : Disk := ⟨[(["log"], .file (Archive.text [tx, tx]))]⟩
    let outcome := Run.perform (extract (Run.world node) "log") (.start () ⟨[]⟩ false)
    let outcome' := Run.perform (extract (Run.world node) "log") (.start () other false)
    outcome.1 = outcome'.1 ∧
      outcome.2.disk.read "log" = outcome'.2.disk.read "log" ∧
      outcome'.2.events = .deleted "log" :: outcome.2.events ∧
      (rerun node .none () false "log" 3 ⟨[]⟩).read "log" = outcome.2.disk.read "log" := by
  intro tx node other
  have hleads : (⟨[]⟩ : Disk).LeadsTo "log" ["log"] :=
    ⟨[], "log", by with_unfolding_all rfl, by decide, rfl⟩
  have hother : other.find? ["log"] = some (.file (Archive.text [tx, tx])) := rfl
  have halike : Disk.AlikeBut ["log"] ⟨[]⟩ other := by
    intro elsewhere hne
    simp [other, Disk.find?, Ne.symm hne]
  obtain ⟨hresult, -, -, -, hread, ⟨events, hevents, hevents'⟩, hrerun⟩ :=
    extract_afresh node .none () false hleads (.inl rfl) (.inr ⟨_, hother⟩) halike
  refine ⟨hresult, hread, ?_, (hrerun 2).2⟩
  rw [hevents', hevents, leftover, hother]
  rfl

end Extraction

end ChainArchive
