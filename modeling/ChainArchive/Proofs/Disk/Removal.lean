import ChainArchive.Proofs.Disk.Agreement

namespace ChainArchive.Disk

/-! Files that are removed before they are created anew. -/

theorem LeadsTo.unique {disk : Disk} {path : String} {place other : Place}
    (h : disk.LeadsTo path place) (hother : disk.LeadsTo path other) : place = other := by
  obtain ⟨parent, name, hresolve, -, rfl⟩ := h
  obtain ⟨parent', name', hresolve', -, rfl⟩ := hother
  rw [hresolve] at hresolve'
  cases hresolve'
  rfl

theorem remove_eq_ok {disk later : Disk} {path : String} :
    disk.remove path = .ok later ↔
      ∃ place content, disk.LeadsTo path place ∧ disk.find? place = some (.file content) ∧
        later = disk.erase place := by
  constructor
  · intro hremove
    unfold remove at hremove
    obtain ⟨⟨parent, name, slash⟩, hresolve, hremove⟩ := Outcome.bind_eq_ok.mp hremove
    split at hremove
    · cases hremove
    rename_i hname
    obtain ⟨found, hlookup, hremove⟩ := Outcome.bind_eq_ok.mp hremove
    cases name with
    | none => simp at hname
    | some name =>
        match found with
        | none => cases hremove
        | some .directory => cases hremove
        | some .device => cases hremove
        | some (.file content) =>
            cases slash with
            | true => cases hremove
            | false =>
                cases hremove
                obtain ⟨hleads, hfound⟩ := leadsTo_of_lookup hresolve hlookup
                exact ⟨parent ++ [name], content, hleads, hfound, rfl⟩
  · rintro ⟨place, content, hleads, hfile, rfl⟩
    exact remove_of_leadsTo hleads hfile

def HasFile (disk : Disk) (path : String) : Prop :=
  ∃ place content, disk.LeadsTo path place ∧ disk.find? place = some (.file content)

def discard (disk : Disk) (path : String) : Disk :=
  match disk.remove path with
  | .ok later => later
  | .error _ => disk

theorem discard_of_file {disk : Disk} {path : String} {place : Place} {content : Bytes}
    (hleads : disk.LeadsTo path place) (hfile : disk.find? place = some (.file content)) :
    disk.discard path = disk.erase place := by
  rw [discard, remove_of_leadsTo hleads hfile]

theorem discard_of_not_hasFile {disk : Disk} {path : String} (h : ¬ disk.HasFile path) :
    disk.discard path = disk := by
  unfold discard
  split
  · rename_i hremove
    obtain ⟨place, content, hleads, hfile, -⟩ := remove_eq_ok.mp hremove
    exact absurd ⟨place, content, hleads, hfile⟩ h
  · rfl

theorem LeadsTo.erase {disk : Disk} {path : String} {place : Place} {content : Bytes}
    (h : disk.LeadsTo path place) (hfile : disk.find? place = some (.file content)) :
    (disk.erase place).LeadsTo path place :=
  h.keep (keepsDirectories_erase (by simp [hfile]))

theorem not_hasFile_discard (disk : Disk) (path : String) :
    ¬ (disk.discard path).HasFile path := by
  by_cases h : disk.HasFile path
  · obtain ⟨place, content, hleads, hfile⟩ := h
    rw [discard_of_file hleads hfile]
    rintro ⟨other, content', hother, hfile'⟩
    obtain rfl := (hleads.erase hfile).unique hother
    rw [find?_erase_self hleads.ne_root] at hfile'
    cases hfile'
  · rwa [discard_of_not_hasFile h]

theorem descend_directories {disk : Disk} {names : List String} {place reached : Place}
    (h : disk.descend place names = .ok reached)
    (hplace : ∀ before, before <+: place → disk.find? before = some .directory) :
    ∀ before, before <+: reached → disk.find? before = some .directory := by
  induction names generalizing place with
  | nil =>
      cases h
      exact hplace
  | cons name rest ih =>
      obtain ⟨next, hnext, h⟩ := Outcome.bind_eq_ok.mp h
      split at h
      · cases h
      · rename_i hfound
        refine ih h fun before hbefore => ?_
        unfold placeOf at hnext
        split at hnext
        · cases hnext
          exact hplace before hbefore
        · split at hnext
          · cases hnext
            exact hplace before (hbefore.trans (List.dropLast_prefix place))
          · split at hnext
            · cases hnext
            · cases hnext
              rcases List.prefix_concat_iff.mp hbefore with rfl | hbefore
              · exact hfound
              · exact hplace before hbefore
      · cases h

def content (disk : Disk) (path : String) : Bytes := (disk.read path).toOption.getD []

theorem resolve_directory {disk : Disk} {path : String} {parent : Place} {slash : Bool}
    (h : disk.resolve path = .ok ⟨parent, none, slash⟩) :
    disk.find? parent = some .directory := by
  unfold resolve at h
  split at h
  · cases h
  split at h
  · cases h
  split at h
  · cases h
    exact find?_root disk
  · obtain ⟨reached, hreached, h⟩ := Outcome.bind_eq_ok.mp h
    have hway := descend_directories hreached fun before hbefore => by
      rw [List.prefix_nil.mp hbefore, find?_root]
    split at h
    · cases h
      exact hway _ List.prefix_rfl
    · split at h
      · cases h
        exact hway _ (List.dropLast_prefix reached)
      · cases h

theorem content_of_not_hasFile {disk : Disk} {path : String} (h : ¬ disk.HasFile path) :
    disk.content path = [] := by
  unfold content
  cases hread : disk.read path with
  | error fault => rfl
  | ok content =>
      unfold read at hread
      obtain ⟨⟨parent, name, slash⟩, hresolve, hread⟩ := Outcome.bind_eq_ok.mp hread
      obtain ⟨found, hlookup, hread⟩ := Outcome.bind_eq_ok.mp hread
      match found with
      | none => cases hread
      | some .directory => cases hread
      | some .device =>
          cases slash with
          | true => cases hread
          | false =>
              cases hread
              rfl
      | some (.file bytes) =>
          cases slash with
          | true => cases hread
          | false =>
              cases name with
              | none =>
                  simp [lookup, Destination.place, resolve_directory hresolve] at hlookup
              | some name =>
                  obtain ⟨hleads, hfound⟩ := leadsTo_of_lookup hresolve hlookup
                  exact absurd ⟨_, bytes, hleads, hfound⟩ h

/-- What has been removed before makes no difference to what is created. -/
theorem create_discard_like (disk : Disk) (path : String) :
    Outcome.Like AlikeWith ((disk.discard path).create path) (disk.create path) := by
  by_cases h : disk.HasFile path
  · obtain ⟨place, content, hleads, hfile⟩ := h
    have hnone : (disk.erase place).find? place = none := find?_erase_self hleads.ne_root
    rw [discard_of_file hleads hfile, create_of_leadsTo (hleads.erase hfile) (.inl hnone),
      create_of_leadsTo hleads (.inr ⟨content, hfile⟩)]
    refine .ok ⟨rfl, @AlikeBut.alike place _ _ (fun elsewhere hne => ?_) ?_⟩
    · rw [find?_insert_of_ne hne, find?_insert_of_ne hne, find?_erase_of_ne hne]
    · rw [find?_insert_self hleads.ne_root, find?_insert_self hleads.ne_root]
  · rw [discard_of_not_hasFile h]
    exact (Alike.refl disk).create path

end ChainArchive.Disk
