import ChainArchive.Proofs.Json.Records

namespace ChainArchive.Json

/-! Records whose members may be given once each, and which pass over all others: what they
are left with is said by the names alone, whatever the order. -/

theorem rel_some_iff {related : β → α → Prop} {found : Option β} {a : α} :
    Option.Rel related found (some a) ↔ ∃ b, found = some b ∧ related b a := by
  cases found <;> simp

theorem makes_getD_iff {makes : Tree → α → Prop} {fallback : Tree} {default : α}
    (h : ∀ a, makes fallback a ↔ a = default) {found : Option Tree} {a : α} :
    makes (found.getD fallback) a ↔
      ∃ given, Option.Rel makes found given ∧ given.getD default = a := by
  cases found with
  | none =>
      rw [Option.getD_none, h]
      constructor
      · rintro rfl
        exact ⟨none, .none, rfl⟩
      · rintro ⟨given, hrel, rfl⟩
        cases hrel
        rfl
  | some tree =>
      constructor
      · intro hmakes
        exact ⟨some a, .some hmakes, rfl⟩
      · rintro ⟨given, hrel, rfl⟩
        cases hrel with
        | some hmakes => exact hmakes

structure Record.Layout (record : Record σ α) (ι : Type) where
  name : ι → String
  Value : ι → Type
  decoder : (place : ι) → Decoder (Value place)
  given : (place : ι) → σ → Option (Value place)
  put : (place : ι) → σ → Value place → σ
  slot_name : ∀ state place, record.slot state (name place) =
    .once (name place) (given place state) (decoder place) (put place state)
  slot_other : ∀ state key, (∀ place, name place ≠ key) → record.slot state key = .ignored
  name_injective : ∀ place other, name place = name other → place = other
  given_put : ∀ place state a, given place (put place state a) = some a
  given_put_of_ne : ∀ place other state a, other ≠ place →
    given other (put place state a) = given other state
  given_start : ∀ place, given place record.start = none
  ext : ∀ state other, (∀ place, given place state = given place other) → state = other

namespace Record.Layout

variable {record : Record σ α} {ι : Type} (layout : record.Layout ι)

def names (members : List (String × β)) : List String := members.map Prod.fst

def Settles (view : View β) (budget : Nat) (members : List (String × β)) (place : ι) :
    Option (layout.Value place) → Option (layout.Value place) → Prop
  | some a, after => layout.name place ∉ names members ∧ after = some a
  | none, after =>
      (names members).count (layout.name place) ≤ 1 ∧
        Option.Rel ((layout.decoder place).Yields view budget)
          (members.lookup (layout.name place)) after

structure Tells (view : View β) (budget : Nat) (members : List (String × β)) (state : σ) :
    Prop where
  once : ∀ place, (names members).count (layout.name place) ≤ 1
  given : ∀ place, Option.Rel ((layout.decoder place).Yields view budget)
    (members.lookup (layout.name place)) (layout.given place state)

theorem mem_map_name {places : List ι} (hall : ∀ place, place ∈ places) {name : String} :
    name ∈ places.map layout.name ↔ ∃ place, layout.name place = name := by
  simp [hall]

variable {layout} {view : View β} {budget : Nat}

theorem takes_name {place : ι} {x : β} {state next : σ} :
    record.Takes view budget state (layout.name place, x) next ↔
      layout.given place state = none ∧
        ∃ a, (layout.decoder place).Yields view budget x a ∧ layout.put place state a = next := by
  unfold Takes
  rw [layout.slot_name]
  cases layout.given place state with
  | some a => simp [Slot.once]
  | none =>
      simp only [Slot.once, true_and]
      exact Decoder.map_yields_iff

theorem takes_other {key : String} (h : ∀ place, layout.name place ≠ key) {x : β}
    {state next : σ} : record.Takes view budget state (key, x) next ↔ next = state := by
  unfold Takes
  rw [layout.slot_other state key h]

/-! One member more. -/

theorem settles_of_ne {key : String} {place : ι} (h : layout.name place ≠ key) {x : β}
    {rest : List (String × β)} {before after : Option (layout.Value place)} :
    layout.Settles view budget ((key, x) :: rest) place before after ↔
      layout.Settles view budget rest place before after := by
  cases before <;> simp [Settles, names, lookup_cons_eq, h, Ne.symm h]

theorem settles_name {place : ι} {x : β} {rest : List (String × β)}
    {before after : Option (layout.Value place)} :
    layout.Settles view budget ((layout.name place, x) :: rest) place before after ↔
      before = none ∧ ∃ a, (layout.decoder place).Yields view budget x a ∧
        layout.Settles view budget rest place (some a) after := by
  cases before with
  | some a => simp [Settles, names]
  | none =>
      simp only [Settles, names, List.map_cons, List.count_cons_self, lookup_cons_eq, if_true,
        true_and]
      constructor
      · rintro ⟨honce, hrel⟩
        cases hrel with
        | some hmakes =>
            refine ⟨_, hmakes, fun hmem => ?_, rfl⟩
            have hcount := List.count_pos_iff.mpr hmem
            omega
      · rintro ⟨a, hmakes, hfresh, rfl⟩
        have hcount := List.count_eq_zero.mpr hfresh
        exact ⟨by omega, .some hmakes⟩

theorem folds_iff (layout : record.Layout ι) {members : List (String × β)} {state last : σ} :
    record.Folds view budget members state last ↔
      ∀ place, layout.Settles view budget members place (layout.given place state)
        (layout.given place last) := by
  induction members generalizing state with
  | nil =>
      constructor
      · rintro rfl place
        cases layout.given place last with
        | some a => exact ⟨List.not_mem_nil, rfl⟩
        | none => exact ⟨by simp [names], .none⟩
      · intro h
        refine layout.ext _ _ fun place => ?_
        have hplace := h place
        cases hgiven : layout.given place state with
        | some a =>
            rw [hgiven] at hplace
            exact hplace.2
        | none =>
            rw [hgiven] at hplace
            generalize layout.given place last = after at hplace
            obtain ⟨-, hrel⟩ := hplace
            cases hrel
            rfl
  | cons member rest ih =>
      obtain ⟨key, x⟩ := member
      simp only [Folds, ih]
      -- A name is that of one place at most, and what it fills no later member fills again.
      by_cases hkey : ∃ place, layout.name place = key
      · obtain ⟨place, rfl⟩ := hkey
        have hother : ∀ other, other ≠ place → layout.name other ≠ layout.name place :=
          fun other hne heq => hne (layout.name_injective other place heq)
        simp only [takes_name]
        constructor
        · rintro ⟨next, ⟨hnone, a, hmakes, rfl⟩, hrest⟩ other
          by_cases heq : other = place
          · subst heq
            have hfilled := hrest other
            rw [layout.given_put] at hfilled
            exact settles_name.mpr ⟨hnone, a, hmakes, hfilled⟩
          · have hkept := hrest other
            rw [layout.given_put_of_ne place other state a heq] at hkept
            exact (settles_of_ne (hother other heq)).mpr hkept
        · intro h
          obtain ⟨hnone, a, hmakes, hfilled⟩ := settles_name.mp (h place)
          refine ⟨_, ⟨hnone, a, hmakes, rfl⟩, fun other => ?_⟩
          by_cases heq : other = place
          · subst heq
            rwa [layout.given_put]
          · rw [layout.given_put_of_ne place other state a heq]
            exact (settles_of_ne (hother other heq)).mp (h other)
      · have hkey : ∀ place, layout.name place ≠ key := fun place heq => hkey ⟨place, heq⟩
        simp only [takes_other hkey, exists_eq_left, settles_of_ne (hkey _)]

theorem sums_iff (layout : record.Layout ι) {members : List (String × β)} {a : α} :
    record.Sums view budget members a ↔
      ∃ last, layout.Tells view budget members last ∧ record.finish last = .ok a := by
  simp only [Sums, layout.folds_iff, layout.given_start, Settles]
  constructor
  · rintro ⟨last, h, hfinish⟩
    exact ⟨last, ⟨fun place => (h place).1, fun place => (h place).2⟩, hfinish⟩
  · rintro ⟨last, h, hfinish⟩
    exact ⟨last, fun place => ⟨h.once place, h.given place⟩, hfinish⟩

theorem Tells.perm {members others : List (String × β)} {state : σ}
    (h : layout.Tells view budget members state) (hperm : members.Perm others) :
    layout.Tells view budget others state where
  once place := by
    rw [names, ← (hperm.map Prod.fst).count_eq]
    exact h.once place
  given place := by
    rw [← lookup_eq_of_perm hperm (h.once place)]
    exact h.given place

/-- The order of members makes no difference. -/
theorem sums_perm (layout : record.Layout ι) {members others : List (String × β)}
    (hperm : members.Perm others) {a : α} :
    record.Sums view budget members a ↔ record.Sums view budget others a := by
  rw [layout.sums_iff, layout.sums_iff]
  constructor
  · intro h
    obtain ⟨last, htells, hfinish⟩ := h
    exact ⟨last, htells.perm hperm, hfinish⟩
  · intro h
    obtain ⟨last, htells, hfinish⟩ := h
    exact ⟨last, htells.perm hperm.symm, hfinish⟩

/-! Rows, with an item for each of some places. -/

variable (layout) in
def row (places : List ι) : List (Column σ) :=
  places.map fun place =>
    ⟨fun state => (layout.decoder place).map (layout.put place state), false⟩

theorem fills_iff {places : List ι}
    (hnodup : places.Nodup) {items : List Tree} {state last : σ} :
    Fills budget (layout.row places) items state last ↔
      List.Forall₂ (fun place item => ∃ a, (layout.decoder place).Makes budget item a ∧
        layout.given place last = some a) places items ∧
      ∀ place, place ∉ places → layout.given place last = layout.given place state := by
  induction places generalizing items state with
  | nil =>
      cases items with
      | nil =>
          constructor
          · intro hlast
            cases hlast
            exact ⟨.nil, fun _ _ => rfl⟩
          · intro h
            exact layout.ext _ _ fun place => h.2 place List.not_mem_nil
      | cons item items => simp [row, Fills]
  | cons place places ih =>
      obtain ⟨hfresh, hnodup⟩ := List.nodup_cons.mp hnodup
      cases items with
      | nil => simp [row, Fills]
      | cons item items =>
          constructor
          · intro hfills
            obtain ⟨next, hnext, hrest⟩ := hfills
            obtain ⟨a, hmakes, rfl⟩ := Decoder.map_makes_iff.mp hnext
            obtain ⟨hrow, hkept⟩ := (ih hnodup).mp hrest
            have hplace := hkept place hfresh
            rw [layout.given_put] at hplace
            refine ⟨.cons ⟨a, hmakes, hplace⟩ hrow, fun other hother => ?_⟩
            obtain ⟨hne, hmem⟩ := not_or.mp (mt List.mem_cons.mpr hother)
            rw [hkept other hmem, layout.given_put_of_ne place other state a hne]
          · intro h
            obtain ⟨hrow, hkept⟩ := h
            cases hrow with
            | cons hitem hrow =>
                obtain ⟨a, hmakes, hplace⟩ := hitem
                refine ⟨_, Decoder.map_makes_iff.mpr ⟨a, hmakes, rfl⟩,
                  (ih hnodup).mpr ⟨hrow, fun other hother => ?_⟩⟩
                by_cases heq : other = place
                · subst heq
                  rw [hplace, layout.given_put]
                · rw [layout.given_put_of_ne place other state a heq]
                  exact hkept other fun hmem => (List.mem_cons.mp hmem).elim heq hother

theorem lays_array_iff {places : List ι}
    (hrow : record.columns = some (layout.row places)) (hnodup : places.Nodup)
    (hall : ∀ place, place ∈ places) {items : List Tree} {a : α} :
    record.Lays budget (.array items) a ↔
      ∃ last, List.Forall₂ (fun place item => ∃ a, (layout.decoder place).Makes budget item a ∧
        layout.given place last = some a) places items ∧ record.finish last = .ok a := by
  unfold Lays
  simp only [hrow, Option.some.injEq, exists_and_left, exists_eq_left', fills_iff hnodup]
  constructor
  · intro hlays
    obtain ⟨last, ⟨hitems, -⟩, hfinish⟩ := hlays
    exact ⟨last, hitems, hfinish⟩
  · intro hlays
    obtain ⟨last, hitems, hfinish⟩ := hlays
    exact ⟨last, ⟨hitems, fun place hplace => absurd (hall place) hplace⟩, hfinish⟩

variable (layout) in
def Covers : Prop :=
  ∀ ⦃columns⦄, record.columns = some columns → ∀ column ∈ columns, ∃ place, ∀ state,
    column.decoder state = (layout.decoder place).map (layout.put place state)

theorem covers_row {places : List ι} (hrow : record.columns = some (layout.row places)) :
    layout.Covers := by
  intro columns hcolumns column hcolumn
  cases hrow.symm.trans hcolumns
  obtain ⟨place, -, rfl⟩ := List.mem_map.mp hcolumn
  exact ⟨place, fun _ => rfl⟩

variable (layout) in
theorem slot_taken {state : σ} {key : String} {taken : Decoder σ}
    (h : record.slot state key = .taken taken) :
    ∃ place, taken = (layout.decoder place).map (layout.put place state) := by
  by_cases hkey : ∃ place, layout.name place = key
  · obtain ⟨place, rfl⟩ := hkey
    exact ⟨place, Slot.once_taken ((layout.slot_name state place).symm.trans h)⟩
  · cases (layout.slot_other state key (not_exists.mp hkey)).symm.trans h

theorem ignores {asks : String → Prop}
    (hasks : ∀ name, asks name ↔ ∃ place, layout.name place = name) (state : σ) (name : String)
    (hother : ¬ asks name) : record.slot state name = .ignored := by
  apply layout.slot_other
  intro place hplace
  exact hother ((hasks name).mpr ⟨place, hplace⟩)

theorem asks {asks : String → Prop} (hasks : ∀ name, asks name ↔ ∃ place, layout.name place = name)
    (hsound : ∀ place, (layout.decoder place).SoundIn view) : record.Asks view asks where
  asked state name hasked := by
    obtain ⟨place, rfl⟩ := (hasks name).mp hasked
    rw [layout.slot_name]
    cases layout.given place state <;> exact nofun
  other := layout.ignores hasks
  sound state name taken hslot := by
    obtain ⟨place, rfl⟩ := layout.slot_taken hslot
    exact (hsound place).map _

theorem follows (hfollows : ∀ place, (layout.decoder place).Follows view) :
    record.Follows view where
  slot state key taken hslot := by
    obtain ⟨place, rfl⟩ := layout.slot_taken hslot
    exact (Decoder.MeansIn.map (hfollows place) _).follows

theorem uniform (huniform : ∀ place, (layout.decoder place).Uniform) (hcovers : layout.Covers) :
    record.Uniform where
  toFollows := follows huniform
  columns columns hcolumns column hcolumn state := by
    obtain ⟨place, hplace⟩ := hcovers hcolumns column hcolumn
    rw [hplace]
    exact (huniform place).map _

end Record.Layout

/-! Optional members. -/

/-- An optional member lacks, it is null, or it stands for something. -/
inductive Stands (null : β) (makes : β → α → Prop) : Option β → Option α → Prop where
  | lacking : Stands null makes none none
  | null : Stands null makes (some null) none
  | given {x : β} {a : α} (hne : x ≠ null) (h : makes x a) : Stands null makes (some x) (some a)

theorem stands_some_iff {view : View β} {makes : β → α → Prop} {decoder : Decoder α} {budget : Nat}
    (h : decoder.Follows view) (hmakes : ∀ x a, decoder.Yields view budget x a ↔ makes x a)
    {x : β} {found : Option α} :
    Stands view.null makes (some x) found ↔
      (Decoder.option decoder).Yields view budget x found := by
  rw [(Decoder.MeansIn.option h).yields_iff]
  constructor
  · intro hstands
    cases hstands with
    | null => exact .inl ⟨rfl, rfl⟩
    | @given _ a hne ha => exact .inr ⟨hne, a, rfl, (hmakes x a).mpr ha⟩
  · intro hfound
    rcases hfound with ⟨rfl, rfl⟩ | ⟨hne, a, rfl, ha⟩
    · exact .null
    · exact .given hne ((hmakes x a).mp ha)

theorem stands_iff {null : β} {makes : β → α → Prop} {taken : β → Option α → Prop}
    (h : ∀ x found, Stands null makes (some x) found ↔ taken x found) {found : Option β}
    {after : Option α} :
    Stands null makes found after ↔
      ∃ given, Option.Rel taken found given ∧ given.getD none = after := by
  cases found with
  | none =>
      constructor
      · intro hstands
        cases hstands
        exact ⟨none, .none, rfl⟩
      · intro hgiven
        obtain ⟨given, hrel, rfl⟩ := hgiven
        cases hrel
        exact .lacking
  | some x =>
      rw [h]
      constructor
      · intro htaken
        exact ⟨some after, .some htaken, rfl⟩
      · intro hgiven
        obtain ⟨given, hrel, rfl⟩ := hgiven
        cases hrel with
        | some htaken => exact htaken

end ChainArchive.Json
