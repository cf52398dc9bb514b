import ChainArchive.Proofs.Json.Layout

namespace ChainArchive.Json

open Bytes

/-! Trees that have a value, decoded from their text and from the value. -/

theorem parse_eq_ok {text : Bytes} {value : Json} (h : parse text = .ok value) :
    ∃ tree, Document text tree ∧ tree.read? maxDepth = some value := by
  obtain ⟨rest, hread, hrest⟩ := readWhole_eq_ok.mp h
  obtain ⟨tree, hbegins⟩ := readValue_sound hread
  obtain ⟨htree, -⟩ := hbegins.read?_eq (endsNumber_blank hrest) hread
  obtain ⟨gap, inner, htext, hgap, hspells⟩ := hbegins
  exact ⟨tree, ⟨gap, inner, rest, htext, hgap, hspells, hrest⟩, htree⟩

theorem Document.parse_eq {text : Bytes} {tree : Tree} {value : Json} (h : Document text tree)
    (hvalue : tree.read? maxDepth = some value) : parse text = .ok value := by
  -- Parsing is decoding by a decoder that takes every value as it is.
  have hmeans : Decoder.Means ⟨readValue, .ok⟩ (Decoder.Reads ⟨readValue, .ok⟩) := by
    refine Decoder.Faithful.means (fun hread => ⟨_, hread, rfl⟩) ?_
    intro _ _ _ _ _ hread hvalue
    cases hvalue
    exact hread
  exact (hmeans.decode_iff h).mpr ⟨value, hvalue, rfl⟩

theorem Tree.read?_cases {budget : Nat} {tree : Tree} {value : Json}
    (h : tree.read? budget = some value) :
    (∃ smaller trees values, budget = smaller + 1 ∧ tree = .array trees ∧ value = .array values ∧
      trees.mapM (Tree.read? smaller) = some values) ∨
    (∃ smaller members values, budget = smaller + 1 ∧ tree = .object members ∧
      value = .object values ∧ members.mapM (fun member =>
        (Tree.read? smaller member.2).map fun value => (member.1, value)) = some values) ∨
    ∃ found, tree.scalar? = some found ∧ value = found.toJson := by
  cases tree with
  | array trees =>
      cases budget with
      | zero => cases h
      | succ smaller =>
          obtain ⟨values, hvalues, rfl⟩ := Option.map_eq_some_iff.mp h
          exact .inl ⟨smaller, trees, values, rfl, rfl, rfl, hvalues⟩
  | object members =>
      cases budget with
      | zero => cases h
      | succ smaller =>
          obtain ⟨values, hvalues, rfl⟩ := Option.map_eq_some_iff.mp h
          exact .inr (.inl ⟨smaller, members, values, rfl, rfl, rfl, hvalues⟩)
  | number n =>
      rw [Tree.read?] at h
      obtain ⟨x, hx, rfl⟩ := Option.map_eq_some_iff.mp h
      exact .inr (.inr ⟨.number x, by rw [Tree.scalar?, hx, Option.map_some], rfl⟩)
  | null =>
      rw [Tree.read?] at h
      cases h
      exact .inr (.inr ⟨.null, rfl, rfl⟩)
  | bool b =>
      rw [Tree.read?] at h
      cases h
      exact .inr (.inr ⟨.bool b, rfl, rfl⟩)
  | string s =>
      rw [Tree.read?] at h
      cases h
      exact .inr (.inr ⟨.string s, rfl, rfl⟩)

namespace Decoder

/-- What is made of a tree is what is made of its value. -/
def Agrees (decoder : Decoder α) : Prop :=
  ∀ ⦃budget : Nat⦄ ⦃tree : Tree⦄ ⦃value : Json⦄, tree.read? budget = some value →
    ∀ a, decoder.Makes budget tree a ↔ decoder.ofJson value = .ok a

variable {decoder : Decoder α}

theorem Agrees.decode_iff (h : decoder.Agrees) (huniform : decoder.Uniform) {text : Bytes}
    {value : Json} (hparse : parse text = .ok value) (a : α) :
    decoder.decode text = .ok a ↔ decoder.ofJson value = .ok a := by
  obtain ⟨tree, hdocument, hvalue⟩ := parse_eq_ok hparse
  exact (Means.decode_iff huniform hdocument).trans (h hvalue a)

theorem Faithful.agrees (hfaithful : decoder.Faithful) (hcomplete : decoder.Complete) :
    decoder.Agrees := by
  intro budget tree value hvalue a
  rw [(Faithful.means hfaithful hcomplete).makes_iff]
  constructor
  · rintro ⟨found, hfound, ha⟩
    cases hvalue.symm.trans hfound
    exact ha
  · exact fun ha => ⟨value, hvalue, ha⟩

theorem Agrees.map (h : decoder.Agrees) (f : α → β) : (decoder.map f).Agrees := by
  intro budget tree value hvalue b
  rw [map_makes_iff]
  simp only [h hvalue]
  exact Outcome.map_eq_ok.symm

theorem Agrees.items (h : decoder.Agrees) {budget : Nat} {trees : List Tree} {values : List Json}
    (hvalues : trees.mapM (Tree.read? budget) = some values) (items : List α) :
    List.Forall₂ (decoder.Makes budget) trees items ↔
      values.mapM decoder.ofJson = .ok items := by
  induction trees generalizing values items with
  | nil =>
      cases hvalues
      simp [eq_comm]
  | cons tree trees ih =>
      obtain ⟨value, others, hvalue, hothers, rfl⟩ := mapM_cons_eq_some.mp hvalues
      rw [List.forall₂_cons_left_iff, List.mapM_cons, Outcome.bind_eq_ok]
      constructor
      · rintro ⟨item, items, hitem, hitems, rfl⟩
        refine ⟨item, (h hvalue item).mp hitem, ?_⟩
        rw [(ih hothers items).mp hitems]
        rfl
      · rintro ⟨item, hitem, hrest⟩
        obtain ⟨items, hitems, hsame⟩ := Outcome.bind_eq_ok.mp hrest
        exact ⟨item, items, (h hvalue item).mpr hitem, (ih hothers items).mpr hitems,
          (Except.ok.inj hsame).symm⟩

theorem Agrees.list (h : decoder.Agrees) (huniform : decoder.Uniform) :
    (Decoder.list decoder).Agrees := by
  intro budget tree value hvalue items
  rw [huniform.list.makes_iff]
  rcases tree.read?_cases hvalue with ⟨smaller, trees, values, rfl, rfl, rfl, hvalues⟩ |
    ⟨smaller, members, values, rfl, rfl, rfl, -⟩ | ⟨found, hfound, rfl⟩
  · have hitems := h.items hvalues items
    constructor
    · rintro ⟨_, _, hsame, hless, hmakes⟩
      cases hsame
      cases hless
      exact hitems.mp hmakes
    · exact fun hread => ⟨trees, smaller, rfl, rfl, hitems.mpr hread⟩
  · simp [Decoder.list]
  · constructor
    · rintro ⟨trees, _, rfl, -⟩
      cases hfound
    · intro hread
      cases found <;> cases hread

end Decoder

namespace Record

structure Agrees (record : Record σ α) : Prop where
  slot : ∀ state key decoder, record.slot state key = .taken decoder → decoder.Agrees
  columns : ∀ columns, record.columns = some columns →
    ∀ column ∈ columns, ∀ state, (column.decoder state).Agrees

variable {record : Record σ α} {budget : Nat}

theorem Agrees.takes_iff (h : record.Agrees) {tree : Tree} {value : Json}
    (hvalue : tree.read? budget = some value) (state next : σ) (key : String) :
    record.Takes View.tree budget state (key, tree) next ↔
      record.takeMember state (key, value) = .ok next := by
  unfold Takes takeMember
  dsimp only
  cases hslot : record.slot state key with
  | refused mismatch => simp
  | ignored => simp [eq_comm]
  | taken decoder => exact h.slot state key decoder hslot hvalue next

theorem Agrees.folds_iff (h : record.Agrees) {members : List (String × Tree)}
    {values : List (String × Json)}
    (hvalues : members.mapM (fun member =>
      (Tree.read? budget member.2).map fun value => (member.1, value)) = some values)
    (state last : σ) :
    record.Folds View.tree budget members state last ↔
      values.foldlM record.takeMember state = .ok last := by
  induction members generalizing values state with
  | nil =>
      cases hvalues
      simp [Folds, eq_comm]
  | cons member members ih =>
      obtain ⟨_, others, hmember, hothers, rfl⟩ := mapM_cons_eq_some.mp hvalues
      obtain ⟨value, hvalue, rfl⟩ := Option.map_eq_some_iff.mp hmember
      rw [Folds, List.foldlM_cons, Outcome.bind_eq_ok]
      exact exists_congr fun next =>
        and_congr (h.takes_iff hvalue state next member.1) (ih hothers next)

variable (record) in
theorem fills_iff {columns : List (Column σ)}
    (h : ∀ column ∈ columns, ∀ state, (column.decoder state).Agrees) {items : List Tree}
    {values : List Json} (hvalues : items.mapM (Tree.read? budget) = some values)
    (width index : Nat) (state last : σ) :
    Fills budget columns items state last ↔
      values.length ≤ columns.length ∧
        record.takeColumns width index columns values state = .ok last := by
  induction columns generalizing items values index state with
  | nil =>
      cases items with
      | nil =>
          cases hvalues
          simp [Fills, takeColumns, eq_comm]
      | cons item items =>
          obtain ⟨value, others, -, -, rfl⟩ := mapM_cons_eq_some.mp hvalues
          simp [Fills]
  | cons column columns ih =>
      have hcolumns := fun other hother => h other (List.mem_cons_of_mem column hother)
      cases items with
      | nil =>
          rw [List.mapM_nil] at hvalues
          cases hvalues
          have hrest := @ih hcolumns [] [] List.mapM_nil (index + 1) state
          rw [Fills, hrest, takeColumns]
          cases column.optional <;> simp
      | cons item items =>
          obtain ⟨value, others, hvalue, hothers, rfl⟩ := mapM_cons_eq_some.mp hvalues
          have hcolumn := h column List.mem_cons_self state hvalue
          rw [Fills, takeColumns, Outcome.bind_eq_ok]
          simp only [hcolumn, ih hcolumns hothers (index + 1), List.length_cons,
            Nat.add_le_add_iff_right]
          constructor
          · rintro ⟨next, hnext, hlength, hrest⟩
            exact ⟨hlength, next, hnext, hrest⟩
          · rintro ⟨hlength, next, hnext, hrest⟩
            exact ⟨next, hnext, hlength, hrest⟩

theorem takeRow_eq_ok {columns : List (Column σ)} {values : List Json} {a : α} :
    record.takeRow columns values = .ok a ↔
      ∃ last, (values.length ≤ columns.length ∧
        record.takeColumns columns.length 0 columns values record.start = .ok last) ∧
        record.finish last = .ok a := by
  unfold takeRow
  rw [Outcome.bind_eq_ok]
  refine exists_congr fun last => ?_
  rw [and_comm (a := values.length ≤ columns.length), and_assoc]
  refine and_congr_right fun _ => ?_
  rw [Outcome.bind_eq_ok]
  constructor
  · rintro ⟨result, hresult, h⟩
    split at h
    · cases h
    · rename_i hlength
      cases h
      exact ⟨Nat.not_lt.mp hlength, hresult⟩
  · rintro ⟨hlength, hresult⟩
    exact ⟨a, hresult, if_neg (Nat.not_lt.mpr hlength)⟩

theorem Agrees.decoder (h : record.Agrees) (huniform : record.Uniform) :
    record.decoder.Agrees := by
  intro budget tree value hvalue a
  rw [huniform.means.makes_iff]
  rcases tree.read?_cases hvalue with ⟨smaller, items, values, rfl, rfl, rfl, hvalues⟩ |
    ⟨smaller, members, values, rfl, rfl, rfl, hvalues⟩ | ⟨found, hfound, rfl⟩
  · simp only [Nat.add_right_cancel_iff, exists_eq_left', Lays, Record.decoder]
    cases hcolumns : record.columns with
    | none => simp
    | some columns =>
        have hfills := fills_iff record (h.columns columns hcolumns) hvalues columns.length 0
        simp only [Option.some.injEq, exists_eq_left', exists_and_left, takeRow_eq_ok, hfills]
  · simp only [Nat.add_right_cancel_iff, exists_eq_left', Lays, Sums, Record.decoder,
      Outcome.bind_eq_ok, h.folds_iff hvalues]
  · constructor
    · rintro ⟨smaller, -, hlays⟩
      cases tree with
      | array items => cases hfound
      | object members => cases hfound
      | null | bool b | number n | string s => exact hlays.elim
    · intro hread
      cases found <;> cases hread

theorem Layout.agrees {ι : Type} {layout : record.Layout ι}
    (hagrees : ∀ place, (layout.decoder place).Agrees) (hcovers : layout.Covers) :
    record.Agrees where
  slot state key taken hslot := by
    obtain ⟨place, rfl⟩ := layout.slot_taken hslot
    exact (hagrees place).map _
  columns columns hcolumns column hcolumn state := by
    obtain ⟨place, hplace⟩ := hcovers hcolumns column hcolumn
    rw [hplace]
    exact (hagrees place).map _

end Record

end ChainArchive.Json
