import ChainArchive.Proofs.Json.Carrying
import ChainArchive.Proofs.Json.Decoding
import ChainArchive.Proofs.Json.Layout

namespace ChainArchive.Json

/-! Members put in their places in another order. -/

theorem nameBefore_total {k l : String} (h : k ≠ l) :
    nameBefore k l = true ∧ ¬ nameBefore l k = true ∨
      nameBefore l k = true ∧ ¬ nameBefore k l = true := by
  by_cases hbefore : nameBefore k l = true
  · exact .inl ⟨hbefore, fun hback => nameBefore_irrefl k (nameBefore_trans hbefore hback)⟩
  · by_cases hafter : nameBefore l k = true
    · exact .inr ⟨hafter, hbefore⟩
    · exact absurd (eq_of_not_nameBefore hbefore hafter) h

theorem insertMember_again (key : String) (value value' : Json) (members : List (String × Json)) :
    insertMember key value' (insertMember key value members) =
      insertMember key value' members := by
  induction members with
  | nil => simp [insertMember, nameBefore_irrefl]
  | cons first rest ih =>
      by_cases hbefore : nameBefore key first.1 = true
      · simp [insertMember, hbefore, nameBefore_irrefl]
      · by_cases hafter : nameBefore first.1 key = true
        · simp [insertMember, hbefore, hafter, ih]
        · simp [insertMember, hbefore, hafter, nameBefore_irrefl]

theorem insertMember_comm {key other : String} (h : key ≠ other) (value value' : Json)
    (members : List (String × Json)) :
    insertMember key value (insertMember other value' members) =
      insertMember other value' (insertMember key value members) := by
  induction members with
  | nil =>
      rcases nameBefore_total h with ⟨hbefore, hback⟩ | ⟨hbefore, hback⟩ <;>
        simp [insertMember, hbefore, hback]
  | cons first rest ih =>
      grind [insertMember, nameBefore_trans, nameBefore_irrefl, eq_of_not_nameBefore]

theorem arrange_append (members : List (String × Json)) (member : String × Json) :
    arrange (members ++ [member]) = insertMember member.1 member.2 (arrange members) := by
  rw [arrange, List.foldl_append]
  rfl

def Once (names : List String) (value : Json) : Prop :=
  ∀ members, value = .object members → ∀ name ∈ names, (members.map Prod.fst).count name ≤ 1

namespace Decoder

/-! Decoders that make the same of a value when it is arranged. -/

def Steady (decoder : Decoder α) : Prop :=
  ∀ value a, decoder.ofJson value.normal = .ok a ↔ decoder.ofJson value = .ok a

variable {decoder : Decoder α}

theorem scalar_steady (opens : Bool) (expected : String) (accept : Scalar → Except Mismatch α) :
    (scalar opens expected accept).Steady := by
  intro value a
  cases value with
  | array items | object members => simp [scalar, normal, Scalar.ofJson?]
  | _ => rfl

theorem Steady.map (h : decoder.Steady) (f : α → β) : (decoder.map f).Steady := by
  intro value b
  simp only [Decoder.map, Outcome.map_eq_ok, h value]

theorem Steady.option (h : decoder.Steady) : (Decoder.option decoder).Steady := by
  intro value found
  cases value with
  | array items => exact h.map some (.array items) found
  | object members => exact h.map some (.object members) found
  | _ => rfl

theorem Steady.items (h : decoder.Steady) (items : List Json) (made : List α) :
    (items.map normal).mapM decoder.ofJson = .ok made ↔ items.mapM decoder.ofJson = .ok made := by
  induction items generalizing made with
  | nil => rfl
  | cons item items ih =>
      simp only [List.map_cons, List.mapM_cons, Outcome.bind_eq_ok, h item, ih]

theorem Steady.list (h : decoder.Steady) : (Decoder.list decoder).Steady := by
  intro value made
  cases value with
  | array items =>
      rw [normal, normalItems_eq_map]
      exact h.items items made
  | object members => simp [normal, Decoder.list]
  | _ => rfl

end Decoder

namespace Record

/-! Records that are left with the same whatever the order of their members. -/

/-- Members of different names may be exchanged, and of those that are none of these names the
last alone counts. -/
structure Orderless (record : Record σ α) (names : List String) : Prop where
  steady : ∀ state key value next, record.takeMember state (key, normal value) = .ok next ↔
    record.takeMember state (key, value) = .ok next
  swap : ∀ ⦃state middle last : σ⦄ ⦃member other : String × Json⦄, member.1 ≠ other.1 →
    record.takeMember state member = .ok middle → record.takeMember middle other = .ok last →
      ∃ middle', record.takeMember state other = .ok middle' ∧
        record.takeMember middle' member = .ok last
  again : ∀ state key value value' last, key ∉ names →
    ((∃ middle, record.takeMember state (key, value) = .ok middle ∧
      record.takeMember middle (key, value') = .ok last) ↔
      record.takeMember state (key, value') = .ok last)
  columns : ∀ columns, record.columns = some columns →
    ∀ column ∈ columns, ∀ state, (column.decoder state).Steady

variable {record : Record σ α} {names : List String}

theorem Orderless.foldlM_last (h : record.Orderless names) {member : String × Json}
    {rest : List (String × Json)} (hrest : ∀ other ∈ rest, member.1 ≠ other.1) (state last : σ) :
    (member :: rest).foldlM record.takeMember state = .ok last ↔
      (rest ++ [member]).foldlM record.takeMember state = .ok last := by
  induction rest generalizing state with
  | nil => rfl
  | cons other rest ih =>
      obtain ⟨hother, hrest⟩ := List.forall_mem_cons.mp hrest
      simp only [List.cons_append, List.foldlM_cons, Outcome.bind_eq_ok] at ih ⊢
      simp only [← ih hrest]
      constructor
      · rintro ⟨middle, hfirst, next, hthen, hlast⟩
        obtain ⟨middle', hfirst', hthen'⟩ := h.swap hother hfirst hthen
        exact ⟨middle', hfirst', next, hthen', hlast⟩
      · rintro ⟨middle, hfirst, next, hthen, hlast⟩
        obtain ⟨middle', hfirst', hthen'⟩ := h.swap (Ne.symm hother) hfirst hthen
        exact ⟨middle', hfirst', next, hthen', hlast⟩

theorem Orderless.foldlM_insertMember (h : record.Orderless names)
    {kept : List (String × Json)} (hkept : Ascending kept) {key : String}
    (hkey : key ∈ names → key ∉ kept.map Prod.fst) (value : Json) (state last : σ) :
    (insertMember key value kept).foldlM record.takeMember state = .ok last ↔
      (kept ++ [(key, value)]).foldlM record.takeMember state = .ok last := by
  induction kept generalizing state with
  | nil => rfl
  | cons first rest ih =>
      obtain ⟨hfirst, hrest⟩ := List.pairwise_cons.mp hkept
      have hne : ∀ {other : String}, nameBefore key other = true → key ≠ other := by
        rintro other hbefore rfl
        exact nameBefore_irrefl key hbefore
      rw [insertMember]
      split
      · rename_i hbefore
        refine h.foldlM_last (List.forall_mem_cons.mpr ⟨hne hbefore, ?_⟩) state last
        exact fun other hother => hne (nameBefore_trans hbefore (hfirst other hother))
      rename_i hnot
      split
      · have hlater : key ∈ names → key ∉ rest.map Prod.fst := fun hname hmem =>
          hkey hname (List.mem_cons_of_mem _ hmem)
        simp only [List.cons_append, List.foldlM_cons, Outcome.bind_eq_ok, ih hrest hlater]
      · -- The member of the same name that it takes the place of does not count.
        rename_i hnotAfter
        obtain rfl : key = first.1 := eq_of_not_nameBefore hnot hnotAfter
        have huntyped : first.1 ∉ names := fun hname => hkey hname List.mem_cons_self
        have hothers : ∀ other ∈ rest, first.1 ≠ other.1 := fun other hother =>
          hne (hfirst other hother)
        simp only [List.cons_append, List.foldlM_cons, Outcome.bind_eq_ok,
          ← @foldlM_last _ _ record names h (first.1, value) rest hothers]
        simp only [← h.again state first.1 first.2 value _ huntyped]
        constructor
        · rintro ⟨next, ⟨middle, hfirst, hagain⟩, hlast⟩
          exact ⟨middle, hfirst, next, hagain, hlast⟩
        · rintro ⟨middle, hfirst, next, hagain, hlast⟩
          exact ⟨next, ⟨middle, hfirst, hagain⟩, hlast⟩

theorem Orderless.foldlM_arrange (h : record.Orderless names) {members : List (String × Json)}
    (honce : ∀ name ∈ names, (members.map Prod.fst).count name ≤ 1) (state last : σ) :
    (arrange members).foldlM record.takeMember state = .ok last ↔
      members.foldlM record.takeMember state = .ok last := by
  induction members using List.reverseRecOn generalizing last with
  | nil => rfl
  | append_singleton members member ih =>
      have hbefore : ∀ name ∈ names, (members.map Prod.fst).count name ≤ 1 := by
        intro name hname
        have hcount := honce name hname
        rw [List.map_append, List.count_append] at hcount
        omega
      have hfresh : member.1 ∈ names → member.1 ∉ (arrange members).map Prod.fst := by
        intro hname hmem
        obtain ⟨other, hother, heq⟩ := List.mem_map.mp hmem
        have hcount := honce member.1 hname
        have hpos : 0 < (members.map Prod.fst).count member.1 :=
          List.count_pos_iff.mpr (heq ▸ List.mem_map_of_mem (mem_arrange hother))
        rw [List.map_append, List.count_append, List.map_singleton, List.count_singleton_self]
          at hcount
        omega
      rw [arrange_append, h.foldlM_insertMember (arrange_ascending members) hfresh,
        Outcome.foldlM_snoc_eq_ok, Outcome.foldlM_snoc_eq_ok]
      simp only [ih hbefore]

theorem Orderless.foldlM_normal (h : record.Orderless names) (members : List (String × Json))
    (state last : σ) :
    (normalMembers members).foldlM record.takeMember state = .ok last ↔
      members.foldlM record.takeMember state = .ok last := by
  induction members generalizing state with
  | nil => rfl
  | cons member members ih =>
      obtain ⟨key, value⟩ := member
      simp only [normalMembers, List.foldlM_cons, Outcome.bind_eq_ok, h.steady, ih]

theorem takeColumns_normal {columns : List (Column σ)}
    (h : ∀ column ∈ columns, ∀ state, (column.decoder state).Steady) (width index : Nat)
    (items : List Json) (state last : σ) :
    record.takeColumns width index columns (items.map normal) state = .ok last ↔
      record.takeColumns width index columns items state = .ok last := by
  induction columns generalizing index items state with
  | nil => rfl
  | cons column columns ih =>
      have hcolumns := fun other hother => h other (List.mem_cons_of_mem column hother)
      cases items with
      | nil => rfl
      | cons item items =>
          simp only [List.map_cons, takeColumns, Outcome.bind_eq_ok,
            h column List.mem_cons_self state item, ih hcolumns]

theorem takeRow_normal {columns : List (Column σ)}
    (h : ∀ column ∈ columns, ∀ state, (column.decoder state).Steady) (items : List Json) (a : α) :
    record.takeRow columns (items.map normal) = .ok a ↔ record.takeRow columns items = .ok a := by
  simp only [takeRow, List.length_map, Outcome.bind_eq_ok, takeColumns_normal h]

/-- A value is taken as it is when it is arranged, if no member that the record knows is given
twice. -/
theorem Orderless.decoder_normal (h : record.Orderless names) {value : Json}
    (honce : value.Once names) (a : α) :
    record.decoder.ofJson value.normal = .ok a ↔ record.decoder.ofJson value = .ok a := by
  cases value with
  | array items =>
      rw [normal, normalItems_eq_map]
      simp only [Record.decoder]
      cases hcolumns : record.columns with
      | none => rfl
      | some columns => exact takeRow_normal (h.columns columns hcolumns) items a
  | object members =>
      have hnames : (normalMembers members).map Prod.fst = members.map Prod.fst := by
        rw [normalMembers_eq_map, List.map_map]
        rfl
      have harranged := @foldlM_arrange _ _ record names h (normalMembers members)
        (hnames ▸ honce members rfl) record.start
      simp only [normal, Record.decoder, Outcome.bind_eq_ok, harranged, h.foldlM_normal]
  | _ => rfl

structure Places (record : Record σ α) (ι : Type) where
  name : ι → String
  Value : ι → Type
  decoder : (place : ι) → Decoder (Value place)
  given : (place : ι) → σ → Option (Value place)
  put : (place : ι) → σ → Value place → σ
  leave : σ → String → Json → σ
  take_name : ∀ ⦃state next : σ⦄ ⦃place : ι⦄ ⦃value : Json⦄,
    record.takeMember state (name place, value) = .ok next ↔
      given place state = none ∧ ∃ a, (decoder place).ofJson value = .ok a ∧
        put place state a = next
  take_other : ∀ state ⦃key : String⦄, (∀ place, name place ≠ key) → ∀ value,
    record.takeMember state (key, value) = .ok (leave state key value)
  given_put_of_ne : ∀ ⦃place other⦄, other ≠ place → ∀ state a,
    given other (put place state a) = given other state
  given_leave : ∀ place state key value, given place (leave state key value) = given place state
  put_comm : ∀ ⦃place other⦄, other ≠ place → ∀ state a b,
    put other (put place state a) b = put place (put other state b) a
  put_leave : ∀ place state key value a,
    put place (leave state key value) a = leave (put place state a) key value
  leave_comm : ∀ ⦃key other : String⦄, key ≠ other → ∀ state value value',
    leave (leave state key value) other value' = leave (leave state other value') key value
  leave_again : ∀ state key value value',
    leave (leave state key value) key value' = leave state key value'
  leave_normal : ∀ state key value, leave state key (normal value) = leave state key value

variable {ι : Type}

theorem Places.swap (places : record.Places ι) {state middle last : σ}
    {member other : String × Json} (hne : member.1 ≠ other.1)
    (hfirst : record.takeMember state member = .ok middle)
    (hthen : record.takeMember middle other = .ok last) :
    ∃ middle', record.takeMember state other = .ok middle' ∧
      record.takeMember middle' member = .ok last := by
  obtain ⟨key, value⟩ := member
  obtain ⟨key', value'⟩ := other
  -- either member has a place or has none
  by_cases hkey : ∃ place, places.name place = key <;>
    by_cases hkey' : ∃ place, places.name place = key'
  · obtain ⟨place, rfl⟩ := hkey
    obtain ⟨place', rfl⟩ := hkey'
    have hother : place' ≠ place := fun heq => hne (congrArg places.name heq.symm)
    obtain ⟨hnone, a, ha, rfl⟩ := places.take_name.mp hfirst
    obtain ⟨hnone', b, hb, rfl⟩ := places.take_name.mp hthen
    rw [places.given_put_of_ne hother] at hnone'
    refine ⟨_, places.take_name.mpr ⟨hnone', b, hb, rfl⟩, places.take_name.mpr
      ⟨?_, a, ha, (places.put_comm hother state a b).symm⟩⟩
    rw [places.given_put_of_ne hother.symm, hnone]
  · obtain ⟨place, rfl⟩ := hkey
    obtain ⟨hnone, a, ha, rfl⟩ := places.take_name.mp hfirst
    have hleave := fun state => places.take_other state (not_exists.mp hkey') value'
    obtain rfl := Except.ok.inj ((hleave _).symm.trans hthen)
    refine ⟨_, hleave state, places.take_name.mpr ⟨?_, a, ha, places.put_leave ..⟩⟩
    rw [places.given_leave, hnone]
  · obtain ⟨place', rfl⟩ := hkey'
    have hleave := fun state => places.take_other state (not_exists.mp hkey) value
    obtain rfl := Except.ok.inj ((hleave _).symm.trans hfirst)
    obtain ⟨hnone', b, hb, rfl⟩ := places.take_name.mp hthen
    rw [places.given_leave] at hnone'
    refine ⟨_, places.take_name.mpr ⟨hnone', b, hb, rfl⟩, ?_⟩
    rw [hleave, places.put_leave]
  · have hleave := fun state => places.take_other state (not_exists.mp hkey) value
    have hleave' := fun state => places.take_other state (not_exists.mp hkey') value'
    obtain rfl := Except.ok.inj ((hleave _).symm.trans hfirst)
    obtain rfl := Except.ok.inj ((hleave' _).symm.trans hthen)
    refine ⟨_, hleave' state, ?_⟩
    rw [hleave, places.leave_comm hne]

theorem Places.orderless (places : record.Places ι) (hnames : ∀ place, places.name place ∈ names)
    (hsteady : ∀ place, (places.decoder place).Steady)
    (hcolumns : ∀ columns, record.columns = some columns →
      ∀ column ∈ columns, ∀ state, (column.decoder state).Steady) : record.Orderless names where
  steady state key value next := by
    by_cases hkey : ∃ place, places.name place = key
    · obtain ⟨place, rfl⟩ := hkey
      simp only [places.take_name, hsteady place value]
    · simp only [places.take_other state (not_exists.mp hkey), places.leave_normal]
  swap _ _ _ _ _ := places.swap
  again state key value value' last hkey := by
    have hleave := fun state => @places.take_other state key fun place heq =>
      hkey (heq ▸ hnames place)
    simp only [hleave, Except.ok.injEq, exists_eq_left', places.leave_again]
  columns := hcolumns

def Layout.places (layout : record.Layout ι) : record.Places ι where
  name := layout.name
  Value := layout.Value
  decoder := layout.decoder
  given := layout.given
  put := layout.put
  leave state _ _ := state
  take_name state next place value := by
    unfold takeMember
    rw [layout.slot_name]
    cases layout.given place state <;> simp [Slot.once, Decoder.map, Outcome.map_eq_ok]
  take_other state key hkey value := by
    unfold takeMember
    rw [layout.slot_other state key hkey]
  given_put_of_ne place other hne state a := layout.given_put_of_ne place other state a hne
  given_leave _ _ _ _ := rfl
  put_comm place other hne state a b := by
    refine layout.ext _ _ fun third => ?_
    by_cases hplace : third = place
    · subst hplace
      rw [layout.given_put_of_ne _ _ _ _ hne.symm, layout.given_put, layout.given_put]
    by_cases hother : third = other
    · subst hother
      rw [layout.given_put, layout.given_put_of_ne _ _ _ _ hne, layout.given_put]
    · rw [layout.given_put_of_ne _ _ _ _ hother, layout.given_put_of_ne _ _ _ _ hplace,
        layout.given_put_of_ne _ _ _ _ hplace, layout.given_put_of_ne _ _ _ _ hother]
  put_leave _ _ _ _ _ := rfl
  leave_comm _ _ _ _ _ _ := rfl
  leave_again _ _ _ _ := rfl
  leave_normal _ _ _ := rfl

theorem Layout.orderless (layout : record.Layout ι) (hnames : ∀ place, layout.name place ∈ names)
    (hsteady : ∀ place, (layout.decoder place).Steady) (hcovers : layout.Covers) :
    record.Orderless names :=
  layout.places.orderless hnames hsteady fun columns hcolumns column hcolumn state => by
    obtain ⟨place, hplace⟩ := hcovers hcolumns column hcolumn
    rw [hplace]
    exact (hsteady place).map _

end Record

end ChainArchive.Json
