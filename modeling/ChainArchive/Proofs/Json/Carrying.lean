import ChainArchive.Proofs.Json.Written
import Mathlib.Data.List.Induction

namespace ChainArchive.Json

/-! Members by name. -/

def last? (members : List (String × α)) (name : String) : Option α :=
  members.reverse.lookup name

theorem lookup_cons_eq (member : String × α) (rest : List (String × α)) (name : String) :
    (member :: rest).lookup name =
      if name = member.1 then some member.2 else rest.lookup name := by
  rw [List.lookup_cons]
  by_cases hname : name = member.1
  · simp [hname]
  · have hne : (name == member.1) = false := beq_false_of_ne hname
    rw [hne, if_neg hname]

theorem lookup_eq_none {members : List (String × α)} {name : String}
    (h : name ∉ members.map Prod.fst) : members.lookup name = none := by
  rw [List.lookup_eq_none_iff]
  intro member hmember
  rw [bne_iff_ne]
  rintro rfl
  exact h (List.mem_map_of_mem hmember)

theorem lookup_eq_of_perm {members others : List (String × β)} (h : members.Perm others)
    {name : String} (honce : (members.map Prod.fst).count name ≤ 1) :
    members.lookup name = others.lookup name := by
  induction h with
  | nil => rfl
  | cons member _ ih =>
      rw [lookup_cons_eq, lookup_cons_eq]
      split
      · rfl
      · apply ih
        exact Nat.le_trans List.count_le_count_cons honce
  | swap first second rest =>
      simp only [lookup_cons_eq]
      split
      · rename_i hsecond
        split
        · rename_i hfirst
          -- both members have the name, which is once too often
          subst hsecond
          simp [hfirst] at honce
        · rfl
      · rfl
  | trans hfirst _ ih ih' =>
      rw [ih honce]
      apply ih'
      rwa [← (hfirst.map Prod.fst).count_eq]

theorem lookup_of_sublist {parts members : List (String × β)} (h : parts.Sublist members)
    (hnodup : (members.map Prod.fst).Nodup) {name : String} (hmem : name ∈ parts.map Prod.fst) :
    parts.lookup name = members.lookup name := by
  induction h with
  | slnil => rfl
  | @cons parts members member h ih =>
      obtain ⟨hfresh, hnodup⟩ := List.nodup_cons.mp hnodup
      have hne : name ≠ member.1 := by
        rintro rfl
        exact hfresh ((h.map Prod.fst).subset hmem)
      rw [lookup_cons_eq, if_neg hne, ih hnodup hmem]
  | @cons_cons parts members member h ih =>
      obtain ⟨-, hnodup⟩ := List.nodup_cons.mp hnodup
      rw [lookup_cons_eq, lookup_cons_eq]
      split
      · rfl
      · rename_i hne
        obtain rfl | hmem := List.mem_cons.mp hmem
        · exact absurd rfl hne
        · exact ih hnodup hmem

theorem last?_append_singleton (members : List (String × α)) (member : String × α)
    (name : String) :
    last? (members ++ [member]) name =
      if name = member.1 then some member.2 else last? members name := by
  rw [last?, List.reverse_append, List.reverse_singleton, List.singleton_append,
    lookup_cons_eq, last?]

theorem lookup_map_value (f : α → β) (members : List (String × α)) (name : String) :
    (members.map fun member => (member.1, f member.2)).lookup name =
      (members.lookup name).map f := by
  induction members with
  | nil => rfl
  | cons member rest ih =>
      rw [List.map_cons, lookup_cons_eq, lookup_cons_eq, ih]
      split <;> rfl

theorem last?_map_value (f : α → β) (members : List (String × α)) (name : String) :
    last? (members.map fun member => (member.1, f member.2)) name =
      (last? members name).map f := by
  rw [last?, ← List.map_reverse, lookup_map_value, last?]

theorem lookup_insertMember (key : String) (value : Json) (members : List (String × Json))
    (name : String) :
    (insertMember key value members).lookup name =
      if name = key then some value else members.lookup name := by
  induction members with
  | nil => rw [insertMember, lookup_cons_eq]
  | cons first rest ih =>
      simp only [insertMember]
      split
      · rw [lookup_cons_eq]
      · split
        · rename_i hbefore
          rw [lookup_cons_eq, ih, lookup_cons_eq]
          by_cases hfirst : name = first.1
          · have hne : name ≠ key := by
              rintro rfl
              exact nameBefore_irrefl first.1 (hfirst ▸ hbefore)
            rw [if_pos hfirst, if_neg hne, if_pos hfirst]
          · rw [if_neg hfirst, if_neg hfirst]
        · rename_i hnot hnotAfter
          have heq : key = first.1 := eq_of_not_nameBefore hnot hnotAfter
          rw [lookup_cons_eq, lookup_cons_eq, ← heq]
          split <;> rfl

theorem lookup_arrange (members : List (String × Json)) (name : String) :
    (arrange members).lookup name = last? members name := by
  induction members using List.reverseRecOn with
  | nil => rfl
  | append_singleton members member ih =>
      have hstep : arrange (members ++ [member]) =
          insertMember member.1 member.2 (arrange members) := by
        simp [arrange, List.foldl_append]
      rw [hstep, lookup_insertMember, ih, last?_append_singleton]

theorem Ascending.nodup {members : List (String × Json)} (h : Ascending members) :
    (members.map Prod.fst).Nodup := by
  refine List.pairwise_map.mpr (List.Pairwise.imp ?_ h)
  intro member later hbefore heq
  exact nameBefore_irrefl later.1 (heq ▸ hbefore)

/-! What an optional reader makes of a list. -/

theorem mapM_cons_eq_some {f : α → Option β} {item : α} {rest : List α} {values : List β} :
    (item :: rest).mapM f = some values ↔
      ∃ value others, f item = some value ∧ rest.mapM f = some others ∧
        values = value :: others := by
  simp only [List.mapM_cons, Option.bind_eq_bind, Option.bind_eq_some_iff, Option.pure_def,
    Option.some.injEq, @eq_comm _ _ values, exists_and_left]

theorem map_of_mapM {f : α → Option β} {items : List α} {values : List β}
    (h : items.mapM f = some values) : items.map f = values.map some := by
  induction items generalizing values with
  | nil =>
      cases h
      rfl
  | cons item rest ih =>
      obtain ⟨value, others, hvalue, hothers, rfl⟩ := mapM_cons_eq_some.mp h
      rw [List.map_cons, List.map_cons, hvalue, ih hothers]

theorem lookup_of_map {f : α → Option β} {members : List (String × α)}
    {values : List (String × β)}
    (h : (members.map fun member => (f member.2).map fun value => (member.1, value)) =
      values.map some) (name : String) :
    (members.lookup name).map f = (values.lookup name).map some := by
  induction members generalizing values with
  | nil =>
      rw [List.map_eq_nil_iff.mp h.symm]
      rfl
  | cons member rest ih =>
      cases values with
      | nil => cases h
      | cons value values =>
          rw [List.map_cons, List.map_cons] at h
          obtain ⟨hfirst, hrest⟩ := List.cons.inj h
          obtain ⟨found, hfound, rfl⟩ := Option.map_eq_some_iff.mp hfirst
          rw [lookup_cons_eq, lookup_cons_eq]
          by_cases hname : name = member.1
          · rw [if_pos hname, if_pos hname]
            exact congrArg some hfound
          · rw [if_neg hname, if_neg hname]
            exact ih hrest

theorem last?_of_mapM {f : α → Option β} {members : List (String × α)}
    {values : List (String × β)}
    (h : members.mapM (fun member => (f member.2).map fun value => (member.1, value)) =
      some values) (name : String) :
    (last? members name).map f = (last? values name).map some := by
  refine lookup_of_map ?_ name
  rw [List.map_reverse, List.map_reverse, map_of_mapM h]

/-! Trees carried into others. -/

/-- The numeral is an integer that a word can hold. A negative zero is none. -/
def Numeral.Fits (n : Numeral) (z : Int) : Prop :=
  n.integer? = some z ∧ -9223372036854775808 ≤ z ∧ z < 18446744073709551616 ∧
    (n.negative = true → z ≠ 0)

/-- The second tree is the first one but for the order of members, for members that others of
the same name come after, and for numbers: the integers that a word holds stay what they are,
and no other number becomes an integer. -/
inductive Carried : Tree → Tree → Prop where
  | null : Carried .null .null
  | bool (b : Bool) : Carried (.bool b) (.bool b)
  | number {n n' : Numeral} (integers : ∀ z, n'.integer? = some z ↔ n.Fits z) :
      Carried (.number n) (.number n')
  | string (s : String) : Carried (.string s) (.string s)
  | array {items items' : List Tree} (length : items.length = items'.length)
      (values : ∀ (i : Nat) tree tree', items[i]? = some tree → items'[i]? = some tree' →
        Carried tree tree') :
      Carried (.array items) (.array items')
  | object {members members' : List (String × Tree)} (once : (members'.map Prod.fst).Nodup)
      (names : ∀ name, (last? members name).isSome = (members'.lookup name).isSome)
      (values : ∀ name tree tree', last? members name = some tree →
        members'.lookup name = some tree' → Carried tree tree') :
      Carried (.object members) (.object members')

theorem Numeral.Fits.number?_eq {n : Numeral} {z : Int} (h : n.Fits z) :
    ∃ word : Integer, n.number? = some (.integer word) ∧ word.value = z := by
  obtain ⟨hinteger, hlow, hhigh, hzero⟩ := h
  unfold Numeral.integer? at hinteger
  split at hinteger
  · rename_i hplaces
    cases hnegative : n.negative with
    | false =>
        simp only [hnegative, Bool.false_eq_true, if_false, Option.some.injEq] at hinteger
        have hsmall : continued 0 n.whole < wordSize := by
          unfold wordSize
          omega
        refine ⟨.ofNat _ hsmall, ?_, hinteger⟩
        rw [Numeral.number?_whole hplaces hsmall, hnegative, wholeNumber_natural hsmall]
    | true =>
        simp only [hnegative, if_true, Option.some.injEq] at hinteger
        have hne := hzero hnegative
        have hsmall : continued 0 n.whole < wordSize := by
          unfold wordSize
          omega
        have hword : (⟨z, hlow, hhigh⟩ : Integer).value < 0 := by
          change z < 0
          omega
        have hwhole : continued 0 n.whole = (-z).toNat := by omega
        refine ⟨⟨z, hlow, hhigh⟩, ?_, rfl⟩
        rw [Numeral.number?_whole hplaces hsmall, hnegative, hwhole, wholeNumber_negative hword]
  · cases hinteger

theorem Numeral.fits_of_number? {n : Numeral} {word : Integer}
    (h : n.number? = some (.integer word)) : n.Fits word.value := by
  obtain ⟨hplaces, hwhole⟩ := Numeral.whole_of_number? h
  obtain ⟨hvalue, hzero⟩ := wholeNumber_eq_integer hwhole
  refine ⟨by rw [Numeral.integer?, if_pos hplaces, hvalue], word.low, word.high, ?_⟩
  intro hnegative
  have hne := hzero hnegative
  rw [hvalue, if_pos hnegative]
  omega

theorem Numeral.fits_iff {n : Numeral} {x : Number} (h : n.number? = some x) (z : Int) :
    n.Fits z ↔ ∃ word : Integer, x = .integer word ∧ word.value = z := by
  constructor
  · intro hfits
    obtain ⟨word, hword, hvalue⟩ := hfits.number?_eq
    exact ⟨word, Option.some.inj (h.symm.trans hword), hvalue⟩
  · rintro ⟨word, rfl, rfl⟩
    exact Numeral.fits_of_number? h

theorem Tree.carried : ∀ {budget : Nat} {tree : Tree} {value : Json},
    tree.read? budget = some value → Carried tree value.normal.tree
  | _, .null, _, h => by
      rw [Tree.read?] at h
      cases h
      exact .null
  | _, .bool b, _, h => by
      rw [Tree.read?] at h
      cases h
      exact .bool b
  | _, .number n, _, h => by
      rw [Tree.read?] at h
      obtain ⟨x, hx, rfl⟩ := Option.map_eq_some_iff.mp h
      exact .number fun z => (x.numeral_integer z).trans (Numeral.fits_iff hx z).symm
  | _, .string s, _, h => by
      rw [Tree.read?] at h
      cases h
      exact .string s
  | 0, .array _, _, h => by cases h
  | 0, .object _, _, h => by cases h
  | budget + 1, .array items, _, h => by
      obtain ⟨values, hvalues, rfl⟩ := Option.map_eq_some_iff.mp h
      have hmap := map_of_mapM hvalues
      rw [normal, normalItems_eq_map, Json.tree, treeItems_eq_map, List.map_map]
      refine .array (by simpa using congrArg List.length hmap) fun i tree tree' hi hi' => ?_
      obtain ⟨value, hvalue, rfl⟩ := Option.map_eq_some_iff.mp (List.getElem?_map ▸ hi')
      have hread := congrArg (·[i]?) hmap
      simp only [List.getElem?_map, hi, hvalue, Option.map_some, Option.some.injEq] at hread
      exact Tree.carried hread
  | budget + 1, .object members, _, h => by
      obtain ⟨values, hvalues, rfl⟩ := Option.map_eq_some_iff.mp h
      have hlast := last?_of_mapM hvalues
      have hlookup : ∀ name,
          ((arrange (normalMembers values)).map fun member => (member.1, member.2.tree)).lookup
            name = (last? values name).map fun value => value.normal.tree := by
        intro name
        rw [lookup_map_value, lookup_arrange, normalMembers_eq_map, last?_map_value,
          Option.map_map]
        rfl
      rw [normal, Json.tree, treeMembers_eq_map]
      refine .object ?_ (fun name => ?_) fun name tree tree' htree htree' => ?_
      · rw [List.map_map]
        exact (arrange_ascending _).nodup
      · rw [hlookup, Option.isSome_map]
        simpa using congrArg Option.isSome (hlast name)
      · rw [hlookup] at htree'
        obtain ⟨value, hvalue, rfl⟩ := Option.map_eq_some_iff.mp htree'
        have hread := hlast name
        simp only [htree, hvalue, Option.map_some, Option.some.injEq] at hread
        exact Tree.carried hread

end ChainArchive.Json
