import ChainArchive.Proofs.Json.Carrying
import Mathlib.Data.List.Nodup

namespace ChainArchive.Json

/-! Members of different names, looked up. -/

theorem lookup_eq_some_iff_mem {members : List (String × α)}
    (h : (members.map Prod.fst).Nodup) {name : String} {a : α} :
    members.lookup name = some a ↔ (name, a) ∈ members := by
  induction members with
  | nil => simp
  | cons member rest ih =>
      obtain ⟨hfresh, hrest⟩ := List.nodup_cons.mp h
      rw [lookup_cons_eq, List.mem_cons]
      by_cases hname : name = member.1
      · subst hname
        have hlater : (member.1, a) ∉ rest := fun hmem =>
          hfresh (List.mem_map.mpr ⟨(member.1, a), hmem, rfl⟩)
        simp [Prod.ext_iff, hlater, eq_comm]
      · simp [Prod.ext_iff, hname, ih hrest]

theorem lookup_eq_none_iff_mem {members : List (String × α)} {name : String} :
    members.lookup name = none ↔ ∀ a, (name, a) ∉ members := by
  rw [List.lookup_eq_none_iff]
  constructor
  · intro h a hmem
    simpa using h (name, a) hmem
  · rintro h ⟨key, a⟩ hmem
    rw [bne_iff_ne]
    rintro rfl
    exact h a hmem

theorem last?_eq_lookup {members : List (String × α)} (h : (members.map Prod.fst).Nodup)
    (name : String) : last? members name = members.lookup name := by
  have hreverse : (members.reverse.map Prod.fst).Nodup := by
    rw [List.map_reverse, List.nodup_reverse]
    exact h
  refine Option.ext fun a => ?_
  rw [last?, lookup_eq_some_iff_mem hreverse, lookup_eq_some_iff_mem h, List.mem_reverse]

theorem Ascending.ext {members others : List (String × Json)} (h : Ascending members)
    (hothers : Ascending others) (hlookup : ∀ name, members.lookup name = others.lookup name) :
    members = others := by
  have hperm : members.Perm others := by
    refine (List.perm_ext_iff_of_nodup (.of_map _ h.nodup) (.of_map _ hothers.nodup)).mpr ?_
    rintro ⟨name, value⟩
    rw [← lookup_eq_some_iff_mem h.nodup, hlookup, lookup_eq_some_iff_mem hothers.nodup]
  refine hperm.eq_of_pairwise ?_ h hothers
  intro member other _ _ hbefore hafter
  exact absurd (nameBefore_trans hbefore hafter) (nameBefore_irrefl member.1)

/-! Optional readers of all parts. -/

theorem exists_mapM {f : α → Option β} {items : List α}
    (h : ∀ item ∈ items, ∃ value, f item = some value) : ∃ values, items.mapM f = some values := by
  induction items with
  | nil => exact ⟨[], rfl⟩
  | cons item rest ih =>
      obtain ⟨value, hvalue⟩ := h item (by simp)
      obtain ⟨values, hvalues⟩ := ih fun other hother => h other (by simp [hother])
      exact ⟨value :: values, by simp [hvalue, hvalues]⟩

theorem mapM_alike {f : α → Option β} (g : β → γ) {items items' : List α} {values : List β}
    (hlength : items.length = items'.length)
    (halike : ∀ (i : Nat) item item', items[i]? = some item → items'[i]? = some item' →
      ∀ value, f item = some value → ∃ value', f item' = some value' ∧ g value' = g value)
    (h : items.mapM f = some values) :
    ∃ values', items'.mapM f = some values' ∧ values'.map g = values.map g := by
  induction items generalizing items' values with
  | nil =>
      cases h
      rw [List.eq_nil_of_length_eq_zero hlength.symm]
      exact ⟨[], rfl, rfl⟩
  | cons item rest ih =>
      obtain ⟨value, others, hvalue, hothers, rfl⟩ := mapM_cons_eq_some.mp h
      cases items' with
      | nil => cases hlength
      | cons item' rest' =>
          obtain ⟨value', hvalue', hsame⟩ := halike 0 item item' rfl rfl value hvalue
          obtain ⟨others', hothers', hrest⟩ :=
            ih (Nat.succ.inj hlength) (fun i => halike (i + 1)) hothers
          refine ⟨value' :: others', mapM_cons_eq_some.mpr ⟨_, _, hvalue', hothers', rfl⟩, ?_⟩
          rw [List.map_cons, List.map_cons, hsame, hrest]

/-! Optional readers of members. -/

section Members

variable {f : α → Option β} {members : List (String × α)} {values : List (String × β)}
  (h : members.mapM (fun member => (f member.2).map fun value => (member.1, value)) = some values)

include h

theorem names_of_mapM : values.map Prod.fst = members.map Prod.fst := by
  induction members generalizing values with
  | nil =>
      cases h
      rfl
  | cons member rest ih =>
      obtain ⟨_, others, hmember, hothers, rfl⟩ := mapM_cons_eq_some.mp h
      obtain ⟨value, -, rfl⟩ := Option.map_eq_some_iff.mp hmember
      rw [List.map_cons, List.map_cons, ih hothers]

theorem mem_of_mapM {name : String} {value : β} :
    (name, value) ∈ values ↔ ∃ a, (name, a) ∈ members ∧ f a = some value := by
  have hmem : (name, value) ∈ values ↔ some (name, value) ∈ values.map some := by simp
  rw [hmem, ← map_of_mapM h, List.mem_map]
  constructor
  · rintro ⟨⟨key, a⟩, hmember, hread⟩
    obtain ⟨found, hfound, hpair⟩ := Option.map_eq_some_iff.mp hread
    cases hpair
    exact ⟨a, hmember, hfound⟩
  · rintro ⟨a, hmember, hread⟩
    exact ⟨(name, a), hmember, by rw [hread, Option.map_some]⟩

theorem exists_of_mapM {name : String} {a : α} (ha : (name, a) ∈ members) :
    ∃ value, f a = some value ∧ (name, value) ∈ values := by
  have hmember : (f a).map (name, ·) ∈ values.map some := by
    rw [← map_of_mapM h]
    exact List.mem_map.mpr ⟨(name, a), ha, rfl⟩
  obtain ⟨_, hvalue, hread⟩ := List.mem_map.mp hmember
  obtain ⟨value, hfound, rfl⟩ := Option.map_eq_some_iff.mp hread.symm
  exact ⟨value, hfound, hvalue⟩

theorem lookup_of_mapM_some {name : String} {a : α} (ha : members.lookup name = some a) :
    ∃ value, f a = some value ∧ values.lookup name = some value := by
  have hfield := lookup_of_map (map_of_mapM h) name
  rw [ha, Option.map_some] at hfield
  obtain ⟨value, hvalue, hread⟩ := Option.map_eq_some_iff.mp hfield.symm
  exact ⟨value, hread.symm, hvalue⟩

theorem lookup_of_mapM_none {name : String} (hname : members.lookup name = none) :
    values.lookup name = none := by
  have hfield := lookup_of_map (map_of_mapM h) name
  rw [hname, Option.map_none] at hfield
  exact Option.map_eq_none_iff.mp hfield.symm

end Members

/-! Trees that differ in the order of members. -/

/-- The second tree is the first one but for the order of the members of its objects, which
have different names. -/
inductive Reordered : Tree → Tree → Prop where
  | null : Reordered .null .null
  | bool (b : Bool) : Reordered (.bool b) (.bool b)
  | number (n : Numeral) : Reordered (.number n) (.number n)
  | string (s : String) : Reordered (.string s) (.string s)
  | array {items items' : List Tree} (length : items.length = items'.length)
      (values : ∀ (i : Nat) tree tree', items[i]? = some tree → items'[i]? = some tree' →
        Reordered tree tree') :
      Reordered (.array items) (.array items')
  | object {members members' : List (String × Tree)} (once : (members.map Prod.fst).Nodup)
      (once' : (members'.map Prod.fst).Nodup)
      (names : ∀ name, (members.lookup name).isSome = (members'.lookup name).isSome)
      (values : ∀ name tree tree', members.lookup name = some tree →
        members'.lookup name = some tree' → Reordered tree tree') :
      Reordered (.object members) (.object members')

theorem Reordered.symm {tree tree' : Tree} (h : Reordered tree tree') : Reordered tree' tree := by
  induction h with
  | null => exact .null
  | bool b => exact .bool b
  | number n => exact .number n
  | string s => exact .string s
  | array length values ih =>
      exact .array length.symm fun i tree tree' htree htree' => ih i tree' tree htree' htree
  | object once once' names values ih =>
      exact .object once' once (fun name => (names name).symm)
        fun name tree tree' htree htree' => ih name tree' tree htree' htree

theorem arrange_normalMembers_eq {members others : List (String × Json)}
    (h : (members.map Prod.fst).Nodup) (hothers : (others.map Prod.fst).Nodup)
    (hlookup : ∀ name, (members.lookup name).map normal = (others.lookup name).map normal) :
    arrange (normalMembers members) = arrange (normalMembers others) := by
  refine (arrange_ascending _).ext (arrange_ascending _) fun name => ?_
  rw [lookup_arrange, lookup_arrange, normalMembers_eq_map, normalMembers_eq_map,
    last?_map_value, last?_map_value, last?_eq_lookup h, last?_eq_lookup hothers, hlookup]

theorem Reordered.read? {tree tree' : Tree} (h : Reordered tree tree') {budget : Nat}
    {value : Json} (hread : tree.read? budget = some value) :
    ∃ value', tree'.read? budget = some value' ∧ value'.normal = value.normal := by
  induction h generalizing budget value with
  | null => exact ⟨value, hread, rfl⟩
  | bool b => exact ⟨value, hread, rfl⟩
  | number n => exact ⟨value, hread, rfl⟩
  | string s => exact ⟨value, hread, rfl⟩
  | @array items items' length values ih =>
      cases budget with
      | zero => cases hread
      | succ budget =>
          obtain ⟨found, hfound, rfl⟩ := Option.map_eq_some_iff.mp hread
          obtain ⟨found', hfound', hsame⟩ := mapM_alike normal length
            (fun i tree tree' htree htree' value => ih i tree tree' htree htree') hfound
          refine ⟨.array found', by rw [Tree.read?, hfound', Option.map_some], ?_⟩
          rw [normal, normal, normalItems_eq_map, normalItems_eq_map, hsame]
  | @object members members' once once' names values ih =>
      cases budget with
      | zero => cases hread
      | succ budget =>
          obtain ⟨found, hfound, rfl⟩ := Option.map_eq_some_iff.mp hread
          -- every member of the second object is read, like its namesake in the first
          have hmember : ∀ name tree', members'.lookup name = some tree' →
              ∃ value value', found.lookup name = some value ∧
                tree'.read? budget = some value' ∧ value'.normal = value.normal := by
            intro name tree' htree'
            obtain ⟨tree, htree⟩ : ∃ tree, members.lookup name = some tree := by
              rw [← Option.isSome_iff_exists, names, htree', Option.isSome_some]
            obtain ⟨value, hread, hvalue⟩ := lookup_of_mapM_some hfound htree
            obtain ⟨value', hread', hsame⟩ := ih name tree tree' htree htree' hread
            exact ⟨value, value', hvalue, hread', hsame⟩
          obtain ⟨found', hfound'⟩ : ∃ found', members'.mapM (fun member =>
              (Tree.read? budget member.2).map fun value => (member.1, value)) = some found' := by
            refine exists_mapM fun member hmem => ?_
            obtain ⟨_, value', -, hread', -⟩ :=
              hmember member.1 member.2 ((lookup_eq_some_iff_mem once').mpr hmem)
            exact ⟨(member.1, value'), by rw [hread', Option.map_some]⟩
          refine ⟨.object found', by rw [Tree.read?, hfound', Option.map_some], ?_⟩
          rw [normal, normal]
          refine congrArg _ (arrange_normalMembers_eq ?_ ?_ fun name => ?_)
          · rwa [names_of_mapM hfound']
          · rwa [names_of_mapM hfound]
          · cases htree' : members'.lookup name with
            | none =>
                have htree : members.lookup name = none := by simpa [htree'] using names name
                rw [lookup_of_mapM_none hfound htree, lookup_of_mapM_none hfound' htree']
            | some tree' =>
                obtain ⟨value, value', hvalue, hread', hsame⟩ := hmember name tree' htree'
                obtain ⟨_, hread, hvalue'⟩ := lookup_of_mapM_some hfound' htree'
                obtain rfl := Option.some.inj (hread'.symm.trans hread)
                rw [hvalue, hvalue', Option.map_some, Option.map_some, hsame]

end ChainArchive.Json
