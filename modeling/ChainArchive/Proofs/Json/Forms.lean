import ChainArchive.Json.Container

namespace ChainArchive.Json

/-! Values by their parts. -/

@[elab_as_elim]
theorem inside {motive : Json → Prop}
    (null : motive .null)
    (bool : ∀ b, motive (.bool b))
    (number : ∀ n, motive (.number n))
    (string : ∀ s, motive (.string s))
    (array : ∀ items, (∀ item ∈ items, motive item) → motive (.array items))
    (object : ∀ members, (∀ member ∈ members, motive member.2) → motive (.object members)) :
    ∀ value, motive value
  | .null => null
  | .bool b => bool b
  | .number n => number n
  | .string s => string s
  | .array items =>
      array items fun item _ => inside null bool number string array object item
  | .object members =>
      object members fun member _ =>
        inside null bool number string array object member.2
termination_by value => sizeOf value
decreasing_by
  all_goals simp_wf
  · have hitem : sizeOf item < sizeOf items := List.sizeOf_lt_of_mem ‹_›
    omega
  · have hmember : sizeOf member < sizeOf members := List.sizeOf_lt_of_mem ‹_›
    have hvalue : sizeOf member = 1 + sizeOf member.1 + sizeOf member.2 := by
      cases member
      simp
    omega

theorem normalItems_eq_map (items : List Json) : normalItems items = items.map normal := by
  induction items with
  | nil => rfl
  | cons item rest ih => rw [normalItems, ih, List.map_cons]

theorem normalMembers_eq_map (members : List (String × Json)) :
    normalMembers members = members.map fun member => (member.1, member.2.normal) := by
  induction members with
  | nil => rfl
  | cons member rest ih => rw [normalMembers, ih, List.map_cons]

theorem renderItems_eq_map (items : List Json) : renderItems items = items.map render := by
  induction items with
  | nil => rfl
  | cons item rest ih => rw [renderItems, ih, List.map_cons]

def renderMember (member : String × Json) : Bytes := renderKey member.1 ++ render member.2

theorem renderMembers_eq_map (members : List (String × Json)) :
    renderMembers members = members.map renderMember := by
  induction members with
  | nil => rfl
  | cons member rest ih => rw [renderMembers, ih, List.map_cons, renderMember]

/-! The order of names. -/

theorem nameBefore_irrefl (k : String) : ¬ nameBefore k k = true := by
  simp [nameBefore, List.lt_irrefl]

theorem nameBefore_trans {k l m : String} (h : nameBefore k l = true)
    (hnext : nameBefore l m = true) : nameBefore k m = true := by
  simp only [nameBefore, decide_eq_true_eq] at *
  exact List.lt_trans h hnext

theorem eq_of_not_nameBefore {k l : String} (h : ¬ nameBefore k l = true)
    (hback : ¬ nameBefore l k = true) : k = l := by
  simp only [nameBefore, decide_eq_true_eq, List.not_lt] at h hback
  exact Bytes.ofString_injective (List.le_antisymm hback h)

def Ascending (members : List (String × Json)) : Prop :=
  members.Pairwise fun member later => nameBefore member.1 later.1 = true

theorem mem_insertMember {key : String} {value : Json} {members : List (String × Json)}
    {member : String × Json} (h : member ∈ insertMember key value members) :
    member = (key, value) ∨ member ∈ members := by
  induction members with
  | nil => simpa [insertMember] using h
  | cons first rest ih =>
      simp only [insertMember] at h
      split at h
      · simpa using h
      · split at h
        · rcases List.mem_cons.mp h with rfl | hrest
          · simp
          · rcases ih hrest with heq | hmem
            · exact .inl heq
            · exact .inr (List.mem_cons_of_mem _ hmem)
        · rcases List.mem_cons.mp h with rfl | hrest
          · simp
          · exact .inr (List.mem_cons_of_mem _ hrest)

theorem insertMember_ascending {members : List (String × Json)} (h : Ascending members)
    (key : String) (value : Json) : Ascending (insertMember key value members) := by
  induction members with
  | nil => simp [insertMember, Ascending]
  | cons first rest ih =>
      have hparts := List.pairwise_cons.mp h
      simp only [insertMember]
      split
      · rename_i hbefore
        refine List.pairwise_cons.mpr ⟨fun member hmember => ?_, h⟩
        rcases List.mem_cons.mp hmember with rfl | hrest
        · exact hbefore
        · exact nameBefore_trans hbefore (hparts.1 member hrest)
      · rename_i hnot
        split
        · rename_i hafter
          refine List.pairwise_cons.mpr ⟨fun member hmember => ?_, ih hparts.2⟩
          rcases mem_insertMember hmember with rfl | hrest
          · exact hafter
          · exact hparts.1 member hrest
        · rename_i hnotAfter
          have heq : key = first.1 := eq_of_not_nameBefore hnot hnotAfter
          exact List.pairwise_cons.mpr ⟨fun member hmember => by
            rw [heq]
            exact hparts.1 member hmember, hparts.2⟩

theorem insertMember_last {members : List (String × Json)} {key : String}
    (h : ∀ member ∈ members, nameBefore member.1 key = true) (value : Json) :
    insertMember key value members = members ++ [(key, value)] := by
  induction members with
  | nil => rfl
  | cons first rest ih =>
      have hfirst := h first (by simp)
      have hnot : ¬ nameBefore key first.1 = true := fun hback =>
        nameBefore_irrefl key (nameBefore_trans hback hfirst)
      rw [insertMember, if_neg hnot, if_pos hfirst,
        ih fun member hmember => h member (by simp [hmember]), List.cons_append]

theorem arrange_ascending (members : List (String × Json)) : Ascending (arrange members) := by
  -- The fold starts from nothing, but its steps start from what has been kept.
  have hfold : ∀ kept : List (String × Json), Ascending kept →
      Ascending (members.foldl (fun kept m => insertMember m.1 m.2 kept) kept) := by
    induction members with
    | nil => exact fun kept hkept => hkept
    | cons member rest ih =>
        exact fun kept hkept =>
          ih (insertMember member.1 member.2 kept)
            (insertMember_ascending hkept member.1 member.2)
  exact hfold [] List.Pairwise.nil

theorem mem_arrange {members : List (String × Json)} {member : String × Json}
    (h : member ∈ arrange members) : member ∈ members := by
  have hfold : ∀ kept : List (String × Json),
      member ∈ members.foldl (fun kept m => insertMember m.1 m.2 kept) kept →
        member ∈ kept ∨ member ∈ members := by
    clear h
    induction members with
    | nil => exact fun kept hkept => .inl hkept
    | cons first rest ih =>
        intro kept hkept
        rcases ih (insertMember first.1 first.2 kept) hkept with hinsert | hrest
        · rcases mem_insertMember hinsert with rfl | hmem
          · exact .inr (by simp)
          · exact .inl hmem
        · exact .inr (List.mem_cons_of_mem _ hrest)
  simpa using hfold [] h

theorem foldl_insertMember {kept members : List (String × Json)}
    (h : Ascending (kept ++ members)) :
    members.foldl (fun kept m => insertMember m.1 m.2 kept) kept = kept ++ members := by
  induction members generalizing kept with
  | nil => simp
  | cons member rest ih =>
      have hbefore : ∀ other ∈ kept, nameBefore other.1 member.1 = true := fun other hother =>
        (List.pairwise_append.mp h).2.2 other hother member (by simp)
      rw [List.foldl_cons, insertMember_last hbefore, ih (by simpa using h)]
      simp

theorem Ascending.arrange_eq {members : List (String × Json)} (h : Ascending members) :
    arrange members = members := @foldl_insertMember [] members h

/-! Values of which every object is arranged. -/

inductive Arranged : Json → Prop where
  | null : Arranged .null
  | bool (b : Bool) : Arranged (.bool b)
  | number (n : Number) : Arranged (.number n)
  | string (s : String) : Arranged (.string s)
  | array {items : List Json} (inner : ∀ item ∈ items, Arranged item) :
      Arranged (.array items)
  | object {members : List (String × Json)} (inner : ∀ member ∈ members, Arranged member.2)
      (ascending : Ascending members) : Arranged (.object members)

theorem normal_arranged (value : Json) : Arranged value.normal := by
  induction value using inside with
  | null => exact .null
  | bool b => exact .bool b
  | number n => exact .number n
  | string s => exact .string s
  | array items ih =>
      rw [normal, normalItems_eq_map]
      refine .array fun item hitem => ?_
      obtain ⟨before, hbefore, rfl⟩ := List.mem_map.mp hitem
      exact ih before hbefore
  | object members ih =>
      rw [normal, normalMembers_eq_map]
      refine .object (fun member hmember => ?_) (arrange_ascending _)
      obtain ⟨before, hbefore, rfl⟩ := List.mem_map.mp (mem_arrange hmember)
      exact ih before hbefore

theorem Arranged.normal_eq {value : Json} (h : Arranged value) : value.normal = value := by
  induction h with
  | null => rfl
  | bool b => rfl
  | number n => rfl
  | string s => rfl
  | array inner ih =>
      rw [normal, normalItems_eq_map, List.map_congr_left ih, List.map_id']
  | @object members inner ascending ih =>
      have hmap : members.map (fun member => (member.1, member.2.normal)) = members := by
        calc
          members.map (fun member => (member.1, member.2.normal)) = members.map id :=
            List.map_congr_left fun member hmember => by rw [ih member hmember]; rfl
          _ = members := List.map_id members
      rw [normal, normalMembers_eq_map, hmap, ascending.arrange_eq]

/-! Values in which at most so many containers lie inside one another. -/

inductive Within : Nat → Json → Prop where
  | null {budget : Nat} : Within budget .null
  | bool {budget : Nat} (b : Bool) : Within budget (.bool b)
  | number {budget : Nat} (n : Number) : Within budget (.number n)
  | string {budget : Nat} (s : String) : Within budget (.string s)
  | array {budget : Nat} {items : List Json} (inner : ∀ item ∈ items, Within budget item) :
      Within (budget + 1) (.array items)
  | object {budget : Nat} {members : List (String × Json)}
      (inner : ∀ member ∈ members, Within budget member.2) :
      Within (budget + 1) (.object members)

theorem Within.normal {budget : Nat} {value : Json} (h : Within budget value) :
    Within budget value.normal := by
  induction h with
  | null => exact .null
  | bool b => exact .bool b
  | number n => exact .number n
  | string s => exact .string s
  | array inner ih =>
      rw [Json.normal, normalItems_eq_map]
      refine .array fun item hitem => ?_
      obtain ⟨before, hbefore, rfl⟩ := List.mem_map.mp hitem
      exact ih before hbefore
  | object inner ih =>
      rw [Json.normal, normalMembers_eq_map]
      refine .object fun member hmember => ?_
      obtain ⟨before, hbefore, rfl⟩ := List.mem_map.mp (mem_arrange hmember)
      exact ih before hbefore

theorem Within.mono {budget larger : Nat} {value : Json} (h : Within budget value)
    (hle : budget ≤ larger) : Within larger value := by
  induction h generalizing larger with
  | null => exact .null
  | bool b => exact .bool b
  | number n => exact .number n
  | string s => exact .string s
  | array inner ih =>
      cases larger with
      | zero => omega
      | succ larger => exact .array fun item hitem => ih item hitem (by omega)
  | object inner ih =>
      cases larger with
      | zero => omega
      | succ larger => exact .object fun member hmember => ih member hmember (by omega)

/-! Values whose numbers are integers. -/

inductive Integral : Json → Prop where
  | null : Integral .null
  | bool (b : Bool) : Integral (.bool b)
  | number (n : Integer) : Integral (.number (.integer n))
  | string (s : String) : Integral (.string s)
  | array {items : List Json} (inner : ∀ item ∈ items, Integral item) :
      Integral (.array items)
  | object {members : List (String × Json)} (inner : ∀ member ∈ members, Integral member.2) :
      Integral (.object members)

end ChainArchive.Json
