import ChainArchive.Proofs.Decimal.Shortest
import ChainArchive.Proofs.Json.Reading

namespace ChainArchive.Json

open Bytes

/-! Numbers are written as numerals. -/

theorem digits_digitsOf (n : Nat) : Digits (digitsOf n) := fun _ hb => isDigit_of_mem_digitsOf hb

theorem whole_digitsOf (n : Nat) : Whole (digitsOf n) := by
  by_cases hzero : n = 0
  · rw [hzero, digitsOf_zero]
    exact .zero
  · obtain ⟨b, rest, hwritten, hne, hdigit, hrest, _⟩ := digitsOf_head hzero
    rw [hwritten]
    exact .digits hdigit hne hrest

theorem digits_zero : Digits [byte '0'] := List.forall_mem_singleton.mpr (by decide)

theorem digits_zeros (n : Nat) : Digits ((zeros n).map byte) := by
  intro b hb
  obtain ⟨c, hc, rfl⟩ := List.mem_map.mp hb
  rw [List.eq_of_mem_replicate hc]
  decide

theorem scale_exponent (exponent : Int) :
    Scale (byte 'e' :: ([byte (if exponent < 0 then '-' else '+')] ++
      digitsOf exponent.natAbs)) := by
  refine .power (by decide) ?_ (digitsOf_ne_nil _) (digits_digitsOf _)
  split
  · exact .inr (.inl rfl)
  · exact .inr (.inr rfl)

theorem exists_numeral_decimal (negative : Bool) {d : Decimal} (h : d.digits ≠ 0) :
    ∃ n : Numeral, n.negative = negative ∧ n.places ≠ [] ∧
      n.whole ++ n.places = (decimalText d).map byte := by
  obtain ⟨c, rest, hdigits, _⟩ := toDigits_head (by decide : 1 < 10) h
  obtain ⟨b, others, hwritten, hne, hdigit, hothers, _⟩ := digitsOf_head h
  have hbytes : byte c :: rest.map byte = b :: others := by
    rw [← hwritten, digitsOf, hdigits, List.map_cons]
  obtain ⟨rfl, rfl⟩ := List.cons.inj hbytes
  have hbehind : Digits (rest.map byte) := hothers
  have hall : Digits (byte c :: rest.map byte) := List.forall_mem_cons.mpr ⟨hdigit, hbehind⟩
  unfold decimalText
  simp only [hdigits]
  -- an exponent, zeros ahead of the digits, zeros behind them, a point between them
  split
  · have hscale := scale_exponent d.leading
    cases rest with
    | nil =>
        refine ⟨⟨negative, [byte c], _, .digits hdigit hne digits_nil, .scale hscale⟩, rfl,
          List.cons_ne_nil _ _, ?_⟩
        simp [digitsOf]
    | cons e rest =>
        refine ⟨⟨negative, [byte c], _, .digits hdigit hne digits_nil,
          .fraction (List.cons_ne_nil _ _) hbehind hscale⟩, rfl, List.cons_ne_nil _ _, ?_⟩
        simp [digitsOf]
  split
  · have hfraction : Digits ((zeros ((-d.leading).toNat - 1)).map byte ++
        byte c :: rest.map byte) := (digits_zeros _).append hall
    refine ⟨⟨negative, [byte '0'], _, .zero, .fraction (by simp) hfraction .none⟩, rfl,
      List.cons_ne_nil _ _, ?_⟩
    simp
  split
  · have hfilled := hbehind.append (digits_zeros (d.leading.toNat + 1 - (c :: rest).length))
    refine ⟨⟨negative, _, _, .digits hdigit hne hfilled,
      .fraction (List.cons_ne_nil (byte '0') []) digits_zero .none⟩, rfl,
      List.cons_ne_nil _ _, ?_⟩
    simp
  · rename_i hlonger
    have hfront : Digits ((rest.take d.leading.toNat).map byte) := by
      rw [List.map_take]
      exact fun e he => hbehind e (List.mem_of_mem_take he)
    have hback : Digits ((rest.drop d.leading.toNat).map byte) := by
      rw [List.map_drop]
      exact fun e he => hbehind e (List.mem_of_mem_drop he)
    have hmore : (rest.drop d.leading.toNat).map byte ≠ [] := by
      rw [List.length_cons] at hlonger
      intro hnil
      have hlength := congrArg List.length hnil
      simp at hlength
      omega
    refine ⟨⟨negative, _, _, .digits hdigit hne hfront, .fraction hmore hback .none⟩, rfl,
      List.cons_ne_nil _ _, ?_⟩
    simp

theorem exists_numeral_float (negative : Bool) (x : Binary64) :
    ∃ n : Numeral, n.text = ofString (floatText negative x) ∧ n.places ≠ [] := by
  have hwritten : ∃ n : Numeral, n.negative = negative ∧ n.places ≠ [] ∧
      n.whole ++ n.places = (decimalText x.shortest).map byte := by
    by_cases hzero : x.mantissa = 0
    · have htext : (decimalText ⟨0, 0⟩).map byte = [byte '0', byte '.', byte '0'] := by decide
      rw [Binary64.shortest_zero hzero, htext]
      exact ⟨⟨negative, [byte '0'], [byte '.', byte '0'], .zero,
        .fraction (List.cons_ne_nil (byte '0') []) digits_zero .none⟩, rfl,
        List.cons_ne_nil _ _, rfl⟩
    · exact exists_numeral_decimal negative (Binary64.shortest_digits hzero)
  obtain ⟨n, hnegative, hplaces, hnumeral⟩ := hwritten
  have hascii : ∀ c ∈ decimalText x.shortest, c.toNat < 128 := fun c hc =>
    (decimalText_shown _ c hc).2
  refine ⟨n, ?_, hplaces⟩
  rw [Numeral.text, List.append_assoc, hnumeral, Numeral.sign, hnegative, floatText]
  cases negative with
  | false =>
      simp only [Bool.false_eq_true, if_false, List.nil_append]
      exact (ofString_ascii hascii).symm
  | true =>
      simp only [if_true]
      exact (ofString_ascii (List.forall_mem_cons.mpr ⟨by decide, hascii⟩)).symm

theorem exists_numeral_integer (z : Integer) :
    ∃ n : Numeral, n.text = ofString (Number.text (.integer z)) ∧
      n.integer? = some z.value := by
  by_cases hsign : 0 ≤ z.value
  · refine ⟨⟨false, digitsOf z.value.toNat, [], whole_digitsOf _, .scale .none⟩, ?_, ?_⟩
    · have hwritten := render_natural hsign
      rw [render] at hwritten
      simp [Numeral.text, Numeral.sign, hwritten]
    · simp only [Numeral.integer?, continued_digitsOf, if_true, Bool.false_eq_true, if_false,
        Int.toNat_of_nonneg hsign]
  · have hnegative : z.value < 0 := by omega
    refine ⟨⟨true, digitsOf (-z.value).toNat, [], whole_digitsOf _, .scale .none⟩, ?_, ?_⟩
    · have hwritten := render_negative hnegative
      rw [render] at hwritten
      simp [Numeral.text, Numeral.sign, hwritten]
    · simp [Numeral.integer?, continued_digitsOf]
      omega

theorem exists_numeral (x : Number) :
    ∃ n : Numeral, n.text = ofString x.text ∧
      ∀ z, n.integer? = some z ↔ ∃ word : Integer, x = .integer word ∧ word.value = z := by
  cases x with
  | integer word =>
      obtain ⟨n, htext, hvalue⟩ := exists_numeral_integer word
      refine ⟨n, htext, fun z => ?_⟩
      rw [hvalue, Option.some.injEq]
      constructor
      · intro hz
        exact ⟨word, rfl, hz⟩
      · rintro ⟨_, ⟨⟩, hz⟩
        exact hz
  | float negative x =>
      obtain ⟨n, htext, hplaces⟩ := exists_numeral_float negative x
      refine ⟨n, htext, fun z => ?_⟩
      rw [Numeral.integer?, if_neg hplaces]
      constructor
      · rintro ⟨⟩
      · rintro ⟨_, ⟨⟩, _⟩

noncomputable def Number.numeral (x : Number) : Numeral := (exists_numeral x).choose

theorem Number.numeral_text (x : Number) : x.numeral.text = ofString x.text :=
  (exists_numeral x).choose_spec.1

theorem Number.numeral_integer (x : Number) (z : Int) :
    x.numeral.integer? = some z ↔ ∃ word : Integer, x = .integer word ∧ word.value = z :=
  (exists_numeral x).choose_spec.2 z

theorem Number.numeral_natural {word : Integer} (h : 0 ≤ word.value) :
    (Number.integer word).numeral.negative = false := by
  have htext := (Number.integer word).numeral_text
  have hwritten := render_natural h
  rw [render] at hwritten
  rw [hwritten] at htext
  obtain ⟨b, rest, hdigits, hb⟩ := digitsOf_cons word.value.toNat
  cases hnegative : (Number.integer word).numeral.negative with
  | false => rfl
  | true =>
      rw [hdigits, Numeral.text, Numeral.sign, if_pos hnegative] at htext
      obtain ⟨rfl, -⟩ := List.cons.inj htext
      exact absurd hb (by decide)

/-! Values are written as trees. -/

mutual

noncomputable def tree : Json → Tree
  | .null => .null
  | .bool b => .bool b
  | .number x => .number x.numeral
  | .string s => .string s
  | .array items => .array (treeItems items)
  | .object members => .object (treeMembers members)

noncomputable def treeItems : List Json → List Tree
  | [] => []
  | item :: rest => tree item :: treeItems rest

noncomputable def treeMembers : List (String × Json) → List (String × Tree)
  | [] => []
  | (name, value) :: rest => (name, tree value) :: treeMembers rest

end

theorem treeItems_eq_map (items : List Json) : treeItems items = items.map tree := by
  induction items with
  | nil => rfl
  | cons item rest ih => rw [treeItems, ih, List.map_cons]

theorem treeMembers_eq_map (members : List (String × Json)) :
    treeMembers members = members.map fun member => (member.1, member.2.tree) := by
  induction members with
  | nil => rfl
  | cons member rest ih => rw [treeMembers, ih, List.map_cons]

theorem spellsItems_more {items : List Json}
    (h : ∀ item ∈ items, ∀ rest, Spells (render item ++ rest) item.tree rest) (rest : Bytes) :
    SpellsItems false ((items.map render).flatMap (byte ',' :: ·) ++ byte ']' :: rest)
      (items.map tree) rest := by
  induction items with
  | nil => exact .close blank_nil rest
  | cons item items ih =>
      have hmore := ih fun other hother => h other (by simp [hother])
      rw [List.map_cons, List.map_cons, List.flatMap_cons, List.append_assoc, List.cons_append]
      exact .item (@Lead.comma [] [] _ blank_nil blank_nil) (h item (by simp) _) hmore

theorem spellsItems_render {items : List Json}
    (h : ∀ item ∈ items, ∀ rest, Spells (render item ++ rest) item.tree rest) (rest : Bytes) :
    SpellsItems true (joinComma (items.map render) ++ byte ']' :: rest) (items.map tree)
      rest := by
  cases items with
  | nil => exact .close blank_nil rest
  | cons item items =>
      have hmore := spellsItems_more
        (fun other hother => h other (List.mem_cons_of_mem item hother)) rest
      rw [List.map_cons, List.map_cons, joinComma_cons, List.append_assoc]
      exact .item (@Lead.first [] _ blank_nil) (h item (by simp) _) hmore

theorem spellsMembers_member {first : Bool} {text behind rest : Bytes} {member : String × Json}
    {members : List (String × Tree)} (lead : Lead first text (renderMember member ++ behind))
    (h : ∀ rest, Spells (render member.2 ++ rest) member.2.tree rest)
    (hmore : SpellsMembers false behind members rest) :
    SpellsMembers first text ((member.1, member.2.tree) :: members) rest := by
  rw [renderMember_append] at lead
  exact .member lead (readString_sound (readString_render member.1 _))
    (@Colon.mk [] [] _ blank_nil blank_nil) (h _) hmore

theorem spellsMembers_more {members : List (String × Json)}
    (h : ∀ member ∈ members, ∀ rest, Spells (render member.2 ++ rest) member.2.tree rest)
    (rest : Bytes) :
    SpellsMembers false
      ((members.map renderMember).flatMap (byte ',' :: ·) ++ byte '\x7d' :: rest)
      (members.map fun member => (member.1, member.2.tree)) rest := by
  induction members with
  | nil => exact .close blank_nil rest
  | cons member members ih =>
      have hmore := ih fun other hother => h other (by simp [hother])
      rw [List.map_cons, List.map_cons, List.flatMap_cons, List.append_assoc, List.cons_append]
      exact spellsMembers_member (@Lead.comma [] [] _ blank_nil blank_nil) (h member (by simp))
        hmore

theorem spellsMembers_render {members : List (String × Json)}
    (h : ∀ member ∈ members, ∀ rest, Spells (render member.2 ++ rest) member.2.tree rest)
    (rest : Bytes) :
    SpellsMembers true (joinComma (members.map renderMember) ++ byte '\x7d' :: rest)
      (members.map fun member => (member.1, member.2.tree)) rest := by
  cases members with
  | nil => exact .close blank_nil rest
  | cons member members =>
      have hmore := spellsMembers_more
        (fun other hother => h other (List.mem_cons_of_mem member hother)) rest
      rw [List.map_cons, List.map_cons, joinComma_cons, List.append_assoc]
      exact spellsMembers_member (@Lead.first [] _ blank_nil) (h member (by simp)) hmore

theorem spells_render (value : Json) (rest : Bytes) :
    Spells (render value ++ rest) value.tree rest := by
  induction value using inside generalizing rest with
  | null => exact .null rest
  | bool b =>
      have hword : render (.bool b) = ofString (toString b) := by cases b <;> rfl
      rw [hword]
      exact .bool b rest
  | number x =>
      rw [render, ← x.numeral_text]
      exact .number x.numeral rest
  | string s =>
      have htext : render (.string s) ++ rest =
          byte '"' :: ((ofString s).flatMap escapeByte ++ byte '"' :: rest) := by
        simp [render, renderString]
      rw [htext]
      exact .string (readString_sound (readString_render s rest))
  | array items ih =>
      have htext : render (.array items) ++ rest =
          byte '[' :: (joinComma (items.map render) ++ byte ']' :: rest) := by
        simp [render_array]
      rw [htext, tree, treeItems_eq_map]
      exact .array (spellsItems_render ih rest)
  | object members ih =>
      have htext : render (.object members) ++ rest =
          byte '\x7b' :: (joinComma (members.map renderMember) ++ byte '\x7d' :: rest) := by
        simp [render_object]
      rw [htext, tree, treeMembers_eq_map]
      exact .object (spellsMembers_render ih rest)

theorem document_render {gap : Bytes} (h : Blank gap) (value : Json) :
    Document (gap ++ render value) value.tree := by
  have hspells := spells_render value []
  rw [List.append_nil] at hspells
  exact ⟨gap, render value, [], rfl, h, hspells, blank_nil⟩

end ChainArchive.Json
