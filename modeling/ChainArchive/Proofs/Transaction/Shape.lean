import ChainArchive.Proofs.Archive.Reading
import ChainArchive.Proofs.Transaction.Meaning

namespace ChainArchive

open Bytes Json

namespace Transaction

/-! What is written under the typed names. -/

namespace Field

def all : List Field :=
  [sender, recipient, nonce, blockNumber, transactionIndex, gas, value, gasPrice, maxFeePerGas,
   maxPriorityFeePerGas]

def Omissible (field : Field) : Prop := field ≠ sender ∧ field ≠ recipient ∧ field ≠ nonce

def written? : (field : Field) → field.Value → Option Json
  | sender, s => some (.string s)
  | recipient, r => some ((r.map Json.string).getD .null)
  | nonce, n => some n.toJson
  | blockNumber, n | transactionIndex, n | gas, n => n.map Quantity.toJson
  | value, w | gasPrice, w | maxFeePerGas, w | maxPriorityFeePerGas, w => w.map Wei.toJson

/-- A number is written without a sign, in decimal digits that no zero leads, and an amount is
written as a string of such digits. -/
def Shape : Field → Tree → Prop
  | sender, tree => ∃ s, tree = .string s
  | recipient, tree => tree = .null ∨ ∃ s, tree = .string s
  | nonce, tree | blockNumber, tree | transactionIndex, tree | gas, tree =>
      ∃ n : Numeral, tree = .number n ∧ n.negative = false ∧ n.places = [] ∧
        continued 0 n.whole < wordSize
  | value, tree | gasPrice, tree | maxFeePerGas, tree | maxPriorityFeePerGas, tree =>
      ∃ s, tree = .string s ∧ Whole (ofString s) ∧ continued 0 (ofString s) < Wei.size

theorem mem_all (field : Field) : field ∈ all := by
  cases field <;> decide

end Field

theorem optionalMember_eq (name : String) (write : α → Json) (value : Option α) :
    optionalMember name write value = ((value.map write).map (name, ·)).toList := by
  cases value <;> rfl

theorem typedMembers_eq_flatMap (tx : Transaction) :
    tx.typedMembers = Field.all.flatMap fun field =>
      ((field.written? (field.of tx)).map (field.name, ·)).toList := by
  simp only [typedMembers, optionalMember_eq, List.append_assoc, Field.all, List.flatMap_cons,
    List.flatMap_nil, List.append_nil]
  rfl

theorem mem_typedMembers {tx : Transaction} {name : String} {value : Json} :
    (name, value) ∈ tx.typedMembers ↔
      ∃ field : Field, field.name = name ∧ field.written? (field.of tx) = some value := by
  rw [typedMembers_eq_flatMap]
  simp [Field.mem_all, and_comm]

theorem name_mem_typedMembers (tx : Transaction) (field : Field) :
    field.name ∈ tx.typedMembers.map Prod.fst ↔ (field.written? (field.of tx)).isSome := by
  rw [List.mem_map, Option.isSome_iff_exists]
  constructor
  · rintro ⟨⟨name, value⟩, hmember, rfl⟩
    obtain ⟨other, hname, hvalue⟩ := mem_typedMembers.mp hmember
    obtain rfl := Field.name_injective hname
    exact ⟨value, hvalue⟩
  · rintro ⟨value, hvalue⟩
    exact ⟨(field.name, value), mem_typedMembers.mpr ⟨field, rfl, hvalue⟩, rfl⟩

/-! What is written of a quantity or an amount. -/

theorem digits_of_integer? {n : Numeral} {m : Nat} (hsign : n.negative = false)
    (h : n.integer? = some (m : Int)) : n.places = [] ∧ continued 0 n.whole = m := by
  unfold Numeral.integer? at h
  split at h
  · rename_i hplaces
    rw [hsign, if_neg Bool.false_ne_true, Option.some.injEq] at h
    exact ⟨hplaces, Int.ofNat.inj h⟩
  · cases h

theorem natural_toJson (q : Quantity) :
    ∃ n : Numeral, q.toJson.tree = .number n ∧ n.negative = false ∧ n.places = [] ∧
      continued 0 n.whole < wordSize := by
  have hsign := @Number.numeral_natural (.ofNat q.value q.small) (by simp [Integer.ofNat])
  have hinteger := (Number.numeral_integer (.integer (.ofNat q.value q.small)) q.value).mpr
    ⟨_, rfl, rfl⟩
  obtain ⟨hplaces, hvalue⟩ := digits_of_integer? hsign hinteger
  refine ⟨_, rfl, hsign, hplaces, ?_⟩
  rw [hvalue]
  exact q.small

theorem digits_toJson (w : Wei) :
    ∃ s, w.toJson.tree = .string s ∧ Whole (ofString s) ∧ continued 0 (ofString s) < Wei.size := by
  have htext : ofString w.toText = digitsOf w.value := by
    rw [Wei.toText, Nat.toString_eq_repr, ofString_repr]
  refine ⟨w.toText, rfl, ?_, ?_⟩
  · rw [htext]
    exact whole_digitsOf w.value
  · rw [htext, continued_digitsOf]
    exact w.small

theorem Field.shape_written {field : Field} {a : field.Value} {value : Json}
    (h : field.written? a = some value) : field.Shape value.tree := by
  cases field with
  | sender =>
      cases h
      exact ⟨a, rfl⟩
  | recipient =>
      cases h
      cases a with
      | none => exact .inl rfl
      | some s => exact .inr ⟨s, rfl⟩
  | nonce =>
      cases h
      exact natural_toJson a
  | blockNumber | transactionIndex | gas =>
      obtain ⟨q, -, rfl⟩ := Option.map_eq_some_iff.mp h
      exact natural_toJson q
  | value | gasPrice | maxFeePerGas | maxPriorityFeePerGas =>
      obtain ⟨w, -, rfl⟩ := Option.map_eq_some_iff.mp h
      exact digits_toJson w

/-! What is written, and what was received. -/

theorem isSome_written_option {decoder : Decoder α} {value : Json} {found : Option α}
    (h : (Decoder.option decoder).ofJson value = .ok found) (write : α → Json) :
    (found.map write).isSome ↔ value ≠ .null := by
  cases value with
  | null =>
      cases h
      simp
  | _ =>
      obtain ⟨a, -, rfl⟩ := Outcome.map_eq_ok.mp h
      simp

theorem Field.isSome_written {field : Field} (h : field.Omissible) {value : Json}
    {a : field.Value} (ha : field.decoder.ofJson value = .ok a) :
    (field.written? a).isSome ↔ value ≠ .null := by
  cases field with
  | sender => exact absurd rfl h.1
  | recipient => exact absurd rfl h.2.1
  | nonce => exact absurd rfl h.2.2
  | _ => exact isSome_written_option ha _

theorem Field.written_default {field : Field} (h : field.Omissible) {a : field.Value}
    (ha : field.default? = some a) : field.written? a = none := by
  cases field with
  | sender => exact absurd rfl h.1
  | recipient => exact absurd rfl h.2.1
  | nonce => exact absurd rfl h.2.2
  | _ =>
      cases ha
      rfl

theorem name_mem_iff_received {values : List (String × Json)} {tx : Transaction}
    (h : decoder.ofJson (.object values) = .ok tx) {field : Field} (homissible : field.Omissible) :
    field.name ∈ tx.typedMembers.map Prod.fst ↔
      ∃ value, value ≠ .null ∧ (field.name, value) ∈ values := by
  obtain ⟨last, hfold, hfinish⟩ := Outcome.bind_eq_ok.mp h
  have hof := fields_of_finish hfinish field
  rw [name_mem_typedMembers]
  constructor
  · intro hwritten
    cases hgiven : field.given last with
    | none =>
        rw [hgiven, Option.none_or] at hof
        simp [field.written_default homissible hof] at hwritten
    | some a =>
        rw [hgiven, Option.some_or, Option.some.injEq] at hof
        obtain ⟨value, hmember, ha⟩ := mem_of_given hfold hgiven
        rw [← hof] at hwritten
        exact ⟨value, (Field.isSome_written homissible ha).mp hwritten, hmember⟩
  · rintro ⟨value, hvalue, hmember⟩
    obtain ⟨a, ha, hgiven⟩ := given_of_mem hfold hmember
    rw [hgiven, Option.some_or, Option.some.injEq] at hof
    rw [← hof]
    exact (Field.isSome_written homissible ha).mpr hvalue

/-- A line is one object: the typed members, each in the shape of its field, and behind them
the extras in the order of their names' bytes. -/
structure LineShape (line : Bytes) (typed extras : List (String × Tree)) : Prop where
  spells : Spells line (.object (typed ++ extras)) []
  printable : ∀ b ∈ line, 0x20 ≤ b
  distinct : ((typed ++ extras).map Prod.fst).Nodup
  shapes : ∀ name tree, (name, tree) ∈ typed →
    ∃ field : Field, field.name = name ∧ field.Shape tree
  present : "from" ∈ typed.map Prod.fst ∧ "to" ∈ typed.map Prod.fst ∧
    "nonce" ∈ typed.map Prod.fst
  untyped : ∀ name tree, (name, tree) ∈ extras → name ∉ typedNames
  increasing : extras.Pairwise fun member later => ofString member.1 < ofString later.1

theorem names_treeMembers (members : List (String × Json)) :
    (treeMembers members).map Prod.fst = members.map Prod.fst := by
  rw [treeMembers_eq_map, List.map_map]
  rfl

theorem mem_treeMembers {members : List (String × Json)} {name : String} {tree : Tree} :
    (name, tree) ∈ treeMembers members ↔ ∃ value, (name, value) ∈ members ∧ value.tree = tree := by
  simp [treeMembers_eq_map]

theorem lineShape (tx : Transaction) (h : Regular tx.extras) :
    LineShape tx.line (treeMembers tx.typedMembers) (treeMembers tx.extras) where
  spells := by
    have hline := spells_render tx.toJson []
    rw [List.append_nil, toJson, Json.tree, treeMembers_eq_map, List.map_append] at hline
    rw [treeMembers_eq_map, treeMembers_eq_map]
    exact hline
  printable := tx.line_printable
  distinct := by
    rw [List.map_append, names_treeMembers, names_treeMembers, ← List.map_append]
    exact h.nodup
  shapes name tree hmember := by
    obtain ⟨value, hvalue, rfl⟩ := mem_treeMembers.mp hmember
    obtain ⟨field, hname, hwritten⟩ := mem_typedMembers.mp hvalue
    exact ⟨field, hname, Field.shape_written hwritten⟩
  present := by
    rw [names_treeMembers]
    exact ⟨(tx.name_mem_typedMembers .sender).mpr rfl,
      (tx.name_mem_typedMembers .recipient).mpr rfl,
      (tx.name_mem_typedMembers .nonce).mpr rfl⟩
  untyped name tree hmember := by
    obtain ⟨value, hvalue, rfl⟩ := mem_treeMembers.mp hmember
    exact h.untyped (name, value) hvalue
  increasing := by
    rw [treeMembers_eq_map, List.pairwise_map]
    exact h.ascending.imp fun hbefore => of_decide_eq_true hbefore

/-- Every text that decodes spells an object, and its line is an object of this shape, which
holds a member that may lack if the text's object gave it, and not as a null. -/
theorem line_shape {text : Bytes} {tx : Transaction} (h : decoder.decode text = .ok tx) :
    ∃ typed extras, LineShape tx.line typed extras ∧
      (∃ received, Document text (.object received)) ∧
      ∀ received, Document text (.object received) → ∀ field : Field, field.Omissible →
        (field.name ∈ typed.map Prod.fst ↔
          ∃ tree, tree ≠ .null ∧ (field.name, tree) ∈ received) := by
  obtain ⟨values, rest, hread, hrest, htx⟩ := decode_eq_ok h
  refine ⟨treeMembers tx.typedMembers, treeMembers tx.extras,
    tx.lineShape (decoded_of_decode h).regular, exists_document hread hrest,
    fun received hdocument field homissible => ?_⟩
  obtain ⟨_, hvalues, hsame⟩ := Option.map_eq_some_iff.mp (hdocument.read?_eq hread)
  cases hsame
  rw [names_treeMembers, name_mem_iff_received htx homissible]
  constructor
  · rintro ⟨value, hvalue, hmember⟩
    obtain ⟨tree, htree, hread⟩ := (mem_of_mapM hvalues).mp hmember
    refine ⟨tree, ?_, htree⟩
    rintro rfl
    exact hvalue (Option.some.inj hread).symm
  · rintro ⟨tree, htree, hmember⟩
    obtain ⟨value, hread, hvalue⟩ := exists_of_mapM hvalues hmember
    refine ⟨value, ?_, hvalue⟩
    rintro rfl
    exact htree (Tree.eq_null_of_read? hread)

/-- Odd names, an extra given twice, zeros ahead of digits, and a null. -/
theorem line_shape_odd_names :
    let text := ofString ("\x7b\"\\u000a\":0,\"gas\":null,\"nonce\":\"0X00ff\",\"a\":1," ++
      "\"from\":\"\",\"value\":\"007\",\"\":\"\\n\",\"a\":2\x7d")
    let line := ofString ("\x7b\"from\":\"\",\"to\":null,\"nonce\":255,\"value\":\"7\"," ++
      "\"\":\"\\n\",\"\\n\":0,\"a\":2\x7d")
    ∃ tx typed extras, decoder.decode text = .ok tx ∧ tx.line = line ∧
      LineShape line typed extras := by
  intro text line
  obtain ⟨tx, hdecode, hline⟩ : ∃ tx, decoder.decode text = .ok tx ∧ tx.line = line :=
    ⟨_, rfl, by decide +kernel⟩
  obtain ⟨typed, extras, hshape, -⟩ := line_shape hdecode
  exact ⟨tx, typed, extras, hdecode, hline, hline ▸ hshape⟩

end Transaction

end ChainArchive
