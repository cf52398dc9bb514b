import ChainArchive.Proofs.Json.Carrying
import ChainArchive.Proofs.Transaction.Members

namespace ChainArchive

open Bytes Json

namespace Transaction

/-! Names of written members. -/

theorem optionalMember_names (name : String) (write : α → Json) (value : Option α) :
    ((optionalMember name write value).map Prod.fst).Sublist [name] := by
  cases value with
  | none => exact List.nil_sublist [name]
  | some a => exact List.Sublist.refl [name]

theorem typedMembers_names (tx : Transaction) :
    (tx.typedMembers.map Prod.fst).Sublist typedNames := by
  have hnames : typedNames = ["from", "to", "nonce"] ++ ["blockNumber"] ++
      ["transactionIndex"] ++ ["gas"] ++ ["value"] ++ ["gasPrice"] ++ ["maxFeePerGas"] ++
      ["maxPriorityFeePerGas"] := rfl
  rw [hnames, typedMembers]
  simp only [List.map_append]
  repeat' apply List.Sublist.append
  · exact List.Sublist.refl _
  all_goals exact optionalMember_names _ _ _

theorem lookup_typedMembers (tx : Transaction) {name : String} (h : name ∉ typedNames) :
    tx.typedMembers.lookup name = none :=
  lookup_eq_none fun hmem => h (tx.typedMembers_names.mem hmem)

theorem Regular.nodup {tx : Transaction} (h : Regular tx.extras) :
    ((tx.typedMembers ++ tx.extras).map Prod.fst).Nodup := by
  rw [List.map_append]
  refine List.nodup_append.mpr
    ⟨tx.typedMembers_names.nodup (by decide), h.ascending.nodup, ?_⟩
  rintro name htyped _ hextra rfl
  obtain ⟨member, hmember, rfl⟩ := List.mem_map.mp hextra
  exact h.untyped member hmember (tx.typedMembers_names.mem htyped)

/-! Of every name that is not typed the last member is kept. -/

theorem lookup_takeMembers {members : List (String × Json)} {last : Draft}
    (h : members.foldlM record.takeMember .empty = .ok last) {name : String}
    (hname : name ∉ typedNames) :
    last.extras.lookup name = (last? members name).map normal := by
  induction members using List.reverseRecOn generalizing last with
  | nil =>
      cases h
      rfl
  | append_singleton members member ih =>
      obtain ⟨middle, hmiddle, htake⟩ := Outcome.foldlM_snoc_eq_ok.mp h
      obtain ⟨key, value⟩ := member
      rw [last?_append_singleton]
      by_cases hkey : key ∈ typedNames
      · have hne : name ≠ key := by
          rintro rfl
          exact hname hkey
        obtain ⟨field, rfl⟩ := Field.mem_typedNames.mp hkey
        obtain ⟨-, a, -, rfl⟩ := takeMember_typed.mp htake
        rw [field.extras_put, ih hmiddle, if_neg hne]
      · rw [takeMember_untyped middle hkey] at htake
        cases htake
        rw [lookup_insertMember, ih hmiddle]
        split <;> rfl

theorem lookup_extras {members : List (String × Json)} {tx : Transaction}
    (h : decoder.ofJson (.object members) = .ok tx) {name : String}
    (hname : name ∉ typedNames) :
    tx.extras.lookup name = (last? members name).map normal := by
  obtain ⟨last, hfold, hfinish⟩ := Outcome.bind_eq_ok.mp h
  rw [finish_extras hfinish, lookup_takeMembers hfold hname]

/-- Every text that decodes spells an object. The members of that object beside the typed
ones stand in the transaction's line as they were received, each once, the last of those with
its name. -/
theorem line_carries {text : Bytes} {tx : Transaction} (h : decoder.decode text = .ok tx) :
    (∃ members, Document text (.object members)) ∧
    ∀ members, Document text (.object members) →
      ∃ written, Spells tx.line (.object written) [] ∧ (written.map Prod.fst).Nodup ∧
        ∀ name, name ∉ typedNames →
          (∀ tree, last? members name = some tree →
            ∃ tree', written.lookup name = some tree' ∧ Carried tree tree') ∧
          (last? members name = none → written.lookup name = none) := by
  obtain ⟨values, rest, hread, hrest, htx⟩ := decode_eq_ok h
  refine ⟨exists_document hread hrest, fun members hdocument => ?_⟩
  obtain ⟨found, hfound, hsame⟩ := Option.map_eq_some_iff.mp (hdocument.read?_eq hread)
  cases hsame
  have hlast := last?_of_mapM hfound
  have hline := spells_render tx.toJson []
  rw [List.append_nil, toJson, Json.tree, treeMembers_eq_map] at hline
  refine ⟨_, hline, ?_, fun name hname => ?_⟩
  · rw [List.map_map]
    exact (decoded_of_decode h).regular.nodup
  · have hlookup : ((tx.typedMembers ++ tx.extras).map fun member =>
        (member.1, member.2.tree)).lookup name =
          (last? values name).map fun value => value.normal.tree := by
      rw [lookup_map_value, List.lookup_append, tx.lookup_typedMembers hname, Option.none_or,
        lookup_extras htx hname, Option.map_map]
      rfl
    rw [hlookup]
    refine ⟨fun tree htree => ?_, fun hnone => ?_⟩
    · have hmember := hlast name
      rw [htree, Option.map_some] at hmember
      obtain ⟨value, hvalue, hread⟩ := Option.map_eq_some_iff.mp hmember.symm
      exact ⟨value.normal.tree, by rw [hvalue, Option.map_some], Tree.carried hread.symm⟩
    · have hmember := hlast name
      rw [hnone, Option.map_none] at hmember
      rw [Option.map_eq_none_iff.mp hmember.symm, Option.map_none]

/-- The largest word inside the second of two members of one name. -/
theorem line_carries_word :
    let last : Json := .array [.number (.integer ⟨18446744073709551615, by decide, by decide⟩),
      .string "\n"]
    let received : Json := .object
      [("x", .null), ("nonce", .number (.integer ⟨0, by decide, by decide⟩)), ("x", last),
       ("from", .string "a")]
    ∃ tx written tree', decoder.decode received.render = .ok tx ∧
      Spells tx.line (.object written) [] ∧ written.lookup "x" = some tree' ∧
      Carried last.tree tree' := by
  intro last received
  have hdocument : Document received.render received.tree :=
    ⟨[], received.render, [], rfl, blank_nil, by simpa using spells_render received [],
      blank_nil⟩
  obtain ⟨tx, hdecode⟩ : ∃ tx, decoder.decode received.render = .ok tx := ⟨_, rfl⟩
  obtain ⟨written, hline, _, hcarried⟩ := (line_carries hdecode).2 _ hdocument
  obtain ⟨tree', hlookup, htree⟩ := (hcarried "x" (by decide)).1 last.tree rfl
  exact ⟨tx, written, tree', hdecode, hline, hlookup, htree⟩

/-- An integer that no word holds comes back as a rounded number. -/
theorem line_beyond_word :
    ∃ tx, decoder.decode (ofString
        "\x7b\"from\":\"a\",\"nonce\":0,\"x\":18446744073709551616\x7d") = .ok tx ∧
      tx.line = ofString
        "\x7b\"from\":\"a\",\"to\":null,\"nonce\":0,\"x\":1.8446744073709552e+19\x7d" :=
  ⟨_, rfl, by decide +kernel⟩

end Transaction

end ChainArchive
