import ChainArchive.Proofs.Json.Reordering
import ChainArchive.Proofs.Json.Uniform
import ChainArchive.Proofs.Transaction.Carrying

namespace ChainArchive

open Json

theorem Quantity.decoder_complete : Quantity.decoder.Complete :=
  Decoder.scalar_complete true Quantity.expected Quantity.ofScalar

theorem Wei.decoder_complete : Wei.decoder.Complete :=
  Decoder.scalar_complete true Wei.expected Wei.ofScalar

namespace Transaction

/-! Members are read from a text as they are from its tree. -/

theorem Field.decoder_complete (field : Field) : field.decoder.Complete := by
  have htext : Decoder.text.Complete := Decoder.scalar_complete _ _ _
  cases field with
  | sender => exact htext
  | recipient => exact Decoder.option_complete htext
  | nonce => exact Quantity.decoder_complete
  | blockNumber | transactionIndex | gas =>
      exact Decoder.option_complete Quantity.decoder_complete
  | value | gasPrice | maxFeePerGas | maxPriorityFeePerGas =>
      exact Decoder.option_complete Wei.decoder_complete

theorem record_complete : record.Complete where
  columns := rfl
  slot draft key taken hslot := by
    by_cases hkey : key ∈ typedNames
    · obtain ⟨field, rfl⟩ := Field.mem_typedNames.mp hkey
      rw [Slot.once_taken ((draft.slot_typed field).symm.trans hslot)]
      exact field.decoder_complete.map _
    · cases (draft.slot_untyped hkey).symm.trans hslot
      exact Decoder.json_complete.map _
  takes draft key hslot := by
    by_cases hkey : key ∈ typedNames
    · obtain ⟨field, rfl⟩ := Field.mem_typedNames.mp hkey
      have honce := (draft.slot_typed field).symm.trans hslot
      cases hgiven : field.given draft <;> rw [hgiven] at honce <;> cases honce
    · cases (draft.slot_untyped hkey).symm.trans hslot

/-! What a draft was given, by the names of the members that it took. -/

section Taken

variable {values : List (String × Json)} {last : Draft}

theorem given_of_lookup (hfold : values.foldlM record.takeMember .empty = .ok last)
    (honce : (values.map Prod.fst).Nodup) {field : Field} {value : Json}
    (hvalue : values.lookup field.name = some value) {a : field.Value}
    (ha : field.decoder.ofJson value = .ok a) : field.given last = some a := by
  obtain ⟨b, hb, hgiven⟩ := given_of_mem hfold ((lookup_eq_some_iff_mem honce).mp hvalue)
  rw [ha] at hb
  cases hb
  exact hgiven

theorem given_of_lookup_none (hfold : values.foldlM record.takeMember .empty = .ok last)
    {field : Field} (hnone : values.lookup field.name = none) : field.given last = none := by
  cases hgiven : field.given last with
  | none => rfl
  | some a =>
      obtain ⟨value, hmem, -⟩ := mem_of_given hfold hgiven
      exact absurd hmem (lookup_eq_none_iff_mem.mp hnone value)

theorem extras_of_fold (hfold : values.foldlM record.takeMember .empty = .ok last) :
    Ascending last.extras ∧ ∀ name ∈ typedNames, last.extras.lookup name = none := by
  induction values using List.reverseRecOn generalizing last with
  | nil =>
      cases hfold
      exact ⟨List.Pairwise.nil, fun _ _ => rfl⟩
  | append_singleton values member ih =>
      obtain ⟨middle, hmiddle, htake⟩ := Outcome.foldlM_snoc_eq_ok.mp hfold
      obtain ⟨hascending, htyped⟩ := ih hmiddle
      obtain ⟨key, value⟩ := member
      by_cases hkey : key ∈ typedNames
      · obtain ⟨field, rfl⟩ := Field.mem_typedNames.mp hkey
        obtain ⟨-, a, -, rfl⟩ := takeMember_typed.mp htake
        rw [field.extras_put]
        exact ⟨hascending, htyped⟩
      · rw [takeMember_untyped middle hkey] at htake
        cases htake
        refine ⟨insertMember_ascending hascending key _, fun name hname => ?_⟩
        rw [lookup_insertMember, if_neg, htyped name hname]
        rintro rfl
        exact hkey hname

end Taken

structure Makes (budget : Nat) (members : List (String × Tree)) (tx : Transaction) : Prop where
  given : ∀ (field : Field) tree, members.lookup field.name = some tree →
    field.decoder.Reads budget tree (field.of tx)
  lacking : ∀ field : Field, members.lookup field.name = none →
    field.default? = some (field.of tx)
  kept : ∀ name tree, name ∉ typedNames → members.lookup name = some tree →
    ∃ value, tree.read? budget = some value ∧ tx.extras.lookup name = some value.normal
  others : ∀ name, name ∉ typedNames → members.lookup name = none → tx.extras.lookup name = none
  untyped : ∀ name ∈ typedNames, tx.extras.lookup name = none
  ascending : Ascending tx.extras

theorem makes_of_reads {budget : Nat} {members : List (String × Tree)}
    (honce : (members.map Prod.fst).Nodup) {tx : Transaction}
    (h : decoder.Reads (budget + 1) (.object members) tx) : Makes budget members tx := by
  obtain ⟨_, hread, htx⟩ := h
  obtain ⟨values, hvalues, rfl⟩ := Option.map_eq_some_iff.mp hread
  obtain ⟨_, last, hsame, hfold, hfinish⟩ := Record.ofJson_object rfl htx
  cases hsame
  have honceValues : (values.map Prod.fst).Nodup := by rwa [names_of_mapM hvalues]
  have hfield := fields_of_finish hfinish
  have hextras := finish_extras hfinish
  obtain ⟨hascending, htyped⟩ := extras_of_fold hfold
  refine ⟨fun field tree htree => ?_, fun field hnone => ?_, fun name tree hname htree => ?_,
    fun name hname hnone => ?_, by rwa [hextras], by rwa [hextras]⟩
  · obtain ⟨value, hread, hvalue⟩ := lookup_of_mapM_some hvalues htree
    obtain ⟨a, ha, hgiven⟩ :=
      given_of_mem hfold ((lookup_eq_some_iff_mem honceValues).mp hvalue)
    have hof := hfield field
    rw [hgiven, Option.some_or, Option.some.injEq] at hof
    exact ⟨value, hread, hof ▸ ha⟩
  · have hof := hfield field
    rwa [given_of_lookup_none hfold (lookup_of_mapM_none hvalues hnone), Option.none_or] at hof
  · obtain ⟨value, hread, hvalue⟩ := lookup_of_mapM_some hvalues htree
    refine ⟨value, hread, ?_⟩
    rw [lookup_extras htx hname, last?_eq_lookup honceValues, hvalue, Option.map_some]
  · rw [lookup_extras htx hname, last?_eq_lookup honceValues,
      lookup_of_mapM_none hvalues hnone, Option.map_none]

namespace Makes

variable {budget : Nat} {members : List (String × Tree)} {tx : Transaction}

theorem exists_values (h : Makes budget members tx) (honce : (members.map Prod.fst).Nodup) :
    ∃ values, members.mapM (fun member =>
      (Tree.read? budget member.2).map fun value => (member.1, value)) = some values := by
  refine exists_mapM fun member hmem => ?_
  have htree := (lookup_eq_some_iff_mem honce).mpr hmem
  by_cases hname : member.1 ∈ typedNames
  · obtain ⟨field, hfield⟩ := Field.mem_typedNames.mp hname
    obtain ⟨value, hread, -⟩ := h.given field member.2 (by rw [hfield]; exact htree)
    exact ⟨_, by rw [hread, Option.map_some]⟩
  · obtain ⟨value, hread, -⟩ := h.kept member.1 member.2 hname htree
    exact ⟨_, by rw [hread, Option.map_some]⟩

variable {values : List (String × Json)}

theorem decoded (h : Makes budget members tx)
    (hvalues : members.mapM (fun member =>
      (Tree.read? budget member.2).map fun value => (member.1, value)) = some values)
    {field : Field} {value : Json} (hvalue : values.lookup field.name = some value) :
    field.decoder.ofJson value = .ok (field.of tx) := by
  cases htree : members.lookup field.name with
  | none => simp [lookup_of_mapM_none hvalues htree] at hvalue
  | some tree =>
      obtain ⟨_, hread, hsame⟩ := lookup_of_mapM_some hvalues htree
      obtain ⟨_, hgiven, hof⟩ := h.given field tree htree
      rw [hvalue] at hsame
      cases hsame
      rw [hread] at hgiven
      cases hgiven
      exact hof

theorem reads (h : Makes budget members tx) (honce : (members.map Prod.fst).Nodup) :
    decoder.Reads (budget + 1) (.object members) tx := by
  obtain ⟨values, hvalues⟩ := h.exists_values honce
  have honceValues : (values.map Prod.fst).Nodup := by rwa [names_of_mapM hvalues]
  obtain ⟨last, hfold⟩ : ∃ last, values.foldlM record.takeMember .empty = .ok last :=
    exists_fold honceValues fun field value hmem =>
      ⟨_, h.decoded hvalues ((lookup_eq_some_iff_mem honceValues).mpr hmem)⟩
  have hfields : ∀ field : Field,
      (field.given last).or field.default? = some (field.of tx) := by
    intro field
    cases htree : members.lookup field.name with
    | none =>
        rw [given_of_lookup_none hfold (lookup_of_mapM_none hvalues htree), Option.none_or]
        exact h.lacking field htree
    | some tree =>
        obtain ⟨value, -, hvalue⟩ := lookup_of_mapM_some hvalues htree
        rw [given_of_lookup hfold honceValues hvalue (h.decoded hvalues hvalue),
          Option.some_or]
  have hextras : tx.extras = last.extras := by
    obtain ⟨hascending, htyped⟩ := extras_of_fold hfold
    refine h.ascending.ext hascending fun name => ?_
    by_cases hname : name ∈ typedNames
    · rw [h.untyped name hname, htyped name hname]
    · rw [lookup_takeMembers hfold hname, last?_eq_lookup honceValues]
      cases htree : members.lookup name with
      | none =>
          rw [h.others name hname htree, lookup_of_mapM_none hvalues htree, Option.map_none]
      | some tree =>
          obtain ⟨value, hread, hvalue⟩ := lookup_of_mapM_some hvalues htree
          obtain ⟨_, hsame, hkept⟩ := h.kept name tree hname htree
          rw [hread] at hsame
          cases hsame
          rw [hkept, hvalue, Option.map_some]
  refine ⟨.object values, by rw [Tree.read?, hvalues, Option.map_some], ?_⟩
  exact Outcome.bind_eq_ok.mpr ⟨last, hfold, finish_eq_ok hfields hextras⟩

end Makes

theorem decode_iff_makes {text : Bytes} {members : List (String × Tree)}
    (h : Document text (.object members)) (honce : (members.map Prod.fst).Nodup)
    {tx : Transaction} :
    decoder.decode text = .ok tx ↔ Makes (maxDepth - 1) members tx := by
  rw [(Decoder.Faithful.means decoder_faithful record_complete.decoder).decode_iff h]
  exact ⟨makes_of_reads honce, fun hmakes => hmakes.reads honce⟩

end Transaction

end ChainArchive
