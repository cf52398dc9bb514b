import ChainArchive.Proofs.Json.Agreement
import ChainArchive.Proofs.Json.Arranging
import ChainArchive.Proofs.Rpc.Envelopes

namespace ChainArchive

open Json Bytes

/-! Texts decoded straight away and by way of their values. -/

theorem Json.Decoder.Agrees.toOption_decodeValue {decoder : Decoder α} (h : decoder.Agrees)
    (huniform : decoder.Uniform) {text : Bytes} {value : Json} (hparse : parse text = .ok value)
    (hnormal : ∀ a, decoder.ofJson value.normal = .ok a ↔ decoder.ofJson value = .ok a) :
    (decoder.decode text).toOption = (decoder.decodeValue text).toOption := by
  refine Option.ext fun a => ?_
  have hdecode := (h.decode_iff huniform hparse a).trans (hnormal a).symm
  have hvalue : decoder.decodeValue text = .ok a ↔ decoder.ofJson value.normal = .ok a := by
    rw [Decoder.decodeValue, hparse, Outcome.ok_bind]
    cases decoder.ofJson value.normal <;> simp
  rw [Outcome.toOption_eq_some, Outcome.toOption_eq_some, hdecode, hvalue]

theorem Quantity.decoder_agrees : Quantity.decoder.Agrees :=
  Decoder.Faithful.agrees Quantity.decoder_faithful Quantity.decoder_complete

theorem Quantity.decoder_steady : Quantity.decoder.Steady := Decoder.scalar_steady _ _ _

theorem Wei.decoder_agrees : Wei.decoder.Agrees :=
  Decoder.Faithful.agrees Wei.decoder_faithful Wei.decoder_complete

theorem Wei.decoder_steady : Wei.decoder.Steady := Decoder.scalar_steady _ _ _

theorem Wei.decoder_uniform : Wei.decoder.Uniform := Decoder.scalar_means.uniform

theorem Json.Decoder.text_steady : Decoder.text.Steady := Decoder.scalar_steady _ _ _

theorem Json.Decoder.text_agrees : Decoder.text.Agrees :=
  Decoder.Faithful.agrees Transaction.text_faithful (Decoder.scalar_complete _ _ _)

theorem Json.Decoder.option_text_agrees : (Decoder.option .text).Agrees :=
  Decoder.Faithful.agrees Transaction.option_text_faithful
    (Decoder.option_complete (Decoder.scalar_complete _ _ _))

namespace Block

theorem layout_agrees (field : Field) : (layout.decoder field).Agrees := by
  cases field with
  | number => exact Quantity.decoder_agrees
  | hash => exact Decoder.option_text_agrees
  | transactions => exact Decoder.Agrees.list Decoder.text_agrees Decoder.text_uniform

theorem layout_steady (field : Field) : (layout.decoder field).Steady := by
  cases field with
  | number => exact Quantity.decoder_steady
  | hash => exact Decoder.text_steady.option
  | transactions => exact Decoder.text_steady.list

theorem record_agrees : record.Agrees :=
  Record.Layout.agrees layout_agrees layout_covers

theorem record_orderless : record.Orderless typedNames :=
  layout.orderless (fun field => by cases field <;> decide) layout_steady layout_covers

end Block

namespace Transaction

theorem Field.put_comm {field other : Field} (h : other ≠ field) (draft : Draft)
    (a : field.Value) (b : other.Value) :
    other.put (field.put draft a) b = field.put (other.put draft b) a := by
  cases field <;> cases other <;> first | rfl | exact absurd rfl h

theorem Field.put_with_extras (field : Field) (draft : Draft) (extras : List (String × Json))
    (a : field.Value) :
    field.put { draft with extras } a = { field.put draft a with extras } := by
  cases field <;> rfl

theorem Field.decoder_steady (field : Field) : field.decoder.Steady := by
  cases field with
  | sender => exact Decoder.text_steady
  | recipient => exact Decoder.text_steady.option
  | nonce => exact Quantity.decoder_steady
  | blockNumber | transactionIndex | gas => exact Quantity.decoder_steady.option
  | value | gasPrice | maxFeePerGas | maxPriorityFeePerGas => exact Wei.decoder_steady.option

def places : record.Places Field where
  name := Field.name
  Value := Field.Value
  decoder := Field.decoder
  given := Field.given
  put := Field.put
  leave draft key value :=
    { draft with extras := insertMember key value.normal draft.extras }
  take_name _ _ _ _ := takeMember_typed
  take_other draft key hkey value :=
    takeMember_untyped draft (fun hmem => not_exists.mpr hkey (Field.mem_typedNames.mp hmem)) value
  given_put_of_ne _ _ hne draft a := Field.given_put_of_ne hne.symm draft a
  given_leave field draft key value := field.given_with_extras draft _
  put_comm _ _ hne draft a b := Field.put_comm hne draft a b
  put_leave field draft key value a := by
    rw [Field.put_with_extras, field.extras_put]
  leave_comm key other hne draft value value' := by
    simp only [insertMember_comm hne]
  leave_again draft key value value' := by
    simp only [insertMember_again]
  leave_normal draft key value := by
    simp only [(normal_arranged value).normal_eq]

theorem record_orderless : record.Orderless typedNames :=
  places.orderless Field.name_mem Field.decoder_steady (by rintro columns ⟨⟩)

end Transaction

/-- A text that has a value is decoded as its value is, both with the same result or both with
none, if no member with a type of its own is given twice. -/
theorem decode_through_value {text : Bytes} {value : Json} (hparse : parse text = .ok value) :
    (Quantity.decoder.decode text).toOption = (Quantity.decoder.decodeValue text).toOption ∧
    (Wei.decoder.decode text).toOption = (Wei.decoder.decodeValue text).toOption ∧
    (value.Once Block.typedNames →
      (Block.decoder.decode text).toOption = (Block.decoder.decodeValue text).toOption) ∧
    (value.Once Transaction.typedNames →
      (Transaction.decoder.decode text).toOption =
        (Transaction.decoder.decodeValue text).toOption) := by
  refine ⟨?_, ?_, fun honce => ?_, fun honce => ?_⟩
  · exact Quantity.decoder_agrees.toOption_decodeValue Quantity.decoder_uniform hparse
      (Quantity.decoder_steady value)
  · exact Wei.decoder_agrees.toOption_decodeValue Wei.decoder_uniform hparse
      (Wei.decoder_steady value)
  · exact (Block.record_agrees.decoder Block.record_uniform).toOption_decodeValue
      Block.decoder_uniform hparse (Block.record_orderless.decoder_normal honce)
  · exact (Decoder.Faithful.agrees Transaction.decoder_faithful
      Transaction.record_complete.decoder).toOption_decodeValue Transaction.decoder_uniform
      hparse (Transaction.record_orderless.decoder_normal honce)

/-- A transaction with two members of a name that has no type, and a block in a row. -/
theorem decode_through_value_unsorted :
    let received := ofString
      "\x7b\"x\":1,\"nonce\":\"0x0\",\"from\":\"a\",\"gas\":null,\"x\":[]\x7d"
    let row := ofString "[16,null,[\"b\"]]"
    (∃ tx, Transaction.decoder.decode received = .ok tx ∧
      Transaction.decoder.decodeValue received = .ok tx) ∧
    ∃ block, Block.decoder.decode row = .ok block ∧ Block.decoder.decodeValue row = .ok block := by
  intro received row
  obtain ⟨value, hparse, honce⟩ :
      ∃ value, parse received = .ok value ∧ value.Once Transaction.typedNames :=
    ⟨_, rfl, by rintro members ⟨⟩; decide⟩
  obtain ⟨items, hitems, hrow⟩ :
      ∃ value, parse row = .ok value ∧ value.Once Block.typedNames :=
    ⟨_, rfl, by rintro members ⟨⟩⟩
  obtain ⟨-, -, -, htransaction⟩ := decode_through_value hparse
  obtain ⟨-, -, hblock, -⟩ := decode_through_value hitems
  obtain ⟨tx, htx⟩ : ∃ tx, Transaction.decoder.decode received = .ok tx := ⟨_, rfl⟩
  obtain ⟨block, hdecode⟩ : ∃ block, Block.decoder.decode row = .ok block := ⟨_, rfl⟩
  have htransaction := htransaction honce
  have hblock := hblock hrow
  rw [htx] at htransaction
  rw [hdecode] at hblock
  exact ⟨⟨tx, htx, Outcome.toOption_eq_some.mp htransaction.symm⟩,
    block, hdecode, Outcome.toOption_eq_some.mp hblock.symm⟩

end ChainArchive
