import ChainArchive.Proofs.Json.Faithful
import ChainArchive.Proofs.Transaction.Line

namespace ChainArchive

open Json

theorem Quantity.decoder_faithful : Quantity.decoder.Faithful :=
  Decoder.scalar_faithful true Quantity.expected Quantity.ofScalar

theorem Wei.decoder_faithful : Wei.decoder.Faithful :=
  Decoder.scalar_faithful true Wei.expected Wei.ofScalar

namespace Transaction

/-! Every member of a transaction is kept. -/

theorem text_faithful : Decoder.text.Faithful := Decoder.scalar_faithful _ _ _

theorem option_text_faithful : (Decoder.option .text).Faithful :=
  Decoder.option_faithful text_faithful (by rintro s ⟨⟩)

theorem option_quantity_faithful : (Decoder.option Quantity.decoder).Faithful :=
  Decoder.option_faithful Quantity.decoder_faithful (by rintro q ⟨⟩)

theorem option_wei_faithful : (Decoder.option Wei.decoder).Faithful :=
  Decoder.option_faithful Wei.decoder_faithful (by rintro w ⟨⟩)

theorem Field.decoder_faithful (field : Field) : field.decoder.Faithful := by
  cases field with
  | sender => exact text_faithful
  | recipient => exact option_text_faithful
  | nonce => exact Quantity.decoder_faithful
  | blockNumber | transactionIndex | gas => exact option_quantity_faithful
  | value | gasPrice | maxFeePerGas | maxPriorityFeePerGas => exact option_wei_faithful

theorem Draft.slot_faithful (draft : Draft) (key : String) : (draft.slot key).Faithful := by
  by_cases hkey : key ∈ typedNames
  · obtain ⟨field, rfl⟩ := Field.mem_typedNames.mp hkey
    rw [draft.slot_typed field]
    exact Slot.once_faithful field.decoder_faithful _ _ _
  · rw [draft.slot_untyped hkey]
    exact Decoder.json_faithful.map _

theorem decoder_faithful : decoder.Faithful :=
  Record.Faithful.decoder ⟨rfl, Draft.slot_faithful⟩

theorem decode_eq_ok {text : Bytes} {tx : Transaction} (h : decoder.decode text = .ok tx) :
    ∃ members rest, readValue maxDepth text = .ok (.object members, rest) ∧ Blank rest ∧
      decoder.ofJson (.object members) = .ok tx := by
  obtain ⟨rest, hread, hrest⟩ := readWhole_eq_ok.mp h
  obtain ⟨value, hvalue, htx⟩ := decoder_faithful hread
  obtain ⟨members, last, rfl, _⟩ := Record.ofJson_object rfl htx
  exact ⟨members, rest, hvalue, hrest, htx⟩

theorem blank_of_decode_append {text more : Bytes} {tx whole : Transaction}
    (h : decoder.decode text = .ok tx) (hwhole : decoder.decode (text ++ more) = .ok whole) :
    Blank more := by
  obtain ⟨members, rest, hread, hrest, _⟩ := decode_eq_ok h
  obtain ⟨others, behind, hreadWhole, hbehind, _⟩ := decode_eq_ok hwhole
  have hlonger := readValue_append hread (endsNumber_blank hrest) (by rintro x ⟨⟩) more
  have hsame : rest ++ more = behind := by
    rw [hlonger] at hreadWhole
    cases hreadWhole
    rfl
  exact fun b hb => hbehind b (by simp [← hsame, hb])

end Transaction

end ChainArchive
