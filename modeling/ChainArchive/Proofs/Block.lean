import ChainArchive.Block
import ChainArchive.Proofs.Json.Layout

namespace ChainArchive

open Json

theorem Quantity.decoder_uniform : Quantity.decoder.Uniform := Decoder.scalar_means.uniform

namespace Block

/-! The members of a block that are not passed over. -/

inductive Field where
  | number
  | hash
  | transactions

def typedNames : List String := ["number", "hash", "transactions"]

def layout : record.Layout Field where
  name
    | .number => "number"
    | .hash => "hash"
    | .transactions => "transactions"
  Value
    | .number => Quantity
    | .hash => Option String
    | .transactions => List String
  decoder
    | .number => Quantity.decoder
    | .hash => .option .text
    | .transactions => .list .text
  given
    | .number => Draft.number
    | .hash => Draft.hash
    | .transactions => Draft.transactions
  put
    | .number => fun draft n => { draft with number := some n }
    | .hash => fun draft h => { draft with hash := some h }
    | .transactions => fun draft ts => { draft with transactions := some ts }
  slot_name draft field := by cases field <;> rfl
  slot_other draft key hkey := by
    change draft.slot key = .ignored
    rw [Draft.slot, if_neg (hkey .number).symm, if_neg (hkey .hash).symm,
      if_neg (hkey .transactions).symm]
  name_injective field other heq := by
    cases field <;> cases other <;> first | rfl | exact absurd heq (by decide)
  given_put field draft a := by cases field <;> rfl
  given_put_of_ne field other draft a hne := by
    cases field <;> cases other <;> first | rfl | exact absurd rfl hne
  given_start field := by cases field <;> rfl
  ext draft other h := by
    cases draft
    cases other
    rw [Draft.mk.injEq]
    exact ⟨h .number, h .hash, h .transactions⟩

theorem layout_uniform (field : Field) : (layout.decoder field).Uniform := by
  cases field with
  | number => exact Quantity.decoder_uniform
  | hash => exact (Decoder.Means.option Decoder.text_uniform).uniform
  | transactions => exact (Decoder.Uniform.list Decoder.text_uniform).uniform

theorem layout_covers : layout.Covers := by
  intro columns hcolumns column hcolumn
  cases hcolumns
  simp only [Draft.columns, List.mem_cons, List.not_mem_nil, or_false] at hcolumn
  rcases hcolumn with rfl | rfl | rfl
  · exact ⟨.number, fun _ => rfl⟩
  · exact ⟨.hash, fun _ => rfl⟩
  · exact ⟨.transactions, fun _ => rfl⟩

theorem record_uniform : record.Uniform := Record.Layout.uniform layout_uniform layout_covers

theorem decoder_uniform : decoder.Uniform := record_uniform.decoder

end Block

end ChainArchive
