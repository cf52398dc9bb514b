import ChainArchive.Proofs.Block.Headers
import ChainArchive.Proofs.Json.Glimpses
import ChainArchive.Proofs.Transaction.Meaning
import ChainArchive.Rpc.Client

namespace ChainArchive

open Json

/-! What results are made of is made of every spelling, and of the bytes of a value alone. -/

theorem Transaction.decoder_uniform : Transaction.decoder.Uniform :=
  (Decoder.Faithful.means Transaction.decoder_faithful
    Transaction.record_complete.decoder).uniform

theorem Transaction.decoder_readsValues : Transaction.decoder.ReadsValues :=
  Decoder.MeansIn.readsValues Transaction.decoder_uniform Transaction.decoder_faithful.sound

theorem Quantity.decoder_readsValues : Quantity.decoder.ReadsValues :=
  Decoder.MeansIn.readsValues Quantity.decoder_uniform Quantity.decoder_faithful.sound

theorem Block.decoder_readsValues : Block.decoder.ReadsValues :=
  Block.layout.readsValues Block.layout_covers Block.layout_uniform Block.layout_sound

namespace Rpc

variable {α : Type}

/-! Errors. -/

namespace RemoteError

def names : List String := ["code", "message"]

inductive Told : Tree → RemoteError → Prop where
  | object {members : List (String × Tree)} {n : Numeral} {error : RemoteError}
      (once : ∀ name ∈ names, (members.map Prod.fst).count name ≤ 1)
      (code : members.lookup "code" = some (.number n)) (fits : n.Fits error.code)
      (small : error.code < 9223372036854775808)
      (message : members.lookup "message" = some (.string error.message)) :
      Told (.object members) error
  | row {n : Numeral} {error : RemoteError} (fits : n.Fits error.code)
      (small : error.code < 9223372036854775808) :
      Told (.array [.number n, .string error.message]) error

inductive Place where
  | code
  | message

def layout : record.Layout Place where
  name
    | .code => "code"
    | .message => "message"
  Value
    | .code => Int
    | .message => String
  decoder
    | .code => .signedWord
    | .message => .text
  given
    | .code => Draft.code
    | .message => Draft.message
  put
    | .code => fun draft code => { draft with code := some code }
    | .message => fun draft message => { draft with message := some message }
  slot_name draft place := by cases place <;> rfl
  slot_other draft key hkey := by
    change draft.slot key = .ignored
    rw [Draft.slot, if_neg (hkey .code).symm, if_neg (hkey .message).symm]
  name_injective place other heq := by
    cases place <;> cases other <;> first | rfl | exact absurd heq (by decide)
  given_put place draft a := by cases place <;> rfl
  given_put_of_ne place other draft a hne := by
    cases place <;> cases other <;> first | rfl | exact absurd rfl hne
  given_start place := by cases place <;> rfl
  ext draft other h := by
    cases draft
    cases other
    exact congr (congrArg Draft.mk (h .code)) (h .message)

theorem mem_places (place : Place) : place ∈ [Place.code, .message] := by
  cases place <;> simp

theorem mem_names {name : String} : name ∈ names ↔ ∃ place, layout.name place = name :=
  layout.mem_map_name mem_places

theorem layout_uniform (place : Place) : (layout.decoder place).Uniform := by
  cases place with
  | code => exact Decoder.signedWord_uniform
  | message => exact Decoder.text_uniform

theorem layout_sound (place : Place) : (layout.decoder place).Sound := by
  cases place with
  | code => exact Decoder.Faithful.sound (Decoder.scalar_faithful _ _ _)
  | message => exact Decoder.Faithful.sound (Decoder.scalar_faithful _ _ _)

theorem columns_eq : record.columns = some (layout.row [.code, .message]) := rfl

theorem record_uniform : record.Uniform :=
  Record.Layout.uniform layout_uniform (Record.Layout.covers_row columns_eq)

theorem decoder_uniform : decoder.Uniform := record_uniform.decoder

theorem decoder_readsValues : decoder.ReadsValues :=
  layout.readsValues (Record.Layout.covers_row columns_eq) layout_uniform layout_sound

theorem finish_eq_ok {draft : Draft} {error : RemoteError} :
    draft.finish = .ok error ↔
      draft.code = some error.code ∧ draft.message = some error.message := by
  unfold Draft.finish
  constructor
  · intro hfinish
    obtain ⟨code, hcode, hfinish⟩ := Outcome.bind_eq_ok.mp hfinish
    obtain ⟨message, hmessage, hfinish⟩ := Outcome.bind_eq_ok.mp hfinish
    cases hfinish
    exact ⟨required_eq_ok.mp hcode, required_eq_ok.mp hmessage⟩
  · intro hgiven
    rw [hgiven.1, hgiven.2]
    rfl

theorem lays_object_iff {budget : Nat} {members : List (String × Tree)} {error : RemoteError} :
    record.Lays budget (.object members) error ↔ Told (.object members) error := by
  rw [Record.Lays, layout.sums_iff]
  constructor
  · intro hlays
    obtain ⟨last, htells, hfinish⟩ := hlays
    obtain ⟨hcode, hmessage⟩ := finish_eq_ok.mp hfinish
    have hgivenCode : Option.Rel (Decoder.signedWord.Makes budget) (members.lookup "code")
      last.code := htells.given .code
    have hgivenMessage : Option.Rel (Decoder.text.Makes budget) (members.lookup "message")
      last.message := htells.given .message
    rw [hcode] at hgivenCode
    rw [hmessage] at hgivenMessage
    obtain ⟨tree, htree, hmakes⟩ := rel_some_iff.mp hgivenCode
    obtain ⟨other, hother, hstring⟩ := rel_some_iff.mp hgivenMessage
    obtain ⟨n, rfl, hfits, hsmall⟩ := Decoder.signedWord_makes_iff.mp hmakes
    rw [Decoder.text_makes_iff.mp hstring] at hother
    refine .object ?_ htree hfits hsmall hother
    intro name hname
    obtain ⟨place, rfl⟩ := mem_names.mp hname
    exact htells.once place
  · intro htold
    cases htold with
    | object once code fits small message =>
        refine ⟨⟨some error.code, some error.message⟩, ⟨fun place => ?_, fun place => ?_⟩,
          finish_eq_ok.mpr ⟨rfl, rfl⟩⟩
        · exact once _ (mem_names.mpr ⟨place, rfl⟩)
        · cases place with
          | code =>
              exact rel_some_iff.mpr
                ⟨_, code, Decoder.signedWord_makes_iff.mpr ⟨_, rfl, fits, small⟩⟩
          | message => exact rel_some_iff.mpr ⟨_, message, Decoder.text_makes_iff.mpr rfl⟩

theorem lays_array_iff {budget : Nat} {items : List Tree} {error : RemoteError} :
    record.Lays budget (.array items) error ↔ Told (.array items) error := by
  rw [Record.Layout.lays_array_iff columns_eq (by simp) mem_places]
  constructor
  · intro hlays
    obtain ⟨last, hitems, hfinish⟩ := hlays
    obtain ⟨hcode, hmessage⟩ := finish_eq_ok.mp hfinish
    cases hitems with
    | cons hitem hitems =>
        cases hitems with
        | cons hother hitems =>
            cases hitems
            obtain ⟨code, hmakes, hgiven⟩ := hitem
            obtain ⟨message, hstring, hgivenMessage⟩ := hother
            cases hcode.symm.trans hgiven
            cases hmessage.symm.trans hgivenMessage
            obtain ⟨n, rfl, hfits, hsmall⟩ := Decoder.signedWord_makes_iff.mp hmakes
            rw [Decoder.text_makes_iff.mp hstring]
            exact .row hfits hsmall
  · intro htold
    cases htold with
    | row fits small =>
        refine ⟨⟨some error.code, some error.message⟩, .cons ?_ (.cons ?_ .nil),
          finish_eq_ok.mpr ⟨rfl, rfl⟩⟩
        · exact ⟨error.code, Decoder.signedWord_makes_iff.mpr ⟨_, rfl, fits, small⟩, rfl⟩
        · exact ⟨error.message, Decoder.text_makes_iff.mpr rfl, rfl⟩

theorem lays_iff {budget : Nat} {tree : Tree} {error : RemoteError} :
    record.Lays budget tree error ↔ Told tree error := by
  cases tree with
  | object members => exact lays_object_iff
  | array items => exact lays_array_iff
  | null | bool b | number n | string s =>
      constructor
      · intro hlays
        exact hlays.elim
      · intro htold
        cases htold

theorem decoder_makes_iff {budget : Nat} {tree : Tree} {error : RemoteError} :
    decoder.Makes budget tree error ↔ 0 < budget ∧ Told tree error := by
  rw [decoder, record_uniform.means.makes_iff]
  cases budget with
  | zero => simp
  | succ smaller => simp [lays_iff]

theorem decoder_yields_iff {value : Value} {tree : Tree}
    (h : Glimpses (· ∈ names) value.text tree []) {budget : Nat} {error : RemoteError} :
    decoder.Yields View.value budget value error ↔ 0 < budget ∧ Told tree error := by
  have hother := layout.ignores fun _ => mem_names
  have hread := @Record.Uniform.means_glimpse _ _ _ record record_uniform hother value.text [] tree
    ⟨[], _, rfl, blank_nil, h⟩ endsNumber_nil budget error []
  unfold Decoder.Yields decoder
  refine hread.trans ?_
  cases budget with
  | zero => simp
  | succ smaller => simp [lays_iff]

end RemoteError

/-! Envelopes. -/

namespace Envelope

def names : List String := ["result", "error"]

/-- Each of the two is given once at most, and stands for what the envelope holds. -/
structure Shows (null : β) (makes : β → α → Prop) (tells : β → RemoteError → Prop)
    (members : List (String × β)) (envelope : Envelope α) : Prop where
  once : ∀ name ∈ names, (members.map Prod.fst).count name ≤ 1
  result : Stands null makes (members.lookup "result") envelope.result
  error : Stands null tells (members.lookup "error") envelope.error

inductive Told (makes : Tree → α → Prop) : Tree → Envelope α → Prop where
  | object {members : List (String × Tree)} {envelope : Envelope α}
      (shows : Shows .null makes RemoteError.Told members envelope) :
      Told makes (.object members) envelope
  | row {item other : Tree} {envelope : Envelope α}
      (result : Stands .null makes (some item) envelope.result)
      (error : Stands .null RemoteError.Told (some other) envelope.error) :
      Told makes (.array [item, other]) envelope

inductive Place where
  | result
  | error

variable {decoder : Decoder α}

def layout (decoder : Decoder α) : (record decoder).Layout Place where
  name
    | .result => "result"
    | .error => "error"
  Value
    | .result => Option α
    | .error => Option RemoteError
  decoder
    | .result => .option decoder
    | .error => .option RemoteError.decoder
  given
    | .result => Draft.result
    | .error => Draft.error
  put
    | .result => fun draft result => { draft with result := some result }
    | .error => fun draft error => { draft with error := some error }
  slot_name draft place := by cases place <;> rfl
  slot_other draft key hkey := by
    change draft.slot decoder key = .ignored
    rw [Draft.slot, if_neg (hkey .result).symm, if_neg (hkey .error).symm]
  name_injective place other heq := by
    cases place <;> cases other <;> first | rfl | exact absurd heq (by decide)
  given_put place draft a := by cases place <;> rfl
  given_put_of_ne place other draft a hne := by
    cases place <;> cases other <;> first | rfl | exact absurd rfl hne
  given_start place := by cases place <;> rfl
  ext draft other h := by
    cases draft
    cases other
    exact congr (congrArg Draft.mk (h .result)) (h .error)

theorem layout_uniform (h : decoder.Uniform) (place : Place) :
    ((layout decoder).decoder place).Uniform := by
  cases place with
  | result => exact (Decoder.Means.option h).uniform
  | error => exact (Decoder.Means.option RemoteError.decoder_uniform).uniform

theorem layout_readsValues (h : decoder.ReadsValues) (place : Place) :
    ((layout decoder).decoder place).ReadsValues := by
  cases place with
  | result => exact h.option
  | error => exact RemoteError.decoder_readsValues.option

theorem columns_eq : (record decoder).columns = some ((layout decoder).row [.result, .error]) :=
  rfl

theorem record_uniform (h : decoder.Uniform) : (record decoder).Uniform :=
  Record.Layout.uniform (layout_uniform h) (Record.Layout.covers_row columns_eq)

theorem record_follows {view : View β} (hresult : decoder.Follows view)
    (herror : RemoteError.decoder.Follows view) : (record decoder).Follows view := by
  apply (layout decoder).follows
  intro place
  cases place with
  | result => exact (Decoder.MeansIn.option hresult).follows
  | error => exact (Decoder.MeansIn.option herror).follows

theorem mem_places (place : Place) : place ∈ [Place.result, .error] := by
  cases place <;> simp

theorem mem_names {name : String} : name ∈ names ↔ ∃ place, (layout decoder).name place = name :=
  (layout decoder).mem_map_name mem_places

theorem record_asks (h : decoder.ReadsValues) :
    (record decoder).Asks View.value (· ∈ names) :=
  (layout decoder).asks (fun _ => mem_names) fun place => (layout_readsValues h place).sound

theorem sums_iff {view : View β} (hresult : decoder.Follows view)
    (herror : RemoteError.decoder.Follows view) {budget : Nat} {tells : β → RemoteError → Prop}
    (htells : ∀ x error, RemoteError.decoder.Yields view budget x error ↔ tells x error)
    {members : List (String × β)} {envelope : Envelope α} :
    (record decoder).Sums view budget members envelope ↔
      Shows view.null (decoder.Yields view budget) tells members envelope := by
  have hresults : ∀ x found, Stands view.null (decoder.Yields view budget) (some x) found ↔
      (Decoder.option decoder).Yields view budget x found :=
    fun _ _ => stands_some_iff hresult fun _ _ => Iff.rfl
  have herrors : ∀ x found, Stands view.null tells (some x) found ↔
      (Decoder.option RemoteError.decoder).Yields view budget x found :=
    fun _ _ => stands_some_iff herror htells
  rw [(layout decoder).sums_iff]
  constructor
  · intro hsums
    obtain ⟨last, htold, hfinish⟩ := hsums
    cases hfinish
    refine ⟨fun name hname => ?_, (stands_iff hresults).mpr ⟨_, htold.given .result, rfl⟩,
      (stands_iff herrors).mpr ⟨_, htold.given .error, rfl⟩⟩
    obtain ⟨place, rfl⟩ := (@mem_names _ decoder _).mp hname
    exact htold.once place
  · intro hshows
    obtain ⟨givenResult, hgiven, hresult⟩ := (stands_iff hresults).mp hshows.result
    obtain ⟨givenError, hgivenError, herror⟩ := (stands_iff herrors).mp hshows.error
    refine ⟨⟨givenResult, givenError⟩, ⟨fun place => ?_, fun place => ?_⟩, ?_⟩
    · exact hshows.once _ (mem_names.mpr ⟨place, rfl⟩)
    · cases place with
      | result => exact hgiven
      | error => exact hgivenError
    · change Except.ok (Envelope.mk _ _) = _
      rw [hresult, herror]

theorem lays_object_iff (h : decoder.Uniform) {budget : Nat} (hbudget : 0 < budget)
    {members : List (String × Tree)} {envelope : Envelope α} :
    (record decoder).Lays budget (.object members) envelope ↔
      Told (decoder.Makes budget) (.object members) envelope := by
  rw [Record.Lays, sums_iff h RemoteError.decoder_uniform fun _ _ =>
    RemoteError.decoder_makes_iff.trans (and_iff_right hbudget)]
  constructor
  · exact .object
  · intro htold
    cases htold with
    | object hshows => exact hshows

theorem lays_array_iff (h : decoder.Uniform) {budget : Nat} (hbudget : 0 < budget)
    {items : List Tree} {envelope : Envelope α} :
    (record decoder).Lays budget (.array items) envelope ↔
      Told (decoder.Makes budget) (.array items) envelope := by
  have hresults : ∀ item found, Stands .null (decoder.Makes budget) (some item) found ↔
      (Decoder.option decoder).Makes budget item found :=
    fun _ _ => stands_some_iff h fun _ _ => Iff.rfl
  have herrors : ∀ item found, Stands .null RemoteError.Told (some item) found ↔
      (Decoder.option RemoteError.decoder).Makes budget item found :=
    fun _ _ => stands_some_iff RemoteError.decoder_uniform fun _ _ =>
      RemoteError.decoder_makes_iff.trans (and_iff_right hbudget)
  rw [Record.Layout.lays_array_iff columns_eq (by simp) mem_places]
  constructor
  · intro hlays
    obtain ⟨last, hitems, hfinish⟩ := hlays
    cases hfinish
    cases hitems with
    | cons hitem hitems =>
        cases hitems with
        | cons hother hitems =>
            cases hitems
            obtain ⟨result, hresult, hgivenResult⟩ := hitem
            obtain ⟨error, herror, hgivenError⟩ := hother
            obtain ⟨givenResult, givenError⟩ := last
            cases hgivenResult
            cases hgivenError
            exact .row ((hresults _ _).mpr hresult) ((herrors _ _).mpr herror)
  · intro htold
    cases htold with
    | row result error =>
        exact ⟨⟨some envelope.result, some envelope.error⟩,
          .cons ⟨_, (hresults _ _).mp result, rfl⟩
            (.cons ⟨_, (herrors _ _).mp error, rfl⟩ .nil), rfl⟩

theorem lays_iff (h : decoder.Uniform) {budget : Nat} (hbudget : 0 < budget) {tree : Tree}
    {envelope : Envelope α} :
    (record decoder).Lays budget tree envelope ↔ Told (decoder.Makes budget) tree envelope := by
  cases tree with
  | object members => exact lays_object_iff h hbudget
  | array items => exact lays_array_iff h hbudget
  | null | bool b | number n | string s =>
      constructor
      · intro hlays
        exact hlays.elim
      · intro htold
        cases htold

theorem decode_iff (h : decoder.Uniform) {body : Bytes} {tree : Tree} (hbody : Document body tree)
    {envelope : Envelope α} :
    (Envelope.decoder decoder).decode body = .ok envelope ↔
      Told (decoder.Makes (maxDepth - 1)) tree envelope := by
  rw [Envelope.decoder, (record_uniform h).means.decode_iff hbody,
    ← lays_iff h (by decide : 0 < maxDepth - 1)]
  constructor
  · intro hlays
    obtain ⟨smaller, hsmaller, hlays⟩ := hlays
    rwa [hsmaller, Nat.add_sub_cancel]
  · intro hlays
    exact ⟨maxDepth - 1, rfl, hlays⟩

/-- What a body decodes to is said by the two members that are asked for. -/
theorem decode_holds {view : View β} (hresult : decoder.Follows view)
    (herror : RemoteError.decoder.Follows view) {body : Bytes} {members : List (String × β)}
    (hbody : view.Holds (· ∈ names) body members) {envelope : Envelope α} :
    (Envelope.decoder decoder).decode body = .ok envelope ↔
      Shows view.null (decoder.Yields view (maxDepth - 1))
        (RemoteError.decoder.Yields view (maxDepth - 1)) members envelope :=
  ((record_follows hresult herror).decode_holds ((layout decoder).ignores fun _ => mem_names)
    hbody).trans (sums_iff hresult herror fun _ _ => Iff.rfl)

end Envelope

end Rpc

end ChainArchive
