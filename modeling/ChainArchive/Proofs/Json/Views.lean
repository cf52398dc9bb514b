import ChainArchive.Proofs.Json.Decoding
import ChainArchive.Proofs.Json.Detaching
import ChainArchive.Proofs.Json.Spelling

namespace ChainArchive.Json

open Bytes

/-! Ways to know a value: by the tree that it spells, or by its bytes alone, which may hold
what no tree does. -/

structure View (β : Type) where
  spells : Bytes → β → Bytes → Prop
  plain : β → Bytes
  null : β
  spells_plain : ∀ x rest, spells (plain x ++ rest) x rest
  passes : ∀ {text x rest}, spells text x rest → Passes text rest
  detached : ∀ {text x rest}, spells text x rest → Detached (spells · x ·) text rest
  numeral : ∀ (n : Numeral) rest, ∃ x, spells (n.text ++ rest) x rest
  null_iff : ∀ {text x rest}, spells text x rest → (x = null ↔ ∃ more, text = byte 'n' :: more)

def View.Begins (view : View β) (text : Bytes) (x : β) (rest : Bytes) : Prop :=
  ∃ gap inner, text = gap ++ inner ∧ Blank gap ∧ view.spells inner x rest

theorem View.Begins.behind {view : View β} {gap text rest : Bytes} {x : β}
    (h : view.Begins text x rest) (hgap : Blank gap) : view.Begins (gap ++ text) x rest := by
  obtain ⟨other, inner, rfl, hother, hspells⟩ := h
  exact ⟨gap ++ other, inner, (List.append_assoc _ _ _).symm, hgap.append hother, hspells⟩

/-! Of all values null alone begins with an n. -/

theorem Passes.null_eq {more rest : Bytes} (h : Passes (byte 'n' :: more) rest) :
    more = ofString "ull" ++ rest := by
  generalize htext : byte 'n' :: more = text at h
  cases h with
  | null => exact (List.cons.inj htext).2
  | bool b => cases b <;> exact absurd (List.cons.inj htext).1 (by decide)
  | number n => exact absurd htext (byte_ne_numeral (by decide) more n rest)
  | string | array | object => exact absurd (List.cons.inj htext).1 (by decide)

theorem Spells.null_iff {text rest : Bytes} {tree : Tree} (h : Spells text tree rest) :
    tree = .null ↔ ∃ more, text = byte 'n' :: more := by
  constructor
  · rintro rfl
    cases h
    exact ⟨_, rfl⟩
  · rintro ⟨more, htext⟩
    cases h with
    | null => rfl
    | bool b => cases b <;> exact absurd (List.cons.inj htext).1 (by decide)
    | number n => exact absurd htext.symm (byte_ne_numeral (by decide) more n rest)
    | string | array | object => exact absurd (List.cons.inj htext).1 (by decide)

def View.tree : View Tree where
  spells := Spells
  plain := Tree.text
  null := .null
  spells_plain := Tree.spells_text
  passes := Spells.passes
  detached := Spells.detached
  numeral n rest := ⟨.number n, .number n rest⟩
  null_iff := Spells.null_iff

/-- The bytes of a value, and no others. -/
@[ext] structure Value where
  text : Bytes
  passes : Passes text []

theorem Value.passes_append (value : Value) (rest : Bytes) :
    Passes (value.text ++ rest) rest := by
  obtain ⟨piece, htext, hpiece⟩ := value.passes.detached
  rw [List.append_nil] at htext
  rw [htext]
  exact hpiece rest

theorem Passes.value {text rest : Bytes} (h : Passes text rest) :
    ∃ value : Value, text = value.text ++ rest := by
  obtain ⟨piece, htext, hpiece⟩ := h.detached
  have hvalue := hpiece []
  rw [List.append_nil] at hvalue
  exact ⟨⟨piece, hvalue⟩, htext⟩

namespace Value

def null : Value := ⟨ofString "null", .null []⟩

theorem null_iff {value : Value} {rest : Bytes} :
    value = null ↔ ∃ more, value.text ++ rest = byte 'n' :: more := by
  constructor
  · rintro rfl
    exact ⟨_, rfl⟩
  · rintro ⟨more, htext⟩
    obtain ⟨b, behind, hvalue, -⟩ := value.passes.head
    rw [hvalue] at htext
    obtain ⟨rfl, -⟩ := List.cons.inj htext
    have hpasses := value.passes
    rw [hvalue] at hpasses
    apply Value.ext
    rw [hvalue, hpasses.null_eq]
    rfl

end Value

theorem View.spells_alone (view : View β) (x : β) : view.spells (view.plain x) x [] := by
  have hspells := view.spells_plain x []
  rwa [List.append_nil] at hspells

def View.bytes (view : View β) (x : β) : Value := ⟨view.plain x, view.passes (view.spells_alone x)⟩

def View.value : View Value where
  spells text value rest := text = value.text ++ rest
  plain := Value.text
  null := .null
  spells_plain _ _ := rfl
  passes {_ value rest} h := h ▸ value.passes_append rest
  detached {_ value _} h := ⟨value.text, h, fun _ => rfl⟩
  numeral n rest := (Passes.number n rest).value
  null_iff {_ _ _} h := by
    rw [h]
    exact Value.null_iff

/-! What is read of a value. -/

namespace Decoder

def Yields (decoder : Decoder α) (view : View β) (budget : Nat) (x : β) (a : α) : Prop :=
  decoder.read budget (view.plain x) = .ok (a, [])

/-- However a value is spelled, it is read to its end, as this means. -/
def MeansIn (decoder : Decoder α) (view : View β) (meaning : Nat → β → α → Prop) : Prop :=
  ∀ ⦃text rest : Bytes⦄ ⦃x : β⦄, view.Begins text x rest → EndsNumber rest →
    ∀ {budget : Nat} {a : α} {behind : Bytes},
      decoder.read budget text = .ok (a, behind) ↔ behind = rest ∧ meaning budget x a

def Follows (decoder : Decoder α) (view : View β) : Prop :=
  decoder.MeansIn view (decoder.Yields view)

def SoundIn (decoder : Decoder α) (view : View β) : Prop :=
  ∀ ⦃budget : Nat⦄ ⦃text rest : Bytes⦄ ⦃a : α⦄, decoder.read budget text = .ok (a, rest) →
    ∃ x, view.Begins text x rest

variable {decoder : Decoder α} {view : View β} {meaning : Nat → β → α → Prop}

theorem MeansIn.yields_iff (h : decoder.MeansIn view meaning) {budget : Nat} {x : β} {a : α} :
    decoder.Yields view budget x a ↔ meaning budget x a := by
  have hread := @h (view.plain x) [] x ⟨[], _, rfl, blank_nil, view.spells_alone x⟩
    endsNumber_nil budget a []
  rw [Yields, hread]
  simp

theorem MeansIn.follows (h : decoder.MeansIn view meaning) : decoder.Follows view := by
  intro text rest x hbegins hrest budget a behind
  rw [h hbegins hrest, h.yields_iff]

theorem map_yields_iff {f : α → γ} {budget : Nat} {x : β} {b : γ} :
    (decoder.map f).Yields view budget x b ↔ ∃ a, decoder.Yields view budget x a ∧ f a = b := by
  unfold Yields
  constructor
  · intro hread
    exact map_read_eq_ok hread
  · rintro ⟨a, hread, rfl⟩
    exact Outcome.map_eq_ok.mpr ⟨_, hread, rfl⟩

theorem MeansIn.map (h : decoder.MeansIn view meaning) (f : α → γ) :
    (decoder.map f).MeansIn view fun budget x b => ∃ a, meaning budget x a ∧ f a = b := by
  intro text rest x hbegins hrest budget b behind
  constructor
  · intro hread
    obtain ⟨a, ha, rfl⟩ := map_read_eq_ok hread
    obtain ⟨rfl, hmeaning⟩ := (h hbegins hrest).mp ha
    exact ⟨rfl, a, hmeaning, rfl⟩
  · rintro ⟨rfl, a, hmeaning, rfl⟩
    exact Outcome.map_eq_ok.mpr ⟨_, (h hbegins hrest).mpr ⟨rfl, hmeaning⟩, rfl⟩

theorem MeansIn.option (h : decoder.MeansIn view meaning) :
    (Decoder.option decoder).MeansIn view fun budget x found =>
      x = view.null ∧ found = none ∨
        x ≠ view.null ∧ ∃ a, found = some a ∧ meaning budget x a := by
  rintro text rest x ⟨gap, inner, rfl, hgap, hspells⟩ hrest budget found behind
  have hpasses := view.passes hspells
  obtain ⟨b, more, rfl, hspace, -⟩ := hpasses.head
  have hnull := view.null_iff hspells
  have hread := @h (b :: more) rest x ⟨[], _, rfl, blank_nil, hspells⟩ hrest budget
  simp only [Decoder.option, skipSpace_gap hgap hspace]
  split
  · rename_i hb
    subst hb
    have hx : x = view.null := hnull.mpr ⟨more, rfl⟩
    simp [hx, hpasses.null_eq, readWord_append, eq_comm, and_comm]
  · rename_i hb
    have hx : x ≠ view.null := by
      intro heq
      obtain ⟨other, hother⟩ := hnull.mp heq
      exact hb (List.cons.inj hother).1
    constructor
    · intro hfound
      obtain ⟨⟨a, after⟩, ha, hpair⟩ := Outcome.map_eq_ok.mp hfound
      cases hpair
      obtain ⟨rfl, hmeaning⟩ := hread.mp ha
      exact ⟨rfl, .inr ⟨hx, a, rfl, hmeaning⟩⟩
    · rintro ⟨rfl, ⟨rfl, -⟩ | ⟨-, a, rfl, hmeaning⟩⟩
      · exact absurd rfl hx
      · rw [hread.mpr ⟨rfl, hmeaning⟩, Outcome.map_ok]

theorem eq_of_gap {gap other inner text rest behind : Bytes} (hgap : Blank gap)
    (hother : Blank other) (h : Passes inner behind) (htext : Passes text rest)
    (heq : gap ++ text = other ++ inner) : inner = text := by
  obtain ⟨b, more, rfl, hspace, -⟩ := h.head
  obtain ⟨c, tail, rfl, hspace', -⟩ := htext.head
  have hskip := congrArg skipSpace heq
  rw [skipSpace_gap hgap hspace', skipSpace_gap hother hspace] at hskip
  exact hskip.symm

theorem MeansIn.follows_value (h : decoder.MeansIn view meaning) (hsound : decoder.SoundIn view) :
    decoder.Follows View.value := by
  rintro text rest value ⟨gap, inner, rfl, hgap, rfl⟩ hrest budget a behind
  have hpasses := value.passes_append rest
  by_cases hknown : ∃ x, view.spells value.text x []
  · obtain ⟨x, hspells⟩ := hknown
    obtain ⟨piece, htext, hpiece⟩ := view.detached hspells
    rw [List.append_nil] at htext
    subst htext
    have halone := @h value.text [] x ⟨[], _, rfl, blank_nil, hspells⟩ endsNumber_nil budget a []
    rw [@h _ rest x ⟨gap, _, rfl, hgap, hpiece rest⟩ hrest budget a behind, Yields]
    simp only [View.value, halone, true_and]
  · constructor
    · intro hread
      obtain ⟨x, other, inner, htext, hother, hspells⟩ := hsound hread
      obtain rfl := eq_of_gap hgap hother (view.passes hspells) hpasses htext
      rcases hpasses.numeral_or with ⟨n, hn⟩ | hnumeral
      · obtain ⟨x, hspells⟩ := view.numeral n []
        rw [List.append_nil, ← List.append_cancel_right hn] at hspells
        exact absurd ⟨x, hspells⟩ hknown
      · obtain rfl := hpasses.rest_eq (view.passes hspells) hnumeral
        obtain ⟨piece, hpiece, hdetached⟩ := view.detached hspells
        obtain rfl := List.append_cancel_right hpiece
        have hspelled := hdetached []
        rw [List.append_nil] at hspelled
        exact absurd ⟨x, hspelled⟩ hknown
    · rintro ⟨-, hread⟩
      obtain ⟨x, other, inner, htext, hother, hspells⟩ := hsound hread
      obtain rfl := eq_of_gap blank_nil hother (view.passes hspells) value.passes htext
      exact absurd ⟨x, hspells⟩ hknown

/-- Whatever is read is a value, and is read as it is alone. -/
structure ReadsValues (decoder : Decoder α) : Prop where
  follows : decoder.Follows View.value
  sound : decoder.SoundIn View.value

theorem SoundIn.value (h : decoder.SoundIn view) : decoder.SoundIn View.value := by
  intro budget text rest a hread
  obtain ⟨x, gap, inner, htext, hgap, hspells⟩ := h hread
  obtain ⟨value, hvalue⟩ := (view.passes hspells).value
  exact ⟨value, gap, inner, htext, hgap, hvalue⟩

theorem MeansIn.readsValues (h : decoder.MeansIn view meaning) (hsound : decoder.SoundIn view) :
    decoder.ReadsValues :=
  ⟨h.follows_value hsound, hsound.value⟩

theorem SoundIn.option (h : decoder.SoundIn View.value) :
    (Decoder.option decoder).SoundIn View.value := by
  intro budget text rest found hread
  obtain ⟨gap, hgap, htext⟩ := exists_gap text
  have hgiven : (decoder.read budget (skipSpace text)).map
      (fun read => (some read.1, read.2)) = .ok (found, rest) →
        ∃ x, View.value.Begins text x rest := by
    intro hread
    obtain ⟨⟨a, behind⟩, ha, hpair⟩ := Outcome.map_eq_ok.mp hread
    cases hpair
    obtain ⟨x, hbegins⟩ := h ha
    rw [htext]
    exact ⟨x, hbegins.behind hgap⟩
  unfold Decoder.option at hread
  dsimp only at hread
  cases hskip : skipSpace text with
  | nil =>
      rw [hskip] at hread hgiven
      exact hgiven hread
  | cons b more =>
      rw [hskip] at hread hgiven
      dsimp only at hread
      split at hread
      · rename_i hb
        obtain ⟨behind, hword, hpair⟩ := Outcome.map_eq_ok.mp hread
        cases hpair
        refine ⟨.null, gap, _, htext, hgap, ?_⟩
        rw [hskip, hb, readWord_sound hword]
        rfl
      · exact hgiven hread

theorem ReadsValues.option (h : decoder.ReadsValues) : (Decoder.option decoder).ReadsValues :=
  ⟨(MeansIn.option h.follows).follows, h.sound.option⟩

end Decoder

end ChainArchive.Json
