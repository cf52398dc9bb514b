import ChainArchive.Proofs.Json.Layout

namespace ChainArchive.Json

open Bytes

/-! What a record sees of a value: of an object the members that it asks for, and all of
anything else. -/

inductive Glimpses (asks : String → Prop) : Bytes → Tree → Bytes → Prop where
  | whole {text rest : Bytes} {tree : Tree} (h : Spells text tree rest) :
      Glimpses asks text tree rest
  | object {text rest : Bytes} {members : List (String × Tree)}
      (h : SpellsAsked View.tree asks true text members rest) :
      Glimpses asks (byte '\x7b' :: text) (.object members) rest

variable {asks : String → Prop}

def View.glimpse (asks : String → Prop) : View Tree where
  spells := Glimpses asks
  plain := Tree.text
  null := .null
  spells_plain tree rest := .whole (tree.spells_text rest)
  passes h := by
    cases h with
    | whole h => exact h.passes
    | object h => exact .object h.passes
  detached h := by
    cases h with
    | whole h => exact h.detached.imp .whole
    | object h => exact h.detached.cons .object
  numeral n rest := ⟨.number n, .whole (.number n rest)⟩
  null_iff h := by
    cases h with
    | whole h => exact h.null_iff
    | object h =>
        constructor
        · rintro ⟨⟩
        · rintro ⟨more, htext⟩
          exact absurd (List.cons.inj htext).1 (by decide)

/-! Rows. -/

theorem closeArray_sound {text rest : Bytes} (h : closeArray text = .ok rest) :
    ∃ gap, Blank gap ∧ text = gap ++ byte ']' :: rest := by
  obtain ⟨gap, hgap, htext⟩ := exists_gap text
  unfold closeArray at h
  split at h
  · cases h
  · rename_i b after hskip
    split at h
    · rename_i hb
      cases h
      exact ⟨gap, hgap, by rw [← hb, ← hskip, ← htext]⟩
    · split at h
      · split at h
        · cases h
        · split at h <;> cases h
      · cases h

theorem SpellsItems.nil_of_bracket {after rest : Bytes} {items : List Tree}
    (h : SpellsItems false (byte ']' :: after) items rest) : rest = after := by
  generalize htext : byte ']' :: after = text at h
  cases h with
  | close hgap =>
      have hskip := congrArg skipSpace htext
      rw [skipSpace_gap hgap (by decide), skipSpace_cons (by decide)] at hskip
      exact (List.cons.inj hskip).2.symm
  | item lead =>
      cases lead with
      | comma hgap =>
          have hskip := congrArg skipSpace htext
          rw [skipSpace_gap hgap (by decide), skipSpace_cons (by decide)] at hskip
          exact absurd (List.cons.inj hskip).1 (by decide)

namespace Record

variable {record : Record σ α}

theorem readColumns_sound {columns : List (Column σ)}
    (h : ∀ column ∈ columns, ∀ state, (column.decoder state).Sound) {width budget index : Nat}
    {state last : σ} {text inner rest : Bytes}
    (hread : record.readColumns width budget index columns state text = .ok (last, inner))
    (hclose : closeArray inner = .ok rest) :
    ∃ items, SpellsItems (index == 0) text items rest := by
  induction columns generalizing index state text with
  | nil =>
      cases hread
      obtain ⟨gap, hgap, rfl⟩ := closeArray_sound hclose
      exact ⟨[], .close hgap rest⟩
  | cons column columns ih =>
      have hcolumns := fun other hother => h other (List.mem_cons_of_mem column hother)
      obtain ⟨⟨more, behind⟩, hnext, hread⟩ := Outcome.bind_eq_ok.mp hread
      rcases nextElement_sound (orStop_eq_ok.mp hnext) with
        ⟨rfl, hlead⟩ | ⟨rfl, gap, after, hgap, rfl, rfl⟩
      · obtain ⟨⟨next, left⟩, hitem, hlater⟩ := Outcome.bind_eq_ok.mp hread
        obtain ⟨tree, other, value, rfl, hother, hspells⟩ :=
          h column (by simp) state (orStop_eq_ok.mp hitem)
        obtain ⟨items, hitems⟩ := ih hcolumns hlater
        exact ⟨tree :: items, .item (hlead.behind hother) hspells hitems⟩
      · dsimp only at hread
        split at hread
        · obtain ⟨items, hitems⟩ := ih hcolumns hread
          obtain rfl := hitems.nil_of_bracket
          exact ⟨[], .close hgap rest⟩
        · cases hread

/-- Of every text that is read the record has seen enough. -/
theorem Asks.sound_glimpse (h : record.Asks View.tree asks)
    (hcolumns : ∀ columns, record.columns = some columns →
      ∀ column ∈ columns, ∀ state, (column.decoder state).Sound) :
    record.decoder.SoundIn (View.glimpse asks) := by
  intro budget text rest a hread
  obtain ⟨head, hhead, hbody⟩ := Outcome.bind_eq_ok.mp hread
  obtain ⟨gap, inner, rfl, hgap, hspelled⟩ := readHead_sound hhead
  cases head with
  | scalar value behind => cases hbody
  | array behind =>
      cases hrow : record.columns with
      | none => simp [hrow] at hbody
      | some columns =>
          simp only [hrow] at hbody
          obtain ⟨smaller, -, harray⟩ := opened_eq_ok.mp hbody
          obtain ⟨inside, hinside, hclose⟩ := arrayResult_eq_ok harray
          obtain ⟨⟨last, left⟩, hitems, hfinish⟩ := Outcome.bind_eq_ok.mp hinside
          obtain ⟨-, rfl⟩ := stopAt_eq_ok.mp hfinish
          obtain ⟨items, hspells⟩ := readColumns_sound (hcolumns columns hrow) hitems hclose
          rw [hspelled]
          exact ⟨.array items, gap, _, rfl, hgap, .whole (.array hspells)⟩
  | object behind =>
      obtain ⟨smaller, -, hobject⟩ := opened_eq_ok.mp hbody
      obtain ⟨inside, hinside, hclose⟩ := objectResult_eq_ok hobject
      obtain ⟨⟨last, left⟩, hmembers, hfinish⟩ := Outcome.bind_eq_ok.mp hinside
      obtain ⟨-, rfl⟩ := stopAt_eq_ok.mp hfinish
      obtain ⟨members, after, rfl, hspells⟩ := h.foldMembers_sound (Nat.lt_succ_self _) hmembers
      cases hclose.symm.trans (closeObject_brace after)
      rw [hspelled]
      exact ⟨.object members, gap, _, rfl, hgap, .object hspells⟩

theorem Uniform.means_glimpse (h : record.Uniform)
    (hother : ∀ state name, ¬ asks name → record.slot state name = .ignored) :
    record.decoder.MeansIn (View.glimpse asks) fun budget tree a =>
      ∃ smaller, budget = smaller + 1 ∧ record.Lays smaller tree a := by
  rintro text rest tree ⟨gap, inner, rfl, hgap, hspells⟩ hrest budget a behind
  cases hspells with
  | whole hspells => exact h.means ⟨gap, inner, rfl, hgap, hspells⟩ hrest
  | object hspells =>
      unfold Record.decoder
      simp only [readHead_gap hgap, readHead_object, Outcome.ok_bind]
      cases budget with
      | zero => simp [opened]
      | succ smaller => simp [opened, h.toFollows.readObject hother hspells, Lays]

theorem Layout.readsValues (layout : record.Layout ι) (hcovers : layout.Covers)
    (huniform : ∀ place, (layout.decoder place).Uniform)
    (hsound : ∀ place, (layout.decoder place).Sound) : record.decoder.ReadsValues := by
  have hasks : record.Asks View.tree fun name => ∃ place, layout.name place = name :=
    layout.asks (fun _ => Iff.rfl) hsound
  have hcolumns : ∀ columns, record.columns = some columns →
      ∀ column ∈ columns, ∀ state, (column.decoder state).Sound := by
    intro columns hrow column hcolumn state
    obtain ⟨place, hplace⟩ := hcovers hrow column hcolumn
    rw [hplace]
    exact Decoder.SoundIn.map (hsound place) _
  exact ((layout.uniform huniform hcovers).means_glimpse hasks.other).readsValues
    (hasks.sound_glimpse hcolumns)

end Record

end ChainArchive.Json
