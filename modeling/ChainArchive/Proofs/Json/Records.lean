import ChainArchive.Proofs.Json.Asking
import ChainArchive.Proofs.Json.Uniform

namespace ChainArchive.Json

open Bytes

/-! Records whose members are read alike from every spelling: what they are left with is said
by the tree. -/

namespace Record

def Takes (record : Record σ α) (view : View β) (budget : Nat) (state : σ) (member : String × β)
    (next : σ) : Prop :=
  match record.slot state member.1 with
  | .refused _ => False
  | .ignored => next = state
  | .taken decoder => decoder.Yields view budget member.2 next

def Folds (record : Record σ α) (view : View β) (budget : Nat) :
    List (String × β) → σ → σ → Prop
  | [], state, last => last = state
  | member :: rest, state, last =>
      ∃ next, record.Takes view budget state member next ∧ record.Folds view budget rest next last

def Sums (record : Record σ α) (view : View β) (budget : Nat) (members : List (String × β))
    (a : α) : Prop :=
  ∃ last, record.Folds view budget members record.start last ∧ record.finish last = .ok a

/-- Every item has a column, and the columns beyond are optional. -/
def Fills (budget : Nat) : List (Column σ) → List Tree → σ → σ → Prop
  | [], [], state, last => last = state
  | [], _ :: _, _, _ => False
  | column :: columns, [], state, last =>
      column.optional = true ∧ Fills budget columns [] state last
  | column :: columns, item :: items, state, last =>
      ∃ next, (column.decoder state).Makes budget item next ∧ Fills budget columns items next last

def Lays (record : Record σ α) (budget : Nat) (tree : Tree) (a : α) : Prop :=
  match tree with
  | .object members => record.Sums View.tree budget members a
  | .array items =>
      ∃ columns last, record.columns = some columns ∧
        Fills budget columns items record.start last ∧ record.finish last = .ok a
  | _ => False

structure Follows (record : Record σ α) (view : View β) : Prop where
  slot : ∀ state key decoder, record.slot state key = .taken decoder → decoder.Follows view

structure Uniform (record : Record σ α) : Prop extends record.Follows View.tree where
  columns : ∀ columns, record.columns = some columns →
    ∀ column ∈ columns, ∀ state, (column.decoder state).Uniform

variable {record : Record σ α} {view : View β}

theorem readMember_ignored {state : σ} {name : String} (hslot : record.slot state name = .ignored)
    {after value behind : Bytes} (colon : Colon after value) (hpasses : Passes value behind)
    (hbehind : EndsNumber behind) (budget : Nat) :
    record.readMember budget state name after = .ok (state, behind) := by
  obtain ⟨gap, hgap, hcolon⟩ := colon.readColon_eq
  unfold Record.readMember
  simp only [hslot, hcolon, orStop, Outcome.ok_bind, hpasses.skip_eq hbehind hgap,
    Outcome.pure_eq_ok]

theorem Follows.readMember (h : record.Follows view) {after value behind rest : Bytes}
    {key : String} {x : β} (colon : Colon after value) (hspells : view.spells value x behind)
    (hbehind : EndsNumber behind) {budget : Nat} {state next : σ} :
    record.readMember budget state key after = .ok (next, rest) ↔
      rest = behind ∧ record.Takes view budget state (key, x) next := by
  unfold Takes
  dsimp only
  cases hslot : record.slot state key with
  | refused mismatch => simp [Record.readMember, hslot]
  | ignored =>
      simp only [readMember_ignored hslot colon (view.passes hspells) hbehind, Except.ok.injEq,
        Prod.mk.injEq, eq_comm, and_comm]
  | taken decoder =>
      obtain ⟨gap, hgap, hcolon⟩ := colon.readColon_eq
      have hread := @h.slot state key decoder hslot (gap ++ value) behind x
        ⟨gap, value, rfl, hgap, hspells⟩ hbehind budget next rest
      simp only [Record.readMember, hslot, hcolon, orStop_eq_ok.mpr rfl, Outcome.ok_bind]
      rw [orStop_eq_ok, hread]

theorem Follows.foldMembers (h : record.Follows view) {asks : String → Prop}
    (hother : ∀ state name, ¬ asks name → record.slot state name = .ignored) {first : Bool}
    {text rest : Bytes} {members : List (String × β)}
    (hspells : SpellsAsked view asks first text members rest) {fuel : Nat}
    (hfuel : text.length < fuel) {budget : Nat} {state last : σ} {behind : Bytes} :
    Json.foldMembers (record.readMember budget) fuel first state text = .ok (last, behind) ↔
      behind = byte '\x7d' :: rest ∧ record.Folds view budget members state last := by
  induction hspells generalizing state fuel with
  | close hgap =>
      obtain ⟨fuel, rfl⟩ := Nat.exists_eq_add_one.mpr (Nat.zero_lt_of_lt hfuel)
      simp only [Json.foldMembers, nextKey_close hgap, orStop, Outcome.ok_bind, Folds,
        Except.ok.injEq, Prod.mk.injEq, eq_comm, and_comm]
  | asked lead hname hasked colon hvalue more ih =>
      obtain ⟨fuel, rfl⟩ := Nat.exists_eq_add_one.mpr (Nat.zero_lt_of_lt hfuel)
      have hafter := lead.name_length_lt hname.length_lt
      have hcolon := colon.length_lt
      have hshorter := (view.passes hvalue).length_lt
      rw [Json.foldMembers, nextKey_lead lead hname, Folds]
      simp only [orStop, Outcome.ok_bind]
      rw [Outcome.bind_eq_ok]
      constructor
      · rintro ⟨⟨next, left⟩, hread, hfold⟩
        obtain ⟨rfl, htakes⟩ := (h.readMember colon hvalue more.endsNumber).mp hread
        obtain ⟨hrest, hfolds⟩ := (ih (by omega)).mp hfold
        exact ⟨hrest, next, htakes, hfolds⟩
      · rintro ⟨hrest, next, htakes, hfolds⟩
        exact ⟨(next, _), (h.readMember colon hvalue more.endsNumber).mpr ⟨rfl, htakes⟩,
          (ih (by omega)).mpr ⟨hrest, hfolds⟩⟩
  | other lead hname hnot colon hvalue more ih =>
      obtain ⟨fuel, rfl⟩ := Nat.exists_eq_add_one.mpr (Nat.zero_lt_of_lt hfuel)
      have hafter := lead.name_length_lt hname.length_lt
      have hcolon := colon.length_lt
      have hshorter := hvalue.length_lt
      rw [Json.foldMembers, nextKey_lead lead hname]
      simp only [orStop, Outcome.ok_bind,
        readMember_ignored (hother state _ hnot) colon hvalue more.endsNumber]
      exact ih (by omega)

theorem closeArray_lead {first : Bool} {text inner behind rest : Bytes} {tree : Tree}
    (lead : Lead first text inner) (h : Spells inner tree behind) :
    closeArray text ≠ .ok rest := by
  obtain ⟨b, more, rfl, hspace, hb⟩ := h.head
  unfold closeArray
  cases lead with
  | first hgap =>
      rw [skipSpace_gap hgap hspace]
      simp only [if_neg hb]
      split
      · split
        · simp
        · split <;> simp
      · simp
  | comma hgap hbehind =>
      have hcomma : byte ',' ≠ byte ']' := by decide
      rw [skipSpace_gap hgap (by decide)]
      simp [hcomma, skipSpace_gap hbehind hspace, hb]

theorem Uniform.readColumns {columns : List (Column σ)}
    (h : ∀ column ∈ columns, ∀ state, (column.decoder state).Uniform) {width budget index : Nat}
    {text rest : Bytes} {items : List Tree} (hspells : SpellsItems (index == 0) text items rest)
    {state last : σ} {behind : Bytes} :
    (∃ inner, record.readColumns width budget index columns state text = .ok (last, inner) ∧
        closeArray inner = .ok behind) ↔
      behind = rest ∧ Fills budget columns items state last := by
  induction columns generalizing index text items state with
  | nil =>
      -- The bracket alone tells a full row from one with an element too many.
      simp only [Record.readColumns, Except.ok.injEq, Prod.mk.injEq, and_assoc,
        exists_and_left, exists_eq_left']
      cases hspells with
      | close hgap =>
          rename_i gap
          have hclose : closeArray (gap ++ byte ']' :: rest) = .ok rest := by
            rw [closeArray, skipSpace_gap hgap (by decide)]
            simp only [if_true]
          simp only [hclose, Fills, Except.ok.injEq, eq_comm, and_comm]
      | item lead hvalue more =>
          simp only [closeArray_lead lead hvalue, Fills, and_false]
  | cons column columns ih =>
      have hcolumn := h column (by simp) state
      have hcolumns := fun other hother => h other (List.mem_cons_of_mem column hother)
      have hlater : (index + 1 == 0) = false := rfl
      cases hspells with
      | close hgap =>
          rw [Record.readColumns, nextElement_close hgap, Fills]
          simp only [orStop, Outcome.ok_bind]
          cases column.optional with
          | false => simp
          | true =>
              have hclose : SpellsItems (index + 1 == 0) (byte ']' :: rest) [] rest :=
                .close blank_nil rest
              simp only [if_true, ih hcolumns hclose, true_and]
      | item lead hvalue more =>
          rw [Record.readColumns, nextElement_lead lead hvalue, Fills]
          simp only [orStop, Outcome.ok_bind]
          have hread := @hcolumn _ _ _ ⟨[], _, rfl, blank_nil, hvalue⟩ more.endsNumber budget
          rw [← hlater] at more
          constructor
          · rintro ⟨inner, hstep, hclose⟩
            obtain ⟨⟨next, left⟩, hnext, hstep⟩ := Outcome.bind_eq_ok.mp hstep
            obtain ⟨rfl, hmakes⟩ := hread.mp (orStop_eq_ok.mp hnext)
            obtain ⟨hrest, hfills⟩ := (ih hcolumns more).mp ⟨inner, hstep, hclose⟩
            exact ⟨hrest, next, hmakes, hfills⟩
          · rintro ⟨hrest, next, hmakes, hfills⟩
            obtain ⟨inner, hstep, hclose⟩ := (ih hcolumns more).mpr ⟨hrest, hfills⟩
            have hnext := orStop_eq_ok.mpr (hread.mpr ⟨rfl, hmakes⟩)
            exact ⟨inner, Outcome.bind_eq_ok.mpr ⟨_, hnext, hstep⟩, hclose⟩

theorem Follows.readObject (h : record.Follows view) {asks : String → Prop}
    (hother : ∀ state name, ¬ asks name → record.slot state name = .ignored)
    {text rest behind : Bytes} {members : List (String × β)}
    (hspells : SpellsAsked view asks true text members rest) {budget : Nat} {a : α} :
    record.readObject budget text = .ok (a, behind) ↔
      behind = rest ∧ record.Sums view budget members a := by
  have hfold := fun state last inner =>
    @Follows.foldMembers _ _ _ record view h _ hother _ _ _ _ hspells _ (Nat.lt_succ_self _) budget
      state last inner
  unfold Record.readObject Sums
  constructor
  · intro hread
    obtain ⟨inner, hread, hclose⟩ := objectResult_eq_ok hread
    obtain ⟨⟨last, left⟩, hmembers, hfinish⟩ := Outcome.bind_eq_ok.mp hread
    obtain ⟨hlast, rfl⟩ := stopAt_eq_ok.mp hfinish
    obtain ⟨rfl, hfolds⟩ := (hfold _ _ _).mp hmembers
    rw [closeObject_brace] at hclose
    cases hclose
    exact ⟨rfl, last, hfolds, hlast⟩
  · rintro ⟨rfl, last, hfolds, hfinish⟩
    rw [(hfold _ _ _).mpr ⟨rfl, hfolds⟩]
    simp only [Outcome.ok_bind, hfinish, stopAt, objectResult, closeObject_brace, Outcome.map_ok]

theorem Uniform.readArray (h : record.Uniform) {columns : List (Column σ)}
    (hcolumns : record.columns = some columns) {text rest behind : Bytes} {items : List Tree}
    (hspells : SpellsItems true text items rest) {budget : Nat} {a : α} :
    record.readArray columns budget text = .ok (a, behind) ↔
      behind = rest ∧ record.Lays budget (.array items) a := by
  have hfill := fun state last behind =>
    @Uniform.readColumns _ _ record _ (h.columns columns hcolumns) columns.length budget 0 _ _ _
      hspells state last behind
  unfold Record.readArray Lays
  constructor
  · intro hread
    obtain ⟨inner, hread, hclose⟩ := arrayResult_eq_ok hread
    obtain ⟨⟨last, left⟩, hitems, hfinish⟩ := Outcome.bind_eq_ok.mp hread
    obtain ⟨hlast, rfl⟩ := stopAt_eq_ok.mp hfinish
    obtain ⟨rfl, hfills⟩ := (hfill _ _ _).mp ⟨left, hitems, hclose⟩
    exact ⟨rfl, columns, last, hcolumns, hfills, hlast⟩
  · rintro ⟨rfl, others, last, hothers, hfills, hfinish⟩
    cases hcolumns.symm.trans hothers
    obtain ⟨inner, hitems, hclose⟩ := (hfill _ _ _).mpr ⟨rfl, hfills⟩
    rw [hitems]
    simp only [Outcome.ok_bind, hfinish, stopAt, arrayResult, hclose, Outcome.map_ok]

theorem Uniform.means (h : record.Uniform) :
    record.decoder.Means fun budget tree a =>
      ∃ smaller, budget = smaller + 1 ∧ record.Lays smaller tree a := by
  rintro text rest tree ⟨gap, inner, rfl, hgap, hspells⟩ hrest budget a behind
  unfold Record.decoder
  simp only [readHead_gap hgap]
  rcases hspells.head_cases hrest with ⟨text, items, rfl, rfl, hitems⟩ |
    ⟨text, members, rfl, rfl, hmembers⟩ | ⟨hscalar, harray, hobject⟩
  · rw [readHead_array, Outcome.ok_bind]
    cases hcolumns : record.columns with
    | none => simp [Lays, hcolumns]
    | some columns =>
        cases budget with
        | zero => simp [opened]
        | succ smaller => simp [opened, h.readArray hcolumns hitems]
  · rw [readHead_object, Outcome.ok_bind]
    cases budget with
    | zero => simp [opened]
    | succ smaller => simp [opened, h.toFollows.readObject (by simp) hmembers.all_asked, Lays]
  · constructor
    · intro hread
      obtain ⟨head, hhead, hread⟩ := Outcome.bind_eq_ok.mp hread
      obtain ⟨value, rfl⟩ := hscalar head hhead
      cases hread
    · rintro ⟨-, smaller, -, hlays⟩
      cases tree with
      | array items => exact absurd rfl (harray items)
      | object members => exact absurd rfl (hobject members)
      | _ => exact hlays.elim

/-- A text with an object means what the members asked for come to. -/
theorem Follows.decode_holds (h : record.Follows view) {asks : String → Prop}
    (hother : ∀ state name, ¬ asks name → record.slot state name = .ignored) {text : Bytes}
    {members : List (String × β)} (hholds : view.Holds asks text members) {a : α} :
    record.decoder.decode text = .ok a ↔ record.Sums view (maxDepth - 1) members a := by
  obtain ⟨gap, inner, behind, rfl, hgap, hspells, hbehind⟩ := hholds
  have hread : ∀ rest, record.decoder.read maxDepth (gap ++ byte '\x7b' :: inner) = .ok (a, rest) ↔
      record.readObject (maxDepth - 1) inner = .ok (a, rest) := by
    intro rest
    simp only [Record.decoder, readHead_gap hgap, readHead_object, Outcome.ok_bind, opened,
      maxDepth]
  exact readWhole_iff (fun rest => (hread rest).trans (h.readObject hother hspells)) hbehind

theorem Uniform.decoder (h : record.Uniform) : record.decoder.Uniform := h.means.uniform

end Record

end ChainArchive.Json
