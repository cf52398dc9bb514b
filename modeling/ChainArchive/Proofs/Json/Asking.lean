import ChainArchive.Proofs.Json.Faithful
import ChainArchive.Proofs.Json.Ignoring
import ChainArchive.Proofs.Json.Views

namespace ChainArchive.Json

open Bytes

/-! Objects of which some members are asked for: all others are passed over, whatever their
number, their places and their values. -/

/-- Up to the closing brace, with the members asked for in order. -/
inductive SpellsAsked (view : View β) (asks : String → Prop) :
    Bool → Bytes → List (String × β) → Bytes → Prop where
  | close {first : Bool} {gap : Bytes} (h : Blank gap) (rest : Bytes) :
      SpellsAsked view asks first (gap ++ byte '\x7d' :: rest) [] rest
  | asked {first : Bool} {text inner after value behind rest : Bytes} {name : String}
      {x : β} {members : List (String × β)}
      (lead : Lead first text (byte '"' :: inner))
      (hname : SpellsChars inner (ofString name) after) (hasked : asks name)
      (colon : Colon after value) (h : view.spells value x behind)
      (more : SpellsAsked view asks false behind members rest) :
      SpellsAsked view asks first text ((name, x) :: members) rest
  | other {first : Bool} {text inner after value behind rest : Bytes} {name : String}
      {members : List (String × β)} (lead : Lead first text (byte '"' :: inner))
      (hname : SpellsChars inner (ofString name) after) (hother : ¬ asks name)
      (colon : Colon after value) (h : Passes value behind)
      (more : SpellsAsked view asks false behind members rest) :
      SpellsAsked view asks first text members rest

def View.Holds (view : View β) (asks : String → Prop) (text : Bytes)
    (members : List (String × β)) : Prop :=
  ∃ gap inner behind, text = gap ++ byte '\x7b' :: inner ∧ Blank gap ∧
    SpellsAsked view asks true inner members behind ∧ Blank behind

/-- What is asked for is known by its trees. -/
def Offers (asks : String → Prop) (text : Bytes) (members : List (String × Tree)) : Prop :=
  View.tree.Holds asks text members

variable {view : View β} {asks : String → Prop}

namespace SpellsAsked

theorem endsNumber {text rest : Bytes} {members : List (String × β)}
    (h : SpellsAsked view asks false text members rest) : EndsNumber text := by
  cases h with
  | close h rest => exact endsNumber_gap h (endsNumber_brace rest)
  | asked lead => exact lead.endsNumber
  | other lead => exact lead.endsNumber

theorem passes {first : Bool} {text rest : Bytes} {members : List (String × β)}
    (h : SpellsAsked view asks first text members rest) : PassesMembers first text rest := by
  induction h with
  | close hgap rest => exact .close hgap rest
  | asked lead hname _ colon hvalue _ ih =>
      exact .member lead hname.passes colon (view.passes hvalue) ih
  | other lead hname _ colon hvalue _ ih => exact .member lead hname.passes colon hvalue ih

theorem detached {first : Bool} {text rest : Bytes} {members : List (String × β)}
    (h : SpellsAsked view asks first text members rest) :
    Detached (SpellsAsked view asks first · members ·) text rest := by
  induction h with
  | close hgap rest => exact .gap (.close hgap)
  | asked lead hname hasked colon hvalue _ ih =>
      exact (lead.detached_quote.comp (hname.detached.comp
        (colon.detached.comp ((view.detached hvalue).comp ih)))).imp
        fun ⟨_, lead, _, hname, _, colon, _, h, more⟩ => .asked lead hname hasked colon h more
  | other lead hname hother colon hvalue _ ih =>
      exact (lead.detached_quote.comp (hname.detached.comp
        (colon.detached.comp (hvalue.detached.comp ih)))).imp
        fun ⟨_, lead, _, hname, _, colon, _, h, more⟩ => .other lead hname hother colon h more

end SpellsAsked

theorem SpellsMembers.asked [DecidablePred asks] {first : Bool} {text rest : Bytes}
    {members : List (String × Tree)} (h : SpellsMembers first text members rest) :
    SpellsAsked View.tree asks first text (members.filter fun member => asks member.1) rest := by
  induction members generalizing first text with
  | nil =>
      cases h with
      | close hgap => exact .close hgap rest
  | cons member members ih =>
      cases h with
      | @member _ _ _ _ _ _ _ name tree _ lead hname colon hvalue more =>
          by_cases hasked : asks name
          · rw [List.filter_cons_of_pos (by simpa using hasked)]
            exact .asked lead hname hasked colon hvalue (ih more)
          · rw [List.filter_cons_of_neg (by simpa using hasked)]
            exact .other lead hname hasked colon hvalue.passes (ih more)

theorem SpellsMembers.all_asked {first : Bool} {text rest : Bytes}
    {members : List (String × Tree)} (h : SpellsMembers first text members rest) :
    SpellsAsked View.tree (fun _ => True) first text members rest := by
  have hasked := @SpellsMembers.asked (fun _ => True) _ first text rest members h
  rwa [List.filter_eq_self.mpr (by simp)] at hasked

theorem Document.offers (asks : String → Prop) [DecidablePred asks] {text : Bytes}
    {members : List (String × Tree)} (h : Document text (.object members)) :
    Offers asks text (members.filter fun member => asks member.1) := by
  obtain ⟨gap, inner, behind, rfl, hgap, hspells, hbehind⟩ := h
  cases hspells with
  | object hmembers => exact ⟨gap, _, behind, rfl, hgap, hmembers.asked, hbehind⟩

/-! Members of any values can be written. -/

namespace Value

def members : Bool → List (String × Value) → Bytes
  | _, [] => [byte '\x7d']
  | true, (name, value) :: rest => renderKey name ++ (value.text ++ members false rest)
  | false, (name, value) :: rest =>
      byte ',' :: (renderKey name ++ (value.text ++ members false rest))

theorem spellsAsked_members (asks : String → Prop) [DecidablePred asks] (first : Bool)
    (given : List (String × Value)) :
    SpellsAsked View.value asks first (members first given)
      (given.filter fun member => asks member.1) [] := by
  induction given generalizing first with
  | nil =>
      rw [members]
      exact .close blank_nil []
  | cons member rest ih =>
      obtain ⟨name, value⟩ := member
      obtain ⟨inner, hkey, hname⟩ :=
        spellsChars_renderKey name (value.text ++ members false rest)
      have lead : Lead first (members first ((name, value) :: rest)) (byte '"' :: inner) := by
        rw [← hkey]
        cases first with
        | true => exact @Lead.first [] _ blank_nil
        | false => exact @Lead.comma [] [] _ blank_nil blank_nil
      have colon := @Colon.mk [] [] (value.text ++ members false rest) blank_nil blank_nil
      by_cases hasked : asks name
      · rw [List.filter_cons_of_pos (by simpa using hasked)]
        exact .asked lead hname hasked colon rfl (ih false)
      · rw [List.filter_cons_of_neg (by simpa using hasked)]
        exact .other lead hname hasked colon (value.passes_append _) (ih false)

def object (given : List (String × Value)) : Value where
  text := byte '\x7b' :: members true given
  passes := .object (spellsAsked_members (fun _ => False) true given).passes

theorem holds_object (asks : String → Prop) [DecidablePred asks]
    (given : List (String × Value)) :
    View.value.Holds asks (object given).text (given.filter fun member => asks member.1) :=
  ⟨[], _, [], rfl, blank_nil, spellsAsked_members asks true given, blank_nil⟩

end Value

/-! Nothing else is read. -/

namespace Decoder

def Sound (decoder : Decoder α) : Prop := decoder.SoundIn View.tree

theorem Faithful.sound {decoder : Decoder α} (h : decoder.Faithful) : decoder.Sound := by
  intro budget text rest a hread
  obtain ⟨value, hvalue, -⟩ := h hread
  exact readValue_sound hvalue

theorem SoundIn.map {decoder : Decoder α} (h : decoder.SoundIn view) (f : α → γ) :
    (decoder.map f).SoundIn view := by
  intro budget text rest b hread
  obtain ⟨a, ha, -⟩ := map_read_eq_ok hread
  exact h ha

theorem Sound.list {decoder : Decoder α} (h : decoder.Sound) : (Decoder.list decoder).Sound := by
  intro budget text rest items hread
  obtain ⟨head, hhead, hread⟩ := Outcome.bind_eq_ok.mp hread
  obtain ⟨gap, inner, rfl, hgap, hspelled⟩ := readHead_sound hhead
  cases head with
  | scalar value behind => cases hread
  | object behind => cases hread
  | array behind =>
      obtain ⟨smaller, -, hread⟩ := opened_eq_ok.mp hread
      obtain ⟨⟨reversed, after⟩, hitems, hpair⟩ := Outcome.bind_eq_ok.mp hread
      cases hpair
      rw [hspelled]
      obtain ⟨trees, hbegins⟩ := begins_array (fun hitem => by
        obtain ⟨⟨item, left⟩, hitem, hpair⟩ := Outcome.bind_eq_ok.mp hitem
        cases hpair
        exact h (orStop_eq_ok.mp hitem)) hgap hitems
      exact ⟨.array trees, hbegins⟩

end Decoder

namespace Record

structure Asks (record : Record σ α) (view : View β) (asks : String → Prop) : Prop where
  asked : ∀ state name, asks name → record.slot state name ≠ .ignored
  other : ∀ state name, ¬ asks name → record.slot state name = .ignored
  sound : ∀ state name taken, record.slot state name = .taken taken → taken.SoundIn view

variable {record : Record σ α}

theorem Asks.readMember_sound (h : record.Asks view asks) {budget : Nat} {state next : σ}
    {name : String} {text rest : Bytes}
    (hread : record.readMember budget state name text = .ok (next, rest)) :
    ∃ value, Colon text value ∧
      (asks name ∧ (∃ x, view.spells value x rest) ∨ ¬ asks name ∧ Passes value rest) := by
  unfold Record.readMember at hread
  split at hread
  · cases hread
  · rename_i hslot
    obtain ⟨behind, hcolon, hread⟩ := Outcome.bind_eq_ok.mp hread
    obtain ⟨left, hskip, hpair⟩ := Outcome.bind_eq_ok.mp hread
    cases hpair
    obtain ⟨gap, value, rfl, hgap, hpasses⟩ := skip_sound (orStop_eq_ok.mp hskip)
    refine ⟨value, (readColon_sound (orStop_eq_ok.mp hcolon)).behind hgap, .inr ⟨?_, hpasses⟩⟩
    exact fun hasked => h.asked state name hasked hslot
  · rename_i taken hslot
    obtain ⟨behind, hcolon, hread⟩ := Outcome.bind_eq_ok.mp hread
    obtain ⟨x, gap, value, rfl, hgap, hspells⟩ :=
      h.sound state name taken hslot (orStop_eq_ok.mp hread)
    refine ⟨value, (readColon_sound (orStop_eq_ok.mp hcolon)).behind hgap, .inl ⟨?_, x, hspells⟩⟩
    by_cases hasked : asks name
    · exact hasked
    · cases hslot.symm.trans (h.other state name hasked)

theorem Asks.foldMembers_sound (h : record.Asks view asks) {budget fuel : Nat} {first : Bool}
    {state last : σ} {text rest : Bytes} (hfuel : text.length < fuel)
    (hfold : foldMembers (record.readMember budget) fuel first state text = .ok (last, rest)) :
    ∃ members after, rest = byte '\x7d' :: after ∧
      SpellsAsked view asks first text members after := by
  refine foldMembers_induct (motive := fun first _ text => ∃ members after,
      rest = byte '\x7d' :: after ∧ SpellsAsked view asks first text members after)
    (fun hgap hrest => ⟨[], _, hrest, .close hgap _⟩) ?_ ?_ hfuel hfold
  · intro first state next text inner after behind name hlead hname hstep hmore
    obtain ⟨members, closed, hrest, hmembers⟩ := hmore
    obtain ⟨value, hcolon, ⟨hasked, x, hspells⟩ | ⟨hother, hpasses⟩⟩ :=
      h.readMember_sound hstep
    · exact ⟨(name, x) :: members, closed, hrest,
        .asked hlead hname hasked hcolon hspells hmembers⟩
    · exact ⟨members, closed, hrest, .other hlead hname hother hcolon hpasses hmembers⟩
  · intro state next name text rest hstep
    obtain ⟨value, hcolon, ⟨-, x, hspells⟩ | ⟨-, hpasses⟩⟩ := h.readMember_sound hstep
    · exact Nat.lt_trans (view.passes hspells).length_lt hcolon.length_lt
    · exact Nat.lt_trans hpasses.length_lt hcolon.length_lt

theorem Asks.holds (h : record.Asks view asks) {text gap inner : Bytes} {a : α} (hgap : Blank gap)
    (htext : text = gap ++ byte '\x7b' :: inner) (hdecode : record.decoder.decode text = .ok a) :
    ∃ members, view.Holds asks text members := by
  obtain ⟨rest, hread, hrest⟩ := readWhole_eq_ok.mp hdecode
  rw [htext] at hread
  obtain ⟨head, hhead, hread⟩ := Outcome.bind_eq_ok.mp hread
  rw [readHead_gap hgap, readHead_object] at hhead
  cases hhead
  obtain ⟨smaller, -, hread⟩ := opened_eq_ok.mp hread
  obtain ⟨inside, hread, hclose⟩ := objectResult_eq_ok hread
  obtain ⟨⟨last, left⟩, hmembers, hfinish⟩ := Outcome.bind_eq_ok.mp hread
  obtain ⟨-, rfl⟩ := stopAt_eq_ok.mp hfinish
  obtain ⟨members, after, rfl, hspells⟩ := h.foldMembers_sound (Nat.lt_succ_self _) hmembers
  cases hclose.symm.trans (closeObject_brace after)
  exact ⟨members, gap, inner, _, htext, hgap, hspells, hrest⟩

end Record

end ChainArchive.Json
