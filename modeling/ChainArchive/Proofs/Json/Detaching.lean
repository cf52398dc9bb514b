import ChainArchive.Proofs.Json.Passing
import Mathlib.Data.List.Induction
import Mathlib.Logic.Relation

namespace ChainArchive.Json

/-! What stands in front of a rest, spelled or passed over, stands so in front of any other. -/

/-- The part of the text in front of the rest is related to whatever comes behind it. -/
def Detached (related : Bytes → Bytes → Prop) (text rest : Bytes) : Prop :=
  ∃ piece, text = piece ++ rest ∧ ∀ other, related (piece ++ other) other

namespace Detached

variable {related other whole : Bytes → Bytes → Prop} {text middle rest : Bytes}

theorem cons (h : Detached related text rest) {b : UInt8}
    (begin : ∀ {text rest}, related text rest → whole (b :: text) rest) :
    Detached whole (b :: text) rest := by
  obtain ⟨piece, rfl, hpiece⟩ := h
  exact ⟨b :: piece, rfl, fun other => begin (hpiece other)⟩

theorem gap {gap : Bytes} {b : UInt8} (close : ∀ rest, whole (gap ++ b :: rest) rest) :
    Detached whole (gap ++ b :: rest) rest := by
  refine ⟨gap ++ [b], by simp, fun other => ?_⟩
  rw [List.append_assoc]
  exact close other

theorem comp (h : Detached related text middle) (hmore : Detached other middle rest) :
    Detached (Relation.Comp related other) text rest := by
  obtain ⟨piece, rfl, hpiece⟩ := h
  obtain ⟨more, rfl, hother⟩ := hmore
  refine ⟨piece ++ more, (List.append_assoc _ _ _).symm, fun behind => ?_⟩
  refine ⟨more ++ behind, ?_, hother behind⟩
  rw [List.append_assoc]
  exact hpiece _

theorem imp (h : Detached related text rest)
    (himp : ∀ {text rest}, related text rest → whole text rest) : Detached whole text rest := by
  obtain ⟨piece, htext, hpiece⟩ := h
  exact ⟨piece, htext, fun other => himp (hpiece other)⟩

end Detached

theorem SpellsChars.detached {text bytes rest : Bytes} (h : SpellsChars text bytes rest) :
    Detached (SpellsChars · bytes ·) text rest := by
  induction h with
  | close rest => exact ⟨[byte '"'], rfl, .close⟩
  | plain hquote hslash hplain _ ih =>
      exact ih.cons fun h => .plain hquote hslash hplain h
  | short he hshort _ ih =>
      obtain ⟨piece, rfl, hpiece⟩ := ih
      exact ⟨_ :: _ :: piece, rfl, fun other => .short he hshort (hpiece other)⟩
  | unit hunit hlow hhigh _ ih =>
      obtain ⟨piece, rfl, hpiece⟩ := ih
      exact ⟨_ :: _ :: _ :: _ :: _ :: _ :: piece, rfl,
        fun other => .unit hunit hlow hhigh (hpiece other)⟩
  | pair hunit hlow hhigh hnext hpair _ ih =>
      obtain ⟨piece, rfl, hpiece⟩ := ih
      exact ⟨_ :: _ :: _ :: _ :: _ :: _ :: _ :: _ :: _ :: _ :: _ :: _ :: piece, rfl,
        fun other => .pair hunit hlow hhigh hnext hpair (hpiece other)⟩

theorem Lead.detached {first : Bool} {text inner : Bytes} (h : Lead first text inner) :
    Detached (Lead first) text inner := by
  cases h with
  | @first gap _ hgap => exact ⟨gap, rfl, fun _ => .first hgap⟩
  | @comma gap behind _ hgap hbehind =>
      refine ⟨gap ++ byte ',' :: behind, by simp, fun other => ?_⟩
      rw [List.append_assoc, List.cons_append]
      exact .comma hgap hbehind

theorem Lead.detached_quote {first : Bool} {text inner : Bytes}
    (h : Lead first text (byte '"' :: inner)) :
    Detached (fun text inner => Lead first text (byte '"' :: inner)) text inner := by
  obtain ⟨piece, rfl, hpiece⟩ := h.detached
  refine ⟨piece ++ [byte '"'], by simp, fun other => ?_⟩
  rw [List.append_assoc]
  exact hpiece (byte '"' :: other)

theorem Colon.detached {text value : Bytes} (h : Colon text value) :
    Detached Colon text value := by
  cases h with
  | @mk gap behind _ hgap hbehind =>
      refine ⟨gap ++ byte ':' :: behind, by simp, fun other => ?_⟩
      rw [List.append_assoc, List.cons_append]
      exact .mk hgap hbehind

mutual

theorem Spells.detached {text rest : Bytes} {tree : Tree} :
    Spells text tree rest → Detached (Spells · tree ·) text rest
  | .null _ => ⟨_, rfl, .null⟩
  | .bool b _ => ⟨_, rfl, .bool b⟩
  | .number n _ => ⟨_, rfl, .number n⟩
  | .string h => h.detached.cons .string
  | .array h => h.detached.cons .array
  | .object h => h.detached.cons .object

theorem SpellsItems.detached {first : Bool} {text rest : Bytes} {items : List Tree} :
    SpellsItems first text items rest → Detached (SpellsItems first · items ·) text rest
  | .close hgap _ => .gap (.close hgap)
  | .item lead h more => (lead.detached.comp (h.detached.comp more.detached)).imp
      fun ⟨_, lead, _, h, more⟩ => .item lead h more

theorem SpellsMembers.detached {first : Bool} {text rest : Bytes}
    {members : List (String × Tree)} :
    SpellsMembers first text members rest → Detached (SpellsMembers first · members ·) text rest
  | .close hgap _ => .gap (.close hgap)
  | .member lead hname colon h more =>
      (lead.detached_quote.comp (hname.detached.comp
        (colon.detached.comp (h.detached.comp more.detached)))).imp
      fun ⟨_, lead, _, hname, _, colon, _, h, more⟩ => .member lead hname colon h more

end

theorem PassesChars.detached {text rest : Bytes} (h : PassesChars text rest) :
    Detached PassesChars text rest := by
  induction h with
  | close rest => exact ⟨[byte '"'], rfl, .close⟩
  | plain hquote hslash hplain _ ih =>
      exact ih.cons fun h => .plain hquote hslash hplain h
  | short he hshort _ ih =>
      obtain ⟨piece, rfl, hpiece⟩ := ih
      exact ⟨_ :: _ :: piece, rfl, fun other => .short he hshort (hpiece other)⟩
  | unit hunit _ ih =>
      obtain ⟨piece, rfl, hpiece⟩ := ih
      exact ⟨_ :: _ :: _ :: _ :: _ :: _ :: piece, rfl, fun other => .unit hunit (hpiece other)⟩

mutual

theorem Passes.detached {text rest : Bytes} : Passes text rest → Detached Passes text rest
  | .null _ => ⟨_, rfl, .null⟩
  | .bool b _ => ⟨_, rfl, .bool b⟩
  | .number n _ => ⟨_, rfl, .number n⟩
  | .string h => h.detached.cons .string
  | .array h => h.detached.cons .array
  | .object h => h.detached.cons .object

theorem PassesItems.detached {first : Bool} {text rest : Bytes} :
    PassesItems first text rest → Detached (PassesItems first) text rest
  | .close hgap _ => .gap (.close hgap)
  | .item lead h more => (lead.detached.comp (h.detached.comp more.detached)).imp
      fun ⟨_, lead, _, h, more⟩ => .item lead h more

theorem PassesMembers.detached {first : Bool} {text rest : Bytes} :
    PassesMembers first text rest → Detached (PassesMembers first) text rest
  | .close hgap _ => .gap (.close hgap)
  | .member lead hname colon h more =>
      (lead.detached_quote.comp (hname.detached.comp
        (colon.detached.comp (h.detached.comp more.detached)))).imp
      fun ⟨_, lead, _, hname, _, colon, _, h, more⟩ => .member lead hname colon h more

end

theorem SpellsMembers.closed {first : Bool} {text rest : Bytes}
    {members : List (String × Tree)} (h : SpellsMembers first text members rest) :
    ∃ front, text = front ++ byte '\x7d' :: rest := by
  induction members generalizing first text with
  | nil =>
      cases h with
      | @close _ gap _ _ => exact ⟨gap, rfl⟩
  | cons member members ih =>
      cases h with
      | member lead hname colon h more =>
          obtain ⟨start, rfl, -⟩ := lead.detached_quote
          obtain ⟨quoted, rfl, -⟩ := hname.detached
          obtain ⟨middle, rfl, -⟩ := colon.detached
          obtain ⟨value, rfl, -⟩ := h.detached
          obtain ⟨front, rfl⟩ := ih more
          exact ⟨start ++ (quoted ++ (middle ++ (value ++ front))), by simp⟩

theorem Spells.closed {text rest : Bytes} {members : List (String × Tree)}
    (h : Spells text (.object members) rest) : ∃ front, text = front ++ byte '\x7d' :: rest := by
  cases h with
  | object h =>
      obtain ⟨front, rfl⟩ := h.closed
      exact ⟨byte '\x7b' :: front, rfl⟩

/-! White space behind a document. -/

theorem Document.append_blank {text gap : Bytes} {tree : Tree} (h : Document text tree)
    (hgap : Blank gap) : Document (text ++ gap) tree := by
  obtain ⟨lead, inner, behind, rfl, hlead, hspells, hbehind⟩ := h
  exact ⟨lead, inner ++ gap, behind ++ gap, List.append_assoc lead inner gap, hlead,
    hspells.append gap, hbehind.append hgap⟩

theorem Document.of_append_blank {text gap : Bytes} {members : List (String × Tree)}
    (h : Document (text ++ gap) (.object members)) (hgap : Blank gap) :
    Document text (.object members) := by
  obtain ⟨lead, inner, behind, htext, hlead, hspells, hbehind⟩ := h
  obtain ⟨front, hfront⟩ := hspells.closed
  obtain ⟨piece, rfl, hpiece⟩ := hspells.detached
  have hbrace : piece = front ++ [byte '\x7d'] := by
    apply List.append_cancel_right
    rw [hfront, List.append_assoc, List.singleton_append]
  obtain ⟨kept, hkept, hrest⟩ : ∃ kept, text = lead ++ piece ++ kept ∧ behind = kept ++ gap := by
    rw [← List.append_assoc] at htext
    rcases List.append_eq_append_iff.mp htext with ⟨more, hmore, hgapEq⟩ | hkept
    · cases more using List.reverseRecOn with
      | nil => exact ⟨[], by simpa using hmore.symm, hgapEq.symm⟩
      | append_singleton more b =>
          -- the brace would be white space
          have hlast := congrArg List.getLast? hmore
          rw [hbrace, ← List.append_assoc, ← List.append_assoc, List.getLast?_concat,
            List.getLast?_concat, Option.some.injEq] at hlast
          have hblank := hgap b (by simp [hgapEq])
          rw [← hlast] at hblank
          exact absurd hblank (by decide)
    · exact hkept
  refine ⟨lead, piece ++ kept, kept, by rw [hkept, List.append_assoc], hlead, hpiece kept, ?_⟩
  exact fun b hb => hbehind b (by simp [hrest, hb])

end ChainArchive.Json
