import ChainArchive.Proofs.Digits
import ChainArchive.Proofs.Json.Scalars

namespace ChainArchive.Json

open Bytes

/-! JSON texts, without a reader: which trees they spell. Every relation says with what a
text begins and what is left behind it. -/

def Blank (gap : Bytes) : Prop := ∀ b ∈ gap, isSpace b = true

def Digits (text : Bytes) : Prop := ∀ b ∈ text, isDigit b = true

/-! Numbers. -/

inductive Whole : Bytes → Prop where
  | zero : Whole [byte '0']
  | digits {b : UInt8} {rest : Bytes} (hb : isDigit b = true) (hne : b ≠ byte '0')
      (h : Digits rest) : Whole (b :: rest)

inductive Scale : Bytes → Prop where
  | none : Scale []
  | power {letter : UInt8} {sign digits : Bytes} (hletter : isExponentLetter letter = true)
      (hsign : sign = [] ∨ sign = [byte '-'] ∨ sign = [byte '+']) (hne : digits ≠ [])
      (h : Digits digits) : Scale (letter :: (sign ++ digits))

inductive Places : Bytes → Prop where
  | scale {text : Bytes} (h : Scale text) : Places text
  | fraction {digits scale : Bytes} (hne : digits ≠ []) (h : Digits digits)
      (hscale : Scale scale) : Places (byte '.' :: (digits ++ scale))

structure Numeral where
  negative : Bool
  whole : Bytes
  places : Bytes
  isWhole : Whole whole
  isPlaces : Places places

namespace Numeral

def sign (n : Numeral) : Bytes := if n.negative then [byte '-'] else []

def text (n : Numeral) : Bytes := n.sign ++ n.whole ++ n.places

def integer? (n : Numeral) : Option Int :=
  if n.places = [] then
    some (if n.negative then -(continued 0 n.whole : Int) else (continued 0 n.whole : Int))
  else none

end Numeral

/-! Strings. -/

inductive SpellsChars : Bytes → Bytes → Bytes → Prop where
  | close (rest : Bytes) : SpellsChars (byte '"' :: rest) [] rest
  | plain {b : UInt8} {text bytes rest : Bytes} (hquote : b ≠ byte '"')
      (hslash : b ≠ byte '\\') (hplain : ¬ b < 32) (h : SpellsChars text bytes rest) :
      SpellsChars (b :: text) (b :: bytes) rest
  | short {e c : UInt8} {text bytes rest : Bytes} (he : e ≠ byte 'u')
      (hshort : shortEscape? e = some c) (h : SpellsChars text bytes rest) :
      SpellsChars (byte '\\' :: e :: text) (c :: bytes) rest
  | unit {h₁ h₂ h₃ h₄ : UInt8} {unit : Nat} {text bytes rest : Bytes}
      (hunit : hexUnit? h₁ h₂ h₃ h₄ = some unit) (hlow : isLowSurrogate unit = false)
      (hhigh : isHighSurrogate unit = false) (h : SpellsChars text bytes rest) :
      SpellsChars (byte '\\' :: byte 'u' :: h₁ :: h₂ :: h₃ :: h₄ :: text) (utf8 unit ++ bytes)
        rest
  | pair {h₁ h₂ h₃ h₄ l₁ l₂ l₃ l₄ : UInt8} {high low : Nat} {text bytes rest : Bytes}
      (hunit : hexUnit? h₁ h₂ h₃ h₄ = some high) (hlow : isLowSurrogate high = false)
      (hhigh : isHighSurrogate high = true) (hnext : hexUnit? l₁ l₂ l₃ l₄ = some low)
      (hpair : isLowSurrogate low = true) (h : SpellsChars text bytes rest) :
      SpellsChars
        (byte '\\' :: byte 'u' :: h₁ :: h₂ :: h₃ :: h₄ ::
          byte '\\' :: byte 'u' :: l₁ :: l₂ :: l₃ :: l₄ :: text)
        (utf8 (pairCode high low) ++ bytes) rest

/-! Values. -/

/-- A value as it is written, but for white space and escapes. -/
inductive Tree where
  | null
  | bool (value : Bool)
  | number (numeral : Numeral)
  | string (value : String)
  | array (items : List Tree)
  | object (members : List (String × Tree))

inductive Lead : Bool → Bytes → Bytes → Prop where
  | first {gap text : Bytes} (h : Blank gap) : Lead true (gap ++ text) text
  | comma {gap behind text : Bytes} (h : Blank gap) (hbehind : Blank behind) :
      Lead false (gap ++ byte ',' :: (behind ++ text)) text

inductive Colon : Bytes → Bytes → Prop where
  | mk {gap behind text : Bytes} (h : Blank gap) (hbehind : Blank behind) :
      Colon (gap ++ byte ':' :: (behind ++ text)) text

mutual

inductive Spells : Bytes → Tree → Bytes → Prop where
  | null (rest : Bytes) : Spells (ofString "null" ++ rest) .null rest
  | bool (b : Bool) (rest : Bytes) : Spells (ofString (toString b) ++ rest) (.bool b) rest
  | number (n : Numeral) (rest : Bytes) : Spells (n.text ++ rest) (.number n) rest
  | string {text rest : Bytes} {s : String} (h : SpellsChars text (ofString s) rest) :
      Spells (byte '"' :: text) (.string s) rest
  | array {text rest : Bytes} {items : List Tree} (h : SpellsItems true text items rest) :
      Spells (byte '[' :: text) (.array items) rest
  | object {text rest : Bytes} {members : List (String × Tree)}
      (h : SpellsMembers true text members rest) :
      Spells (byte '\x7b' :: text) (.object members) rest

inductive SpellsItems : Bool → Bytes → List Tree → Bytes → Prop where
  | close {first : Bool} {gap : Bytes} (h : Blank gap) (rest : Bytes) :
      SpellsItems first (gap ++ byte ']' :: rest) [] rest
  | item {first : Bool} {text inner behind rest : Bytes} {tree : Tree} {items : List Tree}
      (lead : Lead first text inner) (h : Spells inner tree behind)
      (more : SpellsItems false behind items rest) :
      SpellsItems first text (tree :: items) rest

inductive SpellsMembers : Bool → Bytes → List (String × Tree) → Bytes → Prop where
  | close {first : Bool} {gap : Bytes} (h : Blank gap) (rest : Bytes) :
      SpellsMembers first (gap ++ byte '\x7d' :: rest) [] rest
  | member {first : Bool} {text inner after value behind rest : Bytes} {name : String}
      {tree : Tree} {members : List (String × Tree)}
      (lead : Lead first text (byte '"' :: inner))
      (hname : SpellsChars inner (ofString name) after) (colon : Colon after value)
      (h : Spells value tree behind) (more : SpellsMembers false behind members rest) :
      SpellsMembers first text ((name, tree) :: members) rest

end

/-- The text is this tree with white space around. -/
def Document (text : Bytes) (tree : Tree) : Prop :=
  ∃ gap inner behind, text = gap ++ inner ∧ Blank gap ∧ Spells inner tree behind ∧
    Blank behind

/-! White space. -/

theorem blank_nil : Blank [] := List.forall_mem_nil _

theorem Blank.append {gap other : Bytes} (h : Blank gap) (hother : Blank other) :
    Blank (gap ++ other) := by
  intro b hb
  rcases List.mem_append.mp hb with hgap | hmem
  · exact h b hgap
  · exact hother b hmem

theorem skipSpace_blank {gap : Bytes} (h : Blank gap) (rest : Bytes) :
    skipSpace (gap ++ rest) = skipSpace rest := by
  induction gap with
  | nil => rfl
  | cons b gap ih =>
      have hb := h b (by simp)
      rw [List.cons_append, skipSpace, List.dropWhile_cons_of_pos hb]
      exact ih fun c hc => h c (by simp [hc])

theorem skipSpace_gap {gap : Bytes} (h : Blank gap) {b : UInt8} (hb : isSpace b = false)
    (rest : Bytes) : skipSpace (gap ++ b :: rest) = b :: rest := by
  rw [skipSpace_blank h, skipSpace_cons hb]

theorem exists_gap (text : Bytes) : ∃ gap, Blank gap ∧ text = gap ++ skipSpace text :=
  ⟨text.takeWhile isSpace, fun b hb => List.all_eq_true.mp List.all_takeWhile b hb,
    List.takeWhile_append_dropWhile.symm⟩

theorem blank_of_skipSpace {text : Bytes} (h : skipSpace text = []) : Blank text := by
  obtain ⟨gap, hgap, htext⟩ := exists_gap text
  rw [h, List.append_nil] at htext
  rwa [htext]

/-! Every spelling begins with something and leaves less. -/

theorem Whole.head {whole : Bytes} (h : Whole whole) :
    ∃ b rest, whole = b :: rest ∧ isDigit b = true := by
  cases h with
  | zero => exact ⟨_, _, rfl, by decide⟩
  | digits hb => exact ⟨_, _, rfl, hb⟩

theorem SpellsChars.length_lt {text bytes rest : Bytes} (h : SpellsChars text bytes rest) :
    rest.length < text.length := by
  induction h with
  | close => simp
  | plain _ _ _ _ ih => simp; omega
  | short _ _ _ ih => simp; omega
  | unit _ _ _ _ ih => simp; omega
  | pair _ _ _ _ _ _ ih => simp; omega

theorem Lead.length_le {first : Bool} {text inner : Bytes} (h : Lead first text inner) :
    inner.length ≤ text.length := by
  cases h with
  | first => simp
  | comma => simp; omega

theorem Lead.name_length_lt {first : Bool} {text inner after : Bytes}
    (h : Lead first text (byte '"' :: inner)) (hafter : after.length < inner.length) :
    after.length < text.length := by
  have hinner := h.length_le
  rw [List.length_cons] at hinner
  omega

theorem Colon.length_lt {text value : Bytes} (h : Colon text value) :
    value.length < text.length := by
  cases h
  simp
  omega

mutual

theorem Spells.length_lt {text rest : Bytes} {tree : Tree} :
    Spells text tree rest → rest.length < text.length
  | .null rest => by
      have hword : 0 < (ofString "null").length := by decide
      rw [List.length_append]
      omega
  | .bool b rest => by
      have hword : 0 < (ofString (toString b)).length := by cases b <;> decide
      rw [List.length_append]
      omega
  | .number n rest => by
      obtain ⟨b, digits, hwhole, _⟩ := n.isWhole.head
      simp [Numeral.text, hwhole]
      omega
  | .string h => Nat.lt_succ_of_lt h.length_lt
  | .array h => Nat.lt_succ_of_lt h.length_lt
  | .object h => Nat.lt_succ_of_lt h.length_lt

theorem SpellsItems.length_lt {first : Bool} {text rest : Bytes} {items : List Tree} :
    SpellsItems first text items rest → rest.length < text.length
  | .close _ rest => by simp; omega
  | .item lead h more => by
      have hinner := lead.length_le
      have hvalue := h.length_lt
      have hmore := more.length_lt
      omega

theorem SpellsMembers.length_lt {first : Bool} {text rest : Bytes}
    {members : List (String × Tree)} :
    SpellsMembers first text members rest → rest.length < text.length
  | .close _ rest => by simp; omega
  | .member lead hname colon h more => by
      have hafter := lead.name_length_lt hname.length_lt
      have hvalue := colon.length_lt
      have hbehind := h.length_lt
      have hmore := more.length_lt
      omega

end

/-! A spelling does not look behind itself. -/

theorem SpellsChars.append {text bytes rest : Bytes} (h : SpellsChars text bytes rest)
    (more : Bytes) : SpellsChars (text ++ more) bytes (rest ++ more) := by
  induction h with
  | close rest => exact .close (rest ++ more)
  | plain hquote hslash hplain _ ih => exact .plain hquote hslash hplain ih
  | short he hshort _ ih => exact .short he hshort ih
  | unit hunit hlow hhigh _ ih => exact .unit hunit hlow hhigh ih
  | pair hunit hlow hhigh hnext hpair _ ih => exact .pair hunit hlow hhigh hnext hpair ih

theorem Lead.append {first : Bool} {text inner : Bytes} (h : Lead first text inner)
    (more : Bytes) : Lead first (text ++ more) (inner ++ more) := by
  cases h with
  | first hgap =>
      rw [List.append_assoc]
      exact .first hgap
  | comma hgap hbehind =>
      rw [List.append_assoc, List.cons_append, List.append_assoc]
      exact .comma hgap hbehind

theorem Colon.append {text value : Bytes} (h : Colon text value) (more : Bytes) :
    Colon (text ++ more) (value ++ more) := by
  cases h with
  | mk hgap hbehind =>
      rw [List.append_assoc, List.cons_append, List.append_assoc]
      exact .mk hgap hbehind

mutual

theorem Spells.append {text rest : Bytes} {tree : Tree} :
    Spells text tree rest → ∀ more, Spells (text ++ more) tree (rest ++ more)
  | .null rest, more => by
      rw [List.append_assoc]
      exact .null (rest ++ more)
  | .bool b rest, more => by
      rw [List.append_assoc]
      exact .bool b (rest ++ more)
  | .number n rest, more => by
      rw [List.append_assoc]
      exact .number n (rest ++ more)
  | .string h, more => .string (h.append more)
  | .array h, more => .array (h.append more)
  | .object h, more => .object (h.append more)

theorem SpellsItems.append {first : Bool} {text rest : Bytes} {items : List Tree} :
    SpellsItems first text items rest →
      ∀ more, SpellsItems first (text ++ more) items (rest ++ more)
  | .close hgap rest, more => by
      rw [List.append_assoc]
      exact .close hgap (rest ++ more)
  | .item lead h following, more =>
      .item (lead.append more) (h.append more) (following.append more)

theorem SpellsMembers.append {first : Bool} {text rest : Bytes}
    {members : List (String × Tree)} :
    SpellsMembers first text members rest →
      ∀ more, SpellsMembers first (text ++ more) members (rest ++ more)
  | .close hgap rest, more => by
      rw [List.append_assoc]
      exact .close hgap (rest ++ more)
  | .member lead hname colon h following, more =>
      .member (lead.append more) (hname.append more) (colon.append more) (h.append more)
        (following.append more)

end

theorem Numeral.head (n : Numeral) :
    ∃ b more, n.text = b :: more ∧ (b = byte '-' ∨ isDigit b = true) := by
  obtain ⟨b, digits, hwhole, hb⟩ := n.isWhole.head
  cases hnegative : n.negative with
  | true =>
      refine ⟨byte '-', n.whole ++ n.places, ?_, .inl rfl⟩
      simp [Numeral.text, Numeral.sign, hnegative]
  | false =>
      refine ⟨b, digits ++ n.places, ?_, .inr hb⟩
      simp [Numeral.text, Numeral.sign, hnegative, hwhole]

theorem Spells.head {text rest : Bytes} {tree : Tree} (h : Spells text tree rest) :
    ∃ b more, text = b :: more ∧ isSpace b = false ∧ b ≠ byte ']' := by
  cases h with
  | null => exact ⟨byte 'n', _, rfl, by decide, by decide⟩
  | bool b =>
      cases b with
      | true => exact ⟨byte 't', _, rfl, by decide, by decide⟩
      | false => exact ⟨byte 'f', _, rfl, by decide, by decide⟩
  | number n =>
      obtain ⟨b, more, htext, hb⟩ := n.head
      rw [htext, List.cons_append]
      refine ⟨b, _, rfl, ?_⟩
      rcases hb with rfl | hb
      · exact ⟨by decide, by decide⟩
      · exact ⟨isSpace_of_isDigit hb, ne_of_isDigit hb (by decide)⟩
  | string => exact ⟨byte '"', _, rfl, by decide, by decide⟩
  | array => exact ⟨byte '[', _, rfl, by decide, by decide⟩
  | object => exact ⟨byte '\x7b', _, rfl, by decide, by decide⟩

end ChainArchive.Json
