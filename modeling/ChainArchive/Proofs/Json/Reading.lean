import ChainArchive.Proofs.Json.Budget
import ChainArchive.Proofs.Json.Containers
import ChainArchive.Proofs.Json.Numerals

namespace ChainArchive.Json

open Bytes

/-! Strings are read as what they spell. -/

theorem readStringBytes_pair {h₁ h₂ h₃ h₄ l₁ l₂ l₃ l₄ : UInt8} {high low : Nat}
    (hunit : hexUnit? h₁ h₂ h₃ h₄ = some high) (hlow : isLowSurrogate high = false)
    (hhigh : isHighSurrogate high = true) (hnext : hexUnit? l₁ l₂ l₃ l₄ = some low)
    (hpair : isLowSurrogate low = true) (done rest : Bytes) :
    readStringBytes done
        (byte '\\' :: byte 'u' :: h₁ :: h₂ :: h₃ :: h₄ ::
          byte '\\' :: byte 'u' :: l₁ :: l₂ :: l₃ :: l₄ :: rest) =
      readStringBytes ((utf8 (pairCode high low)).reverse ++ done) rest := by
  have hslash : byte '\\' ≠ byte '"' := by decide
  rw [readStringBytes.eq_def]
  simp only [if_neg hslash, if_pos, hunit, hlow, hhigh, Bool.false_eq_true, if_false, hnext,
    hpair]

theorem SpellsChars.readStringBytes_eq {text bytes rest : Bytes}
    (h : SpellsChars text bytes rest) (done : Bytes) :
    readStringBytes done text = .ok (bytes.reverse ++ done, rest) := by
  induction h generalizing done with
  | close rest => exact readStringBytes_quote done rest
  | plain hquote hslash hplain _ ih =>
      rw [readStringBytes_plain hquote hslash hplain, ih]
      simp
  | short he hshort _ ih =>
      rw [readStringBytes_short he hshort, ih]
      simp
  | unit hunit hlow hhigh _ ih =>
      rw [readStringBytes_unit hunit hlow hhigh, ih]
      simp
  | pair hunit hlow hhigh hnext hpair _ ih =>
      rw [readStringBytes_pair hunit hlow hhigh hnext hpair, ih]
      simp

theorem SpellsChars.readString_eq {text rest : Bytes} {s : String}
    (h : SpellsChars text (ofString s) rest) : readString text = .ok (s, rest) := by
  rw [readString, h.readStringBytes_eq []]
  simp

theorem readStringBytes_sound (done text : Bytes) {read rest : Bytes}
    (h : readStringBytes done text = .ok (read, rest)) :
    ∃ bytes, SpellsChars text bytes rest ∧ read = bytes.reverse ++ done := by
  -- Of all branches these five go on or close; the others are failures.
  fun_induction readStringBytes done text with
  | case2 done rest =>
      cases h
      exact ⟨[], .close rest, rfl⟩
  | case9 done h₁ h₂ h₃ h₄ high hunit hlow hhigh l₁ l₂ l₃ l₄ rest low hnext hpair _ ih =>
      obtain ⟨bytes, hbytes, rfl⟩ := ih h
      exact ⟨_, .pair hunit (by simpa using hlow) hhigh hnext hpair hbytes, by simp⟩
  | case14 done h₁ h₂ h₃ h₄ rest unit hunit hlow hhigh _ ih =>
      obtain ⟨bytes, hbytes, rfl⟩ := ih h
      exact ⟨_, .unit hunit (by simpa using hlow) (by simpa using hhigh) hbytes, by simp⟩
  | case16 done e rest he c hshort _ ih =>
      obtain ⟨bytes, hbytes, rfl⟩ := ih h
      exact ⟨_, .short he hshort hbytes, by simp⟩
  | case19 done b rest hquote hslash hplain ih =>
      obtain ⟨bytes, hbytes, rfl⟩ := ih h
      exact ⟨_, .plain hquote hslash hplain hbytes, by simp⟩
  | _ => cases h

theorem readString_sound {text rest : Bytes} {s : String} (h : readString text = .ok (s, rest)) :
    SpellsChars text (ofString s) rest := by
  obtain ⟨⟨reversed, behind⟩, hread, h⟩ := Outcome.bind_eq_ok.mp h
  obtain ⟨bytes, hbytes, rfl⟩ := readStringBytes_sound [] text hread
  simp only [List.append_nil, List.reverse_reverse] at h
  split at h
  · rename_i spelled hspelled
    cases h
    rwa [ofString_of_toString? hspelled]
  · cases h

/-! White space before a value. -/

theorem readHead_gap {gap : Bytes} (h : Blank gap) (text : Bytes) :
    readHead (gap ++ text) = readHead text := by
  simp only [readHead, skipSpace_blank h]

theorem readValue_gap {gap : Bytes} (h : Blank gap) (budget : Nat) (text : Bytes) :
    readValue budget (gap ++ text) = readValue budget text := by
  cases budget <;> simp only [readValue, readHead_gap h]

theorem endsNumber_gap {gap : Bytes} (h : Blank gap) {b : UInt8} {rest : Bytes}
    (hb : EndsNumber (b :: rest)) : EndsNumber (gap ++ b :: rest) := by
  cases gap with
  | nil => exact hb
  | cons space gap =>
      have hspace := h space (by simp)
      simp only [isSpace, Bool.or_eq_true, beq_iff_eq] at hspace
      refine endsNumber_cons ?_
      rcases hspace with ((rfl | rfl) | rfl) | rfl <;> decide

theorem endsNumber_blank {gap : Bytes} (h : Blank gap) : EndsNumber gap := by
  cases gap with
  | nil => exact endsNumber_nil
  | cons space gap =>
      have hspace : Blank [space] := List.forall_mem_singleton.mpr (h space (by simp))
      have hcolon : EndsNumber (byte ':' :: []) := endsNumber_cons (by decide)
      simpa [EndsNumber] using endsNumber_gap hspace hcolon

theorem Lead.endsNumber {text inner : Bytes} (h : Lead false text inner) : EndsNumber text := by
  cases h with
  | comma h => exact endsNumber_gap h (endsNumber_comma _)

theorem SpellsItems.endsNumber {text rest : Bytes} {items : List Tree}
    (h : SpellsItems false text items rest) : EndsNumber text := by
  cases h with
  | close h rest => exact endsNumber_gap h (endsNumber_bracket rest)
  | item lead => exact lead.endsNumber

theorem SpellsMembers.endsNumber {text rest : Bytes} {members : List (String × Tree)}
    (h : SpellsMembers false text members rest) : EndsNumber text := by
  cases h with
  | close h rest => exact endsNumber_gap h (endsNumber_brace rest)
  | member lead => exact lead.endsNumber

/-! What a tree is read as. -/

/-- The value of a tree, unless a number is too large or too many containers lie inside one
another. -/
def Tree.read? : Nat → Tree → Option Json
  | _, .null => some .null
  | _, .bool b => some (.bool b)
  | _, .number n => n.number?.map Json.number
  | _, .string s => some (.string s)
  | 0, .array _ => none
  | 0, .object _ => none
  | budget + 1, .array items => (items.mapM (Tree.read? budget)).map Json.array
  | budget + 1, .object members =>
      (members.mapM fun member =>
        (Tree.read? budget member.2).map fun value => (member.1, value)).map Json.object

def Tree.Ends (tree : Tree) (rest : Bytes) : Prop := ∀ n, tree = .number n → EndsNumber rest

theorem ends_of_endsNumber (tree : Tree) {rest : Bytes} (h : EndsNumber rest) :
    tree.Ends rest := fun _ _ => h

/-! Reading what is spelled comes to the value of the tree, or fails when it has none. -/

theorem toOption_readHead_minus (text : Bytes) :
    (readHead (byte '-' :: text)).toOption =
      (readNumber true text).toOption.map fun found =>
        .scalar (.number found.1) found.2 := by
  have hn : byte '-' ≠ byte 'n' := by decide
  have ht : byte '-' ≠ byte 't' := by decide
  have hf : byte '-' ≠ byte 'f' := by decide
  rw [readHead, skipSpace_cons (by decide)]
  simp only [if_neg hn, if_neg ht, if_neg hf, if_pos]
  cases readNumber true text <;> rfl

theorem toOption_readHead_digit {b : UInt8} (h : isDigit b = true) (text : Bytes) :
    (readHead (b :: text)).toOption =
      (readNumber false (b :: text)).toOption.map fun found =>
        .scalar (.number found.1) found.2 := by
  have hn : b ≠ byte 'n' := ne_of_isDigit h (by decide)
  have ht : b ≠ byte 't' := ne_of_isDigit h (by decide)
  have hf : b ≠ byte 'f' := ne_of_isDigit h (by decide)
  have hminus : b ≠ byte '-' := ne_of_isDigit h (by decide)
  rw [readHead, skipSpace_cons (isSpace_of_isDigit h)]
  simp only [if_neg hn, if_neg ht, if_neg hf, if_neg hminus, if_pos h]
  cases readNumber false (b :: text) <;> rfl

theorem readHead_quote {text rest : Bytes} {s : String} (h : readString text = .ok (s, rest)) :
    readHead (byte '"' :: text) = .ok (.scalar (.string s) rest) := by
  rw [readHead, skipSpace_cons (by decide)]
  simp only [h]
  rfl

theorem toOption_readHead_numeral (n : Numeral) {rest : Bytes} (h : EndsNumber rest) :
    (readHead (n.text ++ rest)).toOption =
      n.number?.map fun x => .scalar (.number x) rest := by
  have hread := n.toOption_readNumber h
  cases hnegative : n.negative with
  | true =>
      have htext : n.text ++ rest = byte '-' :: (n.whole ++ n.places ++ rest) := by
        simp [Numeral.text, Numeral.sign, hnegative]
      rw [hnegative] at hread
      rw [htext, toOption_readHead_minus, hread, Option.map_map]
      rfl
  | false =>
      obtain ⟨b, digits, hwhole, hb⟩ := n.isWhole.head
      have htext : n.text ++ rest = b :: (digits ++ n.places ++ rest) := by
        simp [Numeral.text, Numeral.sign, hnegative, hwhole]
      rw [hnegative, hwhole, List.cons_append, List.cons_append] at hread
      rw [htext, toOption_readHead_digit hb, hread, Option.map_map]
      rfl

theorem toOption_readValue_scalar (budget : Nat) {text rest : Bytes} {found : Option Scalar}
    (h : (readHead text).toOption = found.map fun value => .scalar value rest) :
    (readValue budget text).toOption = found.map fun value => (value.toJson, rest) := by
  cases found with
  | none =>
      rw [Option.map_none] at h ⊢
      cases budget <;> rw [readValue, Outcome.toOption_bind, h, Option.bind_none]
  | some value =>
      rw [readValue_scalar (Outcome.toOption_eq_some.mp h)]
      rfl

theorem nextElement_lead {first : Bool} {text inner behind : Bytes} {tree : Tree}
    (lead : Lead first text inner) (h : Spells inner tree behind) :
    nextElement first text = .ok (true, inner) := by
  obtain ⟨b, more, rfl, hspace, hb⟩ := h.head
  cases lead with
  | first hgap =>
      rw [nextElement, skipSpace_gap hgap hspace]
      simp only [if_neg hb, if_true]
  | comma hgap hbehind =>
      have hcomma : byte ',' ≠ byte ']' := by decide
      rw [nextElement, skipSpace_gap hgap (by decide)]
      simp only [if_neg hcomma, Bool.false_eq_true, if_false, if_true,
        skipSpace_gap hbehind hspace, if_neg hb]

theorem nextElement_close {gap : Bytes} (h : Blank gap) (first : Bool) (rest : Bytes) :
    nextElement first (gap ++ byte ']' :: rest) = .ok (false, byte ']' :: rest) := by
  rw [nextElement, skipSpace_gap h (by decide)]
  simp only [if_true]

theorem nextKey_lead {first : Bool} {text inner after : Bytes} {name : String}
    (lead : Lead first text (byte '"' :: inner))
    (hname : SpellsChars inner (ofString name) after) :
    nextKey first text = .ok (some name, after) := by
  cases lead with
  | first hgap =>
      have hbrace : byte '"' ≠ byte '\x7d' := by decide
      rw [nextKey, skipSpace_gap hgap (by decide)]
      simp only [if_neg hbrace, if_true, hname.readString_eq, Outcome.ok_bind,
        Outcome.pure_eq_ok]
  | comma hgap hbehind =>
      have hcomma : byte ',' ≠ byte '\x7d' := by decide
      rw [nextKey, skipSpace_gap hgap (by decide)]
      simp only [if_neg hcomma, Bool.false_eq_true, if_false, if_true,
        skipSpace_gap hbehind (by decide : isSpace (byte '"') = false), hname.readString_eq,
        Outcome.ok_bind, Outcome.pure_eq_ok]

theorem nextKey_close {gap : Bytes} (h : Blank gap) (first : Bool) (rest : Bytes) :
    nextKey first (gap ++ byte '\x7d' :: rest) = .ok (none, byte '\x7d' :: rest) := by
  rw [nextKey, skipSpace_gap h (by decide)]
  simp only [if_true]

theorem Colon.readColon_eq {text value : Bytes} (h : Colon text value) :
    ∃ gap, Blank gap ∧ readColon text = .ok (gap ++ value) := by
  cases h with
  | @mk gap behind _ hgap hbehind =>
      refine ⟨behind, hbehind, ?_⟩
      rw [readColon, skipSpace_gap hgap (by decide)]
      simp only [if_true]

theorem toOption_orStop {α : Type} (result : Except Fault α) :
    (orStop result).toOption = result.toOption := by
  cases result <;> rfl

theorem toOption_addElement (read : Bytes → Except Fault (Json × Bytes)) (items : List Json)
    (text : Bytes) :
    (addElement read items text).toOption =
      (read text).toOption.map fun found => (found.1 :: items, found.2) := by
  unfold addElement
  rw [Outcome.toOption_bind, toOption_orStop]
  cases read text <;> rfl

theorem toOption_addMember (read : Bytes → Except Fault (Json × Bytes))
    (members : List (String × Json)) (key : String) {text value : Bytes}
    (h : readColon text = .ok value) :
    (addMember read members key text).toOption =
      (read value).toOption.map fun found => ((key, found.1) :: members, found.2) := by
  unfold addMember
  rw [h, Outcome.toOption_bind, toOption_orStop, Outcome.toOption_ok, Option.bind_some,
    Outcome.toOption_bind, toOption_orStop]
  cases read value <;> rfl

theorem toOption_foldElements_step {step : σ → Bytes → Except Stop (σ × Bytes)} {fuel : Nat}
    {first : Bool} {text inner : Bytes} (h : nextElement first text = .ok (true, inner))
    (state : σ) :
    (foldElements step (fuel + 1) first state text).toOption =
      (step state inner).toOption.bind fun found =>
        (foldElements step fuel false found.1 found.2).toOption := by
  rw [foldElements, h, Outcome.toOption_bind, toOption_orStop, Outcome.toOption_ok,
    Option.bind_some, Outcome.toOption_bind]

theorem toOption_foldMembers_step {step : σ → String → Bytes → Except Stop (σ × Bytes)}
    {fuel : Nat} {first : Bool} {text after : Bytes} {name : String}
    (h : nextKey first text = .ok (some name, after)) (state : σ) :
    (foldMembers step (fuel + 1) first state text).toOption =
      (step state name after).toOption.bind fun found =>
        (foldMembers step fuel false found.1 found.2).toOption := by
  rw [foldMembers, h, Outcome.toOption_bind, toOption_orStop, Outcome.toOption_ok,
    Option.bind_some, Outcome.toOption_bind]

theorem toOption_arrayResult {α : Type} (result : Except Stop (α × Bytes)) :
    (arrayResult result).toOption =
      result.toOption.bind fun found =>
        (closeArray found.2).toOption.map fun rest => (found.1, rest) := by
  cases result with
  | error stop => cases stop <;> rfl
  | ok found =>
      change ((closeArray found.2).map (found.1, ·)).toOption = _
      cases hclose : closeArray found.2 <;> simp [Except.map, hclose]

theorem toOption_objectResult {α : Type} (result : Except Stop (α × Bytes)) :
    (objectResult result).toOption =
      result.toOption.bind fun found =>
        (closeObject found.2).toOption.map fun rest => (found.1, rest) := by
  cases result with
  | error stop => cases stop <;> rfl
  | ok found =>
      change ((closeObject found.2).map (found.1, ·)).toOption = _
      cases hclose : closeObject found.2 <;> simp [Except.map, hclose]

theorem toOption_readValue_array {budget : Nat} {text rest : Bytes}
    {found : Option (List Json)}
    (h : (foldElements (addElement (readValue budget)) (text.length + 1) true [] text).toOption =
      found.map fun values => (values.reverse, byte ']' :: rest)) :
    (readValue (budget + 1) (byte '[' :: text)).toOption =
      found.map fun values => (.array values, rest) := by
  rw [readValue, readHead_array, Outcome.ok_bind, Outcome.toOption_bind, readElements,
    toOption_arrayResult, h]
  cases found <;> simp [closeArray_bracket]

theorem toOption_readValue_object {budget : Nat} {text rest : Bytes}
    {found : Option (List (String × Json))}
    (h : (foldMembers (addMember (readValue budget)) (text.length + 1) true [] text).toOption =
      found.map fun values => (values.reverse, byte '\x7d' :: rest)) :
    (readValue (budget + 1) (byte '\x7b' :: text)).toOption =
      found.map fun values => (.object values, rest) := by
  rw [readValue, readHead_object, Outcome.ok_bind, Outcome.toOption_bind, readMembers,
    toOption_objectResult, h]
  cases found <;> simp [closeObject_brace]

mutual

theorem Spells.toOption_readValue {text rest : Bytes} {tree : Tree} :
    Spells text tree rest → ∀ budget, tree.Ends rest →
      (readValue budget text).toOption = (tree.read? budget).map (·, rest)
  | .null rest, budget, _ => by
      have hhead : readHead (ofString "null" ++ rest) = .ok (.scalar .null rest) :=
        readHead_null rest
      rw [readValue_scalar hhead]
      cases budget <;> rfl
  | .bool b rest, budget, _ => by
      have hword : ofString (toString b) = render (.bool b) := by cases b <;> rfl
      rw [hword, readValue_scalar (readHead_bool b rest)]
      cases budget <;> rfl
  | .number n rest, budget, hends => by
      have hhead : (readHead (n.text ++ rest)).toOption =
          (n.number?.map Scalar.number).map fun value => .scalar value rest := by
        rw [toOption_readHead_numeral n (hends n rfl), Option.map_map]
        rfl
      rw [toOption_readValue_scalar budget hhead]
      cases budget <;> simp only [Tree.read?, Option.map_map] <;> rfl
  | .string h, budget, _ => by
      rw [readValue_scalar (readHead_quote h.readString_eq)]
      cases budget <;> rfl
  | .array h, budget, _ => by
      cases budget with
      | zero =>
          rw [readValue, readHead_array]
          rfl
      | succ budget =>
          have hfold := h.toOption_foldElements budget [] (Nat.lt_succ_self _)
          simp only [List.append_nil] at hfold
          rw [toOption_readValue_array hfold, Tree.read?, Option.map_map]
          rfl
  | .object h, budget, _ => by
      cases budget with
      | zero =>
          rw [readValue, readHead_object]
          rfl
      | succ budget =>
          have hfold := h.toOption_foldMembers budget [] (Nat.lt_succ_self _)
          simp only [List.append_nil] at hfold
          rw [toOption_readValue_object hfold, Tree.read?, Option.map_map]
          rfl

theorem SpellsItems.toOption_foldElements {first : Bool} {text rest : Bytes}
    {items : List Tree} :
    SpellsItems first text items rest → ∀ budget done {fuel : Nat}, text.length < fuel →
      (foldElements (addElement (readValue budget)) fuel first done text).toOption =
        (items.mapM (Tree.read? budget)).map fun values =>
          (values.reverse ++ done, byte ']' :: rest)
  | .close hgap rest, budget, done, fuel + 1, _ => by
      rw [foldElements, nextElement_close hgap]
      rfl
  | .item lead h more, budget, done, fuel + 1, hfuel => by
      have hlead := lead.length_le
      have hshorter := h.length_lt
      rw [toOption_foldElements_step (nextElement_lead lead h), toOption_addElement,
        h.toOption_readValue budget (ends_of_endsNumber _ more.endsNumber),
        List.mapM_cons]
      cases Tree.read? budget _ with
      | none => rfl
      | some value =>
          simp only [Option.map_some, Option.bind_some]
          rw [more.toOption_foldElements budget (value :: done) (by omega)]
          cases List.mapM (Tree.read? budget) _ <;> simp

theorem SpellsMembers.toOption_foldMembers {first : Bool} {text rest : Bytes}
    {members : List (String × Tree)} :
    SpellsMembers first text members rest → ∀ budget done {fuel : Nat}, text.length < fuel →
      (foldMembers (addMember (readValue budget)) fuel first done text).toOption =
        (members.mapM fun member =>
            (Tree.read? budget member.2).map fun value => (member.1, value)).map
          fun values => (values.reverse ++ done, byte '\x7d' :: rest)
  | .close hgap rest, budget, done, fuel + 1, _ => by
      rw [foldMembers, nextKey_close hgap]
      rfl
  | .member lead hname colon h more, budget, done, fuel + 1, hfuel => by
      have hafter := lead.name_length_lt hname.length_lt
      have hcolon := colon.length_lt
      have hshorter := h.length_lt
      obtain ⟨gap, hgap, hread⟩ := colon.readColon_eq
      rw [toOption_foldMembers_step (nextKey_lead lead hname),
        toOption_addMember _ _ _ hread, readValue_gap hgap,
        h.toOption_readValue budget (ends_of_endsNumber _ more.endsNumber),
        List.mapM_cons]
      cases Tree.read? budget _ with
      | none => rfl
      | some value =>
          simp only [Option.map_some, Option.bind_some]
          rw [more.toOption_foldMembers budget ((_, value) :: done) (by omega)]
          cases List.mapM (m := Option) _ _ <;> simp

end

/-! What is read is spelled. -/

def Begins (text : Bytes) (tree : Tree) (rest : Bytes) : Prop :=
  ∃ gap inner, text = gap ++ inner ∧ Blank gap ∧ Spells inner tree rest

theorem Lead.behind {first : Bool} {text gap inner : Bytes} (h : Lead first text (gap ++ inner))
    (hgap : Blank gap) : Lead first text inner := by
  cases h with
  | first hfirst =>
      rw [← List.append_assoc]
      exact .first (hfirst.append hgap)
  | comma hbefore hbehind =>
      rw [← List.append_assoc]
      exact .comma hbefore (hbehind.append hgap)

theorem Colon.behind {text gap inner : Bytes} (h : Colon text (gap ++ inner))
    (hgap : Blank gap) : Colon text inner := by
  cases h with
  | mk hbefore hbehind =>
      rw [← List.append_assoc]
      exact .mk hbefore (hbehind.append hgap)

theorem nextElement_sound {first more : Bool} {text inner : Bytes}
    (h : nextElement first text = .ok (more, inner)) :
    (more = true ∧ Lead first text inner) ∨
    (more = false ∧ ∃ gap after, Blank gap ∧ text = gap ++ byte ']' :: after ∧
      inner = byte ']' :: after) := by
  obtain ⟨gap, hgap, htext⟩ := exists_gap text
  unfold nextElement at h
  split at h
  · cases h
  · rename_i b after hskip
    rw [htext, hskip]
    split at h
    · rename_i hb
      cases h
      exact .inr ⟨rfl, gap, after, hgap, by rw [hb], by rw [hb]⟩
    · cases first with
      | true =>
          cases h
          exact .inl ⟨rfl, .first hgap⟩
      | false =>
          simp only [Bool.false_eq_true, if_false] at h
          split at h
          · rename_i hcomma
            obtain ⟨other, hother, hafter⟩ := exists_gap after
            split at h
            · cases h
            · rename_i c behind hbehind
              rw [hcomma, hafter, hbehind]
              split at h
              · cases h
              · cases h
                exact .inl ⟨rfl, .comma hgap hother⟩
          · cases h

theorem quoted_sound {found : Option String} {text after : Bytes}
    (h : (do
      let (key, rest) ← readString text
      return (some key, rest)) = .ok (found, after)) :
    ∃ name, found = some name ∧ SpellsChars text (ofString name) after := by
  obtain ⟨⟨name, rest⟩, hname, h⟩ := Outcome.bind_eq_ok.mp h
  cases h
  exact ⟨name, rfl, readString_sound hname⟩

theorem nextKey_sound {first : Bool} {found : Option String} {text after : Bytes}
    (h : nextKey first text = .ok (found, after)) :
    (∃ name inner, found = some name ∧ Lead first text (byte '"' :: inner) ∧
      SpellsChars inner (ofString name) after) ∨
    (found = none ∧ ∃ gap rest, Blank gap ∧ text = gap ++ byte '\x7d' :: rest ∧
      after = byte '\x7d' :: rest) := by
  obtain ⟨gap, hgap, htext⟩ := exists_gap text
  unfold nextKey at h
  split at h
  · cases h
  · rename_i b behind hskip
    rw [htext, hskip]
    split at h
    · rename_i hb
      cases h
      exact .inr ⟨rfl, gap, behind, hgap, by rw [hb], by rw [hb]⟩
    · cases first with
      | true =>
          simp only [if_true] at h
          split at h
          · rename_i hquote
            obtain ⟨name, hfound, hname⟩ := quoted_sound h
            rw [hquote]
            exact .inl ⟨name, behind, hfound, .first hgap, hname⟩
          · cases h
      | false =>
          simp only [Bool.false_eq_true, if_false] at h
          split at h
          · rename_i hcomma
            obtain ⟨other, hother, hafter⟩ := exists_gap behind
            split at h
            · cases h
            · rename_i c inner hbehind
              rw [hcomma, hafter, hbehind]
              split at h
              · rename_i hquote
                obtain ⟨name, hfound, hname⟩ := quoted_sound h
                rw [hquote]
                exact .inl ⟨name, inner, hfound, .comma hgap hother, hname⟩
              · split at h <;> cases h
          · cases h

theorem readColon_sound {text rest : Bytes} (h : readColon text = .ok rest) :
    Colon text rest := by
  obtain ⟨gap, hgap, htext⟩ := exists_gap text
  unfold readColon at h
  split at h
  · cases h
  · rename_i b behind hskip
    rw [htext, hskip]
    split at h
    · rename_i hb
      cases h
      rw [hb]
      exact @Colon.mk gap [] _ hgap blank_nil
    · cases h

theorem readWord_sound {word text rest : Bytes} (h : readWord word text = .ok rest) :
    text = word ++ rest := by
  induction word generalizing text with
  | nil =>
      cases h
      rfl
  | cons w word ih =>
      cases text with
      | nil => cases h
      | cons b text =>
          rw [readWord] at h
          split at h
          · rename_i hb
            rw [hb, ih h, List.cons_append]
          · cases h

def Head.Spelled (inner : Bytes) : Head → Prop
  | .scalar _ rest => ∃ tree, Spells inner tree rest
  | .array rest => inner = byte '[' :: rest
  | .object rest => inner = byte '\x7b' :: rest

theorem readHead_sound {text : Bytes} {head : Head} (h : readHead text = .ok head) :
    ∃ gap inner, text = gap ++ inner ∧ Blank gap ∧ head.Spelled inner := by
  obtain ⟨gap, hgap, htext⟩ := exists_gap text
  unfold readHead at h
  split at h
  · cases h
  · rename_i b behind hskip
    rw [hskip] at htext
    refine ⟨gap, b :: behind, htext, hgap, ?_⟩
    split at h
    · rename_i hb
      obtain ⟨rest, hword, h⟩ := Outcome.bind_eq_ok.mp h
      cases h
      rw [readWord_sound hword, hb]
      exact ⟨.null, .null rest⟩
    split at h
    · rename_i hb
      obtain ⟨rest, hword, h⟩ := Outcome.bind_eq_ok.mp h
      cases h
      rw [readWord_sound hword, hb]
      exact ⟨.bool true, .bool true rest⟩
    split at h
    · rename_i hb
      obtain ⟨rest, hword, h⟩ := Outcome.bind_eq_ok.mp h
      cases h
      rw [readWord_sound hword, hb]
      exact ⟨.bool false, .bool false rest⟩
    split at h
    · rename_i hb
      obtain ⟨⟨x, rest⟩, hread, h⟩ := Outcome.bind_eq_ok.mp h
      cases h
      obtain ⟨n, hnegative, hnumeral⟩ := readNumber_sound hread
      have hspelled : b :: behind = n.text ++ rest := by
        simp [Numeral.text, Numeral.sign, hnegative, hb, hnumeral]
      rw [hspelled]
      exact ⟨.number n, .number n rest⟩
    split at h
    · obtain ⟨⟨x, rest⟩, hread, h⟩ := Outcome.bind_eq_ok.mp h
      cases h
      obtain ⟨n, hnegative, hnumeral⟩ := readNumber_sound hread
      have hspelled : b :: behind = n.text ++ rest := by
        simp [Numeral.text, Numeral.sign, hnegative, hnumeral]
      rw [hspelled]
      exact ⟨.number n, .number n rest⟩
    split at h
    · rename_i hb
      obtain ⟨⟨s, rest⟩, hread, h⟩ := Outcome.bind_eq_ok.mp h
      cases h
      rw [hb]
      exact ⟨.string s, .string (readString_sound hread)⟩
    split at h
    · rename_i hb
      cases h
      exact congrArg (· :: _) hb
    split at h
    · rename_i hb
      cases h
      exact congrArg (· :: _) hb
    · cases h

theorem foldElements_sound {step : σ → Bytes → Except Stop (σ × Bytes)}
    (hstep : ∀ {state next text rest}, step state text = .ok (next, rest) →
      ∃ tree, Begins text tree rest)
    {fuel : Nat} {first : Bool} {state last : σ} {text rest : Bytes} (hfuel : text.length < fuel)
    (h : foldElements step fuel first state text = .ok (last, rest)) :
    ∃ items after, rest = byte ']' :: after ∧ SpellsItems first text items after := by
  induction fuel generalizing first state text with
  | zero => omega
  | succ fuel ih =>
      rw [foldElements] at h
      obtain ⟨⟨more, inner⟩, hnext, h⟩ := Outcome.bind_eq_ok.mp h
      rcases nextElement_sound (orStop_eq_ok.mp hnext) with
        ⟨rfl, hlead⟩ | ⟨rfl, gap, after, hgap, rfl, rfl⟩
      · obtain ⟨⟨next, behind⟩, hitem, hmore⟩ := Outcome.bind_eq_ok.mp h
        obtain ⟨tree, gap, written, rfl, hgap, hspells⟩ := hstep hitem
        have hbegins := hlead.behind hgap
        have hlength := hbegins.length_le
        have hshorter := hspells.length_lt
        obtain ⟨items, after, hrest, hitems⟩ := ih (by omega) hmore
        exact ⟨tree :: items, after, hrest, .item hbegins hspells hitems⟩
      · cases h
        exact ⟨[], after, rfl, .close hgap after⟩

theorem begins_array {step : σ → Bytes → Except Stop (σ × Bytes)}
    (hstep : ∀ {state next text rest}, step state text = .ok (next, rest) →
      ∃ tree, Begins text tree rest)
    {start last : σ} {gap inner rest : Bytes} (hgap : Blank gap)
    (h : readElements step start inner = .ok (last, rest)) :
    ∃ items, Begins (gap ++ byte '[' :: inner) (.array items) rest := by
  obtain ⟨inside, hfold, hclose⟩ := arrayResult_eq_ok h
  obtain ⟨items, closed, rfl, hitems⟩ := foldElements_sound hstep (Nat.lt_succ_self _) hfold
  cases hclose.symm.trans (closeArray_bracket closed)
  exact ⟨items, gap, _, rfl, hgap, .array hitems⟩

theorem foldMembers_induct {step : σ → String → Bytes → Except Stop (σ × Bytes)} {last : σ}
    {closed : Bytes} {motive : Bool → σ → Bytes → Prop}
    (close : ∀ {first gap rest}, Blank gap → closed = byte '\x7d' :: rest →
      motive first last (gap ++ byte '\x7d' :: rest))
    (member : ∀ {first state next text inner after behind name},
      Lead first text (byte '"' :: inner) → SpellsChars inner (ofString name) after →
      step state name after = .ok (next, behind) → motive false next behind →
      motive first state text)
    (hstep : ∀ {state next name text rest}, step state name text = .ok (next, rest) →
      rest.length < text.length)
    {fuel : Nat} {first : Bool} {state : σ} {text : Bytes} (hfuel : text.length < fuel)
    (h : foldMembers step fuel first state text = .ok (last, closed)) :
    motive first state text := by
  induction fuel generalizing first state text with
  | zero => omega
  | succ fuel ih =>
      rw [foldMembers] at h
      obtain ⟨⟨found, inner⟩, hnext, h⟩ := Outcome.bind_eq_ok.mp h
      rcases nextKey_sound (orStop_eq_ok.mp hnext) with
        ⟨name, quoted, rfl, hlead, hname⟩ | ⟨rfl, gap, after, hgap, rfl, rfl⟩
      · obtain ⟨⟨next, behind⟩, hread, hmore⟩ := Outcome.bind_eq_ok.mp h
        have hafter := hlead.name_length_lt hname.length_lt
        have hshorter := hstep hread
        exact member hlead hname hread (ih (by omega) hmore)
      · cases h
        exact close hgap rfl

theorem addMember_sound {read : Bytes → Except Fault (Json × Bytes)}
    (hread : ∀ text value rest, read text = .ok (value, rest) → ∃ tree, Begins text tree rest)
    {done next : List (String × Json)} {name : String} {text rest : Bytes}
    (h : addMember read done name text = .ok (next, rest)) :
    ∃ tree value, Colon text value ∧ Spells value tree rest := by
  obtain ⟨behind, hcolon, h⟩ := Outcome.bind_eq_ok.mp h
  obtain ⟨⟨json, left⟩, hvalue, h⟩ := Outcome.bind_eq_ok.mp h
  cases h
  obtain ⟨tree, gap, value, rfl, hgap, hspells⟩ := hread _ _ _ (orStop_eq_ok.mp hvalue)
  exact ⟨tree, value, (readColon_sound (orStop_eq_ok.mp hcolon)).behind hgap, hspells⟩

theorem foldMembers_sound {read : Bytes → Except Fault (Json × Bytes)}
    (hread : ∀ text value rest, read text = .ok (value, rest) → ∃ tree, Begins text tree rest)
    {fuel : Nat} {first : Bool} {done last : List (String × Json)} {text rest : Bytes}
    (hfuel : text.length < fuel)
    (h : foldMembers (addMember read) fuel first done text = .ok (last, rest)) :
    ∃ members after, rest = byte '\x7d' :: after ∧ SpellsMembers first text members after := by
  refine foldMembers_induct (motive := fun first _ text => ∃ members after,
      rest = byte '\x7d' :: after ∧ SpellsMembers first text members after)
    (fun hgap hrest => ⟨[], _, hrest, .close hgap _⟩) ?_ ?_ hfuel h
  · intro first done next text inner after behind name hlead hname hstep hmore
    obtain ⟨tree, value, hcolon, hspells⟩ := addMember_sound hread hstep
    obtain ⟨members, closed, hrest, hmembers⟩ := hmore
    exact ⟨(name, tree) :: members, closed, hrest, .member hlead hname hcolon hspells hmembers⟩
  · intro done next name text rest hstep
    obtain ⟨tree, value, hcolon, hspells⟩ := addMember_sound hread hstep
    exact Nat.lt_trans hspells.length_lt hcolon.length_lt

theorem readValue_sound {budget : Nat} {text rest : Bytes} {value : Json}
    (h : readValue budget text = .ok (value, rest)) : ∃ tree, Begins text tree rest := by
  induction budget generalizing text rest value with
  | zero =>
      obtain ⟨head, hhead, h⟩ := Outcome.bind_eq_ok.mp h
      obtain ⟨gap, inner, htext, hgap, hspelled⟩ := readHead_sound hhead
      cases head with
      | scalar found behind =>
          cases h
          obtain ⟨tree, htree⟩ := hspelled
          exact ⟨tree, gap, inner, htext, hgap, htree⟩
      | array behind => cases h
      | object behind => cases h
  | succ budget ih =>
      have hread : ∀ text value rest, readValue budget text = .ok (value, rest) →
          ∃ tree, Begins text tree rest := fun _ _ _ => ih
      obtain ⟨head, hhead, h⟩ := Outcome.bind_eq_ok.mp h
      obtain ⟨gap, inner, htext, hgap, hspelled⟩ := readHead_sound hhead
      cases head with
      | scalar found behind =>
          cases h
          obtain ⟨tree, htree⟩ := hspelled
          exact ⟨tree, gap, inner, htext, hgap, htree⟩
      | array behind =>
          obtain ⟨⟨items, after⟩, hitems, h⟩ := Outcome.bind_eq_ok.mp h
          cases h
          rw [htext, hspelled]
          obtain ⟨trees, hbegins⟩ := begins_array (fun hitem => by
            obtain ⟨value, hvalue, -⟩ := addElement_eq_ok hitem
            exact ih hvalue) hgap hitems
          exact ⟨.array trees, hbegins⟩
      | object behind =>
          obtain ⟨⟨members, after⟩, hmembers, h⟩ := Outcome.bind_eq_ok.mp h
          cases h
          obtain ⟨inside, hfold, hclose⟩ := objectResult_eq_ok hmembers
          obtain ⟨trees, closed, rfl, htrees⟩ :=
            foldMembers_sound hread (Nat.lt_succ_self _) hfold
          cases hclose.symm.trans (closeObject_brace closed)
          rw [hspelled] at htext
          exact ⟨.object trees, gap, _, htext, hgap, .object htrees⟩

theorem Begins.read?_eq {budget : Nat} {text behind rest : Bytes} {tree : Tree} {value : Json}
    (hbegins : Begins text tree behind) (hbehind : EndsNumber behind)
    (h : readValue budget text = .ok (value, rest)) :
    tree.read? budget = some value ∧ behind = rest := by
  obtain ⟨gap, inner, rfl, hgap, hspells⟩ := hbegins
  have hread := hspells.toOption_readValue budget (ends_of_endsNumber tree hbehind)
  rw [readValue_gap hgap] at h
  rw [h, Outcome.toOption_ok] at hread
  obtain ⟨found, hfound, hpair⟩ := Option.map_eq_some_iff.mp hread.symm
  cases hpair
  exact ⟨hfound, rfl⟩

/-- A number could go on behind what has been read, any other value is read the same
whatever follows. -/
theorem readValue_append {budget : Nat} {text rest : Bytes} {value : Json}
    (h : readValue budget text = .ok (value, rest)) (hrest : EndsNumber rest)
    (hvalue : ∀ x, value ≠ .number x) (more : Bytes) :
    readValue budget (text ++ more) = .ok (value, rest ++ more) := by
  obtain ⟨tree, hbegins⟩ := readValue_sound h
  obtain ⟨hread, -⟩ := hbegins.read?_eq hrest h
  obtain ⟨gap, inner, rfl, hgap, hspells⟩ := hbegins
  have hends : tree.Ends (rest ++ more) := by
    rintro n rfl
    cases budget <;>
    · obtain ⟨x, _, hx⟩ := Option.map_eq_some_iff.mp hread
      exact absurd hx.symm (hvalue x)
  rw [List.append_assoc, readValue_gap hgap]
  apply Outcome.toOption_eq_some.mp
  rw [(hspells.append more).toOption_readValue budget hends, hread]
  rfl

theorem Tree.read?_eq_object {budget : Nat} {tree : Tree} {values : List (String × Json)}
    (h : tree.read? budget = some (.object values)) : ∃ members, tree = .object members := by
  cases tree with
  | null => rw [Tree.read?] at h; cases h
  | bool b => rw [Tree.read?] at h; cases h
  | number n =>
      rw [Tree.read?] at h
      obtain ⟨x, _, hx⟩ := Option.map_eq_some_iff.mp h
      cases hx
  | string s => rw [Tree.read?] at h; cases h
  | array items =>
      cases budget with
      | zero => cases h
      | succ budget =>
          obtain ⟨found, _, hfound⟩ := Option.map_eq_some_iff.mp h
          cases hfound
  | object members => exact ⟨members, rfl⟩

theorem Document.read?_eq {budget : Nat} {text rest : Bytes} {tree : Tree} {value : Json}
    (hdocument : Document text tree) (h : readValue budget text = .ok (value, rest)) :
    tree.read? budget = some value := by
  obtain ⟨gap, inner, behind, htext, hgap, hspells, hbehind⟩ := hdocument
  have hbegins : Begins text tree behind := ⟨gap, inner, htext, hgap, hspells⟩
  exact (hbegins.read?_eq (endsNumber_blank hbehind) h).1

theorem readWhole_eq_ok {read : Bytes → Except Fault (α × Bytes)} {text : Bytes} {a : α} :
    readWhole read text = .ok a ↔ ∃ rest, read text = .ok (a, rest) ∧ Blank rest := by
  unfold readWhole
  cases hread : read text with
  | error fault => simp
  | ok found =>
      obtain ⟨b, rest⟩ := found
      unfold finish
      constructor
      · intro h
        dsimp only at h
        split at h
        · cases h
        · rename_i hfinish
          split at hfinish
          · rename_i hskip
            cases h
            exact ⟨rest, rfl, blank_of_skipSpace hskip⟩
          · cases hfinish
      · rintro ⟨behind, hpair, hblank⟩
        cases hpair
        have hskip : skipSpace rest = [] := by
          have hblank := skipSpace_blank hblank []
          rwa [List.append_nil] at hblank
        simp only [hskip]

theorem readWhole_iff {read : Bytes → Except Fault (α × Bytes)} {text behind : Bytes} {a : α}
    {meaning : Prop} (hread : ∀ rest, read text = .ok (a, rest) ↔ rest = behind ∧ meaning)
    (hbehind : Blank behind) : readWhole read text = .ok a ↔ meaning := by
  rw [readWhole_eq_ok]
  constructor
  · intro h
    obtain ⟨rest, hfound, -⟩ := h
    exact ((hread rest).mp hfound).2
  · intro hmeaning
    exact ⟨behind, (hread behind).mpr ⟨rfl, hmeaning⟩, hbehind⟩

theorem exists_document {budget : Nat} {text rest : Bytes} {values : List (String × Json)}
    (h : readValue budget text = .ok (.object values, rest)) (hrest : Blank rest) :
    ∃ members, Document text (.object members) := by
  obtain ⟨tree, hbegins⟩ := readValue_sound h
  obtain ⟨hread, -⟩ := hbegins.read?_eq (endsNumber_blank hrest) h
  obtain ⟨members, rfl⟩ := Tree.read?_eq_object hread
  obtain ⟨gap, inner, htext, hgap, hspells⟩ := hbegins
  exact ⟨members, gap, inner, rest, htext, hgap, hspells, hrest⟩

end ChainArchive.Json
