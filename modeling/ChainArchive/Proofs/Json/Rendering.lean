import ChainArchive.Proofs.Digits
import ChainArchive.Proofs.Json.Forms

namespace ChainArchive

/-! Texts that a line can hold: no byte of them is a control character. -/

namespace Bytes

def Printable (bytes : Bytes) : Prop := ∀ b ∈ bytes, 32 ≤ b

theorem printable_nil : Printable [] := by
  simp [Printable]

theorem Printable.append {bytes others : Bytes} (h : bytes.Printable)
    (hothers : others.Printable) : (bytes ++ others).Printable := by
  intro b hb
  rcases List.mem_append.mp hb with hleft | hright
  · exact h b hleft
  · exact hothers b hright

theorem Printable.cons {b : UInt8} {bytes : Bytes} (hb : 32 ≤ b) (h : bytes.Printable) :
    Printable (b :: bytes) := by
  intro c hc
  rcases List.mem_cons.mp hc with rfl | hrest
  · exact hb
  · exact h c hrest

theorem IsText.flatMap {items : List α} {write : α → Bytes}
    (h : ∀ item ∈ items, (write item).IsText) : IsText (items.flatMap write) := by
  induction items with
  | nil => exact isText_nil
  | cons item rest ih =>
      rw [List.flatMap_cons]
      exact (h item (by simp)).append (ih fun other hother => h other (by simp [hother]))

theorem isText_byte {b : UInt8} (h : b < 128) : IsText [b] :=
  isText_ascii (by simpa using h)

theorem IsText.cons {b : UInt8} {bytes : Bytes} (hb : b < 128) (h : bytes.IsText) :
    IsText (b :: bytes) := (isText_byte hb).append h

end Bytes

namespace Json

open Bytes

/-! Strings as they are written. -/

theorem hexDigit_printable : ∀ n, n < 16 → 32 ≤ hexDigit n ∧ hexDigit n < 128 := by
  decide

theorem escapeByte_forms (b : UInt8) :
    (∃ e, shortEscape? e = some b ∧ e ≠ byte 'u' ∧ 32 ≤ e ∧ e < 128 ∧
      escapeByte b = [byte '\\', e]) ∨
    (b < 32 ∧ escapeByte b = [byte '\\', byte 'u', byte '0', byte '0',
      hexDigit (b.toNat / 16), hexDigit (b.toNat % 16)]) ∨
    (b ≠ byte '"' ∧ b ≠ byte '\\' ∧ ¬ b < 32 ∧ escapeByte b = [b]) := by
  unfold escapeByte
  split
  · subst b
    exact .inl ⟨byte '"', by decide⟩
  rename_i hquote
  split
  · subst b
    exact .inl ⟨byte '\\', by decide⟩
  rename_i hslash
  split
  · subst b
    exact .inl ⟨byte 'b', by decide⟩
  split
  · subst b
    exact .inl ⟨byte 'f', by decide⟩
  split
  · subst b
    exact .inl ⟨byte 'n', by decide⟩
  split
  · subst b
    exact .inl ⟨byte 'r', by decide⟩
  split
  · subst b
    exact .inl ⟨byte 't', by decide⟩
  split
  · rename_i hcontrol
    exact .inr (.inl ⟨hcontrol, rfl⟩)
  · rename_i hplain
    exact .inr (.inr ⟨hquote, hslash, hplain, rfl⟩)

theorem escapeByte_printable (b : UInt8) : (escapeByte b).Printable := by
  have hhigh := hexDigit_printable (b.toNat / 16) (by have := b.toNat_lt; omega)
  have hlow := hexDigit_printable (b.toNat % 16) (by omega)
  obtain ⟨e, _, _, hshown, _, hescape⟩ | ⟨_, hescape⟩ | ⟨_, _, hplain, hescape⟩ :=
    escapeByte_forms b
  · rw [hescape]
    exact .cons (by decide) (.cons hshown printable_nil)
  · rw [hescape]
    exact .cons (by decide) (.cons (by decide) (.cons (by decide) (.cons (by decide)
      (.cons hhigh.1 (.cons hlow.1 printable_nil)))))
  · rw [hescape]
    exact .cons (UInt8.not_lt.mp hplain) printable_nil

theorem escapeByte_ascii {b : UInt8} (h : b < 128) : (escapeByte b).IsText := by
  have hhigh := hexDigit_printable (b.toNat / 16) (by have := b.toNat_lt; omega)
  have hlow := hexDigit_printable (b.toNat % 16) (by omega)
  obtain ⟨e, _, _, _, hascii, hescape⟩ | ⟨_, hescape⟩ | ⟨_, _, _, hescape⟩ :=
    escapeByte_forms b
  · rw [hescape]
    exact .cons (by decide) (isText_byte hascii)
  · rw [hescape]
    exact .cons (by decide) (.cons (by decide) (.cons (by decide) (.cons (by decide)
      (.cons hhigh.2 (isText_byte hlow.2)))))
  · rw [hescape]
    exact isText_byte h

theorem escapeByte_beyond {b : UInt8} (h : 128 ≤ b) : escapeByte b = [b] := by
  have hne : ∀ c : UInt8, c < 128 → b ≠ c := by
    rintro c hc rfl
    exact UInt8.not_lt.mpr h hc
  have hplain : ¬ b < 32 := by
    rw [UInt8.le_iff_toNat_le] at h
    rw [UInt8.lt_iff_toNat_lt]
    exact Nat.not_lt.mpr (Nat.le_trans (by decide) h)
  simp only [escapeByte, if_neg hplain, if_neg (hne _ (by decide : byte '"' < 128)),
    if_neg (hne _ (by decide : byte '\\' < 128)), if_neg (hne 8 (by decide)),
    if_neg (hne 12 (by decide)), if_neg (hne _ (by decide : byte '\n' < 128)),
    if_neg (hne _ (by decide : byte '\r' < 128)), if_neg (hne _ (by decide : byte '\t' < 128))]

theorem escaped_plain {bytes : Bytes} (h : ∀ b ∈ bytes, escapeByte b = [b]) :
    bytes.flatMap escapeByte = bytes := by
  induction bytes with
  | nil => rfl
  | cons b rest ih =>
      rw [List.flatMap_cons, h b (by simp), ih fun c hc => h c (by simp [hc]),
        List.singleton_append]

/-- Characters of ASCII are escaped into ASCII and all others stand as they are, so that
no character is torn. -/
theorem escaped_isText (s : String) : IsText ((ofString s).flatMap escapeByte) := by
  rw [ofString_eq_flatMap, List.flatMap_assoc]
  refine IsText.flatMap fun c _ => ?_
  by_cases hascii : c.toNat < 128
  · rw [utf8EncodeChar_ascii hascii, List.flatMap_singleton]
    apply escapeByte_ascii
    rw [UInt8.lt_iff_toNat_lt, byte_toNat hascii]
    exact hascii
  · rw [escaped_plain fun b hb => escapeByte_beyond (utf8EncodeChar_beyond hascii b hb)]
    refine ⟨String.ofList [c], ?_⟩
    rw [ofString_ofList, List.flatMap_singleton]

theorem renderString_isText (s : String) : (renderString s).IsText :=
  .cons (by decide) ((escaped_isText s).append (isText_byte (by decide)))

theorem renderString_printable (s : String) : (renderString s).Printable := by
  refine .cons (by decide) (.append (fun b hb => ?_) (.cons (by decide) printable_nil))
  obtain ⟨written, _, hescape⟩ := List.mem_flatMap.mp hb
  exact escapeByte_printable written b hescape

/-! Parts with commas between them. -/

theorem joinComma_cons (part : Bytes) (rest : List Bytes) :
    joinComma (part :: rest) = part ++ rest.flatMap (byte ',' :: ·) := by
  induction rest generalizing part with
  | nil => simp [joinComma]
  | cons next rest ih =>
      simp only [joinComma, List.flatMap_cons]
      rw [ih next, List.cons_append]

theorem joinComma_isText {parts : List Bytes} (h : ∀ part ∈ parts, part.IsText) :
    (joinComma parts).IsText := by
  cases parts with
  | nil => exact isText_nil
  | cons part rest =>
      rw [joinComma_cons]
      refine (h part (by simp)).append (IsText.flatMap fun other hother => ?_)
      exact .cons (by decide) (h other (by simp [hother]))

theorem joinComma_printable {parts : List Bytes} (h : ∀ part ∈ parts, part.Printable) :
    (joinComma parts).Printable := by
  cases parts with
  | nil => exact printable_nil
  | cons part rest =>
      rw [joinComma_cons]
      refine (h part (by simp)).append fun b hb => ?_
      obtain ⟨other, hother, hmem⟩ := List.mem_flatMap.mp hb
      exact Printable.cons (by decide) (h other (by simp [hother])) b hmem

theorem length_le_joinComma {parts : List Bytes} (h : ∀ part ∈ parts, part ≠ []) :
    parts.length ≤ (joinComma parts).length := by
  cases parts with
  | nil => simp
  | cons part rest =>
      have hpart := List.length_pos_iff.mpr (h part (by simp))
      have hrest : rest.length ≤ (rest.flatMap (byte ',' :: ·)).length := by
        clear h hpart
        induction rest with
        | nil => simp
        | cons next rest ih =>
            simp only [List.flatMap_cons, List.length_append, List.length_cons]
            omega
      rw [joinComma_cons]
      simp only [List.length_cons, List.length_append]
      omega

/-! Numbers. -/

def Shown (chars : List Char) : Prop := ∀ c ∈ chars, 32 ≤ c.toNat ∧ c.toNat < 128

theorem Shown.cons {c : Char} {chars : List Char} (hc : 32 ≤ c.toNat ∧ c.toNat < 128)
    (h : Shown chars) : Shown (c :: chars) := by
  intro d hd
  rcases List.mem_cons.mp hd with rfl | hrest
  · exact hc
  · exact h d hrest

theorem Shown.append {chars others : List Char} (h : Shown chars) (hothers : Shown others) :
    Shown (chars ++ others) := by
  intro c hc
  rcases List.mem_append.mp hc with hleft | hright
  · exact h c hleft
  · exact hothers c hright

theorem Shown.printable {chars : List Char} (h : Shown chars) :
    (ofString (String.ofList chars)).Printable := by
  rw [ofString_ascii fun c hc => (h c hc).2]
  intro b hb
  obtain ⟨c, hc, rfl⟩ := List.mem_map.mp hb
  rw [UInt8.le_iff_toNat_le, byte_toNat (h c hc).2]
  exact (h c hc).1

theorem zeros_shown (n : Nat) : Shown (zeros n) := by
  intro c hc
  rw [List.eq_of_mem_replicate hc]
  decide

theorem toDigits_shown (n : Nat) : Shown (Nat.toDigits 10 n) := by
  intro c hc
  have hrange := toNat_lt_of_isDigit (digit_of_mem_toDigits hc)
  omega

theorem decimalText_shown (d : Decimal) : Shown (decimalText d) := by
  have hdigits := toDigits_shown d.digits
  have hexponent : Shown ((if d.leading < 0 then '-' else '+') ::
      Nat.toDigits 10 d.leading.natAbs) :=
    .cons (by split <;> decide) (toDigits_shown _)
  unfold decimalText
  dsimp only
  split
  · split
    case h_1 single hsingle =>
      exact .cons (hdigits single (by simp [hsingle])) (.cons (by decide) hexponent)
    case h_2 first rest _ hfirst =>
      have hrest : Shown rest := fun c hc => hdigits c (by simp [hfirst, hc])
      exact .cons (hdigits first (by simp [hfirst]))
        (.cons (by decide) (hrest.append (.cons (by decide) hexponent)))
    case h_3 =>
      simp [Shown]
  · split
    · exact .cons (by decide) (.cons (by decide) ((zeros_shown _).append hdigits))
    · split
      · refine (hdigits.append (zeros_shown _)).append ?_
        exact .cons (by decide) (.cons (by decide) (by simp [Shown]))
      · exact .append (fun c hc => hdigits c (List.mem_of_mem_take hc))
          (.cons (by decide) fun c hc => hdigits c (List.mem_of_mem_drop hc))

theorem Number.text_shown (n : Number) :
    ∃ chars, n.text = String.ofList chars ∧ Shown chars := by
  cases n with
  | integer n =>
      rw [Number.text, Int.toString_eq_repr, Int.repr_eq_if]
      split
      · exact ⟨_, Nat.repr_eq_ofList_toDigits, toDigits_shown _⟩
      · refine ⟨'-' :: Nat.toDigits 10 (-n.value).toNat, ?_,
          .cons (by decide) (toDigits_shown _)⟩
        rw [Nat.repr_eq_ofList_toDigits, ← List.singleton_append, String.ofList_append]
  | float negative x =>
      refine ⟨_, rfl, ?_⟩
      split
      · exact .cons (by decide) (decimalText_shown _)
      · exact decimalText_shown _

/-! Values. -/

theorem render_array (items : List Json) :
    render (.array items) = byte '[' :: (joinComma (items.map render) ++ [byte ']']) := by
  rw [render, renderItems_eq_map]

theorem render_object (members : List (String × Json)) :
    render (.object members) =
      byte '\x7b' :: (joinComma (members.map renderMember) ++ [byte '\x7d']) := by
  rw [render, renderMembers_eq_map]

theorem render_isText (value : Json) : (render value).IsText := by
  induction value using inside with
  | null => exact isText_ofString "null"
  | bool b =>
      cases b with
      | true => exact isText_ofString "true"
      | false => exact isText_ofString "false"
  | number n => exact isText_ofString n.text
  | string s => exact renderString_isText s
  | array items ih =>
      rw [render_array]
      refine .cons (by decide) (.append (joinComma_isText fun part hpart => ?_)
        (isText_byte (by decide)))
      obtain ⟨item, hitem, rfl⟩ := List.mem_map.mp hpart
      exact ih item hitem
  | object members ih =>
      rw [render_object]
      refine .cons (by decide) (.append (joinComma_isText fun part hpart => ?_)
        (isText_byte (by decide)))
      obtain ⟨member, hmember, rfl⟩ := List.mem_map.mp hpart
      exact ((renderString_isText member.1).append (isText_byte (by decide))).append
        (ih member hmember)

theorem renderMember_isText (member : String × Json) : (renderMember member).IsText :=
  ((renderString_isText member.1).append (isText_byte (by decide))).append
    (render_isText member.2)

theorem render_printable (value : Json) : (render value).Printable := by
  induction value using inside with
  | null =>
      rw [render, show "null" = String.ofList ['n', 'u', 'l', 'l'] from rfl]
      exact Shown.printable (by simp [Shown])
  | bool b =>
      cases b with
      | true =>
          rw [render, show "true" = String.ofList ['t', 'r', 'u', 'e'] from rfl]
          exact Shown.printable (by simp [Shown])
      | false =>
          rw [render, show "false" = String.ofList ['f', 'a', 'l', 's', 'e'] from rfl]
          exact Shown.printable (by simp [Shown])
  | number n =>
      obtain ⟨chars, htext, hshown⟩ := n.text_shown
      rw [render, htext]
      exact hshown.printable
  | string s => exact renderString_printable s
  | array items ih =>
      rw [render_array]
      refine .cons (by decide) (.append (joinComma_printable fun part hpart => ?_)
        (.cons (by decide) printable_nil))
      obtain ⟨item, hitem, rfl⟩ := List.mem_map.mp hpart
      exact ih item hitem
  | object members ih =>
      rw [render_object]
      refine .cons (by decide) (.append (joinComma_printable fun part hpart => ?_)
        (.cons (by decide) printable_nil))
      obtain ⟨member, hmember, rfl⟩ := List.mem_map.mp hpart
      exact ((renderString_printable member.1).append
        (.cons (by decide) printable_nil)).append (ih member hmember)

end Json

end ChainArchive
