import ChainArchive.Proofs.Archive.Writing
import ChainArchive.Proofs.Transaction.Line

namespace ChainArchive

open Bytes

namespace Text

theorem mem_dropWhile {c : Char} {chars : List Char} {blank : Char → Bool} (h : c ∈ chars)
    (hc : blank c = false) : c ∈ chars.dropWhile blank := by
  induction chars with
  | nil => cases h
  | cons first rest ih =>
      rw [List.dropWhile_cons]
      split
      · rename_i hfirst
        rcases List.mem_cons.mp h with rfl | hrest
        · simp [hc] at hfirst
        · exact ih hrest
      · exact h

theorem mem_trim {c : Char} {chars : List Char} (h : c ∈ chars) (hc : isBlank c = false) :
    c ∈ trim chars := by
  have hbehind : c ∈ (chars.dropWhile isBlank).reverse :=
    List.mem_reverse.mpr (mem_dropWhile h hc)
  exact List.mem_reverse.mpr (mem_dropWhile hbehind hc)

end Text

namespace Transaction

/-! Lines. -/

theorem line_isText (tx : Transaction) : tx.line.IsText := Json.render_isText tx.toJson

theorem line_printable (tx : Transaction) : tx.line.Printable := Json.render_printable tx.toJson

theorem newline_not_mem_line (tx : Transaction) : byte '\n' ∉ tx.line := fun hmem =>
  absurd (tx.line_printable _ hmem) (by decide)

theorem line_getLast? (tx : Transaction) : tx.line.getLast? = some (byte '\x7d') := by
  simp [line, toJson, Json.render, List.getLast?_cons]

theorem line_toString? (tx : Transaction) :
    ∃ s, tx.line.toString? = some s ∧ Archive.isBlankLine s = false := by
  have hinner : IsText (Json.joinComma
      ((tx.typedMembers ++ tx.extras).map Json.renderMember) ++ [byte '\x7d']) := by
    refine (Json.joinComma_isText fun part hpart => ?_).append (isText_byte (by decide))
    obtain ⟨member, _, rfl⟩ := List.mem_map.mp hpart
    exact Json.renderMember_isText member
  obtain ⟨inner, hinner⟩ := hinner
  have hbrace : ofString "\x7b" = [byte '\x7b'] := by decide
  have hline : tx.line = ofString ("\x7b" ++ inner) := by
    rw [ofString_append, hbrace, hinner, line, toJson, Json.render_object]
    rfl
  refine ⟨"\x7b" ++ inner, by rw [hline, toString?_ofString], ?_⟩
  have hmem : '\x7b' ∈ Text.trim ("\x7b" ++ inner).toList :=
    Text.mem_trim (by simp) (by decide)
  simpa [Archive.isBlankLine] using List.ne_nil_of_mem hmem

end Transaction

namespace Archive

/-! Splitting into lines. -/

theorem splitLines_line {line : Bytes} (h : byte '\n' ∉ line) (rest : Bytes) :
    splitLines (line ++ byte '\n' :: rest) = (line ++ [byte '\n']) :: splitLines rest := by
  induction line with
  | nil => simp [splitLines]
  | cons b line ih =>
      have hb : b ≠ byte '\n' := fun heq => h (by simp [heq])
      have hline : byte '\n' ∉ line := fun hmem => h (List.mem_cons_of_mem _ hmem)
      rw [List.cons_append, splitLines, if_neg hb, ih hline]
      rfl

theorem text_cons (tx : Transaction) (rest : List Transaction) :
    text (tx :: rest) = tx.line ++ byte '\n' :: text rest := by
  simp [text, record]

theorem splitLines_text (txs : List Transaction) : splitLines (text txs) = txs.map record := by
  induction txs with
  | nil => rfl
  | cons tx rest ih =>
      rw [text_cons, splitLines_line tx.newline_not_mem_line, ih]
      rfl

theorem count_newline_text (txs : List Transaction) :
    (text txs).count (byte '\n') = txs.length := by
  induction txs with
  | nil => rfl
  | cons tx rest ih =>
      have hline : tx.line.count (byte '\n') = 0 :=
        List.count_eq_zero.mpr tx.newline_not_mem_line
      rw [text_cons, List.count_append, hline, List.count_cons_self, ih, List.length_cons]
      omega

theorem withoutEnd_record (tx : Transaction) : withoutEnd (record tx) = tx.line := by
  have hend : (record tx).getLast? = some (byte '\n') := by simp [record]
  have hinner : (record tx).dropLast = tx.line := by simp [record]
  have hreturn : some (byte '\x7d') ≠ some (byte '\r') := by decide
  rw [withoutEnd, if_pos hend, hinner]
  simp only [tx.line_getLast?, if_neg hreturn]

/-! Reading back what was written. -/

theorem readLine_record {tx : Transaction} (h : tx.Decoded) (hintegral : tx.IntegralExtras)
    (path : String) (number : Nat) :
    readLine path number (record tx) = .ok (some tx) := by
  have hrecord : (record tx).IsText := tx.line_isText.append (isText_byte (by decide))
  obtain ⟨whole, hwhole⟩ := hrecord.toString?_isSome
  obtain ⟨s, hs, hblank⟩ := tx.line_toString?
  simp only [readLine, hwhole, withoutEnd_record, hs, Option.getD_some, hblank,
    Bool.false_eq_true, if_false, h.decode_line hintegral]

theorem readLines_records {txs : List Transaction} (h : ∀ tx ∈ txs, tx.Decoded)
    (hintegral : ∀ tx ∈ txs, tx.IntegralExtras) (path : String) (number : Nat) :
    readLines path number (txs.map record) = .ok txs := by
  induction txs generalizing number with
  | nil => rfl
  | cons tx rest ih =>
      have hrest := ih (fun other hother => h other (by simp [hother]))
        (fun other hother => hintegral other (by simp [hother])) (number + 1)
      rw [List.map_cons, readLines,
        readLine_record (h tx (by simp)) (hintegral tx (by simp)), Outcome.ok_bind, hrest]
      rfl

theorem readContent_text {txs : List Transaction} (h : ∀ tx ∈ txs, tx.Decoded)
    (hintegral : ∀ tx ∈ txs, tx.IntegralExtras) (path : String) :
    readContent path (text txs) = .ok txs := by
  rw [readContent, splitLines_text, readLines_records h hintegral]

end Archive

end ChainArchive
