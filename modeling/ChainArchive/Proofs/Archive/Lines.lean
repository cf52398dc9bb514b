import ChainArchive.Proofs.Archive.Tearing
import ChainArchive.Proofs.Json.Detaching
import ChainArchive.Proofs.Transaction.Meaning
import Mathlib.Data.List.Forall2
import Mathlib.Data.List.TakeWhile

namespace ChainArchive

open Bytes Json

/-! Lines as the line feeds of a content part them, and what a carriage return at the end of a
line changes: nothing. -/

theorem Bytes.toString?_of_not_isText {bytes : Bytes} (h : ¬ IsText bytes) :
    bytes.toString? = none := by
  cases hfound : bytes.toString? with
  | none => rfl
  | some s => exact absurd ⟨s, ofString_of_toString? hfound⟩ h

theorem Bytes.isText_append_ascii {bytes : Bytes} {b : UInt8} (hb : b < 128) :
    IsText (bytes ++ [b]) ↔ IsText bytes := by
  refine ⟨fun h => ?_, fun h => h.append (isText_byte hb)⟩
  obtain ⟨s, hs⟩ := h
  rw [ofString_eq_flatMap] at hs
  cases hchars : s.toList using List.reverseRecOn with
  | nil => simp [hchars] at hs
  | append_singleton front c =>
      rw [hchars, List.flatMap_append, List.flatMap_singleton] at hs
      by_cases hc : c.toNat < 128
      · rw [utf8EncodeChar_ascii hc] at hs
        refine ⟨String.ofList front, ?_⟩
        rw [ofString_ofList]
        exact (List.append_inj' hs rfl).1
      · have hlast : b ∈ String.utf8EncodeChar c := by
          have hne : String.utf8EncodeChar c ≠ [] := by simp
          have hgetLast := congrArg List.getLast? hs
          rw [List.getLast?_append_of_ne_nil _ hne, List.getLast?_concat] at hgetLast
          exact List.mem_of_getLast? hgetLast
        have hbeyond := utf8EncodeChar_beyond hc b hlast
        exact absurd hb (UInt8.not_lt.mpr hbeyond)

namespace Archive

def blank (line : Bytes) : Bool := line.toString?.any isBlankLine

def Tells (line : Bytes) (tx : Transaction) : Prop :=
  line.IsText ∧ Transaction.decoder.decode line = .ok tx

def Sound (line : Bytes) : Prop := blank line = false → ∃ tx, Tells line tx

def Return (gap : Bytes) : Prop := gap = [] ∨ gap = [byte '\r']

/-- The content with a carriage return in front of every line feed. -/
def withReturns (content : Bytes) : Bytes :=
  content.flatMap fun b => if b = byte '\n' then [byte '\r', byte '\n'] else [b]

end Archive

namespace Text

theorem trim_isEmpty (chars : List Char) : (trim chars).isEmpty = chars.all isBlank := by
  cases hall : chars.all isBlank with
  | true =>
      have hskip : chars.dropWhile isBlank = [] :=
        List.dropWhile_eq_nil_iff.mpr (List.all_eq_true.mp hall)
      simp [trim, hskip]
  | false =>
      obtain ⟨c, hc, hblank⟩ := List.all_eq_false.mp hall
      have hmem := mem_trim hc (Bool.eq_false_iff.mpr hblank)
      simpa using List.ne_nil_of_mem hmem

end Text

namespace Archive

/-! A carriage return behind a line. -/

section Returns

variable {line gap : Bytes} (hgap : Return gap)

include hgap

theorem Return.blank : Json.Blank gap := by
  rcases hgap with rfl | rfl
  · exact blank_nil
  · exact List.forall_mem_singleton.mpr (by decide)

theorem isText_return : IsText (line ++ gap) ↔ IsText line := by
  rcases hgap with rfl | rfl
  · rw [List.append_nil]
  · exact isText_append_ascii (by decide)

theorem blank_return : blank (line ++ gap) = blank line := by
  rcases hgap with rfl | rfl
  · rw [List.append_nil]
  · by_cases htext : IsText line
    · obtain ⟨s, rfl⟩ := htext
      have hreturn : [byte '\r'] = ofString "\r" := by decide
      have hspace : Text.isBlank '\r' = true := by decide
      rw [blank, blank, hreturn, ← ofString_append, toString?_ofString, toString?_ofString]
      simp [isBlankLine, Text.trim_isEmpty, hspace]
    · have hlonger : ¬ IsText (line ++ [byte '\r']) := by
        rwa [isText_append_ascii (by decide)]
      rw [blank, blank, toString?_of_not_isText htext, toString?_of_not_isText hlonger]

end Returns

end Archive

theorem Transaction.decode_append_blank {text gap : Bytes} (hgap : Json.Blank gap)
    {tx : Transaction} : decoder.decode (text ++ gap) = .ok tx ↔ decoder.decode text = .ok tx := by
  have hmeans := Decoder.Faithful.means decoder_faithful record_complete.decoder
  constructor
  · intro h
    obtain ⟨values, rest, hread, hrest, -⟩ := decode_eq_ok h
    obtain ⟨members, hlonger⟩ := exists_document hread hrest
    rw [hmeans.decode_iff hlonger] at h
    rwa [hmeans.decode_iff (hlonger.of_append_blank hgap)]
  · intro h
    obtain ⟨values, rest, hread, hrest, -⟩ := decode_eq_ok h
    obtain ⟨members, hdocument⟩ := exists_document hread hrest
    rw [hmeans.decode_iff hdocument] at h
    rwa [hmeans.decode_iff (hdocument.append_blank hgap)]

namespace Archive

theorem tells_return {line gap : Bytes} (hgap : Return gap) {tx : Transaction} :
    Tells (line ++ gap) tx ↔ Tells line tx := by
  rw [Tells, Tells, isText_return hgap, Transaction.decode_append_blank hgap.blank]

/-! Contents line by line. -/

@[elab_as_elim]
theorem newline_induction {motive : Bytes → Prop}
    (last : ∀ line, byte '\n' ∉ line → motive line)
    (ended : ∀ line rest, byte '\n' ∉ line → motive rest → motive (line ++ byte '\n' :: rest))
    (content : Bytes) : motive content := by
  by_cases hmem : byte '\n' ∈ content
  · obtain ⟨line, rest, hcontent, hline⟩ := List.eq_append_cons_of_mem hmem
    have hshorter : rest.length < content.length := by
      rw [hcontent, List.length_append, List.length_cons]
      omega
    rw [hcontent]
    exact ended line rest hline (newline_induction last ended rest)
  · exact last content hmem
termination_by content.length

theorem splitOn_newline {line : Bytes} (h : byte '\n' ∉ line) (rest : Bytes) :
    (line ++ byte '\n' :: rest).splitOn (byte '\n') = line :: rest.splitOn (byte '\n') := by
  have hfirst : line.splitOn (byte '\n') = [line] := List.splitOn_eq_singleton h
  unfold List.splitOn at hfirst ⊢
  rw [List.splitOnP_append_cons _ _ (by simp), hfirst, List.singleton_append]

theorem withReturns_line {line : Bytes} (h : byte '\n' ∉ line) : withReturns line = line := by
  induction line with
  | nil => rfl
  | cons b line ih =>
      obtain ⟨hb, hline⟩ := not_or.mp (mt List.mem_cons.mpr h)
      have hrest := ih hline
      unfold withReturns at hrest ⊢
      rw [List.flatMap_cons, if_neg (Ne.symm hb), hrest, List.singleton_append]

theorem withReturns_ended {line : Bytes} (h : byte '\n' ∉ line) (rest : Bytes) :
    withReturns (line ++ byte '\n' :: rest) =
      (line ++ [byte '\r']) ++ byte '\n' :: withReturns rest := by
  have hline := withReturns_line h
  unfold withReturns at hline ⊢
  rw [List.flatMap_append, hline, List.flatMap_cons, if_pos rfl]
  simp

theorem splitOn_withReturns (content : Bytes) :
    List.Forall₂ (fun line returned => ∃ gap, Return gap ∧ returned = line ++ gap)
      (content.splitOn (byte '\n')) ((withReturns content).splitOn (byte '\n')) := by
  induction content using newline_induction with
  | last line h =>
      rw [withReturns_line h, List.splitOn_eq_singleton h]
      exact .cons ⟨[], .inl rfl, (List.append_nil line).symm⟩ .nil
  | ended line rest h ih =>
      have hreturned : byte '\n' ∉ line ++ [byte '\r'] := by
        simpa using ⟨h, by decide⟩
      rw [withReturns_ended h, splitOn_newline h, splitOn_newline hreturned]
      exact .cons ⟨[byte '\r'], .inr rfl, rfl⟩ ih

/-! Contents one behind the other. -/

def Ended (content : Bytes) : Prop := content = [] ∨ content.getLast? = some (byte '\n')

theorem Ended.eq_nil {line : Bytes} (h : Ended line) (hline : byte '\n' ∉ line) : line = [] := by
  rcases h with hnil | hlast
  · exact hnil
  · exact absurd (List.mem_of_getLast? hlast) hline

theorem Ended.rest {line rest : Bytes} (h : Ended (line ++ byte '\n' :: rest)) : Ended rest := by
  rcases h with hnil | hlast
  · simp at hnil
  · cases rest with
    | nil => exact .inl rfl
    | cons b rest =>
        rw [List.getLast?_append_of_ne_nil _ (List.cons_ne_nil _ _), List.getLast?_cons_cons]
          at hlast
        exact .inr hlast

theorem splitLines_append {front : Bytes} (h : Ended front) (back : Bytes) :
    splitLines (front ++ back) = splitLines front ++ splitLines back := by
  induction front using newline_induction with
  | last line hline =>
      rw [h.eq_nil hline]
      rfl
  | ended line rest hline ih =>
      rw [List.append_assoc, List.cons_append, splitLines_line hline, splitLines_line hline,
        ih h.rest, List.cons_append]

theorem length_splitLines {content : Bytes} (h : Ended content) :
    (splitLines content).length = content.count (byte '\n') := by
  induction content using newline_induction with
  | last line hline =>
      rw [h.eq_nil hline]
      rfl
  | ended line rest hline ih =>
      rw [splitLines_line hline, List.length_cons, ih h.rest, List.count_append,
        List.count_eq_zero.mpr hline, List.count_cons_self, Nat.zero_add]

end Archive

end ChainArchive
