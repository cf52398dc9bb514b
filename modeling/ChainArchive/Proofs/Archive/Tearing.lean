import ChainArchive.Proofs.Archive.RoundTrip
import ChainArchive.Proofs.Transaction.Members

namespace ChainArchive

open Bytes

namespace Transaction

/-! Lines that have been cut off. -/

theorem Decoded.decode_torn {tx : Transaction} (h : tx.Decoded) (hintegral : tx.IntegralExtras)
    {kept : Nat} (hcut : kept < tx.line.length) :
    ∃ failure, decoder.decode (tx.line.take kept) = .error failure := by
  have hwhole : decoder.decode (tx.line.take kept ++ tx.line.drop kept) = .ok tx := by
    rw [List.take_append_drop]
    exact h.decode_line hintegral
  have hlast : (tx.line.drop kept).getLast? = some (byte '\x7d') := by
    rw [List.getLast?_drop, if_neg (by omega), tx.line_getLast?]
  cases hdecode : decoder.decode (tx.line.take kept) with
  | error failure => exact ⟨failure, rfl⟩
  | ok other =>
      have hblank := blank_of_decode_append hdecode hwhole
      have hbrace := hblank _ (List.mem_of_getLast? hlast)
      exact absurd hbrace (by decide)

theorem line_take_cons (tx : Transaction) {kept : Nat} (hkept : 0 < kept) :
    ∃ rest, tx.line.take kept = byte '\x7b' :: rest := by
  obtain ⟨count, rfl⟩ := Nat.exists_eq_succ_of_ne_zero (Nat.pos_iff_ne_zero.mp hkept)
  exact ⟨_, rfl⟩

end Transaction

namespace Archive

theorem isBlankLine_brace {s : String} {rest : Bytes} (h : ofString s = byte '\x7b' :: rest) :
    isBlankLine s = false := by
  have hmem : '\x7b' ∈ s.toList := by
    rw [ofString_eq_flatMap] at h
    cases hchars : s.toList with
    | nil => simp [hchars] at h
    | cons c chars =>
        rw [hchars, List.flatMap_cons] at h
        by_cases hc : c.toNat < 128
        · rw [utf8EncodeChar_ascii hc] at h
          have hbyte : (byte c).toNat = (byte '\x7b').toNat :=
            congrArg UInt8.toNat (List.cons.inj h).1
          rw [byte_toNat hc, byte_toNat (by decide)] at hbyte
          rw [Char.toNat_inj.mp hbyte]
          exact List.mem_cons_self
        · cases hencoded : String.utf8EncodeChar c with
          | nil => exact absurd hencoded (by simp)
          | cons b bytes =>
              have hbeyond := utf8EncodeChar_beyond hc b (by simp [hencoded])
              rw [hencoded] at h
              rw [(List.cons.inj h).1] at hbeyond
              exact absurd hbeyond (by decide)
  have htrim : '\x7b' ∈ Text.trim s.toList := Text.mem_trim hmem (by decide)
  simpa [isBlankLine] using List.ne_nil_of_mem htrim

theorem newline_not_mem_take (tx : Transaction) (kept : Nat) :
    byte '\n' ∉ tx.line.take kept := fun hmem =>
  tx.newline_not_mem_line (List.mem_of_mem_take hmem)

theorem splitLines_torn {piece : Bytes} (hne : piece ≠ []) (h : byte '\n' ∉ piece) :
    splitLines piece = [piece] := by
  induction piece with
  | nil => exact absurd rfl hne
  | cons b piece ih =>
      have hb : b ≠ byte '\n' := fun heq => h (by simp [heq])
      rw [splitLines, if_neg hb]
      cases piece with
      | nil => rfl
      | cons c piece =>
          rw [ih (List.cons_ne_nil c piece) fun hmem => h (List.mem_cons_of_mem _ hmem)]

theorem splitLines_text_append (txs : List Transaction) (piece : Bytes) :
    splitLines (text txs ++ piece) = txs.map record ++ splitLines piece := by
  induction txs with
  | nil => rfl
  | cons tx rest ih =>
      rw [text_cons, List.append_assoc, List.cons_append,
        splitLines_line tx.newline_not_mem_line, ih]
      rfl

theorem withoutEnd_torn {piece : Bytes} (h : byte '\n' ∉ piece) : withoutEnd piece = piece := by
  rw [withoutEnd, if_neg fun hlast => h (List.mem_of_getLast? hlast)]

def TearsInto (path : String) (number : Nat) (line : Bytes) (kept : Nat) (trouble : Trouble) :
    Prop :=
  (line.Splits kept → trouble =
    Writer.fileTrouble .read path (.encoding (Text.encodingFault (line.take kept)))) ∧
  (¬ line.Splits kept → ∃ failure,
    trouble = (Trouble.of (.json failure)).under (.badLine number path))

theorem readLine_torn {tx : Transaction} (h : tx.Decoded) (hintegral : tx.IntegralExtras)
    {kept : Nat} (hkept : 0 < kept) (hcut : kept < tx.line.length) (path : String)
    (number : Nat) :
    ∃ trouble, readLine path number (tx.line.take kept) = .error trouble ∧
      TearsInto path number tx.line kept trouble := by
  rcases isText_take_or_splits tx.line_isText kept with htext | hsplits
  · have hwhole : ¬ tx.line.Splits kept := fun hsplits => hsplits.not_isText htext
    obtain ⟨s, hs⟩ := htext
    have htoString : toString? (tx.line.take kept) = some s := by rw [← hs, toString?_ofString]
    obtain ⟨rest, hrest⟩ := tx.line_take_cons hkept
    have hblank : isBlankLine s = false := isBlankLine_brace (hs.trans hrest)
    obtain ⟨failure, hfailure⟩ := h.decode_torn hintegral hcut
    refine ⟨(Trouble.of (.json failure)).under (.badLine number path), ?_,
      fun hsplits => absurd hsplits hwhole, fun _ => ⟨failure, rfl⟩⟩
    simp only [readLine, htoString, withoutEnd_torn (newline_not_mem_take tx kept),
      Option.getD_some, hblank, Bool.false_eq_true, if_false, hfailure]
  · have hnone : toString? (tx.line.take kept) = none := by
      cases hfound : toString? (tx.line.take kept) with
      | none => rfl
      | some s => exact absurd ⟨s, ofString_of_toString? hfound⟩ hsplits.not_isText
    refine ⟨_, ?_, fun _ => rfl, fun hwhole => absurd hsplits hwhole⟩
    simp only [readLine, hnone]

theorem readLines_bad {txs : List Transaction} (h : ∀ tx ∈ txs, tx.Decoded)
    (hintegral : ∀ tx ∈ txs, tx.IntegralExtras) {path : String} {number : Nat} {piece : Bytes}
    {trouble : Trouble} (hpiece : readLine path (number + txs.length) piece = .error trouble) :
    readLines path number (txs.map record ++ [piece]) = .error trouble := by
  induction txs generalizing number with
  | nil =>
      rw [List.map_nil, List.nil_append, readLines]
      rw [List.length_nil, Nat.add_zero] at hpiece
      rw [hpiece]
      rfl
  | cons tx rest ih =>
      have hrest := @ih (fun other hother => h other (by simp [hother]))
        (fun other hother => hintegral other (by simp [hother])) (number + 1) (by
          rw [List.length_cons] at hpiece
          rwa [Nat.add_assoc, Nat.add_comm 1])
      rw [List.map_cons, List.cons_append, readLines,
        readLine_record (h tx (by simp)) (hintegral tx (by simp)), Outcome.ok_bind, hrest]
      rfl

/-- An archive cut inside any of its lines is not read, on whatever disk what is left of it
is found. -/
theorem read_torn {disk : Disk} {path : String} (haccepts : disk.Accepts path)
    {before after : List Transaction} {tx : Transaction}
    (hdecoded : ∀ other ∈ before ++ tx :: after, other.Decoded)
    (hintegral : ∀ other ∈ before ++ tx :: after, other.IntegralExtras) {kept : Nat}
    (hkept : 0 < kept) (hcut : kept < tx.line.length) :
    ∃ writer made last later content left,
      Writer.create disk path = .ok (writer, made) ∧
      writer.appendAll made (before ++ tx :: after) = .ok (last, later) ∧
      later.read path = .ok content ∧
      content = text before ++ record tx ++ text after ∧
      left = content.take ((text before).length + kept) ∧
      (later.insert last.place (.file left)).read path = .ok left ∧
      ∀ torn : Disk, torn.read path = .ok left →
        ∃ trouble, read torn path = .error trouble ∧
          TearsInto path (before.length + 1) tx.line kept trouble := by
  obtain ⟨writer, made, hcreate, hpath, hempty⟩ := Writer.create_holds haccepts
  obtain ⟨last, later, happend, hsame, hholds⟩ := hempty.appendAll (before ++ tx :: after)
  rw [List.nil_append] at hholds
  have hplace : last.path = path := hsame.trans hpath
  have hcontent : text (before ++ tx :: after) = text before ++ record tx ++ text after := by
    rw [← List.singleton_append, text_append, text_append, text_singleton, List.append_assoc]
  have hleft : (text (before ++ tx :: after)).take ((text before).length + kept) =
      text before ++ tx.line.take kept := by
    rw [hcontent, List.append_assoc, List.take_length_add_append, record, List.append_assoc,
      List.take_append_of_le_length (Nat.le_of_lt hcut)]
  refine ⟨writer, made, last, later, _, _, hcreate, happend, hplace ▸ hholds.read, hcontent,
    rfl, ?_, fun torn htorn => ?_⟩
  · have hfile : later.find? last.place ≠ some .directory := by simp [hholds.entry]
    exact hplace ▸ Disk.read_of_leadsTo
      (hholds.leads.keep (Disk.keepsDirectories_insert hfile))
      (Disk.find?_insert_self hholds.leads.ne_root)
  · have hbefore : ∀ other ∈ before, other ∈ before ++ tx :: after := fun other hother =>
      List.mem_append_left _ hother
    obtain ⟨trouble, hpiece, htears⟩ := readLine_torn (hdecoded tx (by simp))
      (hintegral tx (by simp)) hkept hcut path (1 + before.length)
    have hne : tx.line.take kept ≠ [] := by
      obtain ⟨rest, hrest⟩ := tx.line_take_cons hkept
      simp [hrest]
    refine ⟨trouble, ?_, by rwa [Nat.add_comm]⟩
    rw [read, htorn, hleft]
    simp only [readContent, splitLines_text_append,
      splitLines_torn hne (newline_not_mem_take tx kept)]
    exact readLines_bad (fun other hother => hdecoded other (hbefore other hother))
      (fun other hother => hintegral other (hbefore other hother)) hpiece

/-- The second of two lines is cut inside an accented letter. -/
theorem read_torn_accent :
    let tx : Transaction :=
      ⟨"a", none, ⟨1, by decide⟩, none, none, none, none, none, none, none,
        [("n", .string "é")]⟩
    let disk : Disk := ⟨[(["log"], .file [byte 'x'])]⟩
    ∃ writer made last later content left,
      Writer.create disk "log" = .ok (writer, made) ∧
      writer.appendAll made [tx, tx] = .ok (last, later) ∧
      later.read "log" = .ok content ∧
      left = content.take 80 ∧
      read (later.insert last.place (.file left)) "log" =
        .error (Writer.fileTrouble .read "log"
          (.encoding (Text.encodingFault (tx.line.take 38)))) := by
  intro tx disk
  have haccepts : disk.Accepts "log" :=
    ⟨["log"], ⟨[(["log"], .file [])]⟩, by with_unfolding_all rfl, by decide⟩
  have hdecode : Transaction.decoder.decode (ofString
      "\x7b\"from\":\"a\",\"n\":\"\\u00e9\",\"nonce\":1\x7d") = .ok tx := rfl
  have hdecoded : ∀ other ∈ [tx] ++ tx :: [], other.Decoded := by
    intro other hother
    rw [show other = tx by simpa using hother]
    exact Transaction.decoded_of_decode hdecode
  have hintegral : ∀ other ∈ [tx] ++ tx :: [], other.IntegralExtras := by
    intro other hother
    rw [show other = tx by simpa using hother]
    intro member hmember
    rw [List.mem_singleton.mp hmember]
    exact .string "é"
  have hlength : (text [tx]).length = 42 := by decide +kernel
  have hsplits : tx.line.Splits 38 :=
    ⟨"\x7b\"from\":\"a\",\"to\":null,\"nonce\":1,\"n\":\"", 'é', "\"\x7d", by decide +kernel,
      by decide +kernel, by decide +kernel⟩
  obtain ⟨writer, made, last, later, content, left, hcreate, happend, hread, _, hleft, hcut,
    htorn⟩ := read_torn haccepts hdecoded hintegral (by decide : 0 < 38) (by decide +kernel)
  obtain ⟨trouble, htrouble, hencoding, _⟩ := htorn _ hcut
  rw [hlength] at hleft
  exact ⟨writer, made, last, later, content, left, hcreate, happend, hread, hleft,
    htrouble.trans (congrArg Except.error (hencoding hsplits))⟩

end Archive

end ChainArchive
