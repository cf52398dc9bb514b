import ChainArchive.Proofs.Archive.Lines

namespace ChainArchive

open Bytes

namespace Trouble

def badLine? (trouble : Trouble) : Option Nat :=
  trouble.first? fun
    | .badLine number _ => some number
    | _ => none

def further (lines : Nat) (trouble : Trouble) : Trouble :=
  match trouble.outer with
  | .badLine number path => ⟨.badLine (number + lines) path, trouble.causes⟩
  | _ => trouble

end Trouble

namespace Archive

/-! One line. -/

inductive Comes (path : String) (number : Nat) (line : Bytes) :
    Except Trouble (Option Transaction) → Prop where
  | skipped : blank line = true → Comes path number line (.ok none)
  | told {tx : Transaction} : blank line = false → Tells line tx →
      Comes path number line (.ok (some tx))
  | malformed {failure : Json.Failure} : line.IsText → blank line = false →
      (∀ tx, ¬ Tells line tx) →
      Comes path number line (.error ((Trouble.of (.json failure)).under (.badLine number path)))
  | notText {fault : Text.EncodingFault} : ¬ line.IsText →
      Comes path number line (.error (Writer.fileTrouble .read path (.encoding fault)))

section Comes

variable {path : String} {number : Nat}

theorem readLine_comes {read text gap : Bytes} (hgap : Return gap)
    (hread : withoutEnd read = text) (htext : read.IsText ↔ text.IsText) :
    Comes path number (text ++ gap) (readLine path number read) := by
  unfold readLine
  by_cases hwhole : read.IsText
  · obtain ⟨whole, hwhole'⟩ := hwhole.toString?_isSome
    obtain ⟨s, hs⟩ := (htext.mp hwhole).toString?_isSome
    have hblank : blank text = isBlankLine s := by simp [blank, hs]
    have hlonger : IsText (text ++ gap) := (isText_return hgap).mpr (htext.mp hwhole)
    simp only [hwhole', hread, hs, Option.getD_some]
    cases hline : isBlankLine s with
    | true => exact .skipped ((blank_return hgap).trans (hblank.trans hline))
    | false =>
        have hvisible : blank (text ++ gap) = false :=
          (blank_return hgap).trans (hblank.trans hline)
        cases hdecode : Transaction.decoder.decode text with
        | ok tx => exact .told hvisible ((tells_return hgap).mpr ⟨htext.mp hwhole, hdecode⟩)
        | error failure =>
            refine .malformed hlonger hvisible fun tx htells => ?_
            have htold := ((tells_return hgap).mp htells).2
            rw [hdecode] at htold
            cases htold
  · rw [toString?_of_not_isText hwhole]
    exact .notText fun hlonger => hwhole (htext.mpr ((isText_return hgap).mp hlonger))

theorem withoutEnd_ended (line : Bytes) :
    ∃ gap, Return gap ∧ withoutEnd (line ++ [byte '\n']) ++ gap = line := by
  have hend : (line ++ [byte '\n']).getLast? = some (byte '\n') := List.getLast?_concat
  unfold withoutEnd
  rw [if_pos hend, List.dropLast_concat]
  dsimp only
  split
  · rename_i hreturn
    exact ⟨[byte '\r'], .inr rfl, List.dropLast_append_getLast? _ hreturn⟩
  · exact ⟨[], .inl rfl, List.append_nil line⟩

theorem readLine_ended (line : Bytes) :
    Comes path number line (readLine path number (line ++ [byte '\n'])) := by
  obtain ⟨gap, hgap, hline⟩ := withoutEnd_ended line
  have htext := @isText_return (withoutEnd (line ++ [byte '\n'])) gap hgap
  rw [hline] at htext
  have hcomes := @readLine_comes path number _ _ gap hgap rfl
    ((isText_append_ascii (by decide)).trans htext)
  rwa [hline] at hcomes

theorem readLine_last {line : Bytes} (h : byte '\n' ∉ line) :
    Comes path number line (readLine path number line) := by
  have hcomes := @readLine_comes path number line line [] (.inl rfl) (withoutEnd_torn h) .rfl
  rwa [List.append_nil] at hcomes

variable {line : Bytes} {first : Except Trouble (Option Transaction)}

theorem Comes.eq_of_blank (h : Comes path number line first) (hblank : blank line = true) :
    first = .ok none := by
  cases h with
  | skipped => rfl
  | told hvisible => simp [hblank] at hvisible
  | malformed _ hvisible => simp [hblank] at hvisible
  | notText htext => simp [blank, toString?_of_not_isText htext] at hblank

theorem Comes.eq_of_tells (h : Comes path number line first) (hvisible : blank line = false)
    {tx : Transaction} (htells : Tells line tx) : first = .ok (some tx) := by
  cases h with
  | skipped hblank => simp [hvisible] at hblank
  | told _ hother =>
      have hsame := hother.2.symm.trans htells.2
      rw [Except.ok.inj hsame]
  | malformed _ _ hnone => exact absurd htells (hnone tx)
  | notText htext => exact absurd htells.1 htext

theorem Comes.of_not_sound (h : Comes path number line first) (hsound : ¬ Sound line) :
    (line.IsText → ∃ failure,
      first = .error ((Trouble.of (.json failure)).under (.badLine number path))) ∧
    (¬ line.IsText → ∃ fault,
      first = .error (Writer.fileTrouble .read path (.encoding fault))) := by
  cases h with
  | skipped hblank => exact absurd (fun hvisible => by simp [hblank] at hvisible) hsound
  | told _ htells => exact absurd (fun _ => ⟨_, htells⟩) hsound
  | malformed htext => exact ⟨fun _ => ⟨_, rfl⟩, fun hnone => absurd htext hnone⟩
  | notText htext => exact ⟨fun hsome => absurd hsome htext, fun _ => ⟨_, rfl⟩⟩

theorem Comes.error_of_not_sound (h : Comes path number line first) (hsound : ¬ Sound line) :
    ∃ trouble, first = .error trouble := by
  obtain ⟨hmalformed, hnotText⟩ := h.of_not_sound hsound
  by_cases htext : line.IsText
  · obtain ⟨failure, hfailure⟩ := hmalformed htext
    exact ⟨_, hfailure⟩
  · obtain ⟨fault, hfault⟩ := hnotText htext
    exact ⟨_, hfault⟩

theorem Comes.ok_of_sound (h : Comes path number line first) (hsound : Sound line) :
    ∃ found, first = .ok found := by
  cases hblank : blank line with
  | true => exact ⟨_, h.eq_of_blank hblank⟩
  | false =>
      obtain ⟨tx, htells⟩ := hsound hblank
      exact ⟨_, h.eq_of_tells hblank htells⟩

theorem Comes.returned (h : Comes path number line first) {gap : Bytes} (hgap : Return gap)
    {other : Except Trouble (Option Transaction)} (hother : Comes path number (line ++ gap) other) :
    other.mapError Trouble.badLine? = first.mapError Trouble.badLine? := by
  have hblanks := @blank_return line gap hgap
  by_cases hsound : Sound line
  · cases hblank : blank line with
    | true => rw [h.eq_of_blank hblank, hother.eq_of_blank (hblanks.trans hblank)]
    | false =>
        obtain ⟨tx, htells⟩ := hsound hblank
        rw [h.eq_of_tells hblank htells,
          hother.eq_of_tells (hblanks.trans hblank) ((tells_return hgap).mpr htells)]
  · have hlonger : ¬ Sound (line ++ gap) := fun hsound' => hsound fun hvisible => by
      obtain ⟨tx, htells⟩ := hsound' (hblanks.trans hvisible)
      exact ⟨tx, (tells_return hgap).mp htells⟩
    obtain ⟨hmalformed, hnotText⟩ := h.of_not_sound hsound
    obtain ⟨hmalformed', hnotText'⟩ := hother.of_not_sound hlonger
    by_cases htext : line.IsText
    · obtain ⟨failure, rfl⟩ := hmalformed htext
      obtain ⟨failure', rfl⟩ := hmalformed' ((isText_return hgap).mpr htext)
      rfl
    · obtain ⟨fault, rfl⟩ := hnotText htext
      obtain ⟨fault', rfl⟩ := hnotText' (mt (isText_return hgap).mp htext)
      rfl

end Comes

/-! All lines. -/

inductive Reads (path : String) :
    Nat → List Bytes → Except Trouble (List Transaction) → Prop where
  | nil {number : Nat} : Reads path number [] (.ok [])
  | cons {number : Nat} {line : Bytes} {rest : List Bytes}
      {first : Except Trouble (Option Transaction)}
      {following : Except Trouble (List Transaction)} :
      Comes path number line first → Reads path (number + 1) rest following →
      Reads path number (line :: rest) (do
        let tx ← first
        let others ← following
        return tx.toList ++ others)

theorem reads (path : String) (number : Nat) (content : Bytes) :
    Reads path number (content.splitOn (byte '\n'))
      (readLines path number (splitLines content)) := by
  induction content using newline_induction generalizing number with
  | last line h =>
      rw [List.splitOn_eq_singleton h]
      by_cases hline : line = []
      · rw [hline]
        exact .cons (.skipped (by decide)) .nil
      · rw [splitLines_torn hline h]
        exact .cons (readLine_last h) .nil
  | ended line rest h ih =>
      rw [splitOn_newline h, splitLines_line h]
      exact .cons (readLine_ended line) (ih (number + 1))

section Reads

variable {path : String} {number : Nat} {lines : List Bytes}
  {outcome : Except Trouble (List Transaction)}

theorem Reads.ok_iff (h : Reads path number lines outcome) (txs : List Transaction) :
    outcome = .ok txs ↔ List.Forall₂ Tells (lines.filter fun line => !blank line) txs := by
  induction h generalizing txs with
  | nil => simp [eq_comm]
  | @cons number line rest first following hline _ ih =>
      cases hblank : blank line with
      | true =>
          rw [hline.eq_of_blank hblank, List.filter_cons_of_neg (by simp [hblank])]
          change (following >>= pure) = .ok txs ↔ _
          rw [bind_pure, ih txs]
      | false =>
          rw [List.filter_cons_of_pos (by simp [hblank]), List.forall₂_cons_left_iff]
          by_cases hsound : Sound line
          · obtain ⟨tx, htells⟩ := hsound hblank
            rw [hline.eq_of_tells hblank htells, Outcome.ok_bind, Outcome.bind_eq_ok]
            constructor
            · rintro ⟨others, hothers, hsame⟩
              exact ⟨tx, others, htells, (ih others).mp hothers, (Except.ok.inj hsame).symm⟩
            · rintro ⟨tx', others, htells', hothers, rfl⟩
              have hsame := htells'.2.symm.trans htells.2
              exact ⟨others, (ih others).mpr hothers, by rw [Except.ok.inj hsame]; rfl⟩
          · obtain ⟨trouble, hbad⟩ := hline.error_of_not_sound hsound
            rw [hbad, Outcome.error_bind]
            constructor
            · intro hok
              cases hok
            · rintro ⟨tx, _, htells, _⟩
              exact absurd (fun _ => ⟨tx, htells⟩) hsound

/-- The first line that is not sound ends the reading. -/
theorem Reads.eq_of_first {before after : List Bytes} {line : Bytes}
    (h : Reads path number (before ++ line :: after) outcome)
    (hbefore : ∀ earlier ∈ before, Sound earlier) :
    ∃ first, Comes path (number + before.length) line first ∧
      ∀ trouble, first = .error trouble → outcome = .error trouble := by
  induction before generalizing number outcome with
  | nil =>
      cases h with
      | cons hline _ => exact ⟨_, hline, fun trouble hbad => by rw [hbad, Outcome.error_bind]⟩
  | cons earlier before ih =>
      cases h with
      | cons hearlier hrest =>
          obtain ⟨first, hline, hends⟩ :=
            ih hrest fun other hother => hbefore other (List.mem_cons_of_mem _ hother)
          obtain ⟨found, hfound⟩ := hearlier.ok_of_sound (hbefore earlier List.mem_cons_self)
          refine ⟨first, ?_, fun trouble hbad => ?_⟩
          · rwa [List.length_cons, Nat.add_comm before.length, ← Nat.add_assoc]
          · rw [hfound, Outcome.ok_bind, hends trouble hbad, Outcome.error_bind]

theorem Reads.returned (h : Reads path number lines outcome) {others : List Bytes}
    (hothers : List.Forall₂ (fun line other => ∃ gap, Return gap ∧ other = line ++ gap)
      lines others)
    {outcome' : Except Trouble (List Transaction)} (h' : Reads path number others outcome') :
    outcome'.mapError Trouble.badLine? = outcome.mapError Trouble.badLine? := by
  induction h generalizing others outcome' with
  | nil =>
      cases hothers
      cases h'
      rfl
  | cons hline _ ih =>
      cases hothers with
      | cons hreturned hothers =>
          obtain ⟨gap, hgap, rfl⟩ := hreturned
          cases h' with
          | cons hline' hrest' =>
              simp only [Outcome.mapError_bind, hline.returned hgap hline', ih hothers hrest']

end Reads

theorem exists_tells_iff (lines : List Bytes) :
    (∃ txs, List.Forall₂ Tells (lines.filter fun line => !blank line) txs) ↔
      ∀ line ∈ lines, Sound line := by
  induction lines with
  | nil => simp
  | cons line rest ih =>
      rw [List.forall_mem_cons, ← ih]
      cases hblank : blank line with
      | true =>
          have hsound : Sound line := fun hvisible => by simp [hblank] at hvisible
          rw [List.filter_cons_of_neg (by simp [hblank])]
          exact ⟨fun h => ⟨hsound, h⟩, fun h => h.2⟩
      | false =>
          rw [List.filter_cons_of_pos (by simp [hblank])]
          constructor
          · rintro ⟨txs, htold⟩
            cases htold with
            | cons htells hrest => exact ⟨fun _ => ⟨_, htells⟩, _, hrest⟩
          · rintro ⟨hsound, txs, hrest⟩
            obtain ⟨tx, htells⟩ := hsound hblank
            exact ⟨tx :: txs, .cons htells hrest⟩

/-! One content behind another. -/

theorem readLine_further (path : String) (number lines : Nat) (line : Bytes) :
    readLine path (number + lines) line =
      (readLine path number line).mapError (Trouble.further lines) := by
  unfold readLine
  split
  · rfl
  · dsimp only
    split
    · rfl
    · split
      · rfl
      · rfl

theorem readLines_further (path : String) (number lines : Nat) (read : List Bytes) :
    readLines path (number + lines) read =
      (readLines path number read).mapError (Trouble.further lines) := by
  induction read generalizing number with
  | nil => rfl
  | cons line rest ih =>
      have hrest := ih (number + 1)
      rw [Nat.add_right_comm] at hrest
      rw [readLines, readLines, readLine_further, hrest]
      simp only [Outcome.mapError_bind]
      rfl

theorem readLines_append (path : String) (number : Nat) (front back : List Bytes) :
    readLines path number (front ++ back) = do
      let txs ← readLines path number front
      let others ← readLines path (number + front.length) back
      return txs ++ others := by
  induction front generalizing number with
  | nil => exact (bind_pure (readLines path number back)).symm
  | cons line front ih =>
      rw [List.cons_append, readLines, readLines, ih, List.length_cons, Nat.add_comm front.length,
        ← Nat.add_assoc]
      simp only [bind_assoc, pure_bind, List.append_assoc]

theorem readContent_append (path : String) {content : Bytes} (h : Ended content) (more : Bytes) :
    readContent path (content ++ more) = do
      let txs ← readContent path content
      let others ← (readContent path more).mapError (Trouble.further (content.count (byte '\n')))
      return txs ++ others := by
  unfold readContent
  rw [splitLines_append h, readLines_append, length_splitLines h, readLines_further]

/-- An archive is read line by line, whatever bytes it holds: it tells the transactions of its
lines in order, or the first line that is neither blank nor a transaction. What stands behind
whole lines is read as on its own, and carriage returns make no difference. -/
theorem readContent_tells (path : String) (content : Bytes) :
    (∀ disk : Disk, disk.read path = .ok content → read disk path = readContent path content) ∧
    ((∃ txs, readContent path content = .ok txs) ↔
      ∀ line ∈ content.splitOn (byte '\n'), Sound line) ∧
    (∀ txs, readContent path content = .ok txs ↔
      List.Forall₂ Tells ((content.splitOn (byte '\n')).filter fun line => !blank line) txs) ∧
    (∀ before line after, content.splitOn (byte '\n') = before ++ line :: after →
      (∀ earlier ∈ before, Sound earlier) → ¬ Sound line →
        (line.IsText → ∃ failure, readContent path content =
          .error ((Trouble.of (.json failure)).under (.badLine (before.length + 1) path))) ∧
        (¬ line.IsText → ∃ fault, readContent path content =
          .error (Writer.fileTrouble .read path (.encoding fault)))) ∧
    (Ended content → ∀ more, readContent path (content ++ more) = do
      let txs ← readContent path content
      let others ← (readContent path more).mapError (Trouble.further (content.count (byte '\n')))
      return txs ++ others) ∧
    (readContent path (withReturns content)).mapError Trouble.badLine? =
      (readContent path content).mapError Trouble.badLine? := by
  have hreads : Reads path 1 (content.splitOn (byte '\n')) (readContent path content) :=
    reads path 1 content
  have hreturned : Reads path 1 ((withReturns content).splitOn (byte '\n'))
      (readContent path (withReturns content)) := reads path 1 (withReturns content)
  refine ⟨fun disk hread => ?_, ?_, hreads.ok_iff, ?_, fun h => readContent_append path h,
    hreads.returned (splitOn_withReturns content) hreturned⟩
  · rw [read, hread]
  · rw [← exists_tells_iff]
    exact exists_congr hreads.ok_iff
  · intro before line after hlines hbefore hline
    rw [hlines] at hreads
    obtain ⟨first, hcomes, hends⟩ := hreads.eq_of_first hbefore
    obtain ⟨hmalformed, hnotText⟩ := hcomes.of_not_sound hline
    constructor
    · intro htext
      obtain ⟨failure, hfailure⟩ := hmalformed htext
      rw [Nat.add_comm 1] at hfailure
      exact ⟨failure, hends _ hfailure⟩
    · intro htext
      obtain ⟨fault, hfault⟩ := hnotText htext
      exact ⟨fault, hends _ hfault⟩

/-- A line of exotic white space counts, and a line that is cut off is told by its number, on
its own and behind other lines. -/
theorem readContent_tells_numbered :
    let told := ofString "\x7b\"from\":\"a\",\"nonce\":1\x7d\r\n\u2003\n"
    let bad := ofString "\x7b"
    Ended told ∧ (∃ txs, readContent "log" told = .ok txs ∧ txs.length = 1) ∧
    (readContent "log" bad).mapError Trouble.badLine? = .error (some 1) ∧
    (readContent "log" (told ++ bad)).mapError Trouble.badLine? = .error (some 3) ∧
    (readContent "log" (withReturns (told ++ bad))).mapError Trouble.badLine? =
      .error (some 3) := by
  intro told bad
  obtain ⟨-, -, htold, -, happend, -⟩ := readContent_tells "log" told
  obtain ⟨-, -, -, hbad, -, -⟩ := readContent_tells "log" bad
  obtain ⟨-, -, -, -, -, hreturns⟩ := readContent_tells "log" (told ++ bad)
  have hended : Ended told := .inr (by decide +kernel)
  let tx : Transaction := ⟨"a", none, ⟨1, by decide⟩, none, none, none, none, none, none, none, []⟩
  have hlines : ((told.splitOn (byte '\n')).filter fun line => !blank line) =
      [ofString "\x7b\"from\":\"a\",\"nonce\":1\x7d\r"] := by decide +kernel
  have hread : readContent "log" told = .ok [tx] := by
    rw [htold, hlines]
    exact .cons ⟨isText_ofString _, rfl⟩ .nil
  have hmalformed : ¬ Sound bad := fun hsound => by
    obtain ⟨other, -, hother⟩ := hsound (by decide +kernel)
    have hnone : (Transaction.decoder.decode bad).toOption = none := rfl
    rw [hother] at hnone
    cases hnone
  obtain ⟨hnumbered, -⟩ := hbad [] bad [] (by decide +kernel) (by simp) hmalformed
  obtain ⟨failure, hfailure⟩ := hnumbered (isText_ofString _)
  have hbehind : (readContent "log" (told ++ bad)).mapError Trouble.badLine? = .error (some 3) := by
    rw [happend hended, hread, hfailure]
    rfl
  refine ⟨hended, ⟨[tx], hread, rfl⟩, ?_, hbehind, hreturns.trans hbehind⟩
  rw [hfailure]
  rfl

end Archive

end ChainArchive
