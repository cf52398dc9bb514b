import ChainArchive.Proofs.Archive.Reading
import ChainArchive.Proofs.Disk.Removal
import ChainArchive.Proofs.Json.Equality

namespace ChainArchive

open Bytes

theorem Transaction.same_iff {tx : Transaction} (h : tx.IntegralExtras) (other : Transaction) :
    tx.same other = true ↔ tx = other := by
  have hextras : Json.sameMembers tx.extras other.extras = true ↔ tx.extras = other.extras :=
    Json.sameMembers_iff fun member hmember => Json.same_iff (h member hmember)
  cases tx
  cases other
  simp only [Transaction.same, Bool.and_eq_true, beq_iff_eq, hextras, Transaction.mk.injEq,
    and_assoc]

namespace Writer

def appendAll (writer : Writer) (disk : Disk) :
    List Transaction → Except Trouble (Writer × Disk)
  | [] => .ok (writer, disk)
  | tx :: rest => do
      let (writer, disk) ← writer.append disk tx
      writer.appendAll disk rest

theorem Holds.appendAll {writer : Writer} {disk : Disk} {txs : List Transaction}
    (h : writer.Holds disk txs) (more : List Transaction) :
    ∃ last later, writer.appendAll disk more = .ok (last, later) ∧
      last.path = writer.path ∧ last.Holds later (txs ++ more) := by
  induction more generalizing writer disk txs with
  | nil => exact ⟨writer, disk, rfl, rfl, by simpa using h⟩
  | cons tx rest ih =>
      obtain ⟨middle, hwrite, hholds⟩ := h.append tx
      obtain ⟨last, later, hrest, hpath, hlast⟩ := ih hholds
      refine ⟨last, later, ?_, hpath, by simpa using hlast⟩
      rw [Writer.appendAll, hwrite, Outcome.ok_bind]
      exact hrest

theorem content_appendAll {disk made later : Disk} {path : String} {writer last : Writer}
    {txs : List Transaction} (hcreate : Writer.create disk path = .ok (writer, made))
    (happend : writer.appendAll made txs = .ok (last, later)) :
    later.content path = Archive.text txs := by
  by_cases haccepts : disk.Accepts path
  · obtain ⟨writer', made', hcreate', hpath, hempty⟩ := Writer.create_holds haccepts
    rw [hcreate'] at hcreate
    cases hcreate
    obtain ⟨last', later', happend', hsame, hholds⟩ := hempty.appendAll txs
    rw [happend'] at happend
    cases happend
    rw [Disk.content, ← hpath, ← hsame, hholds.read]
    rfl
  · unfold Writer.create at hcreate
    split at hcreate
    · rename_i place opened hopened
      cases hcreate
      obtain ⟨hleads, ⟨hfree, -⟩ | ⟨hdevice, rfl⟩⟩ := Disk.create_eq_ok hopened
      · exact absurd (Disk.accepts_of_leadsTo hleads hfree) haccepts
      · cases txs with
        | nil =>
            cases happend
            refine Disk.content_of_not_hasFile ?_
            rintro ⟨other, content, hother, hfile⟩
            rw [← hleads.unique hother, hdevice] at hfile
            cases hfile
        | cons tx rest =>
            simp [Writer.appendAll, Writer.append, Disk.write, hdevice, Archive.record] at happend
    · cases hcreate

end Writer

namespace Archive

/-- An archive gives back what was written to it, in as many lines as were counted, and
its lines tell the transactions apart. -/
theorem read_appendAll {disk : Disk} {path : String} (haccepts : disk.Accepts path)
    {txs : List Transaction} (hdecoded : ∀ tx ∈ txs, tx.Decoded)
    (hintegral : ∀ tx ∈ txs, tx.IntegralExtras) :
    (∃ writer made last later content,
      Writer.create disk path = .ok (writer, made) ∧
      writer.appendAll made txs = .ok (last, later) ∧
      read later path = .ok txs ∧
      later.read path = .ok content ∧
      content.count (byte '\n') = txs.length ∧
      last.written = txs.length) ∧
    (∀ tx ∈ txs, Transaction.decoder.decode tx.line = .ok tx) ∧
    (∀ tx ∈ txs, ∀ other ∈ txs,
      (tx.same other = true ↔ tx.line = other.line) ∧
      (tx = other ↔ tx.line = other.line)) := by
  have hapart : ∀ tx ∈ txs, ∀ other ∈ txs, tx = other ↔ tx.line = other.line := by
    intro tx htx other hother
    constructor
    · rintro rfl
      rfl
    · exact (hdecoded tx htx).eq_of_line_eq (hintegral tx htx) (hdecoded other hother)
        (hintegral other hother)
  refine ⟨?_, fun tx htx => (hdecoded tx htx).decode_line (hintegral tx htx), ?_⟩
  · obtain ⟨writer, made, hcreate, hpath, hempty⟩ := Writer.create_holds haccepts
    obtain ⟨last, later, happend, hsame, hholds⟩ := hempty.appendAll txs
    rw [List.nil_append] at hholds
    have hread : later.read path = .ok (text txs) := by
      rw [← hpath, ← hsame]
      exact hholds.read
    refine ⟨writer, made, last, later, text txs, hcreate, happend, ?_, hread,
      count_newline_text txs, hholds.written⟩
    rw [read, hread]
    exact readContent_text hdecoded hintegral path
  · intro tx htx other hother
    exact ⟨(Transaction.same_iff (hintegral tx htx) other).trans (hapart tx htx other hother),
      hapart tx htx other hother⟩

/-- A transaction with a line feed among its other members, and one with an amount. -/
theorem read_appendAll_two :
    let first : Transaction :=
      ⟨"a", none, ⟨1, by decide⟩, none, none, none, none, none, none, none,
        [("h", .array [.number (.integer ⟨-2, by decide, by decide⟩), .string "\n"])]⟩
    let second : Transaction :=
      ⟨"a", some "b", ⟨16, by decide⟩, none, none, none, some ⟨5, by decide⟩, none, none, none,
        []⟩
    let disk : Disk := ⟨[(["log"], .file [byte 'x'])]⟩
    ∃ writer made last later content,
      Writer.create disk "log" = .ok (writer, made) ∧
      writer.appendAll made [first, second] = .ok (last, later) ∧
      read later "log" = .ok [first, second] ∧
      later.read "log" = .ok content ∧
      content.count (byte '\n') = 2 ∧
      last.written = 2 := by
  intro first second disk
  have haccepts : disk.Accepts "log" :=
    ⟨["log"], ⟨[(["log"], .file [])]⟩, by with_unfolding_all rfl, by decide⟩
  have hfirst : Transaction.decoder.decode (ofString
      "\x7b\"h\": [-2, \"\\u000a\"], \"nonce\": \"0x1\", \"from\": \"a\"\x7d") =
        .ok first := rfl
  have hsecond : Transaction.decoder.decode (ofString
      "\x7b\"from\":\"a\",\"to\":\"b\",\"nonce\":\"0x10\",\"value\":\"5\"\x7d") =
        .ok second := rfl
  refine (read_appendAll haccepts (fun tx htx => ?_) (fun tx htx => ?_)).1
  · rcases List.mem_cons.mp htx with rfl | hrest
    · exact Transaction.decoded_of_decode hfirst
    · rw [List.mem_singleton.mp hrest]
      exact Transaction.decoded_of_decode hsecond
  · rcases List.mem_cons.mp htx with rfl | hrest
    · intro member hmember
      rw [List.mem_singleton.mp hmember]
      refine .array fun item hitem => ?_
      rcases List.mem_cons.mp hitem with rfl | hitem
      · exact .number _
      · rw [List.mem_singleton.mp hitem]
        exact .string _
    · rw [List.mem_singleton.mp hrest]
      exact List.forall_mem_nil _

end Archive

end ChainArchive
