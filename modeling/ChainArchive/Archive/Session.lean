import ChainArchive.Archive

namespace ChainArchive

/-! A session of operations on archives: at most one writer is open at a time. -/

inductive Operation where
  | create (path : String)
  | append (tx : Transaction)
  | drop
  | read (path : String)
  | content (path : String)
  /-- Another program writes a file. -/
  | put (path : String) (content : Bytes)
  | makeDirectory (path : String)

inductive Outcome where
  | opened (writer : Writer)
  | failed (trouble : Trouble)
  | noWriter
  | appended (written : Nat)
  | notAppended (written : Nat) (trouble : Trouble)
  | transactions (txs : List Transaction)
  | content (bytes : Option Bytes)
  | done

/-- A writer and the line that it has composed last, whose room it uses again. -/
structure Scribe where
  writer : Writer
  line : Bytes

namespace Scribe

def clear (scribe : Scribe) : Scribe := { scribe with line := [] }

def put (scribe : Scribe) (bytes : Bytes) : Scribe :=
  { scribe with line := scribe.line ++ bytes }

def compose (scribe : Scribe) (tx : Transaction) : Scribe :=
  (scribe.clear.put tx.line).put [byte '\n']

def flush (scribe : Scribe) (disk : Disk) : Except Trouble (Scribe × Disk) :=
  match disk.write scribe.writer.place scribe.writer.offset scribe.line with
  | .ok disk => .ok ({ scribe with writer := scribe.writer.advance scribe.line }, disk)
  | .error fault =>
      .error (Writer.fileTrouble .append scribe.writer.path (.system fault))

end Scribe

structure Session where
  disk : Disk
  writer : Option Scribe

structure Attempt where
  operation : Operation
  refusal : Option SystemFault

namespace Session

def unlessRefused (refusal : Option SystemFault) (act : FileAct) (path : String)
    (result : Except Trouble α) : Except Trouble α :=
  match refusal with
  | some fault => .error (Writer.fileTrouble act path (.system fault))
  | none => result

/-- Only what this program does can be refused. -/
def attempt (session : Session) (attempt : Attempt) : Outcome × Session :=
  match attempt.operation with
  | .create path =>
      match unlessRefused attempt.refusal .create path (Writer.create session.disk path) with
      | .ok (writer, disk) => (.opened writer, ⟨disk, some ⟨writer, []⟩⟩)
      | .error trouble => (.failed trouble, session)
  | .append tx =>
      match session.writer with
      | none => (.noWriter, session)
      | some scribe =>
          let composed := scribe.compose tx
          match unlessRefused attempt.refusal .append composed.writer.path
              (composed.flush session.disk) with
          | .ok (scribe, disk) => (.appended scribe.writer.written, ⟨disk, some scribe⟩)
          | .error trouble =>
              (.notAppended composed.writer.written trouble,
                { session with writer := some composed })
  | .drop => (.done, { session with writer := none })
  | .read path =>
      match unlessRefused attempt.refusal .read path (Archive.read session.disk path) with
      | .ok txs => (.transactions txs, session)
      | .error trouble => (.failed trouble, session)
  | .content path => (.content (session.disk.read path).toOption, session)
  | .put path content =>
      match session.disk.put path content with
      | .ok disk => (.done, { session with disk })
      | .error _ => (.done, session)
  | .makeDirectory path =>
      (.done, { session with disk := session.disk.makeDirectories path })

def step (session : Session) (operation : Operation) : Outcome × Session :=
  session.attempt ⟨operation, none⟩

def run (session : Session) : List Attempt → List Outcome × Session
  | [] => ([], session)
  | first :: rest =>
      let (outcome, next) := session.attempt first
      let (outcomes, last) := next.run rest
      (outcome :: outcomes, last)

end Session

end ChainArchive
