import ChainArchive.Disk
import ChainArchive.Trouble
import ChainArchive.Transaction
import ChainArchive.Text.Quoted

namespace ChainArchive

/-! The archive file: one transaction a line. -/

namespace Archive

def record (tx : Transaction) : Bytes := tx.line ++ [byte '\n']

end Archive

structure Writer where
  path : String
  place : Place
  offset : Nat
  written : Nat
  deriving DecidableEq, Repr

namespace Writer

def fileTrouble (act : FileAct) (path : String) (layer : Layer) : Trouble :=
  (Trouble.of layer).under (.file act path)

def create (disk : Disk) (path : String) : Except Trouble (Writer × Disk) :=
  match disk.create path with
  | .ok (place, disk) => .ok (⟨path, place, 0, 0⟩, disk)
  | .error fault => .error (fileTrouble .create path (.system fault))

def advance (writer : Writer) (line : Bytes) : Writer :=
  { writer with
    offset := writer.offset + line.length
    written := writer.written + 1 }

/-- The whole line is written or nothing. -/
def append (writer : Writer) (disk : Disk) (tx : Transaction) :
    Except Trouble (Writer × Disk) :=
  let line := Archive.record tx
  match disk.write writer.place writer.offset line with
  | .ok disk => .ok (writer.advance line, disk)
  | .error fault => .error (fileTrouble .append writer.path (.system fault))

end Writer

namespace Archive

/-! Reading back. -/

def splitLines : Bytes → List Bytes
  | [] => []
  | b :: rest =>
      if b = byte '\n' then [b] :: splitLines rest
      else
        match splitLines rest with
        | [] => [[b]]
        | line :: lines => (b :: line) :: lines

/-- The line without its end: a line feed, and a carriage return before it. -/
def withoutEnd (line : Bytes) : Bytes :=
  if line.getLast? = some (byte '\n') then
    let inner := line.dropLast
    if inner.getLast? = some (byte '\r') then inner.dropLast else inner
  else line

def isBlankLine (text : String) : Bool := (Text.trim text.toList).isEmpty

def readLine (path : String) (number : Nat) (line : Bytes) :
    Except Trouble (Option Transaction) :=
  match line.toString? with
  | none => .error (Writer.fileTrouble .read path (.encoding (Text.encodingFault line)))
  | some _ =>
      let text := withoutEnd line
      if isBlankLine (text.toString?.getD "") then .ok none
      else
        match Transaction.decoder.decode text with
        | .ok tx => .ok (some tx)
        | .error failure => .error ((Trouble.of (.json failure)).under (.badLine number path))

def readLines (path : String) : Nat → List Bytes → Except Trouble (List Transaction)
  | _, [] => .ok []
  | number, line :: rest => do
      let tx ← readLine path number line
      let following ← readLines path (number + 1) rest
      return tx.toList ++ following

def readContent (path : String) (content : Bytes) : Except Trouble (List Transaction) :=
  readLines path 1 (splitLines content)

def read (disk : Disk) (path : String) : Except Trouble (List Transaction) :=
  match disk.read path with
  | .ok content => readContent path content
  | .error fault => .error (Writer.fileTrouble .read path (.system fault))

end Archive

end ChainArchive
