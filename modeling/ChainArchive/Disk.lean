import ChainArchive.Bytes
import ChainArchive.SystemFault

namespace ChainArchive

/-! Files and directories, and how a path finds its way among them. -/

abbrev Place := List String

inductive Entry where
  | directory
  | file (content : Bytes)
  /-- A device that takes no bytes. -/
  | device
  deriving DecidableEq, Repr

structure Disk where
  entries : List (Place × Entry)
  deriving DecidableEq, Repr

namespace Disk

def find? (disk : Disk) (place : Place) : Option Entry :=
  if place = [] then some .directory
  else (disk.entries.find? (·.1 = place)).map (·.2)

def insert (disk : Disk) (place : Place) (entry : Entry) : Disk :=
  ⟨(place, entry) :: disk.entries.filter (·.1 ≠ place)⟩

def erase (disk : Disk) (place : Place) : Disk :=
  ⟨disk.entries.filter (·.1 ≠ place)⟩

theorem find?_filter_of_ne {place other : Place} (h : other ≠ place)
    (entries : List (Place × Entry)) :
    (entries.filter (·.1 ≠ place)).find? (·.1 = other) =
      entries.find? (·.1 = other) := by
  induction entries with
  | nil => rfl
  | cons entry rest ih =>
      by_cases hplace : entry.1 = place
      · have hother : entry.1 ≠ other := fun heq => h (heq ▸ hplace)
        simpa [List.filter_cons, List.find?_cons, hplace, hother, Ne.symm h] using ih
      · by_cases hother : entry.1 = other
        · simp [hother, h]
        · simpa [List.filter_cons, List.find?_cons, hplace, hother] using ih

@[simp] theorem find?_insert_self {disk : Disk} {place : Place} {entry : Entry}
    (h : place ≠ []) : (disk.insert place entry).find? place = some entry := by
  simp [find?, insert, h]

@[simp] theorem find?_insert_of_ne {disk : Disk} {place other : Place} {entry : Entry}
    (h : other ≠ place) : (disk.insert place entry).find? other = disk.find? other := by
  by_cases hroot : other = []
  · simp [find?, hroot]
  · simp only [find?, insert, hroot, if_false, List.find?_cons, Ne.symm h,
      decide_false]
    exact congrArg (Option.map (·.2)) (find?_filter_of_ne h disk.entries)

@[simp] theorem find?_erase_self {disk : Disk} {place : Place} (h : place ≠ []) :
    (disk.erase place).find? place = none := by
  simp [find?, erase, h]

@[simp] theorem find?_erase_of_ne {disk : Disk} {place other : Place}
    (h : other ≠ place) : (disk.erase place).find? other = disk.find? other := by
  by_cases hroot : other = []
  · simp [find?, hroot]
  · simp only [find?, erase, hroot, if_false]
    exact congrArg (Option.map (·.2)) (find?_filter_of_ne h disk.entries)

end Disk

/-! Paths. -/

namespace Path

def maxName : Nat := 255

def maxPath : Nat := 4095

def join (directory path : String) : String :=
  if path.startsWith "/" then path
  else if directory.endsWith "/" then directory ++ path
  else directory ++ "/" ++ path

def splitSlashes : List Char → List (List Char)
  | [] => [[]]
  | c :: rest =>
      if c = '/' then [] :: splitSlashes rest
      else
        match splitSlashes rest with
        | [] => [[c]]
        | name :: names => (c :: name) :: names

def names (path : String) : List String :=
  ((splitSlashes path.toList).filter (!·.isEmpty)).map String.ofList

end Path

/-- Where a path leads before its last name is looked up. -/
structure Destination where
  parent : Place
  /-- Absent when the path ends in a dot name or is the root. -/
  name : Option String
  /-- Whether a slash follows the last name. -/
  slash : Bool
  deriving DecidableEq, Repr

namespace Destination

def place (goal : Destination) : Place :=
  match goal.name with
  | some name => goal.parent ++ [name]
  | none => goal.parent

end Destination

namespace Disk

def placeOf (place : Place) (name : String) : Except SystemFault Place :=
  if name = "." then .ok place
  else if name = ".." then .ok place.dropLast
  else if Path.maxName < name.utf8ByteSize then .error .nameTooLong
  else .ok (place ++ [name])

def descend (disk : Disk) (place : Place) : List String → Except SystemFault Place
  | [] => .ok place
  | name :: rest => do
      let next ← placeOf place name
      match disk.find? next with
      | none => .error .notFound
      | some .directory => disk.descend next rest
      | some _ => .error .notADirectory

def resolve (disk : Disk) (path : String) : Except SystemFault Destination :=
  if path.toList.contains '\x00' then .error .zeroInName
  else if Path.maxPath < path.utf8ByteSize then .error .nameTooLong
  else
    match (Path.names path).getLast? with
    | none => .ok ⟨[], none, false⟩
    | some last => do
        let parent ← disk.descend [] (Path.names path).dropLast
        if last = "." then return ⟨parent, none, false⟩
        else if last = ".." then return ⟨parent.dropLast, none, false⟩
        else return ⟨parent, some last, path.endsWith "/"⟩

def lookup (disk : Disk) (goal : Destination) : Except SystemFault (Option Entry) :=
  if Path.maxName < (goal.name.getD "").utf8ByteSize then .error .nameTooLong
  else .ok (disk.find? goal.place)

/-! The operations. -/

def remove (disk : Disk) (path : String) : Except SystemFault Disk := do
  let goal ← disk.resolve path
  if goal.name.isNone then .error .isADirectory
  else
    match ← disk.lookup goal with
    | none => .error .notFound
    | some .directory => .error .isADirectory
    | some .device => .error (if goal.slash then .notADirectory else .permissionDenied)
    | some (.file _) =>
        if goal.slash then .error .notADirectory
        else return disk.erase goal.place

def create (disk : Disk) (path : String) : Except SystemFault (Place × Disk) := do
  let goal ← disk.resolve path
  if goal.name.isNone || goal.slash then .error .isADirectory
  else
    match ← disk.lookup goal with
    | some .directory => .error .isADirectory
    | some .device => return (goal.place, disk)
    | none | some (.file _) =>
        return (goal.place, disk.insert goal.place (.file []))

/-- Bytes beyond the end of the content come to lie after zeros. -/
def overwrite (content : Bytes) (offset : Nat) (bytes : Bytes) : Bytes :=
  content.take offset ++ List.replicate (offset - content.length) 0 ++ bytes ++
    content.drop (offset + bytes.length)

/-- Writes into an open file, which no path need lead to any more. -/
def write (disk : Disk) (place : Place) (offset : Nat) (bytes : Bytes) :
    Except SystemFault Disk :=
  match disk.find? place with
  | some (.file content) =>
      .ok (disk.insert place (.file (overwrite content offset bytes)))
  | some .device => if bytes.isEmpty then .ok disk else .error .noSpace
  | some .directory => .error .isADirectory
  | none => .ok disk

def read (disk : Disk) (path : String) : Except SystemFault Bytes := do
  let goal ← disk.resolve path
  match ← disk.lookup goal with
  | none => .error .notFound
  | some .directory => .error .isADirectory
  | some .device => if goal.slash then .error .notADirectory else .ok []
  | some (.file content) =>
      if goal.slash then .error .notADirectory else .ok content

def put (disk : Disk) (path : String) (content : Bytes) : Except SystemFault Disk := do
  let (place, disk) ← disk.create path
  disk.write place 0 content

def makeDirectories (disk : Disk) (path : String) : Disk :=
  ((Path.names path).foldl
    (fun (reached : Place × Disk) name =>
      let next := if name = "." then reached.1
        else if name = ".." then reached.1.dropLast
        else reached.1 ++ [name]
      match reached.2.find? next with
      | none => (next, reached.2.insert next .directory)
      | some _ => (next, reached.2))
    ([], disk)).2

end Disk

end ChainArchive
