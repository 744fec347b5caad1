import DesiredState.Entries
import DesiredState.Files.Fault
import DesiredState.Files.Path
import DesiredState.Text.Utf8

/-!
# A disk

Files and directories as a value: what is stored at each place, and the working directory. A place
is the list of names on the way from the root. The root is always a directory; every other
directory is stored like a file.

* `Disk.locate`: the place that a path names, found by following it name by name.
* `Disk.read`, `Disk.isThere`: looking.
* `Disk.makeDirectories`, `Disk.write`, `Disk.append`, `Disk.remove`, `Disk.move`: changing.
-/

namespace DesiredState

/-- The names on the way from the root. -/
abbrev Place := List Text

/-- What is stored at a place. -/
inductive FileNode
  | file (text : Text)
  | directory
  deriving DecidableEq

/-- What is stored where, and the working directory. -/
structure Disk where
  nodes : List (Place × FileNode)
  work : Place
  deriving DecidableEq

namespace Disk

/-- The longest name, in bytes of UTF-8. -/
def maxName : Nat := 255

/-- The bytes that a code point takes in UTF-8. -/
def byteCount (c : CodePoint) : Nat :=
  if c.val < 0x80 then 1 else if c.val < 0x800 then 2 else if c.val < 0x10000 then 3 else 4

/-- The name has more bytes than a name may have. -/
def isTooLong (name : Text) : Bool := maxName < name.foldl (fun n c => n + byteCount c) 0

/-- What is stored at a place. -/
def at? (d : Disk) (place : Place) : Option FileNode :=
  match place with
  | [] => some .directory
  | _ => Entries.find? place d.nodes

/-- The disk with something stored at a place. -/
def put (d : Disk) (place : Place) (node : FileNode) : Disk :=
  { d with nodes := Entries.set place node d.nodes }

/-- The disk with nothing stored at a place. -/
def erase (d : Disk) (place : Place) : Disk :=
  { d with nodes := d.nodes.filter (·.1 ≠ place) }

/-- The place reached from a directory by following names. All but the last have to be
directories; the last need not be there. -/
def follow (d : Disk) (place : Place) : List Text → Except FileFault.Cause Place
  | [] => .ok place
  | name :: names =>
    if name = FilePath.up then d.follow place.dropLast names
    else if isTooLong name then .error .nameTooLong
    else
      let place := place ++ [name]
      match names with
      | [] => .ok place
      | _ =>
        match d.at? place with
        | none => .error .missing
        | some (.file _) => .error .notDirectory
        | some .directory => d.follow place names

/-- The place that a path names. -/
def locate (d : Disk) (p : FilePath) : Except FileFault.Cause Place :=
  d.follow (if p.isAbsolute then [] else d.work) p.names

/-- A fault at one path. -/
def fault (p : FilePath) (cause : FileFault.Cause) : FileFault := ⟨cause, p.text, none⟩

/-- The text of a file. -/
def read (d : Disk) (p : FilePath) : Except FileFault Text :=
  match d.locate p with
  | .error cause => .error (fault p cause)
  | .ok place =>
    match d.at? place with
    | none => .error (fault p .missing)
    | some .directory => .error (fault p .directory)
    | some (.file text) => .ok text

/-- Something is stored at a path. -/
def isThere (d : Disk) (p : FilePath) : Except FileFault Bool :=
  match d.locate p with
  | .ok place => .ok (d.at? place).isSome
  | .error .nameTooLong => .error (fault p .nameTooLong)
  | .error _ => .ok false

/-- The disk with a new directory. -/
def makeDirectory (d : Disk) (p : FilePath) : Except FileFault Disk :=
  match d.locate p with
  | .error cause => .error (fault p cause)
  | .ok place =>
    if (d.at? place).isSome then .error (fault p .present) else .ok (d.put place .directory)

/-- A directory is stored at a path. -/
def isDirectory (d : Disk) (p : FilePath) : Bool :=
  match d.locate p with
  | .ok place => d.at? place = some .directory
  | .error _ => false

/-- The disk with a directory that may be there already. -/
def ensureDirectory (d : Disk) (p : FilePath) : Except FileFault Disk :=
  match d.makeDirectory p with
  | .ok d => .ok d
  | .error e => if e.cause ≠ .missing ∧ d.isDirectory p then .ok d else .error e

/-- The disk with a directory and, where it is missing, the directories on the way to it; `depth`
is the number of names in the path. A fault leaves the directories that were made. -/
def makeDirectoriesWithin : (depth : Nat) → Disk → FilePath → Except FileFault Unit × Disk
  | 0, d, p =>
    match d.ensureDirectory p with
    | .ok d => (.ok (), d)
    | .error e => (.error e, d)
  | depth + 1, d, p =>
    match d.ensureDirectory p with
    | .ok d => (.ok (), d)
    | .error e =>
      if e.cause = .missing then
        match makeDirectoriesWithin depth d p.parent with
        | (.error e, d) => (.error e, d)
        | (.ok (), d) =>
          match d.ensureDirectory p with
          | .ok d => (.ok (), d)
          | .error e => (.error e, d)
      else (.error e, d)

/-- The disk with a directory and the directories on the way to it. -/
def makeDirectories (d : Disk) (p : FilePath) : Except FileFault Unit × Disk :=
  makeDirectoriesWithin p.names.length d p

/-- The disk with the text of a file changed; a file that is missing counts as empty. -/
def modify (d : Disk) (p : FilePath) (f : Text → Text) : Except FileFault Disk :=
  match d.locate p with
  | .error cause => .error (fault p cause)
  | .ok place =>
    match d.at? place with
    | some .directory => .error (fault p .directory)
    | some (.file text) => .ok (d.put place (.file (f text)))
    | none => .ok (d.put place (.file (f [])))

/-- The disk with a file's text. -/
def write (d : Disk) (p : FilePath) (text : Text) : Except FileFault Disk :=
  d.modify p fun _ => text

/-- The disk with text at the end of a file. -/
def append (d : Disk) (p : FilePath) (text : Text) : Except FileFault Disk :=
  d.modify p (· ++ text)

/-- The disk without a file. -/
def remove (d : Disk) (p : FilePath) : Disk :=
  match d.locate p with
  | .ok place => d.erase place
  | .error _ => d

/-- The disk with a file moved over another one. -/
def move (d : Disk) (source target : FilePath) : Except FileFault Disk :=
  let refuse (cause : FileFault.Cause) : Except FileFault Disk :=
    .error ⟨cause, source.text, some target.text⟩
  match d.locate source, d.locate target with
  | .error cause, _ => refuse cause
  | _, .error cause => refuse cause
  | .ok source, .ok target =>
    match d.at? source, d.at? target with
    | none, _ => refuse .missing
    | some .directory, _ => refuse .notDirectory
    | some (.file _), some .directory => refuse .directory
    | some (.file text), _ => .ok ((d.erase source).put target (.file text))

/-- An absolute path to what a path names, without double dots. -/
def absolute (d : Disk) (p : FilePath) : FilePath :=
  (FilePath.append ⟨"/", d.work⟩ p).normalized

end Disk

end DesiredState
