import DesiredState.Files.Content
import DesiredState.Json.Decode
import DesiredState.Json.Encode
import DesiredState.Lifecycle.Recording
import DesiredState.Number.Numeral
import DesiredState.Resource.Check
import DesiredState.Resource.Document

/-!
# A store of files

Resources kept in a directory, one file each. A file is written next to its place first and moved
there when it is complete, so a reader sees the old text or the new one. What a device may refuse
beyond what is stored on the disk is a parameter.

* `FileStore.fileName`: the name of the file for a resource.
* `FileStore.load`, `FileStore.save`: reading and writing.
* `FileStore.toStore`: the store that the verbs save to.
-/

namespace DesiredState

/-- The directory of a store. -/
structure FileStore where
  dir : FilePath
  deriving DecidableEq

/-- The steps of a write that a device refuses, each with a message. A text may be cut off after
some code points. -/
structure Device where
  directory : Option Text
  temporary : Option Text
  writing : Option (Nat × Text)
  moving : Option Text

/-- A device that refuses nothing. -/
def Device.sound : Device := ⟨none, none, none, none⟩

/-- Why a resource is not stored. -/
inductive SaveFault
  | file (fault : FileFault)
  | refused (message : Text)
  | unwritable
  deriving DecidableEq

/-- What a fault says. -/
def SaveFault.message : SaveFault → Text
  | .file fault => fault.message
  | .refused message => message
  | .unwritable => Numeral.unwritableMessage

/-- Why a stored resource cannot be had. -/
inductive LoadFault
  | file (fault : FileFault)
  | json (text : Text) (fault : Json.Fault)
  | form (report : Schema.Report)

/-- What a fault says; a report is a listing. -/
def LoadFault.message : LoadFault → Text
  | .file fault => fault.message
  | .json text fault => fault.message text
  | .form report => report.listing

/-- The fault is one of the file, of its text, or of its data. Containers for which there is no room
are none of them. -/
def LoadFault.isReported : LoadFault → Bool
  | .json _ .tooManyOpen => false
  | _ => true

namespace FileStore

/-- A code point that a file name may have. -/
def isSafe (c : CodePoint) : Bool :=
  c.isAsciiLetter || c.isAsciiDigit || c = '.' || c = '_' || c = '-'

/-- A name in which each code point that a file name may not have is an underscore. -/
def safeName (name : Text) : Text := name.map fun c => if isSafe c then c else '_'

/-- The name of the file for a resource. -/
def fileName (name : Text) : Text := ("resource_" : Text) ++ safeName name ++ ".json"

/-- The path of the file for a resource. -/
def path (store : FileStore) (name : Text) : FilePath := store.dir.child (fileName name)

/-- The text of the file for a resource. -/
def document (r : Resource) : Text := Json.encodeIndented 2 0 r.toJson

/-- The stored resource of a name, if there is one. -/
def load (store : FileStore) (name : Text) (d : Disk) : Except LoadFault (Option Resource) :=
  let path := store.path name
  match d.isThere path with
  | .error e => .error (.file e)
  | .ok false => .ok none
  | .ok true =>
    match d.readText path with
    | .error e => .error (.file e)
    | .ok text =>
      match Json.decodeStored text with
      | .error e => .error (.json text e)
      | .ok v =>
        match Resource.ofData (Data.ofJson v) with
        | .error report => .error (.form report)
        | .ok r => .ok (some r)

/-- The name of a temporary file. -/
def temporaryName (n : Nat) : Text := ("tmp" : Text) ++ Text.padded 8 n ++ ".tmp"

/-- Nothing is stored at a path. -/
def isFree (d : Disk) (p : FilePath) : Bool :=
  match d.locate p with
  | .ok place => (d.at? place).isNone
  | .error _ => true

/-- The path of the temporary file: of more names than nodes, the first that is free. -/
def temporary (store : FileStore) (d : Disk) : FilePath :=
  let dir := d.absolute store.dir
  let names := (List.range (d.nodes.length + 1)).map temporaryName
  dir.child ((names.find? fun name => isFree d (dir.child name)).getD (temporaryName 0))

/-- A step that the disk allows unless the device refuses it. -/
def allowed {α : Type} (refusal : Option Text) (step : Except FileFault α) : Except SaveFault α :=
  match refusal, step with
  | some message, _ => .error (.refused message)
  | none, .error e => .error (.file e)
  | none, .ok a => .ok a

/-- The directory of the store, made where it is missing. -/
def prepare (device : Device) (store : FileStore) (d : Disk) : Except SaveFault Unit × Disk :=
  match device.directory with
  | some message => (.error (.refused message), d)
  | none =>
    match d.makeDirectories store.dir with
    | (.error e, d) => (.error (.file e), d)
    | (.ok (), d) => (.ok (), d)

/-- The text of a resource in the temporary file. A text that cannot be completed is there up to
where it breaks off. -/
def fill (device : Device) (r : Resource) (temporary : FilePath) (d : Disk) :
    Except SaveFault Unit × Disk :=
  let cut (n : Nat) (e : SaveFault) : Except SaveFault Unit × Disk :=
    match d.write temporary ((document r).take n) with
    | .ok d => (.error e, d)
    | .error _ => (.error e, d)
  match device.writing with
  | some (n, message) => cut n (.refused message)
  | none =>
    if !Json.isWritable r.toJson then cut 0 .unwritable
    else
      match d.write temporary (document r) with
      | .error e => (.error (.file e), d)
      | .ok d => (.ok (), d)

/-- The disk with a resource stored. -/
def save (device : Device) (store : FileStore) (r : Resource) (d : Disk) :
    Except SaveFault Unit × Disk :=
  match prepare device store d with
  | (.error e, d) => (.error e, d)
  | (.ok (), d) =>
    let temporary := store.temporary d
    match allowed device.temporary (d.write temporary []) with
    | .error e => (.error e, d)
    | .ok opened =>
      match fill device r temporary opened with
      | (.error e, d) => (.error e, d.remove temporary)
      | (.ok (), d) =>
        match allowed device.moving (d.move temporary (store.path r.name)) with
        | .error e => (.error e, d.remove temporary)
        | .ok d => (.ok (), d)

/-- The store as the verbs see it. -/
def toStore (device : Device) (store : FileStore) : Store Disk where
  save r d :=
    match store.save device r d with
    | (.ok (), d) => (.ok (), d)
    | (.error e, d) => (.error e.message, d)

end FileStore

end DesiredState
