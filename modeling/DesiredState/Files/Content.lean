import DesiredState.Files.Disk
import DesiredState.Text.Lines
import DesiredState.Yaml.Meaning

/-!
# What files hold

Files read as text, and as data written in YAML.

* `Disk.readText`, `Disk.readData`: a file's text and its data.
-/

namespace DesiredState

/-- Why a file gives no data. -/
inductive ContentFault
  | file (fault : FileFault)
  | yaml (fault : Yaml.Fault)
  deriving DecidableEq

/-- What a fault says. -/
def ContentFault.message : ContentFault → Text
  | .file fault => fault.message
  | .yaml fault => fault.message

/-- The fault is one of the file or of its text. -/
def ContentFault.isReported : ContentFault → Bool
  | .file _ => true
  | .yaml fault => fault.isReported

namespace Disk

/-- The text of a file, its lines ending with line feeds. -/
def readText (d : Disk) (p : FilePath) : Except FileFault Text :=
  (d.read p).map Text.withLineFeeds

/-- The data of a file. -/
def readData (d : Disk) (p : FilePath) : Except ContentFault Data :=
  match d.readText p with
  | .error e => .error (.file e)
  | .ok t =>
    match Data.ofYaml t with
    | .error e => .error (.yaml e)
    | .ok data => .ok data

end Disk

end DesiredState
