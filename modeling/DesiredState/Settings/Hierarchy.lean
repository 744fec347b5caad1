import DesiredState.Files.Content
import DesiredState.Settings.Environment
import DesiredState.Settings.File
import DesiredState.Settings.Load

/-!
# The hierarchy of configuration files

Up to three files, from the one that counts most: the one that a variable names, that of the
project in the working directory, and that of the user in the home directory. Each key on the top
level has its value from the first file that has it; nothing below the top level is merged.
References to variables are replaced in the merged configuration.

* `Hierarchy.files`: the files that are there, the one that counts most first.
* `Hierarchy.load`: the merged configuration.
* `Configuration.load`: the configuration checked, and the settings that come of it.
-/

namespace DesiredState

/-- Why the files give no configuration. -/
inductive HierarchyFault
  | noHome
  | content (fault : ContentFault)
  | reference (fault : Utf8Fault)
  deriving DecidableEq

/-- What a fault says. -/
def HierarchyFault.message : HierarchyFault → Text
  | .noHome => "Could not determine home directory."
  | .content fault => fault.message
  | .reference fault => fault.message

namespace Hierarchy

/-- The variable that names a file. -/
def fileVariable : Text := "RECONCILER_CONFIG"

/-- The file of the project, below the working directory. -/
def projectFile : FilePath := ⟨"", [".request_reconciler", "config.yml"]⟩

/-- The file of the user, below the home directory. -/
def userFile : FilePath := ⟨"", [".config", "request_reconciler", "config.yml"]⟩

/-- The home directory; the root if none is set. One that begins with a tilde is not known. -/
def home (env : Environment) : Except HierarchyFault FilePath :=
  match env.get? "HOME" with
  | some (c :: t) => if c = '~' then .error .noHome else .ok (FilePath.ofText (c :: t))
  | _ => .ok ⟨"/", []⟩

/-- A path with the home directory for a tilde in front. The home directories of other users are
not known. -/
def expandHome (env : Environment) (p : FilePath) : Except HierarchyFault FilePath :=
  match p.lead, p.names with
  | [], (c :: name) :: names =>
    if c ≠ '~' then .ok p
    else if name.isEmpty then (home env).map fun h => h.append ⟨"", names⟩
    else .error .noHome
  | _, _ => .ok p

/-- The file that the variable names. -/
def named (env : Environment) (d : Disk) : Except HierarchyFault (List FilePath) :=
  match env.get? fileVariable with
  | some (c :: t) =>
    (expandHome env (FilePath.ofText (c :: t))).map fun p => [{ d.absolute p with lead := "/" }]
  | _ => .ok []

/-- The places of the files, the one that counts most first. -/
def candidates (env : Environment) (d : Disk) : Except HierarchyFault (List FilePath) := do
  let named ← named env d
  return named ++ [FilePath.append ⟨"/", d.work⟩ projectFile, (← home env).append userFile]

/-- Those of some paths where something is stored. -/
def existing (d : Disk) : List FilePath → Except HierarchyFault (List FilePath)
  | [] => .ok []
  | p :: ps =>
    match d.isThere p with
    | .error e => .error (.content (.file e))
    | .ok true => (existing d ps).map (p :: ·)
    | .ok false => existing d ps

/-- The files that are there, the one that counts most first. -/
def files (env : Environment) (d : Disk) : Except HierarchyFault (List FilePath) := do
  existing d (← candidates env d)

/-- What is said about a file that holds no dictionary. -/
def skipped (p : FilePath) (data : Data) : Text :=
  ("Config file " : Text) ++ p.text ++ " has non-dict root (" ++ data.typeName ++ "), skipping"

/-- The entries `es` with those of a file set, and warnings with one more if the file holds
something else than a dictionary. -/
def mergeFile (p : FilePath) (data : Data) (es : List (Key × Data)) (warnings : List Text) :
    List (Key × Data) × List Text :=
  match data with
  | .dict entries => (Data.merge es entries, warnings)
  | .null => (es, warnings)
  | data => (es, warnings ++ [skipped p data])

/-- The entries `es` with those of some files set one after the other. -/
def mergeFiles (d : Disk) : List FilePath → List (Key × Data) → (warnings : List Text) →
    Except HierarchyFault (List (Key × Data)) × List Text
  | [], es, warnings => (.ok es, warnings)
  | p :: ps, es, warnings =>
    match d.readData p with
    | .error e => (.error (.content e), warnings)
    | .ok data =>
      let (es, warnings) := mergeFile p data es warnings
      mergeFiles d ps es warnings

/-- The merged configuration, with warnings about files that were passed over. -/
def load (env : Environment) (d : Disk) :
    Except HierarchyFault (List (Key × Data)) × List Text :=
  match files env d with
  | .error e => (.error e, [])
  | .ok ps =>
    match mergeFiles d ps.reverse [] [] with
    | (.error e, warnings) => (.error e, warnings)
    | (.ok es, warnings) => ((env.interpolateEntries es).mapError .reference, warnings)

end Hierarchy

/-- Why there are no settings. -/
inductive ConfigurationFault
  | files (fault : HierarchyFault)
  | form (fault : ConfigFile.Fault)
  | settings (fault : SettingsFault)

/-- A configuration with the settings that come of it. -/
structure Configuration where
  file : ConfigFile
  settings : Settings

/-- The configuration of a run: all files merged and checked, and the settings from all sources.
The warnings are those about files and those about the settings. -/
def Configuration.load (overrides : Overrides) (env : Environment) (d : Disk) :
    Except ConfigurationFault Configuration × List Text :=
  match Hierarchy.load env d with
  | (.error e, warnings) => (.error (.files e), warnings)
  | (.ok es, warnings) =>
    match ConfigFile.ofEntries es with
    | .error e => (.error (.form e), warnings)
    | .ok file =>
      match Settings.load overrides env file.fallbacks with
      | .error e => (.error (.settings e), warnings)
      | .ok s => (.ok ⟨file, s⟩, warnings ++ s.warnings)

end DesiredState
