import DesiredState.CommandLine.Run

/-!
# What a run looks at

The paths whose contents a run depends on. Which they are can depend on what is stored: the
configuration names the directory of the store and the log file, and the declaration names the
resource. So they are found in two looks: the first finds the configuration and the declaration,
and the second what these name.

* `Run.consulted`: the paths, as far as a disk tells.
* `FilePath.way`: the places on the way along a path.
-/

namespace DesiredState

/-- The places on the way along some names. -/
def FilePath.wayFrom (place : Place) : List Text → List Place
  | [] => []
  | name :: names =>
    let next := if name = FilePath.up then place.dropLast else place ++ [name]
    next :: wayFrom next names

/-- The places on the way along a path from the working directory. -/
def FilePath.way (work : Place) (p : FilePath) : List Place :=
  FilePath.wayFrom (if p.isAbsolute then [] else work) p.names

namespace Run

/-- The paths that a configuration leads to: the log file, the directory of the store, and in it
the file of the declared resource. -/
def consultedBy (i : Invocation) (c : Configuration) (env : Environment) (d : Disk) :
    List FilePath :=
  let store : FileStore := ⟨FilePath.ofText c.settings.stateDir⟩
  let log := (logFile i c).toList.map fun t => d.absolute (FilePath.ofText t)
  let stored := match Resource.declaredIn env d (FilePath.ofText i.resourceFile) with
    | .ok r => [store.path r.name]
    | .error _ => []
  log ++ store.dir :: stored

/-- The paths that the run of a command line looks at, as far as a disk tells. -/
def consulted (words : List Text) (env : Environment) (d : Disk) : List FilePath :=
  match Invocation.ofWords words with
  | .error _ => []
  | .ok i =>
    let files := match Hierarchy.candidates env d with
      | .ok ps => ps
      | .error _ => []
    let more := match (Configuration.load i.overrides env d).1 with
      | .ok c => consultedBy i c env d
      | .error _ => []
    files ++ FilePath.ofText i.resourceFile :: more

end Run

end DesiredState
