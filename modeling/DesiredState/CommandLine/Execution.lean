import DesiredState.CommandLine.Invocation
import DesiredState.Lifecycle.Verbs
import DesiredState.Resource.Declaration
import DesiredState.Storage.FileStore

/-!
# Execution of a command

A command works on the resource that a file declares, with the status that the store has under
its name, if there is one; the stored declaration is not looked at. What is told in the end is a
summary.

* `Command.carryOut`: a command carried out on a resource.
* `Execution.resource`: the resource to work on.
* `Execution.run`: an execution.
-/

namespace DesiredState

/-- Why a command is not carried out. -/
inductive ExecutionFault
  | declaration (fault : DeclarationFault)
  | load (fault : LoadFault)
  | verb (failure : Failure)

namespace ExecutionFault

/-- What a fault says. -/
def message : ExecutionFault → Text
  | .declaration fault => fault.message
  | .load fault => fault.message
  | .verb failure => failure.message

/-- The fault is reported. A transport that breaks in ways of its own is not, and neither is a text
for which there is no room. -/
def isReported : ExecutionFault → Bool
  | .declaration (.content f) => f.isReported
  | .load f => f.isReported
  | .verb (.broken _) | .verb .interrupted => false
  | _ => true

end ExecutionFault

/-- What is told about a command that was carried out. -/
structure Summary where
  command : Command
  resource : Resource
  details : List (Text × Json)

/-- A summary as JSON. -/
def Summary.toJson (s : Summary) : Json :=
  let members : List (Text × Json) :=
    [("command", .str s.command.name), ("resource", .str s.resource.name),
      ("status_code", .int s.resource.status.response.status),
      ("failed", .int s.resource.status.failed), ("error", .str s.resource.status.error)]
  .obj (members ++ s.details)

/-- A command carried out on a resource. -/
def Command.carryOut {σ : Type} (c : Command) (m : Manager σ) (r : Resource) : Step σ Summary :=
  fun w =>
    match c with
    | .observe =>
      match m.observe r w with
      | (.error e, w) => (.error e, w)
      | (.ok found, w) => (.ok ⟨c, found.resource,
          [("exists", .bool found.present), ("up_to_date", .bool found.upToDate)]⟩, w)
    | c =>
      match m.reconcile r (c = .delete) w with
      | (.error e, w) => (.error e, w)
      | (.ok (outcome, r), w) => (.ok ⟨c, r, [("outcome", .str outcome.name)]⟩, w)

/-- What a command needs besides the world. -/
structure Execution where
  command : Command
  resourceFile : FilePath
  settings : Settings
  environment : Environment

namespace Execution

/-- The store of an execution. -/
def store (x : Execution) : FileStore := ⟨FilePath.ofText x.settings.stateDir⟩

/-- The verbs of an execution. -/
def manager (x : Execution) : Manager Disk :=
  let s := x.settings
  ⟨⟨⟨s.timeout, s.connectTimeout, s.insecure⟩, (ArrayMode.ofName? s.arrayMode).getD .ordered⟩,
    x.store.toStore .sound⟩

/-- The declared resource, with the stored status if there is one. -/
def resource (x : Execution) (d : Disk) : Except ExecutionFault Resource :=
  match Resource.declaredIn x.environment d x.resourceFile with
  | .error e => .error (.declaration e)
  | .ok declared =>
    match x.store.load declared.name d with
    | .error e => .error (.load e)
    | .ok none => .ok declared
    | .ok (some stored) => .ok (declared.withStatus stored.status)

/-- The command carried out. -/
def run (x : Execution) (w : World Disk) : Except ExecutionFault Summary × World Disk :=
  match x.resource w.store with
  | .error e => (.error e, w)
  | .ok r =>
    match x.command.carryOut x.manager r w with
    | (.error e, w) => (.error (.verb e), w)
    | (.ok s, w) => (.ok s, w)

end Execution

end DesiredState
