import DesiredState.Data.Value
import DesiredState.Lifecycle.Observation
import DesiredState.Lifecycle.Recording

/-!
# The verbs of a cycle

Observe, create, update, delete, and the pass that ties them together: observe, then create what
is missing and update what differs, or delete what is there. Each verb keeps the resource with its
new status; an error in sending keeps nothing.

* `Manager.observe`, `Manager.create`, `Manager.update`, `Manager.delete`: the verbs.
* `Manager.reconcile`: one pass.
-/

namespace DesiredState

/-- What is known of a remote object after observing it. -/
structure Finding where
  present : Bool
  upToDate : Bool
  resource : Resource
  observation : Observation

/-- What one pass did. -/
inductive Outcome
  | created
  | updated
  | upToDate
  | deleted
  | absent
  deriving DecidableEq

/-- The word for an outcome. -/
def Outcome.name : Outcome → Text
  | .created => "created"
  | .updated => "updated"
  | .upToDate => "up_to_date"
  | .deleted => "deleted"
  | .absent => "absent"

/-- Everything the verbs need besides the resource. -/
structure Manager (σ : Type) where
  observer : Observer
  store : Store σ

namespace Manager

variable {σ : Type}

/-- The logger of this module. -/
def logger : Text := "request_reconciler.reconciler.external"

/-- Whether the remote object exists and is up to date. An object in sync clears the count of
failures. -/
def observe (m : Manager σ) (r : Resource) : Step σ Finding := fun w =>
  match m.observer.observe r w with
  | (.error .objectNotFound, w) =>
    (.ok ⟨false, false, r, .none⟩, w.debug logger (r.name ++ " does not exist remotely"))
  | (.error e, w) => (.error e, w)
  | (.ok o, w) =>
    let r := if o.synced then r.resetFailures else r
    match m.store.record r o.exchange o.transportError w with
    | (.error e, w) => (.error e, w)
    | (.ok r, w) => (.ok ⟨true, o.synced, r, o⟩, w)

/-- The request of a method sent, and its exchange recorded. -/
def deploy (m : Manager σ) (method : Method) (r : Resource) : Step σ Resource := fun w =>
  match r.resolveLogged method w with
  | (.error e, w) => (.error e, w)
  | (.ok request, w) =>
    let w := w.debug logger (method.name ++ " " ++ request.url ++ " for " ++ r.name)
    match m.observer.client.send (request.toRequest method) r.spec.skipTlsVerify w with
    | (.ok exchange, w) => m.store.record r exchange none w
    | (.error (.transport message), w) => (.error (.notSent message), w)
    | (.error e, w) => (.error e, w)

/-- The POST request. -/
def create (m : Manager σ) : Resource → Step σ Resource := m.deploy .post

/-- The PUT request. -/
def update (m : Manager σ) : Resource → Step σ Resource := m.deploy .put

/-- The DELETE request. -/
def delete (m : Manager σ) : Resource → Step σ Resource := m.deploy .delete

/-- An outcome with the resource that a verb gave. -/
def concluding (outcome : Outcome) (result : Except Failure Resource × World σ) :
    Except Failure (Outcome × Resource) × World σ :=
  match result with
  | (.ok r, w) => (.ok (outcome, r), w)
  | (.error e, w) => (.error e, w)

/-- One pass over a resource that is to exist, or to be deleted. -/
def reconcile (m : Manager σ) (r : Resource) (deleting : Bool) :
    Step σ (Outcome × Resource) := fun w =>
  match m.observe r w with
  | (.error e, w) => (.error e, w)
  | (.ok found, w) =>
    if deleting then
      if found.present then concluding .deleted (m.delete found.resource w)
      else (.ok (.absent, found.resource), w)
    else if !found.present then concluding .created (m.create found.resource w)
    else if !found.upToDate then concluding .updated (m.update found.resource w)
    else (.ok (.upToDate, found.resource), w)

end Manager

/-- The verb on something that is no resource. -/
def Failure.ofForeign (d : Data) : Failure :=
  match d with
  | .null => .notResource none
  | d => .notResource (some d.typeName)

end DesiredState
