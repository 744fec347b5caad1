import DesiredState.Comparison.Verdict
import DesiredState.Resource.Basic
import DesiredState.Template.Render
import DesiredState.Text.Utf8

/-!
# Failures of a cycle

Why a step of managing a resource fails. The declared family covers what the steps promise to
report; outside it are faults in numerals and encodings, and a transport that breaks in ways of
its own.

* `Failure.message`: what a failure says.
* `Failure.isDeclared`: the failure belongs to the family.
-/

namespace DesiredState

/-- Why a step fails. -/
inductive Failure
  | objectNotFound
  | mappingNotFound (method : Text)
  | invalidRequest (method : Method) (unresolved : List Text)
  | invalidJson (mismatch : FormatMismatch)
  | transport (message : Text)
  | notSent (cause : Text)
  | notResource (kind : Option Text)
  | statusNotSaved (name cause : Text)
  | template (fault : Template.Fault)
  | encoding (fault : Utf8Fault)
  | broken (message : Text)
  | interrupted

namespace Failure

/-- What a failure says. -/
def message : Failure → Text
  | .objectNotFound => "object wasn't found"
  | .mappingNotFound method =>
    method ++ " mapping doesn't exist in request, skipping operation"
  | .invalidRequest method unresolved =>
    let detail : Text := if unresolved.isEmpty then "resolved URL is empty"
      else ("unresolved expressions: " : Text) ++ Text.joinWith ", " unresolved
    method.name ++ " request details are not valid (" ++ detail ++ ")"
  | .invalidJson mismatch => mismatch.message
  | .transport message => message
  | .notSent cause => ("failed to send http request: " : Text) ++ cause
  | .notResource kind =>
    let got : Text := match kind with
      | none => []
      | some k => (" (got " : Text) ++ k ++ ")"
    ("managed resource is not a Request custom resource" : Text) ++ got
  | .statusNotSaved name cause =>
    ("failed to update status of resource '" : Text) ++ name ++ "': " ++ cause
  | .template fault => fault.message
  | .encoding fault => fault.message
  | .broken message => message
  | .interrupted => []

/-- The failure is one that the steps promise to report. -/
def isDeclared : Failure → Bool
  | .template _ | .encoding _ | .broken _ | .interrupted => false
  | _ => true

end Failure

end DesiredState
