import DesiredState.Files.Content
import DesiredState.Resource.Check
import DesiredState.Settings.Environment

/-!
# Declared resources

A resource as a file declares it. References to variables are replaced before it is checked.

* `Resource.declaredIn`: the resource of a file, or why there is none.
-/

namespace DesiredState

/-- Why a file declares no resource. -/
inductive DeclarationFault
  | content (fault : ContentFault)
  | reference (fault : Utf8Fault)
  | noMapping (path : Text)
  | form (report : Schema.Report)

/-- What a fault says; a report is a listing. -/
def DeclarationFault.message : DeclarationFault → Text
  | .content fault => fault.message
  | .reference fault => fault.message
  | .noMapping path => ("Resource file " : Text) ++ path ++ " must contain a mapping"
  | .form report => report.listing

/-- The resource that a file declares. -/
def Resource.declaredIn (env : Environment) (d : Disk) (p : FilePath) :
    Except DeclarationFault Resource :=
  match d.readData p with
  | .error e => .error (.content e)
  | .ok data =>
    match env.interpolateData data with
    | .error e => .error (.reference e)
    | .ok (.dict entries) =>
      match Resource.ofData (.dict entries) with
      | .error report => .error (.form report)
      | .ok r => .ok r
    | .ok _ => .error (.noMapping p.text)

end DesiredState
