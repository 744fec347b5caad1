import DesiredState.Text.Quoted

/-!
# Faults of files

Why something cannot be done with a file: a number of the system, its words, and the paths that
were given.

* `FileFault.message`: what a fault says.
-/

namespace DesiredState

/-- What is wrong with a path. -/
inductive FileFault.Cause
  | missing
  | present
  | notDirectory
  | directory
  | nameTooLong
  deriving DecidableEq

/-- A cause, the path that was given, and the path to which it was to be moved. -/
structure FileFault where
  cause : FileFault.Cause
  path : Text
  target : Option Text
  deriving DecidableEq

namespace FileFault

/-- The number of a cause. -/
def Cause.number : Cause → Nat
  | .missing => 2
  | .present => 17
  | .notDirectory => 20
  | .directory => 21
  | .nameTooLong => 36

/-- The words for a cause. -/
def Cause.words : Cause → Text
  | .missing => "No such file or directory"
  | .present => "File exists"
  | .notDirectory => "Not a directory"
  | .directory => "Is a directory"
  | .nameTooLong => "File name too long"

/-- What a fault says. -/
def message (f : FileFault) : Text :=
  let target : Text := match f.target with
    | none => []
    | some t => (" -> " : Text) ++ Text.quoted t
  ("[Errno " : Text) ++ Text.decimal f.cause.number ++ "] " ++ f.cause.words ++ ": " ++
    Text.quoted f.path ++ target

end FileFault

end DesiredState
