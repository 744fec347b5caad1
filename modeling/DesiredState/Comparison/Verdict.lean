import DesiredState.Comparison.Containment
import DesiredState.Exchange.StatusCode
import DesiredState.Json.Decode

/-!
# Live state against desired state

Two texts are compared as JSON when both are JSON objects and as plain text when neither is; that
just one of them is an object is an error, which names the other. In sync always means a success
status as well.
-/

namespace DesiredState

/-- The two texts of a comparison. -/
inductive Side
  | observed
  | desired
  deriving DecidableEq

/-- What messages call a text of the comparison. -/
def Side.label : Side → Text
  | .observed => "response body"
  | .desired => "PUT mapping result"

/-- One text is a JSON object and the one on this side is not. -/
structure FormatMismatch where
  side : Side
  text : Text
  deriving DecidableEq

/-- What a mismatch says. -/
def FormatMismatch.message (m : FormatMismatch) : Text :=
  m.side.label ++ " is not a valid JSON string: " ++ m.text

/-- Whether the observed body satisfies the desired text. -/
def compare (mode : ArrayMode) (observed desired : Text) (status : Int) :
    Except FormatMismatch Bool :=
  match Json.decodeObject? observed, Json.decodeObject? desired with
  | some o, some d =>
    .ok (Json.contains mode (.obj o) (.obj d) && StatusCode.isSuccess status)
  | none, some _ => .error ⟨.observed, observed⟩
  | some _, none => .error ⟨.desired, desired⟩
  | none, none => .ok (Text.hasPart desired observed && StatusCode.isSuccess status)

end DesiredState
