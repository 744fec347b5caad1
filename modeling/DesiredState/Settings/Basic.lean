import DesiredState.Comparison.Containment
import DesiredState.Number.Binary64

/-!
# Settings

What a run can be told: the limits of time on an exchange, whether certificates are verified,
whether debug messages are logged, how arrays are compared, and where resources are stored.
-/

namespace DesiredState

/-- The directory for stored resources unless another is set. -/
def defaultStateDir : Text := ".request_reconciler/state"

/-- The settings of a run. Time limits are in seconds. The mode is a word until it is checked. -/
structure Settings where
  timeout : Binary64
  connectTimeout : Binary64
  insecure : Bool
  debug : Bool
  arrayMode : Text
  stateDir : Text
  deriving DecidableEq

namespace Settings

/-- Thirty seconds to read. -/
def defaultTimeout : Binary64 := Binary64.ofRatio false 30 1

/-- Ten seconds to connect. -/
def defaultConnectTimeout : Binary64 := Binary64.ofRatio false 10 1

/-- The settings when nothing is set. -/
def default : Settings where
  timeout := defaultTimeout
  connectTimeout := defaultConnectTimeout
  insecure := false
  debug := false
  arrayMode := ArrayMode.ordered.name
  stateDir := defaultStateDir

end Settings

end DesiredState
