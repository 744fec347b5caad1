import DesiredState.Failure
import DesiredState.Log.Record
import DesiredState.Number.Binary64
import DesiredState.Resource.Basic

/-!
# The world of a cycle

What a step of a cycle acts on, as a value: the replies that the remote side will give, the
caller's event for cancelling, the requests sent so far, the store with the resources it has
accepted, and the log. A step gives a result and the next world.

* `Reply`: a response, or one of the ways in which the exchange can fail.
* `World`: the state between steps.
* `Step`: a state transition with a result.
-/

namespace DesiredState

/-- What becomes of a request on the wire. -/
inductive Reply
  | response (status : Int) (body : Text) (headers : List (Text × Text))
  | failed (message : Text)
  | broken (message : Text)
  | interrupted
  deriving DecidableEq

/-- A reply, and whether the caller's event is set while it is on its way. -/
structure Arrival where
  reply : Reply
  cancels : Bool
  deriving DecidableEq

/-- The caller's event for cancelling: none was given, or it is still unset, or set. -/
inductive Cancellation
  | absent
  | unset
  | set
  deriving DecidableEq

/-- A request as it is handed to the transport, with the limits of time on it in seconds. -/
structure Sent where
  method : Text
  url : Text
  data : Option Text
  headers : List (Text × Text)
  verify : Bool
  connectTimeout : Binary64
  timeout : Binary64
  deriving DecidableEq

/-- The state of a cycle; `σ` is the state of the store. -/
structure World (σ : Type) where
  arrivals : List Arrival
  event : Cancellation
  sent : List Sent
  store : σ
  saved : List Resource
  log : List Log.Record

/-- A step of a cycle. -/
abbrev Step (σ α : Type) := World σ → Except Failure α × World σ

namespace World

variable {σ : Type}

/-- The world with one more message in the log. -/
def logged (w : World σ) (level : Log.Level) (logger message : Text) : World σ :=
  { w with log := w.log ++ [⟨level, logger, message⟩] }

/-- The world with one more debug message in the log. -/
def debug (w : World σ) (logger message : Text) : World σ :=
  w.logged Log.Level.debug logger message

/-- A connection without further replies fails. -/
def exhausted : Arrival := ⟨.failed "script exhausted", false⟩

/-- The next reply; it may set the caller's event. -/
def receive (w : World σ) : Reply × World σ :=
  let next := w.arrivals.headD exhausted
  let event := if next.cancels ∧ w.event = .unset then .set else w.event
  (next.reply, { w with arrivals := w.arrivals.tail, event := event })

end World

end DesiredState
