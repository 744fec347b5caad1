import DesiredState.Exchange.Wire

/-!
# Recording exchanges

The status that an exchange leaves behind. A response with an error status counts as a failure and
is recorded; a transport that failed counts as one and leaves the recorded exchange alone; any
other response clears the error but not the count.

* `Status.after`: the next status.
* `Store`: where resources are kept.
* `Store.record`: the next status, kept.
-/

namespace DesiredState

/-- A place where resources are kept; it may refuse one with a message. -/
structure Store (σ : Type) where
  save : Resource → σ → Except Text Unit × σ

namespace Status

/-- The status after an exchange, or after a transport error. -/
def after (s : Status) (exchange : Exchange) (transportError : Option Text) : Status :=
  match transportError with
  | some message => { s with failed := s.failed + 1, error := message }
  | none =>
    if StatusCode.isError exchange.response.status then
      { request := exchange.request, response := exchange.response, failed := s.failed + 1,
        error := ("HTTP request failed with status code " : Text) ++
          Text.ofInt exchange.response.status }
    else
      { request := exchange.request, response := exchange.response, failed := s.failed,
        error := [] }

end Status

/-- The resource with its count of failures cleared. -/
def Resource.resetFailures (r : Resource) : Resource :=
  r.withStatus { r.status with failed := 0 }

namespace Store

variable {σ : Type}

/-- The logger of this module. -/
def logger : Text := "request_reconciler.reconciler.status"

/-- The resource kept as it is. -/
def keep (store : Store σ) (r : Resource) : Step σ Resource := fun w =>
  match store.save r w.store with
  | (.error cause, s) => (.error (.statusNotSaved r.name cause), { w with store := s })
  | (.ok (), s) =>
    let w := { w with store := s, saved := w.saved ++ [r] }
    (.ok r, w.debug logger (("Updated status of " : Text) ++ r.name ++ " (failed=" ++
      Text.ofInt r.status.failed ++ ")"))

/-- A store that counts its writes and refuses those with the given numbers. -/
def refusing (refused : List Nat) : Store Nat where
  save _ n :=
    if refused.contains n then
      (.error (("store refused write " : Text) ++ Text.decimal n), n + 1)
    else (.ok (), n + 1)

/-- The resource kept with the status that an exchange or a transport error leaves behind. -/
def record (store : Store σ) (r : Resource) (exchange : Exchange) (transportError : Option Text) :
    Step σ Resource :=
  store.keep (r.withStatus (r.status.after exchange transportError))

end Store

end DesiredState
