import DesiredState.Exchange.Wire
import DesiredState.Settings.Basic

/-!
# Sending requests

One request, one exchange. A response of any status is an exchange; only a transport that fails is
an error. The caller's event is looked at once, before anything is sent.

* `Client.send`: a request sent and its exchange.
-/

namespace DesiredState

/-- What all requests of a run have in common. -/
structure Client where
  timeout : Binary64
  connectTimeout : Binary64
  insecure : Bool

/-- A response that came over the wire: its headers as a table, in which each has one value. -/
def Response.received (status : Int) (body : Text) (headers : List (Text × Text)) : Response :=
  ⟨status, body, Entries.ofPairs (headers.map fun (name, value) => (name, [value]))⟩

namespace Client

/-- The client that settings describe. -/
def ofSettings (s : Settings) : Client := ⟨s.timeout, s.connectTimeout, s.insecure⟩

/-- The logger of this module. -/
def logger : Text := "request_reconciler.core.client"

/-- Method and URL, as messages begin. -/
def heading (r : Request) : Text := r.method ++ " " ++ r.url

/-- The request as it is handed to the transport: an empty body is no data, the values of a header
are joined, certificates are verified unless the client or the request says otherwise, and the
limits of time are those of the client. -/
def wireForm (c : Client) (r : Request) (skipTlsVerify : Bool) : Sent where
  method := r.method
  url := r.url
  data := if r.body.isEmpty then none else some r.body
  headers := r.headers.map fun (name, values) => (name, Text.joinWith ", " values)
  verify := !(skipTlsVerify || c.insecure)
  connectTimeout := c.connectTimeout
  timeout := c.timeout

/-- A request sent and its exchange. -/
def send {σ : Type} (c : Client) (r : Request) (skipTlsVerify : Bool) : Step σ Exchange := fun w =>
  if w.event = .set then (.error (.transport (heading r ++ ": request cancelled")), w)
  else
    let w := w.debug logger (("Sending " : Text) ++ heading r)
    match Text.utf8Fault? r.body with
    | some fault => (.error (.encoding fault), w)
    | none =>
      let w := { w with sent := w.sent ++ [c.wireForm r skipTlsVerify] }
      match w.receive with
      | (.failed message, w) => (.error (.transport (heading r ++ ": " ++ message)), w)
      | (.broken message, w) => (.error (.broken message), w)
      | (.interrupted, w) => (.error .interrupted, w)
      | (.response status body headers, w) =>
        let w := w.debug logger (heading r ++ " returned HTTP " ++ Text.ofInt status)
        (.ok ⟨r, .received status body headers⟩, w)

end Client

end DesiredState
