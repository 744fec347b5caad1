import DesiredState.Exchange.Client
import DesiredState.Resource.Resolution

/-!
# Observing a resource

Whether the remote object matches what is declared, in four stages: a gate that looks at the
recorded status only, the GET request, the desired state, which is the body of the PUT request,
and the comparison. A GET that is answered with 404 means that there is no object, whatever else;
a transport that fails leaves an empty response to compare.

* `Resource.isObservable`: the gate.
* `Observer.observe`: all four stages.
-/

namespace DesiredState

/-- What one observation found. -/
structure Observation where
  synced : Bool
  exchange : Exchange
  transportError : Option Text
  deriving DecidableEq

/-- An observation of nothing. -/
def Observation.none : Observation := ⟨false, .empty, .none⟩

/-- Something was created according to the recorded status: there is a body, and it is not the
answer to a POST that failed. -/
def Resource.isObservable (r : Resource) : Bool :=
  !r.status.response.body.isEmpty &&
    !(r.status.request.method = Method.post.name && StatusCode.isError r.status.response.status)

/-- The logger of the resolution of requests. -/
def Resource.resolutionLogger : Text := "request_reconciler.requestgen"

/-- What the log says of a resolved request: the URL stands there with the blanks around it. -/
def Resource.resolutionMessage (r : Resource) (method : Method) : Text :=
  let url := match (r.mapping? method).map r.renderMapping with
    | some (.ok (rendered, _)) => rendered.url
    | _ => []
  ("Resolved " : Text) ++ method.name ++ " mapping of " ++ r.name ++ " to " ++ url

/-- The request for a method, with a message in the log when there is one. -/
def Resource.resolveLogged {σ : Type} (r : Resource) (method : Method) :
    Step σ ResolvedRequest := fun w =>
  match r.resolve method with
  | .error e => (.error e, w)
  | .ok request =>
    (.ok request, w.debug Resource.resolutionLogger (r.resolutionMessage method))

/-- The resolved request as it is sent and recorded. -/
def ResolvedRequest.toRequest (request : ResolvedRequest) (method : Method) : Request :=
  ⟨method.name, request.url, request.body, request.headers⟩

/-- What an observation needs besides the resource. -/
structure Observer where
  client : Client
  mode : ArrayMode

namespace Observer

variable {σ : Type}

/-- The GET exchange, or the request alone with the error of the transport. -/
def fetch (o : Observer) (r : Resource) : Step σ (Exchange × Option Text) := fun w =>
  match r.resolveLogged .get w with
  | (.error e, w) => (.error e, w)
  | (.ok request, w) =>
    let request := request.toRequest .get
    match o.client.send request r.spec.skipTlsVerify w with
    | (.ok exchange, w) => (.ok (exchange, none), w)
    | (.error (.transport message), w) => (.ok (⟨request, .empty⟩, some message), w)
    | (.error e, w) => (.error e, w)

/-- The desired state: the body of the PUT request. -/
def desiredState (r : Resource) : Step σ Text := fun w =>
  match r.resolveLogged .put w with
  | (.error e, w) => (.error e, w)
  | (.ok request, w) => (.ok request.body, w)

/-- One observation. -/
def observe (o : Observer) (r : Resource) : Step σ Observation := fun w =>
  if !r.isObservable then (.error .objectNotFound, w)
  else
    match o.fetch r w with
    | (.error e, w) => (.error e, w)
    | (.ok (exchange, transportError), w) =>
      if exchange.response.status = StatusCode.notFound then (.error .objectNotFound, w)
      else
        match desiredState r w with
        | (.error e, w) => (.error e, w)
        | (.ok desired, w) =>
          match compare o.mode exchange.response.body desired exchange.response.status with
          | .error mismatch => (.error (.invalidJson mismatch), w)
          | .ok synced => (.ok ⟨synced, exchange, transportError⟩, w)

end Observer

end DesiredState
