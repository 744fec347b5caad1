import DesiredState.Entries
import DesiredState.Text.Case

/-!
# Declared resources

A resource is a remote object that is managed over HTTP: a specification of the requests that
create, read, update and delete it, and the status that the last exchange left behind.

* `Method`: the four methods a resource maps to requests.
* `Mapping`: the templates of the request for a method.
* `Exchange`: a request sent and the response received.
* `Resource`: a name, a specification and a status.
-/

namespace DesiredState

/-- The methods that requests are declared for. -/
inductive Method
  | get
  | post
  | put
  | delete
  deriving DecidableEq

namespace Method

/-- All methods, in the order in which messages list them. -/
def all : List Method := [.get, .post, .put, .delete]

/-- The name of a method. -/
def name : Method → Text
  | .get => "GET"
  | .post => "POST"
  | .put => "PUT"
  | .delete => "DELETE"

/-- The method with exactly this name. -/
def ofName? (t : Text) : Option Method := all.find? fun m => m.name = t

/-- The method with this name in any case. -/
def ofText? (t : Text) : Option Method := ofName? (Text.upper t)

theorem ofName?_name (m : Method) : ofName? m.name = some m := by
  cases m <;> decide

theorem ofName?_eq_some_iff {t : Text} {m : Method} : ofName? t = some m ↔ t = m.name := by
  constructor
  · intro h
    have := List.find?_some h
    simpa using (of_decide_eq_true this).symm
  · rintro rfl
    exact ofName?_name m

theorem name_injective {m m' : Method} (h : m.name = m'.name) : m = m' := by
  have hm := ofName?_name m
  rw [h, ofName?_name] at hm
  exact (Option.some.inj hm).symm

end Method

/-- Header values in order, under header names in order. -/
abbrev Headers := List (Text × List Text)

/-- The templates of the request for one method. An empty URL means the base URL. -/
structure Mapping where
  method : Method
  url : Text
  body : Text
  headers : Headers
  deriving DecidableEq

/-- The base URL, and the body of data for templates. -/
structure Payload where
  baseUrl : Text
  body : Text
  deriving DecidableEq

/-- What is declared of a resource. Mappings stand under their methods; the headers apply to every
request unless the mapping has its own of the same name. -/
structure Specification where
  payload : Payload
  mappings : List (Method × Mapping)
  headers : Headers
  skipTlsVerify : Bool
  deriving DecidableEq

/-- A request as it was sent. -/
structure Request where
  method : Text
  url : Text
  body : Text
  headers : Headers
  deriving DecidableEq

/-- A response as it was received. -/
structure Response where
  status : Int
  body : Text
  headers : Headers
  deriving DecidableEq

/-- No request. -/
def Request.empty : Request := ⟨[], [], [], []⟩

/-- No response. -/
def Response.empty : Response := ⟨0, [], []⟩

/-- A request and its response. -/
structure Exchange where
  request : Request
  response : Response
  deriving DecidableEq

/-- No exchange. -/
def Exchange.empty : Exchange := ⟨.empty, .empty⟩

/-- What the last cycle recorded: the exchange, how many cycles in a row have failed, and the text
of the last error. -/
structure Status where
  request : Request
  response : Response
  failed : Int
  error : Text
  deriving DecidableEq

/-- Nothing recorded yet. -/
def Status.empty : Status := ⟨.empty, .empty, 0, []⟩

/-- A resource under management. -/
structure Resource where
  name : Text
  spec : Specification
  status : Status
  deriving DecidableEq

namespace Resource

/-- The mapping of a method. -/
def mapping? (r : Resource) (m : Method) : Option Mapping := Entries.find? m r.spec.mappings

/-- The mapping of the method with this name in any case. -/
def mappingOf? (r : Resource) (name : Text) : Option Mapping :=
  (Method.ofText? name).bind r.mapping?

/-- The resource with another status. -/
def withStatus (r : Resource) (s : Status) : Resource := { r with status := s }

end Resource

end DesiredState
