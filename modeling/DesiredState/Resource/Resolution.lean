import DesiredState.Failure
import DesiredState.Resource.Context

/-!
# Resolving a mapping into a request

The templates of a mapping are rendered in the context of the resource: the URL (the base URL when
the mapping has none), the body, and the effective headers, which are those of the specification
overridden name by name by those of the mapping. A path without a value, or a blank URL, makes the
whole request invalid.

* `Resource.resolve`: the request for a method.
* `Resource.resolveNamed`: the same for the name of a method.
-/

namespace DesiredState

/-- A request that is ready to be sent. -/
structure ResolvedRequest where
  url : Text
  body : Text
  headers : Headers
  deriving DecidableEq

namespace Resource

/-- The URL template of a mapping. -/
def urlTemplate (r : Resource) (m : Mapping) : Text :=
  if m.url.isEmpty then r.spec.payload.baseUrl else m.url

/-- The header templates of a mapping. -/
def effectiveHeaders (r : Resource) (m : Mapping) : Headers :=
  Entries.merge r.spec.headers m.headers

/-- Rendered values of one header, and the paths without a value. -/
def renderValues (context : Json) : List Text → Except Template.Fault (List Text × List Text)
  | [] => .ok ([], [])
  | v :: vs =>
    match Template.render context v with
    | .error f => .error f
    | .ok first =>
      match renderValues context vs with
      | .error f => .error f
      | .ok (texts, missing) => .ok (first.text :: texts, first.unresolved ++ missing)

/-- Rendered headers, and the paths without a value. -/
def renderHeaders (context : Json) : Headers → Except Template.Fault (Headers × List Text)
  | [] => .ok ([], [])
  | (name, values) :: hs =>
    match renderValues context values with
    | .error f => .error f
    | .ok (texts, missing) =>
      match renderHeaders context hs with
      | .error f => .error f
      | .ok (rest, missing') => .ok ((name, texts) :: rest, missing ++ missing')

/-- The rendered parts of a request, and the paths without a value in URL, body and headers. -/
def renderMapping (r : Resource) (m : Mapping) :
    Except Template.Fault (ResolvedRequest × List Text) :=
  let context := r.context
  match Template.render context (r.urlTemplate m) with
  | .error f => .error f
  | .ok url =>
    match Template.render context m.body with
    | .error f => .error f
    | .ok body =>
      match renderHeaders context (r.effectiveHeaders m) with
      | .error f => .error f
      | .ok (headers, missing) =>
        .ok (⟨url.text, body.text, headers⟩, url.unresolved ++ body.unresolved ++ missing)

/-- The request of a mapping. The blanks around the URL are taken off. -/
def generate (r : Resource) (m : Mapping) : Except Failure ResolvedRequest :=
  match renderMapping r m with
  | .error f => .error (.template f)
  | .ok (request, unresolved) =>
    if !unresolved.isEmpty || Text.isBlank request.url then
      .error (.invalidRequest m.method unresolved)
    else .ok { request with url := Text.trim request.url }

/-- The request for a method. -/
def resolve (r : Resource) (method : Method) : Except Failure ResolvedRequest :=
  match r.mapping? method with
  | none => .error (.mappingNotFound method.name)
  | some m => r.generate m

/-- The request for the method with this name in any case. -/
def resolveNamed (r : Resource) (name : Text) : Except Failure ResolvedRequest :=
  match r.mappingOf? name with
  | none => .error (.mappingNotFound (Text.upper name))
  | some m => r.generate m

end Resource

end DesiredState
