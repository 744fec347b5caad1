import DesiredState.Json.Decode
import DesiredState.Resource.Basic

/-!
# What templates see of a resource

The context of a resource's templates is an object with the payload and the last response. A body
that is JSON text stands there as its value, any other as text.
-/

namespace DesiredState

/-- The value of a body that is JSON text, or the body itself. -/
def Json.ofBody (body : Text) : Json :=
  match Json.decode body with
  | .ok v => v
  | .error _ => .str body

/-- The context of a resource's templates. -/
def Resource.context (r : Resource) : Json :=
  let response := r.status.response
  .obj [
    ("payload", .obj [
      ("base_url", .str r.spec.payload.baseUrl),
      ("body", Json.ofBody r.spec.payload.body)]),
    ("response", .obj [
      ("status_code", .int response.status),
      ("body", Json.ofBody response.body),
      ("headers", .obj (response.headers.map fun (name, values) =>
        (name, .arr (values.map .str))))])]

end DesiredState
