import DesiredState.Json.Value
import DesiredState.Resource.Basic

/-!
# Resources as documents

The JSON form of resources and their parts, with every field in the order of its declaration.
-/

namespace DesiredState

/-- Header values under header names. -/
def Headers.toJson (h : Headers) : Json :=
  .obj (h.map fun (name, values) => (name, .arr (values.map .str)))

/-- A mapping with all its fields. -/
def Mapping.toJson (m : Mapping) : Json :=
  .obj [("method", .str m.method.name), ("url", .str m.url), ("body", .str m.body),
    ("headers", Headers.toJson m.headers)]

/-- A payload with all its fields. -/
def Payload.toJson (p : Payload) : Json :=
  .obj [("base_url", .str p.baseUrl), ("body", .str p.body)]

/-- A specification with all its fields. -/
def Specification.toJson (s : Specification) : Json :=
  .obj [("payload", s.payload.toJson),
    ("mappings", .obj (s.mappings.map fun (m, mapping) => (m.name, mapping.toJson))),
    ("headers", Headers.toJson s.headers),
    ("insecure_skip_tls_verify", .bool s.skipTlsVerify)]

/-- A request with all its fields. -/
def Request.toJson (r : Request) : Json :=
  .obj [("method", .str r.method), ("url", .str r.url), ("body", .str r.body),
    ("headers", Headers.toJson r.headers)]

/-- A response with all its fields. -/
def Response.toJson (r : Response) : Json :=
  .obj [("status_code", .int r.status), ("body", .str r.body),
    ("headers", Headers.toJson r.headers)]

/-- An exchange with both its halves. -/
def Exchange.toJson (e : Exchange) : Json :=
  .obj [("request", e.request.toJson), ("response", e.response.toJson)]

/-- A status with all its fields. -/
def Status.toJson (s : Status) : Json :=
  .obj [("request_details", s.request.toJson), ("response", s.response.toJson),
    ("failed", .int s.failed), ("error", .str s.error)]

/-- A resource with all its fields. -/
def Resource.toJson (r : Resource) : Json :=
  .obj [("name", .str r.name), ("spec", r.spec.toJson), ("status", r.status.toJson)]

end DesiredState
