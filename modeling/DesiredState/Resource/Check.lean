import DesiredState.Resource.Basic
import DesiredState.Schema.Check

/-!
# Resources from data

Checks of resources and their parts. Mappings may come as a dictionary under their methods or as a
list; a list is first put under the methods that its items name, in any case, each at most once.
Each of them is a mapping already, or data that is checked then. In the end each mapping must
declare the method it stands under.

* `Mapping.Sources`: the mappings of a specification as they are given.
* `Resource.ofData`: a resource, or all that is wrong with it.
-/

namespace DesiredState

open Schema

/-- The name of a method, exactly. -/
def Method.ofData (d : Data) : Checked Method :=
  let problem := Checked.problem (.notMember (Method.all.map Method.name))
  match d with
  | .str s =>
    match Method.ofName? s with
    | some m => .ok m
    | none => problem
  | _ => problem

/-- Header values under header names. -/
def Headers.ofData : Data → Checked Headers := Check.table Check.text (Check.listOf Check.text)

/-- A mapping. -/
def Mapping.ofData : Data → Checked Mapping :=
  Check.model "Mapping" fun es =>
    Checked.map (fun (method, url, body, headers) => ⟨method, url, body, headers⟩)
      (Checked.both (Check.required "method" Method.ofData es)
        (Checked.both (Check.optional "url" Check.text [] es)
          (Checked.both (Check.optional "body" Check.text [] es)
            (Check.optional "headers" Headers.ofData [] es))))

/-- A payload. -/
def Payload.ofData : Data → Checked Payload :=
  Check.model "Payload" fun es =>
    Checked.map (fun (baseUrl, body) => ⟨baseUrl, body⟩)
      (Checked.both (Check.required "base_url" Check.text es)
        (Check.optional "body" Check.text [] es))

namespace Mapping

/-- Why a list of mappings cannot be put under methods. -/
inductive ListFault
  | notObject (item : Data)
  | methodNotText (method : Data)
  | unknownMethod (name : Text)
  | repeated (method : Method)

/-- What a fault of a list says. -/
def ListFault.message : ListFault → Text
  | .notObject item => ("each mapping must be an object, got " : Text) ++ item.quoted
  | .methodNotText method => ("mapping method must be a string, got " : Text) ++ method.quoted
  | .unknownMethod name => Text.quoted name ++ " is not a valid HttpMethod"
  | .repeated method =>
    ("duplicate mapping for method " : Text) ++ method.name ++
      ": at most one mapping per method is allowed"

/-- The method that an item of a list names; an item without one names the empty text. -/
def methodOfItem : Data → Except ListFault Method
  | .dict es =>
    match (Data.find? "method" es).getD (.str []) with
    | .str s =>
      match Method.ofText? s with
      | some m => .ok m
      | none => .error (.unknownMethod (Text.upper s))
    | d => .error (.methodNotText d)
  | item => .error (.notObject item)

/-- A mapping as it is given: made already, or data that is still to be checked. -/
inductive Source
  | made (mapping : Mapping)
  | data (d : Data)

/-- The mapping that is given. -/
def Source.check : Source → Checked Mapping
  | .made mapping => .ok mapping
  | .data d => Mapping.ofData d

/-- The method that a list puts the item under. -/
def Source.listedUnder : Source → Except ListFault Method
  | .made mapping => .ok mapping.method
  | .data d => methodOfItem d

/-- The items under their methods, behind the methods that are taken. -/
def keyItems (taken : List Method) : List Source → Except ListFault (List (Key × Source))
  | [] => .ok []
  | item :: items =>
    match item.listedUnder with
    | .error f => .error f
    | .ok m =>
      if taken.contains m then .error (.repeated m)
      else
        match keyItems (m :: taken) items with
        | .error f => .error f
        | .ok es => .ok ((.str m.name, item) :: es)

/-- Mappings as they are given: a list, entries under keys, or what is neither. -/
inductive Sources
  | list (items : List Source)
  | dict (entries : List (Key × Source))
  | other

/-- Mappings that are given as data. -/
def Sources.ofData : Data → Sources
  | .list items => .list (items.map .data)
  | .dict es => .dict (es.map fun e => (e.1, .data e.2))
  | _ => .other

/-- The mappings that are given, under methods. -/
def Sources.table : Sources → Checked (List (Method × Mapping))
  | .list items =>
    match keyItems [] items with
    | .error f => Checked.problem (.refused f.message)
    | .ok es => Check.entries Method.ofData Source.check es
  | .dict es => Check.entries Method.ofData Source.check es
  | .other => Checked.problem .notDictionary

/-- The mappings of a field, which are none when there is no such field. -/
def Sources.field : Option Sources → Checked (List (Method × Mapping))
  | none => .ok []
  | some sources => Checked.within "mappings" sources.table

/-- The first method that a mapping stands under without declaring it. -/
def misplaced? (table : List (Method × Mapping)) : Option (Method × Mapping) :=
  table.find? fun (m, mapping) => mapping.method ≠ m

end Mapping

namespace Specification

/-- A specification whose mappings stand under the methods they declare. -/
def settle (s : Specification) : Checked Specification :=
  match Mapping.misplaced? s.mappings with
  | some (m, mapping) =>
    Checked.problem (.refused (("mapping registered under " : Text) ++ m.name ++
      " declares method " ++ mapping.method.name))
  | none => .ok s

/-- A specification from its fields, each with the problems that its own check has found. -/
def ofFields (payload : Checked Payload) (mappings : Checked (List (Method × Mapping)))
    (headers : Checked Headers) (skip : Checked Bool) : Checked Specification :=
  match Checked.both payload (Checked.both mappings (Checked.both headers skip)) with
  | .error p => .error p
  | .ok (payload, mappings, headers, skip) => settle ⟨payload, mappings, headers, skip⟩

/-- A specification. -/
def ofData : Data → Checked Specification :=
  Check.model "RequestParameters" fun es =>
    ofFields (Check.required "payload" Payload.ofData es)
      (Mapping.Sources.field ((Data.find? "mappings" es).map Mapping.Sources.ofData))
      (Check.optional "headers" Headers.ofData [] es)
      (Check.optional "insecure_skip_tls_verify" Check.truth false es)

/-- A specification with the given mappings and nothing else but a payload. -/
def ofMappings (payload : Payload) (mappings : List Mapping) : Checked Specification :=
  ofFields (.ok payload) (Mapping.Sources.field (some (.list (mappings.map .made)))) (.ok [])
    (.ok false)

end Specification

/-- A request that was sent. -/
def Request.ofData : Data → Checked Request :=
  Check.model "HttpRequest" fun es =>
    Checked.map (fun (method, url, body, headers) => ⟨method, url, body, headers⟩)
      (Checked.both (Check.optional "method" Check.text [] es)
        (Checked.both (Check.optional "url" Check.text [] es)
          (Checked.both (Check.optional "body" Check.text [] es)
            (Check.optional "headers" Headers.ofData [] es))))

/-- A response that was received. -/
def Response.ofData : Data → Checked Response :=
  Check.model "HttpResponse" fun es =>
    Checked.map (fun (status, body, headers) => ⟨status, body, headers⟩)
      (Checked.both (Check.optional "status_code" Check.whole 0 es)
        (Checked.both (Check.optional "body" Check.text [] es)
          (Check.optional "headers" Headers.ofData [] es)))

/-- An exchange. -/
def Exchange.ofData : Data → Checked Exchange :=
  Check.model "HttpDetails" fun es =>
    Checked.map (fun (request, response) => ⟨request, response⟩)
      (Checked.both (Check.optional "request" Request.ofData .empty es)
        (Check.optional "response" Response.ofData .empty es))

/-- A status. -/
def Status.ofData : Data → Checked Status :=
  Check.model "RequestStatus" fun es =>
    Checked.map (fun (request, response, failed, error) => ⟨request, response, failed, error⟩)
      (Checked.both (Check.optional "request_details" Request.ofData .empty es)
        (Checked.both (Check.optional "response" Response.ofData .empty es)
          (Checked.both (Check.optional "failed" Check.whole 0 es)
            (Check.optional "error" Check.text [] es))))

namespace Resource

/-- What reports call a resource. -/
def modelName : Text := "Resource"

/-- A resource. -/
def check : Data → Checked Resource :=
  Check.model modelName fun es =>
    Checked.map (fun (name, spec, status) => ⟨name, spec, status⟩)
      (Checked.both (Check.required "name" Check.text es)
        (Checked.both (Check.required "spec" Specification.ofData es)
          (Check.optional "status" Status.ofData .empty es)))

/-- A resource, or the report of all that is wrong with it. -/
def ofData (d : Data) : Except Report Resource :=
  match check d with
  | .ok r => .ok r
  | .error problems => .error ⟨modelName, problems⟩

end Resource

end DesiredState
