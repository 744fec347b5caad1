import DesiredState.Json.Encode
import DesiredState.Template.Path
import DesiredState.Template.Piece

/-!
# Rendering templates

Each expression of a template is replaced by the value at its path; what is inserted is not
scanned again. Texts are inserted as they are, other scalars and containers as JSON, except that
numbers which are not finite keep their short words.

* `Json.inserted`: the text that stands for a value.
* `Template.render`: the rendered text and the paths without a value.
-/

namespace DesiredState

/-- The text that stands for a value in a rendered template. -/
def Json.inserted : Json → Text
  | .str s => s
  | .float x => x.toText
  | v => v.encode

namespace Template

/-- Why a template cannot be rendered. -/
inductive Fault
  | longIndex (index : Path.LongIndex)
  | unwritable
  deriving DecidableEq

/-- What a fault says. -/
def Fault.message : Fault → Text
  | .longIndex index => Numeral.excessMessage index.digits
  | .unwritable => Numeral.unwritableMessage

/-- A rendered text, and the paths that had no value, from left to right. -/
structure Rendered where
  text : Text
  unresolved : List Text

/-- What replaces an expression: the text of its value, or nothing and the path. -/
def renderPath (context : Json) (path : Text) : Except Fault Rendered :=
  match Path.lookup context path with
  | .error index => .error (.longIndex index)
  | .ok none => .ok ⟨[], [path]⟩
  | .ok (some v) => if v.isWritable then .ok ⟨v.inserted, []⟩ else .error .unwritable

/-- The rendered pieces one after the other. -/
def renderPieces (context : Json) : List Piece → Except Fault Rendered
  | [] => .ok ⟨[], []⟩
  | .literal c :: ps =>
    match renderPieces context ps with
    | .error f => .error f
    | .ok r => .ok ⟨c :: r.text, r.unresolved⟩
  | .expression path :: ps =>
    match renderPath context path with
    | .error f => .error f
    | .ok first =>
      match renderPieces context ps with
      | .error f => .error f
      | .ok r => .ok ⟨first.text ++ r.text, first.unresolved ++ r.unresolved⟩

/-- A template with the values of its expressions. -/
def render (context : Json) (template : Text) : Except Fault Rendered :=
  renderPieces context (pieces template)

end Template

end DesiredState
