import DesiredState.Entries
import DesiredState.Number.Binary64

/-!
# JSON values

Scalars, arrays and objects. Whole numbers are exact and of any size; numbers with a fraction or
an exponent are 64-bit floating point numbers. The members of an object keep their order.

* `Scalar.same`: equality of scalars; numbers are equal when their exact values are.
* `Json.depth`: how deep arrays and objects nest.
* `Json.Distinct`: no object repeats a name.
-/

namespace DesiredState

/-- A value without parts. -/
inductive Scalar
  | null
  | bool (b : Bool)
  | int (n : Int)
  | float (x : Binary64)
  | str (s : Text)
  deriving DecidableEq

namespace Scalar

/-- The exact value of a number. -/
def number? : Scalar → Option Extended
  | .int n => some (.finite n)
  | .float x => some x.value
  | _ => none

/-- Equal scalars of the same kind. A whole number equals a floating point number of exactly that
value, and truth values are not numbers. -/
def same : Scalar → Scalar → Bool
  | .null, .null => true
  | .bool a, .bool b => a == b
  | .str a, .str b => a == b
  | a, b =>
    match a.number?, b.number? with
    | some x, some y => x = y
    | _, _ => false

end Scalar

/-- A JSON value. -/
inductive Json
  | scalar (s : Scalar)
  | arr (items : List Json)
  | obj (members : List (Text × Json))

namespace Json

@[match_pattern] abbrev null : Json := .scalar .null
@[match_pattern] abbrev bool (b : Bool) : Json := .scalar (.bool b)
@[match_pattern] abbrev int (n : Int) : Json := .scalar (.int n)
@[match_pattern] abbrev float (x : Binary64) : Json := .scalar (.float x)
@[match_pattern] abbrev str (s : Text) : Json := .scalar (.str s)

instance : Inhabited Json := ⟨.null⟩

mutual

/-- How deep containers nest: nothing for a scalar, and one more than its parts for a container. -/
def depth : Json → Nat
  | .scalar _ => 0
  | .arr items => depthItems items + 1
  | .obj members => depthMembers members + 1

/-- The greatest depth among items. -/
def depthItems : List Json → Nat
  | [] => 0
  | v :: vs => max (depth v) (depthItems vs)

/-- The greatest depth among the values of members. -/
def depthMembers : List (Text × Json) → Nat
  | [] => 0
  | (_, v) :: ms => max (depth v) (depthMembers ms)

end

mutual

/-- No object in the value repeats a name. -/
def Distinct : Json → Prop
  | .scalar _ => True
  | .arr items => DistinctItems items
  | .obj members => (Entries.keys members).Nodup ∧ DistinctMembers members

/-- `Distinct` for each item. -/
def DistinctItems : List Json → Prop
  | [] => True
  | v :: vs => Distinct v ∧ DistinctItems vs

/-- `Distinct` for the value of each member. -/
def DistinctMembers : List (Text × Json) → Prop
  | [] => True
  | (_, v) :: ms => Distinct v ∧ DistinctMembers ms

end

/-- The members of an object, and nothing for any other value. -/
def members? : Json → Option (List (Text × Json))
  | .obj members => some members
  | _ => none

/-- The value is an object. -/
def isObject : Json → Bool
  | .obj _ => true
  | _ => false

end Json

end DesiredState
