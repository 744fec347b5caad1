import DesiredState.Text.Basic

/-!
# Problems with data

What a check of data against a schema can find. A problem has a place, the keys and item numbers
that lead to it from the outside in.

* `Problem.line`: a problem on one line.
* `Report`: all problems of a checked value, on several lines.
-/

namespace DesiredState.Schema

/-- What is wrong with a value. -/
inductive Cause
  | missing
  | notText
  | notList
  | notDictionary
  | notModel (model : Text)
  | notMember (members : List Text)
  | notLiteral (literals : List Text)
  | notTruth
  | unclearTruth
  | notWhole
  | unclearWhole
  | fractional
  | notNumber
  | unclearNumber
  | notPositive
  | notFinite
  | refused (message : Text)
  deriving DecidableEq

/-- The words in quotes, with commas and a final `or`. -/
def alternatives (words : List Text) : Text :=
  let quoted := words.map fun w => ("'" : Text) ++ w ++ "'"
  match quoted.reverse with
  | [] => []
  | [w] => w
  | last :: before => Text.joinWith ", " before.reverse ++ " or " ++ last

/-- The word for the kind of a cause. -/
def Cause.kind : Cause → Text
  | .missing => "missing"
  | .notText => "string_type"
  | .notList => "list_type"
  | .notDictionary => "dict_type"
  | .notModel _ => "model_type"
  | .notMember _ => "enum"
  | .notLiteral _ => "literal_error"
  | .notTruth => "bool_type"
  | .unclearTruth => "bool_parsing"
  | .notWhole => "int_type"
  | .unclearWhole => "int_parsing"
  | .fractional => "int_from_float"
  | .notNumber => "float_type"
  | .unclearNumber => "float_parsing"
  | .notPositive => "greater_than"
  | .notFinite => "finite_number"
  | .refused _ => "value_error"

/-- What a cause says. -/
def Cause.message : Cause → Text
  | .missing => "Field required"
  | .notText => "Input should be a valid string"
  | .notList => "Input should be a valid list"
  | .notDictionary => "Input should be a valid dictionary"
  | .notModel model => ("Input should be a valid dictionary or instance of " : Text) ++ model
  | .notMember members => ("Input should be " : Text) ++ alternatives members
  | .notLiteral literals => ("Input should be " : Text) ++ alternatives literals
  | .notTruth => "Input should be a valid boolean"
  | .unclearTruth => "Input should be a valid boolean, unable to interpret input"
  | .notWhole => "Input should be a valid integer"
  | .unclearWhole => "Input should be a valid integer, unable to parse string as an integer"
  | .fractional => "Input should be a valid integer, got a number with a fractional part"
  | .notNumber => "Input should be a valid number"
  | .unclearNumber => "Input should be a valid number, unable to parse string as a number"
  | .notPositive => "Input should be greater than 0"
  | .notFinite => "Input should be a finite number"
  | .refused message => ("Value error, " : Text) ++ message

/-- A cause and where it was found. -/
structure Problem where
  place : List Text
  cause : Cause
  deriving DecidableEq

namespace Problem

/-- The place with points between its steps. -/
def placeText (p : Problem) : Text := Text.joinWith "." p.place

/-- A problem on one line: place, message and kind. -/
def line (p : Problem) : Text :=
  p.placeText ++ ": " ++ p.cause.message ++ " [" ++ p.cause.kind ++ "]"

/-- A problem inside the part that `step` leads to. -/
def within (step : Text) (p : Problem) : Problem := ⟨step :: p.place, p.cause⟩

end Problem

/-- The problems that were found in a value of a model. -/
structure Report where
  model : Text
  problems : List Problem
  deriving DecidableEq

namespace Report

/-- One line for each problem. -/
def lines (r : Report) : Text := Text.joinWith "\n" (r.problems.map Problem.line)

/-- A heading with the number of problems, and for each its place, if it has one, and its message
on lines of their own. -/
def listing (r : Report) : Text :=
  let count := r.problems.length
  let plural : Text := if count = 1 then [] else "s"
  let heading := Text.decimal count ++ " validation error" ++ plural ++ " for " ++ r.model
  let entry (p : Problem) : Text :=
    (if p.place.isEmpty then [] else ("\n" : Text) ++ p.placeText) ++
      "\n  " ++ p.cause.message ++ " [type=" ++ p.cause.kind ++ "]"
  heading ++ r.problems.flatMap entry

end Report

end DesiredState.Schema
