import DesiredState.Json.Value
import DesiredState.Number.Numeral
import DesiredState.Number.Shortest
import DesiredState.Text.Quoted

/-!
# Data from files

What a file or a stored document holds before it is checked against a schema. Unlike in JSON, the
keys of a dictionary may be scalars of any kind, and dates.

* `Key`: a key of a dictionary.
* `Data.ofJson`: JSON as data.
* `Data.typeName`: the word for the kind of a value in messages.
* `Data.isTruthy`: the value counts as set.
* `Data.quoted`, `Data.shown`: the value as messages show it.
* `Data.isWritable`: no whole number is in the way of showing it.
-/

namespace DesiredState

/-- A key of a dictionary. A date is kept as it is written. -/
inductive Key
  | scalar (s : Scalar)
  | date (written : Text)
  deriving DecidableEq

namespace Key

@[match_pattern] abbrev str (s : Text) : Key := .scalar (.str s)

/-- The number that a key is; a truth value is zero or one. -/
def number? : Key → Option Extended
  | .scalar (.bool b) => some (.finite (if b then 1 else 0))
  | .scalar s => s.number?
  | .date _ => none

/-- One key: numbers and truth values are equal when their exact values are. -/
def isSame (a b : Key) : Bool :=
  match a.number?, b.number? with
  | some x, some y => x = y
  | _, _ => a = b

end Key

/-- A value of a file. A date is kept as it is written. -/
inductive Data
  | scalar (s : Scalar)
  | date (written : Text)
  | list (items : List Data)
  | dict (entries : List (Key × Data))

/-- A key as a value. -/
def Key.toData : Key → Data
  | .scalar s => .scalar s
  | .date written => .date written

namespace Data

@[match_pattern] abbrev null : Data := .scalar .null
@[match_pattern] abbrev bool (b : Bool) : Data := .scalar (.bool b)
@[match_pattern] abbrev int (n : Int) : Data := .scalar (.int n)
@[match_pattern] abbrev float (x : Binary64) : Data := .scalar (.float x)
@[match_pattern] abbrev str (s : Text) : Data := .scalar (.str s)

instance : Inhabited Data := ⟨.null⟩

mutual

/-- JSON as data. -/
def ofJson : Json → Data
  | .scalar s => .scalar s
  | .arr items => .list (ofItems items)
  | .obj members => .dict (ofMembers members)

/-- JSON items as data. -/
def ofItems : List Json → List Data
  | [] => []
  | v :: vs => ofJson v :: ofItems vs

/-- JSON members as entries. -/
def ofMembers : List (Text × Json) → List (Key × Data)
  | [] => []
  | (k, v) :: ms => (.str k, ofJson v) :: ofMembers ms

end

/-- The value of a text key in a dictionary. -/
def find? (key : Text) : List (Key × Data) → Option Data
  | [] => none
  | (k, v) :: rest => if k = .str key then some v else find? key rest

/-- The entries with a key set, in its place if it had one. -/
def set (key : Key) (v : Data) : List (Key × Data) → List (Key × Data)
  | [] => [(key, v)]
  | (k, w) :: rest => if k.isSame key then (k, v) :: rest else (k, w) :: set key v rest

/-- The entries `base` with the entries `new` set one after the other. -/
def merge (base new : List (Key × Data)) : List (Key × Data) :=
  new.foldl (fun es (k, v) => set k v es) base

/-- The word for the kind of a value. -/
def typeName : Data → Text
  | .null => "NoneType"
  | .bool _ => "bool"
  | .int _ => "int"
  | .float _ => "float"
  | .str _ => "str"
  | .date written => if written.length = 10 then "date" else "datetime"
  | .list _ => "list"
  | .dict _ => "dict"

/-- The value counts as set: it is neither null, false, zero nor empty. -/
def isTruthy : Data → Bool
  | .null => false
  | .bool b => b
  | .int n => n != 0
  | .float x => !x.isZero
  | .str s => !s.isEmpty
  | .date _ => true
  | .list items => !items.isEmpty
  | .dict entries => !entries.isEmpty

/-- A scalar as messages show it inside a list or alone. -/
def quotedScalar : Scalar → Text
  | .null => "None"
  | .bool b => if b then "True" else "False"
  | .int n => Text.ofInt n
  | .float x => x.toText
  | .str s => Text.quoted s

/-- A key as messages show it. -/
def quotedKey : Key → Text
  | .scalar s => quotedScalar s
  | .date written => written

mutual

/-- The value with its texts between quotes. -/
def quoted : Data → Text
  | .scalar s => quotedScalar s
  | .date written => written
  | .list items => ("[" : Text) ++ Text.joinWith ", " (quotedItems items) ++ "]"
  | .dict entries => ("\x7b" : Text) ++ Text.joinWith ", " (quotedEntries entries) ++ "\x7d"

/-- Each item with its texts between quotes. -/
def quotedItems : List Data → List Text
  | [] => []
  | v :: vs => quoted v :: quotedItems vs

/-- Each entry with its texts between quotes. -/
def quotedEntries : List (Key × Data) → List Text
  | [] => []
  | (k, v) :: es => (quotedKey k ++ ": " ++ quoted v) :: quotedEntries es

end

/-- The value as text: a text is itself, anything else as `quoted`. -/
def shown : Data → Text
  | .str s => s
  | v => quoted v

/-- A key that is a whole number can be written out. -/
def isWritableKey : Key → Bool
  | .scalar (.int n) => Numeral.isWritable n
  | _ => true

mutual

/-- Every whole number in the value can be written out. -/
def isWritable : Data → Bool
  | .scalar (.int n) => Numeral.isWritable n
  | .scalar _ => true
  | .date _ => true
  | .list items => isWritableItems items
  | .dict entries => isWritableEntries entries

/-- `isWritable` for each item. -/
def isWritableItems : List Data → Bool
  | [] => true
  | v :: vs => isWritable v && isWritableItems vs

/-- `isWritable` for the key and the value of each entry. -/
def isWritableEntries : List (Key × Data) → Bool
  | [] => true
  | (k, v) :: es => isWritableKey k && isWritable v && isWritableEntries es

end

end Data

end DesiredState
