import DesiredState.Data.Value
import DesiredState.Number.Numeral
import DesiredState.Schema.Problem

/-!
# Checks of data

A check turns data into a value of a type, or gives all problems that it finds. Checks of several
parts run all of them, and their problems come in the order of the parts.

* `Checked.both`: two checks, with the problems of both.
* `Check.required`, `Check.optional`: a field of a dictionary.
* `Check.text`, `Check.truth`, `Check.whole`, `Check.real`, `Check.listOf`, `Check.table`: values.
* `Check.entries`: the entries of a table, whose values need not be data.
-/

namespace DesiredState.Schema

/-- A value, or the problems that stand in its way. -/
abbrev Checked (α : Type) := Except (List Problem) α

namespace Checked

/-- Both values, or the problems of both. -/
def both {α β : Type} (a : Checked α) (b : Checked β) : Checked (α × β) :=
  match a, b with
  | .ok x, .ok y => .ok (x, y)
  | .ok _, .error q => .error q
  | .error p, .ok _ => .error p
  | .error p, .error q => .error (p ++ q)

/-- The value under a function. -/
def map {α β : Type} (f : α → β) : Checked α → Checked β
  | .ok x => .ok (f x)
  | .error p => .error p

/-- A check of the part that `step` leads to. -/
def within {α : Type} (step : Text) : Checked α → Checked α
  | .ok x => .ok x
  | .error p => .error (p.map (Problem.within step))

/-- One problem at the place itself. -/
def problem {α : Type} (cause : Cause) : Checked α := .error [⟨[], cause⟩]

/-- All values of a list, or the problems of all. -/
def all {α : Type} : List (Checked α) → Checked (List α)
  | [] => .ok []
  | c :: cs => map (fun (x, xs) => x :: xs) (both c (all cs))

@[simp] theorem both_eq_ok_iff {α β : Type} {a : Checked α} {b : Checked β} {x : α} {y : β} :
    both a b = .ok (x, y) ↔ a = .ok x ∧ b = .ok y := by
  cases a <;> cases b <;> simp [both]

@[simp] theorem map_eq_ok_iff {α β : Type} {f : α → β} {a : Checked α} {y : β} :
    map f a = .ok y ↔ ∃ x, a = .ok x ∧ f x = y := by
  cases a <;> simp [map]

@[simp] theorem within_eq_ok_iff {α : Type} {step : Text} {a : Checked α} {x : α} :
    within step a = .ok x ↔ a = .ok x := by
  cases a <;> simp [within]

end Checked

namespace Check

/-- A text. Nothing else is taken for one. -/
def text : Data → Checked Text
  | .str s => .ok s
  | _ => Checked.problem .notText

/-- The words for true and false, in any case. -/
def truthOfWord? (t : Text) : Option Bool :=
  let t := Text.asciiLower t
  if t = "true" ∨ t = "t" ∨ t = "yes" ∨ t = "y" ∨ t = "on" ∨ t = "1" then some true
  else if t = "false" ∨ t = "f" ∨ t = "no" ∨ t = "n" ∨ t = "off" ∨ t = "0" then some false
  else none

/-- A truth value, one of its words, or one of the numbers zero and one. -/
def truth : Data → Checked Bool
  | .bool b => .ok b
  | .int n =>
    if n = 0 then .ok false else if n = 1 then .ok true else Checked.problem .unclearTruth
  | .float x =>
    if x.isZero then .ok false
    else if x = Binary64.one then .ok true
    else Checked.problem .notTruth
  | .str s =>
    match truthOfWord? s with
    | some b => .ok b
    | none => Checked.problem .unclearTruth
  | _ => Checked.problem .notTruth

/-- A whole number, a number without fraction, a truth value, or a numeral. -/
def whole : Data → Checked Int
  | .int n => .ok n
  | .bool b => .ok (if b then 1 else 0)
  | .float x =>
    if !x.isFinite then Checked.problem .notFinite
    else
      match x.toInt? with
      | some n => .ok n
      | none => Checked.problem .fractional
  | .str s =>
    match Numeral.whole? s with
    | some n => .ok n
    | none => Checked.problem .unclearWhole
  | _ => Checked.problem .notWhole

/-- A number, a truth value, or a numeral. -/
def real : Data → Checked Binary64
  | .float x => .ok x
  | .int n =>
    match Binary64.ofInt? n with
    | some x => .ok x
    | none => Checked.problem .notNumber
  | .bool b => .ok (if b then Binary64.one else Binary64.zero false)
  | .str s =>
    match Numeral.asciiReal? s with
    | some x => .ok x
    | none => Checked.problem .unclearNumber
  | _ => Checked.problem .notNumber

/-- A number greater than zero. -/
def positive (d : Data) : Checked Binary64 :=
  match real d with
  | .error p => .error p
  | .ok x => if x.isPositive then .ok x else Checked.problem .notPositive

/-- One of the given words. -/
def literal (words : List Text) : Data → Checked Text
  | .str s => if words.contains s then .ok s else Checked.problem (.notLiteral words)
  | _ => Checked.problem (.notLiteral words)

/-- Nothing, or what another check accepts. -/
def nullable {α : Type} (check : Data → Checked α) : Data → Checked (Option α)
  | .null => .ok none
  | d => Checked.map some (check d)

/-- The checks of items, each under its number. -/
def numbered {α : Type} (check : Data → Checked α) : Nat → List Data → List (Checked α)
  | _, [] => []
  | i, d :: ds => Checked.within (Text.decimal i) (check d) :: numbered check (i + 1) ds

/-- A list whose items pass a check. -/
def listOf {α : Type} (check : Data → Checked α) : Data → Checked (List α)
  | .list items => Checked.all (numbered check 0 items)
  | _ => Checked.problem .notList

/-- A key as it stands in places: truth values as numbers, and for each surrogate the three marks
that stand for its bytes. -/
def keyText : Key → Text
  | .scalar (.bool b) => if b then "1" else "0"
  | .str t =>
    t.flatMap fun c => if c.isSurrogate then List.replicate 3 (CodePoint.ofNat 0xFFFD) else [c]
  | k => Data.quotedKey k

/-- An entry of a table: its key is checked first, under the place of the entry. -/
def entry {κ σ α : Type} (key : Data → Checked κ) (value : σ → Checked α)
    (e : Key × σ) : Checked (κ × α) :=
  Checked.within (keyText e.1)
    (Checked.both (Checked.within "[key]" (key e.1.toData)) (value e.2))

/-- Entries whose keys and values pass checks. -/
def entries {κ σ α : Type} [DecidableEq κ] (key : Data → Checked κ) (value : σ → Checked α)
    (es : List (Key × σ)) : Checked (List (κ × α)) :=
  Checked.map Entries.ofPairs (Checked.all (es.map (entry key value)))

/-- A dictionary whose keys and values pass checks. -/
def table {κ α : Type} [DecidableEq κ] (key : Data → Checked κ) (value : Data → Checked α) :
    Data → Checked (List (κ × α))
  | .dict es => entries key value es
  | _ => Checked.problem .notDictionary

/-- A field that must be there. -/
def required {α : Type} (name : Text) (check : Data → Checked α)
    (entries : List (Key × Data)) : Checked α :=
  Checked.within name
    (match Data.find? name entries with
    | some d => check d
    | none => Checked.problem .missing)

/-- A field with a default. -/
def optional {α : Type} (name : Text) (check : Data → Checked α) (default : α)
    (entries : List (Key × Data)) : Checked α :=
  match Data.find? name entries with
  | some d => Checked.within name (check d)
  | none => .ok default

/-- A dictionary that holds the fields of a model. -/
def model {α : Type} (name : Text) (fields : List (Key × Data) → Checked α) :
    Data → Checked α
  | .dict entries => fields entries
  | _ => Checked.problem (.notModel name)

end Check

end DesiredState.Schema
