import DesiredState.Data.Value
import DesiredState.Entries
import DesiredState.Text.Utf8

/-!
# Environment variables in texts

References to environment variables are replaced from left to right. A reference is a dollar sign
and, between braces, a name, or a name and a default behind `:-`. A name is not empty and has
neither a closing brace nor a colon; a default ends at the first closing brace and has no line
feed. An unset or empty variable gives the default, and without one nothing. What is inserted is
not looked at again. A variable whose name has no encoding cannot be looked up.

* `Reference.scan?`: the reference at the beginning of a text.
* `Environment.interpolate`: a text with its references replaced.
* `Environment.interpolateData`: all texts of a value but its keys.
-/

namespace DesiredState

/-- The values of variables. -/
abbrev Environment := List (Text × Text)

/-- A reference to a variable. -/
structure Reference where
  name : Text
  default : Option Text
  deriving DecidableEq

namespace Reference

/-- A code point that may stand in a name. -/
def isNamePart (c : CodePoint) : Bool := c.val != 0x7D && c.val != 0x3A

/-- The default behind a name, up to the first closing brace, and what follows the brace. -/
def scanDefault? (t : Text) : Option (Text × Text) :=
  let default := t.takeWhile (·.val != 0x7D)
  match t.dropWhile (·.val != 0x7D) with
  | [] => none
  | _ :: rest => if default.any (·.val == 0x0A) then none else some (default, rest)

/-- The reference at the beginning of a text, and what follows it. -/
def scan? (t : Text) : Option (Reference × Text) :=
  match Text.cut? "$\x7b" t with
  | none => none
  | some t =>
    match t.takeWhile isNamePart with
    | [] => none
    | c :: name =>
      let rest := t.dropWhile isNamePart
      match Text.cut? "\x7d" rest, Text.cut? ":-" rest with
      | some rest, _ => some (⟨c :: name, none⟩, rest)
      | none, some rest =>
        (scanDefault? rest).map fun (default, rest) => (⟨c :: name, some default⟩, rest)
      | none, none => none

end Reference

namespace Environment

/-- The value of a variable. -/
def get? (env : Environment) (name : Text) : Option Text := Entries.find? name env

/-- What replaces a reference. -/
def resolve (env : Environment) (r : Reference) : Except Utf8Fault Text :=
  match Text.systemFault? r.name with
  | some fault => .error fault
  | none =>
    match env.get? r.name with
    | some (c :: value) => .ok (c :: value)
    | _ => .ok (r.default.getD [])

/-- A text with its references replaced, behind its first `skip` code points. -/
def interpolateAfter (env : Environment) : (skip : Nat) → Text → Except Utf8Fault Text
  | _, [] => .ok []
  | skip + 1, _ :: t => interpolateAfter env skip t
  | 0, c :: t =>
    match Reference.scan? (c :: t) with
    | some (r, rest) => do
      let value ← env.resolve r
      return value ++ (← interpolateAfter env (t.length - rest.length) t)
    | none => do return c :: (← interpolateAfter env 0 t)

/-- A text with its references replaced. -/
def interpolate (env : Environment) (t : Text) : Except Utf8Fault Text := interpolateAfter env 0 t

mutual

/-- A value with the references in its texts replaced. Keys stay as they are. -/
def interpolateData (env : Environment) : Data → Except Utf8Fault Data
  | .scalar (.str s) => do return .str (← env.interpolate s)
  | .scalar s => .ok (.scalar s)
  | .date written => .ok (.date written)
  | .list items => do return .list (← interpolateItems env items)
  | .dict entries => do return .dict (← interpolateEntries env entries)

/-- Each item with its references replaced. -/
def interpolateItems (env : Environment) : List Data → Except Utf8Fault (List Data)
  | [] => .ok []
  | v :: vs => do return (← interpolateData env v) :: (← interpolateItems env vs)

/-- Each entry with the references in its value replaced. -/
def interpolateEntries (env : Environment) :
    List (Key × Data) → Except Utf8Fault (List (Key × Data))
  | [] => .ok []
  | (k, v) :: es => do return (k, ← interpolateData env v) :: (← interpolateEntries env es)

end

end Environment

end DesiredState
