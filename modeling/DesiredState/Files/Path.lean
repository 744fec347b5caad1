import DesiredState.Text.Basic

/-!
# File paths

A path is a lead of slashes and the names behind it. Empty names and single dots mean nothing and
are dropped when a path is read. A double dot stays: where it leads depends on what is stored
there. Two slashes in front are kept apart from one.

* `FilePath.ofText`, `FilePath.text`: paths read and written.
* `FilePath.normalized`: double dots taken away together with the names before them.
-/

namespace DesiredState

/-- A path: slashes in front, none for a path below the working directory, and names. -/
structure FilePath where
  lead : Text
  names : List Text
  deriving DecidableEq

namespace FilePath

/-- The code point between names. -/
def separator : CodePoint := '/'

/-- The name of the directory that holds a directory. -/
def up : Text := ".."

/-- A name that means something in a path. -/
def isName (name : Text) : Bool := name ≠ [] && name ≠ "."

/-- The slashes that a path begins with: none, two if it has exactly two, else one. -/
def leadOf (t : Text) : Text :=
  match (t.takeWhile (· = separator)).length with
  | 0 => ""
  | 2 => "//"
  | _ => "/"

/-- The path that a text spells. -/
def ofText (t : Text) : FilePath := ⟨leadOf t, (Text.splitAt separator t).filter isName⟩

/-- A path as text; a path without anything is a dot. -/
def text (p : FilePath) : Text :=
  if p.lead = [] ∧ p.names = [] then "." else p.lead ++ Text.joinWith [separator] p.names

/-- The path begins at the root. -/
def isAbsolute (p : FilePath) : Bool := p.lead ≠ []

/-- The path of a name inside a directory. -/
def child (p : FilePath) (name : Text) : FilePath := { p with names := p.names ++ [name] }

/-- The path of the directory that holds what the path names, written without a double dot. -/
def parent (p : FilePath) : FilePath := { p with names := p.names.dropLast }

/-- The path `q`, which begins at `p` unless it begins at the root. -/
def append (p q : FilePath) : FilePath :=
  if q.isAbsolute then q else { p with names := p.names ++ q.names }

/-- One more name behind names that are already normal, last one first. -/
def pushName (names : List Text) (name : Text) : List Text :=
  if name = up then names.tail else name :: names

/-- An absolute path without double dots. -/
def normalized (p : FilePath) : FilePath :=
  { p with names := (p.names.foldl pushName []).reverse }

theorem names_child (p : FilePath) (name : Text) : (p.child name).names = p.names ++ [name] := rfl

theorem parent_child (p : FilePath) (name : Text) : (p.child name).parent = p := by
  simp [parent, child]

end FilePath

end DesiredState
