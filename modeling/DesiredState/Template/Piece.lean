import DesiredState.Text.Blank

/-!
# Templates as pieces

A template is literal code points and expressions. An expression is two opening braces, blanks, a
path, blanks and two closing braces; a path begins with a point and has no braces. Expressions are
found from the left.

* `Template.scanExpression?`: the expression at the beginning of a text.
* `Template.pieces`: the pieces of a template.
-/

namespace DesiredState.Template

/-- A part of a template. -/
inductive Piece
  | literal (c : CodePoint)
  | expression (path : Text)
  deriving DecidableEq

/-- An opening or closing brace. -/
def isBrace (c : CodePoint) : Bool := c.val = 0x7B || c.val = 0x7D

/-- The path of the expression at the beginning of a text, without the blanks around it, and what
follows the expression. -/
def scanExpression? (t : Text) : Option (Text × Text) :=
  match Text.cut? "\x7b\x7b" t with
  | none => none
  | some t =>
    let t := Text.trimStart t
    match Text.cut? "." t with
    | none => none
    | some _ =>
      match Text.cut? "\x7d\x7d" (t.dropWhile fun c => !isBrace c) with
      | none => none
      | some rest => some (Text.trimEnd (t.takeWhile fun c => !isBrace c), rest)

/-- The pieces of a text behind its first `skip` code points. -/
def piecesAfter : (skip : Nat) → Text → List Piece
  | _, [] => []
  | skip + 1, _ :: t => piecesAfter skip t
  | 0, c :: t =>
    match scanExpression? (c :: t) with
    | some (path, rest) => .expression path :: piecesAfter (t.length - rest.length) t
    | none => .literal c :: piecesAfter 0 t

/-- The pieces of a template. -/
def pieces (t : Text) : List Piece := piecesAfter 0 t

/-- The paths of a template's expressions, from left to right. -/
def paths (t : Text) : List Text :=
  (pieces t).filterMap fun
    | .literal _ => none
    | .expression path => some path

theorem piecesAfter_eq_drop (skip : Nat) (t : Text) :
    piecesAfter skip t = pieces (t.drop skip) := by
  induction t generalizing skip with
  | nil => cases skip <;> simp [piecesAfter, pieces]
  | cons c t ih =>
    cases skip with
    | zero => rfl
    | succ skip => rw [piecesAfter, ih, List.drop_succ_cons]

end DesiredState.Template
