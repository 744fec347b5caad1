import DesiredState.Text.Basic

/-!
# A cursor in YAML text

Where reading stands: what follows, how far it is from the beginning, and the line and column,
which the layout depends on. Four code points end a line.

* `Cursor.advance`: some code points further on.
* `isMarker`: a line that begins or ends a document.
* `gapLength`: the blanks, comments and line ends before the next token.
-/

namespace DesiredState.Yaml

/-- What is wrong with a text: its form, a number with too many digits, one with none behind the
mark of its base, an escape for a number that is no code point, a date that is not in the calendar,
a power of sixty that no floating point number is near to, or too many collections inside of one
another. -/
inductive Fault
  | malformed (reason : Text)
  | excess (digits : Nat)
  | noDigits (base : Nat)
  | notPoint (value : Nat)
  | noDate (reason : Text)
  | tooLarge
  | tooDeep
  deriving DecidableEq

/-- The fault is that a number does not fit in a word: not even in one of 32 bits for a code point,
or not in a floating point number. -/
def Fault.isOverflow : Fault → Bool
  | .notPoint value => 0x80000000 ≤ value
  | .tooLarge => true
  | _ => false

/-- The fault is one of the text. A number that does not fit in a word is not, and neither is a
nesting for which there is no room. -/
def Fault.isReported (f : Fault) : Bool := !f.isOverflow && f != .tooDeep

/-- A code point that ends a line. -/
def isBreak (c : CodePoint) : Bool :=
  c.val = 0x0A || c.val = 0x85 || c.val = 0x2028 || c.val = 0x2029

/-- A space or a tab. -/
def isSpacing (c : CodePoint) : Bool := c.val = 0x20 || c.val = 0x09

/-- A code point that ends a word. -/
def isGap (c : CodePoint) : Bool := isSpacing c || isBreak c

/-- The code point is one of those in a string. -/
def isOneOf (s : String) (c : CodePoint) : Bool := (Text.ofString s).contains c

/-- A code point that a line end leaves in a scalar. -/
def keptBreak (c : CodePoint) : CodePoint :=
  if c.val = 0x85 then CodePoint.ofNat 0x0A else c

/-- A mark at the beginning of a text, which has no width. -/
def isByteOrderMark (c : CodePoint) : Bool := c.val = 0xFEFF

/-- A code point that a text may have. -/
def isAllowed (c : CodePoint) : Bool :=
  c.val = 0x09 || c.val = 0x0A || c.val = 0x0D || (0x20 ≤ c.val && c.val ≤ 0x7E) ||
    c.val = 0x85 || (0xA0 ≤ c.val && c.val ≤ 0xD7FF) || (0xE000 ≤ c.val && c.val ≤ 0xFFFD) ||
    0x10000 ≤ c.val

/-- Where reading stands. -/
structure Cursor where
  rest : Text
  index : Nat
  line : Nat
  column : Nat

namespace Cursor

/-- The beginning of a text. -/
def start (t : Text) : Cursor := ⟨t, 0, 0, 0⟩

/-- One code point further on. -/
def step (c : Cursor) : Cursor :=
  match c.rest with
  | [] => c
  | x :: rest =>
    if isBreak x then ⟨rest, c.index + 1, c.line + 1, 0⟩
    else ⟨rest, c.index + 1, c.line, if isByteOrderMark x then c.column else c.column + 1⟩

/-- Some code points further on. -/
def advance (c : Cursor) : Nat → Cursor
  | 0 => c
  | n + 1 => c.step.advance n

/-- The next code point satisfies a test. -/
def nextIs (c : Cursor) (p : CodePoint → Bool) : Bool :=
  match c.rest with
  | [] => false
  | x :: _ => p x

/-- The next code point is `x`. -/
def isAt (c : Cursor) (x : CodePoint) : Bool := c.nextIs (· = x)

end Cursor

/-- A word ends before this text. -/
def endsWord : Text → Bool
  | [] => true
  | c :: _ => isGap c

/-- A line that begins a document starts with this text. -/
def isDocumentStart (t : Text) : Bool :=
  match Text.cut? "---" t with
  | some rest => endsWord rest
  | none => false

/-- A line that ends a document starts with this text. -/
def isDocumentEnd (t : Text) : Bool :=
  match Text.cut? "..." t with
  | some rest => endsWord rest
  | none => false

/-- A line that begins or ends a document starts with this text. -/
def isMarker (t : Text) : Bool := isDocumentStart t || isDocumentEnd t

/-- How many code points are before the next token: spaces, line ends, and comments. -/
def gapLength (comment : Bool) : Text → Nat
  | [] => 0
  | c :: t =>
    if isBreak c then gapLength false t + 1
    else if comment then gapLength true t + 1
    else if c.val = 0x20 then gapLength false t + 1
    else if c = '#' then gapLength true t + 1
    else 0

end DesiredState.Yaml
