import DesiredState.Entries
import DesiredState.Json.Value
import DesiredState.Number.Numeral

/-!
# Paths into a JSON value

A path is a sequence of segments: a point and a name, or an index between brackets. The path `.`
alone is the whole value. The index digits may be of any script.

* `Path.scan`: the segments at the beginning of a path, and what follows them.
* `Path.lookup`: the value at a path.
-/

namespace DesiredState.Path

/-- One step into a value. -/
inductive Segment
  | key (name : Text)
  | index (digits : Text)
  deriving DecidableEq

/-- The first code point of a name. -/
def isNameStart (c : CodePoint) : Bool := c.isAsciiLetter || c.val == 0x5F

/-- A code point inside a name. -/
def isNamePart (c : CodePoint) : Bool :=
  c.isAsciiLetter || c.isAsciiDigit || c.val == 0x5F || c.val == 0x2D

/-- The segment at the beginning of a text, as long as possible, and what follows it. -/
def scanSegment? : Text → Option (Segment × Text)
  | [] => none
  | c :: t =>
    if c = '.' then
      match t with
      | [] => none
      | d :: _ =>
        if isNameStart d then some (.key (t.takeWhile isNamePart), t.dropWhile isNamePart)
        else none
    else if c = '[' then
      match t.takeWhile CodePoint.isDecimal, t.dropWhile CodePoint.isDecimal with
      | d :: ds, e :: rest => if e = ']' then some (.index (d :: ds), rest) else none
      | _, _ => none
    else none

/-- At most `fuel` segments at the beginning of a text, and what follows them. -/
def scanFrom : (fuel : Nat) → Text → List Segment × Text
  | 0, t => ([], t)
  | fuel + 1, t =>
    match scanSegment? t with
    | none => ([], t)
    | some (s, rest) =>
      let (segments, rest) := scanFrom fuel rest
      (s :: segments, rest)

/-- The segments at the beginning of a text, and what follows them. -/
def scan (t : Text) : List Segment × Text := scanFrom t.length t

/-- The number that decimal digits of any script spell. -/
def indexValue (digits : Text) : Nat :=
  digits.foldl (fun n c => n * 10 + (c.decimalVal?).getD 0) 0

/-- An index has so many digits that it is not read as a number. -/
structure LongIndex where
  digits : Nat
  deriving DecidableEq

/-- One step into a value, if the value has that part. -/
def step (v : Json) : Segment → Except LongIndex (Option Json)
  | .key name =>
    match v with
    | .obj members => .ok (Entries.find? name members)
    | _ => .ok none
  | .index digits =>
    if Numeral.maxDigits < digits.length then .error ⟨digits.length⟩
    else
      match v with
      | .arr items => .ok items[indexValue digits]?
      | _ => .ok none

/-- The value that is reached step by step. -/
def walk (v : Json) : List Segment → Except LongIndex (Option Json)
  | [] => .ok (some v)
  | s :: segments =>
    match step v s with
    | .error e => .error e
    | .ok none => .ok none
    | .ok (some w) => walk w segments

/-- The value at a path, if all of the path is segments and each step exists. -/
def lookup (v : Json) (path : Text) : Except LongIndex (Option Json) :=
  if path = "." then .ok (some v)
  else
    let (segments, rest) := scan path
    match walk v segments with
    | .error e => .error e
    | .ok w => .ok (if rest.isEmpty then w else none)

end DesiredState.Path
