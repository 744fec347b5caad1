import DesiredState.Json.Token
import DesiredState.Number.Shortest

/-!
# Writing JSON text

Everything outside the visible ASCII characters and the space is escaped, so that the text is one
line of ASCII. Numbers that are not finite are written as the constants `NaN`, `Infinity` and
`-Infinity`.

* `Json.encode`: on one line, with a blank behind commas and colons.
* `Json.encodeIndented`: one item or member a line.
* `Json.isWritable`: no whole number in the value has too many digits.
-/

namespace DesiredState.Json

/-- One code point of at most sixteen bits as an escape. -/
def unicodeEscape (n : Nat) : Text := ("\\u" : Text) ++ Text.hex 4 n

/-- The form of a code point inside a string. -/
def encodePoint (c : CodePoint) : Text :=
  if c = quote ∨ c = backslash then [backslash, c]
  else if c.val = 0x0A then "\\n"
  else if c.val = 0x0D then "\\r"
  else if c.val = 0x09 then "\\t"
  else if c.val = 0x0C then "\\f"
  else if c.val = 0x08 then "\\b"
  else if 0x20 ≤ c.val ∧ c.val ≤ 0x7E then [c]
  else if c.val < 0x10000 then unicodeEscape c.val
  else
    let n := c.val - 0x10000
    unicodeEscape (0xD800 + n / 0x400) ++ unicodeEscape (0xDC00 + n % 0x400)

/-- A string between its quotes. -/
def encodeString (s : Text) : Text := quote :: s.flatMap encodePoint ++ [quote]

/-- A floating point number, or the constant that stands for it. -/
def encodeFloat : Binary64 → Text
  | .nan => "NaN"
  | .infinite negative => if negative then "-Infinity" else "Infinity"
  | x => x.toText

/-- A scalar. -/
def encodeScalar : Scalar → Text
  | .null => "null"
  | .bool b => if b then "true" else "false"
  | .int n => Text.ofInt n
  | .float x => encodeFloat x
  | .str s => encodeString s

mutual

/-- A value on one line. -/
def encode : Json → Text
  | .scalar s => encodeScalar s
  | .arr items => ("[" : Text) ++ encodeItems items ++ "]"
  | .obj members => ("\x7b" : Text) ++ encodeMembers members ++ "\x7d"

/-- Items with commas between them. -/
def encodeItems : List Json → Text
  | [] => []
  | [v] => encode v
  | v :: vs => encode v ++ ", " ++ encodeItems vs

/-- Members with commas between them. -/
def encodeMembers : List (Text × Json) → Text
  | [] => []
  | [(k, v)] => encodeString k ++ ": " ++ encode v
  | (k, v) :: ms => encodeString k ++ ": " ++ encode v ++ ", " ++ encodeMembers ms

end

/-- A line break and the indentation of a level. -/
def lineBreak (step level : Nat) : Text :=
  CodePoint.ofChar '\n' :: List.replicate (step * level) (CodePoint.ofChar ' ')

mutual

/-- A value with each item and member on a line of its own, indented by `step` for each level.
Empty containers stay on one line. -/
def encodeIndented (step level : Nat) : Json → Text
  | .scalar s => encodeScalar s
  | .arr items =>
    if items.isEmpty then "[]"
    else ("[" : Text) ++ encodeIndentedItems step (level + 1) items ++ lineBreak step level ++ "]"
  | .obj members =>
    if members.isEmpty then "\x7b\x7d"
    else
      ("\x7b" : Text) ++ encodeIndentedMembers step (level + 1) members ++ lineBreak step level ++
        "\x7d"

/-- Items, each on its line. -/
def encodeIndentedItems (step level : Nat) : List Json → Text
  | [] => []
  | [v] => lineBreak step level ++ encodeIndented step level v
  | v :: vs =>
    lineBreak step level ++ encodeIndented step level v ++ "," ++
      encodeIndentedItems step level vs

/-- Members, each on its line. -/
def encodeIndentedMembers (step level : Nat) : List (Text × Json) → Text
  | [] => []
  | [(k, v)] => lineBreak step level ++ encodeString k ++ ": " ++ encodeIndented step level v
  | (k, v) :: ms =>
    lineBreak step level ++ encodeString k ++ ": " ++ encodeIndented step level v ++ "," ++
      encodeIndentedMembers step level ms

end

mutual

/-- Every whole number in the value can be written out. -/
def isWritable : Json → Bool
  | .scalar (.int n) => DesiredState.Numeral.isWritable n
  | .scalar _ => true
  | .arr items => isWritableItems items
  | .obj members => isWritableMembers members

/-- `isWritable` for each item. -/
def isWritableItems : List Json → Bool
  | [] => true
  | v :: vs => isWritable v && isWritableItems vs

/-- `isWritable` for the value of each member. -/
def isWritableMembers : List (Text × Json) → Bool
  | [] => true
  | (_, v) :: ms => isWritable v && isWritableMembers ms

end

end DesiredState.Json
