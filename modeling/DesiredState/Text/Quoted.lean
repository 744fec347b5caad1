import DesiredState.Text.Printable

/-!
# Quoted text

Text as a message shows it: between single quotes, or between double quotes when it has a single
quote and no double one. Backslashes, the quote in use and whatever is not printable are escaped.
-/

namespace DesiredState.Text

/-- The form of one code point inside the given quotes. -/
def quotedForm (quote c : CodePoint) : Text :=
  if c = quote ∨ c.val = 0x5C then [CodePoint.ofNat 0x5C, c]
  else if c.val = 0x09 then "\\t"
  else if c.val = 0x0A then "\\n"
  else if c.val = 0x0D then "\\r"
  else if c.isPrintable then [c]
  else if c.val < 0x100 then ("\\x" : Text) ++ hex 2 c.val
  else if c.val < 0x10000 then ("\\u" : Text) ++ hex 4 c.val
  else ("\\U" : Text) ++ hex 8 c.val

/-- The text between quotes. -/
def quoted (t : Text) : Text :=
  let single : CodePoint := CodePoint.ofNat 0x27
  let double : CodePoint := CodePoint.ofNat 0x22
  let quote := if t.contains single && !t.contains double then double else single
  quote :: t.flatMap (quotedForm quote) ++ [quote]

end DesiredState.Text
