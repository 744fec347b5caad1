import DesiredState.Number.Numeral

/-!
# Faults in JSON text

What can be wrong with a text that should be JSON, and how it is said. A fault of form has a
place, which is kept as the text that remains from there on; the message counts lines, columns and
code points in the whole text.
-/

namespace DesiredState.Json

/-- A fault of form. -/
inductive FormFault
  | expectingValue
  | extraData
  | expectingName
  | expectingColon
  | expectingComma
  | unterminatedString
  | controlCharacter
  | badEscape
  | badUnicodeEscape
  | byteOrderMark
  deriving DecidableEq

/-- Why a text is refused. -/
inductive Fault
  | form (fault : FormFault) (rest : Text)
  | constant (name : Text)
  | tooManyDigits (count : Nat)
  | tooManyOpen
  | tooDeep
  deriving DecidableEq

/-- The most containers a decoded value may nest. -/
def maxDepth : Nat := 256

/-- The most containers that may be open while a text is read. -/
def maxOpen : Nat := 990

/-- What a fault of form says. -/
def FormFault.message : FormFault → Text
  | .expectingValue => "Expecting value"
  | .extraData => "Extra data"
  | .expectingName => "Expecting property name enclosed in double quotes"
  | .expectingColon => "Expecting ':' delimiter"
  | .expectingComma => "Expecting ',' delimiter"
  | .unterminatedString => "Unterminated string starting at"
  | .controlCharacter => "Invalid control character at"
  | .badEscape => "Invalid \\escape"
  | .badUnicodeEscape => "Invalid \\uXXXX escape"
  | .byteOrderMark => "Unexpected UTF-8 BOM (decode using utf-8-sig)"

/-- The line and column, counted from one, of the place behind `before`. -/
def lineAndColumn (before : Text) : Nat × Nat :=
  let newline := CodePoint.ofChar '\n'
  (before.count newline + 1, (before.reverse.takeWhile (· ≠ newline)).length + 1)

/-- What a fault says about the text `whole`. -/
def Fault.message (whole : Text) : Fault → Text
  | .form fault rest =>
    let offset := whole.length - rest.length
    let (line, column) := lineAndColumn (whole.take offset)
    fault.message ++ ": line " ++ Text.decimal line ++ " column " ++ Text.decimal column ++
      " (char " ++ Text.decimal offset ++ ")"
  | .constant name => ("non-standard JSON constant: " : Text) ++ name
  | .tooManyDigits count => Numeral.excessMessage count
  | .tooManyOpen => "JSON nesting is too deep to decode"
  | .tooDeep => "JSON nesting is deeper than 256 levels"

end DesiredState.Json
