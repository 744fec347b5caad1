import DesiredState.Json.Fault
import DesiredState.Json.Value

/-!
# Strings and numbers in JSON text

The two kinds of token with an inner form. A string is read as units, each a literal code point or
an escape; then the escapes of surrogate pairs are joined. A number is the longest beginning that
has the form of one.

* `Json.scanString`: the string behind an opening quote.
* `Json.Numeral.scan?`: the number at the beginning of a text.
-/

namespace DesiredState.Json

def quote : CodePoint := CodePoint.ofNat 0x22
def backslash : CodePoint := CodePoint.ofNat 0x5C

/-- One unit of a string: a code point that stands for itself, or an escape. -/
inductive StringUnit
  | literal (c : CodePoint)
  | escaped (c : CodePoint)
  deriving DecidableEq

/-- The code point that a one-letter escape stands for. -/
def shortEscape? (e : CodePoint) : Option CodePoint :=
  if e = quote ∨ e = backslash ∨ e = '/' then some e
  else if e = 'b' then some (CodePoint.ofNat 0x08)
  else if e = 'f' then some (CodePoint.ofNat 0x0C)
  else if e = 'n' then some (CodePoint.ofNat 0x0A)
  else if e = 'r' then some (CodePoint.ofNat 0x0D)
  else if e = 't' then some (CodePoint.ofNat 0x09)
  else none

/-- The number that four hexadecimal digits spell. -/
def hex4? (a b c d : CodePoint) : Option Nat := do
  let a ← a.hexVal?
  let b ← b.hexVal?
  let c ← c.hexVal?
  let d ← d.hexVal?
  return ((a * 16 + b) * 16 + c) * 16 + d

/-- The units up to the closing quote, and what follows it. `start` is the text from the opening
quote on. -/
def scanUnits (start : Text) : Text → Except Fault (List StringUnit × Text)
  | [] => .error (.form .unterminatedString start)
  | c :: t =>
    if c = quote then .ok ([], t)
    else if c = backslash then
      match t with
      | [] => .error (.form .unterminatedString start)
      | e :: r =>
        if e = 'u' then
          match r with
          | h₁ :: h₂ :: h₃ :: h₄ :: r =>
            match hex4? h₁ h₂ h₃ h₄ with
            | some n =>
              if r.isEmpty then .error (.form .badUnicodeEscape t)
              else
                match scanUnits start r with
                | .ok (units, rest) => .ok (.escaped (CodePoint.ofNat n) :: units, rest)
                | .error f => .error f
            | none => .error (.form .badUnicodeEscape t)
          | _ => .error (.form .badUnicodeEscape t)
        else
          match shortEscape? e with
          | some x =>
            match scanUnits start r with
            | .ok (units, rest) => .ok (.literal x :: units, rest)
            | .error f => .error f
          | none => .error (.form .badEscape (c :: t))
    else if c.val < 0x20 then .error (.form .controlCharacter (c :: t))
    else
      match scanUnits start t with
      | .ok (units, rest) => .ok (.literal c :: units, rest)
      | .error f => .error f

/-- The code point that a surrogate pair stands for. -/
def joinPair (high low : CodePoint) : CodePoint :=
  CodePoint.ofNat (0x10000 + (high.val - 0xD800) * 0x400 + (low.val - 0xDC00))

/-- The text of the units: two escapes that form a surrogate pair are one code point. -/
def joinUnits : List StringUnit → Text
  | [] => []
  | .literal c :: us => c :: joinUnits us
  | .escaped h :: .escaped l :: us =>
    if h.isHighSurrogate && l.isLowSurrogate then joinPair h l :: joinUnits us
    else h :: joinUnits (.escaped l :: us)
  | .escaped h :: us => h :: joinUnits us

/-- The string behind an opening quote, and what follows its closing quote. -/
def scanString (start t : Text) : Except Fault (Text × Text) :=
  match scanUnits start t with
  | .ok (units, rest) => .ok (joinUnits units, rest)
  | .error f => .error f

/-- A number as it is written. -/
structure Numeral where
  negative : Bool
  whole : Text
  fraction : Option Text
  exponent : Option (Bool × Text)

namespace Numeral

open DesiredState.Numeral (digits maxDigits)

/-- The whole part: a zero, or digits that begin with another. -/
def scanWhole? : Text → Option (Text × Text)
  | [] => none
  | c :: t =>
    if c = '0' then some ([c], t)
    else if c.isAsciiDigit then
      let (ds, rest) := digits t
      some (c :: ds, rest)
    else none

/-- The fraction, if a point and a digit follow. -/
def scanFraction : Text → Option Text × Text
  | [] => (none, [])
  | c :: t =>
    let (ds, rest) := digits t
    if c = '.' ∧ ds ≠ [] then (some ds, rest) else (none, c :: t)

/-- The exponent, if its letter, perhaps a sign, and a digit follow. -/
def scanExponent : Text → Option (Bool × Text) × Text
  | [] => (none, [])
  | c :: t =>
    let (negative, r) := DesiredState.Numeral.sign t
    let (ds, rest) := digits r
    if (c = 'e' ∨ c = 'E') ∧ ds ≠ [] then (some (negative, ds), rest) else (none, c :: t)

/-- The longest number at the beginning of a text, and what follows it. -/
def scan? (t : Text) : Option (Numeral × Text) :=
  let (negative, t) := match t with
    | [] => (false, [])
    | c :: r => if c = '-' then (true, r) else (false, c :: r)
  match scanWhole? t with
  | none => none
  | some (whole, t) =>
    let (fraction, t) := scanFraction t
    let (exponent, t) := scanExponent t
    some (⟨negative, whole, fraction, exponent⟩, t)

/-- There is neither fraction nor exponent. -/
def isInteger (n : Numeral) : Bool :=
  match n.fraction, n.exponent with
  | none, none => true
  | _, _ => false

/-- What a number stands for: exactly its digits for an integer, and a floating point number
otherwise. -/
def meaning (n : Numeral) : Scalar :=
  if n.isInteger then
    let k : Int := Text.digitsVal n.whole
    .int (if n.negative then -k else k)
  else
    let fraction := n.fraction.getD []
    let power : Int := match n.exponent with
      | none => 0
      | some (negative, ds) =>
        let k : Int := Text.digitsVal ds
        if negative then -k else k
    .float (Binary64.ofDecimal n.negative (Text.digitsVal (n.whole ++ fraction))
      (power - fraction.length))

/-- The value of a number, unless it is an integer with too many digits. -/
def value (n : Numeral) : Except Fault Scalar :=
  if n.isInteger && decide (maxDigits < n.whole.length) then
    .error (.tooManyDigits n.whole.length)
  else .ok n.meaning

end Numeral

end DesiredState.Json
