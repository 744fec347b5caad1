import DesiredState.Number.Binary64
import DesiredState.Text.Blank
import DesiredState.Text.Digit

/-!
# Numerals

Reading decimal numerals: a sign, digits with a point, an exponent, and the words for infinity and
for not a number. Single underscores may stand between digits.

* `Numeral.decimal?`: an unsigned decimal, as digits and exponent.
* `Numeral.real?`: a signed real numeral between blanks.
* `Numeral.whole?`: a signed whole number, which may have a fraction of zeros.
-/

namespace DesiredState.Numeral

/-- The most digits a whole number may have when it is read from text or written out. -/
def maxDigits : Nat := 4300

/-- The longest beginning of ASCII digits, and what follows it. -/
def digits (t : Text) : Text × Text :=
  (t.takeWhile CodePoint.isAsciiDigit, t.dropWhile CodePoint.isAsciiDigit)

/-- A sign at the beginning, minus being true, and what follows it. -/
def sign : Text → Bool × Text
  | [] => (false, [])
  | c :: t =>
    if c = '-' then (true, t) else if c = '+' then (false, t) else (false, c :: t)

/-- The exponent that ends a numeral: nothing, or a letter, a sign and digits. -/
def exponent? : Text → Option Int
  | [] => some 0
  | c :: t =>
    if c = 'e' ∨ c = 'E' then
      let (negative, t) := sign t
      let (ds, rest) := digits t
      if ds.isEmpty ∨ !rest.isEmpty then none
      else
        let n : Int := Text.digitsVal ds
        some (if negative then -n else n)
    else none

/-- An unsigned decimal numeral: digits before or after the point, and an exponent. The answer
stands for `digits * 10 ^ exponent`. -/
def decimal? (t : Text) : Option (Nat × Int) :=
  let (whole, rest) := digits t
  let (fraction, rest) := match rest with
    | [] => ([], [])
    | c :: r => if c = '.' then digits r else ([], c :: r)
  if whole.isEmpty ∧ fraction.isEmpty then none
  else
    (exponent? rest).map fun e => (Text.digitsVal (whole ++ fraction), e - fraction.length)

/-- The text without its underscores, if each stands between two digits; `before` tells whether a
digit precedes. -/
def dropUnderscores? (before : Bool) : Text → Option Text
  | [] => some []
  | c :: t =>
    if c = '_' then
      match t with
      | [] => none
      | d :: _ => if before && d.isAsciiDigit then dropUnderscores? false t else none
    else (dropUnderscores? c.isAsciiDigit t).map (c :: ·)

/-- A signed real numeral, or one of the words `inf`, `infinity` and `nan` in any case. -/
def signedReal? (t : Text) : Option Binary64 := do
  let t ← dropUnderscores? false t
  let (negative, t) := sign t
  let word := Text.asciiLower t
  if word = "inf" ∨ word = "infinity" then return .infinite negative
  if word = "nan" then return .nan
  let (ds, e) ← decimal? t
  return Binary64.ofDecimal negative ds e

/-- The blanks that may stand around a real numeral: those of ASCII from tab to carriage return,
the space, and all blanks outside ASCII. -/
def isMargin (c : CodePoint) : Bool :=
  c.isBlank && !(0x1C ≤ c.val && c.val ≤ 0x1F)

/-- The text without its margins. -/
def trimMargins (t : Text) : Text :=
  ((t.dropWhile isMargin).reverse.dropWhile isMargin).reverse

/-- The text with the decimal digits of all scripts replaced by those of ASCII. -/
def toAsciiDigits (t : Text) : Text :=
  t.map fun c => match c.decimalVal? with
    | some d => CodePoint.ofNat (0x30 + d)
    | none => c

/-- A real numeral in digits of any script, between blanks. -/
def real? (t : Text) : Option Binary64 := signedReal? (trimMargins (toAsciiDigits t))

/-- A real numeral in ASCII digits, between blanks. -/
def asciiReal? (t : Text) : Option Binary64 := signedReal? (trimMargins t)

/-- A whole number in ASCII digits between blanks: a sign, digits, and perhaps a point with
nothing but zeros behind it. -/
def whole? (t : Text) : Option Int := do
  let t := trimMargins t
  let point := CodePoint.ofChar '.'
  let zeros := (t.dropWhile (· ≠ point)).drop 1
  if !zeros.all (· = CodePoint.ofChar '0') then none
  let (negative, ds) := sign (← dropUnderscores? false (t.takeWhile (· ≠ point)))
  if ds.isEmpty || !ds.all CodePoint.isAsciiDigit then none
  let n : Int := Text.digitsVal ds
  return if negative then -n else n

/-- A numeral has too many digits to be read or written. -/
def excessMessage (count : Nat) : Text :=
  ("Exceeds the limit (4300 digits) for integer string conversion: value has " : Text) ++
    Text.decimal count ++ " digits; use sys.set_int_max_str_digits() to increase the limit"

/-- A whole number has too many digits to be written. -/
def unwritableMessage : Text :=
  ("Exceeds the limit (4300 digits) for integer string conversion; " : Text) ++
    "use sys.set_int_max_str_digits() to increase the limit"

/-- The number can be written out: it has at most `maxDigits` digits. -/
def isWritable (n : Int) : Bool := n.natAbs < Nat.pow 10 maxDigits

/-- The decimal form of a whole number, if it is not too long. -/
def ofInt? (n : Int) : Option Text := if isWritable n then some (Text.ofInt n) else none

end DesiredState.Numeral
