import DesiredState.Number.Shortest

/-!
# Decimals with a given number of places

A number with so many digits behind the point, or so many digits in all. The last digit is that
of the nearest decimal; a half goes to the even one. Signs are left to the caller.

* `Binary64.fixed`: digits before and behind the point.
* `Binary64.scientific`: one digit before the point, and an exponent.
* `Binary64.general`: whichever of the two is shorter, without zeros at the end.
-/

namespace DesiredState.Binary64

/-- The whole number nearest to `num / den * 10 ^ places`. -/
def onGrid (num den : Nat) (places : Int) : Nat :=
  if 0 ≤ places then roundHalfEven (num * Nat.pow 10 places.toNat) den
  else roundHalfEven num (den * Nat.pow 10 (-places).toNat)

/-- The point before some digits; without digits there is one only if asked for. -/
def pointed (keepPoint : Bool) (digits : Text) : Text :=
  if digits.isEmpty && !keepPoint then [] else CodePoint.ofChar '.' :: digits

/-- A quotient with `places` digits behind the point. -/
def fixed (keepPoint : Bool) (places num den : Nat) : Text :=
  let digits := Text.padded (places + 1) (onGrid num den places)
  let whole := digits.length - places
  digits.take whole ++ pointed keepPoint (digits.drop whole)

/-- The digits of a quotient, `count` in all, and the exponent of the first. -/
def leading (count num den : Nat) : Nat × Int :=
  if num = 0 then (0, 0)
  else
    let place := decimalPlace num den
    let n := onGrid num den (count - place)
    if n = Nat.pow 10 count then (Nat.pow 10 (count - 1), place) else (n, place - 1)

/-- The exponent of a number: a letter, a sign and at least two digits. -/
def exponentText (exponent : Int) : Text :=
  let sign : Text := if exponent < 0 then "-" else "+"
  ("e" : Text) ++ sign ++ Text.padded 2 exponent.natAbs

/-- A quotient with one digit before the point and `places` behind it. -/
def scientific (keepPoint : Bool) (places num den : Nat) : Text :=
  let (n, exponent) := leading (places + 1) num den
  let digits := Text.padded (places + 1) n
  digits.take 1 ++ pointed keepPoint (digits.drop 1) ++ exponentText exponent

/-- The text without zeros at its end. -/
def withoutZeros (t : Text) : Text :=
  (t.reverse.dropWhile (· = CodePoint.ofChar '0')).reverse

/-- A quotient with `count` digits, positional unless its exponent is below `-4` or at least
`count`. Zeros at the end are dropped unless the point is kept. -/
def general (keepPoint : Bool) (count num den : Nat) : Text :=
  let count := max count 1
  let (n, exponent) := leading count num den
  let trimmed (digits : Text) : Text := if keepPoint then digits else withoutZeros digits
  if -4 ≤ exponent ∧ exponent < count then
    let places := (count - 1 - exponent).toNat
    let digits := Text.padded (places + 1) (onGrid num den places)
    let whole := digits.length - places
    digits.take whole ++ pointed keepPoint (trimmed (digits.drop whole))
  else
    let digits := Text.padded count n
    digits.take 1 ++ pointed keepPoint (trimmed (digits.drop 1)) ++ exponentText exponent

end DesiredState.Binary64
