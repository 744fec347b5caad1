import DesiredState.Text.Basic

/-!
# Binary floating point with 64 bits

A finite number is a sign, a significand below `2 ^ 53` and an exponent of two; it is kept with
the largest significand that the least exponent `-1074` allows, so each number but zero has one
form for each sign. All arithmetic is exact.

* `Binary64.ofRatio`: the nearest number to a quotient, a half going to the even neighbour.
* `Binary64.ofDecimal`: the nearest number to a decimal.
* `Binary64.value`: the exact value, in which the two zeros are one.
-/

namespace DesiredState

/-- A 64-bit floating point number. -/
inductive Binary64
  | finite (negative : Bool) (significand : Nat) (exponent : Int)
  | infinite (negative : Bool)
  | nan
  deriving DecidableEq

/-- What a number is on the extended line of rationals; not a number is no point of it. -/
inductive Extended
  | finite (q : Rat)
  | infinite (negative : Bool)
  | none
  deriving DecidableEq

/-- The whole number nearest to a quotient; a half goes to the even neighbour. -/
def roundHalfEven (num den : Nat) : Nat :=
  let q := num / den
  let r := num % den
  if 2 * r < den then q
  else if den < 2 * r then q + 1
  else if q % 2 = 0 then q else q + 1

namespace Binary64

/-- The least exponent of two. -/
def minExponent : Int := -1074

/-- The greatest exponent of two. -/
def maxExponent : Int := 971

/-- Zero with a sign. -/
def zero (negative : Bool) : Binary64 := .finite negative 0 minExponent

/-- The quotient of a positive number by `2 ^ e`, again as a quotient. -/
def scale (num den : Nat) (e : Int) : Nat × Nat :=
  if 0 ≤ e then (num, den * Nat.pow 2 e.toNat) else (num * Nat.pow 2 (-e).toNat, den)

/-- The exponent of the greatest power of two that is at most a positive quotient. -/
def floorLog2 (num den : Nat) : Int :=
  let e : Int := (num.log2 : Int) - den.log2
  let (n, d) := scale num den e
  if d ≤ n then e else e - 1

/-- The number nearest to `num / den`; a half goes to the even significand, and what is too large
becomes infinite. -/
def ofRatio (negative : Bool) (num den : Nat) : Binary64 :=
  if num = 0 then zero negative
  else
    let e := max (floorLog2 num den - 52) minExponent
    let (n, d) := scale num den e
    let m := roundHalfEven n d
    let (m, e) := if m = 0x20000000000000 then (0x10000000000000, e + 1) else (m, e)
    if maxExponent < e then .infinite negative else .finite negative m e

/-- The number nearest to `digits * 10 ^ exponent`. Decimals far outside the range are settled by
their size alone. -/
def ofDecimal (negative : Bool) (digits : Nat) (exponent : Int) : Binary64 :=
  if digits = 0 then zero negative
  else
    let top := (Nat.toDigits 10 digits).length + exponent
    if 310 < top then .infinite negative
    else if top < -330 then zero negative
    else if 0 ≤ exponent then ofRatio negative (digits * Nat.pow 10 exponent.toNat) 1
    else ofRatio negative digits (Nat.pow 10 (-exponent).toNat)

/-- The number nearest to a whole number, unless that number is too large. -/
def ofInt? (n : Int) : Option Binary64 :=
  match ofRatio (n < 0) n.natAbs 1 with
  | .infinite _ => none
  | x => some x

/-- The number one. -/
def one : Binary64 := ofRatio false 1 1

/-- The magnitude of a finite number as a quotient. -/
def ratio (significand : Nat) (exponent : Int) : Nat × Nat :=
  if 0 ≤ exponent then (significand * Nat.pow 2 exponent.toNat, 1)
  else (significand, Nat.pow 2 (-exponent).toNat)

/-- The exact value. -/
def value : Binary64 → Extended
  | .finite negative m e =>
    let (n, d) := ratio m e
    .finite (mkRat (if negative then -(n : Int) else n) d)
  | .infinite negative => .infinite negative
  | .nan => .none

/-- The number is greater than zero. Not a number is not. -/
def isPositive : Binary64 → Bool
  | .finite negative m _ => !negative && m != 0
  | .infinite negative => !negative
  | .nan => false

/-- The number is at most zero. Not a number is not. -/
def isNonpositive : Binary64 → Bool
  | .finite negative m _ => negative || m == 0
  | .infinite negative => negative
  | .nan => false

/-- The number is a zero of either sign. -/
def isZero : Binary64 → Bool
  | .finite _ m _ => m == 0
  | _ => false

/-- The number is neither infinite nor not a number. -/
def isFinite : Binary64 → Bool
  | .finite .. => true
  | _ => false

/-- The whole number that is left of a finite number without its fraction. -/
def truncated? : Binary64 → Option Int
  | .finite negative m e =>
    let (n, d) := ratio m e
    let n : Int := (n / d : Nat)
    some (if negative then -n else n)
  | _ => none

/-- The whole number that a finite number without fraction is. -/
def toInt? : Binary64 → Option Int
  | .finite negative m e =>
    let (n, d) := ratio m e
    if n % d = 0 then
      let n : Int := (n / d : Nat)
      some (if negative then -n else n)
    else none
  | _ => none

/-- Whatever is positive is not at most zero. -/
theorem isNonpositive_eq_false_of_isPositive {x : Binary64} (h : x.isPositive = true) :
    x.isNonpositive = false := by
  cases x with
  | finite negative m e => cases negative <;> simp_all [isPositive, isNonpositive]
  | infinite negative => cases negative <;> simp_all [isPositive, isNonpositive]
  | nan => rfl

end Binary64

end DesiredState
