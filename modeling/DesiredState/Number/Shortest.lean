import DesiredState.Number.Binary64

/-!
# The shortest decimal that reads back

A number is shown with the fewest decimal digits from which it is read back, and with the nearest
of those that have as few. The value's two neighbours on each decimal grid, from coarse to fine,
are tested exactly.

* `Binary64.shortest`: the digits and their exponent.
* `Binary64.toText`: the number in positional form while its exponent is at least `-4` and below
  `16`, in scientific form otherwise.
-/

namespace DesiredState

/-- The decimal `digits * 10 ^ exponent`. -/
structure Decimal where
  digits : Nat
  exponent : Int
  deriving DecidableEq

namespace Binary64

/-- The place of the first digit: the least `k` with `num / den < 10 ^ k`, for a positive
quotient. -/
def decimalPlace (num den : Nat) : Int :=
  if den ≤ num then (Nat.toDigits 10 (num / den)).length
  else
    let d := (Nat.toDigits 10 (den / num)).length
    if den ≤ num * Nat.pow 10 (d - 1) then 2 - (d : Int) else 1 - (d : Int)

/-- The two neighbours of a quotient on the grid of step `10 ^ exponent`, the nearer first; of
equally near ones the even first. -/
def neighbours (num den : Nat) (exponent : Int) : List Decimal :=
  let (n, d) := if 0 ≤ exponent then (num, den * Nat.pow 10 exponent.toNat)
    else (num * Nat.pow 10 (-exponent).toNat, den)
  let low := n / d
  let near := roundHalfEven n d
  let far := if near = low then low + 1 else low
  [⟨near, exponent⟩, ⟨far, exponent⟩]

/-- The first decimal that reads back as the finite number `m * 2 ^ e`, on the grids of `count`
digits and more. A power of ten is one digit on its own grid. -/
def shortestFrom (m : Nat) (e : Int) (place : Int) : (count fuel : Nat) → Decimal
  | _, 0 => ⟨m, 0⟩
  | count, fuel + 1 =>
    let (num, den) := ratio m e
    let hit := (neighbours num den (place - count)).find? fun c =>
      c.digits != 0 && ofDecimal false c.digits c.exponent = .finite false m e
    match hit with
    | some c => if c.digits = Nat.pow 10 count then ⟨1, place⟩ else c
    | none => shortestFrom m e place (count + 1) fuel

/-- The shortest decimal that reads back as the positive number `m * 2 ^ e`; seventeen digits
always suffice. -/
def shortest (m : Nat) (e : Int) : Decimal :=
  let (num, den) := ratio m e
  shortestFrom m e (decimalPlace num den) 1 17

/-- Digits with a point, or in scientific form; `place` is the number of digits before the
point. -/
def layOut (digits : Text) (place : Int) : Text :=
  let count : Int := digits.length
  if -4 < place ∧ place ≤ 16 then
    if place ≤ 0 then
      ("0." : Text) ++ List.replicate (-place).toNat (CodePoint.ofChar '0') ++ digits
    else if count ≤ place then
      digits ++ List.replicate (place - count).toNat (CodePoint.ofChar '0') ++ ".0"
    else digits.take place.toNat ++ "." ++ digits.drop place.toNat
  else
    let exponent := place - 1
    let sign : Text := if exponent < 0 then "-" else "+"
    let point : Text := if count = 1 then [] else "."
    digits.take 1 ++ point ++ digits.drop 1 ++ "e" ++ sign ++ Text.padded 2 exponent.natAbs

/-- The text of a number: at least one digit after the point in positional form. -/
def toText : Binary64 → Text
  | .nan => "nan"
  | .infinite negative => if negative then "-inf" else "inf"
  | .finite negative m e =>
    let sign : Text := if negative then "-" else []
    if m = 0 then sign ++ "0.0"
    else
      let c := shortest m e
      let digits := Text.decimal c.digits
      sign ++ layOut digits (digits.length + c.exponent)

end Binary64

end DesiredState
