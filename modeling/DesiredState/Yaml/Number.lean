import DesiredState.Number.Numeral
import DesiredState.Yaml.Cursor

/-!
# Numbers in YAML

Plain scalars that are numbers. A whole number is decimal, or it begins with `0b`, `0`, or `0x`,
or it has parts of base sixty between colons. A real number always has a point, and a sign in its
exponent if it has one; so `1e3` is a text. Underscores may stand between the digits.

* `whole?`: the whole number that a text spells.
* `real?`: the real number that a text spells.
-/

namespace DesiredState.Yaml

/-- The text without underscores. -/
def withoutUnderscores (t : Text) : Text := t.filter fun c => c ≠ CodePoint.ofChar '_'

/-- The text is not empty and has only underscores and digits of some kind. -/
def isDigits (isDigit : CodePoint → Bool) (t : Text) : Bool :=
  !t.isEmpty && t.all fun c => c = '_' || isDigit c

/-- A digit below a base of at most ten. -/
def isDigitBelow (base : Nat) (c : CodePoint) : Bool := c.isAsciiDigit && c.digitVal < base

/-- The text is a decimal digit followed by underscores and decimal digits. -/
def isDecimal : Text → Bool
  | [] => false
  | c :: t => c.isAsciiDigit && t.all fun c => c = '_' || c.isAsciiDigit

/-- The text is one part of a number in base sixty behind the first. -/
def isSixtieth (t : Text) : Bool :=
  match t with
  | [c] => c.isAsciiDigit
  | [c, d] => isDigitBelow 6 c && d.isAsciiDigit
  | _ => false

/-- The number of some digits in a base. -/
def inBase (base : Nat) (t : Text) : Nat :=
  t.foldl (fun n c => n * base + (c.hexVal?.getD 0)) 0

/-- The number of decimal digits, if there are not too many. -/
def decimal (t : Text) : Except Fault Nat :=
  let t := withoutUnderscores t
  if Numeral.maxDigits < t.length then .error (.excess t.length) else .ok (Text.digitsVal t)

/-- The number of digits behind the mark of a base. -/
def marked (base : Nat) (t : Text) : Except Fault Nat :=
  let t := withoutUnderscores t
  if t.isEmpty then .error (.noDigits base) else .ok (inBase base t)

/-- The unsigned whole number that a text spells. -/
def magnitude? (t : Text) : Option (Except Fault Nat) :=
  match Text.cut? "0b" t, Text.cut? "0x" t, Text.cut? "0" t with
  | some t, _, _ => if isDigits (isDigitBelow 2) t then some (marked 2 t) else none
  | _, some t, _ => if isDigits (·.hexVal?.isSome) t then some (marked 16 t) else none
  | _, _, some [] => some (.ok 0)
  | _, _, some t =>
    if isDigits (isDigitBelow 8) t then some (.ok (inBase 8 (withoutUnderscores t))) else none
  | _, _, none =>
    match Text.splitAt ':' t with
    | [] => none
    | first :: parts =>
      if isDecimal first && parts.all isSixtieth then
        some ((decimal first).map fun n =>
          parts.foldl (fun n part => n * 60 + Text.digitsVal part) n)
      else none

/-- The whole number that a text spells. -/
def whole? (t : Text) : Option (Except Fault Int) :=
  let (negative, t) := Numeral.sign t
  (magnitude? t).map fun n => n.map fun n => if negative then -(n : Int) else n

/-- The sum of two numbers that are not negative. -/
def sum (x y : Binary64) : Binary64 :=
  match x, y with
  | .finite _ m e, .finite _ n f =>
    let (a, b) := Binary64.ratio m e
    let (c, d) := Binary64.ratio n f
    Binary64.ofRatio false (a * d + c * b) (b * d)
  | .finite .., y => y
  | x, _ => x

/-- The product of two numbers that are not negative. -/
def product (x y : Binary64) : Binary64 :=
  match x, y with
  | .finite _ m e, .finite _ n f =>
    let (a, b) := Binary64.ratio m e
    let (c, d) := Binary64.ratio n f
    Binary64.ofRatio false (a * c) (b * d)
  | .finite .., y => y
  | x, _ => x

/-- A number whose sign is set. -/
def withSign (negative : Bool) : Binary64 → Binary64
  | .finite _ m e => .finite negative m e
  | .infinite _ => .infinite negative
  | .nan => .nan

/-- The number that a part in base sixty spells. -/
def partValue (part : Text) : Binary64 :=
  match Numeral.decimal? part with
  | some (digits, e) => Binary64.ofDecimal false digits e
  | none => Binary64.zero false

/-- The number `total` with parts in base sixty added, the first of which counts `unit` times. -/
def sexagesimal (total : Binary64) (unit : Nat) : List Text → Except Fault Binary64
  | [] => .ok total
  | part :: parts =>
    match Binary64.ofInt? unit with
    | none => .error .tooLarge
    | some x => sexagesimal (sum total (product (partValue part) x)) (unit * 60) parts

/-- The text is an exponent with a sign, or empty. -/
def isExponent : Text → Bool
  | [] => true
  | c :: t =>
    (c = 'e' || c = 'E') &&
      match t with
      | s :: ds => (s = '-' || s = '+') && !ds.isEmpty && ds.all CodePoint.isAsciiDigit
      | [] => false

/-- The unsigned real number that a text spells; one that begins with a point has no sign. -/
def realMagnitude? (signed : Bool) (t : Text) : Option (Except Fault Binary64) :=
  let isOpen (c : CodePoint) : Bool := c = '_' || c.isAsciiDigit
  let point := CodePoint.ofChar '.'
  let whole := t.takeWhile (· ≠ point)
  match t.dropWhile (· ≠ point) with
  | [] => none
  | _ :: rest =>
    let fraction := rest.takeWhile isOpen
    let exponent := rest.dropWhile isOpen
    let number : Option (Except Fault Binary64) :=
      (Numeral.decimal? (withoutUnderscores t)).map fun (digits, e) =>
        .ok (Binary64.ofDecimal false digits e)
    if isDecimal whole && isExponent exponent then number
    else if whole.isEmpty && !signed && isDecimal fraction && isExponent exponent then number
    else if whole.isEmpty && (rest = "inf" || rest = "Inf" || rest = "INF") then
      some (.ok (.infinite false))
    else if whole.isEmpty && !signed && (rest = "nan" || rest = "NaN" || rest = "NAN") then
      some (.ok .nan)
    else
      match (Text.splitAt ':' whole).reverse, exponent with
      | last :: before, [] =>
        let parts := (last :: before).reverse
        if !before.isEmpty && isDecimal (parts.headD []) && parts.tail.all isSixtieth then
          -- the part behind the last colon, which has the fraction, counts once
          some (sexagesimal (Binary64.zero false) 1
            (((last ++ point :: fraction) :: before).map withoutUnderscores))
        else none
      | _, _ => none

/-- The real number that a text spells. -/
def real? (t : Text) : Option (Except Fault Binary64) :=
  let (negative, rest) := Numeral.sign t
  (realMagnitude? (rest.length < t.length) rest).map fun x => x.map (withSign negative)

end DesiredState.Yaml
