import DesiredState.Log.Moment
import DesiredState.Number.Numeral

/-!
# Date formats

A format is a text in which conversions stand for parts of a moment. A conversion is a percent
sign, flags, a width, perhaps a modifier, and a letter. A flag tells how a number is filled up to
its width, or changes the case of a word. The modifiers ask for another era or other digits; there
are none, so they only matter where a letter does not take them. What is no conversion stays.

* `DateFormat.fill`: a moment in a format.
-/

namespace DesiredState.DateFormat

/-- What a part is filled up with. -/
inductive Filling
  | asUsual
  | blanks
  | zeros
  | nothing
  deriving DecidableEq

/-- A conversion without its letter. -/
structure Conversion where
  filling : Filling
  upper : Bool
  swapped : Bool
  width : Nat
  modifier : Option CodePoint

/-- A part of a moment: a number with at least so many digits, with zeros or blanks in front; a
word, which is capitals when its case is swapped; one that is small letters then; or a text whose
case is only changed by the flag for capitals. -/
inductive Part
  | number (digits : Nat) (value : Int)
  | blankNumber (digits : Nat) (value : Int)
  | word (t : Text)
  | capitals (t : Text)
  | text (t : Text)

/-- The part of a moment for which a letter stands. -/
def part? (m : Moment) (letter : Char) : Option Part :=
  match letter with
  | 'Y' => some (.number 1 m.year)
  | 'm' => some (.number 2 m.month)
  | 'd' => some (.number 2 m.day)
  | 'H' => some (.number 2 m.hour)
  | 'M' => some (.number 2 m.minute)
  | 'S' => some (.number 2 m.second)
  | 'y' => some (.number 2 (m.year % 100))
  | 'C' => some (.number 1 (m.year.fdiv 100))
  | 'j' => some (.number 3 (m.yearDay + 1))
  | 'a' => some (.word (m.weekdayName.take 3))
  | 'A' => some (.word m.weekdayName)
  | 'b' | 'h' => some (.word (m.monthName.take 3))
  | 'B' => some (.word m.monthName)
  | 'e' => some (.blankNumber 2 m.day)
  | 'I' => some (.number 2 m.dialHour)
  | 'k' => some (.blankNumber 2 m.hour)
  | 'l' => some (.blankNumber 2 m.dialHour)
  | 'p' => some (.capitals m.half)
  | 'P' => some (.text (Text.asciiLower m.half))
  | 'D' | 'x' => some (.text m.slashed)
  | 'F' => some (.text m.dashed)
  | 'R' => some (.text m.clock)
  | 'T' | 'X' => some (.text m.time)
  | 'r' => some (.text m.dialTime)
  | 'c' => some (.text m.written)
  | 's' => some (.text (Text.ofInt m.seconds))
  | 'u' => some (.number 1 (if m.weekday = 0 then 7 else m.weekday))
  | 'w' => some (.number 1 m.weekday)
  | 'U' => some (.number 2 (m.week 0))
  | 'W' => some (.number 2 (m.week 1))
  | 'G' => some (.number 1 m.isoWeek.1)
  | 'g' => some (.number 2 (m.isoWeek.1 % 100))
  | 'V' => some (.number 2 m.isoWeek.2)
  | 'Z' => some (.text "UTC")
  | 'n' => some (.text "\n")
  | 't' => some (.text "\t")
  | '%' => some (.text "%")
  | _ => none

/-- The letters that do not take the modifier for an era. -/
def withoutEra : Text := "%aAbBhDdeFgGHIjklmMSUVWw"

/-- The letters that do not take the modifier for other digits. -/
def withoutDigits : Text := "%aAcCDFxXY"

/-- A letter takes the modifier of a conversion. -/
def Conversion.allows (c : Conversion) (letter : CodePoint) : Bool :=
  match c.modifier with
  | none => true
  | some e => !(if e = 'E' then withoutEra else withoutDigits).contains letter

/-- A text with blanks or zeros in front up to the width. -/
def Conversion.widened (c : Conversion) (t : Text) : Text :=
  let fill : CodePoint := if c.filling = .zeros then '0' else ' '
  List.replicate (c.width - t.length) fill ++ t

/-- A number with at least so many digits. -/
def Conversion.number (c : Conversion) (digits : Nat) (n : Int) : Text :=
  let sign : Text := if n < 0 then "-" else []
  let t := Text.decimal n.natAbs
  let missing := max digits c.width - (sign ++ t).length
  match c.filling with
  | .nothing => c.widened (sign ++ t)
  | .blanks => List.replicate missing (CodePoint.ofChar ' ') ++ sign ++ t
  | _ => sign ++ List.replicate missing (CodePoint.ofChar '0') ++ t

/-- A part as the conversion asks for it. -/
def Conversion.part (c : Conversion) : Part → Text
  | .number digits n => c.number digits n
  | .blankNumber digits n =>
    let filling := if c.filling = Filling.asUsual then Filling.blanks else c.filling
    { c with filling }.number digits n
  | .word t => c.widened (if c.upper || c.swapped then Text.asciiUpper t else t)
  | .capitals t => c.widened (if c.swapped then Text.asciiLower t else t)
  | .text t => c.widened t

/-- The flags at the beginning of a text, and what follows them. -/
def flags (c : Conversion) : Text → Conversion × Text
  | [] => (c, [])
  | f :: t =>
    if f = '_' then flags { c with filling := .blanks } t
    else if f = '-' then flags { c with filling := .nothing } t
    else if f = '0' then flags { c with filling := .zeros } t
    else if f = '^' then flags { c with upper := true } t
    else if f = '#' then flags { c with swapped := true } t
    else (c, f :: t)

/-- The conversion behind a percent sign, and what follows it: the letter and the rest. -/
def scan (t : Text) : Conversion × Text :=
  let (c, t) := flags ⟨.asUsual, false, false, 0, none⟩ t
  let (digits, t) := Numeral.digits t
  let c := { c with width := Text.digitsVal digits }
  match t with
  | e :: t => if e = 'E' || e = 'O' then ({ c with modifier := some e }, t) else (c, e :: t)
  | [] => (c, [])

/-- What a conversion gives that is none: itself; of one for a percent sign only this is left. -/
def Conversion.failed (c : Conversion) (written : Text) (letter : Option CodePoint) : Text :=
  let t : Text := if letter = some '%' then "%" else ('%' : CodePoint) :: written
  c.widened (if c.upper then Text.asciiUpper t else t)

/-- What a conversion gives; `written` is how it is written behind the percent sign. -/
def Conversion.text (c : Conversion) (m : Moment) (written : Text) (letter : CodePoint) : Text :=
  if !c.allows letter then c.failed written (some letter)
  else if letter = 'z' then c.widened "+" ++ c.number 4 0
  else
    match part? m (Char.ofNat letter.val) with
    | some (.text t) =>
      c.widened (if c.upper && letter ≠ 'P' then Text.asciiUpper t else t)
    | some p => c.part p
    | none => c.failed written (some letter)

/-- A moment in the rest of a format. -/
def fillFrom (m : Moment) : (fuel : Nat) → (format : Text) → Text
  | 0, t => t
  | _ + 1, [] => []
  | fuel + 1, p :: t =>
    if p ≠ '%' then p :: fillFrom m fuel t
    else
      match scan t with
      | (c, []) => c.failed t none
      | (c, letter :: rest) =>
        c.text m (t.take (t.length - rest.length)) letter ++ fillFrom m fuel rest

/-- A moment in a format. -/
def fill (m : Moment) (format : Text) : Text := fillFrom m (format.length + 1) format

/-- Date and time to the second. -/
def plain : Text := "%Y-%m-%d %H:%M:%S"

example : fill (Moment.ofSeconds 951782399) plain = "2000-02-28 23:59:59" := by decide +kernel

example : fill (Moment.ofSeconds (-1)) plain = "1969-12-31 23:59:59" := by decide +kernel

end DesiredState.DateFormat
