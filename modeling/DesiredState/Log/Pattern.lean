import DesiredState.Data.Value
import DesiredState.Number.Numeral
import DesiredState.Number.Places

/-!
# Message patterns

A message is made of a pattern and values. A conversion in a pattern is a percent sign, perhaps
the key of a value between parentheses, flags, a width, a precision behind a point, and a letter:
`s`, `r` and `a` for a value as text, `d`, `i` and `u` for a whole number, `o`, `x` and `X` for
one in base eight or sixteen, `e`, `f` and `g` for a real one, and `c` for a code point. Two
percent signs stand for one. Width and precision may be stars, which take values of their own.

* `Pattern.fill`: the message, or why there is none.
-/

namespace DesiredState

/-- Why a pattern and values make no message. -/
inductive PatternFault
  | tooFew
  | tooMany
  | incomplete
  | incompleteKey
  | noDictionary
  | noKey (key : Text)
  | unsupported (letter : CodePoint) (index : Nat)
  | starNotWhole
  | tooWide
  | tooPrecise
  | starTooLarge (kind : Text)
  | notWhole (letter : CodePoint) (kind : Text)
  | notReal (letter : CodePoint) (kind : Text)
  | notFloat (kind : Text)
  | notPoint
  | pointRange
  | tooLarge
  | infinite
  | notNumber
  deriving DecidableEq

/-- What a fault says. -/
def PatternFault.message : PatternFault → Text
  | .tooFew => "not enough arguments for format string"
  | .tooMany => "not all arguments converted during string formatting"
  | .incomplete => "incomplete format"
  | .incompleteKey => "incomplete format key"
  | .noDictionary => "format requires a mapping"
  | .noKey key => Text.quoted key
  | .unsupported letter index =>
    let shown : Text := if 31 ≤ letter.val && letter.val ≤ 126 then [letter] else "?"
    ("unsupported format character '" : Text) ++ shown ++ "' (0x" ++ Text.hex 0 letter.val ++
      ") at index " ++ Text.decimal index
  | .starNotWhole => "* wants int"
  | .tooWide => "width too big"
  | .tooPrecise => "precision too big"
  | .starTooLarge kind => ("Python int too large to convert to C " : Text) ++ kind
  | .notWhole letter kind =>
    ("%" : Text) ++ [letter] ++ " format: an integer is required, not " ++ kind
  | .notReal letter kind =>
    ("%" : Text) ++ [letter] ++ " format: a real number is required, not " ++ kind
  | .notFloat kind => ("must be real number, not " : Text) ++ kind
  | .notPoint => "%c requires int or char"
  | .pointRange => "%c arg not in range(0x110000)"
  | .tooLarge => "int too large to convert to float"
  | .infinite => "cannot convert float infinity to integer"
  | .notNumber => "cannot convert float NaN to integer"

namespace Pattern

/-- The values for a pattern: in order, or under keys. -/
inductive Arguments
  | list (values : List Data)
  | dict (entries : List (Key × Data))

/-- The arguments that some values are: a dictionary alone, if it is not empty, gives its values
under their keys. -/
def Arguments.ofValues : List Data → Arguments
  | [.dict (e :: es)] => .dict (e :: es)
  | values => .list values

/-- The values that are left. A dictionary can also be taken as a whole, once. -/
structure Supply where
  next : List Data
  entries : Option (List (Key × Data))

/-- The supply of some arguments. -/
def Supply.of : Arguments → Supply
  | .list values => ⟨values, none⟩
  | .dict entries => ⟨[.dict entries], some entries⟩

/-- The next value. -/
def Supply.take (s : Supply) : Except PatternFault (Data × Supply) :=
  match s.next with
  | [] => .error .tooFew
  | v :: vs => .ok (v, { s with next := vs })

/-- The flags of a conversion. -/
structure Flags where
  left : Bool
  plus : Bool
  blank : Bool
  alternate : Bool
  zero : Bool

/-- A conversion without its letter. -/
structure Spec where
  flags : Flags
  width : Nat
  precision : Option Nat

/-- The flags at the beginning of a text, and what follows them. -/
def flags (f : Flags) : Text → Flags × Text
  | [] => (f, [])
  | c :: t =>
    if c = '-' then flags { f with left := true } t
    else if c = '+' then flags { f with plus := true } t
    else if c = ' ' then flags { f with blank := true } t
    else if c = '#' then flags { f with alternate := true } t
    else if c = '0' then flags { f with zero := true } t
    else (f, c :: t)

/-- The sizes that a conversion may have: those of a signed word of some bits. -/
structure Bound where
  bits : Nat
  kind : Text
  excess : PatternFault

/-- The bound of widths. -/
def widthBound : Bound := ⟨63, "ssize_t", .tooWide⟩

/-- The bound of precisions. -/
def precisionBound : Bound := ⟨31, "int", .tooPrecise⟩

/-- The value for a star, if it is in bounds. -/
def starSize (b : Bound) : Data → Except PatternFault Int
  | .int n =>
    let limit : Int := (Nat.pow 2 b.bits : Nat)
    if -limit ≤ n ∧ n < limit then .ok n else .error (.starTooLarge b.kind)
  | .bool v => .ok (if v then 1 else 0)
  | _ => .error .starNotWhole

/-- A whole number at the beginning of a text, or a value for a star. -/
def size (b : Bound) (s : Supply) (t : Text) : Except PatternFault (Option Int × Supply × Text) :=
  match t with
  | [] => .ok (none, s, t)
  | c :: rest =>
    if c = '*' then do
      let (v, s) ← s.take
      return (some (← starSize b v), s, rest)
    else
      let (ds, rest) := Numeral.digits t
      let n := Text.digitsVal ds
      if ds.isEmpty then .ok (none, s, rest)
      else if Nat.pow 2 b.bits ≤ n then .error b.excess
      else .ok (some (n : Int), s, rest)

/-- The key behind an opening parenthesis, up to the one that closes it, and what follows. -/
def key (depth : Nat) : Text → Except PatternFault (Text × Text)
  | [] => .error .incompleteKey
  | c :: t =>
    if c = ')' && depth = 0 then .ok ([], t)
    else
      let depth := if c = '(' then depth + 1 else if c = ')' then depth - 1 else depth
      (key depth t).map fun (k, rest) => (c :: k, rest)

/-- A piece with blanks up to a width. -/
def justified (spec : Spec) (t : Text) : Text :=
  let blanks := List.replicate (spec.width - t.length) (CodePoint.ofChar ' ')
  if spec.flags.left then t ++ blanks else blanks ++ t

/-- A number with its sign and the mark of its base, filled up with blanks or zeros. -/
def numeric (spec : Spec) (negative : Bool) (mark digits : Text) : Text :=
  let sign : Text := if negative then "-" else if spec.flags.plus then "+"
    else if spec.flags.blank then " " else []
  if spec.flags.zero && !spec.flags.left then
    let count := spec.width - (sign ++ mark ++ digits).length
    sign ++ mark ++ List.replicate count (CodePoint.ofChar '0') ++ digits
  else justified spec (sign ++ mark ++ digits)

/-- A text cut to the precision. -/
def cut (spec : Spec) (t : Text) : Text :=
  match spec.precision with
  | some n => t.take n
  | none => t

/-- Code points outside ASCII as escapes. -/
def ascii (t : Text) : Text :=
  t.flatMap fun c =>
    if c.val < 0x80 then [c]
    else if c.val < 0x100 then ("\\x" : Text) ++ Text.hex 2 c.val
    else if c.val < 0x10000 then ("\\u" : Text) ++ Text.hex 4 c.val
    else ("\\U" : Text) ++ Text.hex 8 c.val

/-- A whole number in a base, with at least as many digits as the precision asks for. -/
def whole (spec : Spec) (base : Nat) (mark : Text) (upper : Bool) (n : Int) : Text :=
  let digits := (Nat.toDigits base n.natAbs).map CodePoint.ofChar
  let digits := List.replicate (spec.precision.getD 0 - digits.length) (CodePoint.ofChar '0') ++
    digits
  let mark : Text := if spec.flags.alternate then mark else []
  numeric spec (n < 0) mark (if upper then Text.asciiUpper digits else digits)

/-- The whole number that a value is, or that remains of it without its fraction. -/
def truncated (letter : CodePoint) : Data → Except PatternFault Int
  | .int n => .ok n
  | .bool b => .ok (if b then 1 else 0)
  | .float .nan => .error .notNumber
  | .float x =>
    match x.truncated? with
    | some n => .ok n
    | none => .error .infinite
  | v => .error (.notReal letter v.typeName)

/-- The whole number that a value is. -/
def exactly (letter : CodePoint) : Data → Except PatternFault Int
  | .int n => .ok n
  | .bool b => .ok (if b then 1 else 0)
  | v => .error (.notWhole letter v.typeName)

/-- The real number that a value is. -/
def real : Data → Except PatternFault Binary64
  | .float x => .ok x
  | .bool b => .ok (if b then Binary64.one else Binary64.zero false)
  | .int n =>
    match Binary64.ofInt? n with
    | some x => .ok x
    | none => .error .tooLarge
  | v => .error (.notFloat v.typeName)

/-- A real number as a letter in lower case says. -/
def realText (spec : Spec) (letter : Char) (upper : Bool) (x : Binary64) : Text :=
  let places := spec.precision.getD 6
  let inCase (t : Text) : Text := if upper then Text.asciiUpper t else t
  match x with
  | .nan => numeric spec false [] (inCase "nan")
  | .infinite negative => numeric spec negative [] (inCase "inf")
  | .finite negative m e =>
    let (n, d) := Binary64.ratio m e
    let text := match letter with
      | 'e' => Binary64.scientific spec.flags.alternate places n d
      | 'f' => Binary64.fixed spec.flags.alternate places n d
      | _ => Binary64.general spec.flags.alternate places n d
    numeric spec negative [] (inCase text)

/-- The code point that a value is. -/
def point : Data → Except PatternFault Text
  | .int n =>
    if 0 ≤ n ∧ n < 0x110000 then .ok [CodePoint.ofNat n.toNat] else .error .pointRange
  | .bool b => .ok [CodePoint.ofNat (if b then 1 else 0)]
  | .str [c] => .ok [c]
  | _ => .error .notPoint

/-- A value as its conversion says; `index` is the place of the letter. -/
def convert (spec : Spec) (letter : CodePoint) (index : Nat) (v : Data) :
    Except PatternFault Text :=
  match Char.ofNat letter.val with
  | 's' => .ok (justified spec (cut spec v.shown))
  | 'r' => .ok (justified spec (cut spec v.quoted))
  | 'a' => .ok (justified spec (cut spec (ascii v.quoted)))
  | 'd' | 'i' | 'u' => (truncated letter v).map (whole spec 10 [] false)
  | 'o' => (exactly letter v).map (whole spec 8 "0o" false)
  | 'x' => (exactly letter v).map (whole spec 16 "0x" false)
  | 'X' => (exactly letter v).map (whole spec 16 "0X" true)
  | 'e' => (real v).map (realText spec 'e' false)
  | 'E' => (real v).map (realText spec 'e' true)
  | 'f' => (real v).map (realText spec 'f' false)
  | 'F' => (real v).map (realText spec 'f' true)
  | 'g' => (real v).map (realText spec 'g' false)
  | 'G' => (real v).map (realText spec 'g' true)
  | 'c' => (point v).map (justified spec)
  | _ => .error (.unsupported letter index)

/-- The conversion behind a percent sign: its text, the values left, and what follows. `count` is
the length of the whole pattern. -/
def conversion (count : Nat) (s : Supply) (t : Text) :
    Except PatternFault (Text × Supply × Text) := do
  let (s, t) ← match t, s.entries with
    | c :: rest, entries =>
      if c ≠ '(' then pure (s, t)
      else
        match entries with
        | none => throw .noDictionary
        | some es =>
          let (k, rest) ← key 0 rest
          match Data.find? k es with
          | some v => pure ({ s with next := [v] }, rest)
          | none => throw (.noKey k)
    | [], _ => pure (s, t)
  let (f, t) := flags ⟨false, false, false, false, false⟩ t
  let (width, s, t) ← size widthBound s t
  let f := { f with left := f.left || (width.getD 0) < 0 }
  let (precision, s, t) ← match t with
    | c :: rest =>
      if c ≠ '.' then pure (none, s, t)
      else do
        let (n, s, rest) ← size precisionBound s rest
        pure (some (n.getD 0).toNat, s, rest)
    | [] => pure (none, s, t)
  let t := match t with
    | c :: rest => if c = 'h' || c = 'l' || c = 'L' then rest else c :: rest
    | [] => []
  match t with
  | [] => throw .incomplete
  | letter :: rest =>
    let (v, s) ← s.take
    let spec : Spec := ⟨f, (width.getD 0).natAbs, precision⟩
    return (← convert spec letter (count - rest.length - 1) v, s, rest)

/-- The rest of a pattern filled. -/
def fillFrom (count : Nat) : (fuel : Nat) → Supply → Text → Except PatternFault Text
  | 0, _, _ => .error .incomplete
  | _ + 1, s, [] =>
    if s.entries.isNone && !s.next.isEmpty then .error .tooMany else .ok []
  | fuel + 1, s, c :: t =>
    if c = '%' then
      match Text.cut? "%" t with
      | some t => (fillFrom count fuel s t).map (c :: ·)
      | none => do
        let (piece, s, t) ← conversion count s t
        return piece ++ (← fillFrom count fuel s t)
    else (fillFrom count fuel s t).map (c :: ·)

/-- The message of a pattern and values. Without values a pattern is the message. -/
def fill (pattern : Text) (values : List Data) : Except PatternFault Text :=
  if values.isEmpty then .ok pattern
  else fillFrom pattern.length (pattern.length + 1) (Supply.of (Arguments.ofValues values)) pattern

end Pattern

end DesiredState
