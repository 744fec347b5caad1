import DesiredState.Yaml.Cursor

/-!
# Scalars as they are written

A scalar is plain, between single or double quotes, or a block of lines. Inside a scalar of more
than one line, a single line end counts as a space, and each empty line as a line end; only a
block after a bar keeps all its lines.

* `plain`: a scalar without quotes.
* `quotedScalar`: a scalar between quotes.
* `block`: a scalar of indented lines.
-/

namespace DesiredState.Yaml

/-- What a reader gives: a text and where it stops. -/
abbrev Written := Except Fault (Text × Cursor)

/-- What line ends leave between two words: `first` is the line end, and `more` are those of the
empty lines behind it. -/
def folded (first : CodePoint) (more : Text) : Text :=
  if first.val ≠ 0x0A then first :: more
  else if more.isEmpty then " "
  else more

/-! ## Plain scalars -/

/-- A colon before this text stands between a key and a value. -/
def endsKey (flow : Bool) : Text → Bool
  | [] => true
  | c :: _ => isGap c || (flow && isOneOf ",[]\x7b\x7d" c)

/-- The length of the word at the beginning of a text. -/
def wordLength (flow : Bool) : Text → Nat
  | [] => 0
  | c :: t =>
    if isGap c then 0
    else if c = ':' && endsKey flow t then 0
    else if flow && isOneOf ",?[]\x7b\x7d" c then 0
    else wordLength flow t + 1

/-- The line ends and spaces at the beginning of a text, as far as they can be inside a plain
scalar: the line ends, their length, and whether a document begins or ends behind them. -/
def plainBreaks : Text → Text × Nat × Bool
  | [] => ([], 0, false)
  | c :: t =>
    if c.val = 0x20 then
      let (breaks, n, marker) := plainBreaks t
      (breaks, n + 1, marker)
    else if isBreak c then
      if isMarker t then ([keptBreak c], 1, true)
      else
        let (breaks, n, marker) := plainBreaks t
        (keptBreak c :: breaks, n + 1, marker)
    else ([], 0, false)

/-- What is between two words of a plain scalar, and where the second could begin. Nothing is
given when the scalar ends here. -/
def plainGap (c : Cursor) : Option Text × Cursor :=
  let spaces := c.rest.takeWhile (·.val = 0x20)
  let c := c.advance spaces.length
  match c.rest with
  | x :: t =>
    if isBreak x then
      if isMarker t then (none, c.step)
      else
        let (breaks, n, marker) := plainBreaks t
        (if marker then none else some (folded (keptBreak x) breaks), c.step.advance n)
    else (if spaces.isEmpty then none else some spaces, c)
  | [] => (if spaces.isEmpty then none else some spaces, c)

/-- The words of a plain scalar behind `before`, and whether a line end follows them. The gap
before the next word has a line end if `crossed`. Outside of flow collections a word further left
than `indent` does not belong to the scalar. -/
def plainWords (flow : Bool) (indent : Nat) : (fuel : Nat) → (before gap : Text) →
    (crossed : Bool) → Cursor → Text × Bool × Cursor
  | 0, before, _, crossed, c => (before, crossed, c)
  | fuel + 1, before, gap, crossed, c =>
    let n := wordLength flow c.rest
    if c.isAt '#' || n = 0 then (before, crossed, c)
    else
      let before := before ++ gap ++ c.rest.take n
      let wordEnd := c.advance n
      match plainGap wordEnd with
      | (none, c) => (before, c.line ≠ wordEnd.line, c)
      | (some gap, c) =>
        let crossed : Bool := c.line ≠ wordEnd.line
        if !flow && c.column < indent then (before, crossed, c)
        else plainWords flow indent fuel before gap crossed c

/-- A plain scalar, and whether a line end follows it. -/
def plain (flow : Bool) (indent : Nat) (c : Cursor) : Text × Bool × Cursor :=
  plainWords flow indent c.rest.length [] [] false c

/-! ## Scalars between quotes -/

/-- The line ends of the empty lines at the cursor. -/
def quotedBreaks : (fuel : Nat) → Text → Cursor → Written
  | 0, _, _ => .error (.malformed "unexpected end")
  | fuel + 1, breaks, c =>
    if isMarker c.rest then .error (.malformed "unexpected document marker")
    else
      let c := c.advance (c.rest.takeWhile isSpacing).length
      match c.rest with
      | x :: _ =>
        if isBreak x then quotedBreaks fuel (breaks ++ [keptBreak x]) c.step
        else .ok (breaks, c)
      | [] => .ok (breaks, c)

/-- What the letter behind a backslash stands for. -/
def escapes : List (Char × Nat) :=
  [('0', 0x00), ('a', 0x07), ('b', 0x08), ('t', 0x09), ('\t', 0x09), ('n', 0x0A), ('v', 0x0B),
    ('f', 0x0C), ('r', 0x0D), ('e', 0x1B), (' ', 0x20), ('"', 0x22), ('\\', 0x5C), ('/', 0x2F),
    ('N', 0x85), ('_', 0xA0), ('L', 0x2028), ('P', 0x2029)]

/-- How many digits follow the letter behind a backslash. -/
def codeLengths : List (Char × Nat) := [('x', 2), ('u', 4), ('U', 8)]

/-- The value for a code point in a list of letters. -/
def forLetter (c : CodePoint) (entries : List (Char × Nat)) : Option Nat :=
  (entries.find? fun e => CodePoint.ofChar e.1 = c).map (·.2)

/-- The number that hexadecimal digits spell. -/
def hexNumber? (t : Text) : Option Nat :=
  t.foldl (fun n c => n.bind fun n => c.hexVal?.map (n * 16 + ·)) (some 0)

/-- The escape behind a backslash. -/
def escape (fuel : Nat) (c : Cursor) : Written :=
  match c.rest with
  | [] => .error (.malformed "unexpected end")
  | x :: t =>
    match forLetter x escapes, forLetter x codeLengths with
    | some n, _ => .ok ([CodePoint.ofNat n], c.step)
    | none, some length =>
      let digits := t.take length
      match hexNumber? digits with
      | some n =>
        if digits.length ≠ length then .error (.malformed "bad escape")
        else if n < 0x110000 then .ok ([CodePoint.ofNat n], c.advance (length + 1))
        else .error (.notPoint n)
      | none => .error (.malformed "bad escape")
    | none, none =>
      if isBreak x then quotedBreaks fuel [] c.step
      else .error (.malformed "unknown escape")

/-- Blanks and line ends inside quotes. -/
def quotedGap (fuel : Nat) (c : Cursor) : Written :=
  let spaces := c.rest.takeWhile isSpacing
  let c := c.advance spaces.length
  match c.rest with
  | [] => .error (.malformed "unexpected end")
  | x :: _ =>
    if isBreak x then do
      let (breaks, c) ← quotedBreaks fuel [] c.step
      return (folded (keptBreak x) breaks, c)
    else .ok (spaces, c)

/-- The text up to the closing quote; `before` is the text before it, last code point first. -/
def quotedText (quote : CodePoint) : (fuel : Nat) → (before : Text) → Cursor → Written
  | 0, _, _ => .error (.malformed "unexpected end")
  | fuel + 1, before, c =>
    match c.rest with
    | [] => .error (.malformed "unexpected end")
    | x :: t =>
      if x = quote then
        if x = '\'' && t.head? = some x then
          quotedText quote fuel (x :: before) (c.advance 2)
        else .ok (before.reverse, c.step)
      else if x = '\\' && quote = '"' then
        match escape fuel c.step with
        | .error e => .error e
        | .ok (t, c) => quotedText quote fuel (t.reverse ++ before) c
      else if isGap x then
        match quotedGap fuel c with
        | .error e => .error e
        | .ok (t, c) => quotedText quote fuel (t.reverse ++ before) c
      else quotedText quote fuel (x :: before) c.step

/-- The scalar behind an opening quote. -/
def quotedScalar (quote : CodePoint) (c : Cursor) : Written :=
  quotedText quote (c.rest.length + 1) [] c.step

/-! ## Blocks of lines -/

/-- What becomes of the line ends behind a block. -/
inductive Chomping
  | clip
  | strip
  | keep
  deriving DecidableEq

/-- The first line of a block: chomping and depth, each at most once and in either order. -/
def blockHeader (c : Cursor) : Except Fault (Chomping × Option Nat × Cursor) :=
  let chomping (c : Cursor) : Chomping × Cursor :=
    if c.isAt '+' then (.keep, c.step)
    else if c.isAt '-' then (.strip, c.step)
    else (.clip, c)
  let depth (c : Cursor) : Option Nat × Cursor :=
    match c.rest with
    | x :: _ => if x.isAsciiDigit then (some x.digitVal, c.step) else (none, c)
    | [] => (none, c)
  let (first, c) := chomping c
  let (depth, c) := depth c
  let (chomping, c) := if first = .clip then chomping c else (first, c)
  if depth = some 0 then .error (.malformed "bad indentation indicator")
  else if !endsWord c.rest || c.isAt '\t' then .error (.malformed "bad block indicator")
  else
    let c := c.advance (c.rest.takeWhile (·.val = 0x20)).length
    let c := if c.isAt '#' then c.advance (c.rest.takeWhile (!isBreak ·)).length else c
    if c.rest.isEmpty || c.nextIs isBreak then .ok (chomping, depth, c.step)
    else .error (.malformed "unexpected text behind a block indicator")

/-- The empty lines before a block and the width of its indentation. -/
def blockIndent : (fuel : Nat) → (breaks : Text) → (widest : Nat) → Cursor → Text × Nat × Cursor
  | 0, breaks, widest, c => (breaks, widest, c)
  | fuel + 1, breaks, widest, c =>
    match c.rest with
    | x :: _ =>
      if x.val = 0x20 then blockIndent fuel breaks (max widest (c.column + 1)) c.step
      else if isBreak x then blockIndent fuel (breaks ++ [keptBreak x]) widest c.step
      else (breaks, widest, c)
    | [] => (breaks, widest, c)

/-- The cursor behind at most as many spaces as reach a column. -/
def toColumn (indent : Nat) (c : Cursor) : Cursor :=
  c.advance ((c.rest.takeWhile (·.val = 0x20)).length.min (indent - c.column))

/-- The empty lines inside a block. -/
def blockBreaks (indent : Nat) : (fuel : Nat) → (breaks : Text) → Cursor → Text × Cursor
  | 0, breaks, c => (breaks, c)
  | fuel + 1, breaks, c =>
    let c := toColumn indent c
    match c.rest with
    | x :: _ =>
      if isBreak x then blockBreaks indent fuel (breaks ++ [keptBreak x]) c.step
      else (breaks, c)
    | [] => (breaks, c)

/-- The lines of a block behind `before`: its text, the last line end, the empty lines behind it
and the cursor. `breaks` are the line ends before the next line. -/
def blockLines (fold : Bool) (indent : Nat) : (fuel : Nat) → (before breaks lineEnd : Text) →
    Cursor → Text × Text × Text × Cursor
  | 0, before, breaks, lineEnd, c => (before, lineEnd, breaks, c)
  | fuel + 1, before, breaks, lineEnd, c =>
    if c.column ≠ indent || c.rest.isEmpty then (before, lineEnd, breaks, c)
    else
      let indented := c.nextIs isSpacing
      let line := c.rest.takeWhile (!isBreak ·)
      let before := before ++ breaks ++ line
      let c := c.advance line.length
      let lineEnd := (c.rest.take 1).map keptBreak
      let (breaks, c) := blockBreaks indent (c.rest.length + 1) [] c.step
      if c.column ≠ indent || c.rest.isEmpty then (before, lineEnd, breaks, c)
      else
        let joined : Text :=
          if fold && lineEnd = "\n" && !indented && !c.nextIs isSpacing then
            if breaks.isEmpty then " " else []
          else lineEnd
        blockLines fold indent fuel (before ++ joined) breaks [] c

/-- The block scalar behind a bar or an angle; `least` is the least width of its indentation. -/
def block (fold : Bool) (least : Nat) (c : Cursor) : Written := do
  let least := max least 1
  let (chomping, depth, c) ← blockHeader c.step
  let fuel := c.rest.length + 1
  let (breaks, indent, c) := match depth with
    | some depth =>
      let indent := least + depth - 1
      let (breaks, c) := blockBreaks indent fuel [] c
      (breaks, indent, c)
    | none =>
      let (breaks, widest, c) := blockIndent fuel [] 0 c
      (breaks, max least widest, c)
  let (text, lineEnd, breaks, c) := blockLines fold indent fuel [] breaks [] c
  let text := if chomping = .strip then text else text ++ lineEnd
  return (if chomping = .keep then text ++ breaks else text, c)

end DesiredState.Yaml
