import DesiredState.Yaml.Written

/-!
# YAML tokens

The text as a list of tokens. Indentation is spelled out: a block collection has a token where it
begins, and one where the indentation falls back. A key has a token in front as well, although
nothing in the text marks it: only the colon behind it tells that it was a key. So a place where a
key could have begun is remembered until its line ends.

* `tokens`: all tokens of a text, or what is wrong with it.
-/

namespace DesiredState.Yaml

/-- A token. -/
inductive Token
  | documentStart
  | documentEnd
  | blockSequenceStart
  | blockMappingStart
  | blockEnd
  | flowSequenceStart
  | flowSequenceEnd
  | flowMappingStart
  | flowMappingEnd
  | blockEntry
  | flowEntry
  | key
  | value
  | scalar (text : Text) (isPlain : Bool)
  deriving DecidableEq

/-- A place where a key could have begun, with the number of tokens before it. At a place that the
indentation expects to be a key, a colon has to follow. -/
structure PossibleKey where
  before : Nat
  index : Nat
  line : Nat
  column : Nat
  required : Bool

/-- The state between tokens: those found, last first; the columns of the open block collections,
innermost first; for each open flow collection and for what is around them, innermost first, a
place where a key could have begun; and whether one could begin here. -/
structure Scanner where
  cursor : Cursor
  found : List Token
  count : Nat
  indents : List Nat
  keys : List (Option PossibleKey)
  keyAllowed : Bool

namespace Scanner

/-- The longest key, in code points. -/
def maxKeyLength : Nat := 1024

/-- Before the first token. -/
def start (t : Text) : Scanner := ⟨Cursor.start t, [], 0, [], [none], true⟩

/-- A flow collection is open. -/
def inFlow (s : Scanner) : Bool := 1 < s.keys.length

/-- One more token. -/
def emit (s : Scanner) (t : Token) : Scanner :=
  { s with found := t :: s.found, count := s.count + 1 }

/-- A token for the next code points. -/
def take (s : Scanner) (n : Nat) (t : Token) : Scanner :=
  { s.emit t with cursor := s.cursor.advance n }

/-- Tokens put before those that came since a place. -/
def insert (s : Scanner) (before : Nat) (ts : List Token) : Scanner :=
  let since := s.count - before
  { s with
    found := s.found.take since ++ ts.reverse ++ s.found.drop since
    count := s.count + ts.length }

/-- A column is further right than the innermost block collection. -/
def isDeeper (s : Scanner) (column : Nat) : Bool :=
  match s.indents with
  | [] => true
  | indent :: _ => indent < column

/-- The column from which on a scalar belongs to the innermost block collection. -/
def leastColumn (s : Scanner) : Nat :=
  match s.indents with
  | [] => 0
  | indent :: _ => indent + 1

/-- All block collections further right than `column` end. -/
def unwind (s : Scanner) (column : Nat) : Scanner :=
  if s.inFlow then s
  else
    let ended := s.indents.takeWhile (column < ·)
    ended.foldl (fun s _ => s.emit .blockEnd) { s with indents := s.indents.drop ended.length }

/-- All block collections end. -/
def unwindAll (s : Scanner) : Scanner :=
  if s.inFlow then s
  else s.indents.foldl (fun s _ => s.emit .blockEnd) { s with indents := [] }

/-- A place is too far back to be that of a key. -/
def isStale (s : Scanner) (k : PossibleKey) : Bool :=
  k.line ≠ s.cursor.line || maxKeyLength < s.cursor.index - k.index

/-- The places that are too far back are forgotten. -/
def forgetStale (s : Scanner) : Except Fault Scanner :=
  if s.keys.any fun k => k.any fun k => s.isStale k && k.required then
    .error (.malformed "could not find expected ':'")
  else .ok { s with keys := s.keys.map fun k => k.filter fun k => !s.isStale k }

/-- No key begins since the innermost collection began. -/
def forgetKey (s : Scanner) : Except Fault Scanner :=
  match s.keys with
  | some k :: keys =>
    if k.required then .error (.malformed "could not find expected ':'")
    else .ok { s with keys := none :: keys }
  | _ => .ok s

/-- A key may begin here. -/
def noteKey (s : Scanner) : Except Fault Scanner :=
  if !s.keyAllowed then .ok s
  else do
    let c := s.cursor
    let required := !s.inFlow && s.indents.head? = some c.column
    let s ← s.forgetKey
    return { s with keys := some ⟨s.count, c.index, c.line, c.column, required⟩ :: s.keys.tail }

/-- The text ends. -/
def finish (s : Scanner) : Except Fault (List Token) := do
  let s ← s.unwindAll.forgetKey
  return s.found.reverse

/-- A document begins or ends. -/
def marker (s : Scanner) (t : Token) : Except Fault Scanner := do
  let s ← s.unwindAll.forgetKey
  return { s.take 3 t with keyAllowed := false }

/-- A flow collection begins. -/
def openFlow (s : Scanner) (t : Token) : Except Fault Scanner := do
  let s ← s.noteKey
  return { s.take 1 t with keys := none :: s.keys, keyAllowed := true }

/-- A flow collection ends. -/
def closeFlow (s : Scanner) (t : Token) : Except Fault Scanner := do
  if !s.inFlow then throw (.malformed "unexpected end of a collection")
  let s ← s.forgetKey
  return { s.take 1 t with keys := s.keys.tail, keyAllowed := false }

/-- An item of a flow collection ends. -/
def flowEntry (s : Scanner) : Except Fault Scanner := do
  let s ← s.forgetKey
  return { s.take 1 .flowEntry with keyAllowed := true }

/-- A block collection begins unless it is the innermost one already. -/
def deepen (s : Scanner) (t : Token) : Scanner :=
  let column := s.cursor.column
  if s.isDeeper column then { s.emit t with indents := column :: s.indents } else s

/-- An item of a block sequence begins. -/
def blockEntry (s : Scanner) : Except Fault Scanner := do
  let s ← if s.inFlow then pure s
    else if s.keyAllowed then pure (s.deepen .blockSequenceStart)
    else throw (.malformed "sequence entries are not allowed here")
  let s ← s.forgetKey
  return { s.take 1 .blockEntry with keyAllowed := true }

/-- A key begins behind its mark. -/
def explicitKey (s : Scanner) : Except Fault Scanner := do
  let s ← if s.inFlow then pure s
    else if s.keyAllowed then pure (s.deepen .blockMappingStart)
    else throw (.malformed "mapping keys are not allowed here")
  let s ← s.forgetKey
  return { s.take 1 .key with keyAllowed := !s.inFlow }

/-- A value begins. What stands since the place where a key could have begun was the key. -/
def value (s : Scanner) : Except Fault Scanner :=
  match s.keys with
  | some k :: keys =>
    let s := { s with keys := none :: keys, keyAllowed := false }
    let s :=
      if !s.inFlow && s.isDeeper k.column then
        { s.insert k.before [.blockMappingStart, .key] with indents := k.column :: s.indents }
      else s.insert k.before [.key]
    .ok (s.take 1 .value)
  | _ => do
    let s ← if s.inFlow then pure s
      else if s.keyAllowed then pure (s.deepen .blockMappingStart)
      else throw (.malformed "mapping values are not allowed here")
    let s ← s.forgetKey
    return { s.take 1 .value with keyAllowed := !s.inFlow }

/-- A token for a scalar. -/
def scalar (s : Scanner) (text : Text) (isPlain : Bool) (c : Cursor) : Scanner :=
  { s.emit (.scalar text isPlain) with cursor := c }

/-- A scalar between quotes. -/
def quoted (s : Scanner) (quote : CodePoint) : Except Fault Scanner := do
  let s ← s.noteKey
  let (text, c) ← quotedScalar quote s.cursor
  return { s.scalar text false c with keyAllowed := false }

/-- A block scalar. -/
def blockScalar (s : Scanner) (fold : Bool) : Except Fault Scanner := do
  let s ← s.forgetKey
  let (text, c) ← block fold s.leastColumn s.cursor
  return { s.scalar text false c with keyAllowed := true }

/-- A plain scalar. -/
def plainScalar (s : Scanner) : Except Fault Scanner := do
  let s ← s.noteKey
  let (text, crossed, c) := plain s.inFlow s.leastColumn s.cursor
  return { s.scalar text true c with keyAllowed := crossed }

/-- A plain scalar can begin with `c` before `t`. -/
def beginsPlain (s : Scanner) (c : CodePoint) (t : Text) : Bool :=
  (!isGap c && !isOneOf "-?:,[]\x7b\x7d#&*!|>'\"%@\x60" c) ||
    (!endsWord t && (c = '-' || (!s.inFlow && isOneOf "?:" c)))

/-- Behind blanks, comments and line ends. -/
def skipGap (s : Scanner) : Scanner :=
  let c := if s.cursor.index = 0 && s.cursor.nextIs isByteOrderMark then s.cursor.step
    else s.cursor
  let c := c.advance (gapLength false c.rest)
  let crossed : Bool := c.line ≠ s.cursor.line
  { s with cursor := c, keyAllowed := s.keyAllowed || (crossed && !s.inFlow) }

/-- The next token, which begins with `c` before `t`. Directives, anchors, aliases and tags are
not part of the language. -/
def next (s : Scanner) (c : CodePoint) (t : Text) : Except Fault Scanner :=
  let column := s.cursor.column
  if column = 0 && c = '%' then .error (.malformed "directives are not supported")
  else if column = 0 && isDocumentStart (c :: t) then s.marker .documentStart
  else if column = 0 && isDocumentEnd (c :: t) then s.marker .documentEnd
  else if c = '[' then s.openFlow .flowSequenceStart
  else if c = CodePoint.ofNat 0x7B then s.openFlow .flowMappingStart
  else if c = ']' then s.closeFlow .flowSequenceEnd
  else if c = CodePoint.ofNat 0x7D then s.closeFlow .flowMappingEnd
  else if c = ',' then s.flowEntry
  else if c = '-' && endsWord t then s.blockEntry
  else if c = '?' && (s.inFlow || endsWord t) then s.explicitKey
  else if c = ':' && (s.inFlow || endsWord t) then s.value
  else if c = '|' && !s.inFlow then s.blockScalar false
  else if c = '>' && !s.inFlow then s.blockScalar true
  else if c = '\'' || c = '"' then s.quoted c
  else if s.beginsPlain c t then s.plainScalar
  else .error (.malformed "unexpected code point")

/-- All tokens from here on. -/
def run : (fuel : Nat) → Scanner → Except Fault (List Token)
  | 0, _ => .error (.malformed "unexpected end")
  | fuel + 1, s => do
    let s ← s.skipGap.forgetStale
    match s.cursor.rest with
    | [] => s.finish
    | c :: t =>
      let s ← (s.unwind s.cursor.column).next c t
      run fuel s

end Scanner

/-- All tokens of a text. -/
def tokens (t : Text) : Except Fault (List Token) :=
  if t.all isAllowed then Scanner.run (t.length + 2) (Scanner.start t)
  else .error (.malformed "special characters are not allowed")

end DesiredState.Yaml
