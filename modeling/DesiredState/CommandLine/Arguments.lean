import DesiredState.Text.Digit
import DesiredState.Text.Quoted

/-!
# Arguments

The words of a command line, sorted into options and others. An option is a word that begins with
a dash. A long one may be cut short as long as only one option begins like it, and may have its
value behind an equals sign. Negative numbers and words with a blank in them are no options, and
neither is anything behind a word of two dashes.

* `Grammar.marks`: the kind of each word.
* `UsageFault.message`: what is wrong with a command line.
-/

namespace DesiredState

/-- What is wrong with a command line. -/
inductive UsageFault
  | ambiguous (word : Text) (options : List Text)
  | noValue (argument : Text)
  | ignoredValue (argument value : Text)
  | notReal (argument value : Text)
  | notChoice (argument value : Text) (choices : List Text)
  | missing (argument : Text)
  | unrecognized (words : List Text)
  deriving DecidableEq

namespace UsageFault

/-- What a fault says. -/
def message : UsageFault → Text
  | .ambiguous word options =>
    ("ambiguous option: " : Text) ++ word ++ " could match " ++ Text.joinWith ", " options
  | .noValue argument => ("argument " : Text) ++ argument ++ ": expected one argument"
  | .ignoredValue argument value =>
    ("argument " : Text) ++ argument ++ ": ignored explicit argument " ++ Text.quoted value
  | .notReal argument value =>
    ("argument " : Text) ++ argument ++ ": invalid float value: " ++ Text.quoted value
  | .notChoice argument value choices =>
    ("argument " : Text) ++ argument ++ ": invalid choice: " ++ Text.quoted value ++
      " (choose from " ++ Text.joinWith ", " (choices.map Text.quoted) ++ ")"
  | .missing argument => ("the following arguments are required: " : Text) ++ argument
  | .unrecognized words => ("unrecognized arguments: " : Text) ++ Text.joinWith " " words

end UsageFault

/-- The kind of a word. An option that the grammar does not know has no name. A value may be in
the same word, behind an equals sign or, in a short option, directly behind the letter. -/
inductive Mark
  | separator
  | word
  | option (name : Option Text) (value : Option Text) (behindSign : Bool)
  deriving DecidableEq

/-- The options of a program: how each is written, in order. -/
structure Grammar where
  options : List Text

namespace Grammar

/-- The code point in front of options. -/
def dash : CodePoint := '-'

/-- A word up to the first equals sign and what follows that. -/
def split (t : Text) : Text × Option Text :=
  let sign := CodePoint.ofChar '='
  let name := t.takeWhile (· ≠ sign)
  match t.dropWhile (· ≠ sign) with
  | [] => (name, none)
  | _ :: value => (name, some value)

/-- The word is a negative number: digits with at most one point, which has digits behind it. -/
def isNegativeNumber : Text → Bool
  | [] => false
  | c :: t =>
    let point := CodePoint.ofChar '.'
    let whole := t.takeWhile CodePoint.isDecimal
    c = dash &&
      match t.dropWhile CodePoint.isDecimal with
      | [] => !whole.isEmpty
      | d :: rest => d = point && !rest.isEmpty && rest.all CodePoint.isDecimal

/-- The options for which a word may stand, each with the value in the same word. -/
def readings (g : Grammar) (t : Text) : List (Text × Option Text × Bool) :=
  match t with
  | c :: d :: rest =>
    if d = dash then
      let (name, value) := split t
      (g.options.filter (Text.startsWith · name)).map fun o => (o, value, true)
    else
      g.options.filterMap fun o =>
        if o = [c, d] then some (o, some rest, false)
        else if Text.startsWith o t then some (o, none, false)
        else none
  | _ => []

/-- The kind of a word before any separator. -/
def mark (g : Grammar) (t : Text) : Except UsageFault Mark :=
  let (name, value) := split t
  if t.head? ≠ some dash then .ok .word
  else if g.options.contains t then .ok (.option (some t) none false)
  else if t.length = 1 then .ok .word
  else if value.isSome && g.options.contains name then .ok (.option (some name) value true)
  else
    match g.readings t with
    | [(o, value, behindSign)] => .ok (.option (some o) value behindSign)
    | [] =>
      if isNegativeNumber t || t.contains (CodePoint.ofChar ' ') then .ok .word
      else .ok (.option none none false)
    | os => .error (.ambiguous t (os.map (·.1)))

/-- The kind of each word. -/
def marks (g : Grammar) :
    List Text → Except UsageFault (List (Text × Mark))
  | [] => .ok []
  | t :: ts =>
    if t = "--" then .ok ((t, .separator) :: ts.map fun t => (t, .word))
    else do
      let m ← g.mark t
      return (t, m) :: (← g.marks ts)

end Grammar

end DesiredState
