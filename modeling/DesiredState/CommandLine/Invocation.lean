import DesiredState.CommandLine.Arguments
import DesiredState.Number.Numeral
import DesiredState.Settings.Load

/-!
# Invocations

What a command line asks for: a command, the file that declares the resource, and options. Options
come before or behind the file and may come more than once; the last one counts. Words that are
left over are reported when nothing else is wrong.

* `Invocation.ofWords`: the invocation, or why there is none.
-/

namespace DesiredState

/-- What is to be done with a resource. -/
inductive Command
  | observe
  | reconcile
  | delete
  deriving DecidableEq

namespace Command

/-- The word for a command. -/
def name : Command → Text
  | .observe => "observe"
  | .reconcile => "reconcile"
  | .delete => "delete"

/-- All commands. -/
def all : List Command := [.observe, .reconcile, .delete]

/-- The command that a word names. -/
def ofName? (t : Text) : Option Command := all.find? fun c => c.name = t

end Command

/-- What a command line asks for besides the command. -/
structure Options where
  resourceFile : Option Text
  stateDir : Option Text
  timeout : Option Binary64
  insecure : Bool
  arrayMode : Option Text
  debug : Bool
  logFile : Option Text
  logFormat : Option Text

/-- What a command line asks for. -/
structure Invocation where
  command : Command
  resourceFile : Text
  options : Options

/-- Why a command line leads to no run. The program that reports a fault is that of a command once
there is one. -/
inductive Stop
  | help
  | version
  | usage (command : Option Command) (fault : UsageFault)
  deriving DecidableEq

namespace Options

/-- Nothing asked for. -/
def none : Options := ⟨.none, .none, .none, false, .none, false, .none, .none⟩

/-- The options of commands. -/
def grammar : Grammar :=
  ⟨["-h", "--help", "--state-dir", "--timeout", "--insecure", "--array-mode", "--debug",
    "--log-file", "--log-format"]⟩

/-- An option has a value. -/
def hasValue (name : Text) : Bool :=
  !(["-h", "--help", "--insecure", "--debug"] : List Text).contains name

/-- What messages call an option. -/
def called (name : Text) : Text := if name = "-h" || name = "--help" then "-h/--help" else name

/-- A value that has to be one of some words. -/
def choice (name value : Text) (choices : List Text) : Except UsageFault Text :=
  if choices.contains value then .ok value else .error (.notChoice name value choices)

/-- The options with one that has a value set. -/
def setValue (o : Options) (name value : Text) : Except UsageFault Options :=
  if name = "--state-dir" then .ok { o with stateDir := value }
  else if name = "--log-file" then .ok { o with logFile := value }
  else if name = "--array-mode" then
    (choice name value [ArrayMode.ordered.name, ArrayMode.unordered.name]).map fun v =>
      { o with arrayMode := v }
  else if name = "--log-format" then
    (choice name value ["text", "json"]).map fun v => { o with logFormat := v }
  else if name = "--timeout" then
    match Numeral.real? value with
    | some x => .ok { o with timeout := some x }
    | .none => .error (.notReal name value)
  else .ok o

/-- The options with a flag set. -/
def setFlag (o : Options) (name : Text) : Options :=
  if name = "--insecure" then { o with insecure := true }
  else if name = "--debug" then { o with debug := true }
  else o

/-- A short option asks for help; what follows its letter may not begin with a dash or an equals
sign. -/
def helps (value : Option Text) (behindSign : Bool) : Bool :=
  match value with
  | .none => true
  | some v => !behindSign && v.head? ≠ some Grammar.dash

end Options

/-- Words that were read: the options, and the words left over. -/
structure Reading where
  options : Options
  extra : List Text

namespace Reading

/-- A fault of the words behind a command. -/
def refuse {α : Type} (c : Command) (f : UsageFault) : Except Stop α :=
  .error (.usage (some c) f)

/-- The reading with an option set that stands in one word. -/
def single (c : Command) (r : Reading) (name : Text) (value : Option Text)
    (behindSign : Bool) : Except Stop Reading :=
  let argument := Options.called name
  match value with
  | .none =>
    if argument = name then .ok { r with options := r.options.setFlag name } else .error .help
  | some v =>
    if Options.hasValue name then
      match r.options.setValue name v with
      | .ok options => .ok { r with options }
      | .error f => refuse c f
    else if name = "-h" && Options.helps value behindSign then .error .help
    else refuse c (.ignoredValue argument v)

/-- The reading of the words behind a command. -/
def ofMarks (c : Command) (r : Reading) : List (Text × Mark) → Except Stop Reading
  | [] => .ok r
  | (t, .option .none _ _) :: ts => ofMarks c { r with extra := r.extra ++ [t] } ts
  | (_, .option (some name) .none sign) :: ts =>
    if Options.hasValue name then
      match ts with
      | (v, .word) :: ts =>
        match r.options.setValue name v with
        | .ok options => ofMarks c { r with options } ts
        | .error f => refuse c f
      | _ => refuse c (.noValue name)
    else
      match single c r name .none sign with
      | .ok r => ofMarks c r ts
      | .error e => .error e
  | (_, .option (some name) (some v) sign) :: ts =>
    match single c r name (some v) sign with
    | .ok r => ofMarks c r ts
    | .error e => .error e
  | (t, .separator) :: (v, .word) :: ts =>
    match r.options.resourceFile with
    | .none => ofMarks c { r with options := { r.options with resourceFile := some v } } ts
    | some _ => ofMarks c { r with extra := r.extra ++ [t, v] } ts
  | (t, .word) :: (s, .separator) :: ts =>
    match r.options.resourceFile with
    | .none => ofMarks c { r with options := { r.options with resourceFile := some t } } ts
    | some _ => ofMarks c { r with extra := r.extra ++ [t] } ((s, .separator) :: ts)
  | (t, .word) :: ts =>
    match r.options.resourceFile with
    | .none => ofMarks c { r with options := { r.options with resourceFile := some t } } ts
    | some _ => ofMarks c { r with extra := r.extra ++ [t] } ts
  | (t, .separator) :: ts => ofMarks c { r with extra := r.extra ++ [t] } ts
termination_by ts => ts.length

end Reading

namespace Invocation

/-- The options in front of a command. -/
def grammar : Grammar := ⟨["-h", "--help", "--version"]⟩

/-- What the command is called when it is missing or unknown. -/
def commandArgument : Text := "command"

/-- The invocation that a command and the words behind it make; `extra` are words left over
before. -/
def ofCommand (extra : List Text) (word : Text) (words : List Text) : Except Stop Invocation :=
  match Command.ofName? word with
  | none =>
    .error (.usage none (.notChoice commandArgument word (Command.all.map Command.name)))
  | some c =>
    match Options.grammar.marks words with
    | .error f => Reading.refuse c f
    | .ok marks =>
      match Reading.ofMarks c ⟨Options.none, []⟩ marks with
      | .error e => .error e
      | .ok r =>
        match r.options.resourceFile, extra ++ r.extra with
        | none, _ => Reading.refuse c (.missing "resource_file")
        | some file, [] => .ok ⟨c, file, r.options⟩
        | some _, words => .error (.usage none (.unrecognized words))

/-- What an option in front of a command leads to. -/
def stopAt (name : Text) (value : Option Text) (behindSign : Bool) : Stop :=
  let argument := Options.called name
  match value with
  | none => if argument = name then .version else .help
  | some v =>
    if name = "-h" && Options.helps value behindSign then .help
    else .usage none (.ignoredValue argument v)

/-- The invocation of marked words; `extra` are words left over before. -/
def ofMarks (extra : List Text) : List (Text × Mark) → Except Stop Invocation
  | [] => .error (.usage none (.missing commandArgument))
  | (t, .option none _ _) :: ts => ofMarks (extra ++ [t]) ts
  | (_, .option (some name) value sign) :: _ => .error (stopAt name value sign)
  | (t, .word) :: ts => ofCommand extra t (ts.map Prod.fst)
  | (t, .separator) :: (v, .word) :: ts => ofCommand extra t ((v, Mark.word) :: ts |>.map Prod.fst)
  | (t, .separator) :: ts => ofMarks (extra ++ [t]) ts

/-- The invocation of the words of a command line. -/
def ofWords (words : List Text) : Except Stop Invocation :=
  match grammar.marks words with
  | .error f => .error (.usage none f)
  | .ok marks => ofMarks [] marks

/-- What the invocation overrides. -/
def overrides (i : Invocation) : Overrides :=
  ⟨i.options.timeout, i.options.insecure, i.options.debug, i.options.arrayMode,
    i.options.stateDir⟩

end Invocation

end DesiredState
