import DesiredState.Number.Numeral
import DesiredState.Settings.Basic
import DesiredState.Settings.Environment
import DesiredState.Text.Case

/-!
# Settings from several sources

Each setting comes from the first source that has it: the command line, the environment, the
configuration files, the built-in default. What "has it" means differs: a time limit is there when
it is given at all, a flag of the command line when it is true, a word when it is not empty.

* `Settings.load`: the settings, or why they are refused.
* `Settings.check`: the last check, which also puts the array mode into its plain form.
-/

namespace DesiredState

/-- What the command line overrides. -/
structure Overrides where
  timeout : Option Binary64
  insecure : Bool
  debug : Bool
  arrayMode : Option Text
  stateDir : Option Text

/-- Nothing overridden. -/
def Overrides.none : Overrides := ⟨.none, false, false, .none, .none⟩

/-- Why settings are refused. A number that no floating point number is near to is not a fault
of the value but of its conversion. -/
inductive SettingsFault
  | notSeconds (source shown : Text)
  | tooLarge
  | unwritable
  | timeoutNotPositive (x : Binary64)
  | connectTimeoutNotPositive (x : Binary64)
  | unknownMode (mode : Text)
  | blankStateDir
  deriving DecidableEq

namespace SettingsFault

/-- What a fault says. -/
def message : SettingsFault → Text
  | .notSeconds v shown =>
    ("Invalid " : Text) ++ v ++ " '" ++ shown ++ "': must be a number of seconds"
  | .tooLarge => "int too large to convert to float"
  | .unwritable => Numeral.unwritableMessage
  | .timeoutNotPositive x =>
    ("Invalid timeout '" : Text) ++ x.toText ++ "': must be greater than 0"
  | .connectTimeoutNotPositive x =>
    ("Invalid connect timeout '" : Text) ++ x.toText ++ "': must be greater than 0"
  | .unknownMode mode =>
    ("Invalid array mode '" : Text) ++ mode ++ "': must be one of ordered, unordered"
  | .blankStateDir =>
    "State directory cannot be empty. Set RECONCILER_STATE_DIR environment variable."

/-- The fault lies in a value that was given, and not in a conversion. -/
def isRefusal : SettingsFault → Bool
  | .tooLarge => false
  | _ => true

end SettingsFault

namespace Settings

/-- The variable for the time limit on reading. -/
def timeoutVariable : Text := "RECONCILER_TIMEOUT"

/-- The variable for the time limit on connecting. -/
def connectTimeoutVariable : Text := "RECONCILER_CONNECT_TIMEOUT"

/-- A number of seconds from data. What is none is shown, unless a whole number in it is too long to
be written out. -/
def secondsOfData (v : Text) (d : Data) : Except SettingsFault Binary64 :=
  match d with
  | .float x => .ok x
  | .int n =>
    match Binary64.ofInt? n with
    | some x => .ok x
    | none => .error .tooLarge
  | .bool b => .ok (if b then Binary64.one else Binary64.zero false)
  | .str s =>
    match Numeral.real? s with
    | some x => .ok x
    | none => .error (.notSeconds v s)
  | d => .error (if d.isWritable then .notSeconds v d.shown else .unwritable)

/-- A time limit from the command line, else from the environment, else from the files, else the
default. -/
def seconds (env : Environment) (override : Option Binary64) (v : Text) (fallback : Option Data)
    (default : Binary64) : Except SettingsFault Binary64 :=
  match override, env.get? v, fallback with
  | some x, _, _ => .ok x
  | none, some t, _ => secondsOfData v (.str t)
  | none, none, none => .ok default
  | none, none, some .null => .ok default
  | none, none, some d => secondsOfData v d

/-- The words that switch a flag on. -/
def isOn (t : Text) : Bool :=
  let t := Text.lower t
  t = "true" || t = "1" || t = "yes" || t = "on"

/-- A flag from the command line, else from the environment, else from the files. -/
def flag (env : Environment) (override : Bool) (v : Text) (fallback : Option Data) : Bool :=
  override ||
    match env.get? v with
    | some t => isOn t
    | none => (fallback.map Data.isTruthy).getD false

/-- A word from data, unless a whole number in it is too long to be written out. -/
def wordOfData (d : Data) : Except SettingsFault Text :=
  if d.isWritable then .ok d.shown else .error .unwritable

/-- A word from the command line, else from the environment, else from the files, else the
default. Empty words count as missing. -/
def word (env : Environment) (override : Option Text) (v : Text) (fallback : Option Data)
    (default : Text) : Except SettingsFault Text :=
  match override, env.get? v, fallback with
  | some (c :: t), _, _ => .ok (c :: t)
  | _, some (c :: t), _ => .ok (c :: t)
  | _, _, some d => if d.isTruthy then wordOfData d else .ok default
  | _, _, none => .ok default

/-- Settings whose time limits are not at or below zero, whose mode is one of the two, without
blanks and in lower case, and whose directory is not blank. -/
def check (s : Settings) : Except SettingsFault Settings :=
  let mode := Text.lower (Text.trim s.arrayMode)
  if s.timeout.isNonpositive then .error (.timeoutNotPositive s.timeout)
  else if s.connectTimeout.isNonpositive then .error (.connectTimeoutNotPositive s.connectTimeout)
  else if (ArrayMode.ofName? mode).isNone then .error (.unknownMode mode)
  else if Text.isBlank s.stateDir then .error .blankStateDir
  else .ok { s with arrayMode := mode }

/-- What is logged about settings as a warning. -/
def warnings (s : Settings) : List Text :=
  if s.insecure then
    ["WARNING: TLS verification disabled (insecure=True). Use only for development."]
  else []

/-- The settings of a run. `files` holds what the configuration files say. -/
def load (overrides : Overrides) (env : Environment) (files : List (Key × Data)) :
    Except SettingsFault Settings := do
  let fallback (key : Text) := Data.find? key files
  let timeout ← seconds env overrides.timeout timeoutVariable (fallback "timeout") defaultTimeout
  let connectTimeout ← seconds env none connectTimeoutVariable (fallback "connect_timeout")
    defaultConnectTimeout
  let arrayMode ← word env overrides.arrayMode "RECONCILER_ARRAY_MODE" (fallback "array_mode")
    ArrayMode.ordered.name
  let stateDir ← word env overrides.stateDir "RECONCILER_STATE_DIR" (fallback "state_dir")
    defaultStateDir
  check {
    timeout := timeout
    connectTimeout := connectTimeout
    insecure := flag env overrides.insecure "RECONCILER_INSECURE" (fallback "insecure")
    debug := flag env overrides.debug "RECONCILER_DEBUG" (fallback "debug")
    arrayMode := arrayMode
    stateDir := stateDir }

end Settings

end DesiredState
