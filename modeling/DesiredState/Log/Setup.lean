import DesiredState.Files.Disk
import DesiredState.Log.Line
import DesiredState.Settings.Environment
import DesiredState.Text.Case
import DesiredState.Text.Utf8

/-!
# Setting up the log

Where records go and from which level on. The level comes from a variable, else from the caller,
and is that for debugging if this is asked for. Records go to the standard error stream, and to a
file if there is one.

* `Log.leastLevel`: the least level that is logged.
* `Log.Setup.make`: the log set up, or why not.
* `Log.Setup.lines`: what a handler writes of some records.
-/

namespace DesiredState.Log

/-- The words for levels. -/
def levelWords : List (Text × Level) :=
  [("CRITICAL", Level.critical), ("FATAL", Level.critical), ("ERROR", Level.error),
    ("WARNING", Level.warning), ("WARN", Level.warning), ("INFO", Level.info),
    ("DEBUG", Level.debug), ("NOTSET", 0)]

/-- The word for the default pattern for lines, which is no level. -/
def patternWord : Text := "BASIC_FORMAT"

/-- The word for the table of pattern styles, which is no level either. -/
def stylesWord : Text := "_STYLES"

/-- The default pattern for lines. -/
def defaultPattern : Text := "%(levelname)s:%(name)s:%(message)s"

/-- The table of pattern styles as messages show it. -/
def stylesShown : Text :=
  ("\x7b'%': (<class 'logging.PercentStyle'>, '%(levelname)s:%(name)s:%(message)s'), " : Text) ++
    "'\x7b': (<class 'logging.StrFormatStyle'>, " ++
    "'\x7blevelname\x7d:\x7bname\x7d:\x7bmessage\x7d'), " ++
    "'$': (<class 'logging.StringTemplateStyle'>, " ++
    "'$\x7blevelname\x7d:$\x7bname\x7d:$\x7bmessage\x7d')\x7d"

/-- Why a log is not set up: a path that cannot be handed to the system, since it has no encoding
or the code point zero; a file; or a word for something that is no level, be it a text or a
table. -/
inductive SetupFault
  | encoding (fault : Utf8Fault)
  | zero
  | file (fault : FileFault)
  | textLevel
  | tableLevel
  deriving DecidableEq

/-- What a fault says. -/
def SetupFault.message : SetupFault → Text
  | .encoding fault => fault.message
  | .zero => "embedded null byte"
  | .file fault => fault.message
  | .textLevel => ("Unknown level: " : Text) ++ Text.quoted defaultPattern
  | .tableLevel => ("Level not an integer or a valid string: " : Text) ++ stylesShown

/-- The variable for the level. -/
def levelVariable : Text := "LOG_LEVEL"

/-- The word for the level: from the variable, else from the caller, in upper case. -/
def levelWord (env : Environment) (level : Option Text) : Text :=
  Text.upper (match env.get? levelVariable, level with
    | some t, _ => t
    | none, some (c :: t) => c :: t
    | none, _ => "INFO")

/-- The least level that is logged. A word that names no level counts as `INFO`. -/
def leastLevel (env : Environment) (debug : Bool) (level : Option Text) :
    Except SetupFault Level :=
  let word := levelWord env level
  if debug then .ok Level.debug
  else if word = patternWord then .error .textLevel
  else if word = stylesWord then .error .tableLevel
  else .ok ((Entries.find? word levelWords).getD Level.info)

/-- Where lines go, and their style. -/
structure Handler where
  file : Option FilePath
  style : Style
  deriving DecidableEq

/-- A log that is set up. -/
structure Setup where
  threshold : Level
  handlers : List Handler
  deriving DecidableEq

namespace Setup

/-- The style that a word asks for. -/
def styleOf (format : Text) (withLogger : Bool) : Style :=
  if format = "json" then .json else .plain withLogger

/-- What is wrong with a path as a text for the system. -/
def pathFault? (path : Text) : Option SetupFault :=
  match Text.systemFault? path with
  | some fault => some (.encoding fault)
  | none => if path.contains (CodePoint.ofNat 0) then some .zero else none

/-- The handlers for a format, with the file opened if there is one; opening makes it. -/
def openHandlers (file : Option Text) (format : Text) (d : Disk) :
    Except SetupFault (List Handler × Disk) :=
  let stream : Handler := ⟨none, styleOf format false⟩
  match file with
  | some (c :: t) =>
    let path := d.absolute (FilePath.ofText (c :: t))
    match pathFault? path.text, d.append path [] with
    | some fault, _ => .error fault
    | none, .error e => .error (.file e)
    | none, .ok d => .ok ([stream, ⟨some path, styleOf format true⟩], d)
  | _ => .ok ([stream], d)

/-- The log set up. A file stays made when the level is refused. -/
def make (env : Environment) (debug : Bool) (file : Option Text) (format : Text)
    (level : Option Text) (d : Disk) : Except SetupFault Setup × Disk :=
  match openHandlers file format d with
  | .error e => (.error e, d)
  | .ok (handlers, d) =>
    match leastLevel env debug level with
    | .error e => (.error e, d)
    | .ok threshold => (.ok ⟨threshold, handlers⟩, d)

/-- The level from which on the libraries for exchanges log; without a limit of their own they
follow the rest. -/
def libraryLevel (s : Setup) : Level := if s.threshold = Level.debug then 0 else Level.warning

/-- What a handler writes of some records. -/
def lines (s : Setup) (h : Handler) (stamp : Text) (records : List Record) : Text :=
  (records.filter fun r => s.threshold ≤ r.level).flatMap fun r =>
    h.style.line stamp r ++ [CodePoint.ofNat 0x0A]

/-- What goes to the standard error stream. -/
def streamText (s : Setup) (stamp : Text) (records : List Record) : Text :=
  (s.handlers.filter (·.file.isNone)).flatMap fun h => s.lines h stamp records

/-- The disk with what goes to files. -/
def writeFiles (s : Setup) (stamp : Text) (records : List Record) (d : Disk) : Disk :=
  s.handlers.foldl (fun d h =>
    match h.file with
    | none => d
    | some path =>
      match d.append path (s.lines h stamp records) with
      | .ok d => d
      | .error _ => d) d

end Setup

end DesiredState.Log
