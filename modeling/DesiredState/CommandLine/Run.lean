import DesiredState.CommandLine.Execution
import DesiredState.Log.Setup
import DesiredState.Settings.Hierarchy

/-!
# A run of the program

From the words of a command line to what is printed: the invocation is read, the configuration
loaded, the log set up, the command carried out, and its summary printed. Warnings about the
configuration come before there is a log and are printed as they are.

* `Run.run`: a run.
* `Run.finish`: a run as a process of its own, which also answers an interruption.
-/

namespace DesiredState

/-- What goes wrong in a run. -/
inductive Trouble
  | configuration (fault : ConfigurationFault)
  | logging (fault : Log.SetupFault)
  | execution (fault : ExecutionFault)
  | summary

/-- How a run ends: with a summary; with a reported fault; before it begins, with a status for the
process; or with a fault that nothing reports. -/
inductive Ending
  | succeeded
  | failed (trouble : Trouble)
  | stopped (status : Nat)
  | escaped (trouble : Trouble)

/-- What a run leaves behind. -/
structure Run where
  ending : Ending
  out : Text
  err : Text
  sent : List Sent
  disk : Disk

namespace Run

/-- The name of the program. -/
def program : Text := "request-reconciler"

/-- The version of the program. -/
def versionLine : Text := program ++ " version 0.1.0\n"

/-- How the program is called. -/
def usageLine : Text :=
  ("usage: " : Text) ++ program ++ " [--version] (observe | reconcile | delete) FILE" ++
    " [--state-dir DIR] [--timeout SECONDS] [--insecure] [--array-mode MODE]" ++
    " [--debug] [--log-file FILE] [--log-format FORMAT]\n"

/-- What is printed about a fault of the command line. -/
def usageError (command : Option Command) (f : UsageFault) : Text :=
  let reporter : Text := match command with
    | none => program
    | some c => program ++ " " ++ c.name
  reporter ++ ": error: " ++ f.message ++ "\n"

/-- The run that a command line without invocation makes. -/
def ofStop (d : Disk) : Stop → Run
  | .help => ⟨.stopped 0, usageLine, [], [], d⟩
  | .version => ⟨.stopped 0, versionLine, [], [], d⟩
  | .usage command f => ⟨.stopped 2, [], usageError command f, [], d⟩

/-- A fault in the configuration that is reported. Some are not: a configuration whose keys are
not all texts, a home directory that is not known, and a text for which there is no room. -/
def isReported : ConfigurationFault → Bool
  | .files .noHome => false
  | .files (.content f) => f.isReported
  | .files (.reference _) => true
  | .form .keyNotText => false
  | .form (.report _) => true
  | .settings f => f.isRefusal

/-- What a fault in the configuration says; a report is a listing. -/
def configurationMessage : ConfigurationFault → Text
  | .files f => f.message
  | .form .keyNotText => ConfigFile.keyNotTextMessage
  | .form (.report r) => r.listing
  | .settings f => f.message

/-- Texts, each on a line. -/
def lines (ts : List Text) : Text := ts.flatMap fun t => t ++ [CodePoint.ofNat 0x0A]

/-- The logger of this module. -/
def logger : Text := "request_reconciler.cli"

/-- The record of a command that failed. -/
def failureRecord (c : Command) (f : ExecutionFault) : Log.Record :=
  ⟨Log.Level.error, logger, c.name ++ " failed: " ++ f.message⟩

/-- The run once the log is set up; `before` is what was printed before. -/
def execute (x : Execution) (setup : Log.Setup) (arrivals : List Arrival) (stamp before : Text)
    (d : Disk) : Run :=
  let (result, w) := x.run ⟨arrivals, .absent, [], d, [], []⟩
  let logged (records : List Log.Record) : Text × Disk :=
    (before ++ setup.streamText stamp records, setup.writeFiles stamp records w.store)
  match result with
  | .ok summary =>
    let (err, d) := logged w.log
    if Json.isWritable summary.toJson then
      ⟨.succeeded, Json.encodeIndented 2 0 summary.toJson ++ "\n", err, w.sent, d⟩
    else ⟨.escaped .summary, [], err, w.sent, d⟩
  | .error f =>
    if f.isReported then
      let (err, d) := logged (w.log ++ [failureRecord x.command f])
      ⟨.failed (.execution f), [], err ++ lines [("Error: " : Text) ++ f.message], w.sent, d⟩
    else
      let (err, d) := logged w.log
      ⟨.escaped (.execution f), [], err, w.sent, d⟩

/-- The first of two words that is there and not empty; else the second as it is. -/
def firstWord (t u : Option Text) : Option Text :=
  match t with
  | some (c :: t) => some (c :: t)
  | _ => u

/-- The log file that an invocation or else the configuration names. -/
def logFile (i : Invocation) (c : Configuration) : Option Text :=
  firstWord i.options.logFile c.file.logging.file

/-- The log set up for an invocation. -/
def setUp (i : Invocation) (c : Configuration) (env : Environment) (d : Disk) :
    Except Log.SetupFault Log.Setup × Disk :=
  let format := (firstWord i.options.logFormat (some c.file.logging.format)).getD []
  Log.Setup.make env c.settings.debug (logFile i c) format (some c.file.logging.level) d

/-- The run of an invocation. -/
def ofInvocation (i : Invocation) (env : Environment) (arrivals : List Arrival) (stamp : Text)
    (d : Disk) : Run :=
  match Configuration.load i.overrides env d with
  | (.error f, warnings) =>
    let trouble := Trouble.configuration f
    if isReported f then
      ⟨.failed trouble, [],
        lines (warnings ++ [("Configuration error: " : Text) ++ configurationMessage f]), [], d⟩
    else ⟨.escaped trouble, [], lines warnings, [], d⟩
  | (.ok c, warnings) =>
    match setUp i c env d with
    | (.error f, d) => ⟨.escaped (.logging f), [], lines warnings, [], d⟩
    | (.ok setup, d) =>
      execute ⟨i.command, FilePath.ofText i.resourceFile, c.settings, env⟩ setup arrivals stamp
        (lines warnings) d

/-- The run of a command line. `stamp` is the time that log lines show. -/
def run (words : List Text) (env : Environment) (arrivals : List Arrival) (stamp : Text)
    (d : Disk) : Run :=
  match Invocation.ofWords words with
  | .error stop => ofStop d stop
  | .ok i => ofInvocation i env arrivals stamp d

/-- The run as a process of its own: it ends with a status, also when it is interrupted. -/
def finish (r : Run) : Run :=
  match r.ending with
  | .succeeded => { r with ending := .stopped 0 }
  | .failed _ => { r with ending := .stopped 1 }
  | .escaped (.execution (.verb .interrupted)) =>
    { r with ending := .stopped 130, err := r.err ++ "\nInterrupted.\n" }
  | _ => r

end Run

end DesiredState
