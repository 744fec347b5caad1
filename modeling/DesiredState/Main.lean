import DesiredState.CommandLine.Consulted
import Std.Time.DateTime.Timestamp

/-!
# The program

The outer layer: it brings the variables, the files and the time of the machine to a run, carries
out what the run has done to the disk, and prints. No transport is built in: every request fails
as one for which no connection can be made.
-/

namespace DesiredState.Program

/-- A text for the machine; what is no character is a question mark. -/
def spelled (t : Text) : String :=
  String.ofList (t.map fun c => if c.isSurrogate then '?' else Char.ofNat c.val)

/-- The path of a place. -/
def pathOf (place : Place) : String := spelled (FilePath.mk "/" place).text

/-- The text of bytes in UTF-8, and an empty text for any others. -/
def textOf (bytes : ByteArray) : Text := Text.ofString ((String.fromUTF8? bytes).getD "")

/-- The variables of the process. -/
def environment : IO Environment := do
  let .ok bytes ← (IO.FS.readBinFile "/proc/self/environ").toBaseIO | return []
  let settings := (Text.splitAt (CodePoint.ofNat 0) (textOf bytes)).map fun t =>
    let sign := CodePoint.ofChar '='
    (t.takeWhile (· ≠ sign), (t.dropWhile (· ≠ sign)).drop 1)
  return Entries.ofPairs settings

/-- What is stored at a place. -/
def nodeAt? (place : Place) : IO (Option FileNode) := do
  match ← (IO.FS.readBinFile (pathOf place)).toBaseIO with
  | .ok bytes => return some (.file (textOf bytes))
  | .error (.noFileOrDirectory ..) => return none
  | .error _ => return some .directory

/-- A disk with what is stored on the way along some paths. -/
def look (d : Disk) (paths : List FilePath) : IO Disk :=
  (paths.flatMap (·.way d.work)).foldlM (fun d place => do
    match ← nodeAt? place with
    | some node => return d.put place node
    | none => return d) d

/-- A file written whole and put in its place at once. -/
def replace (path : String) (text : Text) : IO Unit := do
  IO.FS.writeFile (path ++ ".new") (spelled text)
  IO.FS.rename (path ++ ".new") path

/-- What a run has stored at a place, stored on the machine. -/
def keep (given : Disk) (place : Place) (node : FileNode) : IO Unit := do
  let path := pathOf place
  match given.at? place, node with
  | some .directory, _ => return
  | _, .directory => IO.FS.createDirAll path
  | none, .file text => replace path text
  | some (.file old), .file text =>
    match Text.cut? old text with
    | some [] => return
    | some more => (← IO.FS.Handle.mk path .append).putStr (spelled more)
    | none => replace path text

/-- The time as log lines show it. -/
def stamp : IO Text := do
  let now ← Std.Time.Timestamp.now
  return (Log.Instant.ofInt now.toSecondsSinceUnixEpoch.val).stamp DateFormat.plain

/-- No request is answered; a run sends at most two. -/
def offline : List Arrival := List.replicate 2 ⟨.failed "no connection can be made", false⟩

/-- What is printed about a fault that nothing reports. -/
def escapedText : Trouble → Text
  | .configuration f => Run.configurationMessage f
  | .logging f => f.message
  | .execution f => f.message
  | .summary => SaveFault.unwritable.message

/-- The status of the process, and what is still to be printed. -/
def conclusion (r : Run) : Nat × Text :=
  match r.ending with
  | .stopped status => (status, [])
  | .succeeded => (0, [])
  | .failed _ => (1, [])
  | .escaped trouble => (1, escapedText trouble ++ "\n")

end DesiredState.Program

open DesiredState DesiredState.Program in
/-- The program. -/
def main (args : List String) : IO UInt32 := do
  let words := args.map Text.ofString
  let env ← environment
  let work := (FilePath.ofText (Text.ofString (← IO.currentDir).toString)).names
  let start ← look ⟨[], []⟩ [⟨"/", work⟩]
  let start := { start with work }
  let first ← look start (Run.consulted words env start)
  let disk ← look first (Run.consulted words env first)
  let r := (Run.run words env offline (← stamp) disk).finish
  r.disk.nodes.forM fun (place, node) => keep disk place node
  let (status, more) := conclusion r
  IO.print (spelled r.out)
  IO.eprint (spelled (r.err ++ more))
  return status.toUInt32
