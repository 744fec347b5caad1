import DesiredState.Json.Encode
import DesiredState.Log.DateFormat
import DesiredState.Log.Record
import DesiredState.Number.Binary64

/-!
# Log lines

A record written out: as a line of text, in which the name of the logger may be left out, or as a
JSON object on one line.

* `Instant.stamp`: the time of a record.
* `Log.jsonLine`: a record as a JSON object.
* `Log.Style.line`: a record in a style.
-/

namespace DesiredState.Log

/-- The time of a record: a moment, and the thousandths of a second between it and the whole
second nearest to zero. -/
structure Instant where
  moment : Moment
  thousandths : Int

namespace Instant

/-- A whole number of seconds. -/
def ofInt (n : Int) : Instant := ⟨Moment.ofSeconds n, 0⟩

/-- A number of seconds. -/
def ofReal? : Binary64 → Option Instant
  | .finite negative m e =>
    let (num, den) := Binary64.ratio m e
    let signed (n : Nat) : Int := if negative then -n else n
    let thousandths := (Binary64.ofRatio negative (num % den * 1000) den).truncated?.getD 0
    some ⟨Moment.ofSeconds ((signed num).fdiv den), thousandths⟩
  | _ => none

/-- The time in a format; without a format, to the thousandth of a second. -/
def stamp (i : Instant) (format : Text) : Text :=
  if format.isEmpty then
    let n := i.thousandths
    let sign : Text := if n < 0 then "-" else []
    DateFormat.fill i.moment DateFormat.plain ++ "," ++ sign ++
      Text.padded (3 - sign.length) n.natAbs
  else DateFormat.fill i.moment format

end Instant

/-- The members of a record: when it was made, its level, its logger, its message, and the
exception that it tells of, if there is one. -/
def members (stamp level logger message : Text) (trouble : Option Text) : List (Text × Json) :=
  let always : List (Text × Json) :=
    [("ts", .str stamp), ("level", .str level), ("logger", .str logger), ("msg", .str message)]
  let more : List (Text × Json) := match trouble with
    | none => []
    | some t => [("exc", .str t)]
  always ++ more

/-- A record as a JSON object. -/
def jsonLine (stamp level logger message : Text) (trouble : Option Text) : Text :=
  Json.encode (.obj (members stamp level logger message trouble))

/-- How lines are written. -/
inductive Style
  | plain (withLogger : Bool)
  | json
  deriving DecidableEq

namespace Style

/-- The pattern of a plain line. -/
def pattern? : Style → Option Text
  | .plain true => some "[%(asctime)s] [%(levelname)s] %(name)s %(message)s"
  | .plain false => some "[%(asctime)s] [%(levelname)s] %(message)s"
  | .json => none

/-- A record made at a time, in a style. -/
def line (style : Style) (stamp : Text) (r : Record) : Text :=
  match style with
  | .json => jsonLine stamp r.level.name r.logger r.message none
  | .plain withLogger =>
    let logger : Text := if withLogger then r.logger ++ " " else []
    ("[" : Text) ++ stamp ++ "] [" ++ r.level.name ++ "] " ++ logger ++ r.message

end Style

end DesiredState.Log
