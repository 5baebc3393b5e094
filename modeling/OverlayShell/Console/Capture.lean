import OverlayShell.Console.Notice
import OverlayShell.Console.Template

/-!
# Capturing records

Records are written to named logs, whose names nest by dots. A log lets a record through from a rank
on; one without a rank of its own goes by the nearest log around it that has one. While the console
is captured at a log, it gets what that log and the logs in it let through, from the rank of the
capture on; afterwards the log has the rank that it had before.

A log comes into being when it is first asked for, and only those that are there are around others.
-/

namespace OverlayShell

structure LogRecord where
  log : String
  rank : Int
  template : String
  args : List Document

namespace Log

def canonical (name : String) : String := if name = "root" then "" else name

/-- The logs around a log whose name is given in reverse, nearest first, without the one around all
others. The name of a log outside ends before a dot. If it is not among the `known` ones, the dots
further out are looked for, but not directly in front of that dot. -/
def around (known : List String) : List Char → List String
  | [] => []
  | '.' :: before =>
    let name := String.ofList before.reverse
    if !before.isEmpty && known.contains name then name :: around known before
    else
      match before with
      | [] => []
      | _ :: further => around known further
  | _ :: before => around known before

/-- The log and the logs `around` it, nearest first. The name of the one around all others is
empty. -/
def chain (known : List String) (name : String) : List String :=
  if name = "" then [""] else name :: around known name.toList.reverse ++ [""]

/-- The ranks that logs have of their own; zero is none. -/
abbrev Ranks := String → Int

def startRanks : Ranks := fun name => if name = "" then 30 else 0

def setRank (ranks : Ranks) (name : String) (rank : Int) : Ranks := fun other =>
  if other = name then rank else ranks other

/-- The rank by which a log goes: the nearest one that a log of its `chain` has of its own. -/
def effective (known : List String) (ranks : Ranks) (name : String) : Int :=
  (((chain known name).map ranks).find? (· != 0)).getD 0

def letsThrough (known : List String) (ranks : Ranks) (name : String) (rank : Int) : Bool :=
  0 < rank && effective known ranks name ≤ rank

abbrev Decisions := List ((String × Int) × Bool)

end Log

structure Capture where
  log : String
  rank : Int

/-! ## Writing records -/

structure Logs where
  ranks : Log.Ranks
  known : List String
  /-- What they have decided since one of them was last given a rank. -/
  decisions : Log.Decisions
  capture : Option Capture

namespace Logs

def start : Logs := ⟨Log.startRanks, [], [], none⟩

def ask (logs : Logs) (name : String) : Logs := { logs with known := name :: logs.known }

/-- A log is given a rank of its own, so that all `decisions` are made anew. -/
def setRank (logs : Logs) (name : String) (rank : Int) : Logs :=
  { logs.ask name with ranks := Log.setRank logs.ranks name rank, decisions := [] }

/-- The decision of a log about records of `rank`. A log that has decided once keeps to it. -/
def decide (logs : Logs) (name : String) (rank : Int) : Bool :=
  (logs.decisions.lookup (name, rank)).getD (Log.letsThrough logs.known logs.ranks name rank)

def write (logs : Logs) (record : LogRecord) : Logs :=
  let logs := logs.ask record.log
  let decision := logs.decide record.log record.rank
  { logs with decisions := ((record.log, record.rank), decision) :: logs.decisions }

def takes (logs : Logs) (record : LogRecord) : Bool :=
  let logs := logs.ask record.log
  logs.decide record.log record.rank &&
    logs.capture.any fun c =>
      (Log.chain logs.known record.log).contains c.log && c.rank ≤ record.rank

end Logs

structure Delivery where
  /-- What the console got: the word for the rank, and the filled text. -/
  events : List (String × String)
  /-- Why `events` has not all of the records, if so. -/
  failure : Option TemplateError
  logs : Logs

/-- Records are written in turn. A text is filled for the console only; if that fails, the writing
ends with a `failure`. -/
def Logs.deliver (logs : Logs) : List LogRecord → Delivery
  | [] => ⟨[], none, logs⟩
  | record :: rest =>
    if logs.takes record then
      match fillTemplate record.template record.args with
      | .error failure => ⟨[], some failure, logs.write record⟩
      | .ok text =>
        let others := (logs.write record).deliver rest
        { others with events := (rankWord record.rank, text) :: others.events }
    else (logs.write record).deliver rest

/-! ## Captures -/

namespace Capture

/-- The log of the capture is to let everything through that is captured. -/
def begun (c : Capture) (logs : Logs) : Logs :=
  let logs := { logs.ask c.log with capture := some c }
  let own := logs.ranks c.log
  if own = 0 || own > c.rank then logs.setRank c.log c.rank else logs

def ended (c : Capture) (before : Int) (logs : Logs) : Logs :=
  { logs with capture := none }.setRank c.log before

/-- Records are written while the console is captured. The capture is `ended` however the writing
does. -/
def run (c : Capture) (logs : Logs) (records : List LogRecord) : Delivery :=
  let inside := (c.begun logs).deliver records
  { inside with logs := c.ended (logs.ranks c.log) inside.logs }

def captured (c : Capture) (ranks : Log.Ranks) (known : List String) (records : List LogRecord) :
    Except TemplateError (List (String × String)) :=
  let delivery := c.run { Logs.start with ranks, known } records
  match delivery.failure with
  | some failure => .error failure
  | none => .ok delivery.events

end Capture

end OverlayShell
