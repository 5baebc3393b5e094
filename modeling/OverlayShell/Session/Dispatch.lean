import OverlayShell.Document.Json
import OverlayShell.Session.Diversions
import OverlayShell.Session.Environment
import OverlayShell.Session.Inspection
import OverlayShell.Session.Mutation
import OverlayShell.Session.Navigation
import OverlayShell.Session.Tools

/-!
# Running commands

A command is looked up by its name and run with its arguments. However it fails, the failure is a
line of output.
-/

namespace OverlayShell

namespace Session

def perform (s : Session) (args : List String) : Core → Outcome
  | .help => s.help args
  | .ls => s.ls args
  | .cd => s.cd args
  | .pwd => s.pwd
  | .tree => s.drawTree args
  | .find => s.find args
  | .cat => s.cat args
  | .head => s.head args
  | .tail => s.tail args
  | .wc => s.wc args
  | .grep => s.grep args
  | .search => s.search args
  | .stats => s.stats
  | .openFile => s.openNamed args
  | .touch => s.touch args
  | .mkdir => s.mkdir args
  | .rm => s.rm args
  | .whoami => s.whoami
  | .date => s.date
  | .uptime => s.uptime
  | .env => s.listVariables
  | .exportVar => s.exportVariable args
  | .echo => s.echo args
  | .aliases => s.defineAlias args
  | .history => s.listHistory
  | .clear => s.shows []
  | .dmesg => s.dmesg
  | .npm => s.npm args
  | .node => s.node args
  | .git => s.git args
  | .curl => s.curl args
  | .ping => s.ping args
  | .calculate => s.calculate args

/-- What an `Action` comes to. One that returns nothing has no lines, not even an empty list of
them. -/
def act (s : Session) (args : List String) :
    Action → Session × Except Failure (Option (List Line))
  | .core c => (s.perform args c).map id (·.map some)
  | .novelty n => (s.divert args n).map id (·.map some)
  | .prints lines => (s, .ok (some (outputLines lines)))
  | .fails failure => (s, .error failure)
  | .echoes =>
    let shown := (Document.list (args.map .text)).toJson
    (s, .ok (some [.success shown, .error s.cwd.absolute]))
  | .nothing => (s, .ok none)

/-- The record that the failure of `command` leaves. -/
def noteFailure (s : Session) (command : String) : Failure → Session
  | .refused kind message => s.note .debug (kind.name ++ ": " ++ message)
  | .broken _ => s.note .error ("command " ++ command ++ " failed")

def run (s : Session) (name : String) (args : List String) : Session × List Line :=
  match s.table.get? name with
  | none => (s, [.error (name ++ ": command not found")])
  | some c =>
    let s := s.note .debug ("dispatch " ++ c.name ++ " " ++ Text.quotedList args)
    match s.act args c.action with
    | (s, .ok lines) => (s, lines.getD [])
    | (s, .error failure) => (s.noteFailure c.name failure, [.error (failure.report c.name)])

/-- A command is registered, unless it has the name of a core command; `true` if it is. -/
def register (s : Session) (c : Command) : Bool × Session :=
  if CommandTable.isCore c.name then
    (false, s.note .warning
      ("refusing to override core command " ++ Text.quoted (Text.lower c.name)))
  else (true, { s with table := s.table.register c })

end Session

end OverlayShell
