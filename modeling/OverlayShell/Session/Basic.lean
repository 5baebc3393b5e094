import OverlayShell.Chance
import OverlayShell.Commands.Table
import OverlayShell.Console.Buffer
import OverlayShell.Console.Line
import OverlayShell.Product
import OverlayShell.Workspace.Change

/-!
# The session

Everything that lines typed into the shell can see and change: the workspace, the environment, the
aliases, the commands, the working directory, the history, the screen and the console. The time of
day and the source of random choices are part of it.
-/

namespace OverlayShell

structure Session where
  workspace : Workspace
  env : Bindings String String
  aliases : Bindings String String
  table : CommandTable
  cwd : Path
  /-- The submitted lines, oldest first. -/
  history : List String
  /-- The place in `history` of the line that was recalled last. -/
  recalled : Option Nat
  screen : List Line
  console : ConsoleBuffer
  capturing : Bool
  /-- What the host has still to be told, oldest first. -/
  events : List String
  lastError : Option String
  startedAt : Int
  /-- The time, in milliseconds like `startedAt`. -/
  now : Int
  chance : Chance

/-- What running a command comes to: the session after it, and the lines or the `Failure`. -/
abbrev Outcome := Session × Except Failure (List Line)

namespace Session

def consoleLimit : Nat := 100

def start (workspace : Workspace) (env aliases : Bindings String String) (table : CommandTable)
    (now : Int) : Session :=
  { workspace, env, aliases, table, cwd := .root, history := [], recalled := none, screen := [],
    console := .empty consoleLimit, capturing := false, events := [], lastError := none,
    startedAt := now, now, chance := .start }

def standard (tree : List Entry) (now : Int) : Session :=
  start (.start tree [] "") (.ofList Product.environment) (.ofList Product.aliases) (.standard [])
    now

/-! ## The console -/

def send (s : Session) (kind content : String) : Session :=
  { s with console := s.console.send kind content s.now }

/-- A notice is left. It reaches the `console` only while `capturing`. -/
def note (s : Session) (level : Level) (text : String) : Session :=
  if s.capturing then s.send (rankWord level.rank) text else s

/-- The workspace as an operation leaves it, its `notices` being passed on and its view kept. -/
def withWorkspace (s : Session) (w : Workspace) : Session :=
  w.notices.foldl (fun s n => s.note n.level n.text)
    { s with workspace := { w.refresh with notices := [] } }

def emit (s : Session) (event : String) : Session :=
  let s := s.note .info ("host event " ++ event)
  { s with events := s.events ++ [event] }

/-! ## Commands on a session -/

/-- The value of the variable `name`, or `default` if it is not set. -/
def variableOr (s : Session) (name default : String) : String := (s.env.get? name).getD default

def resolve (s : Session) (name : String) : Path := s.cwd.resolve name

def shows (s : Session) (lines : List Line) : Outcome := (s, .ok lines)

def answers (s : Session) (result : Except Failure (List Line)) : Outcome := (s, result)

def usage (s : Session) (text : String) : Outcome := s.shows [.error ("Usage: " ++ text)]

/-- The file that `name` denotes, for a command that needs one. -/
def requireFile (s : Session) (name command missing : String) : Except Failure File :=
  match lookup s.workspace.tree (s.resolve name) with
  | none => .error (.refused .notFound (command ++ ": " ++ name ++ ": " ++ missing))
  | some (.folder _ _ _) =>
    .error (.refused .typeMismatch (command ++ ": " ++ name ++ ": Is a directory"))
  | some (.file f) => .ok f

def isOption (arg : String) : Bool := Text.startsWith "-" arg

def outputLines (texts : List String) : List Line := texts.map .output

end Session

end OverlayShell
