import OverlayShell.Document.Json
import OverlayShell.Terminal.CommandLine
import Std.Time.DateTime.Timestamp

/-!
# The program

Reads the arguments, the documents of the configuration, which are written in JSON, and lines of
input, and writes what the terminal answers. What to answer is decided elsewhere.
-/

namespace OverlayShell

def configVariableName : String := "DEVTERM_CONFIG"

def usageText : String :=
  "usage: devterm [-h] [-c COMMAND] [--config CONFIG] [--no-spinner]"

def currentTime : IO Int := do
  return (← Std.Time.Timestamp.now).toMillisecondsSinceUnixEpoch.val

/-- The document in `file`, with the name of the file; `none` if there is no such file. -/
def readDocument (file : String) : IO (Option (String × Document)) := do
  match ← (IO.FS.readFile file).toBaseIO with
  | .error _ => return none
  | .ok text =>
    match Document.ofJson? text with
    | some document => return some (file, document)
    | none => throw (IO.userError (file ++ ": not a JSON document"))

/-- What surrounds the shell, as far as a session configured by `named` looks at it. -/
def readSurroundings (named : String) : IO Surroundings := do
  let configVariable ← IO.getEnv configVariableName
  let files := [Configuration.configFile ⟨[], configVariable⟩ named, Configuration.packFile]
  return { documents := (← files.mapM readDocument).filterMap id, configVariable }

def writePiece (output : IO.FS.Stream) (isTerminal : Bool) (text : String) : IO Unit := do
  output.putStr (if isTerminal then text else Text.withoutControls text)
  output.flush

def writeResponse (output : IO.FS.Stream) (isTerminal : Bool) (r : Terminal.Response) :
    IO Unit := do
  for (text, i) in r.written.zipIdx do
    writePiece output isTerminal text
    if i < r.turns then IO.sleep Spinner.turnTime.toNat.toUInt32

def Terminal.atPresent (t : Terminal) : IO Terminal := do
  return { t with session := { t.session with now := ← currentTime } }

def runCommands (output : IO.FS.Stream) (isTerminal : Bool) :
    Terminal → List String → IO Terminal
  | t, [] => return t
  | t, line :: rest => do
    let r := (← t.atPresent).submit line
    writeResponse output isTerminal r
    if r.stops then return r.terminal else runCommands output isTerminal r.terminal rest

/-- Lines are read behind prompts until `step` or the end of the input stops the terminal. -/
partial def interact (input output : IO.FS.Stream) (isTerminal : Bool) (t : Terminal) :
    IO Unit := do
  writePiece output isTerminal t.prompt
  let line ← input.getLine
  let given :=
    if line.isEmpty then Terminal.endOfInput else (line.dropEndWhile (· == '\n')).toString
  let r := (← t.atPresent).submit given
  writeResponse output isTerminal r
  if r.stops then return else interact input output isTerminal r.terminal

def CommandLine.Fault.message : CommandLine.Fault → String
  | .configuration mismatch => mismatch.message
  | .terminal (.failed failure) => failure.report "welcome"
  | .terminal .noGreeting => "welcome: nothing to show"

def runInvocation (v : Arguments.Invocation) : IO UInt32 := do
  let input ← IO.getStdin
  let output ← IO.getStdout
  let isTerminal ← output.isTty
  match CommandLine.launch (← readSurroundings v.config) (← currentTime) v with
  | .error fault =>
    IO.eprintln fault.message
    return 1
  | .ok (t, introduction) =>
    if v.commands.isEmpty then
      for text in CommandLine.opening introduction do writePiece output isTerminal text
      interact input output isTerminal t
      return 0
    else
      let t ← runCommands output isTerminal t v.commands
      return (CommandLine.statusOf t.session).toUInt32

end OverlayShell

def main (args : List String) : IO UInt32 := do
  match OverlayShell.Arguments.read args with
  | .invalid =>
    IO.eprintln OverlayShell.usageText
    return OverlayShell.CommandLine.misuse.toUInt32
  | .help =>
    IO.println OverlayShell.usageText
    return 0
  | .run v => OverlayShell.runInvocation v
