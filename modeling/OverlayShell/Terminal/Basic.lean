import OverlayShell.Session.Pipeline
import OverlayShell.Terminal.Spinner

/-!
# The terminal

The terminal hands lines to a session and writes what they produce. After each line it handles the
events that the session has for its host. Output is a list of pieces, each written at once.
-/

namespace OverlayShell

structure Terminal where
  session : Session
  /-- For how many seconds the spinner turns before the output of a slow command. -/
  spin : Float

namespace Terminal

open Text

inductive StartError where
  /-- The command `welcome` fails. -/
  | failed (failure : Failure)
  /-- The command `welcome` returns nothing. -/
  | noGreeting

def slowCommands : List String := ["npm", "curl", "ping", "git"]

/-- A terminal for a session, with its introduction: what the command `welcome` prints or, without
such a command, the name and the version of the product. -/
def start (s : Session) (spin : Float) : Except StartError (Terminal × String) :=
  match s.table.get? "welcome" with
  | none => .ok (⟨s, spin⟩, Product.name ++ " Terminal [Version " ++ Product.version ++ "]")
  | some c =>
    match s.act [] c.action with
    | (_, .error failure) => .error (.failed failure)
    | (_, .ok none) => .error .noGreeting
    | (s, .ok (some lines)) => .ok (⟨s, spin⟩, join "\n" (lines.map Line.shown))

def prompt (t : Terminal) : String :=
  paint .green t.session.promptUser ++ ":" ++ Colour.bright.on ++ Colour.blue.on ++
    t.session.promptPath ++ colourReset ++ "$ "

/-- What the terminal makes of a line: its state, what it writes, and whether it stops. The first
`turns` pieces are turns of the spinner, after each of which time passes. -/
structure Response where
  terminal : Terminal
  written : List String
  stops : Bool
  turns : Nat

def piece (text : String) : String := text ++ "\n"

def eventOutput (event : String) : List String :=
  if event = "screen:clear" then [String.ofList [esc, 'c']]
  else if event = "game:snake" then
    [piece (paint .yellow "(the snake game needs the graphical host)")]
  else if startsWith "open:" event then
    [piece (paint .grey (String.ofList (event.toList.drop "open:".length)))]
  else []

/-- The `events` of the session are handled; one of them stops the terminal. -/
def handleEvents (t : Terminal) : Response :=
  let events := t.session.events
  { terminal := { t with session := { t.session with events := [] } }
    written := events.flatMap eventOutput
    stops := events.contains "session:exit"
    turns := 0 }

/-- The spinner turns if the first word of `line` is one of the `slowCommands`, and is then wiped
out. -/
def wait (t : Terminal) (line : String) : Terminal × List String :=
  let head := lower ((words line).headD "")
  if t.spin != 0.0 && slowCommands.contains head then
    let (turns, now) := Spinner.spin ("running '" ++ head ++ "'") t.spin t.session.now
    ({ t with session := { t.session with now } }, turns)
  else (t, [])

def endOfInput : String := "EOF"

/-- A line is handed to the session. Nothing is done for a blank one, and `endOfInput` stops the
terminal. -/
def submit (t : Terminal) (line : String) : Response :=
  if line = endOfInput then ⟨t, [piece ""], true, 0⟩
  else
    let line := trim line
    if line.isEmpty then ⟨t, [], false, 0⟩
    else
      let (t, spinning) := t.wait line
      let (session, produced) := t.session.execute line
      let r := handleEvents { t with session }
      { r with
        written := spinning ++ (produced.map fun l => piece l.shown) ++ r.written
        turns := spinning.length - 1 }

end Terminal

end OverlayShell
