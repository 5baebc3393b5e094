import OverlayShell.Text.Colour
import OverlayShell.Text.Quoted

/-!
# Lines of output

What a command prints is a list of lines, each with a kind that says how the terminal shows it.
-/

namespace OverlayShell

inductive LineKind where
  /-- A line that was submitted. -/
  | command
  | output
  | error
  | success
  deriving DecidableEq

namespace LineKind

def name : LineKind → String
  | .command => "command"
  | .output => "output"
  | .error => "error"
  | .success => "success"

def ofName? (name : String) : Option LineKind :=
  [command, output, error, success].find? (·.name = name)

def unknownName (name : String) : String := Text.quoted name ++ " is not a valid LineKind"

end LineKind

structure Line where
  kind : LineKind
  text : String
  deriving DecidableEq

namespace Line

def output (text : String) : Line := ⟨.output, text⟩

def blank : Line := output ""

def success (text : String) : Line := ⟨.success, text⟩

def error (text : String) : Line := ⟨.error, text⟩

def plain (line : Line) : String := Text.plain line.text

/-- The line as the terminal shows it: an `error` in red, a `success` in green. -/
def shown (line : Line) : String :=
  match line.kind with
  | .error => Text.paint .red line.text
  | .success => Text.paint .green line.text
  | .command | .output => line.text

end Line

end OverlayShell
