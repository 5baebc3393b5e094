import OverlayShell.Configuration
import OverlayShell.Terminal.Arguments
import OverlayShell.Terminal.Basic

/-!
# The command line

With lines to run among its arguments, the program runs them and ends; without, it is interactive:
it introduces itself and then reads lines behind a prompt. The console is captured all the time.
-/

namespace OverlayShell

namespace CommandLine

inductive Fault where
  | configuration (mismatch : Document.Mismatch)
  | terminal (error : Terminal.StartError)

structure Ending where
  status : Nat
  written : List String

def spinTime : Float := 0.6

def misuse : Nat := 2

def launch (around : Surroundings) (now : Int) (v : Arguments.Invocation) :
    Except Fault (Terminal × String) := do
  let session ← (Configuration.session around v.config now).mapError .configuration
  let spin := if v.noSpinner || !v.commands.isEmpty then 0.0 else spinTime
  let (t, introduction) ← (Terminal.start session spin).mapError .terminal
  return ({ t with session := { t.session with capturing := true } }, introduction)

def opening (introduction : String) : List String :=
  if introduction.isEmpty then [] else [Terminal.piece introduction]

def runLines (t : Terminal) : List String → Terminal × List String
  | [] => (t, [])
  | line :: rest =>
    let r := t.submit line
    if r.stops then (r.terminal, r.written)
    else
      let (t, written) := runLines r.terminal rest
      (t, r.written ++ written)

/-- The status after running lines: one if `lastError` says something. -/
def statusOf (s : Session) : Nat := if s.lastError.getD "" = "" then 0 else 1

/-- Lines are read, each behind a prompt, until one of them stops the terminal. Where they end, the
end of the input is read or, with `interrupted`, reading is broken off. -/
def readLines (t : Terminal) (interrupted : Bool) : List String → List String
  | [] =>
    t.prompt ::
      (if interrupted then [Terminal.piece ""] else (t.submit Terminal.endOfInput).written)
  | line :: rest =>
    let r := t.submit line
    t.prompt :: r.written ++ (if r.stops then [] else readLines r.terminal interrupted rest)

def run (around : Surroundings) (now : Int) (args : List String) (input : List String)
    (interrupted : Bool) : Except Fault Ending :=
  match Arguments.read args with
  | .invalid => .ok ⟨misuse, []⟩
  | .help => .ok ⟨0, []⟩
  | .run v => do
    let (t, introduction) ← launch around now v
    if v.commands.isEmpty then return ⟨0, opening introduction ++ readLines t interrupted input⟩
    let (t, written) := runLines t v.commands
    return ⟨statusOf t.session, written⟩

end CommandLine

end OverlayShell
