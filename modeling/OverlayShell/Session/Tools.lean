import OverlayShell.Arithmetic.Evaluation
import OverlayShell.Commands.Simulated
import OverlayShell.Session.Basic
import OverlayShell.Text.Unquoted

/-!
# Tools

The commands `npm`, `node`, `git`, `curl`, `ping` and `calc`. All but the last one only pretend to
do what they say.
-/

namespace OverlayShell

namespace Session

open Text

def npm (s : Session) (args : List String) : Outcome :=
  let sub := args.getD 0 ""
  let second := args.getD 1 ""
  let script := if sub = "run" && args.length > 1 then second else sub
  match Simulated.scripts.lookup script with
  | some lines => s.shows lines
  | none =>
    if script = "install" || script = "i" then
      s.shows (if second.isEmpty then Simulated.installedAll else Simulated.installed second)
    else if script = "-v" || script = "--version" then
      s.shows [.output (s.variableOr "NPM_VERSION" "10.2.3")]
    else if sub = "run" then s.shows [.error ("npm run: script '" ++ second ++ "' not found")]
    else s.shows [.error ("npm: '" ++ sub ++ "' is not a npm command. See 'npm help'.")]

/-! ## Running code -/

/-- What a call of `console.log` at the start of some code logs: the text from behind its opening
parenthesis to before the last closing one of the line. There has to be some. -/
def logged? (code : String) : Option String :=
  let call := "console.log(".toList
  if call.isPrefixOf code.toList then
    let line := (code.toList.drop call.length).takeWhile (· != '\n')
    match line.reverse.dropWhile (· != ')') with
    | ')' :: c :: before => some (String.ofList (c :: before).reverse)
    | _ => none
  else none

def ran (code : String) : Line :=
  if Arithmetic.isArithmeticText code then
    match Arithmetic.evaluate code with
    | .ok value => .output value.display
    | .error _ => .error "SyntaxError: Invalid expression"
  else
    match logged? code with
    | some text => .output (unquoted text)
    | none => .output "undefined"

def node (s : Session) (args : List String) : Outcome :=
  let version := s.variableOr "NODE_VERSION" "20.10.0"
  let greeting : List Line := [
    .output ("Welcome to Node.js v" ++ version ++ "."),
    .output "Type \".help\" for more information.",
    .output "> (Interactive mode not available in demo)"]
  match args with
  | "-v" :: _ | "--version" :: _ => s.shows [.output ("v" ++ version)]
  | "-e" :: word :: more => s.shows [ran (unquoted (join " " (word :: more)))]
  | _ => s.shows greeting

/-! ## Version control and network -/

def git (s : Session) (args : List String) : Outcome :=
  match args.getD 0 "" with
  | "status" =>
    let changed := (s.workspace.journal.modified.keys.map Path.key).mergeSort fun a b => a ≤ b
    s.shows (Simulated.status (if changed.isEmpty then ["src/app.ts"] else changed))
  | "log" => s.shows Simulated.commitLog
  | "branch" => s.shows Simulated.branches
  | "diff" => s.shows Simulated.changes
  | "--version" | "-v" => s.shows [.output "git version 2.43.0"]
  | sub => s.shows [.error ("git: '" ++ sub ++ "' is not a git command. See 'git --help'.")]

def curl (s : Session) (args : List String) : Outcome :=
  match args with
  | [] => s.usage "curl <url>"
  | address :: _ => s.shows (Simulated.fetched address)

def ping (s : Session) (args : List String) : Outcome :=
  match args with
  | [] => s.usage "ping <host>"
  | host :: _ => s.shows (Simulated.pinged host)

/-! ## Calculating -/

def refusedCalculation (r : Arithmetic.Refusal) : Failure :=
  .refused (if r = .foreign then .securityRejection else .invalidArgument) r.message

/-- The value of the arguments, which are read as one expression without blanks between them. -/
def calculate (s : Session) (args : List String) : Outcome :=
  let text := join "" args
  if text.isEmpty then s.usage "calc <expression> (e.g., calc 2+2*3)"
  else
    s.answers do
      let value ← (Arithmetic.evaluate text).mapError refusedCalculation
      return [.success ("= " ++ bold value.display)]

end Session

end OverlayShell
