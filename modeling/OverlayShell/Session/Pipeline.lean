import OverlayShell.Console.Completion
import OverlayShell.Session.Conversation
import OverlayShell.Session.Dispatch

/-!
# From lines to output

A submitted line is trimmed and entered into the history; an alias in its first word is replaced,
once; and then it clears the screen, lists the history, runs a command, or is taken for
conversation.
-/

namespace OverlayShell

namespace Session

/-! ## Submitting a line -/

/-- The words of `line`, of which the first, if it is an alias in lower case, has been replaced,
with the note that this leaves. -/
def replaceAlias (s : Session) (line : String) : Session × List String :=
  match Text.words line with
  | [] => (s, [])
  | head :: rest =>
    let name := Text.lower head
    match s.aliases.get? name with
    | none => (s, head :: rest)
    | some command =>
      let words := Text.words (command ++ " " ++ Text.join " " rest)
      (s.note .debug ("alias " ++ name ++ " -> " ++ Text.join " " words), words)

/-- `line` is entered into the `history`, unless it repeats the latest one. -/
def remember (s : Session) (line : String) : Session :=
  { s with
    history := if s.history.getLast? = some line then s.history else s.history ++ [line]
    recalled := none }

/-- What a line that is not about the screen produces. `line` is the line as it was typed. -/
def produce (s : Session) (line : String) : List String → Session × List Line
  | [] => (s, Conversation.reply line)
  | head :: args =>
    let name := Text.lower head
    if name = "history" then (s, historyLines s.history)
    else if s.table.contains name then s.run name args
    else (s, Conversation.reply line)

/-- The text of the last failure among `lines`, or else of the one `before`. -/
def lastErrorAfter (before : Option String) (lines : List Line) : Option String :=
  lines.foldl (fun last line => if line.kind = .error then some line.plain else last) before

def asksClear (words : List String) : Bool :=
  match words with
  | [] => false
  | head :: _ => Text.lower head = "clear" || Text.lower head = "cls"

/-- A line is submitted: the session after it, and the lines that it produced. They stand on the
`screen` below the line. -/
def execute (s : Session) (input : String) : Session × List Line :=
  let line := Text.trim input
  if line.isEmpty then (s, [])
  else
    let (s, words) := (s.remember line).replaceAlias line
    if asksClear words then
      ({ s with screen := [], events := s.events ++ ["screen:clear"] }, [])
    else
      let (s, produced) := s.produce line words
      ({ s with
          lastError := lastErrorAfter s.lastError produced
          screen := s.screen ++ ⟨.command, line⟩ :: produced },
        produced)

/-! ## Recalling lines -/

/-- `up` leads to older lines and `down` to newer ones. -/
inductive Direction where
  | up
  | down
  deriving DecidableEq

def Direction.ofName? : String → Option Direction
  | "up" => some .up
  | "down" => some .down
  | _ => none

def Direction.unknownName (name : String) : String :=
  "direction must be 'up' or 'down', not " ++ Text.quoted name

/-- The place in a history of `length` lines, at least one, that is reached from `place`. Nothing is
recalled below the newest line. -/
def recallPlace (length : Nat) (place : Option Nat) : Direction → Option Nat
  | .up => some (match place with
    | none => length - 1
    | some i => i - 1)
  | .down =>
    match place with
    | none => none
    | some i => if i = length - 1 then none else some (i + 1)

/-- One step through the `history`: the line at the place that is reached, empty below the
newest. -/
def recallLine (s : Session) (direction : Direction) : String × Session :=
  if s.history.isEmpty then ("", s)
  else
    let place := recallPlace s.history.length s.recalled direction
    ((place.bind (s.history[·]?)).getD "", { s with recalled := place })

/-! ## Completion and prompt -/

def firstWords (s : Session) : List String := s.table.names ++ s.aliases.keys

def suggestNames (s : Session) (typed : String) : List String := suggestCommands typed s.firstWords

def suggestFiles (s : Session) (typed : String) (folder : Option Path) : List String :=
  suggestEntries typed s.workspace.tree (folder.getD s.cwd)

def complete (s : Session) (line : String) : List String :=
  suggest line s.firstWords s.workspace.tree s.cwd

def promptPath (s : Session) : String := if s.cwd.isRoot then "~" else "~" ++ s.cwd.absolute

def promptUser (s : Session) : String := s.variableOr "USER" "guest"

end Session

end OverlayShell
