import OverlayShell.Clock
import OverlayShell.Session.Basic
import OverlayShell.Text.Unquoted

/-!
# The environment

The commands `whoami`, `date`, `uptime`, `env`, `export`, `echo`, `alias`, `history` and `dmesg`.
-/

namespace OverlayShell

namespace Session

open Text

/-- The user; a guest if `USER` is empty or not set. -/
def whoami (s : Session) : Outcome :=
  let user := s.variableOr "USER" ""
  s.shows [.output (if user.isEmpty then "guest" else user)]

/-- What `f` makes of a second, which has to be on the calendar. -/
def showingSecond {α : Type} (second : Except Clock.Limit Int) (f : Int → α) :
    Except Failure α :=
  match second with
  | .ok second => .ok (f second)
  | .error limit => .error (.broken limit.message)

def date (s : Session) : Outcome :=
  s.answers (showingSecond (Clock.second s.now) fun now => [.output (Clock.dateText now)])

def uptime (s : Session) : Outcome :=
  let elapsed := Clock.elapsed s.startedAt s.now
  let hours := elapsed.fdiv 3600
  let minutes := (elapsed.fmod 3600).fdiv 60
  s.answers (showingSecond (Clock.second s.now) fun now =>
    [.output (" " ++ Clock.timeText now ++ " up " ++ intText hours ++ ":" ++
      Clock.twoDigits minutes ++ ", 1 user, load average: 0.42, 0.38, 0.35")])

def listVariables (s : Session) : Outcome :=
  s.shows (s.env.entries.map fun (name, value) => .output (bold name ++ "=" ++ value))

/-! ## Definitions -/

/-- A value up to the end of its line: one line break may follow it, but nothing else. -/
def valueLine? (text : List Char) : Option (List Char) :=
  match text.dropWhile (· != '\n') with
  | [] | ['\n'] => some (text.takeWhile (· != '\n'))
  | _ => none

/-- The name and the value of a definition such as `NAME=value`. The name is not empty, and all its
characters satisfy `isNameChar`. -/
def definition? (isNameChar : Char → Bool) (text : String) : Option (String × String) :=
  let cs := text.toList
  let name := cs.takeWhile isNameChar
  match cs.dropWhile isNameChar with
  | '=' :: rest =>
    if name.isEmpty then none
    else (valueLine? rest).map fun value => (String.ofList name, String.ofList value)
  | _ => none

def exportVariable (s : Session) (args : List String) : Outcome :=
  match definition? isWord (join " " args) with
  | none => s.usage "export KEY=VALUE"
  | some (name, value) =>
    ({ s with env := s.env.put name value }, .ok [.success ("Set " ++ name ++ "=" ++ value)])

def isAliasChar (c : Char) : Bool := isWord c || c = '.' || c = '-'

/-- All `aliases` without an argument, or a new one. -/
def defineAlias (s : Session) (args : List String) : Outcome :=
  if args.isEmpty then
    s.shows (s.aliases.entries.map fun (name, command) =>
      .output ("alias " ++ accent name ++ "='" ++ command ++ "'"))
  else
    match definition? isAliasChar (join " " args) with
    | none | some (_, "") => s.usage "alias name=command"
    | some (name, value) =>
      let command := unquoted value
      ({ s with aliases := s.aliases.put name command },
        .ok [.success ("Alias: " ++ name ++ " = " ++ command)])

/-! ## Echo -/

/-- The text with every variable, a dollar sign before a word, replaced by its `value`. A dollar
sign before anything else stays. -/
def expanded (value : String → String) : List Char → List Char
  | [] => []
  | c :: cs =>
    if c = '$' && cs.head?.any isWord then
      (value (String.ofList (cs.takeWhile isWord))).toList ++ expanded value (cs.dropWhile isWord)
    else c :: expanded value cs
termination_by text => text.length
decreasing_by
  · have := (List.dropWhile_suffix isWord (l := cs)).length_le
    simp only [List.length_cons]
    omega
  · simp

def echo (s : Session) (args : List String) : Outcome :=
  s.shows [.output
    (String.ofList (expanded (s.variableOr · "") (join " " args).toList))]

/-! ## History and console -/

def historyLines (history : List String) : List Line :=
  history.zipIdx.map fun (line, i) =>
    .output ("  " ++ paint .grey (padLeft 4 (natText (i + 1))) ++ "  " ++ line)

def listHistory (s : Session) : Outcome := s.shows (historyLines s.history)

def messageColour : String → Colour
  | "error" => .red
  | "warn" => .yellow
  | "debug" => .grey
  | _ => .cyan

def messageLine (m : ConsoleMessage) : Except Failure Line :=
  let repeated := if m.count > 1 then " (x" ++ natText m.count ++ ")" else ""
  showingSecond (Clock.second m.sentAt) fun sentAt =>
    .output ("[" ++ Clock.timeText sentAt ++ "] " ++
      paint (messageColour m.kind) (padRight 5 m.kind) ++ " " ++ m.content ++ repeated)

def dmesg (s : Session) : Outcome :=
  if s.console.messages.isEmpty then s.shows [.output "(no messages)"]
  else s.answers (s.console.messages.mapM messageLine)

end Session

end OverlayShell
