import OverlayShell.Commands.BlockLetters
import OverlayShell.Commands.Screens
import OverlayShell.Session.Environment

/-!
# Diversions

The extra commands of a fresh session: for fun, for information on the system, and for the
portfolio.
-/

namespace OverlayShell

namespace Session

open Text

def choose {α : Type} (s : Session) (default : α) (things : List α) : α × Session :=
  let (thing, chance) := s.chance.choose default things
  (thing, { s with chance })

def neofetch (s : Session) : Outcome :=
  s.shows (Screens.systemCard (s.variableOr "USER" "guest") (s.variableOr "NODE_VERSION" "")
    (s.variableOr "NPM_VERSION" ""))

def cowsay (s : Session) (args : List String) : Outcome :=
  let message := join " " args
  s.shows (Screens.cow (if message.isEmpty then "Moo!" else message))

def matrixRows : Nat := 8

def matrixWidth : Nat := 60

def matrixRain : Nat → Chance → List Line × Chance
  | 0, chance => ([], chance)
  | rows + 1, chance =>
    let (row, chance) := chance.chooseMany ' ' Screens.rain matrixWidth
    let (rest, chance) := matrixRain rows chance
    (.success (paint .green (String.ofList row)) :: rest, chance)

def matrix (s : Session) : Outcome :=
  let (rows, chance) := matrixRain matrixRows s.chance
  ({ s with chance },
    .ok (rows ++ [.output "[Matrix simulation - Press any key to exit]"]))

def figlet (s : Session) (args : List String) : Outcome :=
  let text := join " " args
  let rows := BlockLetters.banner (if text.isEmpty then "DEV" else text)
  s.shows (rows.map fun row => .success (paint .blue row))

def snake (s : Session) : Outcome :=
  (s.emit "game:snake").shows [.success "Launching snake... use the arrow keys, Esc to quit."]

def weather (s : Session) (args : List String) : Outcome :=
  s.shows (Screens.weather (args.headD "Fes"))

def joke (s : Session) : Outcome :=
  let (text, s) := s.choose "" Screens.jokes
  s.shows [.blank, .output ("  " ++ text), .blank]

def fortune (s : Session) : Outcome :=
  let (text, s) := s.choose "" Screens.fortunes
  s.shows [.output ("  " ++ paint .dim text)]

/-- The name of the system, with all that is known about it for `-a`. -/
def uname (s : Session) (args : List String) : Outcome :=
  if args.contains "-a" then
    s.shows [.output
      (Product.name ++ "-OS 2.0.0 " ++ Product.shortHost ++ " x86_64 Next.js/14.1.0")]
  else s.shows [.output (Product.name ++ "-OS")]

def leave (s : Session) : Outcome := (s.emit "session:exit").shows Screens.leaving

def social (s : Session) (args : List String) : Outcome :=
  match args with
  | [] => s.shows Screens.socialMenu
  | name :: _ =>
    match Screens.socialLinks.lookup (lower name) with
    | none => s.shows Screens.socialMenu
    | some address =>
      (s.emit ("open:" ++ address)).shows [.success ("Opening " ++ name ++ "... (simulated)")]

/-- Places with their distance from universal time in hours; `none` goes by the local time. -/
def worldClock : List (String × Option Int) := [
  ("Local", none), ("UTC", some 0), ("NYC", some (-5)), ("Paris", some 1), ("Tokyo", some 9)]

def placeLine (now : Int) (place : String) (hours : Option Int) : Except Failure Line :=
  let second :=
    match hours with
    | none => Clock.second now
    | some hours => Clock.secondAfter hours now
  showingSecond second fun second =>
    .output ("  " ++ accent (padRight 8 place) ++ " " ++ Clock.timeText second)

def worldTime (s : Session) : Outcome :=
  s.answers ((worldClock.mapM fun (place, hours) => placeLine s.now place hours).map
    (.output ("  " ++ bold "World Clock:") :: ·))

def divert (s : Session) (args : List String) : Novelty → Outcome
  | .neofetch => s.neofetch
  | .cowsay => s.cowsay args
  | .matrix => s.matrix
  | .figlet => s.figlet args
  | .snake | .game => s.snake
  | .weather => s.weather args
  | .joke => s.joke
  | .fortune => s.fortune
  | .hostname => s.shows [.output Product.host]
  | .uname => s.uname args
  | .df => s.shows Screens.disks
  | .free => s.shows Screens.memory
  | .ps => s.shows Screens.processes
  | .top => s.shows (Screens.busiest (s.variableOr "USER" "guest"))
  | .leave => s.leave
  | .about => s.shows Screens.portfolio
  | .skills => s.shows Screens.skills
  | .contact => s.shows Screens.contact
  | .projects => s.shows Screens.projects
  | .social => s.social args
  | .theme => s.shows Screens.theme
  | .time => s.worldTime
  | .welcome => s.shows Screens.welcome

end Session

end OverlayShell
