import OverlayShell.Clock
import OverlayShell.Text.Colour

/-!
# The spinner

A sign of activity that turns for some time and is then wiped out. Every turn is one piece of
output, and takes a tenth of a second.
-/

namespace OverlayShell

namespace Spinner

open Text

/-- How long a turn takes, in milliseconds. -/
def turnTime : Int := 100

def positions : List String := ["|", "/", "-", "\\"]

def turn (message : String) (i : Nat) : String :=
  "\r" ++ paint .yellow (message ++ "... " ++ positions.getD (i % 4) "")

def wipe (message : String) : String :=
  "\r" ++ String.ofList (List.replicate (message.length + 8) ' ') ++ "\r"

/-- The turns from the `i`th one on, at most `fuel` of them, until the time is up, with the time
after them. -/
def turnsFrom (message : String) (stop : Float) : Nat → Nat → Int → List String × Int
  | 0, _, now => ([], now)
  | fuel + 1, i, now =>
    if Clock.seconds now < stop then
      let (rest, after) := turnsFrom message stop fuel (i + 1) (now + turnTime)
      (turn message i :: rest, after)
    else ([], now)

/-- More turns than fit into `seconds`. -/
def turnBound (seconds : Float) : Nat :=
  if seconds.isNaN || seconds.isInf then 0 else (Number.truncated seconds).toNat * 10 + 20

def spin (message : String) (seconds : Float) (now : Int) : List String × Int :=
  let stop := Clock.seconds now + seconds
  let (turns, after) := turnsFrom message stop (turnBound seconds) 0 now
  (turns ++ [wipe message], after)

end Spinner

end OverlayShell
