import OverlayShell.Pattern.Basic

/-!
# States of matching

Where matching stands, what the groups have matched, and what a failed attempt leaves behind.

Failing does not undo all that an attempt has done: the cursor stays where it was left and, outside
the rounds of a repetition, groups that had matched before keep what the attempt made of them. Only
a possessive repetition shows this.
-/

namespace OverlayShell

structure MatchState where
  /-- Where the next part is to match. -/
  pos : Nat
  /-- Where a part was last started, or came to its end. -/
  cursor : Nat
  /-- Where groups start and end, each of them in two places one after the other. -/
  marks : List (Option Nat)

/-- An attempt fails and leaves a state behind, or ends in a state. -/
abbrev Attempt := Except MatchState MatchState

abbrev Continuation := MatchState → Attempt

namespace MatchState

def start (pos : Nat) : MatchState := ⟨pos, pos, []⟩

def here (st : MatchState) : MatchState := { st with cursor := st.pos }

def goingTo (st : MatchState) (pos : Nat) : MatchState := { st with pos, cursor := pos }

def mark (st : MatchState) (place : Nat) : MatchState :=
  let known := st.marks.length
  { st with
    marks :=
      if place < known then st.marks.set place (some st.pos)
      else st.marks ++ List.replicate (place - known) none ++ [some st.pos] }

def startPlace (index : Nat) : Nat := 2 * (index - 1)

def endPlace (index : Nat) : Nat := 2 * (index - 1) + 1

def group? (st : MatchState) (index : Nat) : Option (Nat × Nat) := do
  let last ← (← st.marks[endPlace index]?)
  let first ← (← st.marks[startPlace index]?)
  if first ≤ last then return (first, last) else none

/-- The state for another attempt after one that has left `left` behind. With `inRound` the marks
are what they were before; else those are dropped that were not known before. -/
def after (st left : MatchState) (inRound : Bool) : MatchState :=
  { st with
    cursor := left.cursor
    marks := if inRound then st.marks else left.marks.take st.marks.length }

end MatchState

def Continuation.finish : Continuation := fun st => .ok st.here

/-- If the attempt fails, the `cursor` is put back to `pos`. -/
def Attempt.backTo (pos : Nat) (attempt : Attempt) : Attempt :=
  attempt.mapError fun left => { left with cursor := pos }

/-- The attempt or, if it fails, what `other` makes of the state that it has left behind. -/
def Attempt.otherwise (attempt : Attempt) (other : MatchState → Attempt) : Attempt :=
  match attempt with
  | .ok done => .ok done
  | .error left => other left

end OverlayShell
