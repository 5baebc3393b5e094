import OverlayShell.Pattern.MatchState

/-!
# Repetitions

The rounds of a repetition: as many as possible, as few as possible, or as many as possible with
nothing given back. A repetition stops when a round of it takes nothing, so every match ends.

A repetition of a single character takes its characters at once, and then gives them back, or takes
more, one by one.
-/

namespace OverlayShell

abbrev Round := MatchState → Continuation → Attempt

def allowsMore (most : Option Nat) (count : Nat) : Bool :=
  match most with
  | none => true
  | some n => count < n

/-! ## Rounds -/

/-- A greedy repetition after `count` rounds. Beyond the `least` number, a round is tried before the
rest, unless the round before it took nothing; `last` is where that round started. -/
def greedyRounds (round : Round) (least : Nat) (most : Option Nat) (k : Continuation) :
    Nat → Nat → Option Nat → Continuation
  | 0, _, _, st => .error st
  | fuel + 1, count, last, st =>
    let st := st.here
    if count < least then
      (round st (greedyRounds round least most k fuel (count + 1) last)).backTo st.pos
    else if allowsMore most count && last != some st.pos then
      (round st (greedyRounds round least most k fuel (count + 1) (some st.pos))).otherwise
        fun _ => (k st).backTo st.pos
    else (k st).backTo st.pos

/-- A lazy repetition after `count` rounds: beyond the `least` number, the rest is tried before
another round. -/
def lazyRounds (round : Round) (inRound : Bool) (least : Nat) (most : Option Nat)
    (k : Continuation) : Nat → Nat → Option Nat → Continuation
  | 0, _, _, st => .error st
  | fuel + 1, count, last, st =>
    let st := st.here
    if count < least then
      (round st (lazyRounds round inRound least most k fuel (count + 1) last)).backTo st.pos
    else
      (k st).otherwise fun left =>
        let st := (st.after left inRound).here
        if allowsMore most count && last != some st.pos then
          (round st
            (lazyRounds round inRound least most k fuel (count + 1) (some st.pos))).backTo st.pos
        else .error st

/-- The state after all the rounds of a possessive repetition. What follows goes on from the place
at which the round that failed has left the `cursor`. -/
def possessiveRounds (round : Round) (least : Nat) (most : Option Nat) :
    Nat → Nat → Continuation
  | 0, _, st => .error st
  | fuel + 1, count, st =>
    if count < least then do
      let next ← (round st .finish).backTo st.pos
      possessiveRounds round least most fuel (count + 1) next
    else if allowsMore most count then
      match round st .finish with
      | .ok next =>
        if next.pos = st.pos then .ok next
        else possessiveRounds round least most fuel (count + 1) next
      | .error left => .ok (st.goingTo left.cursor)
    else .ok st

/-! ## Single characters -/

/-- The number of characters, at most `limit`, that pass `test` from `pos` on. -/
def countFrom (text : Array Char) (test : CharTest) : Nat → Nat → Nat
  | 0, _ => 0
  | limit + 1, pos =>
    if text[pos]?.any test.holds then countFrom text test limit (pos + 1) + 1 else 0

/-- The place of the cursor when characters have been counted. It goes along with a set in which
case is folded. -/
def cursorAfter (test : CharTest) (pos count : Nat) : Nat :=
  if test.foldsSet then pos + count else pos

/-- What follows is tried behind `least` characters and `spare` more, then behind one less, and so
on. If it starts with the character `next`, only places in front of that are tried. -/
def givingBack (text : Array Char) (inRound : Bool) (next : Option Nat) (least : Nat)
    (k : Continuation) (start : Nat) : Nat → Continuation
  | spare, st =>
    let pos := start + least + spare
    let awaited := next.all fun n => text[pos]?.any (·.toNat = n)
    let tried := if awaited then k (st.goingTo pos) else .error st
    tried.otherwise fun left =>
      let st := if awaited then st.after left inRound else st
      match spare with
      | 0 => .error st
      | spare + 1 => givingBack text inRound next least k start spare st

/-- What follows is tried at the position, then behind one more character that passes `test`, and so
on, for up to `spare` more. -/
def takingMore (text : Array Char) (inRound : Bool) (test : CharTest) (most : Option Nat)
    (k : Continuation) : Nat → Nat → Continuation
  | 0, _, st => .error st
  | fuel + 1, count, st =>
    (k st.here).otherwise fun left =>
      let st := (st.after left inRound).here
      let taken := countFrom text test 1 st.pos
      let counted := { st with cursor := cursorAfter test st.pos taken }
      if taken = 0 || !allowsMore most count then .error counted
      else
        takingMore text inRound test most k fuel (count + 1)
          { counted with pos := st.pos + 1 }

def repeatChar (text : Array Char) (inRound : Bool) (next : Option Nat) (test : CharTest)
    (greed : Greed) (least : Nat) (most : Option Nat) (st : MatchState) (k : Continuation) :
    Attempt :=
  let room := text.size - st.pos
  if room < least then .error st
  else
    let limit :=
      match greed with
      | .lazy => least
      | _ => min room (most.getD room)
    let count := countFrom text test limit st.pos
    let counted := { st with cursor := cursorAfter test st.pos count }
    if count < least then .error counted
    else
      match greed with
      | .greedy => givingBack text inRound next least k st.pos (count - least) counted
      | .lazy =>
        takingMore text inRound test most k (room + 1) least { counted with pos := st.pos + least }
      | .possessive => k { counted with pos := st.pos + count }

end OverlayShell
