import OverlayShell.Pattern.Repetition

/-!
# Matching

Matching by backtracking: a pattern is run from a state with a continuation for what has to match
behind it, and alternatives are tried in order until the continuation succeeds.
-/

namespace OverlayShell

def charBefore? (text : Array Char) (pos : Nat) : Option Char :=
  if pos = 0 then none else text[pos - 1]?

def isWordAt (ascii : Bool) (c : Option Char) : Bool := c.any fun c => CharClass.word.holds ascii c

/-- The condition of an anchor holds at `pos`. In an empty text neither condition on words does. -/
def Anchor.holds (text : Array Char) (pos : Nat) : Anchor → Bool
  | .lineStart everyLine => pos = 0 || (everyLine && charBefore? text pos == some '\n')
  | .lineEnd everyLine =>
    pos = text.size || (pos + 1 = text.size && text[pos]? == some '\n') ||
      (everyLine && text[pos]? == some '\n')
  | .textStart => pos = 0
  | .textEnd => pos = text.size
  | .wordEdge negated ascii =>
    !text.isEmpty &&
      ((isWordAt ascii (charBefore? text pos) != isWordAt ascii text[pos]?) != negated)

/-- Two characters match each other in a repetition of earlier text: they are equal or, if case is
folded, have the same lower-case character. -/
def matchesEarlier (folding : Folding) (a b : Char) : Bool :=
  a == b || folding.small a == folding.small b

/-- As many characters as lie between `first` and `last` are taken, each matching the one there. -/
def takeEarlier (text : Array Char) (folding : Folding) (first last : Nat) (st : MatchState) :
    Attempt :=
  let same := (List.range (last - first)).all fun i =>
    match text[first + i]?, text[st.pos + i]? with
    | some a, some b => matchesEarlier folding a b
    | _, _ => false
  if same then .ok { st with pos := st.pos + (last - first) } else .error st

structure PatternPlace where
  /-- The part belongs to the rounds of a repetition. -/
  inRound : Bool
  /-- The test on a character with which goes on what follows, if it does so. -/
  next : Option CharTest

namespace PatternPlace

def top : PatternPlace := ⟨false, none⟩

def closed (place : PatternPlace) : PatternPlace := { place with next := none }

def before (place : PatternPlace) (p : Pattern) : PatternPlace :=
  { place with next := p.opening place.next }

def round (place : PatternPlace) : PatternPlace := { place.closed with inRound := true }

end PatternPlace

namespace Pattern

/-- The pattern is run from a state, with `k` for what follows it. -/
def run (text : Array Char) : Pattern → PatternPlace → MatchState → Continuation → Attempt
  | .empty, _, st, k => k st
  | .one test, _, st, k =>
    if text[st.pos]?.any test.holds then k { st with pos := st.pos + 1 } else .error st
  | .anchor a, _, st, k => if a.holds text st.pos then k st else .error st
  | .seq first second, place, st, k =>
    first.run text (place.before second) st fun st => second.run text place st k
  | .alt first others, place, st, k =>
    if (first.opening none).any fun test => test.refuses text[st.pos]? then
      others.run text place st k
    else
      (first.run text place.closed st.here k).otherwise fun left =>
        others.run text place (st.after left place.inRound) k
  | .never, _, st, _ => .error st
  | .group index body, place, st, k =>
    body.run text place.closed (st.mark (MatchState.startPlace index)) fun st =>
      k (st.mark (MatchState.endPlace index))
  | .scoped body, place, st, k => body.run text place st k
  | .atomic body, place, st, k => do
    let done ← (body.run text place.closed st.here .finish).backTo st.pos
    k done
  | .repeated greed least most body, place, st, k =>
    match body.onlyTest? with
    | some test =>
      let next := place.next.bind CharTest.exactly?
      repeatChar text place.inRound next test greed least most st k
    | none =>
      let fuel := least + (text.size - st.pos) + 2
      match greed with
      | .greedy => greedyRounds (body.run text place.round) least most k fuel 0 none st
      | .lazy =>
        lazyRounds (body.run text place.round) place.inRound least most k fuel 0 none st
      | .possessive => do
        let done ← possessiveRounds (body.run text place.closed) least most fuel 0 st.here
        k done
  | .ahead negated body, place, st, k =>
    match body.run text place.closed st.here .finish with
    | .ok done => if negated then .error done else k { done with pos := st.pos }
    | .error left => if negated then k (st.after left place.inRound) else .error left
  | .behind negated width body, place, st, k =>
    if st.pos < width then (if negated then k st else .error st)
    else
      match body.run text place.closed (st.goingTo (st.pos - width)) .finish with
      | .ok done => if negated then .error done else k { done with pos := st.pos }
      | .error left => if negated then k (st.after left place.inRound) else .error left
  | .backref folding index, _, st, k =>
    match st.group? index with
    | none => .error st
    | some (first, last) => do
      let done ← takeEarlier text folding first last st
      k done
  | .ifGroup index matched unmatched, place, st, k =>
    if (st.group? index).isSome then
      matched.run text (if unmatched.isVoid then place else place.closed) st k
    else unmatched.run text place st k

end Pattern

end OverlayShell
