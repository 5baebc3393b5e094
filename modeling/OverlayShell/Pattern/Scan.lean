import OverlayShell.Pattern.Matching
import OverlayShell.Pattern.Width

/-!
# Finding all matches

A text is scanned from left to right. Matches do not overlap, and an empty match is not repeated at
the place where it was found; it may directly follow a match that is not empty. Where a pattern
starts with a set, the set has to hold the first character of a match in the modes of the whole
pattern too.
-/

namespace OverlayShell

structure Matcher where
  pattern : Pattern
  /-- The least number of characters that `pattern` takes. -/
  least : Nat
  start : Option CharTest

/-! ## Where a match may start -/

def Folding.startsAlike (folding : Folding) : SetItem → Bool
  | .code n => !folding.hasCase n
  | .range first last =>
    folding = .none || (last ≤ lastShortCode && !folding.hasCaseIn first last)
  | .inClass _ | .notInClass _ => true

/-- The test for the set with which a pattern starts, as it is in the modes of the whole pattern. -/
def Pattern.startTest? (ascii : Bool) : Pattern → Option CharTest
  | .one (.set negated folding _ items) =>
    if items.all folding.startsAlike then some (.set negated .none ascii items) else none
  | .seq first _ => first.startTest? ascii
  | .group _ body | .scoped body => body.startTest? ascii
  | _ => none

namespace Matcher

/-- The matcher for `pattern` in some modes, with the widths of its `groups`. A pattern that may
take nothing can start anywhere. -/
def ofPattern (mode : PatternMode) (groups : List (Option Width)) (pattern : Pattern) : Matcher :=
  let least := (pattern.width groups).least
  ⟨pattern, least, if least = 0 then none else pattern.startTest? mode.ascii⟩

/-- The matcher for `text`, which with `ignoreCase` may stand in either case, and with `wholeWord`
has to start and end at an edge of a word. -/
def ofLiteral (text : String) (ignoreCase wholeWord : Bool) : Matcher :=
  let mode := PatternMode.caseless ignoreCase
  ofPattern mode [] (.literal mode text wholeWord)

def mayStartAt (m : Matcher) (text : Array Char) (start : Nat) : Bool :=
  start + m.least ≤ text.size && m.start.all fun test => text[start]?.any test.holds

/-! ## Matches -/

/-- The end of the match that starts at `start`, where with `advancing` an empty one is passed over
for another way to match. -/
def endAt? (m : Matcher) (text : Array Char) (start : Nat) (advancing : Bool) : Option Nat :=
  if m.mayStartAt text start then
    let attempt := m.pattern.run text .top (.start start) fun st =>
      if advancing && st.pos = start then .error st else .ok st
    attempt.toOption.map MatchState.pos
  else none

/-- The first match that starts at `start` or at one of the `further` positions behind it. Only the
first position refuses an empty match with `advancing`. -/
def first? (m : Matcher) (text : Array Char) : Nat → Nat → Bool → Option (Nat × Nat)
  | 0, start, advancing => (m.endAt? text start advancing).map (start, ·)
  | further + 1, start, advancing =>
    match m.endAt? text start advancing with
    | some stop => some (start, stop)
    | none => first? m text further (start + 1) false

def upToFrom (m : Matcher) (text : Array Char) : Nat → Nat → Bool → List (Nat × Nat)
  | 0, _, _ => []
  | limit + 1, start, advancing =>
    if start > text.size then []
    else
      match m.first? text (text.size - start) start advancing with
      | none => []
      | some (first, stop) => (first, stop) :: upToFrom m text limit stop (first = stop)

/-- The first `limit` matches in `text`, from left to right, each with its start and end. -/
def upTo (m : Matcher) (limit : Nat) (text : Array Char) : List (Nat × Nat) :=
  m.upToFrom text limit 0 false

/-- All the matches in `text`. Every match but the first ends behind the one before or is empty
where that ended, so there are at most two for every position. -/
def all (m : Matcher) (text : Array Char) : List (Nat × Nat) := m.upTo (2 * text.size + 2) text

def matchesIn (m : Matcher) (text : Array Char) : Bool :=
  (m.first? text text.size 0 false).isSome

end Matcher

def slice (text : List Char) (start stop : Nat) : List Char := (text.drop start).take (stop - start)

/-- The text from `pos` on with each of the given stretches rewritten. -/
def rewriteFrom (rewrite : List Char → List Char) (pos : Nat) (text : List Char) :
    List (Nat × Nat) → List Char
  | [] => text
  | (start, stop) :: rest =>
    let (between, found) := text.splitAt (start - pos)
    let (found, behind) := found.splitAt (stop - start)
    between ++ rewrite found ++ rewriteFrom rewrite stop behind rest

def Matcher.rewriteAll (m : Matcher) (rewrite : List Char → List Char) (text : String) : String :=
  String.ofList (rewriteFrom rewrite 0 text.toList (m.all text.toList.toArray))

end OverlayShell
