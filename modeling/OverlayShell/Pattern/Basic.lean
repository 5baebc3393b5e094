import OverlayShell.Pattern.CharTest

/-!
# Patterns

The syntax trees of regular expressions over characters, and the modes that change their meaning.
Modes are worked out while a pattern is read: each part of the tree knows what it tests.
-/

namespace OverlayShell

structure PatternMode where
  ignoreCase : Bool
  /-- The line anchors match at every line break. -/
  multiLine : Bool
  /-- The point matches line breaks as well. -/
  dotAll : Bool
  /-- The classes and the case of letters are those of ASCII. -/
  ascii : Bool
  /-- Blanks and comments stand for nothing. -/
  verbose : Bool
  deriving DecidableEq

inductive Anchor where
  /-- The start, or with `everyLine` that of any line. -/
  | lineStart (everyLine : Bool)
  /-- The end, also before a final line break, or with `everyLine` that of any line. -/
  | lineEnd (everyLine : Bool)
  | textStart
  | textEnd
  /-- A word starts or ends, or with `negated` neither; with `ascii`, a word of ASCII. -/
  | wordEdge (negated ascii : Bool)
  deriving DecidableEq

inductive Greed where
  /-- As much as possible, giving back where needed. -/
  | greedy
  | lazy
  /-- As much as possible, giving nothing back. -/
  | possessive
  deriving DecidableEq

structure ModeChange where
  on : List Char
  off : List Char
  deriving DecidableEq

/-- A regular expression. Groups are numbered from one. -/
inductive Pattern where
  | empty
  | one (test : CharTest)
  | anchor (a : Anchor)
  | seq (first second : Pattern)
  | alt (first others : Pattern)
  | never
  | group (index : Nat) (body : Pattern)
  /-- A part with modes of its own. -/
  | scoped (body : Pattern)
  | atomic (body : Pattern)
  | repeated (greed : Greed) (least : Nat) (most : Option Nat) (body : Pattern)
  | ahead (negated : Bool) (body : Pattern)
  /-- `body` matches, or does not, when started `width` characters before. -/
  | behind (negated : Bool) (width : Nat) (body : Pattern)
  | backref (folding : Folding) (index : Nat)
  | ifGroup (index : Nat) (matched unmatched : Pattern)

/-! ## Modes -/

namespace PatternMode

def plain : PatternMode := ⟨false, false, false, false, false⟩

def caseless (ignoreCase : Bool) : PatternMode := { plain with ignoreCase }

/-- One mode, named by its letter, is switched to `value`. -/
def switch (value : Bool) (mode : PatternMode) : Char → PatternMode
  | 'i' => { mode with ignoreCase := value }
  | 'm' => { mode with multiLine := value }
  | 's' => { mode with dotAll := value }
  | 'a' => { mode with ascii := value }
  | 'u' => { mode with ascii := !value }
  | 'x' => { mode with verbose := value }
  | _ => mode

def change (mode : PatternMode) (c : ModeChange) : PatternMode :=
  c.off.foldl (switch false) (c.on.foldl (switch true) mode)

def folding (mode : PatternMode) : Folding :=
  if !mode.ignoreCase then .none else if mode.ascii then .ascii else .full

end PatternMode

namespace Pattern

/-! ## Single items -/

def code (mode : PatternMode) (n : Nat) : Pattern :=
  .one (.ofCode mode.folding mode.ascii false n)

def set (mode : PatternMode) (negated : Bool) (items : List SetItem) : Pattern :=
  .one (.ofSet mode.folding mode.ascii negated items)

def ofClass (mode : PatternMode) (item : SetItem) : Pattern :=
  .one (.ofItems mode.folding mode.ascii false [item])

/-- The test that is all of the pattern, as far as modes do not count. -/
def onlyTest? : Pattern → Option CharTest
  | .one test => some test
  | .scoped body => body.onlyTest?
  | _ => none

def isVoid : Pattern → Bool
  | .empty => true
  | .seq first second => first.isVoid && second.isVoid
  | .scoped body => body.isVoid
  | _ => false

/-- The test on a character with which the pattern starts, where `next` is the one behind it. -/
def opening (next : Option CharTest) : Pattern → Option CharTest
  | .empty => next
  | .one test => some test
  | .seq first second => if first.isVoid then second.opening next else first.opening none
  | .scoped body => body.opening next
  | _ => none

/-! ## Fixed texts -/

def sequence : List Pattern → Pattern
  | [] => .empty
  | [p] => p
  | p :: rest => .seq p (sequence rest)

/-- The pattern that matches exactly `text`, with `wholeWord` only where no word goes on at either
end. -/
def literal (mode : PatternMode) (text : String) (wholeWord : Bool) : Pattern :=
  let codes := text.toList.map fun c => code mode c.toNat
  let edge := Pattern.anchor (.wordEdge false mode.ascii)
  sequence (if wholeWord then edge :: codes ++ [edge] else codes)

end Pattern

end OverlayShell
