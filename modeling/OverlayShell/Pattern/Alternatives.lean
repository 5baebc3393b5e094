import OverlayShell.Pattern.Basic

/-!
# Alternatives

Several sequences of items of which one is to match. Items with which all of them start are put in
front, and alternatives that are then tests on a single character become one set. What matches is
the same, but for characters beyond four hexadecimal digits, which a set takes as they are written.
-/

namespace OverlayShell

namespace Pattern

def isSameItem : Pattern → Pattern → Bool
  | .one a, .one b => a = b
  | .anchor a, .anchor b => a = b
  | .backref _ i, .backref _ j => i = j
  | _, _ => false

def sharedStart : List Pattern → List (List Pattern) → Nat
  | [], _ => 0
  | item :: rest, others =>
    if others.all fun other => other.head?.any item.isSameItem then
      sharedStart rest (others.map (·.drop 1)) + 1
    else 0

/-- The members of a set, if the sequence is a test for them. -/
def onlyItems? : List Pattern → Option (List SetItem)
  | [.one test] => test.items?
  | _ => none

def oneOf (mode : PatternMode) (options : List (List Pattern)) : Pattern :=
  match options.mapM onlyItems? with
  | some items => .one (.ofItems mode.folding mode.ascii false items.flatten.eraseDups)
  | none => (options.map sequence).foldr .alt .never

def alternatives (mode : PatternMode) : List (List Pattern) → List Pattern
  | [] => [.never]
  | [only] => only
  | first :: others =>
    let shared := sharedStart first others
    first.take shared ++ [oneOf mode ((first :: others).map (·.drop shared))]

end Pattern

end OverlayShell
