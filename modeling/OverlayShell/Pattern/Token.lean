/-!
# Characters of a pattern's text

A backslash and the character behind it are read as one.
-/

namespace OverlayShell

inductive PatternToken where
  | plain (c : Char)
  | escaped (c : Char)
  /-- A backslash with nothing behind it. -/
  | dangling
  deriving DecidableEq

namespace PatternToken

def ofChars : List Char → List PatternToken
  | [] => []
  | ['\\'] => [.dangling]
  | '\\' :: c :: rest => .escaped c :: ofChars rest
  | c :: rest => .plain c :: ofChars rest

def chars : PatternToken → List Char
  | .plain c => [c]
  | .escaped c => ['\\', c]
  | .dangling => ['\\']

def isPlain (p : Char → Bool) : PatternToken → Bool
  | .plain c => p c
  | _ => false

end PatternToken

end OverlayShell
