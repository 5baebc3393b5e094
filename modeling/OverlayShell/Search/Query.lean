import OverlayShell.Pattern.Reading

/-!
# Queries

What a search looks for: a text, a text as a whole word, or a pattern.
-/

namespace OverlayShell

structure SearchOptions where
  caseSensitive : Bool
  wholeWord : Bool
  /-- The query is a pattern, and `wholeWord` has no effect. -/
  asPattern : Bool
  maxResults : Int
  /-- The number of neighbouring lines reported on each side; none if negative. -/
  contextLines : Int
  deriving DecidableEq

def SearchOptions.standard : SearchOptions := ⟨false, false, false, 50, 2⟩

/-- What `query` matches. Only a query that is read as a pattern can be in error. -/
def queryMatcher? (query : String) (options : SearchOptions) : Except PatternError Matcher :=
  if options.asPattern then Matcher.ofText? query (!options.caseSensitive)
  else .ok (Matcher.ofLiteral query (!options.caseSensitive) options.wholeWord)

end OverlayShell
