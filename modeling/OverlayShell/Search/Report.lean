import OverlayShell.Search.Result

/-!
# Search reports

A summary of search results in Markdown: the results under the file they were found in, with what
matched in bold.
-/

namespace OverlayShell

def starred (text : List Char) : List Char := "**".toList ++ text ++ "**".toList

/-- The line of a result, in which every occurrence of what was `found` is in bold, in any case. -/
def SearchResult.highlighted (r : SearchResult) : String :=
  if r.found.isEmpty then r.content
  else (Matcher.ofLiteral r.found true false).rewriteAll starred r.content

def reportSection (results : List SearchResult) (path : String) : List String :=
  ("### " ++ path) ::
    ((results.filter (·.path = path)).map fun r =>
      "- L" ++ Text.intText r.line ++ ": " ++ r.highlighted) ++ [""]

/-- The report on the results of `query`, files in order of their first result. -/
def searchReport (results : List SearchResult) (query : String) : String :=
  if results.isEmpty then "No results for \"" ++ query ++ "\"."
  else
    let head := "**" ++ Text.natText results.length ++ " result(s) for \"" ++ query ++ "\"**"
    let sections := (results.map (·.path)).eraseDups.flatMap (reportSection results)
    Text.trim (Text.join "\n" (head :: "" :: sections))

end OverlayShell
