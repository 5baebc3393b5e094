import OverlayShell.Search.Query
import OverlayShell.Text.Blank
import OverlayShell.Tree.Entry

/-!
# Searching files

Files are searched in order, line by line and from left to right. An empty match ends its line.
-/

namespace OverlayShell

/-- A match in a file, with its line. `line` and `column` count from one. -/
structure SearchResult where
  path : String
  line : Int
  column : Nat
  content : String
  found : String
  /-- The lines before, if they hold anything. -/
  before : Option String
  after : Option String
  deriving DecidableEq

/-- The stretches up to the first empty one, and that one. -/
def throughFirstEmpty : List (Nat × Nat) → List (Nat × Nat)
  | [] => []
  | (start, stop) :: rest =>
    (start, stop) :: (if stop ≤ start then [] else throughFirstEmpty rest)

/-- `lines` as one text; `none` if the text is empty. -/
def contextText (lines : List String) : Option String :=
  let text := Text.join "\n" lines
  if text.isEmpty then none else some text

/-- The first `limit` results in one of a file's lines, the one with the given index. -/
def resultsInLine (m : Matcher) (context : Nat) (path : String) (lines : List String)
    (limit : Nat) : String × Nat → List SearchResult
  | (line, index) =>
    let text := line.toList
    let content := Text.trim line
    (throughFirstEmpty (m.upTo limit text.toArray)).map fun (start, stop) =>
      { path, line := index + 1, column := start + 1, content
        found := String.ofList (slice text start stop)
        before := contextText ((lines.drop (index - context)).take (min index context))
        after := contextText ((lines.drop (index + 1)).take context) }

/-- The first `limit` of the results that parts give in order. A part is asked only for as many as
are still wanted, and not at all where none are. -/
def gatherUpTo {α β : Type} (results : Nat → α → List β) : Nat → List α → List β
  | 0, _ | _, [] => []
  | limit, part :: rest =>
    let found := results limit part
    found ++ gatherUpTo results (limit - found.length) rest

/-- The first `limit` results in a file. An empty file has none. -/
def resultsInFile (m : Matcher) (context limit : Nat) (file : File) : List SearchResult :=
  if file.content.isEmpty then []
  else
    let lines := Text.lines file.content
    gatherUpTo (resultsInLine m context file.name lines) limit lines.zipIdx

/-- The first results of a search. A blank query finds nothing, nor does a `malformed` pattern. -/
def searchFiles (files : List File) (query : String) (options : SearchOptions) :
    Except PatternError (List SearchResult) :=
  if Text.isBlankText query || options.maxResults ≤ 0 then .ok []
  else
    match queryMatcher? query options with
    | .error .malformed => .ok []
    | .error e => .error e
    | .ok m =>
      .ok (gatherUpTo (resultsInFile m options.contextLines.toNat) options.maxResults.toNat files)

/-! ## Laws -/

/-- **Stopping early changes nothing.** Where every part gives the first of what it has,
`gatherUpTo` gives the first results of all parts in order. -/
theorem gatherUpTo_eq_take {α β : Type} (results : Nat → α → List β) (allOf : α → List β)
    (h : ∀ limit part, results limit part = (allOf part).take limit) (limit : Nat)
    (parts : List α) : gatherUpTo results limit parts = (parts.flatMap allOf).take limit := by
  induction parts generalizing limit with
  | nil => cases limit <;> rfl
  | cons part rest ih =>
    cases limit with
    | zero => rfl
    | succ n =>
      simp only [gatherUpTo, ih, h, List.flatMap_cons, List.take_append, List.length_take]
      congr 2
      omega

end OverlayShell
