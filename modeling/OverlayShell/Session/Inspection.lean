import OverlayShell.Search.Report
import OverlayShell.Search.Statistics
import OverlayShell.Session.Basic
import OverlayShell.Text.Unquoted

/-!
# Looking into files

The commands `cat`, `head`, `tail`, `wc`, `grep`, `search`, `stats` and `open`.
-/

namespace OverlayShell

namespace Session

open Text

/-! ## Contents -/

def cat (s : Session) (args : List String) : Outcome :=
  match args with
  | [] => s.usage "cat <file>"
  | name :: _ =>
    s.answers do
      let f ← s.requireFile name "cat" "No such file or directory"
      return outputLines (lines f.content)

/-- The number of lines that `-n` asks for, ten without it or without a number behind it. -/
def lineCount (args : List String) : Nat :=
  match args.idxOf? "-n" with
  | none => 10
  | some i =>
    match (args[i + 1]?).bind integer? with
    | none => 10
    | some n => n.toNat

/-- The first argument that is neither an option nor the number behind `-n`. -/
def fileArgument (args : List String) : Option String :=
  let number := (args.idxOf? "-n").map (· + 1)
  (args.zipIdx.find? fun (arg, i) => !isOption arg && some i != number).map Prod.fst

/-- The lines that `choose` takes from a file, given how many are asked for. -/
def excerpt (s : Session) (command : String) (args : List String)
    (choose : Nat → List String → List String) : Outcome :=
  match fileArgument args with
  | none | some "" => s.usage (command ++ " [-n N] <file>")
  | some name =>
    s.answers do
      let f ← s.requireFile name command "No such file"
      return outputLines (choose (lineCount args) (lines f.content))

def head (s : Session) (args : List String) : Outcome :=
  s.excerpt "head" args fun n all => all.take n

def tail (s : Session) (args : List String) : Outcome :=
  s.excerpt "tail" args fun n all => all.drop (all.length - n)

def wc (s : Session) (args : List String) : Outcome :=
  match args with
  | [] => s.usage "wc <file>"
  | name :: _ =>
    s.answers do
      let content := (← s.requireFile name "wc" "No such file").content
      return [.output ("  " ++ natText (lines content).length ++ "  " ++
        natText (words content).length ++ "  " ++ natText content.length ++ " " ++ name)]

/-! ## Patterns in one file -/

/-- What `pattern` matches in any case. If it is `malformed` it stands for itself. -/
def grepMatcher (pattern : String) : Except PatternError Matcher :=
  match Matcher.ofText? pattern true with
  | .error .malformed => .ok (Matcher.ofLiteral pattern true false)
  | result => result

def markedMatch (text : List Char) : List Char :=
  Colour.red.on.toList ++ Colour.bright.on.toList ++ text ++ colourReset.toList

/-- The lines in which `m` matches, with their numbers and with the matches marked. -/
def grepLines (m : Matcher) (content : String) : List Line :=
  ((lines content).zipIdx.filter fun (line, _) => m.matchesIn line.toList.toArray).map
    fun (line, i) =>
      .success (paint .grey (natText (i + 1) ++ ":") ++ " " ++ m.rewriteAll markedMatch line)

def grep (s : Session) (args : List String) : Outcome :=
  match args with
  | quoted :: name :: _ =>
    let pattern := withoutQuotes quoted
    s.answers do
      let f ← s.requireFile name "grep" "No such file"
      let m ← (grepMatcher pattern).mapError fun e => .broken e.message
      let found := grepLines m f.content
      if found.isEmpty then return [.output ("No matches found for '" ++ pattern ++ "'")]
      return found
  | _ => s.usage "grep <pattern> <file>"

/-! ## Searching all files -/

/-- What the arguments of `search` ask for: its options, the words of the query, and whether a
report is asked for. -/
structure SearchRequest where
  options : SearchOptions
  words : List String
  summary : Bool

def SearchRequest.read (r : SearchRequest) : List String → Except Failure SearchRequest
  | [] => .ok r
  | "--case" :: rest => read { r with options := { r.options with caseSensitive := true } } rest
  | "--word" :: rest => read { r with options := { r.options with wholeWord := true } } rest
  | "--regex" :: rest => read { r with options := { r.options with asPattern := true } } rest
  | "--summary" :: rest => read { r with summary := true } rest
  | ["--max"] => .error (.refused .invalidArgument "search: --max expects a number")
  | "--max" :: number :: rest =>
    match integer? number with
    | none => .error (.refused .invalidArgument "search: --max expects a number")
    | some n => read { r with options := { r.options with maxResults := n } } rest
  | word :: rest => read { r with words := r.words ++ [word] } rest

def resultLine (r : SearchResult) : Line :=
  .success (paint .magenta r.path ++ ":" ++ intText r.line ++ ":" ++ natText r.column ++ ": " ++
    r.content)

def resultLines (results : List SearchResult) (query : String) (summary : Bool) : List Line :=
  if summary then outputLines (lines (searchReport results query))
  else if results.isEmpty then [.output ("No results for \"" ++ query ++ "\"")]
  else
    results.map resultLine ++
      [.output (natText results.length ++ " result(s) for \"" ++ query ++ "\"")]

def search (s : Session) (args : List String) : Outcome :=
  s.answers do
    let r ← SearchRequest.read ⟨.standard, [], false⟩ args
    let query := withoutQuotes (join " " r.words)
    if query.isEmpty then
      return [.error
        "Usage: search <query> [--case] [--word] [--regex] [--max N] [--summary]"]
    let results ← (searchFiles s.workspace.files query r.options).mapError fun e =>
      .broken e.message
    return resultLines results query r.summary

def stats (s : Session) : Outcome :=
  s.shows (outputLines (treeStats s.workspace.files).summary)

/-! ## Opening -/

/-- A file is opened in the editor: the one in `cwd` or, failing that, the one that the name denotes
in the root. -/
def openNamed (s : Session) (args : List String) : Outcome :=
  match args with
  | [] => s.usage "open <file>"
  | name :: _ =>
    let (here, w) := s.workspace.openFile (s.resolve name).key
    let (opened, w) := if here.getD "" = "" then w.openFile name else (here, w)
    let s := s.withWorkspace w
    if opened.getD "" = "" then s.shows [.error ("File not found: " ++ name)]
    else s.shows [.success ("Opened " ++ opened.getD "")]

end Session

end OverlayShell
