import OverlayShell.Text.Blank
import OverlayShell.Text.Letter
import OverlayShell.Tree.Walk

/-!
# Completion

What a line that is being typed may go on with: a command in its first word, and an entry of a
folder in the later words of a command that takes files. Case does not matter.
-/

namespace OverlayShell

/-- The commands whose later words are completed with entries. -/
def fileCommands : List String := ["cat", "open", "head", "tail", "wc", "grep", "cd", "ls"]

def maxSuggestions : Nat := 8

def beginsAs (start name : String) : Bool := Text.startsWith (Text.lower start) (Text.lower name)

/-- The names that start with `typed`, each once. With nothing typed, the first ten are
suggested. -/
def suggestCommands (typed : String) (names : List String) : List String :=
  if typed.isEmpty then names.eraseDups.take 10
  else (names.eraseDups.filter (beginsAs typed)).take maxSuggestions

/-- The entries that the text behind the last slash of `typed` begins, behind the text up to that
slash, which leads to the folder to look in. The name of a folder ends with a slash. -/
def suggestEntries (typed : String) (tree : List Entry) (cwd : Path) : List String :=
  let (head, begun) := Text.splitLast '/' typed
  let folder :=
    match head with
    | none => cwd
    | some "" => .root
    | some folder => cwd.resolve folder
  let lead := (head.map (· ++ "/")).getD ""
  (((childrenAt tree folder).filter (beginsAs begun ·.name)).map fun entry =>
    lead ++ entry.name ++ (if entry.isFolder then "/" else "")).take maxSuggestions

/-- The words of a `line` that is being typed. Blanks at its end begin a new word. -/
def typedWords (line : String) : List String :=
  let begun := (line.toList.getLast?.map Text.isBlank).getD false
  Text.words line ++ (if begun then [""] else [])

def suggest (line : String) (names : List String) (tree : List Entry) (cwd : Path) : List String :=
  match typedWords line with
  | [] => suggestCommands "" names
  | [word] => suggestCommands word names
  | command :: rest =>
    if fileCommands.contains (Text.lower command) then
      suggestEntries (rest.getLast?.getD "") tree cwd
    else []

end OverlayShell
