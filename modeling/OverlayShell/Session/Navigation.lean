import OverlayShell.Session.Basic

/-!
# Getting around

The commands `help`, `ls`, `cd`, `pwd`, `tree` and `find`.
-/

namespace OverlayShell

namespace Session

open Text

/-! ## Help -/

def commandHelp (c : Command) : List Line := [
  .output ("  " ++ bold c.name ++ " - " ++ c.description),
  .output ("  Usage: " ++ accent c.usage)]

def categoryHelp (category : String) (commands : List Command) : List Line :=
  .blank :: .output ("  " ++ bold (upper category)) ::
    commands.map fun c =>
      .output ("    " ++ paint .yellow (padRight 26 c.usage) ++ c.description)

def help (s : Session) (args : List String) : Outcome :=
  match args with
  | name :: _ =>
    match s.table.get? name with
    | none => s.shows [.error ("Unknown command: " ++ name)]
    | some c => s.shows (commandHelp c)
  | [] =>
    s.shows
      (.output (bold Product.name ++ " - Available Commands") ::
        s.table.byCategory.flatMap (fun (category, commands) => categoryHelp category commands) ++
        [.blank, .output "  Shortcuts: Up/Down history | Tab autocomplete | Ctrl+L clear"])

/-! ## Listing -/

/-- The name of an entry as `ls` and `tree` show it: folders bright and blue with a slash, files
white. -/
def displayName : Entry → String
  | .folder name _ _ => Colour.bright.on ++ Colour.blue.on ++ name ++ "/" ++ colourReset
  | .file f => paint .white f.name

def longDate : String := "Nov 25 10:30"

def longLine (owner : String) (entry : Entry) : Line :=
  let (permissions, size) :=
    match entry with
    | .folder _ _ _ => ("drwxr-xr-x", 4096)
    | .file f => ("-rw-r--r--", f.content.length)
  .output (permissions ++ "  1 " ++ owner ++ " " ++ owner ++ " " ++ padLeft 6 (natText size) ++
    " " ++ longDate ++ " " ++ displayName entry)

/-- The path that `arg` denotes; without one, or with an empty one, `cwd`. -/
def target (s : Session) (arg : Option String) : Path :=
  match arg with
  | none | some "" => s.cwd
  | some name => s.resolve name

def optionLetters (args : List String) : List Char :=
  (args.filter isOption).flatMap fun arg => arg.toList.dropWhile (· == '-')

/-- The entries of a folder, without those whose names start with a dot unless `-a` asks for
them. -/
def ls (s : Session) (args : List String) : Outcome :=
  let letters := optionLetters args
  let arg := args.find? (!isOption ·)
  let path := s.target arg
  match lookup s.workspace.tree path with
  | none =>
    let shown := if arg.getD "" = "" then path.absolute else arg.getD ""
    s.shows [.error ("ls: cannot access '" ++ shown ++ "': No such file or directory")]
  | some (.file f) => s.shows [.output f.name]
  | some (.folder _ children _) =>
    let entries :=
      if letters.contains 'a' then children else children.filter (!startsWith "." ·.name)
    if letters.contains 'l' then
      s.shows
        (.output ("total " ++ natText entries.length) ::
          entries.map (longLine (s.variableOr "USER" "guest")))
    else if entries.isEmpty then s.shows []
    else s.shows [.output (join "  " (entries.map displayName))]

/-! ## The working directory -/

def cd (s : Session) (args : List String) : Outcome :=
  match args with
  | [] | "~" :: _ => ({ s with cwd := .root }, .ok [.success "~"])
  | name :: _ =>
    let path := s.resolve name
    match lookup s.workspace.tree path with
    | none => s.shows [.error ("cd: no such file or directory: " ++ name)]
    | some (.file _) => s.shows [.error ("cd: not a directory: " ++ name)]
    | some (.folder _ _ _) => ({ s with cwd := path }, .ok [])

def pwd (s : Session) : Outcome := s.shows [.output s.cwd.absolute]

/-! ## Drawing the tree -/

mutual

/-- The lines that draw an entry of the level `depth` and what is below it down to the level
`deepest`. `isLast` tells whether it is the last of its siblings. -/
def drawEntry (lead : String) (isLast : Bool) (depth deepest : Int) : Entry → List Line
  | .file f => [.output (lead ++ (if isLast then "└── " else "├── ") ++ displayName (.file f))]
  | .folder name children isOpen =>
    .success
        (lead ++ (if isLast then "└── " else "├── ") ++
          displayName (.folder name children isOpen)) ::
      (if depth < deepest then
        drawAll (lead ++ (if isLast then "    " else "│   ")) (depth + 1) deepest children
      else [])

def drawAll (lead : String) (depth deepest : Int) : List Entry → List Line
  | [] => []
  | entry :: rest =>
    drawEntry lead rest.isEmpty depth deepest entry ++ drawAll lead depth deepest rest

end

/-- The number behind `option`; what is no number, or zero, counts as `default`. -/
def numberBehind (option : String) (default : Int) (args : List String) : Int :=
  match args.idxOf? option with
  | none => default
  | some i =>
    match (args[i + 1]?).bind integer? with
    | none => default
    | some n => if n = 0 then default else n

/-- The first argument that is neither an option nor the value of `option`. -/
def argumentBeside (option : String) (args : List String) : Option String :=
  let value := (args.idxOf? option).map (· + 1)
  (args.zipIdx.find? fun (arg, i) => !isOption arg && some i != value).map Prod.fst

def treeSummary (entries : List Entry) : Line :=
  let all := (allEntries entries).map Prod.snd
  let folders := all.countP Entry.isFolder
  .success (natText folders ++ " directories, " ++ natText (all.length - folders) ++ " files")

/-- The tree below a folder, drawn down to the level behind `--depth`. -/
def drawTree (s : Session) (args : List String) : Outcome :=
  let deepest := numberBehind "--depth" 3 args
  let arg := argumentBeside "--depth" args
  let path := s.target arg
  match lookup s.workspace.tree path with
  | none => s.shows [.error ("tree: " ++ arg.getD "None" ++ ": No such file or directory")]
  | some (.file f) => s.shows [.output f.name]
  | some (.folder _ children _) =>
    s.shows
      (.output path.absolute :: drawAll "" 1 deepest children ++ [.blank, treeSummary children])

/-! ## Finding -/

def find (s : Session) (args : List String) : Outcome :=
  match args with
  | [] => s.usage "find <pattern>"
  | wanted :: _ =>
    let found := (allEntries s.workspace.tree).filter fun (_, entry) =>
      contains (lower wanted) (lower entry.name)
    if found.isEmpty then s.shows [.output ("No files matching '" ++ wanted ++ "' found")]
    else s.shows (found.map fun (key, _) => .success ("./" ++ key))

end Session

end OverlayShell
