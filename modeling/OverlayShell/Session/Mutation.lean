import OverlayShell.Session.Basic

/-!
# Changing files and folders

The commands `touch`, `mkdir` and `rm`. Each takes its arguments in turn, and what has been done for
one of them stays done if a later one fails.
-/

namespace OverlayShell

namespace Session

/-! ## Creating -/

/-- An empty file is created for each name that has none. A folder of the name, or no folder to put
the file into, ends the command. -/
def touchAll (s : Session) : List String → Outcome
  | [] => (s, .ok [])
  | name :: rest =>
    let path := s.resolve name
    let tree := s.workspace.tree
    match lookup tree path with
    | some (.file _) => touchAll s rest
    | some (.folder _ _ _) =>
      (s, .error (.refused .typeMismatch ("touch: " ++ name ++ ": Is a directory")))
    | none =>
      if isFolderAt tree path.parent then
        match s.workspace.createFile path.key "" with
        | (some _, w) => touchAll (s.withWorkspace w) rest
        | (none, w) =>
          (s.withWorkspace w, .ok [.error ("touch: cannot touch '" ++ name ++ "'")])
      else
        (s, .error (.refused .notFound
          ("touch: cannot touch '" ++ name ++ "': No such file or directory")))

def touch (s : Session) (args : List String) : Outcome :=
  if args.isEmpty then s.usage "touch <file>" else s.touchAll args

def mkdirRefusal (name reason : String) : Line :=
  .error ("mkdir: cannot create directory '" ++ name ++ "': " ++ reason)

/-- A folder is created, with `parents` also inside of folders that do not exist yet. -/
def mkdirOne (s : Session) (parents : Bool) (name : String) : Session × List Line :=
  let path := s.resolve name
  let tree := s.workspace.tree
  match lookup tree path with
  | some entry =>
    (s, if parents && entry.isFolder then [] else [mkdirRefusal name "File exists"])
  | none =>
    if !parents && !isFolderAt tree path.parent then
      (s, [mkdirRefusal name "No such file or directory"])
    else
      let (made, w) := s.workspace.createFolder path.key
      (s.withWorkspace w, if made then [] else [mkdirRefusal name "Not a directory"])

/-- `step` for each of the names in turn, with all the lines that it prints. -/
def forEachName (step : Session → String → Session × List Line) (s : Session) :
    List String → Session × List Line
  | [] => (s, [])
  | name :: rest =>
    let (s, said) := step s name
    let (s, later) := forEachName step s rest
    (s, said ++ later)

def mkdir (s : Session) (args : List String) : Outcome :=
  let names := args.filter (!isOption ·)
  if names.isEmpty then s.usage "mkdir [-p] <dir>"
  else
    let (s, said) := forEachName (·.mkdirOne (args.contains "-p") ·) s names
    (s, .ok said)

/-! ## Removing -/

/-- A file is removed or, with `recursive`, a folder. If `cwd` goes with a folder, the one around
that takes its place. -/
def rmOne (s : Session) (recursive : Bool) (name : String) : Session × List Line :=
  let path := s.resolve name
  if path.isRoot then (s, [.error "rm: refusing to remove '/'"])
  else
    match lookup s.workspace.tree path with
    | none => (s, [.error ("rm: cannot remove '" ++ name ++ "': No such file or directory")])
    | some (.file _) => (s.withWorkspace (s.workspace.deleteFile path.key).2, [])
    | some (.folder _ _ _) =>
      if recursive then
        let s := s.withWorkspace (s.workspace.deleteFolder path.key).2
        (if s.cwd.isWithin path then { s with cwd := path.parent } else s, [])
      else (s, [.error ("rm: cannot remove '" ++ name ++ "': Is a directory")])

def asksRecursive (args : List String) : Bool :=
  args.any fun arg => isOption arg && Text.contains "r" (Text.lower arg)

def rm (s : Session) (args : List String) : Outcome :=
  let names := args.filter (!isOption ·)
  if names.isEmpty then s.usage "rm [-r] <path>"
  else
    let (s, said) := forEachName (·.rmOne (asksRecursive args) ·) s names
    (s, .ok said)

end Session

end OverlayShell
