import OverlayShell.Text.Digit
import OverlayShell.Workspace.Basic

/-!
# Changing documents

Creating, editing and deleting files and folders. A change is checked against the tree as it is
observed and recorded in the journal; one that would put a file where a folder is, or a folder where
a file is, is refused.
-/

namespace OverlayShell

namespace Workspace

def note (w : Workspace) (level : Level) (text : String) : Workspace :=
  { w with notices := w.notices ++ [⟨level, text⟩] }

/-- The journal after `write`, with the notice that it leaves. -/
def record (w : Workspace) (write : Journal.Write) : Workspace :=
  let written := { w with journal := w.journal.apply write }
  match write with
  | .create path _ => written.note .debug ("journal: created " ++ path.key)
  | .delete path => written.note .debug ("journal: deleted " ++ path.key)
  | .addFolder path =>
    if w.journal.hasFolder path then written
    else written.note .debug ("journal: created folder " ++ path.key)
  | .modify path content =>
    written.note .debug
      ("journal: modified " ++ path.key ++ " (" ++ Text.natText content.length ++ " chars)")
  | .dropFoldersUnder _ | .dropCreatedUnder _ | .reset _ => written

/-! ## Editing -/

def update (w : Workspace) (name content : String) : Workspace :=
  w.record (.modify (Path.parse name) content)

/-- The edit at the path of a name is taken back; `true` if there was one. -/
def resetFile (w : Workspace) (name : String) : Bool × Workspace :=
  (w.isModified name, w.record (.reset (Path.parse name)))

/-! ## Creating -/

/-- A file stands at `path` or on the way to it. -/
def isBlocked (w : Workspace) (path : Path) : Bool :=
  (path.ancestors ++ [path]).any (isFileAt w.tree)

/-- A file is created, or replaced, and opened; missing folders on the way are supplied by the view.
Refused at the root, where a folder is, and if the path `isBlocked` by a file above it. -/
def createFile (w : Workspace) (name content : String) : Option File × Workspace :=
  let path := Path.parse name
  if path.isRoot then (none, w)
  else if isFolderAt w.tree path then
    (none, w.note .warning ("create_file: " ++ path.key ++ " is a directory"))
  else if path.ancestors.any (isFileAt w.tree) then
    (none, w.note .warning ("create_file: parent of " ++ path.key ++ " is a file"))
  else
    let file : File := ⟨path.key, fileKind path.name, content, true⟩
    (some file, (w.record (.create path file)).showing file.name)

/-- A folder is created. Refused at the root and if the path `isBlocked`. -/
def createFolder (w : Workspace) (name : String) : Bool × Workspace :=
  let path := Path.parse name
  if path.isRoot then (false, w)
  else
    let w := w.refresh
    if w.isBlocked path then
      (false, w.note .warning ("create_folder: " ++ path.key ++ " conflicts with an existing file"))
    else (true, w.record (.addFolder path))

/-- The folders are created in turn, up to the first that `createFolder` refuses. -/
def createFolders (w : Workspace) : List Path → Bool × Workspace
  | [] => (true, w)
  | folder :: rest =>
    match w.createFolder folder.key with
    | (true, w) => w.createFolders rest
    | (false, w) => (false, w)

def createFileWithPath (w : Workspace) (name content : String) : Option File × Workspace :=
  let path := Path.parse name
  if path.isRoot then (none, w)
  else
    match w.createFolders path.ancestors with
    | (true, w) => w.createFile path.key content
    | (false, w) => (none, w)

/-! ## Deleting -/

def deleteFile (w : Workspace) (name : String) : Bool × Workspace :=
  match w.file? name with
  | none => (false, w)
  | some f => (true, (w.record (.delete (Path.parse f.name))).closeFile f.name)

/-- The paths that go when the folder at `path` goes: those of the entries below it and of the files
of `w.files` within it, each once. -/
def doomed (w : Workspace) (path : Path) (children : List Entry) : List Path :=
  w.files.foldl
    (fun paths f =>
      let filePath := Path.parse f.name
      if filePath.isWithin path && !paths.contains filePath then paths ++ [filePath] else paths)
    ((Entry.walkAll path children).map Prod.fst)

/-- The open files below `path` are closed. If one of them was in front, the last of the others
follows it. -/
def closeUnder (w : Workspace) (path : Path) : Workspace :=
  let below (name : String) : Bool := Text.startsWith (path.key ++ "/") name
  let others := w.openFiles.filter (!below ·)
  { w with openFiles := others, active := if below w.active then lastOpen others else w.active }

/-- A folder is deleted with everything below it, and the files below it are closed. Every path of
`doomed` gets a tombstone of its own, so that a folder created there later starts empty. -/
def deleteFolder (w : Workspace) (name : String) : Bool × Workspace :=
  let path := Path.parse name
  if path.isRoot then (false, w)
  else
    match lookup w.tree path with
    | some (.folder _ children _) =>
      let gone := w.doomed path children
      let w := (w.record (.dropFoldersUnder path)).record (.dropCreatedUnder path)
      let w := (gone ++ [path]).foldl (fun w p => w.record (.delete p)) w
      (true, w.closeUnder path)
    | _ => (false, w)

end Workspace

end OverlayShell
