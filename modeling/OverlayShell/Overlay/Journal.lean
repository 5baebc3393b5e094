import OverlayShell.Bindings
import OverlayShell.Tree.Entry

/-!
# The journal

What a session has done on top of its base tree: which paths are deleted, which files and folders
are created, and which contents are edited. The base tree itself never changes. A version number
grows with each recorded change, so that a view of the whole knows when it is out of date.
-/

namespace OverlayShell

structure Journal where
  /-- The tombstones: paths at which nothing is shown. -/
  deleted : List Path
  /-- The created files in order of creation; with `create` again a file moves to the end. -/
  created : Bindings Path File
  folders : List Path
  modified : Bindings Path String
  version : Nat

namespace Journal

def empty : Journal := ⟨[], .empty, [], .empty, 0⟩

def isDeleted (j : Journal) (path : Path) : Bool := j.deleted.contains path

/-- The file with the content that was edited for `path`, if one was. -/
def edited (j : Journal) (path : Path) (file : File) : File :=
  match j.modified.get? path with
  | none => file
  | some content => { file with content }

def bump (j : Journal) : Journal := { j with version := j.version + 1 }

def without (path : Path) (paths : List Path) : List Path := paths.filter (· != path)

def including (path : Path) (paths : List Path) : List Path :=
  if paths.contains path then paths else paths ++ [path]

def create (j : Journal) (path : Path) (file : File) : Journal :=
  bump { j with deleted := without path j.deleted, created := j.created.putLast path file }

/-- A tombstone is set, and what was created or edited at `path` is forgotten. A recorded folder
stays in `folders`. -/
def delete (j : Journal) (path : Path) : Journal :=
  bump { j with
    deleted := including path j.deleted
    created := j.created.erase path
    modified := j.modified.erase path }

def hasFolder (j : Journal) (path : Path) : Bool := j.folders.contains path

/-- A folder is created at `path` and its tombstone removed. If the folder was created before, only
the tombstone goes, and `version` stays as it is. -/
def addFolder (j : Journal) (path : Path) : Journal :=
  let revived := { j with deleted := without path j.deleted }
  if j.hasFolder path then revived else bump { revived with folders := j.folders ++ [path] }

def dropFoldersUnder (j : Journal) (path : Path) : Journal :=
  bump { j with folders := j.folders.filter fun folder => !folder.isWithin path }

/-- The created files at `path` and below it are forgotten, with their edits. -/
def dropCreatedUnder (j : Journal) (path : Path) : Journal :=
  bump { j with
    created := j.created.filter fun entry => !entry.1.isWithin path
    modified := j.modified.filter fun entry => !(j.created.has entry.1 && entry.1.isWithin path) }

def modify (j : Journal) (path : Path) (content : String) : Journal :=
  bump { j with modified := j.modified.put path content }

def isModified (j : Journal) (path : Path) : Bool := j.modified.has path

def reset (j : Journal) (path : Path) : Journal :=
  if j.isModified path then bump { j with modified := j.modified.erase path } else j

inductive Write where
  | create (path : Path) (file : File)
  | delete (path : Path)
  | addFolder (path : Path)
  | dropFoldersUnder (path : Path)
  | dropCreatedUnder (path : Path)
  | modify (path : Path) (content : String)
  | reset (path : Path)

def apply (j : Journal) : Write → Journal
  | .create path file => j.create path file
  | .delete path => j.delete path
  | .addFolder path => j.addFolder path
  | .dropFoldersUnder path => j.dropFoldersUnder path
  | .dropCreatedUnder path => j.dropCreatedUnder path
  | .modify path content => j.modify path content
  | .reset path => j.reset path

def Write.path : Write → Path
  | .create path _ => path
  | .delete path => path
  | .addFolder path => path
  | .dropFoldersUnder path => path
  | .dropCreatedUnder path => path
  | .modify path _ => path
  | .reset path => path

end Journal

end OverlayShell
