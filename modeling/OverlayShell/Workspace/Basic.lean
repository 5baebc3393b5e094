import OverlayShell.Console.Notice
import OverlayShell.Overlay.Merge

/-!
# The workspace

A copy-on-write document tree together with the editor's open files. The base tree is never changed:
what is seen is the merge of the base and the journal. Files are found by their key, first exactly
and then without regard to case.
-/

namespace OverlayShell

/-- A document tree under change, and the `openFiles` of the editor, one of which is `active` unless
it is empty. -/
structure Workspace where
  base : List Entry
  journal : Journal
  cache : ViewCache
  openFiles : List String
  active : String
  /-- What was done, oldest first. -/
  notices : List Notice

namespace Workspace

def start (base : List Entry) (openFiles : List String) (active : String) : Workspace :=
  { base, journal := .empty, cache := .empty, openFiles, active, notices := [] }

/-! ## Views -/

/-- The workspace once its view has been read; `view`, `tree` and `files` read it first. -/
def refresh (w : Workspace) : Workspace := { w with cache := w.cache.read w.base w.journal }

def view (w : Workspace) : View := w.refresh.cache.view

def tree (w : Workspace) : List Entry := w.view.tree

def files (w : Workspace) : List File := w.view.files

def version (w : Workspace) : Nat := w.journal.version

/-- The file of exactly the given `key` or, failing that, the first one whose key differs from it
only in case. -/
def findFile (files : List File) (key : String) : Option File :=
  match files.find? (·.name = key) with
  | some f => some f
  | none => files.find? fun f => Text.lower f.name = Text.lower key

def file? (w : Workspace) (name : String) : Option File := findFile w.files (Path.parse name).key

def fileExists (w : Workspace) (name : String) : Bool :=
  w.files.any (·.name = (Path.parse name).key)

def read? (w : Workspace) (name : String) : Option String := (w.file? name).map File.content

def isModified (w : Workspace) (name : String) : Bool := w.journal.isModified (Path.parse name)

/-- The names in a folder in code point order, those of folders with a slash behind them. -/
def list (w : Workspace) (folder : String) : List String :=
  let names := (childrenAt w.tree (Path.parse folder)).map fun entry =>
    if entry.isFolder then entry.name ++ "/" else entry.name
  names.mergeSort fun a b => a ≤ b

/-! ## Open files -/

def current? (w : Workspace) : Option File := if w.active = "" then none else w.file? w.active

/-- `name` is among the `openFiles`, at the end if it is new, and in front. -/
def showing (w : Workspace) (name : String) : Workspace :=
  { w with
    openFiles := if w.openFiles.contains name then w.openFiles else w.openFiles ++ [name]
    active := name }

/-- The file that a name denotes is opened under its key; nothing happens if there is none. -/
def openFile (w : Workspace) (name : String) : Option String × Workspace :=
  match w.file? name with
  | none => (none, w)
  | some f => (some f.name, w.showing f.name)

def lastOpen (openFiles : List String) : String := openFiles.getLast?.getD ""

/-- `name` is taken from the `openFiles`. If it was in front, the last of the others follows it. -/
def closeFile (w : Workspace) (name : String) : Workspace :=
  let others := w.openFiles.filter (· != name)
  { w with openFiles := others, active := if w.active = name then lastOpen others else w.active }

def closeAll (w : Workspace) : Workspace := { w with openFiles := [], active := "" }

/-- `keep` is the only open file, whether or not it was open. -/
def closeOthers (w : Workspace) (keep : String) : Workspace :=
  { w with openFiles := [keep], active := keep }

end Workspace

end OverlayShell
