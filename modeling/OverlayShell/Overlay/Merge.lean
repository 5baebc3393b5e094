import OverlayShell.Overlay.Journal
import OverlayShell.Tree.Walk

/-!
# The merged view

A base tree and a journal give a view: the tree as it is observed, and the flat list of its files,
each under its key. The tree is the base without what has a tombstone, then with the created
folders, the shallow ones first, then with the created files in order of creation. A file is never
turned into a folder, nor a folder into a file: what would need that is left out.
-/

namespace OverlayShell

/-- The observable state of a document tree: `files` has every file under its key. -/
structure View where
  tree : List Entry
  files : List File

namespace Entry

mutual

/-- What is left of an entry of the folder `base`: no tombstones, edited contents, and `[]` if it
has a tombstone itself. -/
def surviving (j : Journal) (base : Path) : Entry → List Entry
  | .file f =>
    if j.isDeleted (base.child f.name) then [] else [.file (j.edited (base.child f.name) f)]
  | .folder name children isOpen =>
    if j.isDeleted (base.child name) then []
    else [.folder name (survivors j (base.child name) children) isOpen]

def survivors (j : Journal) (base : Path) : List Entry → List Entry
  | [] => []
  | entry :: rest => entry.surviving j base ++ survivors j base rest

end

abbrev Attempt := List Entry × Bool

/-- The first entry of the given `name` is replaced by what `change` makes of it. If there is none,
the outcome is that of `fresh`. -/
def atName (name : String) (fresh : Attempt) (change : Entry → Attempt) : List Entry → Attempt
  | [] => fresh
  | entry :: rest =>
    if entry.name = name then
      let (changed, done) := change entry
      (changed ++ rest, done)
    else
      let (changed, done) := atName name fresh change rest
      (entry :: changed, done)

/-- `change` is applied to the children of the folder at the end of the way. Missing folders are
supplied, and the folders on the way become open. A file on the way stops the `Attempt`. -/
def inFolder (change : List Entry → Attempt) : List String → List Entry → Attempt
  | [], entries => change entries
  | segment :: rest, entries =>
    let (fresh, done) := inFolder change rest []
    atName segment ([.folder segment fresh true], done)
      (fun
        | .folder name children _ =>
          let (changed, done) := inFolder change rest children
          ([.folder name changed true], done)
        | .file f => ([.file f], false))
      entries

/-- A file is put among its siblings: in place of a file of its name, or at the end. A folder of its
name stops the `Attempt`. -/
def placeFile (f : File) : List Entry → Attempt :=
  atName f.name ([.file f], true) fun
    | .file _ => ([.file f], true)
    | .folder name children isOpen => ([.folder name children isOpen], false)

end Entry

def withFolder (tree : List Entry) (path : Path) : List Entry :=
  (Entry.inFolder (fun children => (children, true)) path.segments tree).1

def withFile (tree : List Entry) (path : Path) (file : File) : Entry.Attempt :=
  Entry.inFolder (Entry.placeFile { file with name := path.name }) path.parent.segments tree

/-- The tree with `folders` in the given order. Those with a tombstone are passed over. -/
def withFolders (j : Journal) (folders : List Path) (tree : List Entry) : List Entry :=
  (folders.filter (!j.isDeleted ·)).foldl withFolder tree

structure Placement where
  tree : List Entry
  placed : List (Path × File)

/-- One created file is given its place. One with a tombstone, or with something else in the way, is
passed over and not in `placed`. -/
def Placement.place (j : Journal) (p : Placement) (entry : Path × File) : Placement :=
  let (path, file) := entry
  if j.isDeleted path then p
  else
    let current := j.edited path file
    let (tree, done) := withFile p.tree path current
    let listed := (path, { current with name := path.key })
    { tree, placed := if done then p.placed ++ [listed] else p.placed }

def keyedFiles (tree : List Entry) : List (Path × File) :=
  (Entry.walkAll .root tree).filterMap fun
    | (path, .file f) => some (path, { f with name := path.key })
    | (_, .folder _ _ _) => none

/-- The view of a base tree under a journal whose created folders are taken in the given order. In
`files` those of the base come first, in the order of the walk, then the created ones. -/
def mergeInOrder (folders : List Path) (base : List Entry) (j : Journal) : View :=
  let kept := Entry.survivors j .root base
  let start : Placement := ⟨withFolders j folders kept, []⟩
  let result := j.created.entries.foldl (Placement.place j) start
  let replaced := result.placed.map Prod.fst
  let baseFiles := (keyedFiles kept).filter fun entry => !replaced.contains entry.1
  { tree := result.tree
    files := (baseFiles ++ result.placed).map Prod.snd }

def Journal.foldersByDepth (j : Journal) : List Path :=
  j.folders.mergeSort fun p q => p.depth ≤ q.depth

/-- The `View` of a base tree under a journal, whose shallow folders come first. -/
def merge (base : List Entry) (j : Journal) : View := mergeInOrder j.foldersByDepth base j

/-! ## Remembering the view -/

/-- The last view that was read, with the `version` of the journal it was made for. -/
structure ViewCache where
  version : Option Nat
  view : View

def ViewCache.empty : ViewCache := ⟨none, ⟨[], []⟩⟩

def ViewCache.isCurrent (cache : ViewCache) (j : Journal) : Bool := cache.version = some j.version

/-- The view is merged anew unless `version` is still the one that is remembered. -/
def ViewCache.read (cache : ViewCache) (base : List Entry) (j : Journal) : ViewCache :=
  if cache.isCurrent j then cache else ⟨some j.version, merge base j⟩

end OverlayShell
