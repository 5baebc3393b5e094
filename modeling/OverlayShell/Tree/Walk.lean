import OverlayShell.Tree.Entry

/-!
# Walking and looking up

Two views of a tree: the walk, which lists every entry with its path, folders before their children,
and the look-up, which follows the segments of one path down, taking the first sibling of each name.
-/

namespace OverlayShell

namespace Entry

mutual

/-- The entry and everything below it, with their paths, when it stands in the folder `base`. -/
def walk (base : Path) : Entry → List (Path × Entry)
  | .file f => [(base.child f.name, .file f)]
  | .folder name children isOpen =>
    (base.child name, .folder name children isOpen) :: walkAll (base.child name) children

def walkAll (base : Path) : List Entry → List (Path × Entry)
  | [] => []
  | entry :: rest => entry.walk base ++ walkAll base rest

end

/-- The entry that a sequence of segments leads to. A file in the middle of the way leads nowhere,
and so does `[]`. -/
def find? : List String → List Entry → Option Entry
  | [], _ => none
  | [segment], entries => entries.find? (·.name = segment)
  | segment :: next :: rest, entries =>
    match entries.find? (·.name = segment) with
    | some (.folder _ children _) => find? (next :: rest) children
    | _ => none

end Entry

/-- The entry at `path`. The root is shown as an open folder with the whole `tree` in it. -/
def lookup (tree : List Entry) (path : Path) : Option Entry :=
  if path.isRoot then some (.folder "root" tree true) else Entry.find? path.segments tree

def isFileAt (tree : List Entry) (path : Path) : Bool :=
  match lookup tree path with
  | some (.file _) => true
  | _ => false

def isFolderAt (tree : List Entry) (path : Path) : Bool :=
  match lookup tree path with
  | some (.folder _ _ _) => true
  | _ => false

def childrenAt (tree : List Entry) (path : Path) : List Entry :=
  ((lookup tree path).map Entry.children).getD []

def allEntries (tree : List Entry) : List (String × Entry) :=
  (Entry.walkAll .root tree).map fun (path, entry) => (path.key, entry)

end OverlayShell
