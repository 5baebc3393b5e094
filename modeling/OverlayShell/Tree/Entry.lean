import OverlayShell.Text.Letter
import OverlayShell.Tree.Path

/-!
# Entries of a document tree

A tree is a list of entries, each a file with its text or a folder with further entries. Inside the
tree an entry's name is one segment; in the flat list a file carries its whole key as its name.
-/

namespace OverlayShell

structure File where
  name : String
  kind : String
  content : String
  isOpen : Bool
  deriving DecidableEq

inductive Entry where
  | file (f : File)
  | folder (name : String) (children : List Entry) (isOpen : Bool)

namespace Entry

def name : Entry → String
  | .file f => f.name
  | .folder name _ _ => name

def isFolder : Entry → Bool
  | .file _ => false
  | .folder _ _ _ => true

def children : Entry → List Entry
  | .file _ => []
  | .folder _ children _ => children

/-- Induction over a list of entries that goes into the `children` of its folders as well. -/
theorem forest_induction {P : List Entry → Prop} (nil : P [])
    (file : ∀ f rest, P rest → P (.file f :: rest))
    (folder : ∀ name children isOpen rest, P children → P rest →
      P (.folder name children isOpen :: rest)) : ∀ entries, P entries
  | [] => nil
  | .file f :: rest => file f rest (forest_induction nil file folder rest)
  | .folder name children isOpen :: rest =>
    folder name children isOpen rest (forest_induction nil file folder children)
      (forest_induction nil file folder rest)

end Entry

/-- The part of `name` after its last dot, in lower case; `none` without a dot. -/
def extension? (name : String) : Option String :=
  match Text.splitLast '.' name with
  | (some _, last) => some (Text.lower last)
  | (none, _) => none

def fileKind (name : String) : String :=
  match (extension? name).getD "" with
  | "json" => "json"
  | "lock" => "lock"
  | "ts" | "tsx" => "typescript"
  | "js" | "jsx" => "javascript"
  | "css" => "css"
  | "xml" => "xml"
  | _ => "markdown"

end OverlayShell
