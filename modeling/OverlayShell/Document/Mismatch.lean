import OverlayShell.Document.Basic

/-!
# Documents of the wrong shape

What can be wrong with a configuration document once it has been read.
-/

namespace OverlayShell

namespace Document

inductive Mismatch where
  /-- The document in `file` is not a map. -/
  | topLevel (file : String)
  /-- `node` is neither a name nor a map with a name. -/
  | treeNode (node : Document)
  /-- A number or a truth value stands where entries are listed. -/
  | notEntries
  /-- Something else stands where names are mapped to values. -/
  | notMap

def Mismatch.message : Mismatch → String
  | .topLevel file => file ++ ": expected a mapping at the top level"
  | .treeNode node => "invalid tree node: " ++ node.shown
  | .notEntries => "expected a list of entries"
  | .notMap => "expected a mapping of names to values"

end Document

end OverlayShell
