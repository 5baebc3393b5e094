import OverlayShell.Document.Mismatch
import OverlayShell.Tree.Entry

/-!
# Trees from documents

A tree is configured as a list of nodes: a bare name is an empty file, a map with a name is a folder
if it has children or says so, and a file otherwise. A text stands for its characters and a map for
its keys, each a bare name.
-/

namespace OverlayShell

namespace Entry

def bareFile (name : String) : Entry := .file ⟨name, fileKind name, "", false⟩

def fileOfFields (name : String) (fields : List (String × Document)) : File :=
  let kind := (Document.field? "type" fields).getD .null
  { name := name
    kind := if kind.isAbsent then fileKind name else kind.asText
    content := ((Document.field? "content" fields).map Document.asText).getD ""
    isOpen := false }

def saysFolder (fields : List (String × Document)) : Bool :=
  match Document.field? "type" fields with
  | some (.text kind) => kind = "folder"
  | _ => false

def saysOpen (fields : List (String × Document)) : Bool :=
  ((Document.field? "open" fields).map (!·.isAbsent)).getD false

mutual

/-- The entries that a document lists, or the `Mismatch` at which reading stops. -/
def ofDocument : Document → Except Document.Mismatch (List Entry)
  | .list items => ofItems items
  | .map fields => .ok (fields.map fun field => bareFile field.1)
  | .text names => .ok (names.toList.map fun c => bareFile (String.singleton c))
  | other => if other.isAbsent then .ok [] else .error .notEntries

def ofItems : List Document → Except Document.Mismatch (List Entry)
  | [] => .ok []
  | node :: rest => do
    let entry ← ofNode node
    let entries ← ofItems rest
    return entry :: entries

/-- A node describes a folder if it has `children` or its `type` is `folder`, else a file. -/
def ofNode : Document → Except Document.Mismatch Entry
  | .text name => .ok (bareFile name)
  | .map fields =>
    match Document.field? "name" fields with
    | none => .error (.treeNode (.map fields))
    | some name =>
      match ofChildren fields with
      | some children => children.map fun entries => .folder name.asText entries (saysOpen fields)
      | none =>
        if saysFolder fields then .ok (.folder name.asText [] (saysOpen fields))
        else .ok (.file (fileOfFields name.asText fields))
  | other => .error (.treeNode other)

/-- The entries under the first key `children`; `none` if there is no such key. -/
def ofChildren : List (String × Document) → Option (Except Document.Mismatch (List Entry))
  | [] => none
  | field :: rest =>
    match ofChildField field with
    | some entries => some entries
    | none => ofChildren rest

def ofChildField : String × Document → Option (Except Document.Mismatch (List Entry))
  | (key, value) => if key = "children" then some (ofDocument value) else none

end

end Entry

end OverlayShell
