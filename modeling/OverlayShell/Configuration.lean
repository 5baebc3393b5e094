import OverlayShell.Session.Basic
import OverlayShell.Tree.OfDocument
import OverlayShell.Tree.Sample

/-!
# Configuration

A session can be configured by two documents in the working directory: one with variables, aliases
and a tree, and one with a pack of commands that print lines. What is configured comes on top of the
defaults; whatever is absent leaves them as they are.
-/

namespace OverlayShell

/-- What surrounds the shell: the documents that files of the working directory hold, and the
variable that may name the file of the configuration. -/
structure Surroundings where
  documents : List (String × Document)
  configVariable : Option String

structure Configuration where
  env : Bindings String String
  aliases : Bindings String String
  tree : Option (List Entry)

namespace Configuration

def defaultFile : String := "devterm.yaml"

def packFile : String := "commands.yaml"

/-- The names on the way to a file of the working directory. A path may be written with doubled
slashes and with steps that stay where they are, but one that starts or ends with a slash, or ends
with such a step, leads to no file of the directory. -/
def fileSteps (file : String) : List String :=
  let steps := Text.splitAt '/' file
  if steps.head? = some "" || steps.getLast? = some "" || steps.getLast? = some "." then []
  else steps.filter fun step => step != "" && step != "."

/-- The document in `file`; `.null` if there is no such file. -/
def documentIn (around : Surroundings) (file : String) : Document :=
  match fileSteps file with
  | [] => .null
  | steps =>
    let found := around.documents.reverse.find? fun entry => fileSteps entry.1 = steps
    (found.map Prod.snd).getD .null

/-- The file of the configuration: the `named` one, else the one that the variable names, else the
default. -/
def configFile (around : Surroundings) (named : String) : String :=
  if named.isEmpty then around.configVariable.getD defaultFile else named

/-- The fields of a map; an absent document has none. Anything else is a `notMap`. -/
def fieldsOf (d : Document) : Except Document.Mismatch (List (String × Document)) :=
  if d.isAbsent then .ok []
  else
    match d with
    | .map fields => .ok fields
    | _ => .error .notMap

/-- The fields of the map under `key`, with their values as texts. -/
def textsUnder (key : String) (fields : List (String × Document)) :
    Except Document.Mismatch (List (String × String)) := do
  let entries ← fieldsOf ((Document.field? key fields).getD .null)
  return entries.map fun (name, value) => (name, value.asText)

/-- The tree under `key`, if there is anything. -/
def treeUnder (key : String) (fields : List (String × Document)) :
    Except Document.Mismatch (Option (List Entry)) :=
  match (Document.field? key fields).getD .null with
  | .null => .ok none
  | data => (Entry.ofDocument data).map some

def load (around : Surroundings) (named : String) : Except Document.Mismatch Configuration := do
  let file := configFile around named
  let fields ← (fieldsOf (documentIn around file)).mapError fun _ => .topLevel file
  let env ← textsUnder "env" fields
  let aliases ← textsUnder "aliases" fields
  let tree ← treeUnder "tree" fields
  return { env := (Bindings.ofList Product.environment).putAll env
           aliases := (Bindings.ofList Product.aliases).putAll aliases
           tree }

def baseTree (c : Configuration) : List Entry := c.tree.getD sampleTree

/-! ## Packs of commands -/

/-- The lines that a command of a pack prints: the items of a list, or the lines of a text, of which
there is at least one. -/
def packLines : Document → List String
  | .list items => items.map Document.asText
  | other =>
    match Text.brokenLines other.asText.toList with
    | [] => [""]
    | lines => lines.map String.ofList

def loadPack (around : Surroundings) (file : String) :
    Except Document.Mismatch (List (String × List String)) := do
  let fields ← fieldsOf (documentIn around file)
  return fields.map fun (name, value) => (name, packLines value)

/-! ## Sessions -/

def session (around : Surroundings) (named : String) (now : Int) :
    Except Document.Mismatch Session := do
  let c ← load around named
  let pack ← loadPack around packFile
  return .start (.start c.baseTree [] "") c.env c.aliases (.standard pack) now

end Configuration

end OverlayShell
