import OverlayShell.Number.Shortest
import OverlayShell.Text.Quoted

/-!
# Documents

A document is what a configuration file holds once its syntax has been read: nothing, a truth value,
a number, a text, a list or a map. This module has the type, the tests on it and its two texts.
-/

namespace OverlayShell

/-- A parsed document. The keys of a `map` are distinct and in the order of the file. -/
inductive Document where
  | null
  | bool (value : Bool)
  | int (value : Int)
  | float (value : Float)
  | text (value : String)
  | list (items : List Document)
  | map (fields : List (String × Document))

namespace Document

/-- `null`, `false`, zero and whatever is empty count as absent. -/
def isAbsent : Document → Bool
  | .null => true
  | .bool b => !b
  | .int n => n == 0
  | .float x => x == 0.0
  | .text s => s.isEmpty
  | .list items => items.isEmpty
  | .map fields => fields.isEmpty

def field? (key : String) (fields : List (String × Document)) : Option Document :=
  fields.lookup key

mutual

/-- The document as it is written inside a message or inside another document, texts being
`quoted`. -/
def shown : Document → String
  | .null => "None"
  | .bool b => if b then "True" else "False"
  | .int n => Text.intText n
  | .float x => Number.floatText x
  | .text s => Text.quoted s
  | .list items => "[" ++ Text.join ", " (shownItems items) ++ "]"
  | .map fields => "\x7b" ++ Text.join ", " (shownFields fields) ++ "\x7d"

def shownItems : List Document → List String
  | [] => []
  | item :: rest => item.shown :: shownItems rest

def shownFields : List (String × Document) → List String
  | [] => []
  | field :: rest => shownField field :: shownFields rest

def shownField : String × Document → String
  | (key, value) => Text.quoted key ++ ": " ++ value.shown

end

/-- The document as a text of its own: a `text` is itself, anything else is `shown`. -/
def asText : Document → String
  | .text s => s
  | other => other.shown

end Document

end OverlayShell
