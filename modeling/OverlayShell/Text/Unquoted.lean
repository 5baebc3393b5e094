import OverlayShell.Text.Pieces

/-!
# Taking quotation marks off

Arguments may stand in quotation marks. Some commands take off all the marks at both ends, others
one mark at each end.
-/

namespace OverlayShell.Text

def isQuote (c : Char) : Bool := c = '"' || c = '\''

def withoutQuotes (text : String) : String := String.ofList (trimBy isQuote text.toList)

def withoutEndQuote (text : List Char) : List Char :=
  match text.reverse with
  | '\n' :: c :: before => if isQuote c then before.reverse ++ ['\n'] else text
  | c :: before => if isQuote c then before.reverse else text
  | [] => []

/-- The `text` without a quotation mark at its start and without one at its end. -/
def unquoted (text : String) : String :=
  match text.toList with
  | [] => ""
  | c :: cs => String.ofList (withoutEndQuote (if isQuote c then cs else c :: cs))

end OverlayShell.Text
