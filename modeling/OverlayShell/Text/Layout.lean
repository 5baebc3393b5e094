import OverlayShell.Text.Digit

/-!
# Columns and grouped numbers

Padding to a width counted in characters, and numbers grouped by thousands or filled with zeros.
-/

namespace OverlayShell.Text

def padRight (width : Nat) (text : String) : String :=
  text ++ String.ofList (List.replicate (width - text.length) ' ')

def padLeft (width : Nat) (text : String) : String :=
  String.ofList (List.replicate (width - text.length) ' ') ++ text

def zeroFill (width : Nat) (text : String) : String :=
  String.ofList (List.replicate (width - text.length) '0') ++ text

/-- Digits given from the least significant, with a comma after every third that is not the last. -/
def groupThousands : List Char → List Char
  | a :: b :: c :: d :: rest => a :: b :: c :: ',' :: groupThousands (d :: rest)
  | few => few

def groupedText (n : Nat) : String :=
  String.ofList (groupThousands (natText n).toList.reverse).reverse

def groupedIntText : Int → String
  | .ofNat n => groupedText n
  | .negSucc n => "-" ++ groupedText (n + 1)

end OverlayShell.Text
