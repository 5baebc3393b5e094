/-!
# Range tables

A class of characters is an ascending list of ranges of code points, both ends included. A search
stops at the first range that starts beyond the code point.
-/

namespace OverlayShell.Text

def inRanges (n : Nat) : List (Nat × Nat) → Bool
  | [] => false
  | (first, last) :: rest => if n < first then false else n ≤ last || inRanges n rest

end OverlayShell.Text
