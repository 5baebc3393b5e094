import OverlayShell.Proofs.Mark
import OverlayShell.Proofs.Numerals
import OverlayShell.Proofs.PlainText
import OverlayShell.Session.Inspection

/-!
# Lines with their matches marked

A line in which a pattern matches is shown with its number and with every match in colour. Marking
puts sequences around the matches and moves nothing, so that a plain-text reader has the line as it
stands in the file.
-/

namespace OverlayShell

/-! ## 1. Marking -/

namespace Session

open Text

variable {text : List Char}

end Session

/-! ## 2. Lines that match -/

namespace Matcher

variable {m : Matcher} {content line : String}

end Matcher

/-! ## 3. The command -/

namespace Session

end Session

end OverlayShell
