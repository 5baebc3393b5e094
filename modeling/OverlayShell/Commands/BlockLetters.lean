import OverlayShell.Text.Letter
import OverlayShell.Text.Pieces

/-!
# Block letters

A font of six rows for capital letters, digits and a few signs. A character that the font does not
have is drawn as a question mark.
-/

namespace OverlayShell

namespace BlockLetters

def font : List (Char × List String) := [
  ('A', ["██████╗ ", "██╔══██╗", "███████║", "██╔══██║", "██║  ██║", "╚═╝  ╚═╝"]),
  ('B', ["██████╗ ", "██╔══██╗", "██████╔╝", "██╔══██╗", "██████╔╝", "╚═════╝ "]),
  ('C', ["██████╗ ", "██╔══██╗", "██║     ", "██║     ", "╚██████╗", " ╚═════╝"]),
  ('D', ["██████╗ ", "██╔══██╗", "██║  ██║", "██║  ██║", "██████╔╝", "╚═════╝ "]),
  ('E', ["███████╗", "██╔════╝", "█████╗  ", "██╔══╝  ", "███████╗", "╚══════╝"]),
  ('F', ["███████╗", "██╔════╝", "█████╗  ", "██╔══╝  ", "██║     ", "╚═╝     "]),
  ('G', ["██████╗ ", "██╔════╝", "██║  ███╗", "██║   ██║", "╚██████╔╝", " ╚═════╝ "]),
  ('H', ["██╗  ██╗", "██║  ██║", "███████║", "██╔══██║", "██║  ██║", "╚═╝  ╚═╝"]),
  ('I', ["██╗", "██║", "██║", "██║", "██║", "╚═╝"]),
  ('J', ["     ██╗", "     ██║", "     ██║", "██   ██║", "╚█████╔╝", " ╚════╝ "]),
  ('K', ["██╗  ██╗", "██║ ██╔╝", "█████╔╝ ", "██╔═██╗ ", "██║  ██╗", "╚═╝  ╚═╝"]),
  ('L', ["██╗     ", "██║     ", "██║     ", "██║     ", "███████╗", "╚══════╝"]),
  ('M', ["███╗   ███╗", "████╗ ████║", "██╔████╔██║", "██║╚██╔╝██║", "██║ ╚═╝ ██║", "╚═╝     ╚═╝"]),
  ('N', ["███╗   ██╗", "████╗  ██║", "██╔██╗ ██║", "██║╚██╗██║", "██║ ╚████║", "╚═╝  ╚═══╝"]),
  ('O', ["██████╗ ", "██╔══██╗", "██║  ██║", "██║  ██║", "╚██████╔╝", " ╚═════╝ "]),
  ('P', ["██████╗ ", "██╔══██╗", "██████╔╝", "██╔═══╝ ", "██║     ", "╚═╝     "]),
  ('Q', ["██████╗ ", "██╔══██╗", "██║  ██║", "██║  ██║", "╚██████╗", " ╚═════╝"]),
  ('R', ["██████╗ ", "██╔══██╗", "██████╔╝", "██╔══██╗", "██║  ██║", "╚═╝  ╚═╝"]),
  ('S', ["███████╗", "██╔════╝", "███████╗", "╚════██║", "███████║", "╚══════╝"]),
  ('T', ["████████╗", "╚══██╔══╝", "   ██║   ", "   ██║   ", "   ██║   ", "   ╚═╝   "]),
  ('U', ["██╗  ██╗", "██║  ██║", "██║  ██║", "██║  ██║", "╚█████╔╝", " ╚════╝ "]),
  ('V', ["██╗   ██╗", "██║   ██║", "██║   ██║", "╚██╗ ██╔╝", " ╚████╔╝ ", "  ╚═══╝  "]),
  ('W', ["██╗    ██╗", "██║    ██║", "██║ █╗ ██║", "██║███╗██║", "╚███╔███╔╝", " ╚══╝╚══╝ "]),
  ('X', ["██╗  ██╗", "╚██╗██╔╝", " ╚███╔╝ ", " ██╔██╗ ", "██╔╝ ██╗", "╚═╝  ╚═╝"]),
  ('Y', ["██╗   ██╗", "╚██╗ ██╔╝", " ╚████╔╝ ", "  ╚██╔╝  ", "   ██║   ", "   ╚═╝   "]),
  ('Z', ["████████╗", "╚══██╔══╝", "   ██╔╝  ", "  ██╔╝   ", " ████████╗", "╚════════╝"]),
  ('0', ["██████╗ ", "██╔═██╗ ", "██║ ██║ ", "██║ ██║ ", "╚████╔╝ ", " ╚═══╝  "]),
  ('1', [" ██╗", "███║", "╚██║", " ██║", " ██║", " ╚═╝"]),
  ('2', ["██████╗ ", "╚════██╗", " █████╔╝", "██╔═══╝ ", "███████╗", "╚══════╝"]),
  ('3', ["██████╗ ", "╚════██╗", " █████╔╝", " ╚═══██╗", "██████╔╝", "╚═════╝ "]),
  ('4', ["██╗  ██╗", "██║  ██║", "███████║", "╚════██║", "     ██║", "     ╚═╝"]),
  ('5', ["███████╗", "██╔════╝", "███████╗", "╚════██║", "███████║", "╚══════╝"]),
  ('6', ["██████╗ ", "██╔════╝", "███████╗", "██╔══██║", "██████╔╝", "╚═════╝ "]),
  ('7', ["████████╗", "╚══════██║", "     ██╔╝", "    ██╔╝ ", "   ██╔╝  ", "   ╚═╝   "]),
  ('8', ["██████╗ ", "██╔══██╗", "╚█████╔╝", "██╔══██╗", "██████╔╝", "╚═════╝ "]),
  ('9', ["██████╗ ", "██╔══██╗", "╚██████║", "     ██║", "██████╔╝", "╚═════╝ "]),
  (' ', ["  ", "  ", "  ", "  ", "  ", "  "]),
  ('?', ["██████╗ ", "╚════██╗", " █████╔╝", " ╚═══╝  ", "   ██╗  ", "   ╚═╝  "]),
  ('.', ["   ", "   ", "   ", "   ", "   ", "██╗"]),
  ('!', ["██╗", "██║", "██║", "██║", "   ", "██╗"]),
  ('-', ["      ", "      ", "█████╗", "╚════╝", "      ", "      "])]

def glyph (c : Char) : List String := (font.lookup c).getD ((font.lookup '?').getD [])

/-- The six rows of `text`, which is drawn in capitals. -/
def banner (text : String) : List String :=
  let glyphs := (Text.upper text).toList.map glyph
  (List.range 6).map fun row => Text.join "" (glyphs.map (·.getD row ""))

theorem font_rows : font.all (·.2.length = 6) = true := by decide

end BlockLetters

end OverlayShell
