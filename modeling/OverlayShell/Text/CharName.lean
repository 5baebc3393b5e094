import OverlayShell.Text.CharName.Aliases
import OverlayShell.Text.CharName.Alphabets
import OverlayShell.Text.CharName.Ancient
import OverlayShell.Text.CharName.EastAsian
import OverlayShell.Text.CharName.Hieroglyphs
import OverlayShell.Text.CharName.Notation
import OverlayShell.Text.CharName.Pictographs
import OverlayShell.Text.CharName.Scripts
import OverlayShell.Text.CharName.Symbols
import OverlayShell.Text.IdentifierTable
import OverlayShell.Text.Letter
import OverlayShell.Text.Pieces

/-!
# Names of characters and names of things

Finding a character by its name, and the rule for names that can be given to parts of a pattern.

Most names are listed, in runs of consecutive characters. In a run, a small letter starts each name
and tells how many words it shares with the name before: none for `a`, one for `b`, and so on. What
follows are the other words. The names of unified ideographs and of Hangul syllables are made by
rules.
-/

namespace OverlayShell.Text

/-! ## Listed names -/

/-- The words of a name, each with the blank or hyphen behind it. -/
def nameWords : List Char → List (List Char)
  | [] => []
  | c :: cs =>
    match nameWords cs with
    | [] => [[c]]
    | word :: rest => if c = ' ' || c = '-' then [c] :: word :: rest else (c :: word) :: rest

/-- The entries of a run: how many words a name shares with the one before, and its other words. -/
def nameEntries (text : List Char) : List (Nat × List (List Char)) :=
  (text.foldr (fun c (word, entries) =>
    if c.isLower then ([], (c.toNat - 'a'.toNat, nameWords word) :: entries)
    else (c :: word, entries)) ([], [])).2

def placeAmong? (wanted : List (List Char)) :
    List (List Char) → List (Nat × List (List Char)) → Option Nat
  | _, [] => none
  | before, (shared, further) :: rest =>
    let name := before.take shared ++ further
    if name = wanted then some 0 else (placeAmong? wanted name rest).map (· + 1)

def nameRuns : List (List (Nat × List String)) :=
  [alphabetNames, scriptNames, symbolNames, eastAsianNames, ancientNames, hieroglyphNames,
    notationNames, pictographNames, aliasNames]

/-- The code point with a name that is listed in `nameRuns`, where letters of ASCII may be of either
case. -/
def listed? (name : List Char) : Option Nat :=
  let wanted := nameWords (name.map Char.toUpper)
  nameRuns.findSome? fun runs =>
    runs.findSome? fun (first, pieces) =>
      (placeAmong? wanted [] (nameEntries (pieces.flatMap String.toList))).map (first + ·)

/-! ## Names made by rules -/

def upperHexDigit? (c : Char) : Option Nat :=
  if '0' ≤ c && c ≤ '9' then some (c.toNat - 0x30)
  else if 'A' ≤ c && c ≤ 'F' then some (c.toNat - 0x37)
  else none

def ideograph? (digits : List Char) : Option Nat := do
  let n ← digits.foldlM (fun n c => (upperHexDigit? c).map (16 * n + ·)) 0
  let known := inRanges n [(0x3400, 0x4dbf), (0x4e00, 0x9fff), (0x20000, 0x2a6df),
    (0x2a700, 0x2b738), (0x2b740, 0x2b81d), (0x2b820, 0x2cea1), (0x2ceb0, 0x2ebe0),
    (0x30000, 0x3134a)]
  if known && (digits.length = 4 || digits.length = 5) then some n else none

def hangulStarts : List String :=
  ["G", "GG", "N", "D", "DD", "R", "M", "B", "BB", "S", "SS", "", "J", "JJ", "C", "K", "T", "P",
    "H"]

def hangulVowels : List String :=
  ["A", "AE", "YA", "YAE", "EO", "E", "YEO", "YE", "O", "WA", "WAE", "OE", "YO", "U", "WEO", "WE",
    "WI", "YU", "EU", "YI", "I"]

def hangulEnds : List String :=
  ["", "G", "GG", "GS", "N", "NJ", "NH", "D", "L", "LG", "LM", "LB", "LS", "LT", "LP", "LH", "M",
    "B", "BS", "S", "SS", "NG", "J", "C", "K", "T", "P", "H"]

def syllable? (sounds : String) : Option Nat :=
  hangulStarts.zipIdx.findSome? fun (start, i) =>
    hangulVowels.zipIdx.findSome? fun (vowel, j) =>
      if startsWith (start ++ vowel) sounds then
        (hangulEnds.zipIdx.find? fun (last, _) => start ++ vowel ++ last = sounds).map
          fun (_, k) => 0xac00 + (i * hangulVowels.length + j) * hangulEnds.length + k
      else none

def syllableOpening : String := "HANGUL SYLLABLE "

def ideographOpening : String := "CJK UNIFIED IDEOGRAPH-"

def charNamed? (name : String) : Option Nat :=
  let cs := name.toList
  if startsWith syllableOpening name then
    syllable? (String.ofList (cs.drop syllableOpening.length))
  else if startsWith ideographOpening name then ideograph? (cs.drop ideographOpening.length)
  else listed? cs

/-! ## Names of things -/

/-- The text can serve as a name: a letter or underscore, then letters, digits, marks and
underscores. -/
def isIdentifier (text : List Char) : Bool :=
  match text with
  | [] => false
  | c :: cs =>
    inRanges c.toNat identifierStartRanges && cs.all fun d => inRanges d.toNat identifierPartRanges

end OverlayShell.Text
