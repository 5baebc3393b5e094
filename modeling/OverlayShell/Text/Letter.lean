import OverlayShell.Text.CaseTable
import OverlayShell.Text.Ranges
import OverlayShell.Text.WordTable

/-!
# Letters and their case

Word characters, the lower- and upper-case forms of a text, and the relation "the same but for case"
that case-insensitive search uses.
-/

namespace OverlayShell.Text

def isWord (c : Char) : Bool := inRanges c.toNat wordRanges

/-- Where `n` goes in the first of the ascending runs that holds it. -/
def shiftIn (n : Nat) : List CaseRun → Option Nat
  | [] => none
  | run :: rest =>
    if n < run.first then none
    else if n ≤ run.last && (n - run.first) % run.step = 0 then some (Int.toNat (n + run.shift))
    else shiftIn n rest

/-- The lower-case form of a character. Only `İ` has two characters in it, the second being the dot
above. -/
def lowerForm (c : Char) : List Char :=
  if c == 'İ' then ['i', Char.ofNat 0x307]
  else [((shiftIn c.toNat lowerRuns).map Char.ofNat).getD c]

def upperForm (c : Char) : List Char :=
  match upperExpansions.lookup c.toNat with
  | some form => form.map Char.ofNat
  | none => [((shiftIn c.toNat upperRuns).map Char.ofNat).getD c]

def lowerChar (c : Char) : Char := (lowerForm c).headD c

def upperChar (c : Char) : Char := (upperForm c).headD c

/-- A letter is the next thing in the list, once the ignorable characters are skipped. -/
def casedAhead : List Char → Bool
  | [] => false
  | c :: cs =>
    if inRanges c.toNat caseIgnorableRanges then casedAhead cs else inRanges c.toNat casedRanges

/-- The lower-case form of the characters after `before` (latest first). A capital sigma that ends
its word takes its final form. -/
def lowerAfter (before : List Char) : List Char → List Char
  | [] => []
  | c :: cs =>
    if c == 'Σ' then
      (if casedAhead before && !casedAhead cs then 'ς' else 'σ') :: lowerAfter (c :: before) cs
    else lowerForm c ++ lowerAfter (c :: before) cs

def lower (text : String) : String := String.ofList (lowerAfter [] text.toList)

def upper (text : String) : String := String.ofList (text.toList.flatMap upperForm)

/-- `a` and `b` agree but for case: their lower-case characters are equal or have the same
upper-case form. -/
def sameLetter (a b : Char) : Bool :=
  let l := lowerChar a
  let m := lowerChar b
  l == m || (!(l.toNat < 128 && m.toNat < 128) && upperForm l == upperForm m)

end OverlayShell.Text
