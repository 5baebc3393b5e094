import OverlayShell.Text.Digit
import OverlayShell.Text.Letter

/-!
# Tests on a character

What one character has to be like to match: a certain one, or a member of a set, where letters may
match in either case. Characters are given by their code points, since a pattern may name a code
point that is no character.
-/

namespace OverlayShell

inductive Folding where
  | none
  | ascii
  | full
  deriving DecidableEq

inductive CharClass where
  | digit
  | space
  | word
  deriving DecidableEq

inductive SetItem where
  | code (n : Nat)
  | range (first last : Nat)
  | inClass (c : CharClass)
  | notInClass (c : CharClass)
  deriving DecidableEq

/-- A test on one character. With `negated`, the character has to fail it. -/
inductive CharTest where
  /-- Any character, but line breaks only with `breaks`. -/
  | any (breaks : Bool)
  | code (negated : Bool) (folding : Folding) (n : Nat)
  /-- A member of a set, where with `ascii` the classes are those of ASCII. -/
  | set (negated : Bool) (folding : Folding) (ascii : Bool) (items : List SetItem)
  deriving DecidableEq

/-! ## Classes -/

/-- The character is in the class; with `ascii` only if it is an ASCII character. -/
def CharClass.holds (ascii : Bool) (c : Char) : CharClass → Bool
  | .digit => Text.isDigit c && (!ascii || c.toNat < 128)
  | .space =>
    if ascii then c == ' ' || (9 ≤ c.toNat && c.toNat ≤ 13) else Text.isBlank c
  | .word => Text.isWord c && (!ascii || c.toNat < 128)

/-! ## Case -/

def sourcesIn (n : Nat) (runs : List Text.CaseRun) : List Nat :=
  runs.filterMap fun run =>
    let source := ((n : Int) - run.shift).toNat
    if run.first ≤ source && source ≤ run.last && (source - run.first) % run.step = 0 &&
        (source : Int) + run.shift = n then some source
    else none

/-- The code points that agree with `c` but for case: those with the same lower-case character, and
those whose lower-case character has the same upper-case form. -/
def caseVariants (c : Char) : List Nat :=
  let small := Text.lowerChar c
  let big := Text.upperForm small
  let smalls := small.toNat ::
    (match big with
    | [b] => b.toNat :: sourcesIn b.toNat Text.upperRuns
    | _ => (Text.upperExpansions.filter fun e => e.2.map Char.ofNat == big).map Prod.fst)
  c.toNat :: smalls ++ smalls.flatMap fun s => sourcesIn s Text.lowerRuns

/-- The run maps a code point between `first` and `last`. -/
def meetsRun (first last : Nat) (run : Text.CaseRun) : Bool :=
  let next := run.first + (max first run.first - run.first + run.step - 1) / run.step * run.step
  next ≤ run.last && next ≤ last

def lastShortCode : Nat := 0xffff

namespace Folding

def variants (folding : Folding) (c : Char) : List Nat :=
  match folding with
  | .none => [c.toNat]
  | .ascii => [c.toNat, c.toLower.toNat, c.toUpper.toNat]
  | .full => caseVariants c

def small (folding : Folding) (c : Char) : Char :=
  match folding with
  | .none => c
  | .ascii => c.toLower
  | .full => Text.lowerChar c

def same (folding : Folding) (n : Nat) (c : Char) : Bool :=
  c.toNat = n ||
    match folding with
    | .none => false
    | .ascii => n.isValidChar && c.toLower == (Char.ofNat n).toLower
    | .full => n.isValidChar && Text.sameLetter c (Char.ofNat n)

def hasCaseIn (folding : Folding) (first last : Nat) : Bool :=
  match folding with
  | .none => false
  | .ascii => (first ≤ 0x5a && 0x41 ≤ last) || (first ≤ 0x7a && 0x61 ≤ last)
  | .full =>
    Text.lowerRuns.any (meetsRun first last) || Text.upperRuns.any (meetsRun first last) ||
      Text.upperExpansions.any fun e => first ≤ e.1 && e.1 ≤ last

def hasCase (folding : Folding) (n : Nat) : Bool := folding.hasCaseIn n n

/-- The letter agrees but for case with one of another lower-case form. -/
def hasTwin (folding : Folding) (n : Nat) : Bool :=
  folding = .full && n.isValidChar &&
    (caseVariants (Char.ofNat n)).any fun v =>
      Text.lowerChar (Char.ofNat v) != Text.lowerChar (Char.ofNat n)

/-- Case plays a role in a member of a set. Beyond `lastShortCode`, this is taken for granted. -/
def matters (folding : Folding) : SetItem → Bool
  | .code n => folding != .none && (n > lastShortCode || folding.hasCase n)
  | .range first last => folding != .none && (last > lastShortCode || folding.hasCaseIn first last)
  | .inClass _ | .notInClass _ => false

end Folding

/-! ## Tests -/

namespace CharTest

/-- The test for the members of a set. Where case plays no role in the set, it is not folded. -/
def ofItems (folding : Folding) (ascii negated : Bool) (items : List SetItem) : CharTest :=
  .set negated (if items.any folding.matters then folding else .none) ascii items

/-- The test for a code point. A letter with a twin makes a set of its own. -/
def ofCode (folding : Folding) (ascii negated : Bool) (n : Nat) : CharTest :=
  if folding.hasTwin n then .set negated folding ascii [.code n]
  else .code negated (if folding.hasCase n then folding else .none) n

def ofSet (folding : Folding) (ascii negated : Bool) (items : List SetItem) : CharTest :=
  match items.eraseDups with
  | [.code n] => ofCode folding ascii negated n
  | items => ofItems folding ascii negated items

def between (first last n : Nat) : Bool := first ≤ n && n ≤ last

/-- `c` matches a member of a set. Where case is folded, code points beyond `lastShortCode` are
taken as they are written: the character in lower case has to be the one that is named, and to be in
a range it or its upper-case form has to be. -/
def matchesItem (folding : Folding) (ascii : Bool) (c : Char) : SetItem → Bool
  | .code n =>
    if n > lastShortCode then (folding.small c).toNat = n else folding.same n c
  | .range first last =>
    if folding = .none then between first last c.toNat
    else
      let small := folding.small c
      (folding.variants c).any (between first (min last lastShortCode)) ||
        (last > lastShortCode &&
          (between first last small.toNat || between first last (Text.upperChar small).toNat))
  | .inClass k => k.holds ascii c
  | .notInClass k => !k.holds ascii c

def holds : CharTest → Char → Bool
  | .any breaks, c => breaks || c != '\n'
  | .code negated folding n, c => folding.same n c != negated
  | .set negated folding ascii items, c =>
    items.any (matchesItem folding ascii c) != negated

def exactly? : CharTest → Option Nat
  | .code false .none n => some n
  | _ => none

def items? : CharTest → Option (List SetItem)
  | .code false _ n => some [.code n]
  | .set false _ _ items => some items
  | _ => none

def foldsSet : CharTest → Bool
  | .set _ folding _ _ => folding != .none
  | _ => false

/-- The test is for one character or a set, without regard to case, and `c` fails it. -/
def refuses (test : CharTest) (c : Option Char) : Bool :=
  match test with
  | .code false .none _ | .set _ .none _ _ => !c.any test.holds
  | _ => false

end CharTest

end OverlayShell
