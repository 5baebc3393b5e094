import OverlayShell.Pattern.Alternatives
import OverlayShell.Pattern.Scan
import OverlayShell.Pattern.Token
import OverlayShell.Text.CharName

/-!
# Reading patterns

The syntax of regular expressions: alternatives, sequences, repetitions, sets, escapes, groups with
and without names, modes for the whole pattern or for a part of it, looking ahead and behind,
conditions on groups, and references to them.
-/

namespace OverlayShell

inductive PatternError where
  | malformed
  | repetitionTooLarge
  /-- A number of repetitions has more than `Text.integerDigitLimit` digits. -/
  | tooManyDigits (count : Nat)
  /-- The whole pattern is said to be in ASCII mode and not to be. -/
  | clashingModes
  deriving DecidableEq

def PatternError.message : PatternError → String
  | .malformed => "invalid pattern"
  | .repetitionTooLarge => "the repetition number is too large"
  | .tooManyDigits count =>
    "Exceeds the limit (" ++ Text.natText Text.integerDigitLimit
      ++ " digits) for integer string conversion: value has " ++ Text.natText count
      ++ " digits; use sys.set_int_max_str_digits() to increase the limit"
  | .clashingModes => "ASCII and UNICODE flags are incompatible"

namespace PatternText

structure ReadState where
  rest : List PatternToken
  ignoreCase : Bool
  modes : List Char
  /-- The widths of the groups opened so far; `none` for a group that is still open. -/
  groups : List (Option Width)
  names : List (String × Nat)
  /-- While looking behind, the number of groups that were opened before. -/
  behindAfter : Option Nat
  /-- The groups that conditions asked for by number. -/
  asked : List Nat
  /-- Something was looked for behind that is not of fixed width. -/
  unfixed : Bool
  repeats : Bool

def ReadState.mode (s : ReadState) : PatternMode :=
  s.modes.foldl (PatternMode.switch true) (.caseless s.ignoreCase)

abbrev Reader := StateT ReadState (Except PatternError)

def malformed {α : Type} : Reader α := throw .malformed

def nextIs (c : Char) : Reader Bool := do return (← get).rest.head? = some (.plain c)

def take : Reader PatternToken := do
  match (← get).rest with
  | [] => malformed
  | .dangling :: _ => malformed
  | token :: rest =>
    modify fun s => { s with rest }
    return token

def accept (c : Char) : Reader Bool := do
  if ← nextIs c then
    let _ ← take
    return true
  else return false

def expect (c : Char) : Reader Unit := do
  if ← accept c then return () else malformed

def takeSome (most : Nat) (p : Char → Bool) : Reader (List Char) := do
  let s ← get
  let found := (s.rest.take most).takeWhile (·.isPlain p)
  set { s with rest := s.rest.drop found.length }
  return found.flatMap PatternToken.chars

/-- The characters up to `last`, which is taken as well. There has to be at least one. -/
def takeUntil (last : Char) : Reader (List Char) := do
  let s ← get
  let found := s.rest.takeWhile (· != .plain last)
  let after := s.rest.drop found.length
  if found.isEmpty || after.isEmpty then malformed
  else
    set { s with rest := after.drop 1 }
    return found.flatMap PatternToken.chars

def skipThrough (last : Char) (mayEnd : Bool) : Reader Unit := do
  let s ← get
  let after := s.rest.dropWhile (· != .plain last)
  if after.isEmpty && (!mayEnd || s.rest.contains .dangling) then malformed
  else set { s with rest := after.drop 1 }

/-! ## Escapes -/

def isOctal (c : Char) : Bool := '0' ≤ c && c ≤ '7'

def isDecimal (c : Char) : Bool := '0' ≤ c && c ≤ '9'

def isHex (c : Char) : Bool := isDecimal c || ('a' ≤ c && c ≤ 'f') || ('A' ≤ c && c ≤ 'F')

def valueIn (base : Nat) (digits : List Char) : Nat :=
  let value (c : Char) : Nat :=
    if isDecimal c then c.toNat - 0x30 else if 'a' ≤ c then c.toNat - 0x57 else c.toNat - 0x37
  digits.foldl (fun n c => base * n + value c) 0

/-- The code point written with exactly `width` hexadecimal digits. -/
def readHex (width : Nat) : Reader Nat := do
  let digits ← takeSome width isHex
  if digits.length = width && valueIn 16 digits < 0x110000 then return valueIn 16 digits
  else malformed

def controlCode? : Char → Option Nat
  | 'a' => some 7
  | 'f' => some 12
  | 'n' => some 10
  | 'r' => some 13
  | 't' => some 9
  | 'v' => some 11
  | '\\' => some 0x5c
  | _ => none

def classItem? : Char → Option SetItem
  | 'd' => some (.inClass .digit)
  | 'D' => some (.notInClass .digit)
  | 's' => some (.inClass .space)
  | 'S' => some (.notInClass .space)
  | 'w' => some (.inClass .word)
  | 'W' => some (.notInClass .word)
  | _ => none

/-- The code point of an escape that means the same inside and outside of a set, if `c` starts
one. -/
def readCode (c : Char) : Reader (Option Nat) := do
  if let some n := controlCode? c then return some n
  if c = 'x' then return some (← readHex 2)
  if c = 'u' then return some (← readHex 4)
  if c = 'U' then return some (← readHex 8)
  if c = 'N' then
    expect '\x7b'
    match Text.charNamed? (String.ofList (← takeUntil '\x7d')) with
    | some n => return some n
    | none => malformed
  if isDecimal c then return none
  if c.isAlpha then return none
  return some c.toNat

def readSetEscape (c : Char) : Reader SetItem := do
  if c = 'b' then return .code 8
  if let some item := classItem? c then return item
  if isOctal c then
    let n := valueIn 8 (c :: (← takeSome 2 isOctal))
    if n < 0x100 then return .code n else malformed
  match ← readCode c with
  | some n => return .code n
  | none => malformed

/-- The group may be referred to: it is closed and, while looking behind, was opened before. -/
def checkClosed (index : Nat) : Reader Unit := do
  let s ← get
  if (s.groups[index - 1]?.join).isNone then malformed

def checkBehind (index : Nat) : Reader Unit := do
  match (← get).behindAfter with
  | none => return ()
  | some before =>
    checkClosed index
    if index > before then malformed

/-- A reference to a group, or a character in octal, that starts with the digit `c` other than
zero. -/
def readReference (mode : PatternMode) (c : Char) : Reader Pattern := do
  let second ← takeSome 1 isDecimal
  if isOctal c && !second.isEmpty && second.all isOctal then
    let third ← takeSome 1 isOctal
    if !third.isEmpty then
      let n := valueIn 8 (c :: second ++ third)
      if n < 0x100 then return .code mode n else malformed
  let index := valueIn 10 (c :: second)
  if index > (← get).groups.length then malformed
  checkClosed index
  checkBehind index
  return .backref mode.folding index

def readEscape (mode : PatternMode) (c : Char) : Reader Pattern := do
  match c with
  | 'A' => return .anchor .textStart
  | 'Z' => return .anchor .textEnd
  | 'b' => return .anchor (.wordEdge false mode.ascii)
  | 'B' => return .anchor (.wordEdge true mode.ascii)
  | '0' => return .code mode (valueIn 8 (← takeSome 2 isOctal))
  | _ =>
    if let some item := classItem? c then return .ofClass mode item
    if isDecimal c then readReference mode c
    else
      match ← readCode c with
      | some n => return .code mode n
      | none => malformed

/-! ## Sets -/

def readMember : PatternToken → Reader SetItem
  | .plain c => return .code c.toNat
  | .escaped c => readSetEscape c
  | .dangling => malformed

/-- The members of a set up to its closing bracket, which stands for itself in the first place. -/
def readMembers : Nat → List SetItem → Reader (List SetItem)
  | 0, _ => malformed
  | fuel + 1, items => do
    let token ← take
    if token = .plain ']' && !items.isEmpty then return items
    let first ← readMember token
    if ← accept '-' then
      let token ← take
      if token = .plain ']' then return items ++ [first, .code '-'.toNat]
      match first, ← readMember token with
      | .code a, .code b =>
        if b < a then malformed else readMembers fuel (items ++ [.range a b])
      | _, _ => malformed
    else readMembers fuel (items ++ [first])

def readSet (mode : PatternMode) : Reader Pattern := do
  let negated ← accept '^'
  let items ← readMembers ((← get).rest.length + 1) []
  return .set mode negated items

/-! ## Repetitions -/

abbrev Bounds := Nat × Option Nat

/-- Why `digits` are not read as a number of repetitions. -/
def countFault? (digits : List Char) : Option PatternError :=
  if digits.length > Text.integerDigitLimit then some (.tooManyDigits digits.length)
  else if valueIn 10 digits ≥ Width.unlimited then some .repetitionTooLarge
  else none

/-- The bounds between braces, of which the opening one has been read; `none` if what follows are no
bounds, in which case nothing is taken. -/
def readBraces : Reader (Option Bounds) := do
  let start ← get
  if ← nextIs '\x7d' then return none
  let low ← takeSome start.rest.length isDecimal
  let ranged ← accept ','
  let high ← if ranged then takeSome start.rest.length isDecimal else pure low
  if !(← accept '\x7d') then
    set start
    return none
  let least := valueIn 10 low
  let most := if high.isEmpty then none else some (valueIn 10 high)
  if let some fault := (countFault? low).or (countFault? high) then
    if (← get).rest.head? = some .dangling then malformed else throw fault
  if most.any (· < least) then malformed
  return some (least, most)

/-- The bounds that `c` announces; `none` if it stands for itself. -/
def readBounds (c : Char) : Reader (Option Bounds) := do
  match c with
  | '*' => return some (0, none)
  | '+' => return some (1, none)
  | '?' => return some (0, some 1)
  | _ => readBraces

/-- An item of a sequence: a part of a pattern, or the parts that parentheses keep together without
changing anything else. -/
inductive ReadItem where
  | part (p : Pattern)
  | joined (parts : List Pattern)

def ReadItem.parts : ReadItem → List Pattern
  | .part p => [p]
  | .joined parts => parts

/-- What there is to be repeated of an item. Anchors and repetitions cannot be. -/
def ReadItem.repeatable? : ReadItem → Option Pattern
  | .part (.anchor _) | .part (.repeated _ _ _ _) => none
  | .part p => some p
  | .joined parts => some (.sequence parts)

/-- The `items`, latest first, with the latest one repeated. -/
def repeatLatest (bounds : Bounds) (items : List ReadItem) : Reader (List ReadItem) := do
  match items with
  | [] => malformed
  | item :: before =>
    match item.repeatable? with
    | none => malformed
    | some body =>
      -- A question mark leaves the plus behind it to be read as a repetition of its own.
      let lazy ← accept '?'
      let possessive ← if lazy then pure false else accept '+'
      let greed := if lazy then Greed.lazy else if possessive then .possessive else .greedy
      modify fun s => { s with repeats := true }
      return .part (.repeated greed bounds.1 bounds.2 body) :: before

/-! ## Modes -/

def isModeLetter (c : Char) : Bool := "imsxatu".toList.contains c

def takePlain : Reader Char := do
  match ← take with
  | .plain c => return c
  | _ => malformed

/-- The letters of modes that start with `c`, up to one of the characters in `stops`. -/
def readModeLetters (stops : List Char) : Nat → Char → Reader (List Char × Char)
  | 0, _ => malformed
  | fuel + 1, c => do
    if !isModeLetter c then malformed
    let next ← takePlain
    if stops.contains next then return ([c], next)
    let (letters, stop) ← readModeLetters stops fuel next
    return (c :: letters, stop)

/-- The modes that start with `c`: letters to be switched on, and behind a minus sign letters to be
switched off. The result has no change if the modes are for the whole pattern. -/
def readModes (c : Char) : Reader (List Char × Option ModeChange) := do
  let fuel := (← get).rest.length + 1
  let (on, stop) ← if c = '-' then pure ([], '-') else readModeLetters [')', '-', ':'] fuel c
  if on.contains 'a' && on.contains 'u' then malformed
  if stop = ')' then return (on, none)
  if on.contains 't' then malformed
  let off ←
    if stop = '-' then
      let (off, _) ← readModeLetters [':'] fuel (← takePlain)
      pure off
    else pure []
  if off.any (fun m => m = 'a' || m = 'u' || m = 't' || on.contains m) then malformed
  return (on, some ⟨on, off⟩)

/-! ## Groups -/

def readName (last : Char) : Reader String := do
  let name ← takeUntil last
  if Text.isIdentifier name then return String.ofList name else malformed

def openGroup (name : Option String) : Reader Nat := do
  let s ← get
  let index := s.groups.length + 1
  match name with
  | none => set { s with groups := s.groups ++ [none] }
  | some name =>
    if (s.names.lookup name).isSome then malformed
    else set { s with groups := s.groups ++ [none], names := (name, index) :: s.names }
  return index

def closeGroup (index : Nat) (body : Pattern) : Reader Unit :=
  modify fun s => { s with groups := s.groups.set (index - 1) (some (body.width s.groups)) }

def readCondition : Reader Nat := do
  let name ← takeUntil ')'
  if Text.isIdentifier name then
    match (← get).names.lookup (String.ofList name) with
    | some index => return index
    | none => malformed
  match Text.integer? (String.ofList name) with
  | some (.ofNat (n + 1)) =>
    if n + 1 ≥ 1073741823 then malformed
    modify fun s => { s with asked := (n + 1) :: s.asked }
    return n + 1
  | _ => malformed

def isVerboseBlank (c : Char) : Bool := c == ' ' || (9 ≤ c.toNat && c.toNat ≤ 13)

def readNamedReference (mode : PatternMode) : Reader Pattern := do
  match (← get).names.lookup (← readName ')') with
  | none => malformed
  | some index =>
    checkClosed index
    checkBehind index
    return .backref mode.folding index

mutual

/-- The items of alternatives. With `top`, they are those of the whole pattern, and with `first`,
none of them has been read; only then modes for the whole pattern may be set, at the very start. -/
def readOptions : Nat → PatternMode → Bool → Bool → Reader (List (List Pattern))
  | 0, _, _, _ => malformed
  | fuel + 1, mode, top, first => do
    let items ← readItems fuel mode (top && first) []
    if ← accept '|' then
      let whole := (← get).mode
      let mode := if top then whole else mode
      return items :: (← readOptions fuel mode top false)
    else return [items]

/-- The parts of a sequence after `items`, latest first. -/
def readItems : Nat → PatternMode → Bool → List ReadItem → Reader (List Pattern)
  | 0, _, _, _ => malformed
  | fuel + 1, mode, first, items => do
    match (← get).rest with
    | [] | .plain '|' :: _ | .plain ')' :: _ => return items.reverse.flatMap ReadItem.parts
    | _ =>
      let further (p : Pattern) : Reader (List Pattern) :=
        readItems fuel mode first (.part p :: items)
      match ← take with
      | .escaped c => further (← readEscape mode c)
      | .dangling => malformed
      | .plain c =>
        if mode.verbose && isVerboseBlank c then readItems fuel mode first items
        else if mode.verbose && c = '#' then
          skipThrough '\n' true
          readItems fuel mode first items
        else if c = '[' then further (← readSet mode)
        else if c = '.' then further (.one (.any mode.dotAll))
        else if c = '^' then further (.anchor (.lineStart mode.multiLine))
        else if c = '$' then further (.anchor (.lineEnd mode.multiLine))
        else if c = '(' then
          let (mode, made) ← readGroup fuel mode (first && items.isEmpty)
          readItems fuel mode first (made ++ items)
        else if c = '*' || c = '+' || c = '?' || c = '\x7b' then
          match ← readBounds c with
          | none => further (.code mode c.toNat)
          | some bounds => readItems fuel mode first (← repeatLatest bounds items)
        else further (.code mode c.toNat)

/-- What an opening parenthesis starts: the modes behind it, and the item, unless it is a comment or
sets modes for the whole pattern, which `mayMode` allows. -/
def readGroup : Nat → PatternMode → Bool → Reader (PatternMode × List ReadItem)
  | 0, _, _ => malformed
  | fuel + 1, mode, mayMode => do
    let part (p : Pattern) : PatternMode × List ReadItem := (mode, [.part p])
    if !(← accept '?') then return part (← readCapture fuel mode none)
    let c ← takePlain
    if c = 'P' then
      if ← accept '<' then return part (← readCapture fuel mode (some (← readName '>')))
      expect '='
      return part (← readNamedReference mode)
    else if c = ':' then return (mode, [.joined (← readBody fuel mode)])
    else if c = '#' then
      skipThrough ')' false
      return (mode, [])
    else if c = '=' || c = '!' then
      return part (.ahead (c = '!') (.sequence (← readBody fuel mode)))
    else if c = '<' then return part (← readBehind fuel mode)
    else if c = '>' then return part (.atomic (.sequence (← readBody fuel mode)))
    else if c = '(' then return part (← readConditional fuel mode)
    else
      if !(isModeLetter c || c = '-') then malformed
      match ← readModes c with
      | (on, none) =>
        modify fun s => { s with modes := s.modes ++ on }
        if !mayMode then malformed
        return ((← get).mode, [])
      | (_, some change) =>
        return part (.scoped (.sequence (← readBody fuel (mode.change change))))

def readBody : Nat → PatternMode → Reader (List Pattern)
  | 0, _ => malformed
  | fuel + 1, mode => do
    let options ← readOptions fuel mode false true
    expect ')'
    return Pattern.alternatives mode options

def readCapture : Nat → PatternMode → Option String → Reader Pattern
  | 0, _, _ => malformed
  | fuel + 1, mode, name => do
    let index ← openGroup name
    let body := Pattern.sequence (← readBody fuel mode)
    closeGroup index body
    return .group index body

def readBehind : Nat → PatternMode → Reader Pattern
  | 0, _ => malformed
  | fuel + 1, mode => do
    let c ← takePlain
    if c != '=' && c != '!' then malformed
    let outer := (← get).behindAfter
    modify fun s => { s with behindAfter := some (outer.getD s.groups.length) }
    let options ← readOptions fuel mode false true
    modify fun s => { s with behindAfter := outer }
    expect ')'
    let body := Pattern.sequence (Pattern.alternatives mode options)
    let width := body.width (← get).groups
    if !width.isFixed then modify fun s => { s with unfixed := true }
    return .behind (c = '!') width.least body

/-- Two sequences of which a condition on a group chooses one. The second may be missing. -/
def readConditional : Nat → PatternMode → Reader Pattern
  | 0, _ => malformed
  | fuel + 1, mode => do
    let index ← readCondition
    checkBehind index
    let matched := Pattern.sequence (← readItems fuel mode false [])
    let unmatched ←
      if ← accept '|' then pure (Pattern.sequence (← readItems fuel mode false []))
      else pure .empty
    expect ')'
    return .ifGroup index matched unmatched

end

end PatternText

open PatternText in
/-- The matcher that `text` denotes, where with `ignoreCase` letters match in either case. Reading a
token goes through four readers at most. -/
def Matcher.ofText? (text : String) (ignoreCase : Bool) : Except PatternError Matcher := do
  let tokens := PatternToken.ofChars text.toList
  let start : ReadState :=
    { rest := tokens, ignoreCase, modes := [], groups := [], names := [], behindAfter := none
      asked := [], unfixed := false, repeats := false }
  let (options, s) ← (readOptions (4 * tokens.length + 8) start.mode true true).run start
  if s.modes.contains 'a' && s.modes.contains 'u' then throw .clashingModes
  if !s.rest.isEmpty || s.asked.any (· > s.groups.length) || s.unfixed then throw .malformed
  if s.modes.contains 't' && s.repeats then throw .malformed
  return .ofPattern s.mode s.groups (.sequence (Pattern.alternatives s.mode options))

end OverlayShell
