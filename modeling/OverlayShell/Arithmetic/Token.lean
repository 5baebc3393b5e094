import OverlayShell.Arithmetic.Value
import OverlayShell.Text.Blank

/-!
# Tokens of arithmetic

The characters of an expression are grouped into numerals, operators, parentheses and the ellipsis,
each as long as possible. Blanks separate tokens. A line break does so only inside parentheses.
-/

namespace OverlayShell.Arithmetic

inductive Token where
  | numeral (value : Value)
  | plus
  | minus
  | star
  | slash
  | doubleStar
  | doubleSlash
  | opening
  | closing
  | ellipsis

def isAsciiDigit (c : Char) : Bool := '0' ≤ c && c ≤ '9'

def digitsNumber (digits : List Char) : Nat := Text.ofDigits (digits.map fun c => c.toNat - 0x30)

/-- The value of an integer numeral. Leading zeros are allowed for zero only, and
`Text.integerDigitLimit` bounds the length of any other numeral. -/
def integerValue? (digits : List Char) : Option Value :=
  if digits.all (· == '0') then some (.int 0)
  else if digits.head? = some '0' || digits.length > Text.integerDigitLimit then none
  else some (.int (digitsNumber digits))

def pointValue (whole places : List Char) : Value :=
  .float (Number.ofDecimal false (digitsNumber (whole ++ places)) (-places.length))

/-- The part of a token that has been read, latest character first. -/
inductive Partial where
  | nothing
  | whole (digits : List Char)
  /-- The digits of a numeral before and behind its point, at least one in all. -/
  | pointed (digits places : List Char)
  | dot
  | twoDots
  | oneStar
  | oneSlash

/-- The tokens that a part stands for when nothing is added to it. Dots alone are no token. -/
def Partial.finish : Partial → Option (List Token)
  | .nothing => some []
  | .whole digits => (integerValue? digits.reverse).map fun v => [.numeral v]
  | .pointed digits places => some [.numeral (pointValue digits.reverse places.reverse)]
  | .dot => none
  | .twoDots => none
  | .oneStar => some [.star]
  | .oneSlash => some [.slash]

/-- The part after one more character, if the character belongs to it, with a token that the
character completes. -/
def Partial.extend? : Partial → Char → Option (Partial × List Token)
  | .nothing, c => if isAsciiDigit c then some (.whole [c], []) else atStart c
  | .whole digits, c =>
    if isAsciiDigit c then some (.whole (c :: digits), [])
    else if c = '.' then some (.pointed digits [], []) else none
  | .pointed digits places, c =>
    if isAsciiDigit c then some (.pointed digits (c :: places), []) else none
  | .dot, c =>
    if isAsciiDigit c then some (.pointed [] [c], [])
    else if c = '.' then some (.twoDots, []) else none
  | .twoDots, c => if c = '.' then some (.nothing, [.ellipsis]) else none
  | .oneStar, c => if c = '*' then some (.nothing, [.doubleStar]) else none
  | .oneSlash, c => if c = '/' then some (.nothing, [.doubleSlash]) else none
where
  atStart : Char → Option (Partial × List Token)
    | '.' => some (.dot, [])
    | '*' => some (.oneStar, [])
    | '/' => some (.oneSlash, [])
    | '+' => some (.nothing, [.plus])
    | '-' => some (.nothing, [.minus])
    | _ => none

def isGap (c : Char) : Bool := c == ' ' || c == '\t' || c.toNat = 12

def isBreak (c : Char) : Bool := c == '\n' || c == '\r'

def nestingLimit : Nat := 200

/-- The number of open parentheses after `c`, which starts no longer token: a parenthesis with its
token, or a gap. -/
def separator? (depth : Nat) (c : Char) : Option (Nat × List Token) :=
  if isGap c || (isBreak c && depth > 0) then some (depth, [])
  else if c = '(' then if depth < nestingLimit then some (depth + 1, [.opening]) else none
  else if c = ')' then if depth > 0 then some (depth - 1, [.closing]) else none
  else none

/-- The tokens of a text that follows the part `held` of a token inside `depth` parentheses. -/
def tokensAfter (held : Partial) (depth : Nat) : List Char → Option (List Token)
  | [] => held.finish
  | c :: cs =>
    match held.extend? c with
    | some (held, made) => (tokensAfter held depth cs).map (made ++ ·)
    | none => do
      let before ← held.finish
      match separator? depth c with
      | some (depth, made) => return before ++ made ++ (← tokensAfter .nothing depth cs)
      | none =>
        match Partial.extend? .nothing c with
        | some (held, made) => return before ++ made ++ (← tokensAfter held depth cs)
        | none => none

def tokens? (text : List Char) : Option (List Token) := tokensAfter .nothing 0 text

end OverlayShell.Arithmetic
