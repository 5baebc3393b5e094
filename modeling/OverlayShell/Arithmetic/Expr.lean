import OverlayShell.Arithmetic.Token

/-!
# Expressions

The syntax trees of arithmetic and their reading from tokens. Sums and products associate to the
left, powers to the right; a sign binds tighter than a product and looser than the power behind it.
Calls, the ellipsis and an empty pair of parentheses are read as expressions but denote no number.
-/

namespace OverlayShell.Arithmetic

inductive BinaryOp where
  | add
  | sub
  | mul
  | div
  | floorDiv
  | pow
  deriving DecidableEq

inductive Expr where
  | literal (value : Value)
  | plus (operand : Expr)
  | minus (operand : Expr)
  | binary (op : BinaryOp) (left right : Expr)
  /-- An expression that is no arithmetic, such as a call. -/
  | other

def sumOp? : Token → Option BinaryOp
  | .plus => some .add
  | .minus => some .sub
  | _ => none

def productOp? : Token → Option BinaryOp
  | .star => some .mul
  | .slash => some .div
  | .doubleSlash => some .floorDiv
  | _ => none

/-- A reader gives the tree at the start of the tokens and the tokens behind it. -/
abbrev Reading := Option (Expr × List Token)

mutual

def readSum : Nat → List Token → Reading
  | 0, _ => none
  | fuel + 1, tokens => do
    let (first, rest) ← readProduct fuel tokens
    readSumTail fuel first rest

/-- The further products of a sum that starts with `left`. -/
def readSumTail : Nat → Expr → List Token → Reading
  | 0, _, _ => none
  | _ + 1, left, [] => some (left, [])
  | fuel + 1, left, token :: rest =>
    match sumOp? token with
    | none => some (left, token :: rest)
    | some op => do
      let (right, rest) ← readProduct fuel rest
      readSumTail fuel (.binary op left right) rest

def readProduct : Nat → List Token → Reading
  | 0, _ => none
  | fuel + 1, tokens => do
    let (first, rest) ← readSigned fuel tokens
    readProductTail fuel first rest

/-- The further factors of a product that starts with `left`. -/
def readProductTail : Nat → Expr → List Token → Reading
  | 0, _, _ => none
  | _ + 1, left, [] => some (left, [])
  | fuel + 1, left, token :: rest =>
    match productOp? token with
    | none => some (left, token :: rest)
    | some op => do
      let (right, rest) ← readSigned fuel rest
      readProductTail fuel (.binary op left right) rest

def readSigned : Nat → List Token → Reading
  | 0, _ => none
  | fuel + 1, .plus :: rest => (readSigned fuel rest).map fun (e, rest) => (.plus e, rest)
  | fuel + 1, .minus :: rest => (readSigned fuel rest).map fun (e, rest) => (.minus e, rest)
  | fuel + 1, tokens => do
    let (base, rest) ← readOperand fuel tokens
    match rest with
    | .doubleStar :: rest =>
      let (exponent, rest) ← readSigned fuel rest
      return (.binary .pow base exponent, rest)
    | _ => return (base, rest)

def readOperand : Nat → List Token → Reading
  | 0, _ => none
  | fuel + 1, .numeral value :: rest => readCalls fuel (.literal value) rest
  | fuel + 1, .ellipsis :: rest => readCalls fuel .other rest
  | fuel + 1, .opening :: .closing :: rest => readCalls fuel .other rest
  | fuel + 1, .opening :: rest => do
    let (inner, rest) ← readSum fuel rest
    match rest with
    | .closing :: rest => readCalls fuel inner rest
    | _ => none
  | _ + 1, _ => none

/-- The calls behind an operand: pairs of parentheses, empty or with one argument, which may have
one or two stars before it. They make it an `other`. -/
def readCalls : Nat → Expr → List Token → Reading
  | 0, _, _ => none
  | fuel + 1, _, .opening :: .closing :: rest => readCalls fuel .other rest
  | fuel + 1, _, .opening :: rest => do
    let argument := match rest with
      | .star :: argument => argument
      | .doubleStar :: argument => argument
      | argument => argument
    let (_, rest) ← readSum fuel argument
    match rest with
    | .closing :: rest => readCalls fuel .other rest
    | _ => none
  | _ + 1, operand, rest => some (operand, rest)

end

/-- The tree of a whole list of tokens. A chain of six readers stands between two tokens at most, so
`readSum` has fuel enough. -/
def Expr.ofTokens? (tokens : List Token) : Option Expr :=
  match readSum (8 * (tokens.length + 1)) tokens with
  | some (e, []) => some e
  | _ => none

def Expr.ofText? (text : String) : Option Expr := do
  Expr.ofTokens? (← tokens? (Text.trim text).toList)

end OverlayShell.Arithmetic
