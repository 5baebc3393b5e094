import OverlayShell.Arithmetic.Expr

/-!
# Evaluation

The value of an expression, computed from the left, with a bound on the size of every literal and of
every intermediate result. A text is evaluated only if it is made of the characters of arithmetic.
-/

namespace OverlayShell.Arithmetic

inductive Refusal where
  /-- The text holds a character that is foreign to arithmetic, or is empty. -/
  | foreign
  /-- The text is no arithmetic expression. -/
  | invalid
  | resultTooLarge
  | exponentTooLarge
  | notReal
  | fault (cause : Fault)
  deriving DecidableEq

def Refusal.message : Refusal → String
  | .foreign => "Invalid expression. Only numbers and +, -, *, /, (, ) allowed."
  | .invalid => "Invalid expression"
  | .resultTooLarge => "Result too large"
  | .exponentTooLarge => "Exponent too large"
  | .notReal => "Result is not a real number"
  | .fault cause => "Error evaluating expression: " ++ cause.message

def checked (value : Value) : Except Refusal Value :=
  if value.isTooLarge then .error .resultTooLarge else .ok value

/-- A power within its bounds: `exponent` is at most 100 either way, and the result has at most 308
decimal places before the point. -/
def boundedPow (base exponent : Value) : Except Refusal Value :=
  if exponent.sizeAbove 100 then .error .exponentTooLarge
  else if Value.powerTooLarge base exponent then .error .resultTooLarge
  else
    match base.pow exponent with
    | .error fault => .error (.fault fault)
    | .ok .unreal => .error .notReal
    | .ok (.real value) => checked value

def BinaryOp.apply : BinaryOp → Value → Value → Except Refusal Value
  | .add, a, b => checked (a.add b)
  | .sub, a, b => checked (a.sub b)
  | .mul, a, b => checked (a.mul b)
  | .div, a, b => (a.div b).mapError .fault >>= checked
  | .floorDiv, a, b => (a.floorDiv b).mapError .fault >>= checked
  | .pow, a, b => boundedPow a b

/-- The value of a tree. The left operand is evaluated first. A sign is not `checked`, since it
cannot make a value larger. -/
def Expr.eval : Expr → Except Refusal Value
  | .literal value => checked value
  | .plus e => e.eval
  | .minus e => e.eval.map Value.neg
  | .binary op left right => do
    let a ← left.eval
    let b ← right.eval
    op.apply a b
  | .other => .error .invalid

def isArithmeticChar (c : Char) : Bool :=
  Text.isDigit c || Text.isBlank c ||
    c == '+' || c == '-' || c == '*' || c == '/' || c == '(' || c == ')' || c == '.'

def isArithmeticText (text : String) : Bool :=
  !text.isEmpty && text.toList.all isArithmeticChar

def evaluate (text : String) : Except Refusal Value :=
  if !isArithmeticText text then .error .foreign
  else
    match Expr.ofText? text with
    | none => .error .invalid
    | some e => e.eval

end OverlayShell.Arithmetic
