import OverlayShell.Number.Shortest

/-!
# Values of arithmetic

A value is an integer of any size or a floating-point number. Operations on two integers stay exact
where the result is an integer; as soon as one side is a floating-point number, both are. What an
operation cannot deliver is a fault.
-/

namespace OverlayShell.Arithmetic

inductive Value where
  | int (n : Int)
  | float (x : Float)

inductive Fault where
  | quotientByZero
  /-- A number is divided by zero, and one of the two is floating. The message differs from that of
  `quotientByZero`. -/
  | floatQuotientByZero
  | wholeQuotientByZero
  /-- As `wholeQuotientByZero`, where one of the two is floating. -/
  | floatWholeQuotientByZero
  | negativePowerOfZero
  | powerRange
  /-- The power is `unreal`, and its size is too large for a floating-point number. -/
  | unrealPowerRange
  deriving DecidableEq

def Fault.message : Fault → String
  | .quotientByZero => "division by zero"
  | .floatQuotientByZero => "float division by zero"
  | .wholeQuotientByZero => "integer division or modulo by zero"
  | .floatWholeQuotientByZero => "float floor division by zero"
  | .negativePowerOfZero => "0.0 cannot be raised to a negative power"
  | .powerRange => "(34, 'Numerical result out of range')"
  | .unrealPowerRange => "complex exponentiation"

/-- The outcome of a power: a `real` value, or none because the base is negative and the exponent
has a fractional part. -/
inductive Power where
  | real (value : Value)
  | unreal

namespace Value

def toFloat : Value → Float
  | .int n => Number.ofInt n
  | .float x => x

def neg : Value → Value
  | .int n => .int (-n)
  | .float x => .float (-x)

def add : Value → Value → Value
  | .int a, .int b => .int (a + b)
  | a, b => .float (a.toFloat + b.toFloat)

def sub : Value → Value → Value
  | .int a, .int b => .int (a - b)
  | a, b => .float (a.toFloat - b.toFloat)

def mul : Value → Value → Value
  | .int a, .int b => .int (a * b)
  | a, b => .float (a.toFloat * b.toFloat)

/-- The quotient, always floating. That of two integers is rounded once, by `Number.ofQuotient`. -/
def div : Value → Value → Except Fault Value
  | .int a, .int b =>
    if b = 0 then .error .quotientByZero else .ok (.float (Number.ofQuotient a b))
  | a, b =>
    if b.toFloat == 0.0 then .error .floatQuotientByZero
    else .ok (.float (a.toFloat / b.toFloat))

def withSign (x y : Float) : Float := if Number.isNegative y then -x.abs else x.abs

/-- The largest whole number that is at most the quotient, for floating-point numbers. The remainder
is taken exactly, so the quotient of what it leaves is whole up to rounding and is snapped to a
whole number; a zero takes the sign of the quotient. -/
def floatFloorDiv (x y : Float) : Float :=
  let r := Number.remainder x y
  let q := (x - r) / y
  let q := if r != 0.0 && ((y < 0.0) != (r < 0.0)) then q - 1.0 else q
  if q == 0.0 then withSign 0.0 (x / y)
  else
    let whole := q.floor
    if q - whole > 0.5 then whole + 1.0 else whole

def floorDiv : Value → Value → Except Fault Value
  | .int a, .int b => if b = 0 then .error .wholeQuotientByZero else .ok (.int (Int.fdiv a b))
  | a, b =>
    if b.toFloat == 0.0 then .error .floatWholeQuotientByZero
    else .ok (.float (floatFloorDiv a.toFloat b.toFloat))

def isOddWhole (x : Float) : Bool :=
  (Number.magnitude x).isWhole && (Number.magnitude x).whole % 2 = 1

def isWhole (x : Float) : Bool := (Number.magnitude x).isWhole

def floatPow (x y : Float) : Except Fault Power :=
  let size := x.abs.pow y
  if y == 0.0 then .ok (.real (.float 1.0))
  else if x == 0.0 then
    if y < 0.0 then .error .negativePowerOfZero
    else .ok (.real (.float (if isOddWhole y then x else 0.0)))
  else if x < 0.0 && !isWhole y then
    if size.isInf then .error .unrealPowerRange else .ok .unreal
  else if size.isInf then .error .powerRange
  else .ok (.real (.float (if x < 0.0 && isOddWhole y then -size else size)))

/-- A power. That of two integers is an integer unless the exponent is negative, and else a
float. -/
def pow : Value → Value → Except Fault Power
  | .int a, .int b =>
    if 0 ≤ b then .ok (.real (.int (Int.pow a b.toNat)))
    else floatPow (Number.ofInt a) (Number.ofInt b)
  | a, b => floatPow a.toFloat b.toFloat

/-- The largest size that a step of a calculation may reach: the floating-point number nearest to
`10 ^ 308`, which is an integer. -/
def sizeLimit : Nat := 0x11ccf385ebc8a0 * Number.twoPow 971

def isTooLarge : Value → Bool
  | .int n => sizeLimit < n.natAbs
  | .float x => x.abs > 1e308

def sizeAbove (bound : Nat) : Value → Bool
  | .int n => bound < n.natAbs
  | .float x => x.abs > Number.ofInt bound

/-- The power, if `real`, would have more than 308 decimal places before the point. -/
def powerTooLarge (base exponent : Value) : Bool :=
  base.sizeAbove 1 && exponent.toFloat * base.toFloat.abs.log10 > (1e308 : Float).log10

/-! ## Text -/

/-- The value as a numeral that shows its kind: a `float` keeps a point or an exponent. -/
def text : Value → String
  | .int n => Text.intText n
  | .float x => Number.floatText x

/-- The value as a result is shown: a `float` without fractional part and below `10 ^ 16` is shown
as an integer. -/
def display : Value → String
  | .int n => Text.intText n
  | .float x =>
    if isWhole x && x.abs < 1e16 then Text.intText (Number.truncated x) else Number.floatText x

end Value

end OverlayShell.Arithmetic
