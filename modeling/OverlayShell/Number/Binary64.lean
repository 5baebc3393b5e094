import OverlayShell.Number.Powers

/-!
# Fractions as binary floating point

The nearest 64-bit floating-point number to a fraction, and the fraction that a floating-point
number is. All rounding of decimal numerals, integers and quotients of integers goes through
`ofFraction`.
-/

namespace OverlayShell.Number

def infinityBits : Nat := 0x7ff * twoPow 52

/-- The weight of the lowest bit of a number between `2 ^ e` and `2 ^ (e + 1)`, as a power of two:
there are 53 significant bits, and none below `2 ^ -1074`. -/
def unitExponent (e : Int) : Int := max (e - 52) (-1074)

/-- The quotient rounded to the nearest integer, a half to the even one. -/
def roundHalfEven (num den : Nat) : Nat :=
  let whole := num / den
  let rest := num % den
  if 2 * rest > den || (2 * rest = den && whole % 2 = 1) then whole + 1 else whole

/-- The exponent of the largest power of two that is at most `num / den`, both positive. -/
def fractionExponent (num den : Nat) : Int :=
  let e : Int := num.log2 - den.log2
  if den * twoPow e.toNat ≤ num * twoPow (-e).toNat then e else e - 1

/-- The bits, without sign, of the floating-point number nearest to `num / den`, a tie going to the
even one. What is too large becomes infinity. A carry out of the fraction moves into the exponent by
itself. -/
def fractionBits (num den : Nat) : Nat :=
  if num = 0 then 0
  else
    let unit := unitExponent (fractionExponent num den)
    let m := roundHalfEven (num * twoPow (-unit).toNat) (den * twoPow unit.toNat)
    min ((unit + 1074).toNat * twoPow 52 + m) infinityBits

/-- The floating-point number nearest to the fraction `num / den`, negated if `negative`. -/
def ofFraction (negative : Bool) (num den : Nat) : Float :=
  let sign := if negative then twoPow 63 else 0
  Float.ofBits (UInt64.ofNat (sign + fractionBits num den))

def ofInt (n : Int) : Float := ofFraction (n < 0) n.natAbs 1

/-- The floating-point number nearest to `a / b`, where `b` is not zero. -/
def ofQuotient (a b : Int) : Float :=
  ofFraction ((a < 0) != (b < 0)) a.natAbs b.natAbs

def isNegative (x : Float) : Bool := x.toBits.toNat / twoPow 63 = 1

/-- A finite floating-point number without its sign: `significand * 2 ^ exponent`. -/
structure Magnitude where
  significand : Nat
  exponent : Int

def magnitude (x : Float) : Magnitude :=
  let bits := x.toBits.toNat % twoPow 63
  let field : Nat := bits / twoPow 52
  let fraction : Nat := bits % twoPow 52
  if field = 0 then ⟨fraction, -1074⟩ else ⟨fraction + twoPow 52, Int.ofNat field - 1075⟩

def Magnitude.num (m : Magnitude) : Nat := m.significand * twoPow m.exponent.toNat

def Magnitude.den (m : Magnitude) : Nat := twoPow (-m.exponent).toNat

def Magnitude.whole (m : Magnitude) : Nat := m.num / m.den

def Magnitude.isWhole (m : Magnitude) : Bool := m.num % m.den = 0

def truncated (x : Float) : Int :=
  if isNegative x then -((magnitude x).whole : Int) else (magnitude x).whole

/-- The largest integer that is at most `x`, which is finite. -/
def floored (x : Float) : Int :=
  let m := magnitude x
  if isNegative x then -(((m.num + m.den - 1) / m.den : Nat) : Int) else m.whole

/-- The remainder of `x` by `y` on their sizes, with the sign of `x`: what is left when the largest
possible number of whole `y`s is taken away from `x`. Both are finite and `y` is not zero. -/
def remainder (x y : Float) : Float :=
  let a := magnitude x
  let b := magnitude y
  ofFraction (isNegative x) ((a.num * b.den) % (b.num * a.den)) (a.den * b.den)

end OverlayShell.Number
