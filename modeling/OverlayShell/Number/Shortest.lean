import OverlayShell.Number.Binary64
import OverlayShell.Text.Digit
import OverlayShell.Text.Layout

/-!
# Shortest decimal numerals

A floating-point number is written with the fewest decimal digits that read back as the same number
and, among those, as near to it as possible.
-/

namespace OverlayShell.Number

/-- A decimal numeral: the `digits` as one number, and the power of ten of its last digit. -/
structure Decimal where
  digits : Nat
  scale : Int

/-- The fractions that round to one floating-point number: those between `low / den` and `high /
den`, the ends included if `closed`. The number itself is `mid / den`. -/
structure RoundingInterval where
  low : Nat
  mid : Nat
  high : Nat
  den : Nat
  closed : Bool

/-- The rounding interval of a positive size. Below a power of two the next number is half as far
away as above it. -/
def Magnitude.interval (m : Magnitude) : RoundingInterval :=
  let below := if m.significand = twoPow 52 && m.exponent > -1074 then 1 else 2
  let scaled : Magnitude := ⟨4 * m.significand, m.exponent - 2⟩
  let unit := twoPow scaled.exponent.toNat
  { low := scaled.num - below * unit
    mid := scaled.num
    high := scaled.num + 2 * unit
    den := scaled.den
    closed := m.significand % 2 = 0 }

def RoundingInterval.holds (i : RoundingInterval) (num den : Nat) : Bool :=
  if i.closed then i.low * den ≤ num * i.den && num * i.den ≤ i.high * den
  else i.low * den < num * i.den && num * i.den < i.high * den

/-- The exponent of the largest power of ten that is at most `num / den`, both positive. -/
def decimalExponent (num den : Nat) : Int :=
  let e : Int := (Text.natText num).length - (Text.natText den).length
  if den * tenPow e.toNat ≤ num * tenPow (-e).toNat then e else e - 1

/-- The multiple of `10 ^ scale` in the interval that is nearest to its number, if there is one.
Only the two neighbours of the number have to be looked at; a tie goes to the even one. -/
def RoundingInterval.onGrid? (i : RoundingInterval) (scale : Int) : Option Decimal :=
  let up := tenPow scale.toNat
  let down := tenPow (-scale).toNat
  let floor := i.mid * down / (i.den * up)
  let rest := i.mid * down % (i.den * up)
  let lowIn := i.holds (floor * up) down
  let highIn := i.holds ((floor + 1) * up) down
  let lowNearer := 2 * rest < i.den * up || (2 * rest = i.den * up && floor % 2 = 0)
  if lowIn && (lowNearer || !highIn) then some ⟨floor, scale⟩
  else if highIn then some ⟨floor + 1, scale⟩
  else none

/-- The first hit on the grids of `scale`, `scale - 1`, … -/
def RoundingInterval.firstHit (i : RoundingInterval) : Nat → Int → Decimal
  | 0, scale => ⟨i.mid * tenPow (-scale).toNat / (i.den * tenPow scale.toNat), scale⟩
  | fuel + 1, scale => (i.onGrid? scale).getD (i.firstHit fuel (scale - 1))

/-- The shortest numeral for a positive size. Seventeen digits always suffice. -/
def Magnitude.shortest (m : Magnitude) : Decimal :=
  m.interval.firstHit 17 (decimalExponent m.num m.den)

def Decimal.significant (d : Decimal) : List Char × Int :=
  let digits := (Text.natText d.digits).toList
  ((digits.reverse.dropWhile (· == '0')).reverse, d.scale + digits.length - 1)

/-- The digits with a decimal point behind the first `whole` of them, zeros being filled in on
either side as needed. At least one digit stands after the point. -/
def pointed (digits : List Char) (whole : Int) : List Char :=
  if whole ≤ 0 then
    '0' :: '.' :: List.replicate (-whole).toNat '0' ++ digits
  else if (digits.length : Int) ≤ whole then
    digits ++ List.replicate (whole - digits.length).toNat '0' ++ ['.', '0']
  else digits.take whole.toNat ++ '.' :: digits.drop whole.toNat

def scientific (digits : List Char) (exponent : Int) : List Char :=
  let mantissa :=
    match digits with
    | first :: rest@(_ :: _) => first :: '.' :: rest
    | few => few
  let size := Text.zeroFill 2 (Text.natText exponent.natAbs)
  mantissa ++ 'e' :: (if exponent < 0 then '-' else '+') :: size.toList

/-- The text of a floating-point number: its shortest numeral, with a point from `0.0001` up to but
without `10 ^ 16` and with an exponent outside. A whole number keeps `.0`. -/
def floatText (x : Float) : String :=
  if x.isNaN then "nan"
  else
    let sign := if isNegative x then "-" else ""
    if x.isInf then sign ++ "inf"
    else
      let m := magnitude x
      if m.significand = 0 then sign ++ "0.0"
      else
        let (digits, exponent) := m.shortest.significant
        sign ++ String.ofList
          (if -4 ≤ exponent && exponent < 16 then pointed digits (exponent + 1)
          else scientific digits exponent)

/-- The floating-point number nearest to `digits * 10 ^ scale`. Scales far outside the range of
floating-point numbers need no exact arithmetic. -/
def ofDecimal (negative : Bool) (digits : Nat) (scale : Int) : Float :=
  if digits = 0 || scale + (Text.natText digits).length < -400 then ofFraction negative 0 1
  else if scale > 400 then ofFraction negative (tenPow 400) 1
  else ofFraction negative (digits * tenPow scale.toNat) (tenPow (-scale).toNat)

end OverlayShell.Number
