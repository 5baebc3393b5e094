import OverlayShell.Number.Binary64
import OverlayShell.Number.Shortest
import OverlayShell.Text.Layout

/-!
# Numerals of a given length

A floating-point number written with a given number of places behind the point, with an exponent, or
in the shorter of the two ways. Rounding is to the nearest numeral, and a tie goes to an even last
digit. The functions take the size of the number; its sign is for the caller to write.
-/

namespace OverlayShell.Number

/-- The fraction `num / den` times `10 ^ scale` as an integer. -/
def scaled (num den : Nat) (scale : Int) : Nat :=
  roundHalfEven (num * tenPow scale.toNat) (den * tenPow (-scale).toNat)

/-- The digits with a point before the last `places` of them. With `keepPoint` the point stands even
where nothing follows it. -/
def withPlaces (digits : List Char) (places : Nat) (keepPoint : Bool) : List Char :=
  let whole := digits.take (digits.length - places)
  let rest := digits.drop (digits.length - places)
  whole ++ (if rest.isEmpty && !keepPoint then [] else '.' :: rest)

def Magnitude.fixed (m : Magnitude) (places : Nat) (keepPoint : Bool) : List Char :=
  let digits := (Text.zeroFill (places + 1) (Text.natText (scaled m.num m.den places))).toList
  withPlaces digits places keepPoint

/-- The first `places + 1` significant digits and the power of ten of the first of them. -/
def Magnitude.leading (m : Magnitude) (places : Nat) : List Char × Int :=
  if m.significand = 0 then (List.replicate (places + 1) '0', 0)
  else
    let exponent := decimalExponent m.num m.den
    let n := scaled m.num m.den (places - exponent)
    if n = tenPow (places + 1) then ((Text.natText (n / 10)).toList, exponent + 1)
    else ((Text.natText n).toList, exponent)

def exponentText (exponent : Int) : List Char :=
  'e' :: (if exponent < 0 then '-' else '+') ::
    (Text.zeroFill 2 (Text.natText exponent.natAbs)).toList

def Magnitude.withExponent (m : Magnitude) (places : Nat) (keepPoint : Bool) : List Char :=
  let (digits, exponent) := m.leading places
  withPlaces digits places keepPoint ++ exponentText exponent

def withoutEndZeros (numeral : List Char) : List Char :=
  if numeral.contains '.' then
    let kept := (numeral.reverse.dropWhile (· == '0')).reverse
    if kept.getLast? = some '.' then kept.dropLast else kept
  else numeral

/-- The numeral with `significant` digits: with an exponent if that is below minus four or has no
digit left to stand before the point, and otherwise without. Zeros at the end are left out unless
`keepZeros`. -/
def Magnitude.general (m : Magnitude) (significant : Nat) (keepZeros : Bool) : List Char :=
  let places := max significant 1 - 1
  let (digits, exponent) := m.leading places
  let trimmed (numeral : List Char) := if keepZeros then numeral else withoutEndZeros numeral
  if -4 ≤ exponent && exponent ≤ places then
    trimmed (m.fixed (places - exponent).toNat keepZeros)
  else trimmed (withPlaces digits places keepZeros) ++ exponentText exponent

end OverlayShell.Number
