import OverlayShell.Text.Blank

/-!
# Decimal digits

Every script writes its ten digits in a row, zero first, so that a digit's value is its distance
from the start of its row. An integer may be written in any of them.
-/

namespace OverlayShell.Text

/-- The ranges of decimal digits, ascending; each is made of whole rows of ten. -/
def digitRanges : List (Nat × Nat) := [
  (0x30, 0x39), (0x660, 0x669), (0x6f0, 0x6f9), (0x7c0, 0x7c9), (0x966, 0x96f), (0x9e6, 0x9ef),
  (0xa66, 0xa6f), (0xae6, 0xaef), (0xb66, 0xb6f), (0xbe6, 0xbef), (0xc66, 0xc6f), (0xce6, 0xcef),
  (0xd66, 0xd6f), (0xde6, 0xdef), (0xe50, 0xe59), (0xed0, 0xed9), (0xf20, 0xf29),
  (0x1040, 0x1049), (0x1090, 0x1099), (0x17e0, 0x17e9), (0x1810, 0x1819), (0x1946, 0x194f),
  (0x19d0, 0x19d9), (0x1a80, 0x1a89), (0x1a90, 0x1a99), (0x1b50, 0x1b59), (0x1bb0, 0x1bb9),
  (0x1c40, 0x1c49), (0x1c50, 0x1c59), (0xa620, 0xa629), (0xa8d0, 0xa8d9), (0xa900, 0xa909),
  (0xa9d0, 0xa9d9), (0xa9f0, 0xa9f9), (0xaa50, 0xaa59), (0xabf0, 0xabf9), (0xff10, 0xff19),
  (0x104a0, 0x104a9), (0x10d30, 0x10d39), (0x11066, 0x1106f), (0x110f0, 0x110f9),
  (0x11136, 0x1113f), (0x111d0, 0x111d9), (0x112f0, 0x112f9), (0x11450, 0x11459),
  (0x114d0, 0x114d9), (0x11650, 0x11659), (0x116c0, 0x116c9), (0x11730, 0x11739),
  (0x118e0, 0x118e9), (0x11950, 0x11959), (0x11c50, 0x11c59), (0x11d50, 0x11d59),
  (0x11da0, 0x11da9), (0x16a60, 0x16a69), (0x16ac0, 0x16ac9), (0x16b50, 0x16b59),
  (0x1d7ce, 0x1d7ff), (0x1e140, 0x1e149), (0x1e2f0, 0x1e2f9), (0x1e950, 0x1e959),
  (0x1fbf0, 0x1fbf9)]

def digitIn (n : Nat) : List (Nat × Nat) → Option Nat
  | [] => none
  | (first, last) :: rest =>
    if n < first then none
    else if n ≤ last then some ((n - first) % 10)
    else digitIn n rest

def digit? (c : Char) : Option Nat := digitIn c.toNat digitRanges

def isDigit (c : Char) : Bool := inRanges c.toNat digitRanges

def digitChar (d : Nat) : Char := Char.ofNat (0x30 + d)

/-- The number whose decimal `digits` are given, most significant first. -/
def ofDigits (digits : List Nat) : Nat := digits.foldl (fun n d => 10 * n + d) 0

/-- The decimal digits of a number below `10 ^ fuel`, most significant first, before `rest`. -/
def digitsOnto : Nat → Nat → List Char → List Char
  | 0, _, rest => rest
  | fuel + 1, n, rest =>
    if n < 10 then digitChar n :: rest
    else digitsOnto fuel (n / 10) (digitChar (n % 10) :: rest)

/-- `n` in decimal, without leading zeros. A number of `b` bits has at most `b` decimal digits. -/
def natText (n : Nat) : String := String.ofList (digitsOnto (n.log2 + 1) n [])

def intText : Int → String
  | .ofNat n => natText n
  | .negSucc n => "-" ++ natText (n + 1)

def integerDigitLimit : Nat := 4300

/-- The digits of a number whose groups are divided by single underscores, or `none` where anything
else stands or an underscore is not between two digits. -/
def groupedDigits? : List Char → Option (List Nat)
  | [] => none
  | [c] => (digit? c).map ([·])
  | c :: '_' :: rest => do return (← digit? c) :: (← groupedDigits? rest)
  | c :: rest => do return (← digit? c) :: (← groupedDigits? rest)

/-- The characters that may stand around an integer. A `text` in plain ASCII allows only the space
and the layout characters; any other text allows every blank. -/
def isIntegerMargin (text : List Char) (c : Char) : Bool :=
  if text.all (·.toNat < 128) then c == ' ' || (9 ≤ c.toNat && c.toNat ≤ 13) else isBlank c

/-- The integer that a text denotes: margins, an optional sign, then at most `integerDigitLimit`
digits of any script, with single underscores allowed between them. -/
def integer? (text : String) : Option Int := do
  let unsigned (cs : List Char) : Option Int := do
    let digits ← groupedDigits? cs
    if digits.length ≤ integerDigitLimit then return (ofDigits digits : Int) else none
  match trimBy (isIntegerMargin text.toList) text.toList with
  | '-' :: cs => return -(← unsigned cs)
  | '+' :: cs => unsigned cs
  | cs => unsigned cs

end OverlayShell.Text
