import OverlayShell.Bindings
import OverlayShell.Document.Basic

/-!
# Documents in JSON

Reading and writing documents in the JSON notation, which configuration files may use. A numeral
with a point or an exponent is a floating-point number and any other an integer of unbounded size; a
repeated key keeps its first place and takes its last value.
-/

namespace OverlayShell

namespace Document

/-! ## Writing -/

def jsonChar (c : Char) : List Char :=
  if c == '"' || c == '\\' then ['\\', c]
  else if c == '\n' then ['\\', 'n']
  else if c == '\r' then ['\\', 'r']
  else if c == '\t' then ['\\', 't']
  else if c.toNat = 8 then ['\\', 'b']
  else if c.toNat = 12 then ['\\', 'f']
  else if c.toNat < 0x20 then '\\' :: 'u' :: Text.hexText 4 c.toNat
  else [c]

def jsonText (text : String) : String :=
  String.ofList ('"' :: text.toList.flatMap jsonChar ++ ['"'])

mutual

def toJson : Document → String
  | .null => "null"
  | .bool b => if b then "true" else "false"
  | .int n => Text.intText n
  | .float x => Number.floatText x
  | .text s => jsonText s
  | .list items => "[" ++ Text.join ", " (jsonItems items) ++ "]"
  | .map fields => "\x7b" ++ Text.join ", " (jsonFields fields) ++ "\x7d"

def jsonItems : List Document → List String
  | [] => []
  | item :: rest => item.toJson :: jsonItems rest

def jsonFields : List (String × Document) → List String
  | [] => []
  | field :: rest => jsonField field :: jsonFields rest

def jsonField : String × Document → String
  | (key, value) => jsonText key ++ ": " ++ value.toJson

end

/-! ## Reading -/

def skipLayout (text : List Char) : List Char :=
  text.dropWhile fun c => c == ' ' || c == '\t' || c == '\n' || c == '\r'

def hexDigit? (c : Char) : Option Nat :=
  if '0' ≤ c && c ≤ '9' then some (c.toNat - 0x30)
  else if 'a' ≤ c && c ≤ 'f' then some (c.toNat - 0x57)
  else if 'A' ≤ c && c ≤ 'F' then some (c.toNat - 0x37)
  else none

def hexValue? (digits : List Char) : Option Nat :=
  digits.foldlM (fun n c => (hexDigit? c).map (16 * n + ·)) 0

def shortEscape? : Char → Option Nat
  | '"' => some 0x22
  | '\\' => some 0x5c
  | '/' => some 0x2f
  | 'b' => some 8
  | 'f' => some 12
  | 'n' => some 10
  | 'r' => some 13
  | 't' => some 9
  | _ => none

/-- The code points and surrogates up to the closing quote, and the text after it. -/
def readUnits : List Char → Option (List Nat × List Char)
  | [] => none
  | '"' :: rest => some ([], rest)
  | '\\' :: 'u' :: a :: b :: c :: d :: rest => do
    let unit ← hexValue? [a, b, c, d]
    let (units, after) ← readUnits rest
    return (unit :: units, after)
  | '\\' :: c :: rest => do
    let unit ← shortEscape? c
    let (units, after) ← readUnits rest
    return (unit :: units, after)
  | c :: rest => do
    let (units, after) ← readUnits rest
    return (c.toNat :: units, after)

/-- The characters of a row of code points, in which two surrogates side by side make one. A
surrogate on its own becomes the replacement character by `unitChar`. -/
def joinUnits : List Nat → List Char
  | [] => []
  | [unit] => [unitChar unit]
  | high :: low :: rest =>
    if 0xd800 ≤ high && high < 0xdc00 && 0xdc00 ≤ low && low < 0xe000 then
      Char.ofNat (0x10000 + (high - 0xd800) * 0x400 + (low - 0xdc00)) :: joinUnits rest
    else unitChar high :: joinUnits (low :: rest)
where
  unitChar (unit : Nat) : Char :=
    if 0xd800 ≤ unit && unit < 0xe000 then Char.ofNat 0xfffd else Char.ofNat unit

def readText (text : List Char) : Option (String × List Char) :=
  (readUnits text).map fun (units, rest) => (String.ofList (joinUnits units), rest)

def isNumeralChar (c : Char) : Bool :=
  ('0' ≤ c && c ≤ '9') || c == '+' || c == '-' || c == '.' || c == 'e' || c == 'E'

/-- The number that a row of ASCII digits denotes; `none` if there is no digit or something else. -/
def digitsValue? (digits : List Char) : Option Nat :=
  if digits.isEmpty || !digits.all (fun c => '0' ≤ c && c ≤ '9') then none
  else some (Text.ofDigits (digits.map fun c => c.toNat - 0x30))

def signedValue? : List Char → Option Int
  | '-' :: digits => (digitsValue? digits).map fun n => -(n : Int)
  | '+' :: digits => (digitsValue? digits).map fun n => (n : Int)
  | digits => (digitsValue? digits).map fun n => (n : Int)

def unsignedNumber? (negative : Bool) (numeral : List Char) : Option Document := do
  let mantissa := numeral.takeWhile fun c => c != 'e' && c != 'E'
  let exponent := numeral.drop mantissa.length
  let whole := mantissa.takeWhile (· != '.')
  let fraction := mantissa.drop whole.length
  let n ← digitsValue? whole
  if exponent.isEmpty && fraction.isEmpty then
    return .int (if negative then -(n : Int) else n)
  let places := fraction.drop 1
  let digits ← if fraction.isEmpty then some n else digitsValue? (whole ++ places)
  let e ← if exponent.isEmpty then some 0 else signedValue? (exponent.drop 1)
  return .float (Number.ofDecimal negative digits (e - places.length))

def number? : List Char → Option Document
  | '-' :: numeral => unsignedNumber? true numeral
  | numeral => unsignedNumber? false numeral

def afterWord? (word : String) (text : List Char) : Option (List Char) :=
  if word.toList.isPrefixOf text then some (text.drop word.length) else none

mutual

/-- The document at the start of a text, and what follows it. The fuel bounds the number of nested
and neighbouring values; the length of the text is enough. -/
def readValue : Nat → List Char → Option (Document × List Char)
  | 0, _ => none
  | fuel + 1, chars =>
    match skipLayout chars with
    | '"' :: rest => (readText rest).map fun (s, after) => (.text s, after)
    | '[' :: rest =>
      match skipLayout rest with
      | ']' :: after => some (.list [], after)
      | _ => (readItems fuel rest).map fun (items, after) => (.list items, after)
    | '\x7b' :: rest =>
      match skipLayout rest with
      | '\x7d' :: after => some (.map [], after)
      | _ => (readFields fuel rest).map fun (fields, after) =>
          (.map (Bindings.ofList fields).entries, after)
    | 'n' :: rest => (afterWord? "ull" rest).map fun after => (.null, after)
    | 't' :: rest => (afterWord? "rue" rest).map fun after => (.bool true, after)
    | 'f' :: rest => (afterWord? "alse" rest).map fun after => (.bool false, after)
    | rest =>
      let numeral := rest.takeWhile isNumeralChar
      (number? numeral).map fun value => (value, rest.drop numeral.length)

def readItems : Nat → List Char → Option (List Document × List Char)
  | 0, _ => none
  | fuel + 1, chars => do
    let (item, rest) ← readValue fuel chars
    match skipLayout rest with
    | ',' :: rest =>
      let (items, after) ← readItems fuel rest
      return (item :: items, after)
    | ']' :: after => return ([item], after)
    | _ => none

def readFields : Nat → List Char → Option (List (String × Document) × List Char)
  | 0, _ => none
  | fuel + 1, chars => do
    let '"' :: rest := skipLayout chars | none
    let (key, rest) ← readText rest
    let ':' :: rest := skipLayout rest | none
    let (value, rest) ← readValue fuel rest
    match skipLayout rest with
    | ',' :: rest =>
      let (fields, after) ← readFields fuel rest
      return ((key, value) :: fields, after)
    | '\x7d' :: after => return ([(key, value)], after)
    | _ => none

end

def ofJson? (text : String) : Option Document := do
  let chars := text.toList
  let (value, rest) ← readValue (chars.length + 1) chars
  if (skipLayout rest).isEmpty then return value else none

end Document

end OverlayShell
