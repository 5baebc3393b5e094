import OverlayShell.Document.Basic
import OverlayShell.Number.Places

/-!
# Message templates

A template is a text with places, each starting with a percent sign, that are filled with values in
turn: `%s` with the text of a value, `%d` with an integer and so on. Between the percent sign and
the final letter stand flags, a width and a precision. A place may name its value, as in `%(user)s`,
if the values come as a map. Two percent signs stand for one.
-/

namespace OverlayShell

inductive TemplateError where
  | tooFewValues
  | valuesLeft
  /-- A value is not of the kind that its place takes. -/
  | wrongKind
  /-- A place names its value, but the values have no names. -/
  | noNames
  | unknownName (name : String)
  | openName
  | incomplete
  /-- A width is beyond what can be counted, as in `tooPrecise` a precision. -/
  | tooWide
  | tooPrecise
  /-- A width or, in `starTooPrecise`, a precision that comes from the values is. -/
  | starTooWide
  | starTooPrecise
  /-- `letter`, found at `position`, has no meaning. -/
  | unknownLetter (letter : Char) (position : Nat)
  /-- A number is not the code of a character. -/
  | noCharacter
  | infinite
  | tooLarge
  deriving DecidableEq

def TemplateError.message : TemplateError → String
  | .tooFewValues => "not enough arguments for format string"
  | .valuesLeft => "not all arguments converted during string formatting"
  | .wrongKind => "a value of another kind is required"
  | .noNames => "format requires a mapping"
  | .unknownName name => Text.quoted name
  | .openName => "incomplete format key"
  | .incomplete => "incomplete format"
  | .tooWide => "width too big"
  | .tooPrecise => "precision too big"
  | .starTooWide => "the width is too large"
  | .starTooPrecise => "the precision is too large"
  | .unknownLetter letter position =>
    let shown := if 31 ≤ letter.toNat && letter.toNat ≤ 126 then letter else '?'
    "unsupported format character '" ++ String.singleton shown ++ "' (0x" ++
      String.ofList (Nat.toDigits 16 letter.toNat) ++ ") at index " ++ Text.natText position
  | .noCharacter => "%c arg not in range(0x110000)"
  | .infinite => "cannot convert float infinity to integer"
  | .tooLarge => "int too large to convert to float"

namespace Template

structure Layout where
  leftAligned : Bool
  signed : Bool
  spaced : Bool
  alternate : Bool
  zeroFilled : Bool
  width : Option Nat
  precision : Option Nat

def Layout.plain : Layout := ⟨false, false, false, false, false, none, none⟩

structure Values where
  /-- The values that places without a name take, in turn. -/
  pending : List Document
  named : Option (List (String × Document))

/-- The values of a record. A single map that is not empty gives names to its values. -/
def Values.ofArgs : List Document → Values
  | [.map (field :: fields)] => ⟨[.map (field :: fields)], some (field :: fields)⟩
  | args => ⟨args, none⟩

def Values.next : Values → Except TemplateError (Document × Values)
  | ⟨[], _⟩ => .error .tooFewValues
  | ⟨value :: rest, named⟩ => .ok (value, ⟨rest, named⟩)

/-! ## Reading a place -/

/-- The name up to its closing parenthesis, and what follows it. Parentheses in the name are
balanced. -/
def readName : Nat → List Char → Option (List Char × List Char)
  | _, [] => none
  | 0, ')' :: cs => some ([], cs)
  | depth, c :: cs =>
    let deeper := if c = '(' then depth + 1 else if c = ')' then depth - 1 else depth
    (readName deeper cs).map fun (name, rest) => (c :: name, rest)

def readFlags : Layout → List Char → Layout × List Char
  | l, '-' :: cs => readFlags { l with leftAligned := true } cs
  | l, '+' :: cs => readFlags { l with signed := true } cs
  | l, ' ' :: cs => readFlags { l with spaced := true } cs
  | l, '#' :: cs => readFlags { l with alternate := true } cs
  | l, '0' :: cs => readFlags { l with zeroFilled := true } cs
  | l, cs => (l, cs)

def isDecimal (c : Char) : Bool := '0' ≤ c && c ≤ '9'

def readNumber (cs : List Char) : Nat × List Char :=
  let digits := (cs.takeWhile isDecimal).map fun c => c.toNat - '0'.toNat
  (Text.ofDigits digits, cs.dropWhile isDecimal)

def starred (values : Values) : Except TemplateError (Int × Values) := do
  match ← values.next with
  | (.int n, rest) => return (n, rest)
  | (.bool b, rest) => return (if b then 1 else 0, rest)
  | _ => throw .wrongKind

/-- The width, if one follows. A negative one from a star aligns on the left. -/
def readWidth (l : Layout) (values : Values) :
    List Char → Except TemplateError (Layout × Values × List Char)
  | '*' :: cs => do
    let (n, values) ← starred values
    if n < -Number.twoPow 63 || Number.twoPow 63 ≤ n then throw .starTooWide
    return ({ l with width := some n.natAbs, leftAligned := l.leftAligned || n < 0 }, values, cs)
  | c :: cs => do
    if !isDecimal c then return (l, values, c :: cs)
    let (n, rest) := readNumber (c :: cs)
    if n ≥ Number.twoPow 63 then throw .tooWide
    return ({ l with width := some n }, values, rest)
  | [] => return (l, values, [])

/-- The precision, if a point follows. Nothing after the point, or a negative number from a star, is
a precision of zero. -/
def readPrecision (l : Layout) (values : Values) :
    List Char → Except TemplateError (Layout × Values × List Char)
  | '.' :: '*' :: cs => do
    let (n, values) ← starred values
    if n < -Number.twoPow 31 || Number.twoPow 31 ≤ n then throw .starTooPrecise
    return ({ l with precision := some n.toNat }, values, cs)
  | '.' :: cs => do
    let (n, rest) := readNumber cs
    if n ≥ Number.twoPow 31 then throw .tooPrecise
    return ({ l with precision := some n }, values, rest)
  | cs => return (l, values, cs)

def skipSize : List Char → List Char
  | 'h' :: cs | 'l' :: cs | 'L' :: cs => cs
  | cs => cs

/-! ## Filling a place -/

/-- A value in its place: sign and base mark, in `lead`, come before the zeros that fill it up and
after the blanks that do. -/
def laidOut (l : Layout) (numeric : Bool) (lead body : List Char) : List Char :=
  let missing := (l.width.getD 0) - (lead.length + body.length)
  if l.leftAligned then lead ++ body ++ List.replicate missing ' '
  else if numeric && l.zeroFilled then lead ++ List.replicate missing '0' ++ body
  else List.replicate missing ' ' ++ lead ++ body

def sign (l : Layout) (negative : Bool) : List Char :=
  if negative then ['-'] else if l.signed then ['+'] else if l.spaced then [' '] else []

def placeText (l : Layout) (text : List Char) : List Char :=
  laidOut l false [] (match l.precision with
    | some n => text.take n
    | none => text)

/-- The value as an integer: fractions are cut off where `cutting`. -/
def integerOf (cutting : Bool) : Document → Except TemplateError Int
  | .int n => return n
  | .bool b => return if b then 1 else 0
  | .float x =>
    if !cutting then throw .wrongKind
    else if x.isInf || x.isNaN then throw .infinite
    else return Number.truncated x
  | _ => throw .wrongKind

def floatOf : Document → Except TemplateError Float
  | .int n =>
    let x := Number.ofInt n
    if x.isInf then throw .tooLarge else return x
  | .bool b => return if b then 1.0 else 0.0
  | .float x => return x
  | _ => throw .wrongKind

def placeInteger (l : Layout) (letter : Char) (n : Int) : List Char :=
  let digits :=
    match letter with
    | 'o' => Nat.toDigits 8 n.natAbs
    | 'x' => Nat.toDigits 16 n.natAbs
    | 'X' => (Nat.toDigits 16 n.natAbs).map Char.toUpper
    | _ => (Text.natText n.natAbs).toList
  let mark := if l.alternate && ['o', 'x', 'X'].contains letter then ['0', letter] else []
  let zeros := List.replicate (l.precision.getD 0 - digits.length) '0'
  laidOut l true (sign l (n < 0) ++ mark) (zeros ++ digits)

def placeFloat (l : Layout) (letter : Char) (x : Float) : List Char :=
  let places := l.precision.getD 6
  let m := Number.magnitude x
  let body :=
    if x.isNaN then "nan".toList
    else if x.isInf then "inf".toList
    else
      match letter.toLower with
      | 'f' => m.fixed places l.alternate
      | 'e' => m.withExponent places l.alternate
      | _ => m.general places l.alternate
  let body := if letter.isUpper then body.map Char.toUpper else body
  laidOut l true (sign l (!x.isNaN && Number.isNegative x)) body

def placeCharacter (l : Layout) : Document → Except TemplateError (List Char)
  | .text s =>
    match s.toList with
    | [c] => return laidOut l false [] [c]
    | _ => throw .wrongKind
  | value => do
    let n ← integerOf false value
    if n < 0 || 0x110000 ≤ n then throw .noCharacter
    return laidOut l false [] [Char.ofNat n.toNat]

def asciiOnly (text : List Char) : List Char :=
  text.flatMap fun c =>
    if c.toNat < 0x80 then [c]
    else if c.toNat < 0x100 then '\\' :: 'x' :: Text.hexText 2 c.toNat
    else if c.toNat < 0x10000 then '\\' :: 'u' :: Text.hexText 4 c.toNat
    else '\\' :: 'U' :: Text.hexText 8 c.toNat

def place (l : Layout) (letter : Char) (position : Nat) (value : Document) :
    Except TemplateError (List Char) := do
  if letter = 's' then return placeText l value.asText.toList
  else if letter = 'r' then return placeText l value.shown.toList
  else if letter = 'a' then return placeText l (asciiOnly value.shown.toList)
  else if letter = 'c' then placeCharacter l value
  else if ['d', 'i', 'u'].contains letter then
    return placeInteger l letter (← integerOf true value)
  else if ['o', 'x', 'X'].contains letter then
    return placeInteger l letter (← integerOf false value)
  else if ['e', 'E', 'f', 'F', 'g', 'G'].contains letter then
    return placeFloat l letter (← floatOf value)
  else throw (.unknownLetter letter position)

/-! ## Filling a template -/

def chosen (values : Values) : List Char → Except TemplateError (Values × List Char)
  | '(' :: cs => do
    match values.named with
    | none => throw .noNames
    | some fields =>
      match readName 0 cs with
      | none => throw .openName
      | some (name, rest) =>
        match Document.field? (String.ofList name) fields with
        | none => throw (.unknownName (String.ofList name))
        | some value => return ({ values with pending := [value] }, rest)
  | cs => return (values, cs)

def readLayout (values : Values) (cs : List Char) :
    Except TemplateError (Layout × Values × List Char) := do
  let (values, cs) ← chosen values cs
  let (l, cs) := readFlags .plain cs
  let (l, values, cs) ← readWidth l values cs
  let (l, values, cs) ← readPrecision l values cs
  return (l, values, skipSize cs)

/-- The rest of a template of `length` characters, filled. Every place takes at least one
character. -/
def fillFrom (length : Nat) : Nat → Values → List Char → Except TemplateError (List Char)
  | 0, _, _ => throw .incomplete
  | _, values, [] =>
    if values.named.isNone && !values.pending.isEmpty then throw .valuesLeft else return []
  | fuel + 1, values, '%' :: '%' :: cs => return '%' :: (← fillFrom length fuel values cs)
  | fuel + 1, values, c :: cs => do
    if c != '%' then return c :: (← fillFrom length fuel values cs)
    let (l, values, cs) ← readLayout values cs
    match cs with
    | [] => throw .incomplete
    | letter :: cs =>
      let (value, values) ← values.next
      let placed ← place l letter (length - cs.length - 1) value
      return placed ++ (← fillFrom length fuel values cs)

end Template

/-- A `template` filled with values. Without any values it is taken as it is. -/
def fillTemplate (template : String) (args : List Document) : Except TemplateError String :=
  if args.isEmpty then .ok template
  else
    let cs := template.toList
    (Template.fillFrom cs.length (cs.length + 1) (.ofArgs args) cs).map String.ofList

end OverlayShell
