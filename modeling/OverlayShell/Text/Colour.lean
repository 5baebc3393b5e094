import OverlayShell.Text.Digit

/-!
# Colours on a terminal

A colour is switched on by an escape sequence, `ESC [` parameters `m`, and everything is switched
off by the reset sequence. Plain-text readers take the sequences out in one pass from left to right.
-/

namespace OverlayShell.Text

def esc : Char := Char.ofNat 0x1b

inductive Colour where
  | red
  | green
  | yellow
  | blue
  | magenta
  | cyan
  | white
  | grey
  | bright
  | dim
  deriving DecidableEq

def Colour.parameter : Colour → String
  | .red => "31"
  | .green => "32"
  | .yellow => "33"
  | .blue => "34"
  | .magenta => "35"
  | .cyan => "36"
  | .white => "37"
  | .grey => "90"
  | .bright => "1"
  | .dim => "2"

def colourSequence (parameters : String) : String := "\x1b[" ++ parameters ++ "m"

def Colour.on (colour : Colour) : String := colourSequence colour.parameter

def colourReset : String := colourSequence "0"

def paint (colour : Colour) (text : String) : String := colour.on ++ text ++ colourReset

def accent (text : String) : String := paint .cyan text

def bold (text : String) : String := paint .bright text

/-! ## Taking colours out -/

def isColourParameter (c : Char) : Bool := ('0' ≤ c && c ≤ '9') || c == ';'

/-- How much of a possible colour sequence has been read and is held back. -/
inductive Held where
  | nothing
  | escape
  /-- An escape character, a bracket and the `parameters`, latest first. -/
  | opened (parameters : List Char)
  deriving DecidableEq

def Held.text : Held → List Char
  | .nothing => []
  | .escape => [esc]
  | .opened parameters => esc :: '[' :: parameters.reverse

/-- What remains of the text when its complete colour sequences are taken out, given what is held
back of the text before it. A sequence that arises from taking one out stays. -/
def plainAfter : Held → List Char → List Char
  | held, [] => held.text
  | held, c :: cs =>
    if c = esc then held.text ++ plainAfter .escape cs
    else
      match held with
      | .nothing => c :: plainAfter .nothing cs
      | .escape =>
        if c = '[' then plainAfter (.opened []) cs else esc :: c :: plainAfter .nothing cs
      | .opened parameters =>
        if c = 'm' then plainAfter .nothing cs
        else if isColourParameter c then plainAfter (.opened (c :: parameters)) cs
        else held.text ++ c :: plainAfter .nothing cs

def plain (text : String) : String := String.ofList (plainAfter .nothing text.toList)

/-! ## Output that is not a terminal

Where the output is no terminal, every complete control sequence is taken out, whatever its final
letter. Line-editing markers directly around a sequence go with it. -/

/-- The number of characters up to and with the final letter of a control sequence whose opening
bracket has been read; zero if it does not end in a letter. -/
def controlBody : List Char → Nat
  | [] => 0
  | c :: cs =>
    if c.isAlpha then (if cs.head? = some (Char.ofNat 2) then 2 else 1)
    else if isDigit c || c == ';' then
      match controlBody cs with
      | 0 => 0
      | n + 1 => n + 2
    else 0

/-- The length of the control sequence that starts the text, markers included; zero without one. -/
def controlLength : List Char → Nat
  | [] => 0
  | c :: cs =>
    if c = Char.ofNat 1 then
      match cs with
      | d :: '[' :: rest => if d = esc then lengthPlus 3 (controlBody rest) else 0
      | _ => 0
    else
      match cs with
      | '[' :: rest => if c = esc then lengthPlus 2 (controlBody rest) else 0
      | _ => 0
where
  lengthPlus (opening : Nat) : Nat → Nat
    | 0 => 0
    | n + 1 => n + 1 + opening

/-- The text without the stretches that `length` measures at their starts, after `skip` characters
that belong to such a stretch. -/
def removeStretches (length : List Char → Nat) : Nat → List Char → List Char
  | _, [] => []
  | skip + 1, _ :: cs => removeStretches length skip cs
  | 0, c :: cs =>
    match length (c :: cs) with
    | 0 => c :: removeStretches length 0 cs
    | n + 1 => removeStretches length n cs

/-- The `text` as it reaches an output that is not a terminal. -/
def withoutControls (text : String) : String :=
  String.ofList (removeStretches controlLength 0 text.toList)

end OverlayShell.Text
