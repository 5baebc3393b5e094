import OverlayShell.Text.Digit
import OverlayShell.Text.Pieces

/-!
# Arguments

The arguments of the command line. Options have short or long names; a long name may be cut off
where it stays unique. A value follows its option as the next argument, or in the same one: directly
behind a short name, or behind an equals sign. An argument that starts with a hyphen is no value
unless it is a hyphen alone, a negative number, or holds a blank.
-/

namespace OverlayShell

namespace Arguments

inductive Flag where
  | help
  | command
  | config
  | noSpinner
  deriving DecidableEq

def flagNames : List (String × Flag) := [
  ("-h", .help), ("--help", .help), ("-c", .command), ("--command", .command),
  ("--config", .config), ("--no-spinner", .noSpinner)]

def Flag.takesValue : Flag → Bool
  | .command | .config => true
  | .help | .noSpinner => false

structure Invocation where
  commands : List String
  config : String
  noSpinner : Bool
  deriving DecidableEq

inductive Reading where
  | run (invocation : Invocation)
  | help
  | invalid
  deriving DecidableEq

inductive Item where
  /-- It may be the value of an option. -/
  | value (text : String)
  | separator
  /-- An option, perhaps with a value in the same argument. -/
  | option (flag : Flag) (given : Option String)
  /-- A long name with a value, where the option takes none. -/
  | overfilled
  | unknownOption

/-! ## Telling options from values -/

/-- The text before the first equals sign, and the text behind it if there is one. -/
def beforeEquals (text : String) : String × Option String :=
  let cs := text.toList
  match cs.dropWhile (· != '=') with
  | [] => (text, none)
  | _ :: after => (String.ofList (cs.takeWhile (· != '=')), some (String.ofList after))

def isNegativeNumber (text : String) : Bool :=
  let unbroken :=
    match text.toList.reverse with
    | '\n' :: before => before.reverse
    | _ => text.toList
  match unbroken with
  | '-' :: cs =>
    match cs.dropWhile Text.isDigit with
    | [] => !cs.isEmpty
    | '.' :: places => !places.isEmpty && places.all Text.isDigit
    | _ => false
  | _ => false

/-- The options whose names `text` may be short for. -/
def candidates (text : String) : List (Flag × Option String) :=
  if Text.startsWith "--" text then
    let (start, given) := beforeEquals text
    (flagNames.filter fun (name, _) => Text.startsWith start name).map fun (_, flag) =>
      (flag, given)
  else
    let start := String.ofList (text.toList.take 2)
    (flagNames.filter fun (name, _) => name = start).map fun (_, flag) =>
      (flag, some (String.ofList (text.toList.drop 2)))

def optionItem (text : String) (flag : Flag) (given : Option String) : Item :=
  if Text.startsWith "--" text && given.isSome && !flag.takesValue then .overfilled
  else .option flag given

/-- What an argument is; `none` if its name is short for several options. -/
def item? (text : String) : Option Item :=
  if text = "--" then some .separator
  else if !Text.startsWith "-" text || text = "-" then some (.value text)
  else
    match flagNames.lookup text with
    | some flag => some (.option flag none)
    | none =>
      let (name, given) := beforeEquals text
      match given, flagNames.lookup name with
      | some _, some flag => some (optionItem text flag given)
      | _, _ =>
        match candidates text with
        | [(flag, given)] => some (optionItem text flag given)
        | [] =>
          if isNegativeNumber text || text.toList.contains ' ' then some (.value text)
          else some .unknownOption
        | _ => none

def items? : List String → Option (List Item)
  | [] => some []
  | text :: rest => do
    match ← item? text with
    | .separator => return .separator :: rest.map .value
    | item => return item :: (← items? rest)

/-! ## Reading options -/

def Item.isValue : Item → Bool
  | .value _ => true
  | _ => false

/-- A short option without a value may have further short options directly behind it. They are in
order if this ends with the last letter or with an option that takes a value. The value is what is
left of the argument or, if `valued`, follows it. -/
def clusterInOrder (valued : Bool) : List Char → Bool
  | [] => true
  | c :: cs =>
    match flagNames.lookup (String.ofList ['-', c]) with
    | none => false
    | some flag =>
      if flag.takesValue then !cs.isEmpty || valued else clusterInOrder valued cs

def Invocation.withValue (v : Invocation) (flag : Flag) (given : String) : Invocation :=
  match flag with
  | .command => { v with commands := v.commands ++ [given] }
  | .config => { v with config := given }
  | .help | .noSpinner => v

/-- The rest of the arguments, where `left` tells that some were left over. -/
def readItems (v : Invocation) (left : Bool) : List Item → Reading
  | [] => if left then .invalid else .run v
  | .value _ :: rest | .separator :: rest | .unknownOption :: rest => readItems v true rest
  | .option .noSpinner none :: rest => readItems { v with noSpinner := true } left rest
  | .option .noSpinner (some _) :: _ | .overfilled :: _ => .invalid
  | .option .help none :: _ => .help
  | .option .help (some more) :: rest =>
    let valued := rest.head?.any Item.isValue
    if !more.isEmpty && clusterInOrder valued more.toList then .help else .invalid
  | .option flag (some given) :: rest => readItems (v.withValue flag given) left rest
  | .option flag none :: .value given :: rest => readItems (v.withValue flag given) left rest
  | .option _ none :: _ => .invalid

def read (args : List String) : Reading :=
  match items? args with
  | none => .invalid
  | some items => readItems ⟨[], "", false⟩ false items

end Arguments

end OverlayShell
