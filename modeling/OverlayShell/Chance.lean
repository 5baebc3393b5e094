/-!
# Random choices

A generator of 32-bit words by a twisted shift register of 624 words, seeded from a list of words.
Every session starts from the same seed, so its choices can be repeated.
-/

namespace OverlayShell

/-- The `words` of the register, and how many of them have been drawn since they were last
renewed. -/
structure Chance where
  words : Array UInt32
  drawn : Nat

namespace Chance

def size : Nat := 624

def word (words : Array UInt32) (i : Nat) : UInt32 := words.getD (i % size) 0

/-! ## Seeding -/

def fromWord (seed : UInt32) : Array UInt32 :=
  (List.range (size - 1)).foldl
    (fun words i =>
      let last := word words i
      words.push ((last ^^^ (last >>> 30)) * 1812433253 + UInt32.ofNat (i + 1)))
    #[seed]

/-- The place `i` of the register takes a new value; the first place follows the last one. -/
def store (words : Array UInt32) (i : Nat) (value : UInt32) : Array UInt32 :=
  let words := words.setIfInBounds i value
  if i + 1 = size then words.setIfInBounds 0 value else words

def placeAt (steps : Nat) : Nat := steps % (size - 1) + 1

/-- The register filled from `key`, which is not empty. -/
def seeded (key : List UInt32) : Chance :=
  let rounds := max size key.length
  let mixed :=
    (List.range rounds).foldl
      (fun words step =>
        let i := placeAt step
        let j := step % key.length
        let last := word words (i - 1)
        let value :=
          (word words i ^^^ ((last ^^^ (last >>> 30)) * 1664525)) + key.getD j 0 + UInt32.ofNat j
        store words i value)
      (fromWord 19650218)
  let stirred :=
    (List.range (size - 1)).foldl
      (fun words step =>
        let i := placeAt (rounds + step)
        let last := word words (i - 1)
        let value := (word words i ^^^ ((last ^^^ (last >>> 30)) * 1566083941)) - UInt32.ofNat i
        store words i value)
      mixed
  { words := stirred.setIfInBounds 0 0x80000000, drawn := size }

def start : Chance := seeded [42]

/-! ## Drawing -/

/-- All the words renewed, each from itself, the next one and the one 397 places on. -/
def renewed (words : Array UInt32) : Array UInt32 :=
  (List.range size).foldl
    (fun words i =>
      let y := (word words i &&& 0x80000000) ||| (word words (i + 1) &&& 0x7fffffff)
      let twist : UInt32 := if y &&& 1 = 0 then 0 else 0x9908b0df
      words.setIfInBounds i (word words (i + 397) ^^^ (y >>> 1) ^^^ twist))
    words

def tempered (y : UInt32) : UInt32 :=
  let y := y ^^^ (y >>> 11)
  let y := y ^^^ ((y <<< 7) &&& 0x9d2c5680)
  let y := y ^^^ ((y <<< 15) &&& 0xefc60000)
  y ^^^ (y >>> 18)

def draw (c : Chance) : UInt32 × Chance :=
  let c := if c.drawn < size then c else { words := renewed c.words, drawn := 0 }
  (tempered (word c.words c.drawn), { c with drawn := c.drawn + 1 })

/-- A number below `n` from the first word whose upper bits, as many as `n` has, form one. Every
word does so with a chance of at least one half; `fuel` words are tried. -/
def belowIn (n : Nat) : Nat → Chance → Nat × Chance
  | 0, c => (0, c)
  | fuel + 1, c =>
    let (w, c) := c.draw
    let k := w.toNat >>> (32 - (n.log2 + 1))
    if k < n then (k, c) else belowIn n fuel c

def below (n : Nat) (c : Chance) : Nat × Chance := belowIn n 10000 c

/-- One of `things`, or `default` if there are none. -/
def choose {α : Type} (default : α) (things : List α) (c : Chance) : α × Chance :=
  let (i, c) := c.below things.length
  (things.getD i default, c)

def chooseMany {α : Type} (default : α) (things : List α) : Nat → Chance → List α × Chance
  | 0, c => ([], c)
  | n + 1, c =>
    let (thing, c) := c.choose default things
    let (rest, c) := chooseMany default things n c
    (thing :: rest, c)

end Chance

end OverlayShell
