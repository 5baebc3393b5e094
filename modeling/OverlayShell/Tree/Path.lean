import OverlayShell.Text.Pieces

/-!
# Paths

A path names an entry by the segments on the way to it from the root. Paths are read from text in
the shell's notation and written in two forms: the key, without a leading slash, under which the
flat list has its files, and the absolute form, with one.
-/

namespace OverlayShell

/-- The way from the root to an entry. The root itself has no `segments`. -/
structure Path where
  segments : List String
  deriving DecidableEq

namespace Path

def root : Path := ⟨[]⟩

/-- One step of reading: `segment` is appended, an empty one and `.` change nothing, and `..` takes
the last one away, if there is one. -/
def step (segments : List String) (segment : String) : List String :=
  if segment = "" || segment = "." then segments
  else if segment = ".." then segments.dropLast
  else segments ++ [segment]

def slashed (c : Char) : Char := if c = '\\' then '/' else c

/-- The text without the tilde at its start, which stands for the root: `~/a` and `/a` are one
path. -/
def withoutTilde : List Char → List Char
  | '~' :: cs => cs
  | cs => cs

def rawSegments (text : String) : List String :=
  (Text.pieces '/' (withoutTilde (text.toList.map slashed))).map String.ofList

def parse (text : String) : Path := ⟨(rawSegments text).foldl step []⟩

def isRoot (p : Path) : Bool := p.segments.isEmpty

def name (p : Path) : String := p.segments.getLast?.getD ""

/-- The path without its last segment. `root` is its own parent. -/
def parent (p : Path) : Path := ⟨p.segments.dropLast⟩

def child (p : Path) (segment : String) : Path := ⟨p.segments ++ [segment]⟩

/-- The `segments` with slashes between them: the name of the file in `View.files`. -/
def key (p : Path) : String := Text.join "/" p.segments

def absolute (p : Path) : String := "/" ++ p.key

def depth (p : Path) : Nat := p.segments.length

/-- `p` is `q` or lies below it. -/
def isWithin (p q : Path) : Bool := q.segments.isPrefixOf p.segments

def properStarts : List String → List (List String)
  | s :: t :: rest => [s] :: (properStarts (t :: rest)).map (s :: ·)
  | _ => []

/-- The paths strictly between `root` and `p`, shortest first. -/
def ancestors (p : Path) : List Path := (properStarts p.segments).map Path.mk

/-! ## Resolving a target against a working directory -/

/-- A relative target followed from `cwd`. Each leading `../` moves up once and the rest is then
read afresh, so that a slash or a tilde behind it starts again at the `root`. -/
def follow (cwd : Path) : List Char → Path
  | '.' :: '.' :: '/' :: rest => follow cwd.parent rest
  | target =>
    if target.head? = some '/' || target.head? = some '~' then parse (String.ofList target)
    else if target = ['.', '.'] then cwd.parent
    else if target = ['.'] then cwd
    else parse (cwd.absolute ++ "/" ++ String.ofList target)

def resolve (cwd : Path) (target : String) : Path := follow cwd target.toList

end Path

end OverlayShell
