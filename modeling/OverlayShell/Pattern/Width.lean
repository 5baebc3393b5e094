import OverlayShell.Pattern.Basic

/-!
# Widths

How many characters a pattern may take, at least and at most. Both are capped: what is compared is
whether they agree, which decides whether a pattern can be looked for behind a position.
-/

namespace OverlayShell

structure Width where
  least : Nat
  most : Nat
  deriving DecidableEq

namespace Width

/-- The number that stands for "without limit". -/
def unlimited : Nat := 4294967295

def capped (w : Width) : Width := ⟨min w.least (unlimited - 1), min w.most unlimited⟩

def none : Width := ⟨0, 0⟩

def one : Width := ⟨1, 1⟩

def seq (a b : Width) : Width := capped ⟨a.least + b.least, a.most + b.most⟩

def alt (a b : Width) : Width := ⟨min a.least b.least, max a.most b.most⟩

/-- Nothing matches: no width is the `least`, and none the greatest. -/
def never : Width := ⟨unlimited - 1, 0⟩

def repeated (least : Nat) (most : Option Nat) (w : Width) : Width :=
  capped ⟨w.least * least, w.most * most.getD unlimited⟩

def isFixed (w : Width) : Bool := w.least = w.most

end Width

/-- The width of a pattern, given those of the `groups` before it. -/
def Pattern.width (groups : List (Option Width)) : Pattern → Width
  | .empty => .none
  | .one _ => .one
  | .anchor _ => .none
  | .seq first second => (first.width groups).seq (second.width groups)
  | .alt first others => (first.width groups).alt (others.width groups)
  | .never => .never
  | .group _ body => body.width groups
  | .scoped body => body.width groups
  | .atomic body => body.width groups
  | .repeated _ least most body => (body.width groups).repeated least most
  | .ahead _ _ => .none
  | .behind _ _ _ => .none
  | .backref _ index => (groups[index - 1]?.join).getD .none
  | .ifGroup _ matched unmatched => (matched.width groups).alt (unmatched.width groups)

end OverlayShell
