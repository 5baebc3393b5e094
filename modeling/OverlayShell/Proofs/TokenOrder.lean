import Mathlib.Tactic.Common
import OverlayShell.Arithmetic.Expr

/-!
# The order of tokens

In whatever is read as an expression, operands and operators take turns. So two tokens that would be
read as one, if nothing stood between them, are never neighbours in it.
-/

namespace OverlayShell

namespace Arithmetic

/-! ## 1. Places -/

/-- A place between the tokens of an expression: an operand has to follow, or a sign (`wanting`); as
much, or what goes with a call (`opened`); or an operand is `complete`. -/
inductive Place where
  | wanting
  | opened
  | complete
  deriving DecidableEq

/-- The place behind a token that stands at a place, if it can stand there. -/
def Place.behind? : Place → Token → Option Place
  | .complete, .numeral _ => none
  | .complete, .ellipsis => none
  | .complete, .opening => some .opened
  | .complete, .closing => some .complete
  | .complete, _ => some .wanting
  | .opened, .closing => some .complete
  | .opened, .star => some .wanting
  | .opened, .doubleStar => some .wanting
  | _, .numeral _ => some .complete
  | _, .ellipsis => some .complete
  | _, .opening => some .opened
  | _, .plus => some .wanting
  | _, .minus => some .wanting
  | _, _ => none

def Place.along? (place : Place) (tokens : List Token) : Option Place :=
  tokens.foldlM Place.behind? place

variable {p q : Place} {t : Token} {tokens rest others : List Token}

theorem along?_cons_eq_some :
    p.along? (t :: tokens) = some q ↔ ∃ r, p.behind? t = some r ∧ r.along? tokens = some q := by
  rw [Place.along?, List.foldlM_cons]
  exact Option.bind_eq_some_iff

theorem along?_append (p : Place) (tokens rest : List Token) :
    p.along? (tokens ++ rest) = (p.along? tokens).bind (·.along? rest) :=
  List.foldlM_append ..

/-- What may follow where an operand is `wanting` may follow behind an open parenthesis. -/
theorem behind?_opened (h : Place.behind? .wanting t = some q) :
    Place.behind? .opened t = some q := by
  cases t <;> first | exact h | cases h

/-! ## 2. Readers -/

/-- The `tokens` lead from `p` to the end of an operand, where `rest` starts. -/
def LeadsTo (p : Place) (tokens rest : List Token) : Prop :=
  ∃ used, tokens = used ++ rest ∧ p.along? used = some .complete

theorem LeadsTo.here (tokens : List Token) : LeadsTo .complete tokens tokens := ⟨[], rfl, rfl⟩

theorem LeadsTo.cons (h : p.behind? t = some q) (hrest : LeadsTo q tokens rest) :
    LeadsTo p (t :: tokens) rest := by
  obtain ⟨used, rfl, hused⟩ := hrest
  exact ⟨t :: used, rfl, along?_cons_eq_some.2 ⟨q, h, hused⟩⟩

theorem LeadsTo.trans (h : LeadsTo p tokens rest) (h' : LeadsTo .complete rest others) :
    LeadsTo p tokens others := by
  obtain ⟨used, rfl, hused⟩ := h
  obtain ⟨more, rfl, hmore⟩ := h'
  refine ⟨used ++ more, (List.append_assoc ..).symm, ?_⟩
  rw [along?_append, hused]
  exact hmore

theorem LeadsTo.opened (h : LeadsTo .wanting tokens rest) : LeadsTo .opened tokens rest := by
  obtain ⟨used, rfl, hused⟩ := h
  cases used with
  | nil => cases hused
  | cons t used =>
    obtain ⟨r, hr, hused⟩ := along?_cons_eq_some.1 hused
    exact ⟨t :: used, rfl, along?_cons_eq_some.2 ⟨r, behind?_opened hr, hused⟩⟩

/-- What each reader takes with this `fuel` leads to the end of an operand. -/
structure ReadersLead (fuel : Nat) : Prop where
  sum : ∀ {tokens e rest}, readSum fuel tokens = some (e, rest) → LeadsTo .wanting tokens rest
  sumTail : ∀ {left tokens e rest}, readSumTail fuel left tokens = some (e, rest) →
    LeadsTo .complete tokens rest
  product : ∀ {tokens e rest}, readProduct fuel tokens = some (e, rest) →
    LeadsTo .wanting tokens rest
  productTail : ∀ {left tokens e rest}, readProductTail fuel left tokens = some (e, rest) →
    LeadsTo .complete tokens rest
  signed : ∀ {tokens e rest}, readSigned fuel tokens = some (e, rest) →
    LeadsTo .wanting tokens rest
  operand : ∀ {tokens e rest}, readOperand fuel tokens = some (e, rest) →
    LeadsTo .wanting tokens rest
  calls : ∀ {operand tokens e rest}, readCalls fuel operand tokens = some (e, rest) →
    LeadsTo .complete tokens rest

theorem behind?_sumOp {op : BinaryOp} (h : sumOp? t = some op) :
    Place.behind? .complete t = some .wanting := by
  cases t <;> first | rfl | cases h

theorem behind?_productOp {op : BinaryOp} (h : productOp? t = some op) :
    Place.behind? .complete t = some .wanting := by
  cases t <;> first | rfl | cases h

/-! ## 3. One more step

What each reader takes with one unit of fuel more, given `ReadersLead` for what it calls. -/

namespace ReadersLead

variable {fuel : Nat} {left operand e : Expr} (ih : ReadersLead fuel)

include ih

theorem sum_succ (h : readSum (fuel + 1) tokens = some (e, rest)) :
    LeadsTo .wanting tokens rest := by
  rw [readSum] at h
  obtain ⟨⟨first, mid⟩, hfirst, htail⟩ := Option.bind_eq_some_iff.1 h
  exact (ih.product hfirst).trans (ih.sumTail htail)

theorem sumTail_succ (h : readSumTail (fuel + 1) left tokens = some (e, rest)) :
    LeadsTo .complete tokens rest := by
  cases tokens with
  | nil =>
    rw [readSumTail] at h
    cases h
    exact .here []
  | cons t tokens =>
    rw [readSumTail] at h
    split at h
    -- What is no operator of a sum is left to be read by others.
    · cases h
      exact .here _
    · rename_i op hop
      obtain ⟨⟨right, mid⟩, hright, htail⟩ := Option.bind_eq_some_iff.1 h
      exact .cons (behind?_sumOp hop) ((ih.product hright).trans (ih.sumTail htail))

theorem product_succ (h : readProduct (fuel + 1) tokens = some (e, rest)) :
    LeadsTo .wanting tokens rest := by
  rw [readProduct] at h
  obtain ⟨⟨first, mid⟩, hfirst, htail⟩ := Option.bind_eq_some_iff.1 h
  exact (ih.signed hfirst).trans (ih.productTail htail)

theorem productTail_succ (h : readProductTail (fuel + 1) left tokens = some (e, rest)) :
    LeadsTo .complete tokens rest := by
  cases tokens with
  | nil =>
    rw [readProductTail] at h
    cases h
    exact .here []
  | cons t tokens =>
    rw [readProductTail] at h
    split at h
    · cases h
      exact .here _
    · rename_i op hop
      obtain ⟨⟨right, mid⟩, hright, htail⟩ := Option.bind_eq_some_iff.1 h
      exact .cons (behind?_productOp hop) ((ih.signed hright).trans (ih.productTail htail))

/-- A sign `f` is put before what `readSigned` gives, which takes no token. -/
theorem signed_map {f : Expr → Expr}
    (h : ((readSigned fuel tokens).map fun read => (f read.1, read.2)) = some (e, rest)) :
    LeadsTo .wanting tokens rest := by
  obtain ⟨⟨inner, mid⟩, hinner, hpair⟩ := Option.map_eq_some_iff.1 h
  cases hpair
  exact ih.signed hinner

theorem signed_succ (h : readSigned (fuel + 1) tokens = some (e, rest)) :
    LeadsTo .wanting tokens rest := by
  rw [readSigned.eq_def] at h
  split at h
  · cases h
  · rename_i heq
    cases heq
    exact .cons rfl (ih.signed_map h)
  · rename_i heq
    cases heq
    exact .cons rfl (ih.signed_map h)
  -- Without a sign it is an operand, and its exponent if there is one.
  · rename_i hfuel _ _
    cases hfuel
    obtain ⟨⟨base, mid⟩, hbase, hpower⟩ := Option.bind_eq_some_iff.1 h
    dsimp only at hpower
    have hlead := ih.operand hbase
    split at hpower
    · obtain ⟨⟨exponent, far⟩, hexponent, hpair⟩ := Option.bind_eq_some_iff.1 hpower
      cases hpair
      exact hlead.trans (.cons rfl (ih.signed hexponent))
    · cases hpower
      exact hlead

/-- What `readCalls` goes on with behind a closing parenthesis. -/
theorem closed_calls (h : readCalls fuel operand tokens = some (e, rest)) :
    LeadsTo .complete (.closing :: tokens) rest :=
  .cons rfl (ih.calls h)

theorem operand_succ (h : readOperand (fuel + 1) tokens = some (e, rest)) :
    LeadsTo .wanting tokens rest := by
  rw [readOperand.eq_def] at h
  split at h
  · cases h
  · rename_i heq
    cases heq
    exact .cons rfl (ih.calls h)
  · rename_i heq
    cases heq
    exact .cons rfl (ih.calls h)
  · rename_i heq
    cases heq
    exact .cons rfl (.cons rfl (ih.calls h))
  -- In parentheses a sum is read, up to the closing one.
  · rename_i heq
    cases heq
    obtain ⟨⟨inner, mid⟩, hinner, hclosed⟩ := Option.bind_eq_some_iff.1 h
    dsimp only at hclosed
    split at hclosed
    · exact .cons rfl ((ih.sum hinner).opened.trans (ih.closed_calls hclosed))
    · cases hclosed
  · cases h

theorem calls_succ (h : readCalls (fuel + 1) operand tokens = some (e, rest)) :
    LeadsTo .complete tokens rest := by
  rw [readCalls.eq_def] at h
  split at h
  · cases h
  · rename_i heq
    cases heq
    exact .cons rfl (.cons rfl (ih.calls h))
  · rename_i heq
    cases heq
    dsimp only at h
    obtain ⟨⟨inner, mid⟩, hinner, hclosed⟩ := Option.bind_eq_some_iff.1 h
    dsimp only at hclosed
    split at hclosed
    · have hlead := ih.sum hinner
      have hend := ih.closed_calls hclosed
      -- The argument may have one star or two before it.
      split at hlead
      · exact .cons rfl (.cons rfl (hlead.trans hend))
      · exact .cons rfl (.cons rfl (hlead.trans hend))
      · exact .cons rfl (hlead.opened.trans hend)
    · cases hclosed
  · cases h
    exact .here _

theorem succ : ReadersLead (fuel + 1) where
  sum := ih.sum_succ
  sumTail := ih.sumTail_succ
  product := ih.product_succ
  productTail := ih.productTail_succ
  signed := ih.signed_succ
  operand := ih.operand_succ
  calls := ih.calls_succ

end ReadersLead

/-! ## 4. Whole expressions -/

theorem readersLead (fuel : Nat) : ReadersLead fuel := by
  induction fuel with
  | zero => constructor <;> intros <;> rename_i h <;> cases h
  | succ fuel ih => exact ih.succ

/-- **Operands and operators take turns** in the tokens that `ofTokens?` reads as an expression. -/
theorem along?_of_ofTokens? {e : Expr} (h : Expr.ofTokens? tokens = some e) :
    Place.along? .wanting tokens = some .complete := by
  unfold Expr.ofTokens? at h
  split at h
  · rename_i found hread
    obtain ⟨used, hused, halong⟩ := (readersLead _).sum hread
    rw [List.append_nil] at hused
    rw [hused, halong]
  · cases h

end Arithmetic

end OverlayShell
