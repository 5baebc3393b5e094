import Mathlib.Tactic.Common
import OverlayShell.Arithmetic.Expr

/-!
# Precedence

What the readers of expressions make of tokens that are put together from the tokens of operands. A
sum and a product are read alike: as a chain of parts with operators between them, from the left.
-/

namespace OverlayShell

namespace Arithmetic

/-! ## 1. Chains of parts -/

/-- A reader of tokens, with its fuel as the first argument. -/
abbrev Reader := Nat → List Token → Reading

/-- The tokens end, or go on with one at which `stop` holds. -/
def Stops (stop : Token → Bool) (rest : List Token) : Prop := ∀ t ∈ rest.head?, stop t = true

/-- `read` takes just these tokens for `e`, if what stands behind them `Stops`. It may go eight
steps down for every token, less `saved`: the further down a reader is in the grammar, the fewer it
needs. -/
def Reads (read : Reader) (saved : Nat) (stop : Token → Bool) (tokens : List Token) (e : Expr) :
    Prop :=
  ∀ fuel rest, 8 * tokens.length + 4 ≤ fuel + saved → Stops stop rest →
    read fuel (tokens ++ rest) = some (e, rest)

/-- The readers of a chain, such as `readSum` and `readSumTail` of products: that of a part, that of
the whole, and that of what stands behind a part. -/
structure Chain (op? : Token → Option BinaryOp) (part whole : Reader)
    (tail : Nat → Expr → List Token → Reading) (partStop stop : Token → Bool) (saved : Nat) :
    Prop where
  whole_succ (fuel tokens) :
    whole (fuel + 1) tokens = (part fuel tokens).bind fun read => tail fuel read.1 read.2
  tail_nil (fuel left) : tail (fuel + 1) left [] = some (left, [])
  tail_stop {t} (fuel left rest) : stop t = true →
    tail (fuel + 1) left (t :: rest) = some (left, t :: rest)
  tail_op {t op} (fuel left rest) : op? t = some op →
    tail (fuel + 1) left (t :: rest) =
      (part fuel rest).bind fun read => tail fuel (.binary op left read.1) read.2
  partStop_of_stop {t} : stop t = true → partStop t = true
  partStop_of_op {t op} : op? t = some op → partStop t = true
  saved_le : saved ≤ 2

section

variable {op? : Token → Option BinaryOp} {part whole : Reader}
  {tail : Nat → Expr → List Token → Reading} {partStop stop : Token → Bool} {saved : Nat}
  {tokens left right : List Token} {e first second : Expr} {t : Token} {op : BinaryOp}

/-- `whole` comes from the start of these tokens to `tail` behind them, and then has `e` on its
left. -/
def Chain.Leads (_ : Chain op? part whole tail partStop stop saved) (tokens : List Token)
    (e : Expr) : Prop :=
  ∀ fuel rest, 8 * tokens.length + 4 ≤ fuel + saved → Stops partStop rest →
    ∃ fuel', fuel ≤ fuel' + tokens.length + 1 ∧ whole fuel (tokens ++ rest) = tail fuel' e rest

variable {h : Chain op? part whole tail partStop stop saved}

theorem Chain.leads_of_part (h : Chain op? part whole tail partStop stop saved)
    (hpart : Reads part (saved + 1) partStop tokens e) : h.Leads tokens e := by
  intro fuel rest hfuel hrest
  have hsaved := h.saved_le
  obtain ⟨fuel, rfl⟩ := Nat.exists_eq_succ_of_ne_zero (show fuel ≠ 0 by omega)
  refine ⟨fuel, by omega, ?_⟩
  rw [h.whole_succ, hpart fuel rest (by omega) hrest]
  rfl

/-- One more operator and part makes the chain longer, to the left as `tail` groups it. -/
theorem Chain.Leads.binary (hleft : h.Leads left first) (hop : op? t = some op)
    (hright : Reads part (saved + 1) partStop right second) :
    h.Leads (left ++ t :: right) (.binary op first second) := by
  intro fuel rest hfuel hrest
  rw [List.length_append, List.length_cons] at hfuel
  have hsaved := h.saved_le
  have hstops : Stops partStop (t :: (right ++ rest)) := by
    intro t' ht'
    cases ht'
    exact h.partStop_of_op hop
  obtain ⟨fuel', hfuel', hread⟩ := hleft fuel _ (by omega) hstops
  obtain ⟨fuel', rfl⟩ := Nat.exists_eq_succ_of_ne_zero (show fuel' ≠ 0 by omega)
  refine ⟨fuel', by rw [List.length_append, List.length_cons]; omega, ?_⟩
  rw [List.append_assoc, List.cons_append, hread, h.tail_op _ _ _ hop,
    hright fuel' rest (by omega) hrest]
  rfl

theorem Chain.Leads.reads (hleads : h.Leads tokens e) : Reads whole saved stop tokens e := by
  intro fuel rest hfuel hrest
  have hsaved := h.saved_le
  obtain ⟨fuel', hfuel', hread⟩ :=
    hleads fuel rest hfuel fun t ht => h.partStop_of_stop (hrest t ht)
  obtain ⟨fuel', rfl⟩ := Nat.exists_eq_succ_of_ne_zero (show fuel' ≠ 0 by omega)
  rw [hread]
  cases rest with
  | nil => exact h.tail_nil ..
  | cons t rest => exact h.tail_stop _ _ _ (hrest t rfl)

end

/-! ## 2. Sums, products and signed operands -/

variable {tokens : List Token} {e : Expr} {t : Token} {op : BinaryOp}

/-- `readSum` ends with the parentheses around it. -/
def sumStop (t : Token) : Bool := t matches .closing

/-- `readProduct` ends with the sum that it is part of, or at an operator of the sum. -/
def productStop (t : Token) : Bool := sumStop t || (sumOp? t).isSome

/-- `readSigned` ends with the product that it is part of, or at an operator of the product. -/
def signedStop (t : Token) : Bool := productStop t || (productOp? t).isSome

theorem sumOp?_of_stop (h : sumStop t = true) : sumOp? t = none := by
  cases t <;> first | rfl | cases h

theorem productOp?_of_stop (h : productStop t = true) : productOp? t = none := by
  cases t <;> first | rfl | cases h

theorem sums : Chain sumOp? readProduct readSum readSumTail productStop sumStop 0 where
  whole_succ _ _ := rfl
  tail_nil _ _ := rfl
  tail_stop _ _ _ ht := by rw [readSumTail, sumOp?_of_stop ht]
  tail_op _ _ _ hop := by
    rw [readSumTail, hop]
    rfl
  partStop_of_stop ht := by simp [productStop, ht]
  partStop_of_op hop := by simp [productStop, hop]
  saved_le := by decide

theorem products :
    Chain productOp? readSigned readProduct readProductTail signedStop productStop 1 where
  whole_succ _ _ := rfl
  tail_nil _ _ := rfl
  tail_stop _ _ _ ht := by rw [readProductTail, productOp?_of_stop ht]
  tail_op _ _ _ hop := by
    rw [readProductTail, hop]
    rfl
  partStop_of_stop ht := by simp [signedStop, ht]
  partStop_of_op hop := by simp [signedStop, hop]
  saved_le := by decide

abbrev ReadsSigned (tokens : List Token) (e : Expr) : Prop :=
  Reads readSigned 2 signedStop tokens e

theorem readCalls_of_stops {fuel : Nat} {rest : List Token} (hrest : Stops signedStop rest) :
    readCalls (fuel + 1) e rest = some (e, rest) := by
  rw [readCalls.eq_def]
  split
  · contradiction
  · cases hrest .opening rfl
  · cases hrest .opening rfl
  · rfl

/-- `readSigned` of an operand without signs, where `signedStop` holds of what follows. -/
theorem readSigned_of_operand {fuel : Nat} {rest : List Token} (ht : t ≠ .plus) (ht' : t ≠ .minus)
    (h : readOperand fuel (t :: tokens) = some (e, rest)) (hrest : Stops signedStop rest) :
    readSigned (fuel + 1) (t :: tokens) = some (e, rest) := by
  rw [readSigned.eq_def]
  split
  · contradiction
  · rename_i heq
    cases heq
    exact absurd rfl ht
  · rename_i heq
    cases heq
    exact absurd rfl ht'
  · rename_i hfuel _ _
    cases hfuel
    rw [h]
    cases rest with
    | nil => rfl
    | cons t' rest =>
      have ht' := hrest t' rfl
      cases t' <;> first | rfl | cases ht'

theorem readsSigned_numeral (value : Value) : ReadsSigned [.numeral value] (.literal value) := by
  intro fuel rest hfuel hrest
  rw [List.length_singleton] at hfuel
  obtain ⟨fuel, rfl⟩ := Nat.exists_eq_add_of_le' (show 3 ≤ fuel by omega)
  exact readSigned_of_operand nofun nofun (readCalls_of_stops hrest) hrest

theorem ReadsSigned.plus (h : ReadsSigned tokens e) : ReadsSigned (.plus :: tokens) (.plus e) := by
  intro fuel rest hfuel hrest
  rw [List.length_cons] at hfuel
  obtain ⟨fuel, rfl⟩ := Nat.exists_eq_succ_of_ne_zero (show fuel ≠ 0 by omega)
  rw [List.cons_append, readSigned, h fuel rest (by omega) hrest]
  rfl

theorem ReadsSigned.minus (h : ReadsSigned tokens e) :
    ReadsSigned (.minus :: tokens) (.minus e) := by
  intro fuel rest hfuel hrest
  rw [List.length_cons] at hfuel
  obtain ⟨fuel, rfl⟩ := Nat.exists_eq_succ_of_ne_zero (show fuel ≠ 0 by omega)
  rw [List.cons_append, readSigned, h fuel rest (by omega) hrest]
  rfl

/-- Parentheses make a signed operand of what `readSum` takes. -/
theorem readsSigned_enclosed (h : Reads readSum 0 sumStop tokens e)
    (hhead : ∃ t ∈ tokens.head?, t ≠ .closing) :
    ReadsSigned (.opening :: (tokens ++ [.closing])) e := by
  intro fuel rest hfuel hrest
  rw [List.length_cons, List.length_append, List.length_singleton] at hfuel
  obtain ⟨fuel, rfl⟩ := Nat.exists_eq_add_of_le' (show 3 ≤ fuel by omega)
  -- The sum inside ends at the closing parenthesis.
  have hinner : readSum (fuel + 1) (tokens ++ .closing :: rest) = some (e, .closing :: rest) :=
    h _ _ (by omega) fun t ht => by
      cases ht
      rfl
  have houter : readOperand (fuel + 2) (.opening :: (tokens ++ .closing :: rest)) =
      some (e, rest) := by
    obtain ⟨t, ht, hclosing⟩ := hhead
    obtain ⟨others, rfl⟩ := List.head?_eq_some_iff.1 ht
    rw [readOperand]
    · rw [hinner]
      exact readCalls_of_stops hrest
    · intro _ heq
      cases heq
      exact hclosing rfl
  rw [List.cons_append, List.append_assoc]
  exact readSigned_of_operand nofun nofun houter hrest

theorem ofTokens?_of_reads (h : Reads readSum 0 sumStop tokens e) :
    Expr.ofTokens? tokens = some e := by
  have hread := h (8 * (tokens.length + 1)) [] (by omega) nofun
  rw [List.append_nil] at hread
  rw [Expr.ofTokens?, hread]

end Arithmetic

end OverlayShell
