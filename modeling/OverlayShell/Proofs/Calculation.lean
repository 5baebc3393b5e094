import Mathlib.Tactic.Common
import Mathlib.Tactic.IntervalCases
import OverlayShell.Proofs.Precedence
import OverlayShell.Proofs.Spelling
import OverlayShell.Session.Tools

/-!
# Calculations with whole numbers

Numbers, signs and the four operators on whole numbers, written down with no parentheses but those
that precedence requires, are calculated exactly, as long as nothing is divided by zero and no
number and no result of an operator is larger than the limit. Otherwise the text is refused.
-/

namespace OverlayShell

namespace Arithmetic

open Text

/-! ## 1. Calculations -/

inductive WholeOp where
  | add
  | sub
  | mul
  | floorDiv
  deriving DecidableEq

namespace WholeOp

def op : WholeOp → BinaryOp
  | add => .add
  | sub => .sub
  | mul => .mul
  | floorDiv => .floorDiv

def token : WholeOp → Token
  | add => .plus
  | sub => .minus
  | mul => .star
  | floorDiv => .doubleSlash

def strength : WholeOp → Nat
  | add => 0
  | sub => 0
  | mul => 1
  | floorDiv => 1

/-- The exact result. A quotient is rounded down, as by `Int.fdiv`. -/
def result : WholeOp → Int → Int → Int
  | add, a, b => a + b
  | sub, a, b => a - b
  | mul, a, b => a * b
  | floorDiv, a, b => Int.fdiv a b

end WholeOp

inductive Calculation where
  | numeral (n : Nat)
  | plus (operand : Calculation)
  | minus (operand : Calculation)
  | binary (op : WholeOp) (left right : Calculation)

namespace Calculation

def strength : Calculation → Nat
  | binary op _ _ => op.strength
  | _ => 2

/-- The `tokens` of an operand, in parentheses where it would not bind tightly enough without. -/
def enclosed (needed : Bool) (tokens : List Token) : List Token :=
  if needed then .opening :: (tokens ++ [.closing]) else tokens

/-- The tokens of a calculation. Operators of the same `strength` associate to the left. -/
def tokens : Calculation → List Token
  | numeral n => [.numeral (.int n)]
  | plus e => .plus :: enclosed (e.strength < 2) e.tokens
  | minus e => .minus :: enclosed (e.strength < 2) e.tokens
  | binary op l r =>
    enclosed (l.strength < op.strength) l.tokens ++
      op.token :: enclosed (r.strength < op.strength + 1) r.tokens

def nesting : Calculation → Nat
  | numeral _ => 0
  | plus e => e.nesting + (decide (e.strength < 2)).toNat
  | minus e => e.nesting + (decide (e.strength < 2)).toNat
  | binary op l r =>
    max (l.nesting + (decide (l.strength < op.strength)).toNat)
      (r.nesting + (decide (r.strength < op.strength + 1)).toNat)

def expr : Calculation → Expr
  | numeral n => .literal (.int n)
  | plus e => .plus e.expr
  | minus e => .minus e.expr
  | binary op l r => .binary op.op l.expr r.expr

def value : Calculation → Int
  | numeral n => n
  | plus e => e.value
  | minus e => -e.value
  | binary op l r => op.result l.value r.value

/-- No number has more than `integerDigitLimit` digits. -/
def IsShort : Calculation → Prop
  | numeral n => (natText n).length ≤ integerDigitLimit
  | plus e => e.IsShort
  | minus e => e.IsShort
  | binary _ l r => l.IsShort ∧ r.IsShort

/-- Nothing is divided by zero, and no number and no result of an operator is beyond
`Value.sizeLimit`. -/
def Fits : Calculation → Prop
  | numeral n => n ≤ Value.sizeLimit
  | plus e => e.Fits
  | minus e => e.Fits
  | binary op l r =>
    l.Fits ∧ r.Fits ∧ ¬ (op = .floorDiv ∧ r.value = 0) ∧
      (op.result l.value r.value).natAbs ≤ Value.sizeLimit

instance IsShort.decidable : (c : Calculation) → Decidable c.IsShort
  | numeral n => inferInstanceAs (Decidable ((natText n).length ≤ integerDigitLimit))
  | plus e => IsShort.decidable e
  | minus e => IsShort.decidable e
  | binary _ l r =>
    have := IsShort.decidable l
    have := IsShort.decidable r
    inferInstanceAs (Decidable (_ ∧ _))

instance Fits.decidable : (c : Calculation) → Decidable c.Fits
  | numeral n => inferInstanceAs (Decidable (n ≤ Value.sizeLimit))
  | plus e => Fits.decidable e
  | minus e => Fits.decidable e
  | binary _ l r =>
    have := Fits.decidable l
    have := Fits.decidable r
    inferInstanceAs (Decidable (_ ∧ _ ∧ ¬ (_ ∧ _) ∧ _ ≤ _))

-- The limit is the floating-point number nearest to `10 ^ 308`, and that is a whole number.
example : Number.fractionBits Value.sizeLimit 1 = Number.fractionBits (Number.tenPow 308) 1 ∧
    Number.roundHalfEven (Number.tenPow 308) (Number.twoPow 971) * Number.twoPow 971 =
      Value.sizeLimit := by
  decide +kernel

/-- `text` is made of the tokens of `c`, with gaps in front of them and blanks around the whole. -/
def IsWrittenAs (c : Calculation) (text : String) : Prop :=
  ∃ before row behind, text = String.ofList (before ++ spelled row ++ behind) ∧
    row.map (·.2) = c.tokens ∧ Spaced 0 row ∧
      (∀ blank ∈ before, isBlank blank = true) ∧ ∀ blank ∈ behind, isBlank blank = true

variable {c : Calculation} {depth : Nat}

/-! ## 2. Tokens -/

theorem exists_mem_head?_enclosed {tokens : List Token} (needed : Bool)
    (h : ∃ t ∈ tokens.head?, t ≠ .closing) :
    ∃ t ∈ (enclosed needed tokens).head?, t ≠ .closing := by
  cases needed with
  | false => exact h
  | true => exact ⟨.opening, rfl, nofun⟩

theorem exists_mem_head? (c : Calculation) : ∃ t ∈ c.tokens.head?, t ≠ .closing := by
  induction c with
  | numeral n => exact ⟨.numeral (.int n), rfl, nofun⟩
  | plus e _ => exact ⟨.plus, rfl, nofun⟩
  | minus e _ => exact ⟨.minus, rfl, nofun⟩
  | binary op l r ihl _ =>
    obtain ⟨t, ht, hclosing⟩ := exists_mem_head?_enclosed (l.strength < op.strength) ihl
    refine ⟨t, ?_, hclosing⟩
    rw [tokens, List.head?_append, Option.mem_def.1 ht]
    rfl

theorem isWhole_of_mem_enclosed {tokens : List Token} {needed : Bool}
    (h : ∀ t ∈ tokens, t.IsWhole) : ∀ t ∈ enclosed needed tokens, t.IsWhole := by
  cases needed with
  | false => exact h
  | true =>
    intro t ht
    simp only [enclosed, if_true, List.mem_cons, List.mem_append, List.not_mem_nil, or_false] at ht
    rcases ht with rfl | ht | rfl
    · trivial
    · exact h t ht
    · trivial

theorem isWhole_token (op : WholeOp) : op.token.IsWhole := by
  cases op <;> trivial

theorem IsShort.isWhole (h : c.IsShort) : ∀ t ∈ c.tokens, t.IsWhole := by
  induction c with
  | numeral n =>
    intro t ht
    rw [List.mem_singleton.1 ht]
    exact ⟨n, rfl, h⟩
  | plus e ih =>
    exact List.forall_mem_cons.2 ⟨trivial, isWhole_of_mem_enclosed (ih h)⟩
  | minus e ih =>
    exact List.forall_mem_cons.2 ⟨trivial, isWhole_of_mem_enclosed (ih h)⟩
  | binary op l r ihl ihr =>
    refine List.forall_mem_append.2 ⟨isWhole_of_mem_enclosed (ihl h.1), ?_⟩
    exact List.forall_mem_cons.2 ⟨isWhole_token op, isWhole_of_mem_enclosed (ihr h.2)⟩

theorem depthAlong?_append (depth : Nat) (tokens rest : List Token) :
    depthAlong? depth (tokens ++ rest) = (depthAlong? depth tokens).bind (depthAlong? · rest) :=
  List.foldlM_append ..

theorem depthAlong?_enclosed {tokens : List Token} {nesting : Nat} {needed : Bool}
    (h : ∀ depth, depth + nesting ≤ nestingLimit → depthAlong? depth tokens = some depth)
    (hdepth : depth + (nesting + needed.toNat) ≤ nestingLimit) :
    depthAlong? depth (enclosed needed tokens) = some depth := by
  cases needed with
  | false => exact h depth hdepth
  | true =>
    have hopening : Token.deepens? depth .opening = some (depth + 1) := by
      rw [Token.deepens?, if_pos]
      exact Nat.lt_of_lt_of_le (by simp) hdepth
    refine depthAlong?_cons_eq_some.2 ⟨depth + 1, hopening, ?_⟩
    rw [depthAlong?_append, h (depth + 1) (by simpa [Nat.add_comm, Nat.add_left_comm] using hdepth)]
    rfl

theorem deepens?_token (op : WholeOp) (depth : Nat) : op.token.deepens? depth = some depth := by
  cases op <;> rfl

theorem depthAlong?_tokens (h : depth + c.nesting ≤ nestingLimit) :
    depthAlong? depth c.tokens = some depth := by
  induction c generalizing depth with
  | numeral n => rfl
  | plus e ih =>
    exact depthAlong?_cons_eq_some.2 ⟨depth, rfl, depthAlong?_enclosed (fun _ => ih) h⟩
  | minus e ih =>
    exact depthAlong?_cons_eq_some.2 ⟨depth, rfl, depthAlong?_enclosed (fun _ => ih) h⟩
  | binary op l r ihl ihr =>
    rw [nesting] at h
    rw [tokens, depthAlong?_append, depthAlong?_enclosed (fun _ => ihl) (by omega)]
    exact depthAlong?_cons_eq_some.2
      ⟨depth, deepens?_token op depth, depthAlong?_enclosed (fun _ => ihr) (by omega)⟩

/-! ## 3. Reading -/

/-- The tokens are read as `e` where something of a strength is expected. -/
def ReadsAt : Nat → List Token → Expr → Prop
  | 0, tokens, e => sums.Leads tokens e
  | 1, tokens, e => products.Leads tokens e
  | _, tokens, e => ReadsSigned tokens e

theorem strength_le (c : Calculation) : c.strength ≤ 2 := by
  cases c with
  | binary op _ _ =>
    have hop : op.strength ≤ 2 := by cases op <;> decide
    exact hop
  | _ => exact Nat.le_refl 2

/-- `ReadsAt` a strength goes down to any lesser one: a signed operand is read as a product, and a
product as a sum. -/
theorem ReadsAt.mono {tokens : List Token} {e : Expr} {strength least : Nat}
    (h : ReadsAt strength tokens e) (hle : least ≤ strength) (hstrength : strength ≤ 2) :
    ReadsAt least tokens e := by
  have hproduct (h : ReadsAt 2 tokens e) : ReadsAt 1 tokens e := products.leads_of_part h
  have hsum (h : ReadsAt 1 tokens e) : ReadsAt 0 tokens e := by
    have hleads : products.Leads tokens e := h
    exact sums.leads_of_part hleads.reads
  interval_cases strength <;> interval_cases least
  · exact h
  · exact hsum h
  · exact h
  · exact hsum (hproduct h)
  · exact hproduct h
  · exact h

theorem reads_of_readsAt {tokens : List Token} {e : Expr} (h : ReadsAt 0 tokens e) :
    Reads readSum 0 sumStop tokens e := by
  have hleads : sums.Leads tokens e := h
  exact hleads.reads

/-- An operand is read where it stands, since it is `enclosed` if it does not bind tightly
enough. -/
theorem readsAt_enclosed {least : Nat} (h : ReadsAt c.strength c.tokens c.expr)
    (hleast : least ≤ 2) : ReadsAt least (enclosed (c.strength < least) c.tokens) c.expr := by
  rw [enclosed]
  split
  · have hsum := reads_of_readsAt (h.mono (Nat.zero_le _) c.strength_le)
    have hsigned : ReadsAt 2 _ c.expr := readsSigned_enclosed hsum c.exists_mem_head?
    exact hsigned.mono hleast (Nat.le_refl 2)
  · rename_i hle
    exact h.mono (by simpa using hle) c.strength_le

/-- **The tokens of a calculation are read as its expression** `c.expr`. -/
theorem readsAt_tokens (c : Calculation) : ReadsAt c.strength c.tokens c.expr := by
  induction c with
  | numeral n => exact readsSigned_numeral _
  | plus e ih => exact ReadsSigned.plus (readsAt_enclosed ih (Nat.le_refl 2))
  | minus e ih => exact ReadsSigned.minus (readsAt_enclosed ih (Nat.le_refl 2))
  | binary op l r ihl ihr =>
    have hleft {least : Nat} (hleast : least ≤ 2) := readsAt_enclosed ihl hleast
    have hright {least : Nat} (hleast : least ≤ 2) := readsAt_enclosed ihr hleast
    have hsum : sums.Leads _ l.expr := hleft (Nat.zero_le 2)
    have hproduct : products.Leads _ l.expr := hleft (Nat.le_succ 1)
    have hpart : products.Leads _ r.expr := hright (Nat.le_succ 1)
    have hsigned : ReadsSigned _ r.expr := hright (Nat.le_refl 2)
    cases op with
    | add => exact hsum.binary rfl hpart.reads
    | sub => exact hsum.binary rfl hpart.reads
    | mul => exact hproduct.binary rfl hsigned
    | floorDiv => exact hproduct.binary rfl hsigned

theorem ofTokens?_tokens (c : Calculation) : Expr.ofTokens? c.tokens = some c.expr :=
  ofTokens?_of_reads (reads_of_readsAt (c.readsAt_tokens.mono (Nat.zero_le _) c.strength_le))

/-! ## 4. Calculating -/

theorem apply_int (op : WholeOp) (a b : Int) :
    op.op.apply (.int a) (.int b) =
      if op = .floorDiv ∧ b = 0 then .error (.fault .wholeQuotientByZero)
      else checked (.int (op.result a b)) := by
  cases op with
  | floorDiv =>
    by_cases hb : b = 0 <;>
      simp [WholeOp.op, BinaryOp.apply, Value.floorDiv, WholeOp.result, hb, Except.mapError, bind,
        Except.bind]
  | _ =>
    rw [if_neg (by simp)]
    rfl

theorem checked_of_le {n : Int} (h : n.natAbs ≤ Value.sizeLimit) :
    checked (.int n) = .ok (.int n) :=
  if_neg (by simpa [Value.isTooLarge] using h)

theorem checked_of_gt {n : Int} (h : ¬ n.natAbs ≤ Value.sizeLimit) :
    checked (.int n) = .error .resultTooLarge :=
  if_pos (by simpa [Value.isTooLarge] using h)

theorem eval_expr (h : c.Fits) : c.expr.eval = .ok (.int c.value) := by
  induction c with
  | numeral n =>
    have hsize : (n : Int).natAbs ≤ Value.sizeLimit := by rwa [Int.natAbs_natCast]
    exact checked_of_le hsize
  | plus e ih => exact ih h
  | minus e ih =>
    rw [expr, Expr.eval, ih h]
    rfl
  | binary op l r ihl ihr =>
    obtain ⟨hl, hr, hzero, hsize⟩ := h
    have happly : op.op.apply (.int l.value) (.int r.value) = .ok (.int (binary op l r).value) := by
      rw [apply_int, if_neg hzero, checked_of_le hsize]
      rfl
    rw [expr, Expr.eval, ihl hl, ihr hr]
    exact happly

theorem eval_expr_of_not_fits (h : ¬ c.Fits) : ∃ r, c.expr.eval = .error r ∧ r ≠ .foreign := by
  induction c with
  | numeral n =>
    have hsize : ¬ (n : Int).natAbs ≤ Value.sizeLimit := by rwa [Int.natAbs_natCast]
    exact ⟨_, checked_of_gt hsize, nofun⟩
  | plus e ih => exact ih h
  | minus e ih =>
    obtain ⟨r, hr, hforeign⟩ := ih h
    refine ⟨r, ?_, hforeign⟩
    rw [expr, Expr.eval, hr]
    rfl
  | binary op l r ihl ihr =>
    by_cases hl : l.Fits
    · -- Both operands have values, so the operation itself is refused, and the three ways in which
      -- that happens all differ from `foreign`.
      by_cases hr : r.Fits
      · have happly : ∃ refusal, op.op.apply (.int l.value) (.int r.value) = .error refusal ∧
            refusal ≠ .foreign := by
          rw [apply_int]
          split
          · exact ⟨_, rfl, nofun⟩
          · rename_i hzero
            exact ⟨_, checked_of_gt fun hsize => h ⟨hl, hr, hzero, hsize⟩, nofun⟩
        rw [expr, Expr.eval, eval_expr hl, eval_expr hr]
        exact happly
      · obtain ⟨refusal, hrefusal, hforeign⟩ := ihr hr
        refine ⟨refusal, ?_, hforeign⟩
        rw [expr, Expr.eval, eval_expr hl, hrefusal]
        rfl
    · -- The left operand is evaluated first, so its refusal is that of the whole.
      obtain ⟨refusal, hrefusal, hforeign⟩ := ihl hl
      refine ⟨refusal, ?_, hforeign⟩
      rw [expr, Expr.eval, hrefusal]
      rfl

theorem evaluate_eq_eval {text : String} (h : c.IsWrittenAs text) (hshort : c.IsShort)
    (hnesting : c.nesting ≤ nestingLimit) : evaluate text = c.expr.eval := by
  obtain ⟨before, row, behind, rfl, htokens, hspaced, hbefore, hbehind⟩ := h
  have hdepth : depthAlong? 0 c.tokens = some 0 :=
    depthAlong?_tokens ((Nat.zero_add c.nesting).symm ▸ hnesting)
  refine evaluate_spelled ?_ hspaced (htokens ▸ hdepth) hbefore hbehind ?_
  · exact htokens ▸ hshort.isWhole
  · exact htokens ▸ c.ofTokens?_tokens

/-- **Whole numbers are calculated exactly**, whatever the gaps: `evaluate` gives `c.value` for a
text of `c` if `c.Fits`. Otherwise the text is refused as an invalid argument. -/
theorem evaluate_calculation {text : String} (h : c.IsWrittenAs text) (hshort : c.IsShort)
    (hnesting : c.nesting ≤ nestingLimit) :
    (c.Fits → evaluate text = .ok (.int c.value)) ∧
      (¬ c.Fits → ∃ r, evaluate text = .error r ∧
        Session.refusedCalculation r = .refused .invalidArgument r.message) := by
  rw [evaluate_eq_eval h hshort hnesting]
  refine ⟨eval_expr, fun hfits => ?_⟩
  obtain ⟨r, hr, hforeign⟩ := eval_expr_of_not_fits hfits
  exact ⟨r, hr, by rw [Session.refusedCalculation, if_neg hforeign]⟩

theorem evaluate_calculation_product : evaluate "7 // -2*(1 -\n3)" = .ok (.int 8) := by
  have hwritten : IsWrittenAs (.binary .mul (.binary .floorDiv (.numeral 7) (.minus (.numeral 2)))
      (.binary .sub (.numeral 1) (.numeral 3))) "7 // -2*(1 -\n3)" :=
    ⟨[], [([], .numeral (.int 7)), ([' '], .doubleSlash), ([' '], .minus), ([], .numeral (.int 2)),
      ([], .star), ([], .opening), ([], .numeral (.int 1)), ([' '], .minus),
      (['\n'], .numeral (.int 3)), ([], .closing)], [], by decide, rfl,
      by simp [Spaced, Token.deepens?, nestingLimit, isGap, isBreak], nofun, nofun⟩
  exact (evaluate_calculation hwritten (by decide) (by decide)).1 (by decide +kernel)

end Calculation

end Arithmetic

end OverlayShell
