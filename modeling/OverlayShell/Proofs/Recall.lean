import Mathlib.Logic.Function.Iterate
import OverlayShell.Proofs.Transcript

/-!
# Recalling lines

The line that was recalled last is in the history, whatever is submitted and recalled. A line that
is submitted and not blank makes the session forget it. From there on the steps up lead from the
newest line to the oldest, where they stay; and the steps down lead back, and past the newest line
to nothing.
-/

namespace OverlayShell

namespace Session

variable {s : Session} {direction : Direction}

/-! ## 1. One step -/

/-- `s` as if the line at `place`, or none, had been recalled last. -/
def recalledAt (s : Session) (place : Option Nat) : Session := { s with recalled := place }

@[simp] theorem recalledAt_recalled (s : Session) (place : Option Nat) :
    (s.recalledAt place).recalled = place := rfl

@[simp] theorem recalledAt_history (s : Session) (place : Option Nat) :
    (s.recalledAt place).history = s.history := rfl

theorem recalledAt_self {place : Option Nat} (h : s.recalled = place) : s.recalledAt place = s := by
  rw [← h]
  rfl

/-- The session after a `recallLine`, as a function to be iterated. -/
def stepping (direction : Direction) (s : Session) : Session := (s.recallLine direction).2

theorem recallLine_of_nonempty (h : s.history ≠ []) (direction : Direction) :
    s.recallLine direction =
      (((recallPlace s.history.length s.recalled direction).bind (s.history[·]?)).getD "",
        s.recalledAt (recallPlace s.history.length s.recalled direction)) := by
  rw [recallLine, if_neg (by simpa using h)]
  rfl

theorem stepping_recalledAt (h : s.history ≠ []) (place : Option Nat) (direction : Direction) :
    stepping direction (s.recalledAt place) =
      s.recalledAt (recallPlace s.history.length place direction) := by
  rw [stepping, recallLine_of_nonempty (by simpa using h)]
  rfl

theorem recallPlace_lt {length : Nat} {place : Option Nat} (hpos : 0 < length)
    (hplace : ∀ i, place = some i → i < length) :
    ∀ i, recallPlace length place direction = some i → i < length := by
  intro i hi
  cases direction with
  | up =>
    cases place with
    | none =>
      have hlast : length - 1 = i := Option.some.inj hi
      omega
    | some j =>
      have hj := hplace j rfl
      have hbefore : j - 1 = i := Option.some.inj hi
      omega
  | down =>
    cases place with
    | none => cases hi
    | some j =>
      have hj := hplace j rfl
      simp only [recallPlace] at hi
      split at hi
      · cases hi
      · have hbehind : j + 1 = i := Option.some.inj hi
        omega

/-! ## 2. Submitting and recalling -/

/-- `recalled`, if there is one, is a place in the history. -/
def RecallsWithin (s : Session) : Prop := ∀ i, s.recalled = some i → i < s.history.length

/-- What a user does: a line is submitted, or there is a step through the history. -/
inductive Use where
  | submit (line : String)
  | walk (direction : Direction)

def use (s : Session) : Use → Session
  | .submit line => s.next line
  | .walk direction => stepping direction s

/-- `next` with a line that is not blank sets `recalled` back. -/
theorem recalled_next (s : Session) (line : String) :
    (s.next line).recalled = if (Text.trim line).isEmpty then s.recalled else none := by
  have hprepared : (s.prepared line).recalled = none := (s.quiet_prepared line).recalled
  have hproduced := (quiet_produce (s.prepared line) (Text.trim line) (s.wordsOf line)).recalled
  rw [next, execute_eq]
  cases (Text.trim line).isEmpty with
  | true => rw [if_pos rfl, if_pos rfl]
  | false =>
    rw [if_neg Bool.false_ne_true, if_neg Bool.false_ne_true]
    cases asksClear (s.wordsOf line) with
    | true =>
      rw [if_pos rfl]
      dsimp only
      exact hprepared
    | false =>
      rw [if_neg Bool.false_ne_true, concluded_recalled]
      exact hproduced.trans hprepared

theorem RecallsWithin.use (h : s.RecallsWithin) (u : Use) : (s.use u).RecallsWithin := by
  cases u with
  | submit line =>
    show (s.next line).RecallsWithin
    intro i hi
    rw [recalled_next] at hi
    rw [history_next]
    -- A blank line changes nothing, and behind any other there is no place.
    cases hblank : (Text.trim line).isEmpty with
    | true =>
      rw [hblank, if_pos rfl] at hi
      rw [if_pos rfl]
      exact h i hi
    | false =>
      rw [hblank, if_neg Bool.false_ne_true] at hi
      cases hi
  | walk direction =>
    show ((s.recallLine direction).2).RecallsWithin
    by_cases hempty : s.history = []
    · rw [recallLine, if_pos (by simpa using hempty)]
      exact h
    · rw [recallLine_of_nonempty hempty]
      exact recallPlace_lt (List.length_pos_iff.2 hempty) h

theorem recallsWithin_after (h : s.RecallsWithin) (uses : List Use) :
    (uses.foldl Session.use s).RecallsWithin := by
  induction uses generalizing s with
  | nil => exact h
  | cons u rest ih => exact ih (h.use u)

/-! ## 3. Many steps -/

/-- `k + 1` steps up lead to the line that is as many places before the end, or to the oldest. -/
theorem stepping_up (h : s.history ≠ []) (hfresh : s.recalled = none) (k : Nat) :
    (stepping .up)^[k + 1] s = s.recalledAt (some (s.history.length - (k + 1))) := by
  induction k with
  | zero =>
    have hstart : s.recalledAt none = s := recalledAt_self hfresh
    rw [Function.iterate_one, ← hstart, stepping_recalledAt (by simpa using h)]
    rfl
  | succ k ih =>
    rw [Function.iterate_succ_apply', ih, stepping_recalledAt h]
    rfl

/-- Steps down from the place `j` lead to the lines behind it, and then to none. -/
theorem stepping_down {j : Nat} (hj : j < s.history.length) (m : Nat) :
    (stepping .down)^[m] (s.recalledAt (some j)) =
      s.recalledAt (if j + m < s.history.length then some (j + m) else none) := by
  have hne : s.history ≠ [] := List.length_pos_iff.1 (by omega)
  induction m with
  | zero => rw [Function.iterate_zero_apply, Nat.add_zero, if_pos hj]
  | succ m ih =>
    rw [Function.iterate_succ_apply', ih, stepping_recalledAt hne]
    congr 1
    by_cases hin : j + m < s.history.length
    · rw [if_pos hin]
      show (if j + m = s.history.length - 1 then none else some (j + m + 1)) = _
      by_cases hlast : j + m = s.history.length - 1
      · rw [if_pos hlast, if_neg (by omega)]
      · rw [if_neg hlast, if_pos (by omega), Nat.add_assoc]
    · rw [if_neg hin, if_neg (by omega)]
      rfl

/-- `recallLine` shows the line at the place it comes to, and an empty one if it comes to none. -/
theorem recallLine_fst (h : s.history ≠ []) (direction : Direction) :
    (s.recallLine direction).1 =
      ((stepping direction s).recalled.bind (s.history[·]?)).getD "" := by
  rw [stepping, recallLine_of_nonempty h]
  rfl

/-- **Recall never leaves the history and walks it in order.** After any `uses`, `recalled` is
nothing or a place in the history. If the history is not empty and nothing has been recalled since a
line was submitted, each step up recalls the line before, from the newest to the oldest, which it
then stays at; and each step down after that recalls the line behind, up to the newest, and then an
empty line. -/
theorem recall_walks_history {first : Session} (hfirst : first.recalled = none)
    (uses : List Use) :
    let s := uses.foldl use first
    let n := s.history.length
    (∀ i, s.recalled = some i → i < n) ∧
      (0 < n → s.recalled = none → ∀ k,
        let j := n - (k + 1)
        let raised := (stepping .up)^[k + 1] s
        some (((stepping .up)^[k] s).recallLine .up).1 = s.history[j]? ∧
          raised.recalled = some j ∧
          ∀ m, (((stepping .down)^[m] raised).recallLine .down).1 =
            if j + (m + 1) < n then s.history.getD (j + (m + 1)) "" else "") := by
  intro s n
  have hwithin : first.RecallsWithin := fun i hi => by
    rw [hfirst] at hi
    cases hi
  refine ⟨recallsWithin_after hwithin uses, fun hpos hfresh k => ?_⟩
  intro j raised
  have hne : s.history ≠ [] := List.length_pos_iff.1 hpos
  have hj : j < s.history.length := by
    show s.history.length - (k + 1) < s.history.length
    omega
  -- The steps up lead to the place `j`, and leave the history as it is.
  have hraised : raised = s.recalledAt (some j) := stepping_up hne hfresh k
  have hkept : ((stepping .up)^[k] s).history = s.history := by
    cases k with
    | zero => rfl
    | succ k => rw [stepping_up hne hfresh k, recalledAt_history]
  refine ⟨?_, by rw [hraised, recalledAt_recalled], fun m => ?_⟩
  · -- The line that the next step up shows is the one at the place it leads to.
    rw [recallLine_fst (by rw [hkept]; exact hne), ← Function.iterate_succ_apply' (stepping .up)]
    show some ((raised.recalled.bind (((stepping .up)^[k] s).history[·]?)).getD "") = _
    rw [hraised, hkept, recalledAt_recalled, Option.bind_some, List.getElem?_eq_getElem hj,
      Option.getD_some]
  · -- The steps down start at `j`, from where `stepping_down` counts.
    rw [hraised, recallLine_fst (by rw [stepping_down hj, recalledAt_history]; exact hne),
      ← Function.iterate_succ_apply' (stepping .down), stepping_down hj, stepping_down hj,
      recalledAt_recalled, recalledAt_history]
    split
    · rw [Option.bind_some, List.getD_eq_getElem?_getD]
    · rfl

/-- A line that repeats the latest one does not lengthen the history, but recalling starts anew. -/
theorem recall_walks_history_repeated :
    let s := [.submit "pwd", .submit "echo x", .walk .up, .submit "echo x"].foldl use
      (standard [] 0)
    let raised := stepping .up (stepping .up s)
    s.history = ["pwd", "echo x"] ∧ s.recalled = none ∧
      (s.recallLine .up).1 = "echo x" ∧ ((stepping .up s).recallLine .up).1 = "pwd" ∧
      (raised.recallLine .up).1 = "pwd" ∧ (raised.recallLine .down).1 = "echo x" ∧
      ((stepping .down raised).recallLine .down).1 = "" := by
  intro s raised
  have hhistory : s.history = ["pwd", "echo x"] := by decide +kernel
  have hrecalled : s.recalled = none := by decide +kernel
  have hpos : 0 < s.history.length := by rw [hhistory]; decide
  have hfresh : (standard [] 0).recalled = none := rfl
  obtain ⟨-, hwalks⟩ := recall_walks_history hfresh
    [.submit "pwd", .submit "echo x", .walk .up, .submit "echo x"]
  obtain ⟨hnewest, -, -⟩ := hwalks hpos hrecalled 0
  obtain ⟨hbefore, -, hdown⟩ := hwalks hpos hrecalled 1
  obtain ⟨holdest, -, -⟩ := hwalks hpos hrecalled 2
  have hback := hdown 0
  have hnothing := hdown 1
  change some (s.recallLine .up).1 = s.history[s.history.length - 1]? at hnewest
  change some ((stepping .up s).recallLine .up).1 = s.history[s.history.length - 2]? at hbefore
  change some (raised.recallLine .up).1 = s.history[s.history.length - 3]? at holdest
  change (raised.recallLine .down).1 = if s.history.length - 2 + 1 < s.history.length then
    s.history.getD (s.history.length - 2 + 1) "" else "" at hback
  change ((stepping .down raised).recallLine .down).1 =
    if s.history.length - 2 + 2 < s.history.length then
      s.history.getD (s.history.length - 2 + 2) "" else "" at hnothing
  rw [hhistory] at hnewest hbefore holdest hback hnothing
  exact ⟨hhistory, hrecalled, Option.some.inj hnewest, Option.some.inj hbefore,
    Option.some.inj holdest, hback, hnothing⟩

end Session

end OverlayShell
