import Mathlib.Tactic.Common
import OverlayShell.Proofs.AliasUse
import OverlayShell.Proofs.Spacing

/-!
# Calculations as they are typed

The command `calc` evaluates what is typed behind it without the blanks. That tells the value of
what was typed, if there is one. What was typed but is no expression may still become one without
its blanks, and then a value is told where there is none.
-/

namespace OverlayShell

open Text Arithmetic

/-! ## 1. The words of a text -/

namespace Text

theorem toList_join_empty (parts : List String) :
    (join "" parts).toList = parts.flatMap String.toList := by
  induction parts with
  | nil => rfl
  | cons first rest ih =>
    cases rest with
    | nil => exact (List.append_nil _).symm
    | cons second others =>
      rw [join_cons_cons, String.toList_append, String.toList_append, ih, String.toList_empty,
        List.append_nil]
      rfl

theorem flatten_piecesBy (p : Char → Bool) (cs : List Char) :
    (piecesBy p cs).flatten = cs.filter (!p ·) := by
  induction cs with
  | nil => rfl
  | cons c cs ih =>
    rw [piecesBy]
    split
    · rename_i hc
      rw [List.flatten_cons, ih, List.filter_cons_of_neg (by simp [hc])]
      rfl
    · rename_i hc
      obtain ⟨first, rest, hsplit⟩ := List.exists_cons_of_ne_nil (piecesBy_ne_nil p cs)
      rw [hsplit] at ih ⊢
      rw [List.filter_cons_of_pos (by simp [hc]), ← ih]
      rfl

theorem join_words (text : String) : join "" (words text) = squeezed text := by
  rw [← String.toList_inj, toList_join_empty, words, squeezed, String.toList_ofList,
    ← flatten_piecesBy, List.flatMap_map]
  induction piecesBy isBlank text.toList with
  | nil => rfl
  | cons piece rest ih => cases piece <;> simpa using ih

end Text

/-! ## 2. The line that answers -/

namespace Session

variable {s : Session} {e : String}

/-- The line that `calc` answers with: the value, or why there is none. -/
def told : Except Refusal Value → Line
  | .ok value => .success ("= " ++ bold value.display)
  | .error r => .error r.message

theorem told_eq_success {result : Except Refusal Value} {text : String} :
    told result = .success ("= " ++ bold text) ↔ ∃ v, result = .ok v ∧ v.display = text := by
  cases result with
  | error r => exact iff_of_false nofun nofun
  | ok v =>
    simp only [told, Line.success, Line.mk.injEq, true_and, bold, paint, String.append_right_inj,
      String.append_left_inj, Except.ok.injEq, exists_eq_left']

theorem told_eq_error {result : Except Refusal Value} :
    (∃ message, told result = .error message) ↔ ∃ r, result = .error r := by
  cases result with
  | error r => exact iff_of_true ⟨_, rfl⟩ ⟨r, rfl⟩
  | ok v => exact iff_of_false nofun nofun

theorem squeezed_ne_empty (h : isBlankText e = false) : (squeezed e).isEmpty = false := by
  obtain ⟨c, hc, hblank⟩ := List.all_eq_false.1 h
  have hmem : c ∈ (squeezed e).toList := by
    rw [squeezed, String.toList_ofList]
    exact List.mem_filter.2 ⟨hc, by simpa using hblank⟩
  rw [Bool.eq_false_iff]
  intro hempty
  rw [String.isEmpty_iff.1 hempty] at hmem
  cases hmem

theorem calculate_eq (s : Session) (h : isBlankText e = false) :
    s.calculate (words e) =
      (s, (Arithmetic.evaluate (squeezed e)).mapError refusedCalculation >>= fun value =>
        .ok [.success ("= " ++ bold value.display)]) := by
  rw [calculate, join_words, squeezed_ne_empty h]
  rfl

/-- `run` of the command that calculates. -/
theorem run_calc {name : String} (hfound : s.table.get? name = some Core.calculate.command)
    (h : isBlankText e = false) :
    (s.run name (words e)).2 = [told (Arithmetic.evaluate (squeezed e))] := by
  have hact (u : Session) : u.act (words e) (.core .calculate) =
      (u, (Arithmetic.evaluate (squeezed e)).mapError refusedCalculation >>= fun value =>
        .ok (some [.success ("= " ++ bold value.display)])) := by
    rw [act, perform, calculate_eq u h]
    cases Arithmetic.evaluate (squeezed e) <;> rfl
  rw [run, hfound]
  dsimp only [Core.command]
  rw [hact]
  cases Arithmetic.evaluate (squeezed e) <;> rfl

/-- **The command evaluates what is typed, without the blanks** (`squeezed`), and tells what comes
of it. -/
theorem execute_calc (hcalc : s.aliases.get? "calc" = none) (h : isBlankText e = false) :
    (s.execute ("calc " ++ e)).2 = [told (Arithmetic.evaluate (squeezed e))] := by
  have hline : "calc " ++ e = Core.calculate.name ++ " " ++ e := by
    rw [String.append_assoc, ← String.append_assoc]
    rfl
  have hdispatch : s.dispatch? ("calc " ++ e) = some (Core.calculate.command, words e) := by
    rw [hline]
    exact dispatch?_core hcalc rfl e
  obtain ⟨name, hname, hexecute⟩ := execute_of_dispatch? hdispatch
  rw [hexecute, concluded_lines]
  exact run_calc (by rw [prepared_table, hname]) h

/-! ## 3. What is typed -/

/-- `evaluate` of an expression is the same without its blanks, by `ofText?_squeezed`. -/
theorem evaluate_squeezed {tree : Expr} (hchars : isArithmeticText e = true)
    (h : isBlankText e = false) (htree : Expr.ofText? e = some tree) :
    Arithmetic.evaluate (squeezed e) = Arithmetic.evaluate e := by
  have hsqueezed : isArithmeticText (squeezed e) = true := by
    simp only [isArithmeticText, Bool.and_eq_true, List.all_eq_true] at hchars ⊢
    refine ⟨by simp [squeezed_ne_empty h], fun c hc => hchars.2 c ?_⟩
    rw [squeezed, String.toList_ofList] at hc
    exact (List.mem_filter.1 hc).1
  rw [Arithmetic.evaluate, Arithmetic.evaluate, hsqueezed, hchars, ofText?_squeezed htree, htree]

/-- The line `calc e` is answered with the value that `evaluate e` has, and with an error iff it has
none. -/
structure AnswersAsTyped (s : Session) (e : String) : Prop where
  value (text : String) : (s.execute ("calc " ++ e)).2 = [.success ("= " ++ bold text)] ↔
    ∃ v, Arithmetic.evaluate e = .ok v ∧ v.display = text
  error : (∃ message, (s.execute ("calc " ++ e)).2 = [.error message]) ↔
    ∃ r, Arithmetic.evaluate e = .error r

theorem answersAsTyped_iff_evaluate (hcalc : s.aliases.get? "calc" = none)
    (h : isBlankText e = false) :
    s.AnswersAsTyped e ↔
      (∀ text, (∃ v, Arithmetic.evaluate (squeezed e) = .ok v ∧ v.display = text) ↔
        ∃ v, Arithmetic.evaluate e = .ok v ∧ v.display = text) ∧
      ((∃ r, Arithmetic.evaluate (squeezed e) = .error r) ↔
        ∃ r, Arithmetic.evaluate e = .error r) := by
  have hvalue (text : String) : (s.execute ("calc " ++ e)).2 = [.success ("= " ++ bold text)] ↔
      ∃ v, Arithmetic.evaluate (squeezed e) = .ok v ∧ v.display = text := by
    rw [execute_calc hcalc h, List.singleton_inj, told_eq_success]
  have herror : (∃ message, (s.execute ("calc " ++ e)).2 = [.error message]) ↔
      ∃ r, Arithmetic.evaluate (squeezed e) = .error r := by
    simp only [execute_calc hcalc h, List.singleton_inj, told_eq_error]
  refine ⟨fun ⟨value, error⟩ => ⟨fun text => ?_, ?_⟩, fun ⟨value, error⟩ => ⟨fun text => ?_, ?_⟩⟩
  · rw [← hvalue, value]
  · rw [← herror, error]
  · rw [hvalue, value]
  · rw [herror, error]

/-- **Calculating what is typed.** `execute` answers `calc e` with what `evaluate` makes of the
`squeezed` text. It `AnswersAsTyped`, unless `e` is no expression and becomes one that has a value
only without its blanks. -/
theorem calc_answers_iff (hcalc : s.aliases.get? "calc" = none)
    (hchars : isArithmeticText e = true) (h : isBlankText e = false) :
    (s.execute ("calc " ++ e)).2 = [told (Arithmetic.evaluate (squeezed e))] ∧
      (s.AnswersAsTyped e ↔
        ¬ (Expr.ofText? e = none ∧ ∃ v, Arithmetic.evaluate (squeezed e) = .ok v)) := by
  refine ⟨execute_calc hcalc h, ?_⟩
  rw [answersAsTyped_iff_evaluate hcalc h]
  cases htree : Expr.ofText? e with
  | some tree =>
    -- -- An expression has the same tree without its blanks, so both texts have one value.
    rw [evaluate_squeezed hchars h htree]
    exact iff_of_true ⟨fun _ => Iff.rfl, Iff.rfl⟩ nofun
  | none =>
    -- -- What is typed is refused as it stands, so only a value of the squeezed text makes a
    -- difference.
    have hinvalid : Arithmetic.evaluate e = .error .invalid := by
      rw [Arithmetic.evaluate, hchars, htree]
      rfl
    rw [hinvalid]
    cases Arithmetic.evaluate (squeezed e) with
    | error r => exact iff_of_true ⟨fun _ => by simp, by simp⟩ (by simp)
    | ok v => exact iff_of_false (fun hsame => by simpa using hsame.2) (by simp)

/-- A sum is answered as it is typed. -/
theorem calc_answers_sum : (standard [] 0).AnswersAsTyped "1 +\t2" := by
  have hread : (Expr.ofText? "1 +\t2").isSome = true := by decide +kernel
  obtain ⟨-, hiff⟩ := calc_answers_iff (s := standard [] 0) (e := "1 +\t2") (by decide +kernel)
    (by decide +kernel) (by decide +kernel)
  exact hiff.2 fun hnone => by simp [hnone.1] at hread

/-- The line `calc 1 2` is answered with the value 12, although `1 2` is no expression. -/
theorem calc_joins_numerals :
    isArithmeticText "1 2" = true ∧ isBlankText "1 2" = false ∧
      Arithmetic.evaluate "1 2" = .error .invalid ∧
      ((standard [] 0).execute "calc 1 2").2 = [.success ("= " ++ bold "12")] ∧
      ¬ (standard [] 0).AnswersAsTyped "1 2" := by
  have hchars : isArithmeticText "1 2" = true := by decide +kernel
  have hinvalid : Arithmetic.evaluate "1 2" = .error .invalid := by
    have hread : Expr.ofText? "1 2" = none := Option.isNone_iff_eq_none.1 (by decide +kernel)
    rw [Arithmetic.evaluate, hchars, hread]
    rfl
  have hanswer : ((standard [] 0).execute "calc 1 2").2 = [.success ("= " ++ bold "12")] := by
    decide +kernel
  refine ⟨hchars, by decide +kernel, hinvalid, hanswer, fun htyped => ?_⟩
  obtain ⟨v, hv, -⟩ := (htyped.value "12").1 hanswer
  rw [hinvalid] at hv
  cases hv

end Session

end OverlayShell
