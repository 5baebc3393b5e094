import Mathlib.Tactic.Common
import OverlayShell.Arithmetic.Token

/-!
# Numerals

The decimal text of a natural number is read as the numeral of that number.
-/

namespace OverlayShell

namespace Arithmetic

open Text Number

variable {c : Char} {d n fuel : Nat} {digits : List Char}

/-! ## 1. Digits -/

theorem digitChar_facts :
    ∀ d < 10, isAsciiDigit (digitChar d) = true ∧ (digitChar d).toNat - 0x30 = d := by
  decide

theorem digitsOnto_eq_append (fuel n : Nat) (rest : List Char) :
    digitsOnto fuel n rest = digitsOnto fuel n [] ++ rest := by
  induction fuel generalizing n rest with
  | zero => rfl
  | succ fuel ih =>
    simp only [digitsOnto]
    split
    · rfl
    · rw [ih (n / 10) (digitChar (n % 10) :: rest), ih (n / 10) [digitChar (n % 10)],
        List.append_assoc]
      rfl

theorem digitsOnto_succ (fuel n : Nat) :
    digitsOnto (fuel + 1) n [] =
      (if n < 10 then [] else digitsOnto fuel (n / 10) []) ++ [digitChar (n % 10)] := by
  rw [digitsOnto]
  split
  · rw [Nat.mod_eq_of_lt (by assumption)]
    rfl
  · exact digitsOnto_eq_append ..

theorem digitsNumber_concat (digits : List Char) (h : d < 10) :
    digitsNumber (digits ++ [digitChar d]) = 10 * digitsNumber digits + d := by
  rw [digitsNumber, ofDigits, List.map_append, List.foldl_append]
  show 10 * _ + ((digitChar d).toNat - 0x30) = _
  rw [(digitChar_facts d h).2]
  rfl

/-- The digits that `natText` writes for `n`, as the tokenizer needs them. -/
structure DigitsOf (n : Nat) (digits : List Char) : Prop where
  ascii : ∀ c ∈ digits, isAsciiDigit c = true
  number : digitsNumber digits = n
  nonempty : digits ≠ []
  leading : digits.head? = some '0' → digits = ['0']

theorem digitsOf_digitChar (h : d < 10) : DigitsOf d [digitChar d] := by
  obtain ⟨hascii, hvalue⟩ := digitChar_facts d h
  refine ⟨?_, ?_, by simp, fun hhead => ?_⟩
  · simpa using hascii
  · simp [digitsNumber, ofDigits, hvalue]
  · simpa using hhead

/-- `DigitsOf` with one more digit behind those of a number that is not zero. -/
theorem DigitsOf.concat (hdigits : DigitsOf n digits) (hn : n ≠ 0) (h : d < 10) :
    -- -- A number that is not zero cannot be written as the one digit `0`, so no zero leads.
    DigitsOf (10 * n + d) (digits ++ [digitChar d]) := by
  obtain ⟨ascii, number, nonempty, leading⟩ := hdigits
  refine ⟨fun c hc => ?_, ?_, by simp, fun hhead => ?_⟩
  · rcases List.mem_append.1 hc with hc | hc
    · exact ascii c hc
    · rw [List.mem_singleton.1 hc]
      exact (digitChar_facts d h).1
  · rw [digitsNumber_concat _ h, number]
  · rw [List.head?_append, Option.or_of_isSome (by simpa using nonempty)] at hhead
    rw [leading hhead] at number
    exact absurd number.symm hn

theorem digitsOf_digitsOnto (h : n < tenPow (fuel + 1)) :
    DigitsOf n (digitsOnto (fuel + 1) n []) := by
  induction fuel generalizing n with
  | zero =>
    have hlt : n < 10 := h
    rw [digitsOnto, if_pos hlt]
    exact digitsOf_digitChar hlt
  | succ fuel ih =>
    rw [digitsOnto_succ]
    -- -- The digits in front are those of `n / 10`, which is not zero here.
    have hmod : n % 10 < 10 := Nat.mod_lt _ (by omega)
    split
    · rename_i hlt
      rw [Nat.mod_eq_of_lt hlt]
      exact digitsOf_digitChar hlt
    · have hdiv : n / 10 < tenPow (fuel + 1) := by
        rw [tenPow_succ] at h
        omega
      have hconcat := (ih hdiv).concat (by omega) hmod
      rwa [Nat.div_add_mod] at hconcat

theorem twoPow_le_tenPow (k : Nat) : twoPow k ≤ tenPow k := by
  induction k with
  | zero => exact Nat.le_refl 1
  | succ k ih =>
    rw [twoPow_succ, tenPow_succ]
    omega

theorem digitsOf_natText (n : Nat) : DigitsOf n (natText n).toList := by
  have hbits : n < twoPow (n.log2 + 1) := Nat.lt_log2_self
  rw [natText, String.toList_ofList]
  exact digitsOf_digitsOnto (Nat.lt_of_lt_of_le hbits (twoPow_le_tenPow _))

/-! ## 2. Reading a numeral -/

theorem integerValue?_natText (h : (natText n).length ≤ integerDigitLimit) :
    integerValue? (natText n).toList = some (.int n) := by
  obtain ⟨-, number, nonempty, leading⟩ := digitsOf_natText n
  rw [integerValue?]
  split
  · rename_i hzeros
    -- -- Zeros alone are the one `0`, since no zero leads.
    obtain ⟨c, digits, hdigits⟩ := List.exists_cons_of_ne_nil nonempty
    rw [hdigits] at hzeros leading number
    have hc : c = '0' := by simpa using (List.all_eq_true.1 hzeros) c (by simp)
    rw [leading (by rw [hc]; rfl)] at number
    have hn : n = 0 := number.symm
    rw [hn]
    rfl
  · rename_i hzeros
    have hhead : (natText n).toList.head? ≠ some '0' := fun hhead =>
      hzeros (by rw [leading hhead]; rfl)
    have hlength : ¬ (natText n).toList.length > integerDigitLimit := Nat.not_lt.2 h
    rw [if_neg (by simp [hhead, hlength]), number]

end Arithmetic

end OverlayShell
