import Mathlib.Tactic.Common
import OverlayShell.Proofs.Spacing

/-!
# Spelling tokens

A row of tokens is written down with a gap in front of each. What is written is read as the tokens,
whatever the gaps are, so a text is evaluated as the expression that its tokens make.
-/

namespace OverlayShell

namespace Arithmetic

open Text

variable {t : Token} {tokens after : List Token} {c : Char}
  {cs before behind digits gap : List Char} {depth deeper : Nat} {p q : Place}
  {row : List (List Char × Token)}

/-! ## 1. Tokens as they are written -/

def Token.written : Token → List Char
  | .numeral value => value.text.toList
  | .plus => ['+']
  | .minus => ['-']
  | .star => ['*']
  | .slash => ['/']
  | .doubleStar => ['*', '*']
  | .doubleSlash => ['/', '/']
  | .opening => ['(']
  | .closing => [')']
  | .ellipsis => ['.', '.', '.']

/-- A numeral is that of a natural number which is not too long; any other token is whole. -/
def Token.IsWhole : Token → Prop
  | .numeral value => ∃ n : Nat, value = .int n ∧ (natText n).length ≤ integerDigitLimit
  | _ => True

/-- The number of open parentheses behind a token, none if it exceeds `nestingLimit` or one is
missing. -/
def Token.deepens? (depth : Nat) : Token → Option Nat
  | .opening => if depth < nestingLimit then some (depth + 1) else none
  | .closing => if depth > 0 then some (depth - 1) else none
  | _ => some depth

def depthAlong? (depth : Nat) (tokens : List Token) : Option Nat :=
  tokens.foldlM Token.deepens? depth

theorem depthAlong?_cons_eq_some :
    depthAlong? depth (t :: tokens) = some deeper ↔
      ∃ inside, t.deepens? depth = some inside ∧ depthAlong? inside tokens = some deeper := by
  rw [depthAlong?, List.foldlM_cons]
  exact Option.bind_eq_some_iff

/-- The text of a `row` of tokens, each with the gap in front of it. -/
def spelled (row : List (List Char × Token)) : List Char :=
  row.flatMap fun (gap, t) => gap ++ t.written

theorem spelled_cons (gap : List Char) (t : Token) (row : List (List Char × Token)) :
    spelled ((gap, t) :: row) = gap ++ (t.written ++ spelled row) :=
  List.append_assoc ..

/-- The gaps of a row are made of spaces and the like, and of line breaks where parentheses are
open. -/
def Spaced : Nat → List (List Char × Token) → Prop
  | _, [] => True
  | depth, (gap, t) :: row =>
    (∀ c ∈ gap, isGap c = true ∨ isBreak c = true ∧ 0 < depth) ∧
      ∀ deeper ∈ t.deepens? depth, Spaced deeper row

/-! ## 2. Reading -/

theorem tokensAfter_gap (h : ∀ c ∈ gap, isGap c = true ∨ isBreak c = true ∧ 0 < depth)
    (cs : List Char) : tokensAfter .nothing depth (gap ++ cs) = tokensAfter .nothing depth cs := by
  induction gap with
  | nil => rfl
  | cons c gap ih =>
    have hseparator : separator? depth c = some (depth, []) := by
      rw [separator?, if_pos (by simpa using h c (by simp))]
    rw [List.cons_append, tokensAfter_of_separator hseparator, ih fun d hd => h d (by simp [hd])]
    simp

theorem tokensAfter_digits (h : ∀ c ∈ digits, isAsciiDigit c = true) (held : List Char)
    (depth : Nat) (cs : List Char) :
    tokensAfter (.whole held) depth (digits ++ cs) =
      tokensAfter (.whole (digits.reverse ++ held)) depth cs := by
  induction digits generalizing held with
  | nil => rfl
  | cons c digits ih =>
    have hextend : Partial.extend? (.whole held) c = some (.whole (c :: held), []) :=
      if_pos (h c (by simp))
    rw [List.cons_append, tokensAfter_of_hold hextend, ih fun d hd => h d (by simp [hd]),
      List.reverse_cons, List.append_assoc]
    rfl

theorem tokensAfter_natText {n : Nat} (hn : (natText n).length ≤ integerDigitLimit)
    (hafter : tokensAfter .nothing depth cs = some after)
    (horder : p.along? (.numeral (.int n) :: after) = some q) :
    tokensAfter .nothing depth ((natText n).toList ++ cs) = some (.numeral (.int n) :: after) := by
  obtain ⟨ascii, -, nonempty, -⟩ := digitsOf_natText n
  have hvalue := integerValue?_natText hn
  obtain ⟨c, digits, hdigits⟩ := List.exists_cons_of_ne_nil nonempty
  rw [hdigits] at ascii hvalue ⊢
  have hextend : Partial.extend? .nothing c = some (.whole [c], []) := if_pos (ascii c (by simp))
  have hfinish : (Partial.whole (digits.reverse ++ [c])).finish = some [.numeral (.int n)] := by
    rw [Partial.finish, List.reverse_append, List.reverse_reverse]
    exact congrArg (Option.map _) hvalue
  rw [List.cons_append, tokensAfter_of_hold hextend,
    tokensAfter_digits fun d hd => ascii d (by simp [hd])]
  exact tokensAfter_of_finish hfinish hafter horder

/-- `tokensAfter` reads what is `written` for a token as it, with any tokens behind that may
follow. -/
theorem tokensAfter_written (ht : t.IsWhole) (hdepth : t.deepens? depth = some deeper)
    (hafter : tokensAfter .nothing deeper cs = some after)
    (horder : p.along? (t :: after) = some q) :
    tokensAfter .nothing depth (t.written ++ cs) = some (t :: after) := by
  cases t with
  | numeral value =>
    obtain ⟨n, rfl, hn⟩ := ht
    cases hdepth
    exact tokensAfter_natText hn hafter horder
  | opening =>
    simp only [Token.deepens?] at hdepth
    split at hdepth <;> cases hdepth
    rename_i hlimit
    have hseparator : separator? depth '(' = some (depth + 1, [.opening]) := by
      simp [separator?, isGap, isBreak, hlimit]
    rw [Token.written, List.singleton_append, tokensAfter_of_separator hseparator, hafter]
    rfl
  | closing =>
    simp only [Token.deepens?] at hdepth
    split at hdepth <;> cases hdepth
    rename_i hopen
    have hseparator : separator? depth ')' = some (depth - 1, [.closing]) := by
      simp [separator?, isGap, isBreak, hopen]
    rw [Token.written, List.singleton_append, tokensAfter_of_separator hseparator, hafter]
    rfl
  | star =>
    cases hdepth
    have hhold : Partial.extend? .nothing '*' = some (.oneStar, []) := rfl
    have hfinish : Partial.oneStar.finish = some [.star] := rfl
    rw [Token.written, List.singleton_append, tokensAfter_of_hold hhold]
    exact tokensAfter_of_finish hfinish hafter horder
  | slash =>
    cases hdepth
    have hhold : Partial.extend? .nothing '/' = some (.oneSlash, []) := rfl
    have hfinish : Partial.oneSlash.finish = some [.slash] := rfl
    rw [Token.written, List.singleton_append, tokensAfter_of_hold hhold]
    exact tokensAfter_of_finish hfinish hafter horder
  -- The others are complete with their last character.
  | _ =>
    cases hdepth
    simp [Token.written, tokensAfter, Partial.extend?, Partial.extend?.atStart, isAsciiDigit,
      hafter]

theorem tokensAfter_spelled (hwhole : ∀ t ∈ row.map (·.2), t.IsWhole) (hspaced : Spaced depth row)
    (hdepth : depthAlong? depth (row.map (·.2)) = some deeper)
    (horder : p.along? (row.map (·.2)) = some q) :
    tokensAfter .nothing depth (spelled row) = some (row.map (·.2)) := by
  induction row generalizing depth p with
  | nil => rfl
  | cons pair row ih =>
    obtain ⟨gap, t⟩ := pair
    obtain ⟨hgap, hrow⟩ := hspaced
    obtain ⟨inside, hinside, hdeeper⟩ := depthAlong?_cons_eq_some.1 hdepth
    obtain ⟨r, -, hr⟩ := along?_cons_eq_some.1 horder
    have hbehind := ih (fun t ht => hwhole t (List.mem_cons_of_mem _ ht)) (hrow inside hinside)
      hdeeper hr
    rw [spelled_cons, tokensAfter_gap hgap]
    exact tokensAfter_written (hwhole t (List.mem_cons_self ..)) hinside hbehind horder

/-! ## 3. Evaluating -/

theorem Token.IsWhole.written_ne_nil (ht : t.IsWhole) : t.written ≠ [] := by
  cases t with
  | numeral value =>
    obtain ⟨n, rfl, -⟩ := ht
    exact (digitsOf_natText n).nonempty
  | _ => simp [Token.written]

theorem isArithmeticChar_of_isAsciiDigit (h : isAsciiDigit c = true) :
    isArithmeticChar c = true := by
  obtain ⟨hlow, hhigh⟩ := toNat_of_isAsciiDigit h
  have hdigit : isDigit c = true := by
    rw [isDigit, digitRanges, inRanges, if_neg (Nat.not_lt.2 hlow), decide_eq_true hhigh]
    rfl
  simp [isArithmeticChar, hdigit]

theorem Token.IsWhole.of_mem_written (ht : t.IsWhole) (hc : c ∈ t.written) :
    isArithmeticChar c = true ∧ isBlank c = false := by
  cases t with
  | numeral value =>
    obtain ⟨n, rfl, -⟩ := ht
    have hdigit := (digitsOf_natText n).ascii c hc
    exact ⟨isArithmeticChar_of_isAsciiDigit hdigit, isBlank_of_isAsciiDigit hdigit⟩
  | _ =>
    simp only [Token.written, List.mem_cons, List.not_mem_nil, or_false, or_self] at hc
    subst hc
    decide

theorem isArithmeticChar_of_isBlank (h : isBlank c = true) : isArithmeticChar c = true := by
  simp [isArithmeticChar, h]

theorem Spaced.isBlank (h : Spaced depth row)
    (hdepth : depthAlong? depth (row.map (·.2)) = some deeper) :
    ∀ pair ∈ row, ∀ c ∈ pair.1, isBlank c = true := by
  induction row generalizing depth with
  | nil => nofun
  | cons pair row ih =>
    obtain ⟨gap, t⟩ := pair
    obtain ⟨inside, hinside, hdeeper⟩ := depthAlong?_cons_eq_some.1 hdepth
    intro pair hpair
    rcases List.mem_cons.1 hpair with rfl | hpair
    · exact fun c hc =>
        (h.1 c hc).elim isBlank_of_isGap fun hbreak => isBlank_of_isBreak hbreak.1
    · exact ih (h.2 inside hinside) hdeeper pair hpair

theorem spelled_isArithmetic (hwhole : ∀ t ∈ row.map (·.2), t.IsWhole)
    (hblank : ∀ pair ∈ row, ∀ c ∈ pair.1, isBlank c = true) :
    ∀ c ∈ spelled row, isArithmeticChar c = true := by
  intro c hc
  obtain ⟨pair, hpair, hc⟩ := List.mem_flatMap.1 hc
  rcases List.mem_append.1 hc with hc | hc
  · exact isArithmeticChar_of_isBlank (hblank pair hpair c hc)
  · exact ((hwhole pair.2 (List.mem_map_of_mem hpair)).of_mem_written hc).1

/-- `trimBy` cuts what stands around a text that neither starts nor ends with a character to be
cut. -/
theorem trimBy_around {cut : Char → Bool} (hbefore : ∀ c ∈ before, cut c = true)
    (hbehind : ∀ c ∈ behind, cut c = true) (hne : cs ≠ [])
    (hhead : ∀ c ∈ cs.head?, cut c = false) (hlast : ∀ c ∈ cs.getLast?, cut c = false) :
    trimBy cut (before ++ cs ++ behind) = cs := by
  have hfront : (before ++ cs ++ behind).dropWhile cut = cs ++ behind := by
    rw [List.append_assoc, List.dropWhile_append_of_pos hbefore]
    obtain ⟨c, others, rfl⟩ := List.exists_cons_of_ne_nil hne
    exact dropWhile_eq_self hhead
  rw [trimBy, hfront, List.reverse_append,
    List.dropWhile_append_of_pos fun c hc => hbehind c (List.mem_reverse.1 hc),
    dropWhile_eq_self (by simpa using hlast), List.reverse_reverse]

theorem getLast?_spelled (hwhole : ∀ t ∈ row.map (·.2), t.IsWhole) :
    ∀ c ∈ (spelled row).getLast?, isBlank c = false := by
  rcases List.eq_nil_or_concat row with rfl | ⟨front, ⟨gap, t⟩, rfl⟩
  · nofun
  · have ht : t.IsWhole := hwhole t (by simp)
    intro c hc
    rw [List.concat_eq_append, spelled, List.flatMap_append, List.flatMap_singleton,
      ← List.append_assoc, List.getLast?_append, Option.or_of_isSome
        (by simpa using ht.written_ne_nil)] at hc
    exact (ht.of_mem_written (List.mem_of_mem_getLast? hc)).2

theorem trim_spelled (hwhole : ∀ t' ∈ t :: row.map (·.2), t'.IsWhole)
    (hbefore : ∀ c ∈ before, isBlank c = true) (hgap : ∀ c ∈ gap, isBlank c = true)
    (hbehind : ∀ c ∈ behind, isBlank c = true) :
    trim (String.ofList (before ++ spelled ((gap, t) :: row) ++ behind)) =
      String.ofList (spelled (([], t) :: row)) := by
  have ht : t.IsWhole := hwhole t (by simp)
  have hsplit : before ++ spelled ((gap, t) :: row) ++ behind =
      before ++ gap ++ spelled (([], t) :: row) ++ behind := by
    simp [spelled_cons]
  have hne := ht.written_ne_nil
  rw [trim, String.toList_ofList, hsplit, trimBy_around (by grind) hbehind]
  · simp [spelled_cons, hne]
  · intro c hc
    refine (ht.of_mem_written (List.mem_of_mem_head? ?_)).2
    rwa [spelled_cons, List.nil_append, List.head?_append, Option.or_of_isSome
      (by simpa using hne)] at hc
  · exact getLast?_spelled hwhole

/-- **A text is evaluated as the expression that its tokens make**: `evaluate` of a `spelled` row
depends on its tokens alone, whatever the gaps. -/
theorem evaluate_spelled {e : Expr} (hwhole : ∀ t ∈ row.map (·.2), t.IsWhole)
    (hspaced : Spaced 0 row) (hdepth : depthAlong? 0 (row.map (·.2)) = some deeper)
    (hbefore : ∀ c ∈ before, isBlank c = true) (hbehind : ∀ c ∈ behind, isBlank c = true)
    (he : Expr.ofTokens? (row.map (·.2)) = some e) :
    evaluate (String.ofList (before ++ spelled row ++ behind)) = e.eval := by
  cases row with
  | nil => cases he
  | cons pair row =>
    obtain ⟨gap, t⟩ := pair
    have hblank := hspaced.isBlank hdepth
    -- The gap in front of the first token is trimmed with the blanks before it, so the row is read
    -- without that gap.
    have hcore : Spaced 0 (([], t) :: row) := ⟨nofun, hspaced.2⟩
    have htokens : tokens? (spelled (([], t) :: row)) = some (t :: row.map (·.2)) :=
      tokensAfter_spelled hwhole hcore hdepth (along?_of_ofTokens? he)
    have hread : Expr.ofText? (String.ofList (before ++ spelled ((gap, t) :: row) ++ behind)) =
        some e := by
      rw [Expr.ofText?, trim_spelled hwhole hbefore (hblank (gap, t) (by simp)) hbehind,
        String.toList_ofList, htokens]
      exact he
    have harithmetic : isArithmeticText
        (String.ofList (before ++ spelled ((gap, t) :: row) ++ behind)) = true := by
      have ht : t.written ≠ [] := (hwhole t (by simp)).written_ne_nil
      have hspelled := spelled_isArithmetic hwhole hblank
      simp only [isArithmeticText, Bool.and_eq_true, String.toList_ofList, List.all_eq_true]
      refine ⟨by simp [spelled_cons, ht], fun c hc => ?_⟩
      rcases List.mem_append.1 hc with hc | hc
      · rcases List.mem_append.1 hc with hc | hc
        · exact isArithmeticChar_of_isBlank (hbefore c hc)
        · exact hspelled c hc
      · exact isArithmeticChar_of_isBlank (hbehind c hc)
    rw [evaluate, harithmetic, hread]
    rfl

end Arithmetic

end OverlayShell
