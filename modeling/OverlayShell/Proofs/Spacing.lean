import Mathlib.Data.List.TakeWhile
import Mathlib.Tactic.Common
import OverlayShell.Arithmetic.Evaluation
import OverlayShell.Proofs.Numerals
import OverlayShell.Proofs.TokenOrder

/-!
# Spaces between tokens

A text is read as the same tokens whatever gaps stand between them, and a text whose tokens make an
expression is read as the same tokens when its gaps are left out: none of the tokens grows into the
next, since operands and operators take turns.
-/

namespace OverlayShell

namespace Arithmetic

open Text

variable {held next : Partial} {t : Token} {tokens after before made : List Token} {c : Char}
  {cs : List Char} {depth deeper : Nat} {p q : Place}

/-! ## 1. Kinds of characters -/

theorem toNat_of_isAsciiDigit (h : isAsciiDigit c = true) : 0x30 ≤ c.toNat ∧ c.toNat ≤ 0x39 := by
  simp only [isAsciiDigit, Bool.and_eq_true, decide_eq_true_eq, Char.le_def, UInt32.le_iff_toNat_le]
    at h
  exact h

theorem isBlank_of_isAsciiDigit (h : isAsciiDigit c = true) : isBlank c = false := by
  obtain ⟨hlow, hhigh⟩ := toNat_of_isAsciiDigit h
  simp only [isBlank, blankRanges, inRanges]
  grind

theorem isBlank_of_isGap (h : isGap c = true) : isBlank c = true := by
  simp only [isGap, Bool.or_eq_true, beq_iff_eq, decide_eq_true_eq] at h
  rcases h with (rfl | rfl) | h
  · decide
  · decide
  · rw [isBlank, h]
    decide

theorem isBlank_of_isBreak (h : isBreak c = true) : isBlank c = true := by
  simp only [isBreak, Bool.or_eq_true, beq_iff_eq] at h
  rcases h with rfl | rfl <;> decide

theorem extend?_of_isBlank (h : isBlank c = true) (held : Partial) : held.extend? c = none := by
  have hdigit : isAsciiDigit c = false := by
    by_contra hdigit
    rw [isBlank_of_isAsciiDigit (eq_true_of_ne_false hdigit)] at h
    cases h
  have hne : ∀ d, isBlank d = false → c ≠ d := fun d hd hcd => by
    rw [hcd, hd] at h
    cases h
  cases held
  case nothing =>
    rw [Partial.extend?, hdigit, if_neg Bool.false_ne_true]
    unfold Partial.extend?.atStart
    split <;> first | rfl | exact absurd h (by decide)
  all_goals simp [Partial.extend?, hdigit, hne '.' (by decide), hne '*' (by decide),
    hne '/' (by decide)]

theorem not_isBlank_of_extend (h : held.extend? c = some (next, made)) : isBlank c = false := by
  by_contra hblank
  rw [extend?_of_isBlank (eq_true_of_ne_false hblank)] at h
  cases h

/-- What `separator?` leaves: the tokens so far, and how many parentheses are open behind it. -/
theorem separator?_eq_some (h : separator? depth c = some (deeper, made)) :
    (isBlank c = true ∧ deeper = depth ∧ made = []) ∨
      (c = '(' ∧ depth < nestingLimit ∧ deeper = depth + 1 ∧ made = [.opening]) ∨
      (c = ')' ∧ 0 < depth ∧ deeper = depth - 1 ∧ made = [.closing]) := by
  unfold separator? at h
  split at h
  · rename_i hgap
    cases h
    refine .inl ⟨?_, rfl, rfl⟩
    simp only [Bool.or_eq_true, Bool.and_eq_true] at hgap
    exact hgap.elim isBlank_of_isGap fun hbreak => isBlank_of_isBreak hbreak.1
  · split at h
    · split at h <;> cases h
      exact .inr (.inl ⟨by assumption, by assumption, rfl, rfl⟩)
    · split at h
      · split at h <;> cases h
        exact .inr (.inr ⟨by assumption, by assumption, rfl, rfl⟩)
      · cases h

/-- A character that `extend?` starts a token with is no separator. -/
theorem separator?_of_starts (h : Partial.extend? .nothing c = some (next, made)) :
    separator? depth c = none := by
  rw [Option.eq_none_iff_forall_ne_some]
  rintro ⟨deeper, made⟩ hseparator
  rcases separator?_eq_some hseparator with ⟨hblank, -⟩ | ⟨rfl, -⟩ | ⟨rfl, -⟩
  · rw [extend?_of_isBlank hblank] at h
    cases h
  · cases h
  · cases h

/-! ## 2. Where a token ends -/

theorem tokensAfter_of_extend (h : held.extend? c = some (next, made)) (depth : Nat)
    (cs : List Char) :
    tokensAfter held depth (c :: cs) = (tokensAfter next depth cs).map (made ++ ·) := by
  rw [tokensAfter, h]

theorem tokensAfter_of_hold (h : held.extend? c = some (next, [])) (depth : Nat) (cs : List Char) :
    tokensAfter held depth (c :: cs) = tokensAfter next depth cs := by
  simp [tokensAfter_of_extend h]

theorem tokensAfter_of_separator (h : separator? depth c = some (deeper, made)) (cs : List Char) :
    tokensAfter .nothing depth (c :: cs) = (tokensAfter .nothing deeper cs).map (made ++ ·) := by
  have hstarts : Partial.extend? .nothing c = none := by
    rw [Option.eq_none_iff_forall_ne_some]
    rintro ⟨next, made⟩ hstarts
    rw [separator?_of_starts hstarts] at h
    cases h
  rw [tokensAfter, hstarts]
  simp only [Partial.finish, h]
  cases tokensAfter .nothing deeper cs <;> rfl

/-- `held` is finished in front of the tokens behind, if the next character does not belong to
it. -/
theorem tokensAfter_of_closed (h : ∀ c ∈ cs.head?, held.extend? c = none) (depth : Nat) :
    tokensAfter held depth cs =
      held.finish.bind fun before => (tokensAfter .nothing depth cs).map (before ++ ·) := by
  cases cs with
  | nil =>
    simp only [tokensAfter]
    cases held.finish <;> simp [Partial.finish]
  | cons c cs =>
    rw [tokensAfter, h c rfl]
    -- The next character begins a token, separates tokens, or is none of the text of an expression;
    -- in each case `held` is finished first.
    cases hstarts : Partial.extend? .nothing c with
    | some pair =>
      obtain ⟨next, made⟩ := pair
      rw [tokensAfter_of_extend hstarts, separator?_of_starts hstarts]
      cases hbehind : tokensAfter next depth cs <;> cases held.finish <;> simp [hbehind]
    | none =>
      cases hseparator : separator? depth c with
      | some pair =>
        obtain ⟨deeper, made⟩ := pair
        rw [tokensAfter_of_separator hseparator]
        cases hbehind : tokensAfter .nothing deeper cs <;> cases held.finish <;> simp [hbehind]
      | none =>
        rw [tokensAfter, hstarts, hseparator]
        cases held.finish <;> simp [Partial.finish]

/-- `held` may become the token `t`. The four kinds of parts of operands are not told apart. -/
def Partial.mayBecome : Partial → Token → Bool
  | .nothing, _ => false
  | .oneStar, t => (t matches .star | .doubleStar)
  | .oneSlash, t => (t matches .slash | .doubleSlash)
  | _, t => (t matches .numeral _ | .ellipsis)

/-- A part that `finish` turns into a token `mayBecome` it. -/
theorem finish_eq_some (h : held.finish = some before) :
    held = .nothing ∧ before = [] ∨ ∃ t, before = [t] ∧ held.mayBecome t = true := by
  cases held with
  | nothing =>
    cases h
    exact .inl ⟨rfl, rfl⟩
  | whole digits =>
    obtain ⟨value, -, rfl⟩ := Option.map_eq_some_iff.1 h
    exact .inr ⟨_, rfl, rfl⟩
  | pointed digits places =>
    cases h
    exact .inr ⟨_, rfl, rfl⟩
  | dot => cases h
  | twoDots => cases h
  | oneStar =>
    cases h
    exact .inr ⟨_, rfl, rfl⟩
  | oneSlash =>
    cases h
    exact .inr ⟨_, rfl, rfl⟩

/-- `extend?` completes a token that the part `mayBecome`, or leaves a part of such a token. On its
own, too, the character begins one. -/
theorem extend?_eq_some (h : held.extend? c = some (next, made)) (hheld : held ≠ .nothing) :
    ((∃ t, made = [t] ∧ held.mayBecome t = true) ∨
        made = [] ∧ next ≠ .nothing ∧ next.mayBecome = held.mayBecome) ∧
      ∃ start, Partial.extend? .nothing c = some (start, []) ∧ start ≠ .nothing ∧
        start.mayBecome = held.mayBecome := by
  -- The characters that continue an operand begin one on their own, as digits or as a dot.
  have hdigit (hc : isAsciiDigit c = true) :
      Partial.extend? .nothing c = some (.whole [c], []) := if_pos hc
  have hdot (hc : c = '.') : Partial.extend? .nothing c = some (.dot, []) := by
    rw [hc]
    rfl
  -- The parts of operands stay parts of operands; two dots and the operators are completed.
  cases held with
  | nothing => exact absurd rfl hheld
  | whole digits =>
    simp only [Partial.extend?] at h
    split at h
    · cases h
      exact ⟨.inr ⟨rfl, nofun, rfl⟩, _, hdigit (by assumption), nofun, rfl⟩
    · split at h <;> cases h
      exact ⟨.inr ⟨rfl, nofun, rfl⟩, _, hdot (by assumption), nofun, rfl⟩
  | pointed digits places =>
    simp only [Partial.extend?] at h
    split at h <;> cases h
    exact ⟨.inr ⟨rfl, nofun, rfl⟩, _, hdigit (by assumption), nofun, rfl⟩
  | dot =>
    simp only [Partial.extend?] at h
    split at h
    · cases h
      exact ⟨.inr ⟨rfl, nofun, rfl⟩, _, hdigit (by assumption), nofun, rfl⟩
    · split at h <;> cases h
      exact ⟨.inr ⟨rfl, nofun, rfl⟩, _, hdot (by assumption), nofun, rfl⟩
  | twoDots =>
    simp only [Partial.extend?] at h
    split at h <;> cases h
    exact ⟨.inl ⟨_, rfl, rfl⟩, _, hdot (by assumption), nofun, rfl⟩
  | oneStar =>
    simp only [Partial.extend?] at h
    split at h <;> cases h
    rename_i hc
    exact ⟨.inl ⟨_, rfl, rfl⟩, .oneStar, by rw [hc]; rfl, nofun, rfl⟩
  | oneSlash =>
    simp only [Partial.extend?] at h
    split at h <;> cases h
    rename_i hc
    exact ⟨.inl ⟨_, rfl, rfl⟩, .oneSlash, by rw [hc]; rfl, nofun, rfl⟩

/-- `tokensAfter` a part starts with a token that the part `mayBecome`. -/
theorem tokensAfter_eq_some (hheld : held ≠ .nothing)
    (h : tokensAfter held depth cs = some tokens) :
    ∃ t rest, tokens = t :: rest ∧ held.mayBecome t = true := by
  induction cs generalizing held tokens with
  | nil =>
    rcases finish_eq_some h with ⟨hnothing, -⟩ | ⟨t, rfl, ht⟩
    · exact absurd hnothing hheld
    · exact ⟨t, [], rfl, ht⟩
  | cons c cs ih =>
    -- A character that goes on with the token completes it or makes a longer part of it; any other
    -- closes it, and then `finish` tells the token.
    cases hextend : held.extend? c with
    | some pair =>
      obtain ⟨next, made⟩ := pair
      rw [tokensAfter_of_extend hextend] at h
      obtain ⟨rest, hrest, rfl⟩ := Option.map_eq_some_iff.1 h
      rcases (extend?_eq_some hextend hheld).1 with ⟨t, rfl, ht⟩ | ⟨rfl, hnext, hbecome⟩
      · exact ⟨t, rest, rfl, ht⟩
      · obtain ⟨t, others, rfl, ht⟩ := ih hnext hrest
        exact ⟨t, others, rfl, hbecome ▸ ht⟩
    | none =>
      rw [tokensAfter_of_closed (by simpa using hextend)] at h
      obtain ⟨before, hbefore, h⟩ := Option.bind_eq_some_iff.1 h
      obtain ⟨rest, -, rfl⟩ := Option.map_eq_some_iff.1 h
      rcases finish_eq_some hbefore with ⟨hnothing, -⟩ | ⟨t, rfl, ht⟩
      · exact absurd hnothing hheld
      · exact ⟨t, rest, rfl, ht⟩

/-! ## 3. Neighbours -/

/-- Of the tokens that one part `mayBecome`, none can stand behind another. -/
theorem behind?_of_mayBecome {t' : Token} (ht : held.mayBecome t = true)
    (ht' : held.mayBecome t' = true) (h : p.behind? t = some q) : q.behind? t' = none := by
  cases held <;> cases t <;> cases ht <;> cases t' <;> cases ht' <;> cases p <;> cases h <;> rfl

/-- **No token grows into the next.** What `finish` makes of `held` stands in front of the tokens
behind, where these may follow it in the order of `along?`. -/
theorem tokensAfter_of_finish (hfinish : held.finish = some before)
    (hafter : tokensAfter .nothing depth cs = some after)
    (horder : p.along? (before ++ after) = some q) :
    tokensAfter held depth cs = some (before ++ after) := by
  rcases finish_eq_some hfinish with ⟨rfl, rfl⟩ | ⟨t, rfl, ht⟩
  · exact hafter
  have hclosed : ∀ c ∈ cs.head?, held.extend? c = none := by
    intro c hc
    rw [Option.eq_none_iff_forall_ne_some]
    rintro ⟨next, made⟩ hextend
    have hheld : held ≠ .nothing := by
      rintro rfl
      cases ht
    -- A character that would extend the part begins a token of the same kind on its own, and this
    -- token would stand right behind `t`.
    obtain ⟨-, start, hstart, hnothing, hbecome⟩ := extend?_eq_some hextend hheld
    obtain ⟨behind, rfl⟩ := List.head?_eq_some_iff.1 hc
    rw [tokensAfter_of_extend hstart] at hafter
    obtain ⟨rest, hrest, rfl⟩ := Option.map_eq_some_iff.1 hafter
    obtain ⟨t', others, rfl, ht'⟩ := tokensAfter_eq_some hnothing hrest
    obtain ⟨r, hr, hrest⟩ := along?_cons_eq_some.1 horder
    obtain ⟨r', hr', -⟩ := along?_cons_eq_some.1 hrest
    rw [behind?_of_mayBecome ht (hbecome ▸ ht') hr] at hr'
    cases hr'
  rw [tokensAfter_of_closed hclosed, hfinish, hafter]
  rfl

/-! ## 4. Leaving the gaps out -/

def squeezed (text : String) : String := String.ofList (text.toList.filter (!isBlank ·))

theorem filter_cons_of_isBlank (hc : isBlank c = true) :
    (c :: cs).filter (!isBlank ·) = cs.filter (!isBlank ·) :=
  List.filter_cons_of_neg (by simp [hc])

theorem filter_cons_of_not_isBlank (hc : isBlank c = false) :
    (c :: cs).filter (!isBlank ·) = c :: cs.filter (!isBlank ·) :=
  List.filter_cons_of_pos (by simp [hc])

theorem exists_along_of_append (h : p.along? (made ++ after) = some q) :
    ∃ r, Place.along? r after = some q := by
  rw [along?_append] at h
  obtain ⟨r, -, hr⟩ := Option.bind_eq_some_iff.1 h
  exact ⟨r, hr⟩

/-- `tokensAfter` stays as it is when the blanks are left out, where operands and operators take
turns as `along?` says. A blank ends a part, which must not grow into the next token without it. -/
theorem tokensAfter_filter (h : tokensAfter held depth cs = some tokens)
    (horder : p.along? tokens = some q) :
    tokensAfter held depth (cs.filter (!isBlank ·)) = some tokens := by
  induction cs generalizing held depth tokens p with
  | nil => exact h
  | cons c cs ih =>
    -- A character that belongs to a part is no blank, and the part goes on behind it.
    have hstep {held next : Partial} {made tokens : List Token} {p : Place}
        (hextend : held.extend? c = some (next, made))
        (h : tokensAfter held depth (c :: cs) = some tokens) (horder : p.along? tokens = some q) :
        tokensAfter held depth ((c :: cs).filter (!isBlank ·)) = some tokens := by
      rw [tokensAfter_of_extend hextend] at h
      obtain ⟨rest, hrest, rfl⟩ := Option.map_eq_some_iff.1 h
      obtain ⟨r, hr⟩ := exists_along_of_append horder
      rw [filter_cons_of_not_isBlank (not_isBlank_of_extend hextend),
        tokensAfter_of_extend hextend, ih hrest hr]
      rfl
    cases hextend : held.extend? c with
    | some pair => exact hstep hextend h horder
    | none =>
      -- The part ends here, with or without a blank behind it.
      rw [tokensAfter_of_closed (by simpa using hextend)] at h
      obtain ⟨before, hbefore, h⟩ := Option.bind_eq_some_iff.1 h
      obtain ⟨after, hafter, rfl⟩ := Option.map_eq_some_iff.1 h
      refine tokensAfter_of_finish hbefore ?_ horder
      obtain ⟨r, hr⟩ := exists_along_of_append horder
      cases hstarts : Partial.extend? .nothing c with
      | some pair => exact hstep hstarts hafter hr
      | none =>
        cases hseparator : separator? depth c with
        | none =>
          rw [tokensAfter, hstarts, hseparator] at hafter
          simp [Partial.finish] at hafter
        | some pair =>
          obtain ⟨deeper, made⟩ := pair
          rw [tokensAfter_of_separator hseparator] at hafter
          obtain ⟨rest, hrest, rfl⟩ := Option.map_eq_some_iff.1 hafter
          obtain ⟨r', hr'⟩ := exists_along_of_append hr
          have hbehind := ih hrest hr'
          rcases separator?_eq_some hseparator with ⟨hblank, rfl, rfl⟩ | ⟨rfl, -⟩ | ⟨rfl, -⟩
          · rw [filter_cons_of_isBlank hblank]
            exact hbehind
          · rw [filter_cons_of_not_isBlank (by decide), tokensAfter_of_separator hseparator,
              hbehind]
            rfl
          · rw [filter_cons_of_not_isBlank (by decide), tokensAfter_of_separator hseparator,
              hbehind]
            rfl

theorem dropWhile_eq_self {cut : Char → Bool} (h : ∀ c ∈ cs.head?, cut c = false) :
    cs.dropWhile cut = cs :=
  List.dropWhile_eq_self_iff.2 fun hne => by simp [h cs[0] (by simp [List.head?_eq_getElem?, hne])]

/-- `trimBy` leaves a text that neither starts nor ends with a character to be cut. -/
theorem trimBy_eq_self {cut : Char → Bool} (hhead : ∀ c ∈ cs.head?, cut c = false)
    (hlast : ∀ c ∈ cs.getLast?, cut c = false) : trimBy cut cs = cs := by
  rw [trimBy, dropWhile_eq_self hhead, dropWhile_eq_self (by simpa using hlast),
    List.reverse_reverse]

theorem filter_dropWhile (cs : List Char) :
    (cs.dropWhile isBlank).filter (!isBlank ·) = cs.filter (!isBlank ·) := by
  induction cs with
  | nil => rfl
  | cons c cs ih =>
    rw [List.dropWhile_cons]
    split
    · rename_i hc
      rw [ih, filter_cons_of_isBlank hc]
    · rfl

theorem squeezed_trim (text : String) : squeezed (trim text) = squeezed text := by
  rw [squeezed, squeezed, trim, String.toList_ofList, trimBy, List.filter_reverse,
    filter_dropWhile, List.filter_reverse, List.reverse_reverse, filter_dropWhile]

/-- **Gaps may be left out** of any text that `ofText?` reads as an expression. -/
theorem ofText?_squeezed {text : String} {e : Expr} (h : Expr.ofText? text = some e) :
    Expr.ofText? (squeezed text) = some e := by
  rw [Expr.ofText?] at h
  obtain ⟨tokens, htokens, he⟩ := Option.bind_eq_some_iff.1 h
  have hsqueezed := tokensAfter_filter htokens (along?_of_ofTokens? he)
  have hkept : ∀ c ∈ (squeezed text).toList, isBlank c = false := by
    intro c hc
    rw [squeezed, String.toList_ofList] at hc
    simpa using (List.mem_filter.1 hc).2
  have htrim : (trim (squeezed text)).toList = (trim text).toList.filter (!isBlank ·) := by
    rw [trim, String.toList_ofList, trimBy_eq_self (fun c hc => hkept c (List.mem_of_mem_head? hc))
      (fun c hc => hkept c (List.mem_of_mem_getLast? hc)), ← squeezed_trim, squeezed,
      String.toList_ofList]
  rw [Expr.ofText?, htrim, tokens?, hsqueezed]
  exact he

end Arithmetic

end OverlayShell
