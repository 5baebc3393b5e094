import OverlayShell.Proofs.PlainText

/-!
# Sequences that are left over

Colour sequences are taken out in one pass. When a complete sequence stands among the characters of
another one, taking it out brings those characters together, behind the place that the scan has come
to: the plain text then holds a colour sequence, and a second pass would find it. In every other
case one pass takes out all.
-/

namespace OverlayShell

namespace Text

def HoldsSequence (text : List Char) : Prop := ∃ s, IsColourSequence s ∧ s <:+: text

def StartsSequence (text : List Char) : Prop := ∃ s, IsColourSequence s ∧ s <+: text

/-- The characters of `core` stand in the text in order, and between them, each in front of one of
them, stand complete colour sequences. -/
inductive Strewn : List Char → List Char → Prop
  | nil : Strewn [] []
  | char {core text : List Char} (c : Char) : Strewn core text → Strewn (c :: core) (c :: text)
  | sequence {s core text : List Char} {c : Char} :
      IsColourSequence s → Strewn (c :: core) text → Strewn (c :: core) (s ++ text)

/-- The text is a colour sequence that others break into: `s` comes behind a beginning of it, and
the rest `c :: rest` of it is `Strewn` with more. -/
def Interrupted (text : List Char) : Prop :=
  ∃ start s c rest behind, start ≠ [] ∧ IsColourSequence (start ++ c :: rest) ∧
    IsColourSequence s ∧ Strewn (c :: rest) behind ∧ text = start ++ (s ++ behind)

/-- An `Interrupted` colour sequence stands somewhere in the text. -/
def HoldsInterrupted (text : List Char) : Prop := ∃ part, Interrupted part ∧ part <:+: text

variable {s core text rest before behind : List Char} {c : Char} {held : Held}

/-! ## 1. The rules of one pass -/

/-- What one pass of `plain` makes of a text: where a colour sequence starts, it is taken out, and
any other character stays. -/
inductive Stripped : List Char → List Char → Prop
  | nil : Stripped [] []
  | sequence {s text rest : List Char} :
      IsColourSequence s → Stripped text rest → Stripped (s ++ text) rest
  | char {c : Char} {text rest : List Char} :
      ¬ StartsSequence (c :: text) → Stripped text rest → Stripped (c :: text) (c :: rest)

theorem IsColourSequence.length_pos (h : IsColourSequence s) : 0 < s.length := by
  obtain ⟨parameters, -, rfl⟩ := h
  exact Nat.succ_pos _

theorem IsColourSequence.starts (h : IsColourSequence s) (text : List Char) :
    StartsSequence (s ++ text) :=
  ⟨s, h, List.prefix_append s text⟩

/-- `Held.text` can still become a colour sequence. -/
def Held.Opens : Held → Prop
  | .nothing => False
  | .escape => True
  | .opened read => ∀ c ∈ read, isColourParameter c

/-- What is `held` comes out again in front of the rest, if the two do not start with a colour
sequence. -/
theorem plainAfter_of_not_starts (hopens : held.Opens)
    (h : ¬ StartsSequence (held.text ++ text)) :
    plainAfter held text = held.text ++ plainAfter .nothing text := by
  -- Over the text, with what is held back growing by each character that a sequence may have there.
  induction text generalizing held with
  | nil =>
    rw [plainAfter, plainAfter]
    exact (List.append_nil _).symm
  | cons c text ih =>
    by_cases hesc : c = esc
    -- Another escape character drops what is held: no sequence can come of it any more.
    · rw [hesc, plainAfter_esc]
    rw [plainAfter_cons_of_ne_esc hesc]
    cases held with
    | nothing => exact absurd hopens id
    | escape =>
      rw [plainAfter_escape_cons hesc]
      by_cases hbracket : c = '['
      · subst hbracket
        rw [if_pos rfl, @ih (.opened []) (by simp [Held.Opens]) h]
        rfl
      · rw [if_neg hbracket]
        rfl
    | opened read =>
      rw [plainAfter_opened_cons hesc]
      have hread : ∀ d ∈ read.reverse, isColourParameter d := fun d hd =>
        hopens d (List.mem_reverse.1 hd)
      by_cases hm : c = 'm'
      · -- The sequence would be complete, which `h` excludes.
        refine absurd ⟨_, ⟨read.reverse, hread, rfl⟩, text, ?_⟩ h
        rw [hm, Held.text]
        simp
      rw [if_neg hm]
      by_cases hparameter : isColourParameter c
      · -- One more parameter is held back, and the whole text is as before.
        have hlonger : (Held.opened (c :: read)).text = (Held.opened read).text ++ [c] := by
          simp [Held.text]
        rw [if_pos hparameter, @ih (.opened (c :: read)), hlonger, List.append_assoc]
        · rfl
        · intro d hd
          rcases List.mem_cons.1 hd with rfl | hd
          · exact hparameter
          · exact hopens d hd
        · rwa [hlonger, List.append_assoc]
      · rw [if_neg hparameter]

theorem plainAfter_cons_of_not_starts (h : ¬ StartsSequence (c :: text)) :
    plainAfter .nothing (c :: text) = c :: plainAfter .nothing text := by
  by_cases hesc : c = esc
  · subst hesc
    have hescape : plainAfter .escape text = Held.escape.text ++ plainAfter .nothing text :=
      plainAfter_of_not_starts trivial h
    rw [plainAfter, if_pos rfl, hescape]
    rfl
  · exact plainAfter_cons_of_ne_esc hesc text

/-- `plainAfter` follows the rules of `Stripped`. -/
theorem stripped_plainAfter (text : List Char) : Stripped text (plainAfter .nothing text) := by
  induction hlength : text.length using Nat.strongRecOn generalizing text with
  | _ n ih =>
    by_cases hstarts : StartsSequence text
    · obtain ⟨s, hs, behind, rfl⟩ := hstarts
      have hpos := hs.length_pos
      rw [List.length_append] at hlength
      rw [plainAfter_sequence hs]
      exact .sequence hs (ih behind.length (by omega) behind rfl)
    · cases text with
      | nil => exact .nil
      | cons c text =>
        rw [List.length_cons] at hlength
        rw [plainAfter_cons_of_not_starts hstarts]
        exact .char hstarts (ih text.length (by omega) text rfl)

theorem Stripped.length_le (h : Stripped text rest) : rest.length ≤ text.length := by
  induction h with
  | nil => exact Nat.le_refl _
  | sequence hs _ ih => rw [List.length_append]; omega
  | char _ _ ih => rw [List.length_cons, List.length_cons]; omega

/-- `plainAfter` changes a text iff it `HoldsSequence`. -/
theorem plainAfter_eq_self_iff : plainAfter .nothing text = text ↔ ¬ HoldsSequence text := by
  constructor
  · rintro heq ⟨s, hs, before, behind, rfl⟩
    rw [List.append_assoc, plainAfter_append_sequence hs] at heq
    have hbefore := (stripped_plainAfter before).length_le
    have hbehind := (stripped_plainAfter behind).length_le
    have hpos := hs.length_pos
    have hlength := congrArg List.length heq
    simp only [List.length_append] at hlength
    omega
  · intro hnone
    induction text with
    | nil => rfl
    | cons c text ih =>
      have hstarts : ¬ StartsSequence (c :: text) := fun ⟨s, hs, hfront⟩ =>
        hnone ⟨s, hs, hfront.isInfix⟩
      have hbehind : ¬ HoldsSequence text := fun ⟨s, hs, hpart⟩ =>
        hnone ⟨s, hs, hpart.trans (List.suffix_cons c text).isInfix⟩
      rw [plainAfter_cons_of_not_starts hstarts, ih hbehind]

/-! ## 2. From the plain text back -/

/-- A character that stays was passed where no sequence starts, and the rest was `Stripped` behind
it. -/
theorem Stripped.exists_of_append {kept : List Char} (h : Stripped text (kept ++ c :: rest)) :
    ∃ before behind, text = before ++ c :: behind ∧ ¬ StartsSequence (c :: behind) ∧
      Stripped behind rest := by
  generalize hall : kept ++ c :: rest = all at h
  induction h generalizing kept with
  | nil => exact absurd hall (by simp)
  | @sequence s text all hs _ ih =>
    obtain ⟨before, behind, rfl, hstarts, hrest⟩ := ih hall
    exact ⟨s ++ before, behind, (List.append_assoc _ _ _).symm, hstarts, hrest⟩
  | @char d text all hstarts hstripped ih =>
    cases kept with
    | nil =>
      obtain ⟨rfl, rfl⟩ := List.cons.inj hall
      exact ⟨[], text, rfl, hstarts, hstripped⟩
    | cons e kept =>
      obtain ⟨rfl, hbehind⟩ := List.cons.inj hall
      obtain ⟨before, behind, rfl, hstarts', hrest⟩ := ih hbehind
      exact ⟨e :: before, behind, rfl, hstarts', hrest⟩

/-- What stands together in a `Stripped` text was `Strewn` with sequences at most. -/
theorem Stripped.exists_strewn (h : Stripped text (core ++ rest)) :
    ∃ part behind, text = part ++ behind ∧ Strewn core part := by
  generalize hall : core ++ rest = all at h
  induction h generalizing core with
  | nil =>
    obtain ⟨rfl, -⟩ := List.append_eq_nil_iff.1 hall
    exact ⟨[], [], rfl, .nil⟩
  | @sequence s text all hs _ ih =>
    cases core with
    | nil => exact ⟨[], s ++ text, rfl, .nil⟩
    | cons c core =>
      obtain ⟨part, behind, rfl, hstrewn⟩ := ih hall
      exact ⟨s ++ part, behind, (List.append_assoc _ _ _).symm, .sequence hs hstrewn⟩
  | @char d text all _ _ ih =>
    cases core with
    | nil => exact ⟨[], d :: text, rfl, .nil⟩
    | cons c core =>
      obtain ⟨rfl, hbehind⟩ := List.cons.inj hall
      obtain ⟨part, behind, rfl, hstrewn⟩ := ih hbehind
      exact ⟨c :: part, behind, rfl, .char c hstrewn⟩

/-- A `Strewn` text is its core, or has a first sequence in it. -/
theorem Strewn.eq_or_exists (h : Strewn core text) :
    text = core ∨ ∃ start s c rest behind, core = start ++ c :: rest ∧ IsColourSequence s ∧
      Strewn (c :: rest) behind ∧ text = start ++ (s ++ behind) := by
  induction h with
  | nil => exact .inl rfl
  | char d _ ih =>
    rcases ih with rfl | ⟨start, s, c, rest, behind, rfl, hs, hstrewn, rfl⟩
    · exact .inl rfl
    · exact .inr ⟨d :: start, s, c, rest, behind, rfl, hs, hstrewn, rfl⟩
  | @sequence s core text c hs hstrewn _ => exact .inr ⟨[], s, c, core, text, rfl, hs, hstrewn, rfl⟩

theorem holdsInterrupted_of_holdsSequence (h : HoldsSequence (plainAfter .nothing text)) :
    HoldsInterrupted text := by
  obtain ⟨s, ⟨parameters, hparameters, rfl⟩, kept, rest, hkept⟩ := h
  have hs : IsColourSequence (esc :: '[' :: (parameters ++ ['m'])) := ⟨parameters, hparameters, rfl⟩
  have hstripped := stripped_plainAfter text
  rw [← hkept, List.append_assoc, List.cons_append] at hstripped
  obtain ⟨before, behind, rfl, hstarts, hrest⟩ := hstripped.exists_of_append
  obtain ⟨part, behind, rfl, hstrewn⟩ := hrest.exists_strewn
  rcases hstrewn.eq_or_exists with rfl | ⟨start, s', c, core, tail, hcore, hs', htail, rfl⟩
  -- With nothing in between, the scan would have passed over a sequence that starts there.
  · exact absurd (hs.starts behind) hstarts
  · refine ⟨esc :: (start ++ (s' ++ tail)),
      ⟨esc :: start, s', c, core, tail, List.cons_ne_nil _ _, ?_, hs', htail, rfl⟩,
      before, behind, by simp⟩
    rw [List.cons_append, ← hcore]
    exact hs

/-! ## 3. From the text to the plain text -/

theorem plainAfter_strewn (h : Strewn core text) (hesc : esc ∉ core) (behind : List Char) :
    plainAfter .nothing (text ++ behind) = core ++ plainAfter .nothing behind := by
  induction h with
  | nil => rfl
  | char c _ ih =>
    have hc : c ≠ esc := fun heq => hesc (heq ▸ List.mem_cons_self)
    rw [List.cons_append, plainAfter_cons_of_ne_esc hc,
      ih fun hmem => hesc (List.mem_cons_of_mem c hmem), List.cons_append]
  | sequence hs _ ih => rw [List.append_assoc, plainAfter_sequence hs, ih hesc]

/-- A beginning of a colour sequence has no `m`, and behind its first character there is no
`esc`. -/
theorem IsColourSequence.of_append {start : List Char}
    (h : IsColourSequence (start ++ c :: rest)) (hne : start ≠ []) :
    ∃ tail, start = esc :: tail ∧ 'm' ∉ start ∧ esc ∉ c :: rest := by
  obtain ⟨parameters, hparameters, heq⟩ := h
  obtain ⟨d, tail, rfl⟩ := List.exists_cons_of_ne_nil hne
  obtain rfl : d = esc := (List.cons.inj heq).1
  have htail : tail ++ c :: rest = '[' :: (parameters ++ ['m']) := (List.cons.inj heq).2
  -- What stands between the escape character and the last one is the bracket and the parameters.
  have hfront : tail ++ (c :: rest).dropLast = '[' :: parameters := by
    rw [← List.dropLast_append_of_ne_nil (List.cons_ne_nil c rest), htail, ← List.cons_append,
      List.dropLast_concat]
  refine ⟨tail, rfl, ?_, ?_⟩
  · intro hmem
    rcases List.mem_cons.1 hmem with hm | hm
    · exact absurd hm (by decide)
    have hm : 'm' ∈ '[' :: parameters := hfront ▸ List.mem_append_left _ hm
    rcases List.mem_cons.1 hm with hm | hm
    · exact absurd hm (by decide)
    · exact absurd (hparameters 'm' hm) (by decide)
  · intro hmem
    have hall : esc ∈ '[' :: (parameters ++ ['m']) := htail ▸ List.mem_append_right tail hmem
    rcases List.mem_cons.1 hall with hb | hall
    · exact absurd hb (by decide)
    rcases List.mem_append.1 hall with hp | hm
    · exact absurd (hparameters esc hp) (by decide)
    · exact absurd (List.mem_singleton.1 hm) (by decide)

theorem not_holdsSequence_of_no_m (h : 'm' ∉ text) : ¬ HoldsSequence text := by
  rintro ⟨s, ⟨parameters, -, rfl⟩, hpart⟩
  exact h (hpart.subset (by simp))

theorem holdsSequence_of_holdsInterrupted (h : HoldsInterrupted text) :
    HoldsSequence (plainAfter .nothing text) := by
  obtain ⟨part, ⟨start, s, c, rest, tail, hne, hwhole, hs, hstrewn, rfl⟩, before, behind, rfl⟩ := h
  refine ⟨start ++ c :: rest, hwhole, plainAfter .nothing before, plainAfter .nothing behind, ?_⟩
  obtain ⟨first, rfl, hm, hesc⟩ := hwhole.of_append hne
  have hstart : plainAfter .nothing (esc :: first) = esc :: first :=
    plainAfter_eq_self_iff.2 (not_holdsSequence_of_no_m hm)
  symm
  calc plainAfter .nothing (before ++ (esc :: first ++ (s ++ tail)) ++ behind)
      = plainAfter .nothing (before ++ esc :: (first ++ (s ++ (tail ++ behind)))) := by simp
    _ = plainAfter .nothing before ++
          plainAfter .nothing (esc :: first ++ (s ++ (tail ++ behind))) := by
        rw [plainAfter_append_esc, List.cons_append]
    _ = plainAfter .nothing before ++ (esc :: first ++ plainAfter .nothing (tail ++ behind)) := by
        rw [plainAfter_append_sequence hs, hstart]
    _ = plainAfter .nothing before ++ (esc :: first ++ c :: rest) ++
          plainAfter .nothing behind := by
        rw [plainAfter_strewn hstrewn hesc]
        simp

/-- **What one pass leaves.** `plain text` `HoldsSequence` iff the text `HoldsInterrupted`, and
exactly then a second pass changes it. -/
theorem sequence_left_iff (text : String) :
    (HoldsSequence (plain text).toList ↔ HoldsInterrupted text.toList) ∧
      (plain (plain text) = plain text ↔ ¬ HoldsInterrupted text.toList) := by
  have hleft : HoldsSequence (plain text).toList ↔ HoldsInterrupted text.toList := by
    rw [toList_plain]
    exact ⟨holdsInterrupted_of_holdsSequence, holdsSequence_of_holdsInterrupted⟩
  refine ⟨hleft, ?_⟩
  rw [← hleft, ← plainAfter_eq_self_iff, ← toList_plain, String.toList_inj]

/-- A reset inside of a reset: `plain` takes out the one and leaves the other. -/
theorem reset_left_over :
    plain "\x1b[\x1b[mm" = "\x1b[m" ∧ HoldsSequence (plain "\x1b[\x1b[mm").toList ∧
      plain (plain "\x1b[\x1b[mm") ≠ plain "\x1b[\x1b[mm" := by
  have hplain : plain "\x1b[\x1b[mm" = "\x1b[m" := by decide +kernel
  refine ⟨hplain, ⟨esc :: '[' :: ([] ++ ['m']), ⟨[], by simp, rfl⟩, [], [], ?_⟩, ?_⟩
  · rw [hplain]
    decide
  · rw [hplain]
    decide +kernel

end Text

end OverlayShell
