import OverlayShell.Console.Line

/-!
# Taking colours out

The scan that takes colour sequences out of a text starts afresh at every escape character: what it
has held back is let go there, since no sequence holds a second one. So a complete sequence can be
cut out of the middle of a text, whatever the text before it ends with and the text behind it starts
with, and colours make no difference to a plain-text reader.
-/

namespace OverlayShell

namespace Text

/-- An escape character, a bracket, the parameters and the final letter. -/
def IsColourSequence (s : List Char) : Prop :=
  ∃ parameters, (∀ c ∈ parameters, isColourParameter c) ∧ s = esc :: '[' :: (parameters ++ ['m'])

variable {s text before behind : List Char} {c : Char} {held : Held}

theorem ne_esc_of_isColourParameter (h : isColourParameter c) : c ≠ esc := by
  rintro rfl
  exact absurd h (by decide)

theorem ne_m_of_isColourParameter (h : isColourParameter c) : c ≠ 'm' := by
  rintro rfl
  exact absurd h (by decide)

/-! ## 1. The scan -/

theorem plainAfter_esc (held : Held) (behind : List Char) :
    plainAfter held (esc :: behind) = held.text ++ plainAfter .nothing (esc :: behind) := by
  have hnothing : plainAfter .nothing (esc :: behind) = plainAfter .escape behind := by
    rw [plainAfter, if_pos rfl]
    rfl
  rw [hnothing]
  cases held <;> rw [plainAfter, if_pos rfl]

theorem plainAfter_cons_of_ne_esc (h : c ≠ esc) (text : List Char) :
    plainAfter .nothing (c :: text) = c :: plainAfter .nothing text := by
  rw [plainAfter, if_neg h]

theorem plainAfter_escape_cons (h : c ≠ esc) (text : List Char) :
    plainAfter .escape (c :: text) =
      if c = '[' then plainAfter (.opened []) text else esc :: c :: plainAfter .nothing text := by
  rw [plainAfter, if_neg h]

theorem plainAfter_opened_cons (h : c ≠ esc) (read text : List Char) :
    plainAfter (.opened read) (c :: text) =
      if c = 'm' then plainAfter .nothing text
      else if isColourParameter c then plainAfter (.opened (c :: read)) text
      else (Held.opened read).text ++ c :: plainAfter .nothing text := by
  rw [plainAfter, if_neg h]

/-- `plainAfter` splits at an escape character, as nothing is held across it. What is said of texts
that are put together follows from this equation. -/
theorem plainAfter_append_esc (held : Held) (before behind : List Char) :
    plainAfter held (before ++ esc :: behind) =
      plainAfter held before ++ plainAfter .nothing (esc :: behind) := by
  -- Over the text before the escape character, with what is held back by then. Each step is the
  -- same in both texts, as it looks at one character only.
  induction before generalizing held with
  | nil => rw [List.nil_append, plainAfter_esc, plainAfter]
  | cons c before ih =>
    rw [List.cons_append]
    by_cases hesc : c = esc
    · subst hesc
      rw [plainAfter_esc held, plainAfter_esc held, List.append_assoc]
      congr 1
      rw [plainAfter, if_pos rfl, plainAfter, if_pos rfl, ih, List.append_assoc]
    cases held with
    | nothing =>
      rw [plainAfter_cons_of_ne_esc hesc, plainAfter_cons_of_ne_esc hesc, ih, List.cons_append]
    | escape =>
      rw [plainAfter_escape_cons hesc, plainAfter_escape_cons hesc]
      split
      · rw [ih]
      · rw [ih, List.cons_append, List.cons_append]
    | opened read =>
      rw [plainAfter_opened_cons hesc, plainAfter_opened_cons hesc]
      split
      · rw [ih]
      split
      · rw [ih]
      · rw [ih, List.append_assoc, List.cons_append]

theorem plainAfter_parameters {parameters : List Char} (h : ∀ c ∈ parameters, isColourParameter c)
    (read behind : List Char) :
    plainAfter (.opened read) (parameters ++ 'm' :: behind) = plainAfter .nothing behind := by
  induction parameters generalizing read with
  | nil => rw [List.nil_append, plainAfter_opened_cons (by decide), if_pos rfl]
  | cons c parameters ih =>
    have hc : isColourParameter c := h c List.mem_cons_self
    rw [List.cons_append, plainAfter_opened_cons (ne_esc_of_isColourParameter hc),
      if_neg (ne_m_of_isColourParameter hc), if_pos hc]
    exact ih (fun d hd => h d (List.mem_cons_of_mem c hd)) _

/-- `plainAfter` takes a complete sequence out where it starts. -/
theorem plainAfter_sequence (h : IsColourSequence s) (behind : List Char) :
    plainAfter .nothing (s ++ behind) = plainAfter .nothing behind := by
  obtain ⟨parameters, hparameters, rfl⟩ := h
  rw [List.cons_append, List.cons_append, List.append_assoc, plainAfter, if_pos rfl,
    plainAfter_escape_cons (by decide), if_pos rfl]
  exact plainAfter_parameters hparameters [] behind

/-- `plainAfter` of a text with a complete sequence in it is that of the two parts around it. -/
theorem plainAfter_append_sequence (h : IsColourSequence s) (before behind : List Char) :
    plainAfter .nothing (before ++ (s ++ behind)) =
      plainAfter .nothing before ++ plainAfter .nothing behind := by
  have hcut := plainAfter_sequence h behind
  obtain ⟨parameters, -, rfl⟩ := h
  rw [List.cons_append, plainAfter_append_esc, ← List.cons_append, hcut]

theorem isColourSequence_colourSequence {parameters : String}
    (h : parameters.toList.all isColourParameter = true) :
    IsColourSequence (colourSequence parameters).toList := by
  refine ⟨parameters.toList, List.all_eq_true.1 h, ?_⟩
  rw [colourSequence, String.toList_append, String.toList_append]
  rfl

theorem isColourSequence_on (colour : Colour) : IsColourSequence colour.on.toList := by
  apply isColourSequence_colourSequence
  cases colour <;> rfl

theorem isColourSequence_reset : IsColourSequence colourReset.toList :=
  isColourSequence_colourSequence rfl

theorem toList_plain (text : String) : (plain text).toList = plainAfter .nothing text.toList :=
  String.toList_ofList

theorem plain_sequence_append {sequence : String} (h : IsColourSequence sequence.toList)
    (text : String) : plain (sequence ++ text) = plain text := by
  rw [plain, String.toList_append, plainAfter_sequence h, plain]

theorem plain_append_sequence {sequence : String} (h : IsColourSequence sequence.toList)
    (text : String) : plain (text ++ sequence) = plain text := by
  have hcut := plainAfter_append_sequence h text.toList []
  rw [List.append_nil, plainAfter] at hcut
  rw [plain, String.toList_append, hcut, plain]
  exact congrArg String.ofList (List.append_nil _)

def switchedOn (colours : List Colour) : String :=
  colours.foldr (fun colour text => colour.on ++ text) ""

theorem plain_switchedOn (colours : List Colour) (text : String) :
    plain (switchedOn colours ++ text) = plain text := by
  induction colours with
  | nil => rw [switchedOn, List.foldr_nil, String.empty_append]
  | cons colour colours ih =>
    show plain (colour.on ++ switchedOn colours ++ text) = _
    rw [String.append_assoc, plain_sequence_append (isColourSequence_on colour), ih]

theorem plain_paint (colour : Colour) (text : String) : plain (paint colour text) = plain text := by
  rw [paint, plain_append_sequence isColourSequence_reset,
    plain_sequence_append (isColourSequence_on colour)]

end Text

/-- **Colour is transparent to plain-text readers.** `paint` in any colour, `bold`, and several
`colours` in a row leave the `plain` text of a text as it is, whatever complete or partial sequences
it holds itself; and `shown` that of a line. -/
theorem colours_are_transparent (text : String) (colour : Text.Colour)
    (colours : List Text.Colour) (line : Line) :
    Text.plain (Text.paint colour text) = Text.plain text ∧
      Text.plain (Text.bold text) = Text.plain text ∧
      Text.plain (Text.switchedOn colours ++ text ++ Text.colourReset) = Text.plain text ∧
      Text.plain line.shown = line.plain := by
  refine ⟨Text.plain_paint colour text, Text.plain_paint .bright text, ?_, ?_⟩
  · rw [Text.plain_append_sequence Text.isColourSequence_reset, Text.plain_switchedOn]
  · cases hkind : line.kind with
    | error => rw [Line.shown, hkind]; exact Text.plain_paint .red line.text
    | success => rw [Line.shown, hkind]; exact Text.plain_paint .green line.text
    | command => rw [Line.shown, hkind]; rfl
    | output => rw [Line.shown, hkind]; rfl

end OverlayShell
