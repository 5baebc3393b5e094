import OverlayShell.Text.Pieces
import OverlayShell.Text.Ranges

/-!
# Blank characters

Spaces, tabs, line breaks and the separators of information: the characters that divide a line into
words and that are trimmed from its ends.
-/

namespace OverlayShell.Text

def blankRanges : List (Nat × Nat) := [
  (0x9, 0xd), (0x1c, 0x20), (0x85, 0x85), (0xa0, 0xa0), (0x1680, 0x1680), (0x2000, 0x200a),
  (0x2028, 0x2029), (0x202f, 0x202f), (0x205f, 0x205f), (0x3000, 0x3000)]

def isBlank (c : Char) : Bool := inRanges c.toNat blankRanges

def trim (text : String) : String := String.ofList (trimBy isBlank text.toList)

/-- The longest pieces of `text` that hold no blank, in order. -/
def words (text : String) : List String :=
  ((piecesBy isBlank text.toList).filter (!·.isEmpty)).map String.ofList

def isBlankText (text : String) : Bool := text.toList.all isBlank

/-- The characters at which a text breaks into lines of a configured command: the line feed and its
kin, and the separators of files, groups and records. -/
def isLineBreak (c : Char) : Bool :=
  inRanges c.toNat [(0xa, 0xd), (0x1c, 0x1e), (0x85, 0x85), (0x2028, 0x2029)]

/-- The lines of a text, where a carriage return with its line feed breaks once, and a break at the
very end opens no further line. -/
def brokenLines : List Char → List (List Char)
  | [] => []
  | '\r' :: '\n' :: cs => [] :: brokenLines cs
  | c :: cs =>
    if isLineBreak c then [] :: brokenLines cs
    else
      match brokenLines cs with
      | [] => [[c]]
      | line :: rest => (c :: line) :: rest

/-! ## Laws -/

def IsSingle (text : String) : Prop := text ≠ "" ∧ ∀ c ∈ text.toList, isBlank c = false

theorem words_of_isSingle {text : String} (h : IsSingle text) : words text = [text] := by
  have hne : text.toList ≠ [] := fun hnil => h.1 (String.toList_inj.1 hnil)
  rw [words, piecesBy_eq_singleton isBlank text.toList h.2]
  simp [hne]

theorem isSingle_of_mem_words {text word : String} (h : word ∈ words text) : IsSingle word := by
  obtain ⟨piece, hpiece, rfl⟩ := List.mem_map.1 h
  obtain ⟨hmem, hne⟩ := List.mem_filter.1 hpiece
  refine ⟨fun hnil => ?_, fun c hc => ?_⟩
  · have hlist := congrArg String.toList hnil
    rw [String.toList_ofList] at hlist
    simp [hlist] at hne
  · rw [String.toList_ofList] at hc
    exact not_mem_of_mem_piecesBy isBlank text.toList piece hmem c hc

/-- Around a blank the words are those of the text `before` it and those of the text `behind`. -/
theorem words_append (before behind : String) :
    words (before ++ " " ++ behind) = words before ++ words behind := by
  have hsplit : (before ++ " " ++ behind).toList = before.toList ++ ' ' :: behind.toList := by
    rw [String.toList_append, String.toList_append, List.append_assoc]
    rfl
  rw [words, hsplit, piecesBy_append isBlank _ _ (by decide), List.filter_append, List.map_append]
  rfl

theorem words_join {parts : List String} (h : ∀ part ∈ parts, IsSingle part) :
    words (join " " parts) = parts := by
  induction parts with
  | nil => rfl
  | cons first rest ih =>
    have hfirst := words_of_isSingle (h first (by simp))
    cases rest with
    | nil => exact hfirst
    | cons second others =>
      rw [join_cons_cons, words_append, hfirst, ih fun part hpart => h part (by simp [hpart])]
      rfl

/-! Blanks at the ends of a text make no words. -/

theorem filter_piecesBy_dropWhile (cs : List Char) :
    (piecesBy isBlank (cs.dropWhile isBlank)).filter (!·.isEmpty) =
      (piecesBy isBlank cs).filter (!·.isEmpty) := by
  induction cs with
  | nil => rfl
  | cons c cs ih =>
    rw [List.dropWhile_cons]
    split
    · rename_i hc
      rw [ih, piecesBy, if_pos hc]
      rfl
    · rfl

theorem filter_piecesBy_dropWhile_reverse (cs : List Char) :
    (piecesBy isBlank (cs.dropWhile isBlank).reverse).filter (!·.isEmpty) =
      (piecesBy isBlank cs.reverse).filter (!·.isEmpty) := by
  induction cs with
  | nil => rfl
  | cons c cs ih =>
    rw [List.dropWhile_cons]
    split
    · rename_i hc
      rw [ih, List.reverse_cons, piecesBy_append isBlank _ _ hc, List.filter_append]
      exact (List.append_nil _).symm
    · rfl

theorem words_trim (text : String) : words (trim text) = words text := by
  rw [words, trim, String.toList_ofList, trimBy, filter_piecesBy_dropWhile_reverse,
    List.reverse_reverse, filter_piecesBy_dropWhile]
  rfl

end OverlayShell.Text
