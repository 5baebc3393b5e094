/-!
# Pieces of text

Splitting and joining, on lists of characters and on strings. A split keeps empty pieces, so that
joining the pieces with the separator gives the text back.
-/

namespace OverlayShell.Text

/-- The pieces between the characters that satisfy `p`. There is always at least one piece. -/
def piecesBy (p : Char → Bool) : List Char → List (List Char)
  | [] => [[]]
  | c :: cs =>
    if p c then [] :: piecesBy p cs
    else
      match piecesBy p cs with
      | [] => [[c]]
      | piece :: rest => (c :: piece) :: rest

def pieces (sep : Char) (text : List Char) : List (List Char) :=
  piecesBy (· == sep) text

def splitAt (sep : Char) (text : String) : List String :=
  (pieces sep text.toList).map String.ofList

/-- The lines of `text`: the pieces between line feeds, one more than there are line feeds. -/
def lines (text : String) : List String := splitAt '\n' text

/-- `parts` one after the other, with `sep` between neighbours. -/
def join (sep : String) : List String → String
  | [] => ""
  | first :: others => others.foldl (fun text part => text ++ sep ++ part) first

def startsWith (start text : String) : Bool := start.toList.isPrefixOf text.toList

def occursIn (needle : List Char) : List Char → Bool
  | [] => needle.isEmpty
  | c :: cs => needle.isPrefixOf (c :: cs) || occursIn needle cs

/-- `needle` occurs somewhere in `text`. The empty text occurs everywhere. -/
def contains (needle text : String) : Bool := occursIn needle.toList text.toList

/-- The part before the last `sep` and the part after it. Without a `sep` the first part is absent
and the second is the whole text. -/
def splitLast (sep : Char) (text : String) : Option String × String :=
  match (splitAt sep text).reverse with
  | [] => (none, "")
  | [piece] => (none, piece)
  | last :: before => (some (join (String.singleton sep) before.reverse), last)

def trimBy (cut : Char → Bool) (text : List Char) : List Char :=
  ((text.dropWhile cut).reverse.dropWhile cut).reverse

/-! ## Laws -/

theorem join_nil (sep : String) : join sep [] = "" := rfl

theorem join_singleton (sep part : String) : join sep [part] = part := rfl

/-- What stands in front of the `first` part stands in front of the whole. -/
theorem foldl_join_append (sep before first : String) (others : List String) :
    others.foldl (fun text part => text ++ sep ++ part) (before ++ first) =
      before ++ others.foldl (fun text part => text ++ sep ++ part) first := by
  induction others generalizing first with
  | nil => rfl
  | cons second others ih =>
    have step : before ++ first ++ sep ++ second = before ++ (first ++ sep ++ second) := by
      simp only [String.append_assoc]
    rw [List.foldl_cons, List.foldl_cons, step, ih]

theorem join_cons_cons (sep first second : String) (others : List String) :
    join sep (first :: second :: others) = first ++ sep ++ join sep (second :: others) := by
  rw [join, join, List.foldl_cons, foldl_join_append]

theorem piecesBy_ne_nil (p : Char → Bool) (text : List Char) : piecesBy p text ≠ [] := by
  cases text with
  | nil => simp [piecesBy]
  | cons c cs =>
    simp only [piecesBy]
    split
    · simp
    · split <;> simp

theorem piecesBy_eq_singleton (p : Char → Bool) (text : List Char)
    (h : ∀ c ∈ text, p c = false) : piecesBy p text = [text] := by
  induction text with
  | nil => rfl
  | cons c cs ih =>
    have hc : p c = false := h c (by simp)
    have hcs : piecesBy p cs = [cs] := ih fun d hd => h d (by simp [hd])
    simp [piecesBy, hc, hcs]

/-- Around a separator `c` the pieces are those of the text before it and those of the text
behind. -/
theorem piecesBy_append (p : Char → Bool) (before behind : List Char) {c : Char} (hc : p c = true) :
    piecesBy p (before ++ c :: behind) = piecesBy p before ++ piecesBy p behind := by
  induction before with
  | nil =>
    show piecesBy p (c :: behind) = [] :: piecesBy p behind
    rw [piecesBy, if_pos hc]
  | cons d ds ih =>
    rw [List.cons_append, piecesBy, piecesBy, ih]
    split
    · rfl
    -- The first piece takes the character in, before and after.
    · obtain ⟨first, rest, hsplit⟩ := List.exists_cons_of_ne_nil (piecesBy_ne_nil p ds)
      rw [hsplit]
      rfl

theorem not_mem_of_mem_piecesBy (p : Char → Bool) (text piece : List Char)
    (h : piece ∈ piecesBy p text) : ∀ c ∈ piece, p c = false := by
  induction text generalizing piece with
  | nil => simp_all [piecesBy]
  | cons c cs ih =>
    simp only [piecesBy] at h
    split at h
    · rcases List.mem_cons.1 h with rfl | h
      · simp
      · exact ih piece h
    · rename_i hc
      split at h
      · simp_all
      · rename_i first rest heq
        rcases List.mem_cons.1 h with rfl | h
        · intro d hd
          rcases List.mem_cons.1 hd with rfl | hd
          · simpa using hc
          · exact ih first (by simp [heq]) d hd
        · exact ih piece (by simp [heq, h])

end OverlayShell.Text
