import OverlayShell.Tree.Path
import Mathlib.Data.List.Basic

/-!
# Normal paths

Reading a text gives a path whose segments are all normal: none is empty, a dot or two dots, and
none holds a separator. On these paths the written forms lose nothing: the absolute form reads back
as the path, and two paths of one key are the same path.
-/

namespace OverlayShell

namespace Text

/-! ## 1. Pieces of a joined text -/

theorem pieces_cons_self (sep : Char) (text : List Char) :
    pieces sep (sep :: text) = [] :: pieces sep text := by
  simp [pieces, piecesBy]

theorem pieces_append_cons (sep : Char) (piece rest : List Char) (h : sep ∉ piece) :
    pieces sep (piece ++ sep :: rest) = piece :: pieces sep rest := by
  induction piece with
  | nil => exact pieces_cons_self sep rest
  | cons c cs ih =>
    have hc : (c == sep) = false := by
      rw [beq_eq_false_iff_ne]
      rintro rfl
      exact h (by simp)
    -- The first character goes into the first piece, which is not finished before the separator.
    have hcs := ih fun hmem => h (by simp [hmem])
    simp only [pieces] at hcs ⊢
    simp only [List.cons_append, piecesBy, hc, hcs, Bool.false_eq_true, if_false]

theorem pieces_of_not_mem (sep : Char) (text : List Char) (h : sep ∉ text) :
    pieces sep text = [text] := by
  apply piecesBy_eq_singleton
  intro c hc
  rw [beq_eq_false_iff_ne]
  rintro rfl
  exact h hc

/-- `pieces` of a joined text are the parts, if none holds the separator. -/
theorem pieces_join (sep : Char) (parts : List String) (hne : parts ≠ [])
    (h : ∀ part ∈ parts, sep ∉ part.toList) :
    pieces sep (join (String.singleton sep) parts).toList = parts.map String.toList := by
  induction parts with
  | nil => exact absurd rfl hne
  | cons first others ih =>
    cases others with
    | nil => simp [join_singleton, pieces_of_not_mem sep _ (h first (by simp))]
    | cons second others =>
      -- The first part ends at the separator that the join puts behind it.
      have hrest := ih (by simp) fun part hp => h part (by simp [hp])
      rw [join_cons_cons, String.toList_append, String.toList_append, String.toList_singleton,
        List.append_assoc, List.singleton_append,
        pieces_append_cons sep _ _ (h first (by simp)), hrest, List.map_cons, List.map_cons,
        List.map_cons]

theorem mem_of_mem_piecesBy (p : Char → Bool) (text piece : List Char)
    (h : piece ∈ piecesBy p text) : ∀ c ∈ piece, c ∈ text := by
  induction text generalizing piece with
  | nil => simp_all [piecesBy]
  | cons c cs ih =>
    intro d hd
    simp only [piecesBy] at h
    split at h
    · rcases List.mem_cons.1 h with rfl | h
      · simp at hd
      · exact List.mem_cons_of_mem _ (ih piece h d hd)
    -- Another character is put in front of the first of the pieces that the rest gives.
    · split at h
      · simp_all
      · rename_i first rest heq
        rcases List.mem_cons.1 h with rfl | h
        · rcases List.mem_cons.1 hd with rfl | hd
          · simp
          · exact List.mem_cons_of_mem _ (ih first (by simp [heq]) d hd)
        · exact List.mem_cons_of_mem _ (ih piece (by simp [heq, h]) d hd)

end Text

namespace Path

/-! ## 2. Normal segments -/

/-- A name that stands for itself in a path. -/
def IsSegment (s : String) : Prop :=
  s ≠ "" ∧ s ≠ "." ∧ s ≠ ".." ∧ '/' ∉ s.toList ∧ '\\' ∉ s.toList

instance (s : String) : Decidable (IsSegment s) := inferInstanceAs (Decidable (_ ∧ _))

def Normal (p : Path) : Prop := ∀ s ∈ p.segments, IsSegment s

instance (p : Path) : Decidable p.Normal := inferInstanceAs (Decidable (∀ s ∈ p.segments, _))

theorem step_of_isSegment (segments : List String) {s : String} (h : IsSegment s) :
    step segments s = segments ++ [s] := by
  simp [step, h.1, h.2.1, h.2.2.1]

/-- `step` appends each normal segment, so a fold of it appends them all. -/
theorem foldl_step_of_normal (start segments : List String) (h : ∀ s ∈ segments, IsSegment s) :
    segments.foldl step start = start ++ segments := by
  induction segments generalizing start with
  | nil => simp
  | cons s rest ih =>
    rw [List.foldl_cons, step_of_isSegment start (h s (by simp)),
      ih _ fun t ht => h t (by simp [ht]), List.append_assoc, List.singleton_append]

theorem step_normal {segments : List String} {s : String} (hs : '/' ∉ s.toList)
    (hb : '\\' ∉ s.toList) (h : ∀ t ∈ segments, IsSegment t) :
    ∀ t ∈ step segments s, IsSegment t := by
  intro t ht
  unfold step at ht
  split at ht
  · exact h t ht
  · split at ht
    · exact h t ((List.dropLast_sublist segments).subset ht)
    · rename_i hdot hdots
      simp only [Bool.or_eq_true, decide_eq_true_eq, not_or] at hdot
      rcases List.mem_append.1 ht with ht | ht
      · exact h t ht
      · rw [List.mem_singleton.1 ht]
        exact ⟨hdot.1, hdot.2, hdots, hs, hb⟩

theorem foldl_step_normal {raw start : List String}
    (hraw : ∀ s ∈ raw, '/' ∉ s.toList ∧ '\\' ∉ s.toList) (h : ∀ t ∈ start, IsSegment t) :
    ∀ t ∈ raw.foldl step start, IsSegment t := by
  induction raw generalizing start with
  | nil => exact h
  | cons s rest ih =>
    have hs := hraw s (by simp)
    exact ih (fun t ht => hraw t (by simp [ht])) (step_normal hs.1 hs.2 h)

theorem mem_withoutTilde {c : Char} {cs : List Char} (h : c ∈ withoutTilde cs) : c ∈ cs := by
  unfold withoutTilde at h
  split at h
  · exact List.mem_cons_of_mem _ h
  · exact h

theorem not_mem_rawSegments (text : String) :
    ∀ s ∈ rawSegments text, '/' ∉ s.toList ∧ '\\' ∉ s.toList := by
  intro s hs
  obtain ⟨piece, hpiece, rfl⟩ := List.mem_map.1 hs
  rw [String.toList_ofList]
  constructor
  -- The pieces are split at slashes, and every backslash was made a slash before.
  · intro hslash
    have := Text.not_mem_of_mem_piecesBy _ _ piece hpiece '/' hslash
    simp at this
  · intro hback
    have hmem := mem_withoutTilde (Text.mem_of_mem_piecesBy _ _ piece hpiece '\\' hback)
    obtain ⟨c, -, hc⟩ := List.mem_map.1 hmem
    unfold slashed at hc
    split at hc
    · exact absurd hc (by decide)
    · rename_i hne
      exact hne hc

/-- **What is read is normal.** `parse` resolves dots and drops empty segments. -/
theorem parse_normal (text : String) : (parse text).Normal :=
  foldl_step_normal (not_mem_rawSegments text) (by simp)

/-! ## 3. Reading back -/

theorem backslash_not_mem_key {p : Path} (h : p.Normal) : '\\' ∉ p.key.toList := by
  obtain ⟨segments⟩ := p
  unfold Normal at h
  unfold key
  simp only at h ⊢
  induction segments with
  | nil => simp [Text.join_nil]
  | cons s rest ih =>
    have hs := (h s (by simp)).2.2.2.2
    have hrest := ih fun t ht => h t (by simp [ht])
    cases rest with
    | nil => simpa [Text.join_singleton] using hs
    | cons t rest =>
      rw [Text.join_cons_cons]
      simp only [String.toList_append, List.mem_append, not_or]
      exact ⟨⟨hs, by decide⟩, hrest⟩

theorem map_slashed_key {p : Path} (h : p.Normal) :
    p.key.toList.map slashed = p.key.toList := by
  rw [List.map_congr_left (g := id), List.map_id]
  intro c hc
  have hne : c ≠ '\\' := by
    rintro rfl
    exact backslash_not_mem_key h hc
  simp [slashed, hne]

/-- `absolute` starts with a slash, so `rawSegments` takes no tilde from it. -/
theorem rawSegments_absolute {p : Path} (h : p.Normal) :
    rawSegments p.absolute =
      if p.segments = [] then ["", ""] else "" :: p.segments := by
  have hmap : (p.absolute.toList.map slashed) = '/' :: p.key.toList := by
    unfold absolute
    rw [String.toList_append, List.map_append, map_slashed_key h]
    rfl
  unfold rawSegments
  rw [hmap, show withoutTilde ('/' :: p.key.toList) = '/' :: p.key.toList from rfl,
    Text.pieces_cons_self]
  split
  -- The root gives the empty pieces on both sides of its slash.
  · rename_i hnil
    rw [key, hnil, Text.join_nil]
    rfl
  · rename_i hne
    have hpieces := Text.pieces_join '/' p.segments hne fun s hs => (h s hs).2.2.2.1
    rw [key, show ("/" : String) = String.singleton '/' from rfl, hpieces, List.map_cons,
      List.map_map]
    simp [Function.comp_def]

/-- **The absolute form reads back.** `parse p.absolute = p` for every `Normal` path. -/
theorem parse_absolute {p : Path} (h : p.Normal) : parse p.absolute = p := by
  obtain ⟨segments⟩ := p
  unfold parse
  rw [rawSegments_absolute h]
  congr 1
  split
  · rename_i hnil
    simp only at hnil
    rw [hnil]
    rfl
  -- The empty piece before the first slash changes nothing.
  · simp only [List.foldl_cons]
    rw [show step [] "" = [] from rfl, foldl_step_of_normal [] segments h, List.nil_append]

/-- `parse` yields exactly the `Normal` paths. -/
theorem normal_iff_exists_parse (p : Path) : p.Normal ↔ ∃ text, parse text = p := by
  constructor
  · intro h
    exact ⟨p.absolute, parse_absolute h⟩
  · rintro ⟨text, rfl⟩
    exact parse_normal text

/-- **A key belongs to one normal path.** `Path.key` is injective on these. -/
theorem key_injective {p q : Path} (hp : p.Normal) (hq : q.Normal) (h : p.key = q.key) : p = q := by
  -- Both are read back from the same text.
  rw [← parse_absolute hp, ← parse_absolute hq]
  unfold absolute
  rw [h]

/-! ## 4. Starts of a path -/

theorem segments_injective {p q : Path} (h : p.segments = q.segments) : p = q :=
  congrArg Path.mk h

theorem isWithin_iff (p q : Path) : p.isWithin q = true ↔ q.segments <+: p.segments :=
  List.isPrefixOf_iff_prefix

theorem prefix_dropLast_iff {b l : List String} (h : l ≠ []) :
    b <+: l.dropLast ↔ b <+: l ∧ b ≠ l := by
  have hsplit := List.dropLast_append_getLast h
  constructor
  · intro hb
    refine ⟨hb.trans (List.dropLast_prefix l), ?_⟩
    rintro rfl
    have hlen := hb.length_le
    rw [List.length_dropLast] at hlen
    have hpos := List.length_pos_of_ne_nil h
    omega
  · rintro ⟨hb, hne⟩
    -- A start of the list is the whole list or a start of the list without its last element.
    rw [← hsplit, List.prefix_concat_iff, hsplit] at hb
    exact hb.resolve_left hne

theorem mem_properStarts {a l : List String} :
    a ∈ properStarts l ↔ a ≠ [] ∧ a <+: l ∧ a ≠ l := by
  -- A list with two elements or more has the start of its head alone, and its head before each of
  -- the proper starts of its tail; a shorter one has none.
  fun_induction properStarts l generalizing a with
  | case1 s t rest ih =>
    constructor
    · intro h
      rcases List.mem_cons.1 h with rfl | h
      · exact ⟨by simp, by simp, by simp⟩
      · obtain ⟨b, hb, rfl⟩ := List.mem_map.1 h
        obtain ⟨-, hprefix, hne⟩ := ih.1 hb
        exact ⟨by simp, List.cons_prefix_cons.2 ⟨rfl, hprefix⟩, by simpa using hne⟩
    · rintro ⟨hne, hprefix, hproper⟩
      obtain ⟨u, b, rfl⟩ := List.exists_cons_of_ne_nil hne
      obtain ⟨rfl, hb⟩ := List.cons_prefix_cons.1 hprefix
      by_cases hnil : b = []
      · simp [hnil]
      · exact List.mem_cons_of_mem _
          (List.mem_map.2 ⟨b, ih.2 ⟨hnil, hb, by simpa using hproper⟩, rfl⟩)
  | case2 l hshort =>
    constructor
    · intro h
      simp at h
    · rintro ⟨hne, hprefix, hproper⟩
      match l, hshort with
      | [], _ => exact absurd (List.prefix_nil.1 hprefix) hne
      | [s], _ =>
        rcases List.prefix_cons_iff.1 hprefix with h | ⟨b, rfl, hb⟩
        · exact absurd h hne
        · rw [List.prefix_nil.1 hb] at hproper
          exact absurd rfl hproper
      | s :: t :: rest, hshort => exact absurd rfl (hshort s t rest)

/-- `ancestors` of a path are the paths strictly between the root and it. -/
theorem mem_ancestors {a p : Path} :
    a ∈ p.ancestors ↔ a.segments ≠ [] ∧ a.segments <+: p.segments ∧ a.segments ≠ p.segments := by
  unfold ancestors
  rw [List.mem_map]
  constructor
  · rintro ⟨b, hb, rfl⟩
    exact mem_properStarts.1 hb
  · intro h
    exact ⟨a.segments, mem_properStarts.2 h, rfl⟩

end Path

end OverlayShell
