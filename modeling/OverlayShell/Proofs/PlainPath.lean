import OverlayShell.Proofs.Level

/-!
# Tildes

A tilde at the start of a text stands for the root and is dropped when the text is read. A path is
plain if its first segment does not start with one: then its key, in which nothing stands before
that segment, reads back as the path. A target with a tilde at its start at most leads from a plain
working directory to a plain path again.
-/

namespace OverlayShell

namespace Text

/-! ## 1. Splitting a text in two -/

theorem pieces_append (sep : Char) (before behind : List Char) :
    pieces sep (before ++ sep :: behind) = pieces sep before ++ pieces sep behind :=
  piecesBy_append (· == sep) before behind (beq_self_eq_true sep)

theorem pieces_tail {sep c : Char} {cs first : List Char} {rest : List (List Char)} (hc : c ≠ sep)
    (h : pieces sep (c :: cs) = (c :: first) :: rest) : pieces sep cs = first :: rest := by
  obtain ⟨piece, others, hsplit⟩ := List.exists_cons_of_ne_nil (piecesBy_ne_nil (· == sep) cs)
  rw [pieces, piecesBy, if_neg (by simpa using hc), hsplit] at h
  obtain ⟨hpiece, hothers⟩ := List.cons.inj h
  rw [pieces, hsplit, (List.cons.inj hpiece).2, hothers]

end Text

namespace Path

/-! ## 2. Plain paths -/

def IsPlain (s : String) : Prop := s.toList.head? ≠ some '~'

instance (s : String) : Decidable (IsPlain s) := inferInstanceAs (Decidable (_ ≠ _))

/-- The first segment, if there is one, does not start with a tilde. -/
def Plain (p : Path) : Prop := ∀ s, p.segments.head? = some s → IsPlain s

instance (p : Path) : Decidable p.Plain :=
  match h : p.segments.head? with
  | none => .isTrue fun s hs => by rw [h] at hs; cases hs
  | some s => decidable_of_iff (IsPlain s) ⟨
      fun hs t ht => by rw [h] at ht; obtain rfl := Option.some.inj ht; exact hs,
      fun hp => hp s h⟩

theorem plain_root : root.Plain := fun _ hs => by cases hs

theorem Plain.of_prefix {p q : Path} (h : p.Plain) (hq : q.segments <+: p.segments) : q.Plain := by
  intro s hs
  obtain ⟨rest, hrest⟩ := hq
  apply h
  rw [← hrest, List.head?_append, hs]
  rfl

theorem Plain.parent {p : Path} (h : p.Plain) : p.parent.Plain :=
  h.of_prefix (List.dropLast_prefix _)

/-! ## 3. Reading keys back -/

theorem head?_map_slashed {cs : List Char} (h : cs.head? ≠ some '~') :
    (cs.map slashed).head? ≠ some '~' := by
  intro hhead
  rw [List.head?_map] at hhead
  obtain ⟨c, hc, hslashed⟩ := Option.map_eq_some_iff.1 hhead
  -- Only a tilde is read as a tilde.
  unfold slashed at hslashed
  split at hslashed
  · exact absurd hslashed (by decide)
  · exact h (hslashed ▸ hc)

theorem withoutTilde_of_head? {cs : List Char} (h : cs.head? ≠ some '~') :
    withoutTilde cs = cs := by
  unfold withoutTilde
  split
  · exact absurd rfl h
  · rfl

/-- `parse` ignores a slash in front, unless a tilde comes behind it. -/
theorem parse_slash {text : String} (h : text.toList.head? ≠ some '~') :
    parse ("/" ++ text) = parse text := by
  have hraw : rawSegments ("/" ++ text) = "" :: rawSegments text := by
    unfold rawSegments
    rw [withoutTilde_of_head? (head?_map_slashed h), String.toList_append]
    show ((Text.pieces '/' ('/' :: text.toList.map slashed)).map String.ofList) = _
    rw [Text.pieces_cons_self]
    rfl
  unfold parse
  rw [hraw]
  rfl

theorem head?_join {sep first : String} (others : List String) (h : first ≠ "") :
    (Text.join sep (first :: others)).toList.head? = first.toList.head? := by
  cases others with
  | nil => rfl
  | cons second others =>
    have hne : first.toList ≠ [] := fun hnil => h (String.toList_inj.1 hnil)
    rw [Text.join_cons_cons, String.toList_append, String.toList_append, List.append_assoc,
      List.head?_append_of_ne_nil _ hne]

/-- **The key of a plain path reads back**: `parse p.key = p` for `Normal` and `Plain` paths. -/
theorem parse_key {p : Path} (h : p.Normal) (hplain : p.Plain) : parse p.key = p := by
  rw [← parse_slash, show "/" ++ p.key = p.absolute from rfl, parse_absolute h]
  obtain ⟨segments⟩ := p
  cases segments with
  | nil => decide
  | cons first others =>
    have hne : first ≠ "" := (h first (by simp)).1
    rw [key, head?_join others hne]
    exact hplain first rfl

/-- `parse` drops the tilde from the key of a path that is not `Plain`, and what is left of the
first segment is read again. -/
theorem parse_key_of_tilde {first : String} {others : List String} {cs : List Char}
    (h : Normal ⟨first :: others⟩) (hfirst : first.toList = '~' :: cs) :
    parse (key ⟨first :: others⟩) = ⟨step [] (String.ofList cs) ++ others⟩ := by
  have hpieces := Text.pieces_join '/' (first :: others) (by simp) fun s hs => (h s hs).2.2.2.1
  obtain ⟨rest, hkey⟩ : ∃ rest, (key ⟨first :: others⟩).toList = '~' :: rest := by
    have hhead : (key ⟨first :: others⟩).toList.head? = some '~' := by
      rw [key, head?_join others (h first (by simp)).1, hfirst]
      rfl
    exact ⟨_, List.eq_cons_of_mem_head? hhead⟩
  rw [← show key ⟨first :: others⟩ = Text.join (String.singleton '/') (first :: others) from rfl,
    List.map_cons, hfirst, hkey] at hpieces
  have hraw : rawSegments (key ⟨first :: others⟩) = String.ofList cs :: others := by
    rw [rawSegments, map_slashed_key h, hkey]
    show (Text.pieces '/' rest).map String.ofList = _
    rw [Text.pieces_tail (by decide) hpieces, List.map_cons, List.map_map]
    simp [Function.comp_def]
  rw [parse, hraw, List.foldl_cons, foldl_step_of_normal _ others fun s hs => h s (by simp [hs])]

/-- **A key reads back as the path it was written for exactly if the path is plain.** The paths of
texts are `Normal`, so `Plain` decides. -/
theorem key_reads_back_iff (text : String) :
    parse (parse text).key = parse text ↔ (parse text).Plain := by
  have hnormal := parse_normal text
  refine ⟨fun hback => ?_, parse_key hnormal⟩
  generalize parse text = p at hnormal hback ⊢
  obtain ⟨segments⟩ := p
  intro first hsegments hhead
  cases segments with
  | nil => cases hsegments
  | cons first' others =>
    obtain rfl : first' = first := Option.some.inj hsegments
    have hfirst := List.eq_cons_of_mem_head? hhead
    -- What is left of the first segment is one character short of it.
    rw [parse_key_of_tilde hnormal hfirst, Path.mk.injEq, ← List.singleton_append,
      List.append_cancel_right_eq] at hback
    unfold step at hback
    split at hback
    · cases hback
    split at hback
    · cases hback
    · have hsame := congrArg String.toList (List.singleton_inj.1 hback)
      rw [String.toList_ofList] at hsame
      have hlength := congrArg List.length hsame
      rw [hfirst] at hlength
      simp at hlength

/-- The key of `/~x` is read as `x`. -/
theorem key_of_tilde_misread : parse (parse "/~x").key ≠ parse "/~x" := by decide

/-! ## 4. Resolving -/

/-- A tilde stands at the start of the text at most. -/
def TildeFirst (text : String) : Prop := '~' ∉ text.toList.tail

instance (text : String) : Decidable (TildeFirst text) := inferInstanceAs (Decidable (_ ∉ _))

theorem step_head? {segments : List String} {s : String}
    (hs : IsPlain s) (h : ∀ t, segments.head? = some t → IsPlain t) :
    ∀ t, (step segments s).head? = some t → IsPlain t := by
  intro t ht
  unfold step at ht
  split at ht
  · exact h t ht
  · split at ht
    · obtain ⟨rest, hrest⟩ := List.dropLast_prefix segments
      apply h
      rw [← hrest, List.head?_append, ht]
      rfl
    · cases segments with
      | nil => rwa [← Option.some.inj ht]
      | cons u rest => exact h t ht

/-- `step` with `IsPlain` segments leaves a `Plain` way so. -/
theorem foldl_step_plain {raw start : List String} (hraw : ∀ s ∈ raw, IsPlain s)
    (h : Plain ⟨start⟩) : Plain ⟨raw.foldl step start⟩ := by
  induction raw generalizing start with
  | nil => exact h
  | cons s rest ih =>
    exact ih (fun t ht => hraw t (by simp [ht])) (step_head? (hraw s (by simp)) h)

theorem isPlain_of_mem_pieces {cs : List Char} (h : '~' ∉ cs) :
    ∀ s ∈ (Text.pieces '/' (cs.map slashed)).map String.ofList, IsPlain s := by
  intro s hs hhead
  obtain ⟨piece, hpiece, rfl⟩ := List.mem_map.1 hs
  rw [String.toList_ofList] at hhead
  have hmem := Text.mem_of_mem_piecesBy _ _ piece hpiece '~' (List.mem_of_mem_head? hhead)
  obtain ⟨c, hc, hslashed⟩ := List.mem_map.1 hmem
  unfold slashed at hslashed
  split at hslashed
  · exact absurd hslashed (by decide)
  · exact h (hslashed ▸ hc)

theorem parse_plain {text : String} (h : TildeFirst text) : (parse text).Plain := by
  unfold parse rawSegments
  unfold TildeFirst at h
  cases hcs : text.toList with
  | nil => decide
  | cons c cs =>
    rw [hcs, List.tail_cons] at h
    have hrest := isPlain_of_mem_pieces h
    by_cases hc : c = '~'
    -- The tilde at the start is dropped, and there is no other.
    · subst hc
      exact foldl_step_plain hrest plain_root
    · have hall : '~' ∉ c :: cs := by simp [Ne.symm hc, h]
      rw [withoutTilde_of_head? (head?_map_slashed (by simpa using hc))]
      exact foldl_step_plain (isPlain_of_mem_pieces hall) plain_root

/-- `parse` of `p.absolute`, a slash and a text goes on from `p`. -/
theorem parse_absolute_append {p : Path} (h : p.Normal) (text : String) :
    parse (p.absolute ++ "/" ++ text) =
      ⟨((Text.pieces '/' (text.toList.map slashed)).map String.ofList).foldl step p.segments⟩ := by
  have hraw : rawSegments (p.absolute ++ "/" ++ text) =
      rawSegments p.absolute ++ (Text.pieces '/' (text.toList.map slashed)).map String.ofList := by
    have habsolute : p.absolute.toList = '/' :: p.key.toList := by
      rw [absolute, String.toList_append]
      rfl
    unfold rawSegments
    rw [String.toList_append, String.toList_append, habsolute, show "/".toList = ['/'] from rfl,
      List.map_append, List.map_append]
    show (Text.pieces '/' ('/' :: (p.key.toList.map slashed ++ ['/']) ++ _)).map _ =
      (Text.pieces '/' ('/' :: p.key.toList.map slashed)).map _ ++ _
    rw [List.cons_append, List.append_assoc, List.singleton_append, ← List.cons_append,
      Text.pieces_append, List.map_append]
  have hparse : (rawSegments p.absolute).foldl step [] = p.segments :=
    congrArg segments (parse_absolute h)
  rw [parse, hraw, List.foldl_append, hparse]

theorem Normal.parent {p : Path} (h : p.Normal) : p.parent.Normal := fun s hs =>
  h s ((List.dropLast_prefix _).subset hs)

theorem follow_normal {cwd : Path} (h : cwd.Normal) (target : List Char) :
    (follow cwd target).Normal := by
  fun_induction follow cwd target with
  | case1 cwd rest ih => exact ih h.parent
  | case2 => exact parse_normal _
  | case3 => exact h.parent
  | case4 => exact h
  | case5 => exact parse_normal _

theorem resolve_normal {cwd : Path} (h : cwd.Normal) (target : String) :
    (cwd.resolve target).Normal := follow_normal h target.toList

theorem follow_plain {cwd : Path} (hnormal : cwd.Normal) (h : cwd.Plain) {target : List Char}
    (htarget : '~' ∉ target.tail) : (follow cwd target).Plain := by
  fun_induction follow cwd target with
  | case1 cwd rest ih =>
    refine ih hnormal.parent h.parent fun hmem => htarget ?_
    simpa using List.mem_of_mem_tail hmem
  | case2 cwd target _ _ => exact parse_plain (by rwa [TildeFirst, String.toList_ofList])
  | case3 => exact h.parent
  | case4 => exact h
  | case5 cwd target _ hhead _ _ =>
    -- There is no tilde at the start either, so none of the segments that are added has one.
    rw [parse_absolute_append hnormal, String.toList_ofList]
    refine foldl_step_plain (isPlain_of_mem_pieces fun hmem => ?_) h
    cases target with
    | nil => simp at hmem
    | cons c cs =>
      rcases List.mem_cons.1 hmem with rfl | hmem
      · simp at hhead
      · exact htarget hmem

/-- **A plain working directory leads to plain paths**, for a `target` with a tilde at its start at
most. -/
theorem resolve_plain {cwd : Path} (hnormal : cwd.Normal) (h : cwd.Plain) {target : String}
    (htarget : TildeFirst target) : (cwd.resolve target).Plain :=
  follow_plain hnormal h htarget

end Path

/-! ## 5. Plain trees -/

/-- No entry at the top of the tree has a name that starts with a tilde. -/
def Entry.PlainTop (entries : List Entry) : Prop :=
  ∀ entry ∈ entries, Path.IsPlain entry.name

instance (entries : List Entry) : Decidable (Entry.PlainTop entries) :=
  inferInstanceAs (Decidable (∀ entry ∈ entries, _))

theorem Entry.PlainTop.plain {entries : List Entry} (h : PlainTop entries) {way : List String}
    {m : Mark} (hm : markAt way entries = some m) : Path.Plain ⟨way⟩ := by
  intro s hs
  obtain ⟨entry, hfind, -⟩ := Option.map_eq_some_iff.1 hm
  cases way with
  | nil => simp at hs
  | cons t rest =>
    obtain rfl : t = s := Option.some.inj hs
    obtain ⟨first, hfirst, rfl⟩ := List.mem_map.1 (name_mem_of_find? hfind)
    exact h first hfirst

end OverlayShell
