import OverlayShell.Proofs.PlainPath

/-!
# Targets

A target is resolved by moving up once for each `../` at its start and then reading what is left.
Read segment by segment instead, it leads to the same place, unless what is left starts with a slash
or a tilde: that is then read from the root, and the steps up are forgotten.
-/

namespace OverlayShell

theorem Text.length_pieces_le (sep : Char) (text : List Char) :
    (pieces sep text).length ≤ text.length + 1 := by
  induction text with
  | nil => simp [pieces, piecesBy]
  | cons c cs ih =>
    obtain ⟨first, rest, hsplit⟩ := List.exists_cons_of_ne_nil (piecesBy_ne_nil (· == sep) cs)
    rw [pieces, hsplit] at ih
    rw [pieces, piecesBy]
    split <;> simp only [hsplit, List.length_cons] at ih ⊢ <;> omega

namespace Path

/-! ## 1. Segment by segment -/

/-- Where `target` leads from `p`, if its segments are followed in turn. -/
def along (p : Path) (target : List Char) : Path :=
  ⟨((Text.pieces '/' (target.map slashed)).map String.ofList).foldl step p.segments⟩

/-- What is left of a target behind the `../` at its start. -/
def behindUps : List Char → List Char
  | '.' :: '.' :: '/' :: rest => behindUps rest
  | target => target

/-- `parse` reads the text from the root, whatever the directory. -/
def FromRoot (text : List Char) : Prop := text.head? = some '/' ∨ text.head? = some '~'

instance (text : List Char) : Decidable (FromRoot text) := inferInstanceAs (Decidable (_ ∨ _))

theorem along_up (p : Path) (rest : List Char) :
    p.along ('.' :: '.' :: '/' :: rest) = p.parent.along rest := by
  have hpieces : Text.pieces '/' (('.' :: '.' :: '/' :: rest).map slashed) =
      ['.', '.'] :: Text.pieces '/' (rest.map slashed) :=
    Text.pieces_append_cons '/' ['.', '.'] (rest.map slashed) (by decide)
  rw [along, hpieces]
  rfl

theorem behindUps_of_not_up {target : List Char}
    (h : ∀ rest, target = '.' :: '.' :: '/' :: rest → False) : behindUps target = target := by
  rw [behindUps]
  exact h

/-- `follow` agrees with `along`, unless `behindUps` is read from the root. -/
theorem follow_eq {cwd : Path} (h : cwd.Normal) (target : List Char) :
    follow cwd target =
      if FromRoot (behindUps target) then parse (String.ofList (behindUps target))
      else cwd.along target := by
  -- -- By the cases of `follow`: a step up, a restart at the root, the two dots, and the general
  -- append.
  fun_induction follow cwd target with
  | case1 cwd rest ih => rw [ih h.parent, behindUps, along_up]
  | case2 cwd target hups hroot =>
    have hfrom : FromRoot target := by simpa [FromRoot] using hroot
    rw [behindUps_of_not_up hups, if_pos hfrom]
  | case3 cwd => rfl
  | case4 cwd => rfl
  | case5 cwd target hups hroot hdots hdot =>
    have hfrom : ¬ FromRoot target := by simpa [FromRoot] using hroot
    rw [behindUps_of_not_up hups, if_neg hfrom, parse_absolute_append h, String.toList_ofList]
    rfl

/-! ## 2. Depths -/

theorem length_step (segments : List String) (s : String) :
    (step segments s).length ≤ segments.length + 1 ∧
      segments.length ≤ (step segments s).length + 1 := by
  unfold step
  split
  · omega
  split
  · rw [List.length_dropLast]
    omega
  · rw [List.length_append, List.length_singleton]
    omega

theorem length_foldl_step (raw start : List String) :
    (raw.foldl step start).length ≤ start.length + raw.length ∧
      start.length ≤ (raw.foldl step start).length + raw.length := by
  induction raw generalizing start with
  | nil => simp
  | cons s rest ih =>
    have hstep := length_step start s
    have hrest := ih (step start s)
    simp only [List.foldl_cons, List.length_cons]
    omega

theorem depth_parse_le (text : List Char) :
    (parse (String.ofList text)).depth ≤ text.length + 1 := by
  have hfold := (length_foldl_step (rawSegments (String.ofList text)) []).1
  have htilde : (withoutTilde (text.map slashed)).length ≤ text.length := by
    unfold withoutTilde
    split
    · rename_i cs heq
      have hlength := congrArg List.length heq
      simp only [List.length_map, List.length_cons] at hlength
      omega
    · simp
  have hpieces := Text.length_pieces_le '/' (withoutTilde (text.map slashed))
  simp only [rawSegments, List.length_map, String.toList_ofList, List.length_nil] at hfold
  show (List.foldl step [] _).length ≤ _
  rw [rawSegments, String.toList_ofList]
  omega

theorem depth_le_along (p : Path) (target : List Char) :
    p.depth ≤ (p.along target).depth + (target.length + 1) := by
  have hfold := (length_foldl_step
    ((Text.pieces '/' (target.map slashed)).map String.ofList) p.segments).2
  have hpieces := Text.length_pieces_le '/' (target.map slashed)
  simp only [List.length_map] at hfold hpieces
  show p.segments.length ≤ (List.foldl step _ _).length + _
  omega

theorem length_behindUps (target : List Char) : (behindUps target).length ≤ target.length := by
  fun_induction behindUps target with
  | case1 rest ih =>
    simp only [List.length_cons]
    omega
  | case2 => exact Nat.le_refl _

/-! ## 3. Targets that lead the same way -/

theorem absolute_injective {p q : Path} (hp : p.Normal) (hq : q.Normal)
    (h : p.absolute = q.absolute) : p = q := by
  rw [← parse_absolute hp, ← parse_absolute hq, h]

theorem along_normal {p : Path} (h : p.Normal) (target : List Char) : (p.along target).Normal := by
  have hparse := parse_absolute_append h (String.ofList target)
  rw [String.toList_ofList, show (⟨_⟩ : Path) = p.along target from rfl] at hparse
  rw [← hparse]
  exact parse_normal _

/-- **A target leads from every directory to the place that its segments lead to**: `resolve` agrees
with `along` for every `cwd` iff what is left `behindUps` is not `FromRoot`. -/
theorem resolve_along_iff (target : String) :
    (∀ cwd : String,
      ((parse cwd).resolve target).absolute = ((parse cwd).along target.toList).absolute) ↔
        ¬ FromRoot (behindUps target.toList) := by
  constructor
  · intro hall hroot
    -- From far enough down, the segments lead deeper than any place that is read from the root.
    let deep : Path := ⟨List.replicate (2 * target.toList.length + 3) "a"⟩
    have hdeep : deep.Normal := fun s hs => (List.eq_of_mem_replicate hs) ▸ by decide
    have hsame := hall deep.absolute
    rw [parse_absolute hdeep] at hsame
    have heq := absolute_injective (resolve_normal hdeep target) (along_normal hdeep _) hsame
    rw [resolve, follow_eq hdeep, if_pos hroot] at heq
    have hread := depth_parse_le (behindUps target.toList)
    have halong := depth_le_along deep target.toList
    have hleft := length_behindUps target.toList
    have hdepth : deep.depth = 2 * target.toList.length + 3 := List.length_replicate
    rw [← heq] at halong
    omega
  · intro hroot cwd
    rw [resolve, follow_eq (parse_normal cwd), if_neg hroot]

/-- From `/a/b`, the target `..//x` leads to the top and not into `a`. -/
theorem slash_behind_up_restarts :
    ¬ FromRoot "..//x".toList ∧ ((parse "/a/b").resolve "..//x").absolute = "/x" ∧
      ((parse "/a/b").along "..//x".toList).absolute = "/a/x" := by
  decide

/-! ## 4. The shell form -/

/-- The `Normal` paths are those that their absolute forms denote. -/
theorem parse_absolute_iff {p : Path} : parse p.absolute = p ↔ p.Normal := by
  constructor
  · intro hback
    rw [← hback]
    exact parse_normal _
  · exact parse_absolute

/-- `resolve` of `p.absolute` is `p` from everywhere. -/
theorem resolve_absolute {cwd p : Path} (hcwd : cwd.Normal) (h : p.Normal) :
    cwd.resolve p.absolute = p := by
  have htext : p.absolute.toList = '/' :: p.key.toList := by
    rw [absolute, String.toList_append]
    rfl
  -- It starts with a slash, so there is no step up before it and it is read from the root.
  have hups : behindUps p.absolute.toList = p.absolute.toList := by
    rw [htext]
    rfl
  have hroot : FromRoot p.absolute.toList := .inl (by rw [htext]; rfl)
  rw [resolve, follow_eq hcwd, hups, if_pos hroot, String.ofList_toList, parse_absolute h]

theorem resolve_dot (cwd : Path) : cwd.resolve "." = cwd := rfl

/-- **The absolute form is canonical.** `parse` gives a `Normal` path, the `absolute` form of which
denotes it again; and the normal paths alone are denoted so. What `resolve` gives is left as it is
when it is resolved again, from wherever that may be, and when a dot is resolved against it. -/
theorem absolute_form_canonical :
    (∀ text, (parse text).Normal ∧ parse (parse text).absolute = parse text) ∧
      (∀ p : Path, parse p.absolute = p ↔ p.Normal) ∧
      ∀ cwd target : String,
        let r := ((parse cwd).resolve target).absolute
        (∀ other : String, ((parse other).resolve r).absolute = r) ∧
          ((parse r).resolve ".").absolute = r := by
  refine ⟨fun text => ?_, fun p => parse_absolute_iff, fun cwd target => ?_⟩
  · have htext := parse_normal text
    exact ⟨htext, parse_absolute htext⟩
  · have hresolved := resolve_normal (parse_normal cwd) target
    intro r
    refine ⟨fun other => ?_, ?_⟩
    · rw [resolve_absolute (parse_normal other) hresolved]
    · rw [resolve_dot, parse_absolute hresolved]

end Path

end OverlayShell
