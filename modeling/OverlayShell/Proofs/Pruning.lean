import OverlayShell.Proofs.FlatList

/-!
# Pruning

A deletion prunes the journal at one path: created files, created folders and edits may go there and
below, and tombstones may come, but everything is as it was at every other path. Two clear journals
of which one is pruned from the other show the same files outside the path, and the same folders,
but for those on the way to it that nothing supports any more.
-/

namespace OverlayShell

open Entry

namespace Path

theorem isWithin_eq_false_iff {p q : Path} :
    q.isWithin p = false ↔ ¬ p.segments <+: q.segments := by
  rw [← isWithin_iff, Bool.not_eq_true]

theorem isWithin_start {p q : Path} {b : List String} (hq : q.isWithin p = false)
    (hb : b <+: q.segments) : isWithin ⟨b⟩ p = false := by
  rw [isWithin_eq_false_iff] at hq ⊢
  exact fun hp => hq (hp.trans hb)

theorem isWithin_below {p q : Path} {way : List String} (hway : isWithin ⟨way⟩ p = false)
    (habove : ¬ way <+: p.segments) (hq : way <+: q.segments) : q.isWithin p = false := by
  rw [isWithin_eq_false_iff] at hway ⊢
  intro hp
  rcases List.prefix_or_prefix_of_prefix hq hp with h | h
  · exact habove h
  · exact hway h

end Path

theorem Bindings.get?_filter {α β : Type} [DecidableEq α] (b : Bindings α β) {keep : α × β → Bool}
    {key : α} (h : ∀ value, keep (key, value) = true) :
    (b.filter keep).get? key = b.get? key := by
  show (b.entries.filter keep).lookup key = b.entries.lookup key
  induction b.entries with
  | nil => rfl
  | cons entry rest ih =>
    obtain ⟨k, v⟩ := entry
    by_cases hk : key = k
    · subst hk
      simp [h v]
    · -- Another key is not found, whether it is kept or not.
      have hne : (key == k) = false := beq_eq_false_iff_ne.2 hk
      rw [List.lookup_cons, hne, List.filter_cons]
      split
      · rw [List.lookup_cons, hne]
        exact ih
      · exact ih

namespace Journal

/-! ## 1. Tombstones on the way -/

theorem hides_start {j : Journal} {b p : Path} (hb : b.segments <+: p.segments)
    (h : j.hides p = false) : j.hides b = false := by
  rw [Bool.eq_false_iff] at h ⊢
  intro hhides
  obtain ⟨c, hne, hc, hdel⟩ := hides_iff.1 hhides
  exact h (hides_iff.2 ⟨c, hne, hc.trans hb, hdel⟩)

/-- Only a tombstone of its own `hides` a path whose parent is not hidden. -/
theorem hides_eq_isDeleted {j : Journal} {p : Path} (hp : p.segments ≠ [])
    (h : j.hides p.parent = false) : j.hides p = j.isDeleted p := by
  rw [Bool.eq_iff_iff]
  refine ⟨fun hhides => ?_, hides_of_isDeleted hp⟩
  obtain ⟨b, hne, hb, hdel⟩ := hides_iff.1 hhides
  by_cases hbp : b = p.segments
  · subst hbp
    exact hdel
  · have habove : b <+: p.parent.segments := (Path.prefix_dropLast_iff hp).2 ⟨hb, hbp⟩
    rw [hides_iff.2 ⟨b, hne, habove, hdel⟩] at h
    cases h

/-! ## 2. Pruning -/

/-- `j'` is `j`, except that at `p` and below created files, created folders and edits may be
missing, and tombstones may have been set. -/
structure Prunes (p : Path) (j j' : Journal) : Prop where
  deleted : ∀ q, j.isDeleted q = true → j'.isDeleted q = true
  deleted_cases : ∀ q, j'.isDeleted q = true → j.isDeleted q = true ∨ q.isWithin p = true
  folders : ∀ q ∈ j.folders, q.isWithin p = false → q ∈ j'.folders
  folders_old : ∀ q ∈ j'.folders, q ∈ j.folders
  created : j'.created.entries.filter (fun entry => !entry.1.isWithin p) =
    j.created.entries.filter fun entry => !entry.1.isWithin p
  created_old : ∀ q ∈ j'.created.keys, q ∈ j.created.keys
  edited : ∀ q f, q.isWithin p = false → j'.edited q f = j.edited q f

variable {base : List Entry} {j j' j'' : Journal} {p : Path} {way : List String}

theorem Prunes.trans (h : Prunes p j j') (h' : Prunes p j' j'') : Prunes p j j'' where
  deleted := fun q hq => h'.deleted q (h.deleted q hq)
  deleted_cases := by
    intro q hq
    rcases h'.deleted_cases q hq with hq | hq
    · exact h.deleted_cases q hq
    · exact .inr hq
  folders := fun q hq hout => h'.folders q (h.folders q hq hout) hout
  folders_old := fun q hq => h.folders_old q (h'.folders_old q hq)
  created := h'.created.trans h.created
  created_old := fun q hq => h.created_old q (h'.created_old q hq)
  edited := fun q f hout => (h'.edited q f hout).trans (h.edited q f hout)

theorem Prunes.isDeleted_eq (h : Prunes p j j') {q : Path} (hout : q.isWithin p = false) :
    j'.isDeleted q = j.isDeleted q := by
  rw [Bool.eq_iff_iff]
  refine ⟨fun hdel => ?_, h.deleted q⟩
  exact (h.deleted_cases q hdel).resolve_right (by rw [hout]; simp)

theorem Prunes.created_iff (h : Prunes p j j') {q : Path} (hout : q.isWithin p = false) :
    q ∈ j'.created.keys ↔ q ∈ j.created.keys := by
  refine ⟨h.created_old q, fun hq => ?_⟩
  obtain ⟨entry, hentry, rfl⟩ := List.mem_map.1 hq
  have hkept : entry ∈ j'.created.entries.filter fun entry => !entry.1.isWithin p := by
    rw [h.created]
    exact List.mem_filter.2 ⟨hentry, by rw [hout]; rfl⟩
  exact List.mem_map.2 ⟨entry, List.mem_of_mem_filter hkept, rfl⟩

theorem isDeleted_delete (j : Journal) (q r : Path) :
    (j.delete q).isDeleted r = true ↔ r = q ∨ j.isDeleted r = true := by
  rw [isDeleted_iff, isDeleted_iff]
  exact mem_including

theorem edited_congr_at {q : Path} (h : j'.modified.get? q = j.modified.get? q) (f : File) :
    j'.edited q f = j.edited q f := by
  unfold edited
  rw [h]

theorem Prunes.delete (j : Journal) {q : Path} (hq : q.isWithin p = true) :
    Prunes p j (j.delete q) where
  deleted := fun r hr => (isDeleted_delete j q r).2 (.inr hr)
  deleted_cases := by
    intro r hr
    rcases (isDeleted_delete j q r).1 hr with rfl | hr
    · exact .inr hq
    · exact .inl hr
  folders := fun r hr _ => hr
  folders_old := fun r hr => hr
  created := by
    show (j.created.entries.filter _).filter _ = _
    rw [List.filter_filter]
    refine List.filter_congr fun entry _ => ?_
    -- The one that goes is within `p`, so it is not among those that are compared.
    cases hout : entry.1.isWithin p with
    | true => rfl
    | false =>
      have hne : entry.1 ≠ q := by
        intro h
        rw [h, hq] at hout
        cases hout
      simp [hne]
  created_old := fun r hr => (Bindings.mem_keys_erase.1 hr).2
  edited := by
    intro r f hout
    refine edited_congr_at (Bindings.get?_filter _ fun value => ?_) f
    rw [bne_iff_ne]
    rintro rfl
    rw [hq] at hout
    cases hout

theorem Prunes.dropFoldersUnder (j : Journal) (p : Path) : Prunes p j (j.dropFoldersUnder p) where
  deleted := fun _ hq => hq
  deleted_cases := fun _ hq => .inl hq
  folders := fun _ hq hout => List.mem_filter.2 ⟨hq, by rw [hout]; rfl⟩
  folders_old := fun _ hq => List.mem_of_mem_filter hq
  created := rfl
  created_old := fun _ hq => hq
  edited := fun _ _ _ => rfl

theorem Prunes.dropCreatedUnder (j : Journal) (p : Path) : Prunes p j (j.dropCreatedUnder p) where
  deleted := fun _ hq => hq
  deleted_cases := fun _ hq => .inl hq
  folders := fun _ hq _ => hq
  folders_old := fun _ hq => hq
  created := by
    show (j.created.entries.filter _).filter _ = _
    rw [List.filter_filter]
    exact List.filter_congr fun entry _ => Bool.and_self _
  created_old := fun _ hq => Bindings.mem_keys_of_filter hq
  edited := by
    intro q f hout
    refine edited_congr_at (Bindings.get?_filter _ fun value => ?_) f
    show (!(j.created.has q && q.isWithin p)) = true
    rw [hout, Bool.and_false]
    rfl

/-! ## 3. What is kept of the base -/

theorem Prunes.hides_eq (h : Prunes p j j') {q : Path} (hout : q.isWithin p = false) :
    j'.hides q = j.hides q := by
  rw [Bool.eq_iff_iff, hides_iff, hides_iff]
  constructor
  · rintro ⟨b, hne, hb, hdel⟩
    exact ⟨b, hne, hb, h.isDeleted_eq (Path.isWithin_start hout hb) ▸ hdel⟩
  · rintro ⟨b, hne, hb, hdel⟩
    exact ⟨b, hne, hb, h.deleted _ hdel⟩

theorem Prunes.markAt_kept (h : Prunes p j j') (hout : Path.isWithin ⟨way⟩ p = false)
    (base : List Entry) :
    markAt way (survivors j' .root base) = markAt way (survivors j .root base) := by
  have hedited : j'.editedMark ⟨way⟩ = j.editedMark ⟨way⟩ := by
    funext m
    cases m with
    | file f => exact congrArg Mark.file (h.edited ⟨way⟩ f hout)
    | folder isOpen => rfl
  rw [markAt_survivors_root, markAt_survivors_root, h.hides_eq hout, hedited]

theorem Prunes.isObstructed_kept (h : Prunes p j j') (hout : Path.isWithin ⟨way⟩ p = false)
    (base : List Entry) :
    isObstructed way (survivors j' .root base) = isObstructed way (survivors j .root base) :=
  isObstructed_congr fun b f hb => by
    rw [h.markAt_kept (Path.isWithin_start hout hb)]

/-! ## 4. What is seen -/

theorem Prunes.wants_old (h : Prunes p j j') (hwants : j'.Wants way) : j.Wants way := by
  rcases hwants with ⟨q, hq, hdel, hway⟩ | ⟨q, hq, hway⟩
  · refine .inl ⟨q, h.folders_old q hq, ?_, hway⟩
    rw [Bool.eq_false_iff] at hdel ⊢
    exact fun hold => hdel (h.deleted q hold)
  · exact .inr ⟨q, h.created_old q hq, hway⟩

/-- What `j` `Wants` off the way to `p` is wanted for something outside `p`, and so by `j'`. -/
theorem Prunes.wants (h : Prunes p j j') (hout : Path.isWithin ⟨way⟩ p = false)
    (habove : ¬ way <+: p.segments) (hwants : j.Wants way) : j'.Wants way := by
  rcases hwants with ⟨q, hq, hdel, hway⟩ | ⟨q, hq, hway⟩
  · have hqout := Path.isWithin_below hout habove hway
    exact .inl ⟨q, h.folders q hq hqout, (h.isDeleted_eq hqout).trans hdel, hway⟩
  · have hqout := Path.isWithin_below hout habove (hway.trans (List.dropLast_prefix _))
    exact .inr ⟨q, (h.created_iff hqout).2 hq, hway⟩

/-- A folder stands at the end of the way for a reason of its own: `survivors` keeps it, or the
journal `Wants` it. -/
def Supports (base : List Entry) (j : Journal) (way : List String) : Prop :=
  HasFolder way (survivors j .root base) ∨ j.Wants way

instance (base : List Entry) (j : Journal) (way : List String) :
    Decidable (j.Supports base way) := inferInstanceAs (Decidable (_ ∨ _))

/-- `Clear` is kept by pruning, if nothing is kept at the created files that stay at `p` or below
it. -/
theorem Prunes.clear (h : Prunes p j j') (hclear : j.Clear base)
    (hinside : ∀ q ∈ j'.created.keys, q.isWithin p = true →
      markAt q.segments (survivors j .root base) = none) : j'.Clear base := by
  intro q hq hnone hwants
  have hold : markAt q.segments (survivors j .root base) = none := by
    cases hout : q.isWithin p with
    | true => exact hinside q hq hout
    | false => rwa [h.markAt_kept hout] at hnone
  exact hclear q (h.created_old q hq) hold (h.wants_old hwants)

section Views

variable (h : Prunes p j j') (hj : j.Sound) (hj' : j'.Sound) (hclear : j.Clear base)
  (hclear' : j'.Clear base)

include h hj hj' hclear hclear'

/-- **Outside the path the files stay**: the merges of `j` and `j'` have the same there. -/
theorem Prunes.hasFile_iff (hout : Path.isWithin ⟨way⟩ p = false) :
    HasFile way (merge base j').tree ↔ HasFile way (merge base j).tree := by
  have hmark := h.markAt_kept hout base
  have habove : Path.isWithin ⟨way.dropLast⟩ p = false :=
    Path.isWithin_start hout (List.dropLast_prefix way)
  rw [hclear'.hasFile_merge_iff hj', hclear.hasFile_merge_iff hj, h.created_iff hout,
    h.isObstructed_kept habove]
  unfold HasFile HasFolder
  rw [hmark]

theorem Prunes.isObstructed_eq (hout : Path.isWithin ⟨way⟩ p = false) :
    isObstructed way (merge base j').tree = isObstructed way (merge base j).tree := by
  rw [Bool.eq_iff_iff, isObstructed_iff, isObstructed_iff]
  constructor
  · rintro ⟨b, hb, hfile⟩
    exact ⟨b, hb, (h.hasFile_iff hj hj' hclear hclear' (Path.isWithin_start hout hb)).1 hfile⟩
  · rintro ⟨b, hb, hfile⟩
    exact ⟨b, hb, (h.hasFile_iff hj hj' hclear hclear' (Path.isWithin_start hout hb)).2 hfile⟩

/-- **Outside the path the folders stay**, but for those on the way to it that `j'` no longer
`Supports`. -/
theorem Prunes.hasFolder_iff (hout : Path.isWithin ⟨way⟩ p = false) (hne : way ≠ []) :
    HasFolder way (merge base j').tree ↔
      HasFolder way (merge base j).tree ∧ (way <+: p.segments → j'.Supports base way) := by
  have hkept : HasFolder way (survivors j' .root base) ↔
      HasFolder way (survivors j .root base) := by
    unfold HasFolder
    rw [h.markAt_kept hout]
  have hobs := h.isObstructed_eq hj hj' hclear hclear' hout
  rw [hasFolder_merge_iff hj' hne, hasFolder_merge_iff hj hne, hobs]
  constructor
  · rintro (hfolder | ⟨hfree, hwants⟩)
    · exact ⟨.inl (hkept.1 hfolder), fun _ => .inl hfolder⟩
    · exact ⟨.inr ⟨hfree, h.wants_old hwants⟩, fun _ => .inr hwants⟩
  · rintro ⟨hfolder | ⟨hfree, hwants⟩, hsupport⟩
    · exact .inl (hkept.2 hfolder)
    -- On the way to the path the support decides; off it everything that wants the folder stays.
    · by_cases habove : way <+: p.segments
      · exact (hsupport habove).imp_right fun hwants' => ⟨hfree, hwants'⟩
      · exact .inr ⟨hfree, h.wants hout habove hwants⟩

end Views

/-! ## 5. Emptied places -/

/-- `p` has a tombstone, and nothing is created at it or below. -/
structure Emptied (p : Path) (j : Journal) : Prop where
  deleted : j.isDeleted p = true
  folders : ∀ q ∈ j.folders, q.isWithin p = false
  created : ∀ q ∈ j.created.keys, q.isWithin p = false

/-- **Nothing is seen at an emptied place or below it**: the tombstone `hides` what the base has
there. -/
theorem Emptied.markAt_merge (h : Emptied p j) (hj : j.Sound) (hp : p.segments ≠ [])
    (base : List Entry) (hway : p.segments <+: way) : markAt way (merge base j).tree = none := by
  have hhides : j.hides ⟨way⟩ = true := hides_iff.2 ⟨p.segments, hp, hway, h.deleted⟩
  have hkept : markAt way (survivors j .root base) = none := by
    rw [markAt_survivors_root, hhides]
    rfl
  have hwithin : ∀ q : Path, way <+: q.segments → q.isWithin p = true := fun q hq =>
    (Path.isWithin_iff q p).2 (hway.trans hq)
  cases hmark : markAt way (merge base j).tree with
  | none => rfl
  | some m =>
    cases m with
    | file f =>
      rcases hasFile_merge_cases hj ⟨f, hmark⟩ with ⟨g, hg⟩ | hcreated
      · rw [hkept] at hg
        cases hg
      · have hout := h.created _ hcreated
        rw [hwithin ⟨way⟩ List.prefix_rfl] at hout
        cases hout
    | folder isOpen =>
      rcases hasFolder_merge_cases hj ⟨isOpen, hmark⟩ with ⟨o, ho⟩ | ⟨-, hwants⟩
      · rw [hkept] at ho
        cases ho
      -- Whatever would want a folder here lies within the emptied place itself.
      · rcases hwants with ⟨q, hq, -, hqway⟩ | ⟨q, hq, hqway⟩
        · have hout := h.folders q hq
          rw [hwithin q hqway] at hout
          cases hout
        · have hout := h.created q hq
          rw [hwithin q (hqway.trans (List.dropLast_prefix _))] at hout
          cases hout

end Journal

end OverlayShell
