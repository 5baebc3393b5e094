import OverlayShell.Proofs.FolderReasons

/-!
# Tombstones

A tombstone comes from a deletion and hides its own path and all below it. Of the base nothing else
is hidden: a file of the base in whose place no created file was put is listed exactly if no
tombstone stands at its path or above, and shows its edit if it has one. A created file may come to
stand below a tombstone, but no file stands at one.
-/

namespace OverlayShell

open Entry

namespace Journal

variable {j : Journal} {p : Path}

/-! ## 1. Where tombstones come from -/

/-- `apply` sets no tombstone but that of the deletion it is. -/
theorem mem_deleted_apply {write : Write} (h : p ∈ (j.apply write).deleted) :
    p ∈ j.deleted ∨ write = .delete p := by
  cases write with
  | create path file => exact .inl (mem_without.1 h).1
  | delete path =>
    rcases mem_including.1 h with rfl | h
    · exact .inr rfl
    · exact .inl h
  | addFolder path =>
    -- Whether the folder is new or not, only its tombstone goes.
    have hwithout : p ∈ without path j.deleted := by
      simp only [apply, addFolder] at h
      split at h <;> exact h
    exact .inl (mem_without.1 hwithout).1
  | dropFoldersUnder path => exact .inl h
  | dropCreatedUnder path => exact .inl h
  | modify path content => exact .inl h
  | reset path =>
    simp only [apply, reset] at h
    split at h <;> exact .inl h

/-- Every tombstone of a journal was set by a `delete` at its path. -/
theorem mem_deleted_after {writes : List Write} (h : p ∈ (after writes).deleted) :
    .delete p ∈ writes := by
  -- The induction is on the writes, from any journal that may have tombstones of its own.
  suffices hrun : ∀ j : Journal, p ∈ (writes.foldl Journal.apply j).deleted →
      p ∈ j.deleted ∨ .delete p ∈ writes from
    (hrun empty h).resolve_left (by simp [empty])
  clear h
  induction writes with
  | nil => exact fun j hj => .inl hj
  | cons write rest ih =>
    intro j hj
    rcases ih (j.apply write) hj with hnow | hrest
    · rcases mem_deleted_apply hnow with hbefore | rfl
      · exact .inl hbefore
      · exact .inr (List.mem_cons_self ..)
    · exact .inr (List.mem_cons_of_mem _ hrest)

/-! ## 2. What tombstones hide -/

theorem hides_eq_false_iff (hp : p.segments ≠ []) :
    j.hides p = false ↔ p ∉ j.deleted ∧ ∀ a ∈ p.ancestors, a ∉ j.deleted := by
  rw [← Bool.not_eq_true, hides_iff]
  constructor
  · intro h
    refine ⟨fun hdel => ?_, fun a ha hdel => ?_⟩
    · exact h ⟨p.segments, hp, List.prefix_rfl, isDeleted_iff.2 hdel⟩
    · obtain ⟨hne, hstart, -⟩ := Path.mem_ancestors.1 ha
      exact h ⟨a.segments, hne, hstart, isDeleted_iff.2 hdel⟩
  · rintro ⟨hself, habove⟩ ⟨b, hne, hstart, hdel⟩
    rw [isDeleted_iff] at hdel
    by_cases hb : b = p.segments
    · subst hb
      exact hself hdel
    · exact habove ⟨b⟩ (Path.mem_ancestors.2 ⟨hne, hstart, hb⟩) hdel

end Journal

/-! ## 3. The files of the base in the merged view -/

section Merge

variable {base : List Entry} {j : Journal} {p : Path} {f g : File} (hbase : Tidy base)
  (hj : j.Sound) (hfile : lookup base p = some (.file f))
  (hplaced : p ∉ (placement j.foldersByDepth base j).paths)

include hbase hj hfile hplaced

/-- A file of the base, where no created file was `placed`, is kept and `edited` unless something
`hides` it. -/
theorem markAt_merge_of_base :
    markAt p.segments (merge base j).tree = some (.file g) ↔
      j.hides p = false ∧ g = j.edited p f := by
  have hmark : markAt p.segments base = some (.file f) := lookup_eq_file_iff.1 hfile
  unfold merge
  rw [mergeInOrder_tree, (consistent_merge hbase hj).files, markAt_survivors_root, hmark]
  constructor
  · rintro (⟨g', hg', -⟩ | ⟨-, hkept⟩)
    · exact absurd (List.mem_map.2 ⟨(p, g'), hg', rfl⟩) hplaced
    · cases hhides : j.hides p with
      | true => simp [hhides] at hkept
      | false =>
        simp only [hhides, Bool.false_eq_true, if_false, Option.map_some, Journal.editedMark,
          Option.some.injEq, Mark.file.injEq] at hkept
        exact ⟨rfl, hkept.symm⟩
  · rintro ⟨hhides, rfl⟩
    exact .inr ⟨hplaced, by simp [hhides, Journal.editedMark]⟩

/-- `view.files` has it with its key and its edit, or not at all. -/
theorem mem_files_merge_of_base (hname : g.name = p.key) :
    g ∈ (merge base j).files ↔ j.hides p = false ∧ g = { j.edited p f with name := p.key } := by
  have hproper : p.Proper := by
    have hhas : HasFile p.segments base := ⟨f, lookup_eq_file_iff.1 hfile⟩
    refine ⟨hhas.ne_nil, ?_⟩
    rw [lookup_eq_find? hhas.ne_nil] at hfile
    exact hbase.normal_of_find? hfile
  rw [mem_files_merge_iff hbase hj]
  constructor
  · rintro ⟨q, hq, f', hf', rfl⟩
    obtain rfl : q = p := Path.key_injective hq.2 hproper.2 hname
    obtain ⟨hhides, rfl⟩ := (markAt_merge_of_base hbase hj hfile hplaced).1 hf'
    exact ⟨hhides, rfl⟩
  · rintro ⟨hhides, rfl⟩
    exact ⟨p, hproper, _, (markAt_merge_of_base hbase hj hfile hplaced).2 ⟨hhides, rfl⟩, rfl⟩

end Merge

/-- **Tombstones hide, and nothing else does.** After any `writes` about proper paths, a file of the
base where no created file was `placed` is in `view.files` iff neither its path nor an ancestor has
a tombstone, and it is listed with the content of `modified`, or else its own. At a tombstone no
file stands in `view.tree`, and none is listed for it. -/
theorem tombstones_alone_hide {base : List Entry} (hbase : Tidy base)
    {writes : List Journal.Write} (hwrites : ∀ write ∈ writes, write.path.Proper) :
    let j := Journal.after writes
    let view := merge base j
    (∀ (p : Path) (f : File), lookup base p = some (.file f) →
      p ∉ (placement j.foldersByDepth base j).paths →
      ((∃ g ∈ view.files, g.name = p.key) ↔
        p ∉ j.deleted ∧ ∀ a ∈ p.ancestors, a ∉ j.deleted) ∧
      ∀ g ∈ view.files, g.name = p.key →
        g = { f with name := p.key, content := (j.modified.get? p).getD f.content }) ∧
    ∀ p ∈ j.deleted, (∀ f, lookup view.tree (Path.parse p.absolute) ≠ some (.file f)) ∧
      ∀ g ∈ view.files, g.name ≠ p.key := by
  intro j view
  have hj : j.Sound := Journal.sound_after hwrites
  constructor
  · intro p f hfile hplaced
    have hroot : p.segments ≠ [] := HasFile.ne_nil ⟨f, lookup_eq_file_iff.1 hfile⟩
    -- What `view.files` has for `p` decides both halves of the first part.
    have hlisted : ∀ {g : File}, g.name = p.key → (g ∈ view.files ↔
        j.hides p = false ∧ g = { j.edited p f with name := p.key }) :=
      mem_files_merge_of_base hbase hj hfile hplaced
    rw [← Journal.hides_eq_false_iff hroot]
    refine ⟨⟨?_, fun hhides => ?_⟩, fun g hg hname => ?_⟩
    · rintro ⟨g, hg, hname⟩
      exact ((hlisted hname).1 hg).1
    · exact ⟨{ j.edited p f with name := p.key }, (hlisted rfl).2 ⟨hhides, rfl⟩, rfl⟩
    · obtain ⟨-, rfl⟩ := (hlisted hname).1 hg
      rw [Journal.edited_eq]
  · intro p hdel
    -- Only a write about a proper path can have left the tombstone.
    have hproper : p.Proper := hwrites _ (Journal.mem_deleted_after hdel)
    have hnone : ¬ HasFile p.segments view.tree :=
      Journal.not_hasFile_of_isDeleted hj (Journal.isDeleted_iff.2 hdel) base
    refine ⟨fun f hf => ?_, fun g hg hname => ?_⟩
    · rw [Path.parse_absolute hproper.2, lookup_eq_file_iff] at hf
      exact hnone ⟨f, hf⟩
    · exact hnone (isFileAt_iff.1 ((isFileAt_merge_iff hbase hj hproper).2 ⟨g, hg, hname⟩))

/-- A deleted folder stays hidden below a file that is created in it; an edited file stays. -/
theorem tombstones_alone_hide_below_created :
    let base : List Entry :=
      [.folder "a" [.file ⟨"b", "markdown", "x", false⟩, .file ⟨"c", "markdown", "y", false⟩] false,
        .folder "d" [.file ⟨"e", "markdown", "z", false⟩] false]
    let writes : List Journal.Write := [.delete ⟨["a", "b"]⟩, .modify ⟨["a", "c"]⟩ "new",
      .delete ⟨["d"]⟩, .create ⟨["d", "f"]⟩ ⟨"d/f", "json", "w", true⟩]
    let view := merge base (Journal.after writes)
    Tidy base ∧ (∀ write ∈ writes, write.path.Proper) ∧
      (∃ g ∈ view.files, g.name = "a/c") ∧
      (∀ g ∈ view.files, g.name = "a/c" → g = ⟨"a/c", "markdown", "new", false⟩) ∧
      (¬ ∃ g ∈ view.files, g.name = "d/e") ∧ ∀ g ∈ view.files, g.name ≠ "a/b" := by
  intro base writes view
  have hbase : Tidy base := by decide
  have hwrites : ∀ write ∈ writes, write.path.Proper := by decide
  obtain ⟨hkept, hgone⟩ := tombstones_alone_hide hbase hwrites
  obtain ⟨hedited, hcontent⟩ :=
    hkept ⟨["a", "c"]⟩ ⟨"c", "markdown", "y", false⟩ rfl (by decide +kernel)
  obtain ⟨hbelow, -⟩ := hkept ⟨["d", "e"]⟩ ⟨"e", "markdown", "z", false⟩ rfl (by decide +kernel)
  refine ⟨hbase, hwrites, hedited.2 (by decide +kernel), fun g hg hname => ?_, fun h => ?_, ?_⟩
  · rw [hcontent g hg hname]
    decide +kernel
  · exact (hbelow.1 h).2 ⟨["d"]⟩ (by decide +kernel) (by decide +kernel)
  · exact (hgone ⟨["a", "b"]⟩ (by decide +kernel)).2

end OverlayShell
