import OverlayShell.Proofs.Uncovering

/-!
# Why something stands where it does

A file of the merged view is one of the base that is kept, or a created one. A folder is there for
one of three reasons: the base has it, a created folder lies at its place or below, or a created
file lies below; and no file obstructs its place. If no created file stands in the way of another
wish of the journal, the files too are told by the base and the journal alone.
-/

namespace OverlayShell

open Entry

namespace Placement

variable {j : Journal} {P : Placement} {entries : List (Path × File)} {path : Path} {file : File}

/-! ## 1. The moment of placing -/

/-- A created file was placed by `withFile` into some tree, and what stood there afterwards stands
in the end: later calls of `place` take nothing away. -/
theorem exists_moment (hproper : ∀ p ∈ entries.map Prod.fst, p.Proper)
    (hmem : (path, file) ∈ entries) (hlive : j.isDeleted path = false) :
    ∃ tree,
      (∀ way, HasFile way (withFile tree path (j.edited path file)).1 →
        HasFile way (entries.foldl (place j) P).tree) ∧
      ∀ way, HasFolder way (withFile tree path (j.edited path file)).1 →
        HasFolder way (entries.foldl (place j) P).tree := by
  obtain ⟨before, behind, rfl⟩ := List.append_of_mem hmem
  have hbehind : ∀ p ∈ behind.map Prod.fst, p.Proper := fun p hp => hproper p (by simp [hp])
  rw [List.foldl_append, List.foldl_cons]
  -- What the files behind it find in the tree, they leave there.
  refine ⟨(before.foldl (place j) P).tree, fun way h => ?_, fun way h => ?_⟩
  · exact hasFile_run hbehind (by rwa [place_tree _ file hlive])
  · exact hasFolder_run hbehind (by rwa [place_tree _ file hlive])

end Placement

namespace Journal

/-! ## 2. Wanted folders -/

/-- A folder is wanted at the end of `way`: a created folder without tombstone lies there or below,
or the parent of a created file does. -/
def Wants (j : Journal) (way : List String) : Prop :=
  (∃ p ∈ j.folders, j.isDeleted p = false ∧ way <+: p.segments) ∨
    ∃ p ∈ j.created.keys, way <+: p.parent.segments

instance (j : Journal) (way : List String) : Decidable (j.Wants way) :=
  inferInstanceAs (Decidable ((∃ p ∈ j.folders, _) ∨ ∃ p ∈ j.created.keys, _))

variable {base : List Entry} {j : Journal} {way : List String}

theorem Wants.above {b : List String} (h : j.Wants way) (hb : b <+: way) : j.Wants b := by
  rcases h with ⟨p, hp, hdel, hway⟩ | ⟨p, hp, hway⟩
  · exact .inl ⟨p, hp, hdel, hb.trans hway⟩
  · exact .inr ⟨p, hp, hb.trans hway⟩

/-- `Wants` holds of every place strictly above a created file. -/
theorem wants_of_created {p : Path} (hp : p ∈ j.created.keys) (hproper : p.segments ≠ [])
    (hway : way <+: p.segments) (hne : way ≠ p.segments) : j.Wants way :=
  .inr ⟨p, hp, (Path.prefix_dropLast_iff hproper).2 ⟨hway, hne⟩⟩

section Merge

variable (hj : j.Sound)

include hj

theorem isDeleted_created {p : Path} (hp : p ∈ j.created.keys) : j.isDeleted p = false := by
  rw [Bool.eq_false_iff, Ne, isDeleted_iff]
  exact hj.apart p hp

/-- A file of the merge was kept by `survivors` or created. -/
theorem hasFile_merge_cases (h : HasFile way (merge base j).tree) :
    HasFile way (survivors j .root base) ∨ ⟨way⟩ ∈ j.created.keys := by
  -- The two cases are kept by each placing; before the first of them all files are kept ones.
  suffices hall : ∀ way, HasFile way (merge base j).tree →
      HasFile way (survivors j .root base) ∨ (⟨way⟩ : Path) ∈ j.created.keys from hall way h
  unfold merge
  rw [mergeInOrder_tree]
  refine Placement.run_keeps (Q := fun tree => ∀ way, HasFile way tree →
    HasFile way (survivors j .root base) ∨ (⟨way⟩ : Path) ∈ j.created.keys) ?_ hj.created ?_
  · intro tree p f hp hproper ih way hfile
    rcases (hasFile_withFile hproper f).1 hfile with hfile | ⟨rfl, -⟩
    · exact ih way hfile
    · exact .inr hp
  · exact fun way hfile => .inl ((hasFile_withFolders j _).1 hfile)

theorem not_hasFile_of_isDeleted {p : Path} (hdel : j.isDeleted p = true) (base : List Entry) :
    ¬ HasFile p.segments (merge base j).tree := by
  intro hfile
  rcases hasFile_merge_cases hj hfile with hkept | hcreated
  · have hhides := hides_of_isDeleted hfile.ne_nil hdel
    rw [((hasFile_survivors j base).1 hkept).1] at hhides
    cases hhides
  · rw [isDeleted_created hj hcreated] at hdel
    cases hdel

/-- A folder of the merge was kept by `survivors`, or the journal `Wants` it. -/
theorem hasFolder_merge_cases (h : HasFolder way (merge base j).tree) :
    HasFolder way (survivors j .root base) ∨ way ≠ [] ∧ j.Wants way := by
  suffices hall : ∀ way, HasFolder way (merge base j).tree →
      HasFolder way (survivors j .root base) ∨ way ≠ [] ∧ j.Wants way from hall way h
  unfold merge
  rw [mergeInOrder_tree]
  refine Placement.run_keeps (Q := fun tree => ∀ way, HasFolder way tree →
    HasFolder way (survivors j .root base) ∨ way ≠ [] ∧ j.Wants way) ?_ hj.created ?_
  · intro tree p f hp hproper ih way hfolder
    rcases (hasFolder_withFile hproper f).1 hfolder with hfolder | ⟨hne, habove, -⟩
    · exact ih way hfolder
    · exact .inr ⟨hne, .inr ⟨p, hp, habove⟩⟩
  · intro way hfolder
    rcases (hasFolder_withFolders j _).1 hfolder with hfolder | ⟨hne, -, p, hp, hdel, hway⟩
    · exact .inl hfolder
    · exact .inr ⟨hne, .inl ⟨p, mem_foldersByDepth.1 hp, hdel, hway⟩⟩

theorem Wants.hasFolder (hne : way ≠ []) (h : j.Wants way)
    (hfree : isObstructed way (merge base j).tree = false) :
    HasFolder way (merge base j).tree := by
  rcases h with ⟨p, hp, hdel, hway⟩ | ⟨p, hp, hway⟩
  · -- The created folders come first, when only the kept files can obstruct the way.
    refine hasFolder_merge_of_withFolders hj ((hasFolder_withFolders j _).2 (.inr ?_))
    have hkept : isObstructed way (survivors j .root base) = false :=
      free_of_free (fun _ => hasFile_merge_of_kept hj) hfree
    exact ⟨hne, hkept, p, mem_foldersByDepth.2 hp, hdel, hway⟩
  · obtain ⟨⟨q, file⟩, hmem, rfl⟩ := List.mem_map.1 hp
    have hproper := (hj.created q hp).1
    obtain ⟨tree, hfiles, hfolders⟩ := Placement.exists_moment
      (P := ⟨withFolders j j.foldersByDepth (survivors j .root base), []⟩) hj.created hmem
      (isDeleted_created hj hp)
    -- The files that stood there at that moment are still there.
    have hmoment : isObstructed way tree = false := by
      refine free_of_free (fun b hb => ?_) hfree
      exact hfiles b ((hasFile_withFile hproper _).2 (.inl hb))
    exact hfolders way ((hasFolder_withFile hproper _).2 (.inr ⟨hne, hway, hmoment⟩))

/-- **The reasons of a folder.** `HasFolder` holds in the merge iff `survivors` keeps the folder of
the base, or the journal `Wants` it and the place is not `isObstructed` by a file. -/
theorem hasFolder_merge_iff (hne : way ≠ []) :
    HasFolder way (merge base j).tree ↔
      HasFolder way (survivors j .root base) ∨
        isObstructed way (merge base j).tree = false ∧ j.Wants way := by
  constructor
  · intro h
    rcases hasFolder_merge_cases hj h with hkept | ⟨-, hwants⟩
    · exact .inl hkept
    · exact .inr ⟨h.free fun _ hfile => hfile, hwants⟩
  · rintro (hkept | ⟨hfree, hwants⟩)
    · exact hasFolder_merge_of_kept hj hkept
    · exact hwants.hasFolder hj hne hfree

/-- At a created file of the journal a folder stands, or the place `isObstructed`. -/
theorem created_folder_or_obstructed (base : List Entry) {p : Path} (hp : p ∈ j.created.keys) :
    HasFolder p.segments (merge base j).tree ∨
      isObstructed p.segments (merge base j).tree = true := by
  obtain ⟨⟨q, file⟩, hmem, rfl⟩ := List.mem_map.1 hp
  have hproper := (hj.created q hp).1
  obtain ⟨tree, hfiles, hfolders⟩ := Placement.exists_moment
    (P := ⟨withFolders j j.foldersByDepth (survivors j .root base), []⟩) hj.created hmem
    (isDeleted_created hj hp)
  -- At the moment of its placing the file found room, or something was in its way.
  cases hdone : (withFile tree q (j.edited q file)).2 with
  | true =>
    obtain ⟨f, hf⟩ := hfiles q.segments ((hasFile_withFile hproper _).2 (.inr ⟨rfl, hdone⟩))
    exact .inr (isObstructed_of_file hf)
  | false =>
    rw [← Bool.not_eq_true, snd_withFile_iff hproper, not_and_or, not_not,
      Bool.not_eq_false] at hdone
    rcases hdone with habove | hfolder
    · -- A file above it that was there at that moment is still there.
      right
      obtain ⟨b, hb, hfile⟩ := isObstructed_iff.1 habove
      have hstill := hfiles b ((hasFile_withFile hproper _).2 (.inl hfile))
      exact isObstructed_iff.2 ⟨b, hb.trans (List.dropLast_prefix _), hstill⟩
    · exact .inl (hfolders _ ((hasFolder_withFile hproper _).2 (.inl hfolder)))

end Merge

/-! ## 3. Created files in nobody's way -/

/-- A created file at whose path `survivors` keeps nothing is in nobody's way: `Wants` does not hold
of its place. -/
def Clear (base : List Entry) (j : Journal) : Prop :=
  ∀ p ∈ j.created.keys, markAt p.segments (survivors j .root base) = none → ¬ j.Wants p.segments

/-- With a `Clear` journal, a file where a folder is wanted is one that `survivors` keeps. -/
theorem Clear.kept_of_wants (hclear : j.Clear base) (hj : j.Sound) (hwants : j.Wants way)
    (h : HasFile way (merge base j).tree) : HasFile way (survivors j .root base) := by
  rcases hasFile_merge_cases hj h with hkept | hcreated
  · exact hkept
  · cases hmark : markAt way (survivors j .root base) with
    | none => exact absurd hwants (hclear ⟨way⟩ hcreated hmark)
    | some m =>
      cases m with
      | file f => exact ⟨f, hmark⟩
      | folder isOpen =>
        exact absurd (hasFolder_merge_of_kept hj ⟨isOpen, hmark⟩) h.not_folder

/-- **The files of a clear journal.** `HasFile` holds in the merge iff `survivors` keeps the file,
or the file was created where no folder is kept and no file is kept above. -/
theorem Clear.hasFile_merge_iff (hclear : j.Clear base) (hj : j.Sound) :
    HasFile way (merge base j).tree ↔
      HasFile way (survivors j .root base) ∨
        ⟨way⟩ ∈ j.created.keys ∧ ¬ HasFolder way (survivors j .root base) ∧
          isObstructed way.dropLast (survivors j .root base) = false := by
  constructor
  · intro h
    rcases hasFile_merge_cases hj h with hkept | hcreated
    · exact .inl hkept
    · have hproper := (hj.created _ hcreated).1
      refine .inr ⟨hcreated, fun hfolder => ?_, ?_⟩
      · exact h.not_folder (hasFolder_merge_of_kept hj hfolder)
      · rw [isObstructed_eq_false_iff]
        intro b hb hfile
        obtain ⟨hbway, hne⟩ := (Path.prefix_dropLast_iff hproper).1 hb
        obtain ⟨f, hf⟩ := h
        exact hne ((hasFile_merge_of_kept hj hfile).eq_of_start hbway hf)
  · rintro (hkept | ⟨hcreated, hfolder, hfree⟩)
    -- Something stands at a created file: a folder, or a file there or above. Neither a folder nor
    -- a file above can be, so it is a file at the very place.
    · exact hasFile_merge_of_kept hj hkept
    have hproper := (hj.created _ hcreated).1
    rcases created_folder_or_obstructed hj base hcreated with hshown | hobs
    · -- A folder in its place would be wanted, so a file is kept there that excludes it.
      rcases hasFolder_merge_cases hj hshown with hkept | ⟨-, hwants⟩
      · exact absurd hkept hfolder
      · cases hmark : markAt way (survivors j .root base) with
        | none => exact absurd hwants (hclear ⟨way⟩ hcreated hmark)
        | some m =>
          cases m with
          | file f => exact hasFile_merge_of_kept hj ⟨f, hmark⟩
          | folder isOpen => exact absurd ⟨isOpen, hmark⟩ hfolder
    · obtain ⟨b, hb, hfile⟩ := isObstructed_iff.1 hobs
      by_cases hne : b = way
      · exact hne ▸ hfile
      · -- A file above it stands where the created file wants a folder, so it is kept.
        have hwants := wants_of_created hcreated hproper hb hne
        have hkept := hclear.kept_of_wants hj hwants hfile
        have habove := (Path.prefix_dropLast_iff hproper).2 ⟨hb, hne⟩
        exact absurd hkept (isObstructed_eq_false_iff.1 hfree b habove)

end Journal

end OverlayShell
