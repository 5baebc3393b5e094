import OverlayShell.Proofs.WorkspaceRun

/-!
# Created files

A file is created by the look of the present view, but the creation takes away the tombstone of its
path, and with it may uncover a folder of the base. The new file comes last, so whether it is seen
depends on what is seen without it.
-/

namespace OverlayShell

open Entry

/-! ## 1. The last created file -/

theorem Bindings.entries_erase_putLast {α β : Type} [DecidableEq α] (b : Bindings α β) (key : α)
    (value : β) : ((b.putLast key value).erase key).entries = (b.erase key).entries := by
  show (b.putLast key value).entries.filter _ = b.entries.filter _
  rw [entries_putLast, List.filter_append]
  show (b.entries.filter _).filter _ ++ _ = _
  simp

/-- A file can be put at `p`: no file stands above it and no folder in its place. -/
def hasRoom (tree : List Entry) (p : Path) : Bool :=
  !p.ancestors.any (isFileAt tree) && !isFolderAt tree p

theorem snd_withFile_eq_hasRoom {tree : List Entry} {p : Path} (hp : p.segments ≠ []) (f : File) :
    (withFile tree p f).2 = hasRoom tree p := by
  rw [hasRoom, any_isFileAt_ancestors hp, snd_withFile hp f]

theorem isFileAt_withFile_iff {tree : List Entry} {p : Path} (hp : p.segments ≠ []) (f : File) :
    isFileAt (withFile tree p f).1 p = true ↔ hasRoom tree p = true := by
  rw [← snd_withFile_eq_hasRoom hp f, isFileAt_iff, hasFile_withFile hp]
  constructor
  · rintro (hfile | ⟨-, hdone⟩)
    · -- A file that stands there already has only folders above it, so there is room for another.
      rw [snd_withFile_iff hp]
      refine ⟨?_, hfile.not_folder⟩
      rw [isObstructed_eq_false_iff]
      intro b hb hbfile
      obtain ⟨hbp, hne⟩ := (Path.prefix_dropLast_iff hp).1 hb
      obtain ⟨g, hg⟩ := hfile
      exact hne (hbfile.eq_of_start hbp hg)
    · exact hdone
  · intro hdone
    exact .inr ⟨rfl, hdone⟩

namespace Journal

/-- The journal without the file that is created at `p`. -/
def withoutFile (j : Journal) (p : Path) : Journal := { j with created := j.created.erase p }

theorem isDeleted_create (j : Journal) (p : Path) (file : File) :
    (j.create p file).isDeleted p = false := by
  rw [Bool.eq_false_iff]
  intro h
  exact (mem_without.1 (isDeleted_iff.1 h)).2 rfl

theorem placement_create (j : Journal) (p : Path) (file : File) (folders : List Path)
    (base : List Entry) :
    placement folders base (j.create p file) =
      (placement folders base ((j.create p file).withoutFile p)).place (j.create p file)
        (p, file) := by
  have hdeleted : (j.create p file).isDeleted = ((j.create p file).withoutFile p).isDeleted := rfl
  have hmodified : (j.create p file).modified = ((j.create p file).withoutFile p).modified := rfl
  have hentries : (j.create p file).created.entries =
      ((j.create p file).withoutFile p).created.entries ++ [(p, file)] := by
    show (j.created.putLast p file).entries = ((j.created.putLast p file).erase p).entries ++ _
    rw [Bindings.entries_erase_putLast, Bindings.entries_putLast]
  unfold placement
  -- Up to the last file both journals have the same tombstones, edits, folders and files.
  rw [hentries, List.foldl_append, survivors_congr hdeleted hmodified,
    Placement.place_congr hdeleted hmodified]
  rfl

theorem tree_merge_create (j : Journal) (p : Path) (file : File) (base : List Entry) :
    (merge base (j.create p file)).tree =
      (withFile (merge base ((j.create p file).withoutFile p)).tree p (j.edited p file)).1 := by
  unfold merge
  rw [mergeInOrder_tree, mergeInOrder_tree, placement_create,
    Placement.place_tree _ _ (isDeleted_create j p file)]
  rfl

/-- A created file is seen exactly if there is room for it in what is seen `withoutFile`. -/
theorem isFileAt_merge_create_iff {j : Journal} {p : Path} (hp : p.segments ≠ []) (file : File)
    (base : List Entry) :
    isFileAt (merge base (j.create p file)).tree p = true ↔
      hasRoom (merge base ((j.create p file).withoutFile p)).tree p = true := by
  rw [tree_merge_create, isFileAt_withFile_iff hp]

/-- A created file that is seen has the edit that `j` had for its path before. -/
theorem markAt_merge_create {j : Journal} {p : Path} (hp : p.segments ≠ []) {file : File}
    {base : List Entry} (hseen : isFileAt (merge base (j.create p file)).tree p = true) :
    markAt p.segments (merge base (j.create p file)).tree =
      some (.file { j.edited p file with name := p.name }) := by
  rw [isFileAt_merge_create_iff hp] at hseen
  rw [tree_merge_create]
  exact markAt_withFile_self hp _ (by rw [snd_withFile_eq_hasRoom hp, hseen])

end Journal

/-! ## 2. Creating a file in a workspace -/

namespace Workspace

variable {base : List Entry} {w w' : Workspace} {name content : String} {f : File}

/-- What `createFile` leaves behind. -/
theorem createFile_done (h : w.createFile name content = (some f, w')) :
    (Path.parse name).Proper ∧ f.name = (Path.parse name).key ∧ w'.base = w.base ∧
      w'.cache = w.cache ∧ w'.journal = w.journal.create (Path.parse name) f := by
  rcases w.createFile_cases name content with ⟨hnone, -⟩ | ⟨hp, -, -, file, hname, hdone⟩
  · rw [h] at hnone
    simp at hnone
  · rw [h] at hdone
    obtain ⟨hfile, rfl⟩ := Prod.mk.inj hdone
    obtain rfl := Option.some.inj hfile
    exact ⟨hp, hname, record_base w _, record_cache w _, record_journal w _⟩

theorem exists_createFile (hw : w.Sound base)
    (h : w.createFile name content = (some f, w') ∨
      w.createFileWithPath name content = (some f, w')) :
    ∃ (before : Workspace) (key : String),
      before.Sound base ∧ before.createFile key content = (some f, w') := by
  rcases h with h | h
  · exact ⟨w, name, hw, h⟩
  · unfold createFileWithPath at h
    simp only at h
    split at h
    · simp at h
    · have hfolders := hw.createFolders (Path.parse name).ancestors
      split at h
      · rename_i heq
        rw [heq] at hfolders
        exact ⟨_, _, hfolders, h⟩
      · simp at h

theorem Sound.view_createFile (hw : w.Sound base)
    (h : w.createFile name content = (some f, w')) : w'.view = merge base w'.journal := by
  obtain ⟨-, -, hbase, hcache, hjournal⟩ := createFile_done h
  refine hw.view_changed hbase hcache ?_
  rw [hjournal]
  exact Nat.lt_succ_self _

/-- **When a created file is seen.** However the workspace came about, a file that `createFile` or
`createFileWithPath` gives is listed once and stands in the tree exactly if `hasRoom` holds of its
path in what is seen without it. -/
theorem created_file_seen_iff (hbase : Tidy base) (hw : Reachable base w)
    (hcreate : w.createFile name content = (some f, w') ∨
      w.createFileWithPath name content = (some f, w')) :
    let p := Path.parse ("/" ++ f.name)
    ((w'.files.map File.name).count f.name = 1 ∧ isFileAt w'.tree p = true) ↔
      hasRoom (merge base (w'.journal.withoutFile p)).tree p = true := by
  obtain ⟨before, key, hsound, hdone⟩ := exists_createFile (sound_of_reachable hw) hcreate
  obtain ⟨hp, hname, -, -, hjournal⟩ := createFile_done hdone
  have hview := hsound.view_createFile hdone
  -- The name of the file is the key of the path it was created at, which reads back with a slash.
  have hparse : Path.parse ("/" ++ f.name) = Path.parse key := by
    rw [hname]
    exact Path.parse_absolute hp.2
  have hj : w'.journal.Sound := by
    rw [hjournal]
    exact hsound.journal.create hp f
  -- Being listed once and standing in the tree are the same.
  have hlisted : isFileAt w'.tree (Path.parse key) = true →
      (w'.files.map File.name).count f.name = 1 := by
    intro hfile
    rw [tree, hview, isFileAt_merge_iff hbase hj hp] at hfile
    obtain ⟨g, hg, hgname⟩ := hfile
    rw [files, hview]
    refine List.count_eq_one_of_mem (nodup_names_merge hbase hj) (List.mem_map.2 ⟨g, hg, ?_⟩)
    rw [hgname, hname]
  intro p
  show _ ∧ isFileAt w'.tree (Path.parse ("/" ++ f.name)) = true ↔
    hasRoom (merge base (w'.journal.withoutFile (Path.parse ("/" ++ f.name)))).tree
      (Path.parse ("/" ++ f.name)) = true
  rw [hparse, and_iff_right_of_imp hlisted, tree, hview, hjournal]
  exact Journal.isFileAt_merge_create_iff hp.1 f base

/-- A deleted file of the base leaves room for a new one, in a folder that is deleted as well. -/
theorem created_file_seen_again :
    let base : List Entry := [.folder "a" [.file ⟨"b", "markdown", "old", false⟩] false]
    let w := ((start base [] "").deleteFolder "a").2
    let w' := (w.createFileWithPath "a/b" "new").2
    let f : File := ⟨"a/b", "markdown", "new", true⟩
    Tidy base ∧ Reachable base w ∧ w.createFileWithPath "a/b" "new" = (some f, w') ∧
      ((w'.files.map File.name).count "a/b" = 1 ∧ isFileAt w'.tree (Path.parse "/a/b") = true) := by
  intro base w w' f
  have hbase : Tidy base := by decide
  have hw : Reachable base w := ⟨[], "", [.deleteFolder "a"], rfl⟩
  have hfile : (w.createFileWithPath "a/b" "new").1 = some f := by decide +kernel
  have hcreate : w.createFileWithPath "a/b" "new" = (some f, w') := by
    rw [← hfile]
  refine ⟨hbase, hw, hcreate, (created_file_seen_iff hbase hw (.inr hcreate)).2 ?_⟩
  decide +kernel

/-- A file created where the folder `a` was deleted is not seen: the folder comes back in its
place. -/
theorem created_file_unseen :
    let base : List Entry := [.folder "a" [] false]
    let w := ((start base [] "").deleteFolder "a").2
    let w' := (w.createFile "a" "x").2
    Tidy base ∧ Reachable base w ∧
      (w.createFile "a" "x").1 = some ⟨"a", "markdown", "x", true⟩ ∧
      w'.files = [] ∧ isFolderAt w'.tree (Path.parse "/a") = true := by
  intro base w w'
  refine ⟨by decide, ⟨[], "", [.deleteFolder "a"], rfl⟩, ?_, ?_, ?_⟩ <;> decide +kernel

end Workspace

end OverlayShell
