import OverlayShell.Proofs.Sparing

/-!
# Deleted folders

A folder is deleted by the look of the present view, and then the view is made anew. Nothing is seen
at the folder or below it any more. That nothing else changes in the flat list takes more: the view
that was looked at must have shown the files outside the folder as the journal has them.
-/

namespace OverlayShell

open Entry

namespace Workspace

variable {base : List Entry} {w w' : Workspace} {lifted : List Path} {name : String} {p : Path}
  {way : List String}

/-! ## 1. After a deletion -/

theorem Sound.hasFile_iff (hw : w.Sound base) (hbase : Tidy base) :
    HasFile way w.tree ↔ Path.Proper ⟨way⟩ ∧ ∃ g ∈ w.files, g.name = Path.key ⟨way⟩ := by
  obtain ⟨lifted, hsound, hseen, -⟩ := hw.seen
  rw [tree, files, hseen]
  exact OverlayShell.hasFile_merge_iff hsound hbase

theorem FolderDeleted.markAt_eq_none (h : FolderDeleted w w' p) (hw : w.Sound base)
    (hw' : w'.Sound base) (hway : p.segments <+: way) : markAt way w'.tree = none := by
  rw [tree, h.view_eq hw]
  exact h.emptied.markAt_merge hw'.journal h.proper.1 base hway

/-- **The flat list after a deletion.** It is the earlier one without the files in `p`, in its
order, exactly if outside of `p` the tree has its files where it had them. -/
theorem FolderDeleted.files_eq_iff (h : FolderDeleted w w' p) (hw : w.Sound base)
    (hw' : w'.Sound base) (hbase : Tidy base) :
    w'.files = w.files.filter (fun f => !f.path.isWithin p) ↔
      ∀ q : Path, q.isWithin p = false → isFileAt w'.tree q = isFileAt w.tree q := by
  constructor
  · intro hfiles q hout
    rw [Bool.eq_iff_iff, isFileAt_iff, isFileAt_iff, hw'.hasFile_iff hbase, hw.hasFile_iff hbase,
      hfiles]
    -- The files of this key are those at the path, which is outside the folder.
    refine and_congr_right fun hproper => exists_congr fun g => ?_
    rw [List.mem_filter, and_right_comm]
    refine and_iff_left_of_imp fun hg => ?_
    rw [File.path_of_key hg.2 hproper.2, hout]
    rfl
  · intro hsame
    obtain ⟨lifted, hmade, hseen, -⟩ := hw.seen
    rw [tree, tree, h.view_eq hw, hseen] at hsame
    rw [files, files, h.view_eq hw, hseen]
    have hedited : ∀ (q : Path) (f : File), (!q.isWithin p) = true →
        w'.journal.edited q f = w.journal.edited q f :=
      fun q f hkeep => h.prunes.edited q f (by simpa using hkeep)
    refine files_eq_filter (fun q => !q.isWithin p) h.prunes.created hedited hbase hmade hw'.journal
      ?_ ?_
    · intro q hkeep
      exact hsame q (by simpa using hkeep)
    · intro q hkeep
      have hwithin : q.isWithin p = true := by simpa using hkeep
      have hnone := h.emptied.markAt_merge hw'.journal h.proper.1 base
        ((Path.isWithin_iff q p).1 hwithin)
      rw [Bool.eq_false_iff, Ne, isFileAt_iff]
      rintro ⟨f, hf⟩
      rw [hnone] at hf
      cases hf

/-! ## 2. What goes and what stays -/

/-- **What a deleted folder takes along.** However the workspace came about, once `deleteFolder`
takes a folder nothing stands at its path or below, the open files below it are closed, and the last
of the others comes to the front if the one in front was among them. `files` loses those in the
folder and nothing else exactly if outside of it the tree has its files where it had them; and so it
is after a `PlainRun`, if the view that was looked at was up to date. -/
theorem deleted_folder_iff (hbase : Tidy base) (hw : Reachable base w)
    (h : w.deleteFolder name = (true, w')) :
    let p := Path.parse name
    (∀ q entry, (q, entry) ∈ walkAll .root w'.tree → q.isWithin p = false) ∧
      w'.openFiles = w.openFiles.filter (fun key => !Text.startsWith (p.key ++ "/") key) ∧
      w'.active = (if Text.startsWith (p.key ++ "/") w.active then lastOpen w'.openFiles
        else w.active) ∧
      (w'.files = w.files.filter (fun f => !f.path.isWithin p) ↔
        ∀ q : Path, q.isWithin p = false → isFileAt w'.tree q = isFileAt w.tree q) ∧
      (PlainRun base w → w.UpToDate →
        w'.files = w.files.filter fun f => !f.path.isWithin p) := by
  intro p
  have hsound := sound_of_reachable hw
  have hsound' := hsound.after_deleteFolder h
  have hdeleted : FolderDeleted w w' p := deleteFolder_done hsound hbase h
  have hfiles := hdeleted.files_eq_iff hsound hsound' hbase
  refine ⟨?_, hdeleted.openFiles, hdeleted.active, hfiles, fun hplain hview => ?_⟩
  · intro q entry hmem
    rw [Path.isWithin_eq_false_iff]
    intro hway
    -- What the walk lists is found by its path, and nothing is found within the folder.
    obtain ⟨way, hq, hfind⟩ :=
      (mem_walkAll_iff (hsound'.tidy_tree hbase).distinct .root q entry).1 hmem
    rw [Path.root, List.nil_append] at hq
    have hnone := hdeleted.markAt_eq_none hsound hsound' hway
    rw [hq, markAt, hfind] at hnone
    cases hnone
  · have horderly := hplain.orderly_of_upToDate hbase hview
    exact hfiles.2 (horderly.spares (horderly.deleteFolder hbase h) hdeleted.prunes).files

/-- Of two files the one in the deleted folder goes and is closed, and the other comes to the
front. -/
theorem deleted_folder_closes :
    let base : List Entry :=
      [.folder "a" [.file ⟨"b", "markdown", "x", false⟩] false, .file ⟨"c", "markdown", "y", false⟩]
    let w := start base ["c", "a/b"] "a/b"
    let w' := (w.deleteFolder "a").2
    Tidy base ∧ Reachable base w ∧ w.deleteFolder "a" = (true, w') ∧ PlainRun base w ∧ w.UpToDate ∧
      w'.files = [⟨"c", "markdown", "y", false⟩] ∧ w'.openFiles = ["c"] ∧ w'.active = "c" := by
  intro base w w'
  have hbase : Tidy base := by decide
  have hw : Reachable base w := ⟨["c", "a/b"], "a/b", [], rfl⟩
  have hdone : (w.deleteFolder "a").1 = true := by decide +kernel
  have hdelete : w.deleteFolder "a" = (true, w') := by
    rw [← hdone]
  have hplain : PlainRun base w := ⟨by decide, ["c", "a/b"], "a/b", .stay⟩
  have hview : w.UpToDate := rfl
  obtain ⟨-, hopen, hactive, -, hfiles⟩ := deleted_folder_iff hbase hw hdelete
  refine ⟨hbase, hw, hdelete, hplain, hview, ?_, ?_, ?_⟩
  · rw [hfiles hplain hview]
    decide +kernel
  · rw [hopen]
    decide +kernel
  · rw [hactive, hopen]
    decide +kernel

/-- A file that came back unseen, since its tombstone went silently, is listed once another folder
is deleted. -/
theorem deleted_folder_shows_file :
    let base : List Entry := [.file ⟨"a", "markdown", "y", false⟩, .folder "x" [] false]
    let w := [Operation.deleteFile "a", .createFolder "a", .deleteFile "a",
      .createFolder "a"].foldl perform (start base [] "")
    let w' := (w.deleteFolder "x").2
    Tidy base ∧ Reachable base w ∧ (w.deleteFolder "x").1 = true ∧ w.files = [] ∧
      w'.files = [⟨"a", "markdown", "y", false⟩] := by
  intro base w w'
  refine ⟨by decide, ⟨[], "", _, rfl⟩, ?_, ?_, ?_⟩ <;> decide +kernel

end Workspace

end OverlayShell
