import OverlayShell.Proofs.Uncovering
import OverlayShell.Proofs.WorkspaceRun

/-!
# Created folders

A folder is created by the look of the present view, where no file is in its way. The creation
takes away the tombstone of its path: what the base has there comes up again, and may bring files
that nobody asked for or stand in the place of the folder.
-/

namespace OverlayShell

open Entry

namespace Journal

variable {j : Journal} {p : Path}

/-- A new folder uncovers what lay under the tombstone of its path, and what lay under those
`lifted` for the earlier view. -/
theorem uncovers_addFolder (h : j.hasFolder p = false) (lifted : List Path) :
    (j.buried lifted).Uncovers (j.addFolder p) where
  created := by rw [addFolder_of_new h]; rfl
  modified := by rw [addFolder_of_new h]; rfl
  deleted := by
    intro q hq
    rw [isDeleted_addFolder, Bool.and_eq_true] at hq
    rw [isDeleted_buried, hq.1, Bool.true_or]
  folders := by
    intro q hq
    rw [addFolder_of_new h]
    exact List.mem_append_left _ hq

end Journal

namespace Workspace

variable {base : List Entry} {w w' : Workspace} {name : String}

theorem Sound.created_folder_new_iff (hw : w.Sound base) (hbase : Tidy base)
    (hcreate : w.createFolder name = (true, w'))
    (hnew : w.journal.hasFolder (Path.parse name) = false) :
    isFolderAt w'.tree (Path.parse name) = true ∧ w'.files = w.files ↔
      Fits (survivors w'.journal .root base) w.tree := by
  -- The folder was not refused, so its path is proper and no file was seen in its way.
  rcases w.createFolder_cases name with ⟨hfalse, -⟩ | ⟨hp, hfree, hdone⟩
  · rw [hcreate] at hfalse
    simp at hfalse
  rw [hcreate] at hdone
  obtain ⟨-, rfl⟩ := Prod.mk.inj hdone
  have hjournal : (w.refresh.record (.addFolder (Path.parse name))).journal =
      w.journal.addFolder (Path.parse name) := record_journal _ _
  have hview : (w.refresh.record (.addFolder (Path.parse name))).view =
      merge base (w.journal.addFolder (Path.parse name)) := by
    rw [← hjournal]
    refine hw.refresh.view_changed (record_base _ _) (record_cache _ _) ?_
    rw [hjournal, Journal.addFolder_of_new hnew]
    exact Nat.lt_succ_self _
  have hnow : (w.journal.addFolder (Path.parse name)).Sound := hw.journal.addFolder hp
  obtain ⟨lifted, hmade, hseen, hlifted⟩ := hw.seen
  have huncovers := Journal.uncovers_addFolder hnew lifted
  rw [tree, files, files, tree, hview, hjournal, hseen]
  rw [tree, hseen] at hfree
  constructor
  · rintro ⟨-, hfiles⟩
    exact fits_of_files_eq hbase hmade hnow hfiles
  · intro hfits
    refine ⟨?_, files_eq_of_fits hbase hmade huncovers hfits ?_⟩
    · -- No file that is kept obstructs the way, since none was seen there.
      have hkept : isObstructed (Path.parse name).segments
          (survivors (w.journal.addFolder (Path.parse name)) .root base) = false :=
        free_of_free (fun way => (hfits way).1) hfree
      rw [isFolderAt_iff hp.1]
      refine hasFolder_merge_of_withFolders hnow ((hasFolder_withFolders _ _).2 (.inr ?_))
      refine ⟨hp.1, hkept, Path.parse name, mem_foldersByDepth.2 ?_, ?_, List.prefix_rfl⟩
      · rw [Journal.addFolder_of_new hnew]
        exact List.mem_append_right _ (List.mem_singleton.2 rfl)
      · rw [Journal.isDeleted_addFolder, bne_self_eq_false, Bool.and_false]
    · -- A folder shown only now is the new one or one whose tombstone was put back.
      intro q hq hdel
      rw [Journal.isDeleted_addFolder] at hdel
      by_cases hqp : q = Path.parse name
      · rw [hqp]
        exact .inr hfree
      · rw [bne_iff_ne.2 hqp, Bool.and_true] at hdel
        rw [Journal.addFolder_of_new hnew] at hq
        have hold : q ∈ w.journal.folders := by simpa [Journal.bump, hqp] using hq
        rw [Journal.isDeleted_buried, hdel, Bool.false_or]
        cases hcontains : lifted.contains q with
        | false => exact .inl ⟨hold, rfl⟩
        | true =>
          have hfreeq := (hlifted q (List.contains_iff_mem.1 hcontains)).2
          rw [tree, hseen] at hfreeq
          exact .inr hfreeq

/-- **When a created folder is there and touches no file.** However the workspace came about, a
folder that `createFolder` gives stands in its place with `files` unchanged exactly in these cases:
one created before stood there already, and for a new one what the base shows then fits what was
seen. -/
theorem created_folder_iff (hbase : Tidy base) (hw : Reachable base w)
    (hcreate : w.createFolder name = (true, w')) :
    let p := Path.parse name
    isFolderAt w'.tree (Path.parse p.absolute) = true ∧ w'.files = w.files ↔
      if w.journal.hasFolder p then isFolderAt w.tree p = true
      else Fits (survivors w'.journal .root base) w.tree := by
  have hsound := sound_of_reachable hw
  intro p
  rw [Path.parse_absolute (Path.parse_normal name)]
  by_cases hfolder : w.journal.hasFolder p = true
  -- A folder created before keeps the view, so all depends on what was seen.
  · rw [if_pos hfolder]
    rcases w.createFolder_cases name with ⟨hfalse, -⟩ | ⟨-, -, hdone⟩
    · rw [hcreate] at hfalse
      simp at hfalse
    rw [hcreate] at hdone
    obtain ⟨-, rfl⟩ := Prod.mk.inj hdone
    have hview := view_recordFolder_again (isCurrent_refresh w) hfolder
    rw [tree, files, hview, view_refresh, files, tree]
    exact and_iff_left rfl
  · rw [if_neg hfolder]
    exact hsound.created_folder_new_iff hbase hcreate (by simpa using hfolder)

/-- Below the place of a deleted file a folder can be created, and the file stays away. -/
theorem created_folder_below_deleted :
    let base : List Entry := [.file ⟨"a", "markdown", "x", false⟩]
    let w := ((start base [] "").deleteFile "a").2
    let w' := (w.createFolder "a/b").2
    Tidy base ∧ Reachable base w ∧ w.createFolder "a/b" = (true, w') ∧
      isFolderAt w'.tree (Path.parse "/a/b") = true ∧ w'.files = w.files := by
  intro base w w'
  have hbase : Tidy base := by decide
  have hw : Reachable base w := ⟨[], "", [.deleteFile "a"], rfl⟩
  have hdone : (w.createFolder "a/b").1 = true := by decide +kernel
  have hcreate : w.createFolder "a/b" = (true, w') := by
    rw [← hdone]
  have hnew : w.journal.hasFolder (Path.parse "a/b") = false := by decide +kernel
  have hkept : survivors w'.journal .root base = [] := by
    have hdel : w'.journal.isDeleted ⟨["a"]⟩ = true := by decide +kernel
    simp [base, survivors, surviving, Path.child, Path.root, hdel]
  refine ⟨hbase, hw, hcreate, (created_folder_iff hbase hw hcreate).2 ?_⟩
  rw [if_neg (by rw [hnew]; simp), hkept]
  intro way
  simp [HasFile, HasFolder]

/-- A folder created where the file `a` was deleted is not there: the file comes back in its
place. -/
theorem created_folder_missing :
    let base : List Entry := [.file ⟨"a", "markdown", "x", false⟩]
    let w := ((start base [] "").deleteFile "a").2
    let w' := (w.createFolder "a").2
    Tidy base ∧ Reachable base w ∧ (w.createFolder "a").1 = true ∧
      isFileAt w'.tree (Path.parse "/a") = true ∧ w.files = [] ∧
      w'.files = [⟨"a", "markdown", "x", false⟩] := by
  intro base w w'
  refine ⟨by decide, ⟨[], "", [.deleteFile "a"], rfl⟩, ?_, ?_, ?_, ?_⟩ <;> decide +kernel

end Workspace

end OverlayShell
