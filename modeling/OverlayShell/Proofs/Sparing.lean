import OverlayShell.Proofs.PlainRun

/-!
# What a deletion spares

A deletion names one path. Outside of it every file stays, and every folder but for those on the way
to the path that were there only for what is deleted: a folder above it that the base does not have
and that nobody created is supplied by the view, as long as something below needs it.
-/

namespace OverlayShell

open Entry

namespace Workspace

variable {base : List Entry} {w w' : Workspace} {p : Path}

/-- Outside `p` files and folders stand where they stood, but for the folders above it that
`w'.journal` no longer `Supports`. -/
structure Spares (base : List Entry) (w w' : Workspace) (p : Path) : Prop where
  files : ∀ q : Path, q.isWithin p = false → isFileAt w'.tree q = isFileAt w.tree q
  folders : ∀ q : Path, q.isWithin p = false → q.segments ≠ [] →
    (isFolderAt w'.tree q = true ↔ isFolderAt w.tree q = true ∧
      (p.isWithin q = true → w'.journal.Supports base q.segments))

/-- Pruning `Spares` all outside of `p`, if `w.tree` is the merge of an orderly journal. -/
theorem Orderly.spares (h : w.Orderly base []) (h' : w'.Orderly base [])
    (hprunes : w.journal.Prunes p w'.journal) : Spares base w w' p := by
  have htree := h.tree_eq
  have htree' := h'.tree_eq
  rw [Journal.buried_nil] at htree htree'
  refine ⟨fun q hout => ?_, fun q hout hroot => ?_⟩
  · rw [Bool.eq_iff_iff, isFileAt_iff, isFileAt_iff, htree, htree']
    exact hprunes.hasFile_iff h.sound.journal h'.sound.journal h.journal.clear h'.journal.clear hout
  · rw [isFolderAt_iff hroot, isFolderAt_iff hroot, htree, htree', Path.isWithin_iff]
    exact hprunes.hasFolder_iff h.sound.journal h'.sound.journal h.journal.clear h'.journal.clear
      hout hroot

/-- **A deletion takes what is named.** At the end of a `PlainRun` with an `UpToDate` view,
`deleteFolder` takes along what is at the path and below, `deleteFile` the file itself; all else
stays in its place as the file or the folder it was, except a folder above that is neither kept of
the base nor wanted for what else the journal has. -/
theorem deletion_spares (hbase : Tidy base) (hrun : PlainRun base w) (hview : w.UpToDate) :
    (∀ name w', w.deleteFolder name = (true, w') → Spares base w w' (Path.parse name)) ∧
      ∀ name w', w.deleteFile name = (true, w') →
        ∃ f, w.file? name = some f ∧ Spares base w w' f.path := by
  have horderly := hrun.orderly_of_upToDate hbase hview
  refine ⟨fun name w' hdone => ?_, fun name w' hdone => ?_⟩
  · have hdeleted := deleteFolder_done horderly.sound hbase hdone
    exact horderly.spares (horderly.deleteFolder hbase hdone) hdeleted.prunes
  · obtain ⟨f, hfind, -, hjournal, hnext⟩ := horderly.deleteFile_done hbase hrun.1 hdone
    refine ⟨f, hfind, horderly.spares hnext ?_⟩
    rw [hjournal]
    exact .delete _ ((Path.isWithin_iff _ _).2 List.prefix_rfl)

/-- A folder that was created as such stays when the one file in it is deleted, and so does the file
of the base. -/
theorem deletion_spares_created_folder :
    let base : List Entry := [.folder "a" [.file ⟨"b", "markdown", "x", false⟩] false]
    let w := [Operation.createFolder "c", .createFile "c/d" "y"].foldl perform (start base [] "")
    let w' := (w.deleteFile "c/d").2
    Tidy base ∧ PlainRun base w ∧ w.UpToDate ∧ w.deleteFile "c/d" = (true, w') ∧
      isFolderAt w'.tree ⟨["c"]⟩ = true ∧ isFileAt w'.tree ⟨["a", "b"]⟩ = true := by
  intro base w w'
  have hbase : Tidy base := by decide
  have hrun : PlainRun base w :=
    ⟨by decide, [], "", (Course.stay.go (.createFolder "c") (by decide)).go
      (.createFile "c/d" "y") (by decide)⟩
  have hview : w.UpToDate := view_of_not_current (by decide +kernel)
  have hdone : (w.deleteFile "c/d").1 = true := by decide +kernel
  have hdelete : w.deleteFile "c/d" = (true, w') := by
    rw [← hdone]
  obtain ⟨-, hfiles⟩ := deletion_spares hbase hrun hview
  obtain ⟨f, hfind, hspares⟩ := hfiles "c/d" w' hdelete
  have hpath : f.path = ⟨["c", "d"]⟩ := by
    have hmap : (w.file? "c/d").map File.path = some ⟨["c", "d"]⟩ := by decide +kernel
    rw [hfind] at hmap
    exact Option.some.inj hmap
  rw [hpath] at hspares
  refine ⟨hbase, hrun, hview, hdelete, ?_, ?_⟩
  · refine (hspares.folders ⟨["c"]⟩ (by decide) (by decide)).2 ⟨by decide +kernel, fun _ => ?_⟩
    exact .inr (.inl ⟨⟨["c"]⟩, by decide +kernel, by decide +kernel, List.prefix_rfl⟩)
  · rw [hspares.files ⟨["a", "b"]⟩ (by decide)]
    decide +kernel

/-- A folder that was supplied for a created file is gone with it. -/
theorem deletion_takes_parent :
    let w := ((start [] [] "").createFile "a/b" "x").2
    let w' := (w.deleteFile "a/b").2
    Tidy [] ∧ Reachable [] w ∧ (w.deleteFile "a/b").1 = true ∧
      isFolderAt w.tree ⟨["a"]⟩ = true ∧ isFolderAt w'.tree ⟨["a"]⟩ = false := by
  intro w w'
  refine ⟨by decide, ⟨[], "", [.createFile "a/b" "x"], rfl⟩, ?_, ?_, ?_⟩ <;> decide +kernel

end Workspace

end OverlayShell
