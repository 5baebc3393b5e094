import OverlayShell.Proofs.AttentiveRun
import OverlayShell.Proofs.Barring

/-!
# Folders that stay empty

When a folder is deleted, all that was seen below it gets tombstones of its own, so that it does not
come back with a folder that is created there later. This is enough if the view that was looked at
was up to date, and if so it was for all folders deleted before.
-/

namespace OverlayShell

open Entry

namespace Workspace

variable {base : List Entry} {w w' : Workspace} {name : String}

/-- **When a deleted folder stays empty.** After `deleteFolder`, nothing is seen below `p` in any
`Course` that `CreatesNothingBelow` it, iff the journal `Buries` what the base has below: each entry
has got a tombstone on its way that lies below `p`. It has in an `AttentiveRun` that ends with an
`UpToDate` view. -/
theorem stays_empty_iff (hbase : Tidy base) (hw : Reachable base w)
    (h : w.deleteFolder name = (true, w')) :
    let p := Path.parse name
    ((∀ w'', Course (CreatesNothingBelow p) w' w'' → EmptyBelow p w'') ↔
        w'.journal.Buries base p) ∧
      (AttentiveRun base w → w.UpToDate →
        ∀ w'', Course (CreatesNothingBelow p) w' w'' → EmptyBelow p w'') := by
  intro p
  have hsound := sound_of_reachable hw
  have hsound' := hsound.after_deleteFolder h
  have hdone : FolderDeleted w w' p := deleteFolder_done hsound hbase h
  have hfresh : Fresh base w' := ⟨hsound', hdone.view_eq hsound⟩
  have hsuffices : w'.journal.Buries base p →
      ∀ w'', Course (CreatesNothingBelow p) w' w'' → EmptyBelow p w'' := by
    intro hburies w'' hcourse
    -- What was created at the folder or below was forgotten with it.
    have hinside : ∀ q : Path, q.isWithin p = false → q.isBelow p = false := fun q hq => by
      rw [Path.isBelow, hq, Bool.false_and]
    have hbarred : w'.journal.Barred base p :=
      ⟨fun q hq => hinside q (hdone.emptied.folders q hq),
        fun q hq => hinside q (hdone.emptied.created q hq), hburies⟩
    exact Barred.stays hsound' hbase hbarred hcourse
  refine ⟨⟨fun hempty => hfresh.buries hbase hempty, hsuffices⟩, fun hrun hview => ?_⟩
  refine hsuffices fun q m hq hm => ⟨q, hq, List.prefix_rfl, ?_⟩
  have horderly := hrun.plainRun.orderly_of_upToDate hbase hview
  have hwithin : q.isWithin p = true := (Path.isWithin_iff q p).2 (Path.isBelow_iff.1 hq).1
  exact hdone.isDeleted_inside horderly (hrun.accounted hbase) hm hwithin

/-- A folder that is created where one was deleted starts empty. -/
theorem stays_empty_created_again :
    let base : List Entry := [.folder "a" [.file ⟨"b", "markdown", "x", false⟩] false]
    let w := start base [] ""
    let w' := (w.deleteFolder "a").2
    let w'' := (w'.createFolder "a").2
    Tidy base ∧ Reachable base w ∧ w.deleteFolder "a" = (true, w') ∧
      AttentiveRun base w ∧ w.UpToDate ∧ isFolderAt w''.tree ⟨["a"]⟩ = true ∧
      EmptyBelow ⟨["a"]⟩ w'' := by
  intro base w w' w''
  have hbase : Tidy base := by decide
  have hw : Reachable base w := ⟨[], "", [], rfl⟩
  have hdone : (w.deleteFolder "a").1 = true := by decide +kernel
  have hdelete : w.deleteFolder "a" = (true, w') := by
    rw [← hdone]
  have hrun : AttentiveRun base w := ⟨by decide, [], "", .stay⟩
  have hview : w.UpToDate := rfl
  have hparse : Path.parse "a" = ⟨["a"]⟩ := by decide +kernel
  have hcourse : Course (CreatesNothingBelow (Path.parse "a")) w' w'' := by
    refine Course.stay.go (.createFolder "a") fun q hq => ?_
    rw [List.mem_singleton.1 hq, hparse]
    decide
  have hempty := (stays_empty_iff hbase hw hdelete).2 hrun hview w'' hcourse
  rw [hparse] at hempty
  exact ⟨hbase, hw, hdelete, hrun, hview, by decide +kernel, hempty⟩

/-- A file that came back unseen when its folder was deleted is there again when the folder is
created. -/
theorem unseen_file_back :
    let base : List Entry := [.folder "p" [.file ⟨"a", "markdown", "x", false⟩] false]
    let w := [Operation.deleteFile "p/a", .createFolder "p/a", .deleteFile "p/a",
      .createFolder "p/a"].foldl perform (start base [] "")
    let w' := (w.deleteFolder "p").2
    let w'' := (w'.createFolder "p").2
    Tidy base ∧ Reachable base w ∧ (w.deleteFolder "p").1 = true ∧
      Course (CreatesNothingBelow ⟨["p"]⟩) w' w'' ∧
      w''.files = [⟨"p/a", "markdown", "x", false⟩] ∧ ¬ EmptyBelow ⟨["p"]⟩ w'' := by
  intro base w w' w''
  have hfiles : w''.files = [⟨"p/a", "markdown", "x", false⟩] := by decide +kernel
  refine ⟨by decide, ⟨[], "", _, rfl⟩, by decide +kernel, ?_, hfiles, ?_⟩
  · refine Course.stay.go (.createFolder "p") fun q hq => ?_
    rw [List.mem_singleton.1 hq]
    decide +kernel
  · intro hempty
    have hbelow := hempty.2 _ (by rw [hfiles]; exact List.mem_singleton.2 rfl)
    exact absurd hbelow (by decide +kernel)

end Workspace

end OverlayShell
