import OverlayShell.Proofs.CreatedFile

/-!
# The content of created files

An edit of a path is laid over whatever file is seen there. Deleting a file forgets the edit of its
path, but creating one does not: a file that is created, or replaced, comes to be seen with the edit
that was recorded before it.
-/

namespace OverlayShell

open Entry

namespace Workspace

variable {base : List Entry} {w w' : Workspace} {name content : String} {f g : File}

theorem content_createFile (h : w.createFile name content = (some f, w')) :
    f.content = content := by
  unfold createFile at h
  simp only at h
  split at h
  · simp at h
  split at h
  · simp at h
  split at h
  · simp at h
  · obtain ⟨hf, -⟩ := Prod.mk.inj h
    rw [← Option.some.inj hf]

section Shown

variable (hbase : Tidy base) (hw : w.Sound base)
  (h : w.createFile name content = (some f, w'))

include hbase hw h

/-- A created file that is listed stands in the tree with the earlier edit of its path, if
`journal.modified` has one. -/
theorem Sound.markAt_createFile (hlisted : ∃ g ∈ w'.files, g.name = f.name) :
    markAt (Path.parse name).segments w'.tree =
      some (.file { f with
        name := (Path.parse name).name
        content := (w.journal.modified.get? (Path.parse name)).getD content }) := by
  obtain ⟨hp, hname, -, -, hjournal⟩ := createFile_done h
  have hview : w'.view = merge base (w.journal.create (Path.parse name) f) := by
    rw [← hjournal]
    exact hw.view_createFile h
  have hj := hw.journal.create hp f
  rw [files, hview, hname, ← isFileAt_merge_iff hbase hj hp] at hlisted
  rw [tree, hview, Journal.markAt_merge_create hp.1 hlisted, Journal.edited_eq,
    content_createFile h]

theorem Sound.content_listed (hg : g ∈ w'.files) (hname : g.name = f.name) :
    g.content = (w.journal.modified.get? (Path.parse name)).getD content := by
  have hmark := hw.markAt_createFile hbase h ⟨g, hg, hname⟩
  obtain ⟨hp, hkey, -, -, -⟩ := createFile_done h
  have hw' : w'.Sound base := by
    have hnext := hw.createFile name content
    rwa [h] at hnext
  -- The listed file is the one that stands at the path, under another name.
  obtain ⟨q, hq, f', hf', rfl⟩ := (hw'.mem_files_iff hbase).1 hg
  obtain rfl : q = Path.parse name := Path.key_injective hq.2 hp.2 (hname.trans hkey)
  rw [hmark] at hf'
  obtain rfl := Mark.file.inj (Option.some.inj hf')
  rfl

end Shown

/-- **When the last write wins.** However the workspace came about, a file that `createFile` gives
and `files` lists is shown with the `content` it was created with, in the flat list and in the tree,
exactly if `modified` had no other content for its path before. -/
theorem created_content_iff (hbase : Tidy base) (hw : Reachable base w)
    (h : w.createFile name content = (some f, w')) (hlisted : ∃ g ∈ w'.files, g.name = f.name) :
    let p := Path.parse ("/" ++ f.name)
    ((∀ g ∈ w'.files, g.name = f.name → g.content = content) ∧
        ∃ g, lookup w'.tree p = some (.file g) ∧ g.content = content) ↔
      ∀ edit, w.journal.modified.get? p = some edit → edit = content := by
  have hsound := sound_of_reachable hw
  obtain ⟨hp, hname, -, -, -⟩ := createFile_done h
  have hparse : Path.parse ("/" ++ f.name) = Path.parse name := by
    rw [hname]
    exact Path.parse_absolute hp.2
  have hmark := hsound.markAt_createFile hbase h hlisted
  intro p
  rw [show p = Path.parse name from hparse]
  -- Both sides say that the content that is shown is the one asked for.
  have hright : (∀ edit, w.journal.modified.get? (Path.parse name) = some edit → edit = content) ↔
      (w.journal.modified.get? (Path.parse name)).getD content = content := by
    cases w.journal.modified.get? (Path.parse name) <;> simp
  rw [hright]
  constructor
  · rintro ⟨-, g, hg, hcontent⟩
    rw [lookup_eq_file_iff, hmark] at hg
    obtain rfl := Mark.file.inj (Option.some.inj hg)
    exact hcontent
  · intro hshown
    refine ⟨fun g hg hgname => ?_, _, lookup_eq_file_iff.2 hmark, hshown⟩
    rw [hsound.content_listed hbase h hg hgname, hshown]

/-- The edit of a deleted file is forgotten, so a new one shows its own content. -/
theorem created_content_after_deletion :
    let base : List Entry := [.file ⟨"a", "markdown", "x", false⟩]
    let w := [Operation.update "a" "old", .deleteFile "a"].foldl perform (start base [] "")
    let w' := (w.createFile "a" "new").2
    let f : File := ⟨"a", "markdown", "new", true⟩
    Tidy base ∧ Reachable base w ∧ w.createFile "a" "new" = (some f, w') ∧
      (∃ g ∈ w'.files, g.name = "a") ∧ (∀ g ∈ w'.files, g.name = "a" → g.content = "new") ∧
      ∃ g, lookup w'.tree (Path.parse "/a") = some (.file g) ∧ g.content = "new" := by
  intro base w w' f
  have hbase : Tidy base := by decide
  have hw : Reachable base w := ⟨[], "", _, rfl⟩
  have hfile : (w.createFile "a" "new").1 = some f := by decide +kernel
  have hcreate : w.createFile "a" "new" = (some f, w') := by
    rw [← hfile]
  have hlisted : ∃ g ∈ w'.files, g.name = "a" := by decide +kernel
  have hnoEdit : w.journal.modified.get? (Path.parse "/a") = none := by decide +kernel
  refine ⟨hbase, hw, hcreate, hlisted, (created_content_iff hbase hw hcreate hlisted).2 ?_⟩
  intro edit hedit
  rw [show Path.parse ("/" ++ f.name) = Path.parse "/a" from rfl, hnoEdit] at hedit
  cases hedit

/-- A file that replaces an edited one is shown with the `old` edit. -/
theorem created_content_behind_edit :
    let base : List Entry := [.file ⟨"a", "markdown", "x", false⟩]
    let w := perform (start base [] "") (.update "a" "old")
    let w' := (w.createFile "a" "new").2
    Tidy base ∧ Reachable base w ∧
      (w.createFile "a" "new").1 = some ⟨"a", "markdown", "new", true⟩ ∧
      w'.files = [⟨"a", "markdown", "old", true⟩] ∧
      lookup w'.tree (Path.parse "/a") = some (.file ⟨"a", "markdown", "old", true⟩) := by
  intro base w w'
  refine ⟨by decide, ⟨[], "", [.update "a" "old"], rfl⟩, ?_, ?_, lookup_eq_file_iff.2 ?_⟩ <;>
    decide +kernel

end Workspace

end OverlayShell
