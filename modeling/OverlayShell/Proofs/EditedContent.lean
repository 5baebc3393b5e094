import OverlayShell.Proofs.DeletedFile
import OverlayShell.Proofs.Revising

/-!
# The content of edited files

An edit is recorded at the path of the name it is asked for with, whereas a file is found by its key
or, failing that, by its key in another case. So an edit by a name is read back under that name
exactly if a file stands at its very path, or the file that is found there without regard to case
had the content all along.
-/

namespace OverlayShell

open Entry

namespace Workspace

variable {base : List Entry} {w : Workspace} {name content : String} {f g : File}

/-! ## 1. The view of an edit -/

theorem findFile_map (change : File → File) (hname : ∀ f, (change f).name = f.name)
    (files : List File) (key : String) :
    findFile (files.map change) key = (findFile files key).map change := by
  unfold findFile
  rw [List.find?_map, List.find?_map]
  simp only [Function.comp_def, hname]
  -- Whether the second search is made depends on the first alone.
  cases files.find? (·.name = key) <;> rfl

/-- An edit by `update` is seen as a `revise` of `merge base w.journal`, whatever `w.view` was
before it. -/
theorem Sound.view_update (hw : w.Sound base) (hbase : Tidy base) (name content : String) :
    (w.update name content).view =
      (merge base w.journal).revise (.replacing (Path.parse name) content) := by
  -- It gives the journal a new version, so the remembered view is not shown again.
  have hview : (w.update name content).view =
      merge base (w.journal.modify (Path.parse name) content) :=
    hw.view_changed (record_base w _) (record_cache w _) (Nat.lt_succ_self w.journal.version)
  rw [hview, (Journal.revised_modify w.journal (Path.parse name) content).merge hbase hw.journal]

theorem Sound.files_update (hw : w.Sound base) (hbase : Tidy base) (name content : String) :
    (w.update name content).files = (merge base w.journal).files.map fun f =>
      f.revise (.replacing (Path.parse name) content) f.path := by
  rw [files, hw.view_update hbase]
  rfl

theorem findFile_merge {j : Journal} (hbase : Tidy base) (hj : j.Sound) {p : Path}
    (hfile : isFileAt (merge base j).tree p = true) :
    ∃ f, findFile (merge base j).files p.key = some f ∧ f.path = p := by
  obtain ⟨hproper, hlisted⟩ := (hasFile_merge_iff hj hbase).1 (isFileAt_iff.1 hfile)
  obtain ⟨f, hfind, hkey⟩ := findFile_of_listed hlisted
  exact ⟨f, hfind, File.path_of_key hkey hproper.2⟩

/-- `read?` after `update` gives the edit where `isFileAt` holds of the path in the merge, and the
content the merge lists under the key otherwise. -/
theorem Sound.read?_update (hw : w.Sound base) (hbase : Tidy base) (name content : String) :
    let now := merge base w.journal
    (w.update name content).read? name =
      if isFileAt now.tree (Path.parse name) = true then some content
      else (findFile now.files (Path.parse name).key).map File.content := by
  intro now
  have hread : (w.update name content).read? name = (findFile now.files (Path.parse name).key).map
      fun f => Revision.replacing (Path.parse name) content f.path f.content := by
    rw [read?, file?, hw.files_update hbase,
      findFile_map (fun f => f.revise _ f.path) fun f => rfl, Option.map_map]
    rfl
  rw [hread]
  split
  · rename_i hfile
    obtain ⟨f, hfind, hpath⟩ := findFile_merge hbase hw.journal hfile
    rw [hfind, Option.map_some, Revision.replacing, if_pos hpath]
  · rename_i hnone
    cases hfind : findFile now.files (Path.parse name).key with
    | none => rfl
    | some f =>
      -- A listed file stands in the tree, so the one that is found stands elsewhere.
      have hne : f.path ≠ Path.parse name := by
        intro hpath
        refine hnone (isFileAt_iff.2 ?_)
        rw [← hpath]
        exact (of_mem_files_merge hbase hw.journal (mem_of_findFile hfind)).2.2
      rw [Option.map_some, Option.map_some, Revision.replacing, if_neg hne]

/-! ## 2. The other files -/

/-- `w'` differs from `w` in the file `f` alone: `content` is read back under `name`, and every
other file of `w` is still listed with the content it had. -/
structure EditedAlone (w w' : Workspace) (name content : String) (f : File) : Prop where
  read : w'.read? name = some content
  others : ∀ g ∈ w.files, g ≠ f → ∃ g' ∈ w'.files, g'.name = g.name ∧ g'.content = g.content

theorem Sound.isFileAt_iff_of_file? (hw : w.Sound base) (hbase : Tidy base)
    (hf : w.file? name = some f) :
    isFileAt w.tree (Path.parse name) = true ↔ f.name = (Path.parse name).key := by
  rw [isFileAt_iff]
  constructor
  · intro hfile
    obtain ⟨-, hlisted⟩ := (hw.hasFile_iff hbase).1 hfile
    obtain ⟨f', hfind, hkey⟩ := findFile_of_listed hlisted
    obtain rfl : f' = f := Option.some.inj (hfind.symm.trans hf)
    exact hkey
  · intro hkey
    have hstands := (hw.of_mem_files hbase (mem_of_findFile hf)).2.2
    rwa [File.path_of_key hkey (Path.parse_normal name)] at hstands

theorem Sound.path_ne_of_file? (hw : w.Sound base) (hbase : Tidy base) (hf : w.file? name = some f)
    (hg : g ∈ w.files) (hne : g ≠ f) : g.path ≠ Path.parse name := by
  intro hpath
  have hfile : isFileAt w.tree (Path.parse name) = true := by
    rw [← hpath]
    exact isFileAt_iff.2 (hw.of_mem_files hbase hg).2.2
  have hkey := (hw.isFileAt_iff_of_file? hbase hf).1 hfile
  refine hne (hw.eq_of_path_eq hbase hg (mem_of_findFile hf) ?_)
  rw [hpath, File.path_of_key hkey (Path.parse_normal name)]

theorem Sound.mem_files_merge (hw : w.Sound base) (hbase : Tidy base) (hg : g ∈ w.files)
    (hfile : isFileAt (merge base w.journal).tree g.path = true) :
    g ∈ (merge base w.journal).files := by
  obtain ⟨lifted, hmade, hseen, -⟩ := hw.seen
  rw [files, hseen] at hg
  -- The tombstones that were put back touch neither what was created nor what was edited.
  have hcreated : w.journal.created.entries.filter (fun _ => true) =
    (w.journal.buried lifted).created.entries.filter fun _ => true := rfl
  have hedited : ∀ p f, true = true →
    w.journal.edited p f = (w.journal.buried lifted).edited p f := fun _ _ _ => rfl
  exact mem_files_of_seen _ hcreated hedited hbase hmade hw.journal hg rfl hfile

/-- Another file `g` of `w.files` survives `update` with its content iff the merge of the present
journal has a file at `g.path`. -/
theorem Sound.others_update_iff (hw : w.Sound base) (hbase : Tidy base)
    (hf : w.file? name = some f) (hg : g ∈ w.files) (hne : g ≠ f) (content : String) :
    (∃ g' ∈ (w.update name content).files, g'.name = g.name ∧ g'.content = g.content) ↔
      isFileAt (merge base w.journal).tree g.path = true := by
  obtain ⟨hproper, hname, -⟩ := hw.of_mem_files hbase hg
  rw [hw.files_update hbase]
  constructor
  · rintro ⟨g', hg', hname', -⟩
    obtain ⟨e, he, rfl⟩ := List.mem_map.1 hg'
    -- The revised file has the name of the one it was made from.
    refine (isFileAt_merge_iff hbase hw.journal hproper).2 ⟨e, he, ?_⟩
    rw [← hname]
    exact hname'
  · intro hfile
    refine ⟨_, List.mem_map_of_mem (hw.mem_files_merge hbase hg hfile), rfl, ?_⟩
    exact if_neg (hw.path_ne_of_file? hbase hf hg hne)

/-! ## 3. Reading an edit back -/

theorem Sound.editedAlone_iff (hw : w.Sound base) (hbase : Tidy base) (hf : w.file? name = some f)
    (content : String) :
    let now := merge base w.journal
    EditedAlone w (w.update name content) name content f ↔
      (isFileAt now.tree (Path.parse name) = true ∨
          (findFile now.files (Path.parse name).key).map File.content = some content) ∧
        ∀ g ∈ w.files, g ≠ f → isFileAt now.tree g.path = true := by
  intro now
  -- The first condition is the one on reading, and the second that on each other file.
  have hread : (w.update name content).read? name = some content ↔
      isFileAt now.tree (Path.parse name) = true ∨
        (findFile now.files (Path.parse name).key).map File.content = some content := by
    rw [hw.read?_update hbase]
    by_cases hfile : isFileAt now.tree (Path.parse name) = true
    · rw [if_pos hfile]
      exact iff_of_true rfl (.inl hfile)
    · rw [if_neg hfile, or_iff_right hfile]
  rw [← hread]
  constructor
  · intro h
    exact ⟨h.read, fun g hg hne =>
      (hw.others_update_iff hbase hf hg hne content).1 (h.others g hg hne)⟩
  · rintro ⟨h, hothers⟩
    exact ⟨h, fun g hg hne =>
      (hw.others_update_iff hbase hf hg hne content).2 (hothers g hg hne)⟩

/-- **When an edit is read back.** For every `Reachable` workspace, `update name content` leaves
`EditedAlone` iff the merge of the journal as it is now has a file at the path of `name`, or lists
`content` under its key anyway, and has a file wherever the other files of `w.files` stand. Where
`w.view` is that merge, it does iff `f` has the very key of the path or had `content` before. -/
theorem edit_read_back_iff (hbase : Tidy base) (hw : Reachable base w)
    (hf : w.file? name = some f) (content : String) :
    let now := merge base w.journal
    let p := Path.parse name
    (EditedAlone w (w.update name content) name content f ↔
        (isFileAt now.tree p = true ∨
            (findFile now.files p.key).map File.content = some content) ∧
          ∀ g ∈ w.files, g ≠ f → isFileAt now.tree g.path = true) ∧
      (w.view = now →
        (EditedAlone w (w.update name content) name content f ↔
          f.name = p.key ∨ f.content = content)) := by
  have hsound := sound_of_reachable hw
  intro now p
  have hiff := hsound.editedAlone_iff hbase hf content
  refine ⟨hiff, fun hview => hiff.trans ?_⟩
  -- What is listed stands in the tree, so the other files are there and only the key is asked for.
  have hothers : ∀ g ∈ w.files, g ≠ f → isFileAt w.tree g.path = true := fun g hg _ =>
    isFileAt_iff.2 (hsound.of_mem_files hbase hg).2.2
  have hfound : findFile w.files p.key = some f := hf
  rw [show merge base w.journal = w.view from hview.symm]
  show (isFileAt w.tree p = true ∨ (findFile w.files p.key).map File.content = some content) ∧
    (∀ g ∈ w.files, g ≠ f → isFileAt w.tree g.path = true) ↔ _
  rw [and_iff_left hothers, hsound.isFileAt_iff_of_file? hbase hf, hfound, Option.map_some,
    Option.some.injEq]

/-- Of two files whose names differ in case, `update` edits the one with the very name. -/
theorem edit_read_back_beside_sibling :
    let base : List Entry := [.folder "d"
      [.file ⟨"a", "markdown", "x", false⟩, .file ⟨"A", "markdown", "z", false⟩] false]
    let w := start base [] ""
    let f : File := ⟨"d/A", "markdown", "z", false⟩
    Tidy base ∧ Reachable base w ∧ w.file? "~/d/A" = some f ∧
      EditedAlone w (w.update "~/d/A" "y") "~/d/A" "y" f := by
  intro base w f
  have hbase : Tidy base := by decide
  have hw : Reachable base w := ⟨[], "", [], rfl⟩
  have hf : w.file? "~/d/A" = some f := by decide +kernel
  obtain ⟨-, hseen⟩ := edit_read_back_iff hbase hw hf "y"
  exact ⟨hbase, hw, hf, (hseen rfl).2 (.inl (by decide +kernel))⟩

/-- `file?` finds a file by a name in another case, and the edit by that name is lost. -/
theorem edit_in_another_case_unread :
    let base : List Entry := [.file ⟨"a", "markdown", "x", false⟩]
    let w := start base [] ""
    Tidy base ∧ Reachable base w ∧ w.file? "A" = some ⟨"a", "markdown", "x", false⟩ ∧
      (w.update "A" "y").read? "A" = some "x" ∧
      (w.update "A" "y").files = w.files := by
  intro base w
  refine ⟨by decide, ⟨[], "", [], rfl⟩, ?_, ?_, ?_⟩ <;> decide +kernel

end Workspace

end OverlayShell
