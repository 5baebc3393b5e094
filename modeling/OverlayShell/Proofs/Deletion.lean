import OverlayShell.Proofs.Pruning
import OverlayShell.Proofs.WorkspaceRun

/-!
# What a deletion leaves

A deleted file leaves a tombstone. A deleted folder leaves a tombstone at its own path and one at
every path that was seen below it, and nothing created there. Either way the journal is pruned at
the path that was named, and the open files below it are closed.
-/

namespace OverlayShell

open Entry

/-! ## 1. Contents -/

namespace Entry

theorem contents_of_find? {way : List String} {entries children : List Entry} {n : String}
    {isOpen : Bool} (h : find? way entries = some (.folder n children isOpen)) :
    contents way entries = children := by
  induction way generalizing entries with
  | nil => cases entries <;> cases h
  | cons s rest ih =>
    cases rest with
    | nil =>
      have hfind : entries.find? (·.name = s) = some (.folder n children isOpen) := h
      rw [contents, hfind]
      rfl
    | cons t rest =>
      rw [find?_cons_cons] at h
      obtain ⟨first, hfirst, hrest⟩ := Option.bind_eq_some_iff.1 h
      rw [contents, hfirst]
      cases first with
      | file f =>
        rw [show (Entry.file f).children = [] from rfl, find?_no_entries] at hrest
        cases hrest
      | folder n' children' isOpen' => exact ih hrest

theorem Tidy.of_find? {way : List String} {entries children : List Entry} {n : String}
    {isOpen : Bool} (h : Tidy entries)
    (hfind : find? way entries = some (.folder n children isOpen)) : Tidy children := by
  induction way generalizing entries with
  | nil => cases entries <;> cases hfind
  | cons s rest ih =>
    cases rest with
    | nil => exact h.inside (List.mem_of_find?_eq_some hfind)
    | cons t rest =>
      rw [find?_cons_cons] at hfind
      obtain ⟨first, hfirst, hrest⟩ := Option.bind_eq_some_iff.1 hfind
      cases first with
      | file f =>
        rw [show (Entry.file f).children = [] from rfl, find?_no_entries] at hrest
        cases hrest
      | folder n' children' isOpen' => exact ih (h.inside (List.mem_of_find?_eq_some hfirst)) hrest

/-- The walk of a `Tidy` folder lists every place below it at which something stands. -/
theorem mem_walk_of_markAt {tree children : List Entry} {p q : Path} {n : String} {isOpen : Bool}
    {m : Mark} (htree : Tidy tree) (hp : find? p.segments tree = some (.folder n children isOpen))
    (hq : q.isWithin p = true) (hne : q ≠ p) (hm : markAt q.segments tree = some m) :
    q ∈ (walkAll p children).map Prod.fst := by
  obtain ⟨way, hway⟩ := (Path.isWithin_iff q p).1 hq
  have hrest : way ≠ [] := by
    rintro rfl
    exact hne (Path.segments_injective (by rw [← hway, List.append_nil]))
  -- Below the folder the look-up goes on in its contents.
  rw [← hway, markAt_append, if_neg hrest, contents_of_find? hp] at hm
  obtain ⟨entry, hfind, -⟩ := Option.map_eq_some_iff.1 hm
  have hdistinct : Distinct children := (htree.of_find? hp).distinct
  exact List.mem_map.2 ⟨(q, entry), (mem_walkAll_iff hdistinct p q entry).2 ⟨way, hway.symm, hfind⟩,
    rfl⟩

theorem isWithin_of_mem_walk {entries : List Entry} {base p : Path}
    (h : p ∈ (walkAll base entries).map Prod.fst) : p.isWithin base = true := by
  obtain ⟨⟨q, entry⟩, hq, rfl⟩ := List.mem_map.1 h
  obtain ⟨s, way, hway⟩ := exists_way_of_mem_walkAll hq
  exact (Path.isWithin_iff _ _).2 ⟨s :: way, hway.symm⟩

end Entry

/-! ## 2. Tombstones in a row -/

namespace Journal

variable {j : Journal} {p : Path} {paths : List Path}

theorem isDeleted_deletes (j : Journal) (paths : List Path) (q : Path) :
    (paths.foldl delete j).isDeleted q = true ↔ q ∈ paths ∨ j.isDeleted q = true := by
  induction paths generalizing j with
  | nil => simp
  | cons r rest ih =>
    rw [List.foldl_cons, ih, isDeleted_delete, List.mem_cons]
    constructor
    · rintro (h | rfl | h)
      · exact .inl (.inr h)
      · exact .inl (.inl rfl)
      · exact .inr h
    · rintro ((rfl | h) | h)
      · exact .inr (.inl rfl)
      · exact .inl h
      · exact .inr (.inr h)

theorem Prunes.deletes {j' : Journal} (h : Prunes p j j')
    (hpaths : ∀ q ∈ paths, q.isWithin p = true) : Prunes p j (paths.foldl Journal.delete j') := by
  induction paths generalizing j' with
  | nil => exact h
  | cons q rest ih =>
    have hq : Prunes p j' (j'.delete q) := .delete j' (hpaths q (by simp))
    exact ih (h.trans hq) fun r hr => hpaths r (by simp [hr])

theorem version_deletes (j : Journal) (paths : List Path) :
    (paths.foldl delete j).version = j.version + paths.length := by
  induction paths generalizing j with
  | nil => rfl
  | cons q rest ih =>
    rw [List.foldl_cons, ih, List.length_cons]
    show j.version + 1 + rest.length = _
    omega

theorem folders_deletes (j : Journal) (paths : List Path) :
    (paths.foldl delete j).folders = j.folders := by
  induction paths generalizing j with
  | nil => rfl
  | cons q rest ih => rw [List.foldl_cons, ih]; rfl

theorem mem_created_deletes {q : Path} (h : q ∈ (paths.foldl delete j).created.keys) :
    q ∈ j.created.keys := by
  induction paths generalizing j with
  | nil => exact h
  | cons r rest ih => exact (Bindings.mem_keys_erase.1 (ih h)).2

/-- The journal once what was created at `p` and below is forgotten and tombstones are set, the last
of them at `p` itself. -/
def withoutFolder (j : Journal) (p : Path) (gone : List Path) : Journal :=
  (gone ++ [p]).foldl delete ((j.dropFoldersUnder p).dropCreatedUnder p)

variable {gone : List Path}

theorem isDeleted_withoutFolder (j : Journal) (p : Path) (gone : List Path) (q : Path) :
    (j.withoutFolder p gone).isDeleted q = true ↔ q ∈ gone ∨ q = p ∨ j.isDeleted q = true := by
  rw [withoutFolder, isDeleted_deletes, List.mem_append, List.mem_singleton, or_assoc]
  rfl

theorem version_withoutFolder (j : Journal) (p : Path) (gone : List Path) :
    j.version < (j.withoutFolder p gone).version := by
  rw [withoutFolder, version_deletes]
  show j.version < j.version + 1 + 1 + _
  omega

theorem prunes_withoutFolder (j : Journal) (hgone : ∀ q ∈ gone, q.isWithin p = true) :
    Prunes p j (j.withoutFolder p gone) := by
  have hdropped : Prunes p j ((j.dropFoldersUnder p).dropCreatedUnder p) :=
    (Prunes.dropFoldersUnder j p).trans (.dropCreatedUnder _ p)
  refine hdropped.deletes fun q hq => ?_
  rcases List.mem_append.1 hq with hq | hq
  · exact hgone q hq
  · rw [List.mem_singleton.1 hq]
    exact (Path.isWithin_iff p p).2 List.prefix_rfl

theorem emptied_withoutFolder (j : Journal) (p : Path) (gone : List Path) :
    Emptied p (j.withoutFolder p gone) where
  deleted := (isDeleted_withoutFolder j p gone p).2 (.inr (.inl rfl))
  folders := by
    intro q hq
    rw [withoutFolder, folders_deletes] at hq
    simpa using (List.mem_filter.1 hq).2
  created := by
    intro q hq
    obtain ⟨file, -, hkeep⟩ := Bindings.mem_keys_filter.1 (mem_created_deletes hq)
    simpa using hkeep

end Journal

/-! ## 3. Deleting in a workspace -/

namespace Workspace

variable {base : List Entry} {w w' : Workspace} {name : String}

theorem mem_of_findFile {files : List File} {key : String} {f : File}
    (h : findFile files key = some f) : f ∈ files := by
  -- It is found by its key or, failing that, by its key in lower case.
  unfold findFile at h
  split at h
  · rename_i g hg
    rw [← Option.some.inj h]
    exact List.mem_of_find?_eq_some hg
  · exact List.mem_of_find?_eq_some h

theorem findFile_of_listed {files : List File} {key : String} (h : ∃ g ∈ files, g.name = key) :
    ∃ f, findFile files key = some f ∧ f.name = key := by
  obtain ⟨g, hg, hname⟩ := h
  unfold findFile
  cases hfind : files.find? (·.name = key) with
  | none => exact absurd (decide_eq_true hname) (List.find?_eq_none.1 hfind g hg)
  | some f =>
    have hkey := List.find?_some hfind
    exact ⟨f, rfl, of_decide_eq_true hkey⟩

theorem deleteFile_cases (w : Workspace) (name : String) :
    w.deleteFile name = (false, w) ∨
      ∃ f, w.file? name = some f ∧ f ∈ w.files ∧
        w.deleteFile name =
          (true, (w.record (.delete (Path.parse f.name))).closeFile f.name) := by
  unfold deleteFile
  cases hfind : w.file? name with
  | none => exact .inl rfl
  | some f => exact .inr ⟨f, rfl, mem_of_findFile hfind, rfl⟩

/-- What the deletion of the folder at `p` leaves: `doomed` paths have tombstones of their own. -/
structure FolderDeleted (w w' : Workspace) (p : Path) : Prop where
  proper : p.Proper
  seen : HasFolder p.segments w.tree
  base_eq : w'.base = w.base
  cache_eq : w'.cache = w.cache
  version : w.journal.version < w'.journal.version
  prunes : w.journal.Prunes p w'.journal
  emptied : w'.journal.Emptied p
  buried : ∀ q m, q.isWithin p = true → markAt q.segments w.tree = some m →
    w'.journal.isDeleted q = true
  openFiles : w'.openFiles = w.openFiles.filter (!Text.startsWith (p.key ++ "/") ·)
  active : w'.active =
    if Text.startsWith (p.key ++ "/") w.active then lastOpen w'.openFiles else w.active

theorem FolderDeleted.view_eq {p : Path} (h : FolderDeleted w w' p) (hw : w.Sound base) :
    w'.view = merge base w'.journal :=
  hw.view_changed h.base_eq h.cache_eq h.version

theorem Sound.after_deleteFolder (hw : w.Sound base) (h : w.deleteFolder name = (true, w')) :
    w'.Sound base := by
  have hnext := hw.deleteFolder name
  rwa [h] at hnext

theorem mem_doomed {p q : Path} {children : List Entry} :
    q ∈ w.doomed p children ↔ q ∈ (walkAll p children).map Prod.fst ∨
      q.isWithin p = true ∧ ∃ f ∈ w.files, Path.parse f.name = q := by
  unfold doomed
  -- The listed files are gone through with the paths collected so far.
  suffices h : ∀ (files : List File) (paths : List Path),
      q ∈ files.foldl (fun paths f =>
        let filePath := Path.parse f.name
        if filePath.isWithin p && !paths.contains filePath then paths ++ [filePath] else paths)
        paths ↔ q ∈ paths ∨ q.isWithin p = true ∧ ∃ f ∈ files, Path.parse f.name = q from
    h w.files _
  intro files
  induction files with
  | nil => simp
  | cons f rest ih =>
    intro paths
    -- A listed file adds its path, if that is within `p` and new.
    have hstep : q ∈ (if (Path.parse f.name).isWithin p && !paths.contains (Path.parse f.name) then
          paths ++ [Path.parse f.name] else paths) ↔
        q ∈ paths ∨ q.isWithin p = true ∧ Path.parse f.name = q := by
      split
      · rename_i hadd
        have hwithin : (Path.parse f.name).isWithin p = true := (Bool.and_eq_true _ _ ▸ hadd).1
        rw [List.mem_append, List.mem_singleton]
        exact or_congr_right ⟨fun hq => ⟨hq ▸ hwithin, hq.symm⟩, fun hq => hq.2.symm⟩
      · rename_i hadd
        refine ⟨.inl, ?_⟩
        rintro (hq | ⟨hwithin, rfl⟩)
        · exact hq
        · simpa [hwithin] using hadd
    rw [List.foldl_cons, ih, hstep, or_assoc, ← and_or_left]
    simp only [List.mem_cons, exists_eq_or_imp]

theorem recordDeletes_eq (w : Workspace) (paths : List Path) :
    ∃ notices, paths.foldl (fun w p => w.record (.delete p)) w =
      { w with journal := paths.foldl Journal.delete w.journal, notices } := by
  induction paths generalizing w with
  | nil => exact ⟨w.notices, rfl⟩
  | cons p rest ih =>
    obtain ⟨notices, h⟩ := ih (w.record (.delete p))
    exact ⟨notices, h⟩

theorem closeUnder_active (w : Workspace) (p : Path) :
    (w.closeUnder p).active = if Text.startsWith (p.key ++ "/") w.active
      then lastOpen (w.closeUnder p).openFiles else w.active := rfl

/-- **What a deleted folder leaves**, if `deleteFolder` takes it. -/
theorem deleteFolder_done (hw : w.Sound base) (hbase : Tidy base)
    (h : w.deleteFolder name = (true, w')) : FolderDeleted w w' (Path.parse name) := by
  unfold deleteFolder at h
  simp only at h
  split at h
  · cases h
  rename_i hroot
  have hproper : (Path.parse name).Proper := proper_parse (by simpa using hroot)
  split at h
  · rename_i n children isOpen hfolder
    rw [lookup_eq_find? hproper.1] at hfolder
    -- The fold records the tombstones one by one; only the journal and the notices change by it.
    obtain ⟨notices, hdone⟩ := recordDeletes_eq
      ((w.record (.dropFoldersUnder (Path.parse name))).record
        (.dropCreatedUnder (Path.parse name)))
      (w.doomed (Path.parse name) children ++ [Path.parse name])
    rw [hdone] at h
    obtain ⟨-, rfl⟩ := Prod.mk.inj h
    have hgone : ∀ q ∈ w.doomed (Path.parse name) children,
        q.isWithin (Path.parse name) = true := by
      intro q hq
      rcases mem_doomed.1 hq with hq | ⟨hwithin, -⟩
      · exact isWithin_of_mem_walk hq
      · exact hwithin
    refine ⟨hproper, ⟨isOpen, ?_⟩, rfl, rfl, ?_, ?_, ?_, ?_, rfl, closeUnder_active _ _⟩
    · rw [markAt, hfolder]
      rfl
    · exact Journal.version_withoutFolder w.journal (Path.parse name) _
    · exact Journal.prunes_withoutFolder w.journal hgone
    · exact Journal.emptied_withoutFolder w.journal (Path.parse name) _
    · intro q m hwithin hm
      refine (Journal.isDeleted_withoutFolder w.journal (Path.parse name) _ q).2 ?_
      by_cases hq : q = Path.parse name
      · exact .inr (.inl hq)
      · have hwalk := mem_walk_of_markAt (hw.tidy_tree hbase) hfolder hwithin hq hm
        exact .inl (mem_doomed.2 (.inl hwalk))
  · cases h

end Workspace

end OverlayShell
