import OverlayShell.Workspace.Change
import OverlayShell.Proofs.StaleView

/-!
# Runs of a workspace

A workspace is used by its operations alone. Whatever they were, what is seen is the merge of a
sound journal: the present one, with some tombstones of created folders put back, and none of these
folders has a file in its way in what is seen.
-/

namespace OverlayShell

namespace Workspace

/-! ## 1. Operations -/

inductive Operation where
  | read
  | openFile (name : String)
  | openGiven (file : File)
  | closeFile (name : String)
  | closeAll
  | closeOthers (keep : String)
  | update (name content : String)
  | resetFile (name : String)
  | createFile (name content : String)
  | createFileWithPath (name content : String)
  | createFolder (name : String)
  | deleteFile (name : String)
  | deleteFolder (name : String)

def perform (w : Workspace) : Operation → Workspace
  | .read => w.refresh
  | .openFile name => (w.openFile name).2
  | .openGiven file => w.showing file.name
  | .closeFile name => w.closeFile name
  | .closeAll => w.closeAll
  | .closeOthers keep => w.closeOthers keep
  | .update name content => w.update name content
  | .resetFile name => (w.resetFile name).2
  | .createFile name content => (w.createFile name content).2
  | .createFileWithPath name content => (w.createFileWithPath name content).2
  | .createFolder name => (w.createFolder name).2
  | .deleteFile name => (w.deleteFile name).2
  | .deleteFolder name => (w.deleteFolder name).2

/-- The workspaces that `operations` lead to from an untouched one over `base`. -/
def Reachable (base : List Entry) (w : Workspace) : Prop :=
  ∃ openFiles active operations,
    w = (operations : List Operation).foldl perform (start base openFiles active)

/-! ## 2. What an operation leaves alone -/

@[simp] theorem record_base (w : Workspace) (write : Journal.Write) :
    (w.record write).base = w.base := by
  cases write <;> simp only [record, note]
  split <;> rfl

@[simp] theorem record_cache (w : Workspace) (write : Journal.Write) :
    (w.record write).cache = w.cache := by
  cases write <;> simp only [record, note]
  split <;> rfl

@[simp] theorem record_journal (w : Workspace) (write : Journal.Write) :
    (w.record write).journal = w.journal.apply write := by
  cases write <;> simp only [record, note]
  split <;> rfl

/-- `view` depends on base, journal and remembered view. -/
theorem view_congr {w w' : Workspace} (hbase : w'.base = w.base) (hjournal : w'.journal = w.journal)
    (hcache : w'.cache = w.cache) : w'.view = w.view := by
  unfold view refresh
  rw [hbase, hjournal, hcache]

theorem isCurrent_refresh (w : Workspace) : w.refresh.cache.isCurrent w.refresh.journal = true :=
  ViewCache.isCurrent_read _ _ _

theorem view_of_current {w : Workspace} (h : w.cache.isCurrent w.journal = true) :
    w.view = w.cache.view := by
  show (w.cache.read w.base w.journal).view = _
  rw [ViewCache.read_of_current h]

theorem view_of_not_current {w : Workspace} (h : w.cache.isCurrent w.journal = false) :
    w.view = merge w.base w.journal := by
  show (w.cache.read w.base w.journal).view = _
  rw [ViewCache.read_of_not_current h]

theorem view_refresh (w : Workspace) : w.refresh.view = w.view :=
  view_of_current (isCurrent_refresh w)

/-- An untouched workspace shows its `base`. -/
theorem tree_start (base : List Entry) (openFiles : List String) (active : String) :
    (start base openFiles active).tree = base := by
  show withFolders .empty ([].mergeSort _) (Entry.survivors .empty .root base) = base
  rw [List.mergeSort_nil, Entry.survivors_empty]
  rfl

/-! ## 3. The invariant -/

/-- `w.view` is the merge of a sound journal: the present one, with the tombstones of `lifted` put
back. These are created folders to which no file obstructs the way. -/
structure Sound (base : List Entry) (w : Workspace) : Prop where
  base_eq : w.base = base
  version : w.cache.NotAhead w.journal
  seen : ∃ lifted, (w.journal.buried lifted).Sound ∧ w.view = merge base (w.journal.buried lifted) ∧
    ∀ p ∈ lifted, p ∈ w.journal.folders ∧ Entry.isObstructed p.segments w.tree = false

variable {base : List Entry} {w w' : Workspace}

theorem Sound.journal (h : w.Sound base) : w.journal.Sound := by
  obtain ⟨lifted, hsound, -, -⟩ := h.seen
  refine ⟨hsound.created, hsound.folders, fun p hp hdel => hsound.apart p hp ?_⟩
  exact List.mem_append_left _ hdel

theorem Sound.same (h : w.Sound base) (hbase : w'.base = w.base)
    (hjournal : w'.journal = w.journal) (hcache : w'.cache = w.cache) : w'.Sound base := by
  have hview := view_congr hbase hjournal hcache
  refine ⟨hbase.trans h.base_eq, by rw [hcache, hjournal]; exact h.version, ?_⟩
  rw [tree, hview, hjournal]
  exact h.seen

/-- Once the journal has a new `version`, `view` is its merge. -/
theorem Sound.view_changed (h : w.Sound base) (hbase : w'.base = w.base)
    (hcache : w'.cache = w.cache) (hversion : w.journal.version < w'.journal.version) :
    w'.view = merge base w'.journal := by
  rw [view_of_not_current, hbase, h.base_eq]
  rw [hcache]
  exact h.version.isCurrent_eq_false hversion

theorem Sound.changed (h : w.Sound base) (hbase : w'.base = w.base) (hcache : w'.cache = w.cache)
    (hversion : w.journal.version < w'.journal.version) (hjournal : w'.journal.Sound) :
    w'.Sound base := by
  have hview := h.view_changed hbase hcache hversion
  refine ⟨hbase.trans h.base_eq, ?_, [], ?_, ?_, by simp⟩
  · rw [hcache]
    exact h.version.mono (Nat.le_of_lt hversion)
  · rwa [Journal.buried_nil]
  · rwa [Journal.buried_nil]

theorem Sound.start (base : List Entry) (openFiles : List String) (active : String) :
    (start base openFiles active).Sound base := by
  refine ⟨rfl, .empty _, [], ?_, ?_, by simp⟩
  · rw [Journal.buried_nil]
    exact Journal.Sound.empty
  · rw [Journal.buried_nil]
    rfl

theorem Sound.refresh (h : w.Sound base) : w.refresh.Sound base := by
  refine ⟨h.base_eq, h.version.read, ?_⟩
  rw [tree, view_refresh]
  exact h.seen

/-- `record` of a write that gives a new version keeps the workspace `Sound`. -/
theorem Sound.record (h : w.Sound base) (write : Journal.Write)
    (hversion : (w.journal.apply write).version = w.journal.version + 1)
    (hjournal : (w.journal.apply write).Sound) : (w.record write).Sound base :=
  h.changed (by simp) (by simp) (by simp [hversion]) (by simpa using hjournal)

theorem Sound.recordDelete (h : w.Sound base) (p : Path) : (w.record (.delete p)).Sound base :=
  h.record (.delete p) rfl (h.journal.delete p)

theorem Sound.recordDeletes (h : w.Sound base) (paths : List Path) :
    (paths.foldl (fun w p => w.record (.delete p)) w).Sound base := by
  induction paths generalizing w with
  | nil => exact h
  | cons p rest ih => exact ih (h.recordDelete p)

theorem Sound.tidy_tree (hw : w.Sound base) (hbase : Entry.Tidy base) : Entry.Tidy w.tree := by
  obtain ⟨lifted, hsound, hseen, -⟩ := hw.seen
  rw [tree, hseen]
  exact tidy_merge hbase hsound

/-- A file is in `w.files` iff `w.tree` has it, named by the key of its path. -/
theorem Sound.mem_files_iff (hw : w.Sound base) (hbase : Entry.Tidy base) {g : File} :
    g ∈ w.files ↔ ∃ p : Path, p.Proper ∧
      ∃ f, Entry.markAt p.segments w.tree = some (.file f) ∧ g = { f with name := p.key } := by
  obtain ⟨lifted, hsound, hseen, -⟩ := hw.seen
  rw [files, tree, hseen]
  exact mem_files_merge_iff hbase hsound

/-! ## 4. Each operation keeps it -/

theorem Sound.resetFile (h : w.Sound base) (name : String) : (w.resetFile name).2.Sound base := by
  show (w.record (.reset (Path.parse name))).Sound base
  by_cases hmod : w.journal.isModified (Path.parse name) = true
  · exact h.record _ (by simp [Journal.apply, Journal.reset, hmod, Journal.bump])
      (h.journal.reset _)
  · refine h.same (by simp) ?_ (by simp)
    simp [Journal.apply, Journal.reset, hmod]

theorem proper_parse {name : String} (h : (Path.parse name).isRoot = false) :
    (Path.parse name).Proper :=
  ⟨by simpa [Path.isRoot] using h, Path.parse_normal name⟩

/-- `createFile` gives `none` and leaves the workspace or a notice, or it records the file and opens
it. -/
theorem createFile_cases (w : Workspace) (name content : String) :
    (w.createFile name content).1 = none ∧
        ((w.createFile name content).2 = w ∨
          ∃ level text, (w.createFile name content).2 = w.note level text) ∨
      (Path.parse name).Proper ∧ isFolderAt w.tree (Path.parse name) = false ∧
        (Path.parse name).ancestors.any (isFileAt w.tree) = false ∧
        ∃ file : File, file.name = (Path.parse name).key ∧ w.createFile name content =
          (some file, (w.record (.create (Path.parse name) file)).showing file.name) := by
  unfold createFile
  -- The three checks in the order in which they are made: the root, a folder at the path, a file
  -- above it.
  cases hroot : (Path.parse name).isRoot with
  | true => simp [hroot]
  | false =>
    cases hfolder : isFolderAt w.tree (Path.parse name) with
    | true =>
      left
      simp only [hroot, hfolder, Bool.false_eq_true, if_false, if_true, true_and]
      exact .inr ⟨_, _, rfl⟩
    | false =>
      cases hfile : (Path.parse name).ancestors.any (isFileAt w.tree) with
      | true =>
        left
        simp only [hroot, hfolder, hfile, Bool.false_eq_true, if_false, if_true, true_and]
        exact .inr ⟨_, _, rfl⟩
      | false =>
        right
        simp only [hroot, hfolder, hfile, Bool.false_eq_true, if_false, true_and]
        exact ⟨proper_parse hroot, _, rfl, rfl⟩

theorem Sound.createFile (h : w.Sound base) (name content : String) :
    (w.createFile name content).2.Sound base := by
  rcases w.createFile_cases name content with
    ⟨-, hsame | ⟨level, text, hsame⟩⟩ | ⟨hp, -, -, file, -, hdone⟩
  · rwa [hsame]
  · rw [hsame]
    exact h.same rfl rfl rfl
  · rw [hdone]
    exact (h.record (.create _ file) rfl (h.journal.create hp file)).same rfl rfl rfl

/-- `addFolder` of a created folder changes nothing that is seen. -/
theorem view_recordFolder_again (hcur : w.cache.isCurrent w.journal = true) {p : Path}
    (hfolder : w.journal.hasFolder p = true) : (w.record (.addFolder p)).view = w.view := by
  have hcur' : (w.record (.addFolder p)).cache.isCurrent (w.record (.addFolder p)).journal =
      true := by
    rw [record_journal, record_cache, Journal.apply, Journal.addFolder_of_hasFolder hfolder]
    exact hcur
  rw [view_of_current hcur', view_of_current hcur, record_cache]

/-- `addFolder` of a folder to which no file obstructs the way keeps the workspace `Sound`, whether
it is created again or for the first time. -/
theorem Sound.recordFolder (h : w.Sound base) (hcur : w.cache.isCurrent w.journal = true)
    {p : Path} (hp : p.Proper) (hfree : Entry.isObstructed p.segments w.tree = false) :
    (w.record (.addFolder p)).Sound base := by
  by_cases hfolder : w.journal.hasFolder p = true
  · -- The version stays, so the view stays, and the tombstone joins those put back.
    have hversion : (w.journal.apply (.addFolder p)).version = w.journal.version := by
      rw [Journal.apply, Journal.addFolder_of_hasFolder hfolder]
    obtain ⟨hcreated, hfolders, -, -, -⟩ := Journal.apply_of_version_eq hversion
    have hview := view_recordFolder_again hcur hfolder
    obtain ⟨lifted, hsound, hseen, hlifted⟩ := h.seen
    refine ⟨(record_base w _).trans h.base_eq, ?_,
      lifted ++ w.journal.silentlyLifted (.addFolder p), ?_, ?_, ?_⟩
    · rw [record_cache, record_journal]
      exact h.version.mono (Nat.le_of_eq hversion.symm)
    · rw [record_journal]
      exact hsound.congr hcreated hfolders (Journal.isDeleted_buried_apply hversion lifted)
    · rw [hview, record_journal, Journal.merge_buried_apply hversion]
      exact hseen
    · intro q hq
      rw [record_journal, hfolders, tree, hview]
      rcases List.mem_append.1 hq with hq | hq
      · exact hlifted q hq
      · rw [Journal.silentlyLifted_addFolder hfolder] at hq
        split at hq
        · rw [List.mem_singleton.1 hq]
          exact ⟨List.contains_iff_mem.1 hfolder, hfree⟩
        · simp at hq
  -- A new folder gives a new version, so the view is that of the journal as it is.
  · refine h.record _ ?_ (h.journal.addFolder hp)
    simp [Journal.apply, Journal.addFolder, hfolder, Journal.bump]

/-- `isBlocked` asks for a file in the way, unless the path is the root. -/
theorem isBlocked_eq (w : Workspace) {p : Path} (hp : p.segments ≠ []) :
    w.isBlocked p = Entry.isObstructed p.segments w.tree := by
  rw [isBlocked, List.any_append, any_isFileAt_ancestors hp, List.any_cons, List.any_nil,
    Bool.or_false]
  rw [Bool.eq_iff_iff, Bool.or_eq_true, isFileAt_iff]
  constructor
  -- A file on the way stands at the path itself or above it.
  · rintro (hobs | ⟨f, hf⟩)
    · exact Entry.isObstructed_further hobs (List.dropLast_prefix _)
    · exact Entry.isObstructed_of_file hf
  · intro hobs
    obtain ⟨b, hb, f, hf⟩ := Entry.isObstructed_iff.1 hobs
    by_cases hne : b = p.segments
    · exact .inr ⟨f, hne ▸ hf⟩
    · exact .inl (Entry.isObstructed_iff.2 ⟨b, (Path.prefix_dropLast_iff hp).2 ⟨hb, hne⟩, f, hf⟩)

/-- `createFolder` gives `false` and leaves the workspace or a notice, or it records the folder. -/
theorem createFolder_cases (w : Workspace) (name : String) :
    (w.createFolder name).1 = false ∧
        ((w.createFolder name).2 = w ∨
          ∃ level text, (w.createFolder name).2 = w.refresh.note level text) ∨
      (Path.parse name).Proper ∧
        Entry.isObstructed (Path.parse name).segments w.tree = false ∧
        w.createFolder name = (true, w.refresh.record (.addFolder (Path.parse name))) := by
  unfold createFolder
  by_cases hroot : (Path.parse name).isRoot = true
  · simp [hroot]
  rw [Bool.not_eq_true] at hroot
  have hproper := proper_parse hroot
  -- The refusal is decided by the view that has just been read, which is the one before.
  have hblocked : w.refresh.isBlocked (Path.parse name) =
      Entry.isObstructed (Path.parse name).segments w.tree := by
    rw [isBlocked_eq _ hproper.1, tree, view_refresh, tree]
  cases hobs : Entry.isObstructed (Path.parse name).segments w.tree with
  | true =>
    left
    simp only [hroot, hblocked, hobs, Bool.false_eq_true, if_false, if_true, true_and]
    exact .inr ⟨_, _, rfl⟩
  | false =>
    right
    simp [hroot, hblocked, hobs, hproper]

theorem Sound.createFolder (h : w.Sound base) (name : String) :
    (w.createFolder name).2.Sound base := by
  rcases w.createFolder_cases name with ⟨-, hsame | ⟨level, text, hsame⟩⟩ | ⟨hp, hfree, hdone⟩
  · rwa [hsame]
  · rw [hsame]
    exact h.refresh.same rfl rfl rfl
  · rw [hdone]
    refine h.refresh.recordFolder (isCurrent_refresh w) hp ?_
    rwa [tree, view_refresh]

theorem Sound.createFolders (h : w.Sound base) (folders : List Path) :
    (w.createFolders folders).2.Sound base := by
  induction folders generalizing w with
  | nil => exact h
  | cons folder rest ih =>
    have hnext := h.createFolder folder.key
    rw [Workspace.createFolders]
    split
    · rename_i heq
      rw [heq] at hnext
      exact ih hnext
    · rename_i heq
      rwa [heq] at hnext

theorem Sound.createFileWithPath (h : w.Sound base) (name content : String) :
    (w.createFileWithPath name content).2.Sound base := by
  unfold Workspace.createFileWithPath
  simp only
  split
  · exact h
  -- The folders above come first; the file is created only if all of them were.
  · have hfolders := h.createFolders (Path.parse name).ancestors
    split
    · rename_i heq
      rw [heq] at hfolders
      exact hfolders.createFile _ content
    · rename_i heq
      rwa [heq] at hfolders

theorem Sound.deleteFile (h : w.Sound base) (name : String) : (w.deleteFile name).2.Sound base := by
  unfold Workspace.deleteFile
  split
  · exact h
  -- Closing the file touches neither the journal nor the remembered view.
  · exact (h.recordDelete _).same rfl rfl rfl

theorem Sound.deleteFolder (h : w.Sound base) (name : String) :
    (w.deleteFolder name).2.Sound base := by
  unfold Workspace.deleteFolder
  simp only
  split
  · exact h
  · split
    · -- Both drops give new versions, and so does every tombstone.
      have hdropped : ((w.record (.dropFoldersUnder (Path.parse name))).record
          (.dropCreatedUnder (Path.parse name))).Sound base := by
        have hfirst := h.record (.dropFoldersUnder (Path.parse name)) rfl
          (h.journal.dropFoldersUnder _)
        exact hfirst.record (.dropCreatedUnder _) rfl (hfirst.journal.dropCreatedUnder _)
      exact (hdropped.recordDeletes _).same rfl rfl rfl
    · exact h

/-- **Each operation keeps it**: `perform` leaves a `Sound` workspace so. -/
theorem Sound.perform (h : w.Sound base) (op : Operation) : (w.perform op).Sound base := by
  cases op with
  | read => exact h.refresh
  | openFile name =>
    show (w.openFile name).2.Sound base
    unfold Workspace.openFile
    split
    · exact h
    · exact h.same rfl rfl rfl
  | openGiven file => exact h.same rfl rfl rfl
  | closeFile name => exact h.same rfl rfl rfl
  | closeAll => exact h.same rfl rfl rfl
  | closeOthers keep => exact h.same rfl rfl rfl
  | update name content =>
    exact h.record (.modify (Path.parse name) content) rfl (h.journal.modify _ content)
  | resetFile name => exact h.resetFile name
  | createFile name content => exact h.createFile name content
  | createFileWithPath name content => exact h.createFileWithPath name content
  | createFolder name => exact h.createFolder name
  | deleteFile name => exact h.deleteFile name
  | deleteFolder name => exact h.deleteFolder name

theorem sound_of_reachable (h : Reachable base w) : w.Sound base := by
  obtain ⟨openFiles, active, operations, rfl⟩ := h
  -- The induction is on the operations, over every sound workspace they may start from.
  suffices hrun : ∀ w : Workspace, w.Sound base →
      (operations.foldl Workspace.perform w).Sound base from
    hrun _ (.start base openFiles active)
  induction operations with
  | nil => exact fun w hw => hw
  | cons op rest ih => exact fun w hw => ih _ (hw.perform op)

end Workspace

end OverlayShell
