import OverlayShell.Proofs.KeyStart
import OverlayShell.Proofs.LastingView
import OverlayShell.Proofs.OpenFiles

/-!
# Open files that are listed

An open file is one that was seen when it was opened, or one that was created. It is closed when it
is deleted, and when a folder above it is. As long as operations go by names that are listed, it can
be lost from the flat list in one way only: a creation takes away a tombstone, and an entry of the
base comes back over it.
-/

namespace OverlayShell

open Entry

namespace Workspace

variable {base : List Entry} {w w' : Workspace} {lifted lifted' : List Path} {p q : Path}
  {name : String}

/-! ## 1. Files that are seen or recorded -/

/-- A file is seen at `p`, or one is recorded as created there. -/
def Has (w : Workspace) (p : Path) : Prop :=
  HasFile p.segments w.tree ∨ p ∈ w.journal.created.keys

/-- An entry of the base is shown in the way of a file at `p`: a folder in its place, or a file
above it. -/
def isCovered (w : Workspace) (p : Path) : Bool :=
  (isFolderAt w.base p && isFolderAt w.tree p) ||
    p.ancestors.any fun a => isFileAt w.base a && isFileAt w.tree a

theorem isCovered_iff (hp : p.segments ≠ []) :
    w.isCovered p = true ↔ (HasFolder p.segments w.base ∧ HasFolder p.segments w.tree) ∨
      ∃ b, b <+: p.parent.segments ∧ HasFile b w.base ∧ HasFile b w.tree := by
  rw [isCovered, Bool.or_eq_true, Bool.and_eq_true, isFolderAt_iff hp, isFolderAt_iff hp,
    List.any_eq_true]
  refine or_congr_right ⟨?_, ?_⟩
  · rintro ⟨a, ha, hfile⟩
    rw [Bool.and_eq_true, isFileAt_iff, isFileAt_iff] at hfile
    obtain ⟨-, hway, hne⟩ := Path.mem_ancestors.1 ha
    exact ⟨a.segments, (Path.prefix_dropLast_iff hp).2 ⟨hway, hne⟩, hfile⟩
  · rintro ⟨b, hb, hbase, htree⟩
    obtain ⟨hway, hne⟩ := (Path.prefix_dropLast_iff hp).1 hb
    refine ⟨⟨b⟩, Path.mem_ancestors.2 ⟨hbase.ne_nil, hway, hne⟩, ?_⟩
    rw [Bool.and_eq_true, isFileAt_iff, isFileAt_iff]
    exact ⟨hbase, htree⟩

/-- A file that `survivors` keeps, once `lifted` is buried again, is in `w.base` and in `w.tree`. -/
theorem Orderly.file_seen (h : w.Orderly base lifted) {way : List String}
    (hkept : HasFile way (survivors (w.journal.buried lifted) .root base)) :
    HasFile way w.base ∧ HasFile way w.tree := by
  rw [h.sound.base_eq, h.tree_eq]
  exact ⟨((hasFile_survivors _ base).1 hkept).2, hasFile_merge_of_kept h.made_sound hkept⟩

theorem Orderly.folder_seen (h : w.Orderly base lifted) {way : List String}
    (hkept : HasFolder way (survivors (w.journal.buried lifted) .root base)) :
    HasFolder way w.base ∧ HasFolder way w.tree := by
  rw [h.sound.base_eq, h.tree_eq]
  exact ⟨((hasFolder_survivors _ base).1 hkept).2, hasFolder_merge_of_kept h.made_sound hkept⟩

/-- **A file that is seen or recorded is listed** iff no entry of the base covers it: `w.Has p`
gives `p.key ∈ w.files` by name iff `isCovered` fails. -/
theorem Orderly.listed_iff (h : w.Orderly base lifted) (hbase : Tidy base) (hp : p.Proper)
    (hhas : w.Has p) : p.key ∈ w.files.map File.name ↔ w.isCovered p = false := by
  have hlisted : p.key ∈ w.files.map File.name ↔ HasFile p.segments w.tree := by
    rw [h.sound.hasFile_iff hbase, and_iff_right hp, List.mem_map]
  rw [hlisted, Bool.eq_false_iff, Ne, isCovered_iff hp.1]
  constructor
  · rintro hfile (⟨-, hfolder⟩ | ⟨b, hb, -, habove⟩)
    · exact hfile.not_folder hfolder
    · obtain ⟨hway, hne⟩ := (Path.prefix_dropLast_iff hp.1).1 hb
      obtain ⟨f, hf⟩ := hfile
      exact hne (habove.eq_of_start hway hf)
  · intro hfree
    rcases hhas with hfile | hcreated
    · exact hfile
    · -- A created file is kept from its place by entries that are kept of the base.
      rw [h.tree_eq]
      refine (h.clear_made.hasFile_merge_iff h.made_sound).2 (.inr ⟨hcreated, ?_, ?_⟩)
      · exact fun hfolder => hfree (.inl (h.folder_seen hfolder))
      · rw [isObstructed_eq_false_iff]
        exact fun b hb hkept => hfree (.inr ⟨b, hb, h.file_seen hkept⟩)

/-! ## 2. What a new journal keeps of them -/

theorem Orderly.kept_or_created (h : w.Orderly base lifted) (hhas : w.Has p) :
    HasFile p.segments (survivors w.journal .root base) ∨ p ∈ w.journal.created.keys := by
  rcases hhas with hfile | hcreated
  · rw [h.tree_eq] at hfile
    exact (Journal.hasFile_merge_cases h.made_sound hfile).imp_left hasFile_of_buried
  · exact .inr hcreated

theorem Orderly.has_of_kept (h : w.Orderly base [])
    (hkept : HasFile p.segments (survivors w.journal .root base) ∨ p ∈ w.journal.created.keys) :
    w.Has p := by
  refine hkept.imp_left fun hkept => ?_
  rw [h.tree_eq, Journal.buried_nil]
  exact hasFile_merge_of_kept h.sound.journal hkept

/-- A creation, in the sense of `Journal.Grows`, takes nothing from `Has`. -/
theorem Orderly.has_grows (h : w.Orderly base lifted) (h' : w'.Orderly base lifted')
    (hlifts : Lifts w w' q lifted lifted') (hgrows : w.journal.Grows q w'.journal)
    (hhas : w.Has p) : w'.Has p := by
  rcases hlifts with rfl | ⟨hview, -⟩
  · refine h'.has_of_kept ((h.kept_or_created hhas).imp (fun hkept => ?_) (hgrows.created p))
    rw [hasFile_survivors] at hkept ⊢
    exact hkept.imp_left (Journal.hides_mono hgrows.fewer)
  · have htree : w'.tree = w.tree := congrArg View.tree hview
    refine hhas.imp (fun hfile => ?_) (hgrows.created p)
    rwa [htree]

/-- Pruning takes nothing from `Has` outside of `q`. -/
theorem Orderly.has_pruned (h : w.Orderly base lifted) (h' : w'.Orderly base [])
    (hprunes : w.journal.Prunes q w'.journal) (hout : p.isWithin q = false) (hhas : w.Has p) :
    w'.Has p := by
  have hcreated := (hprunes.created_iff hout).2
  refine h'.has_of_kept ((h.kept_or_created hhas).imp (fun hkept => ?_) hcreated)
  rwa [HasFile, hprunes.markAt_kept hout]

/-! ## 3. Each operation -/

/-- Every name of `openFiles` is listed in `w.files`. -/
def OpenListed (w : Workspace) : Prop := ∀ name ∈ w.openFiles, name ∈ w.files.map File.name

instance (w : Workspace) : Decidable w.OpenListed :=
  inferInstanceAs (Decidable (∀ name ∈ w.openFiles, _))

/-- `name` is the `Path.key` of the path that it is read as, and `w.Has` a file there. -/
structure Names (w : Workspace) (name : String) : Prop where
  proper : (Path.parse name).Proper
  key : (Path.parse name).key = name
  has : w.Has (Path.parse name)

theorem names_of_created (hp : p.Proper) (hplain : p.Plain)
    (hcreated : p ∈ w.journal.created.keys) : w.Names p.key := by
  have hparse := Path.parse_key hp.2 hplain
  exact ⟨by rwa [hparse], by rw [hparse], .inr (by rwa [hparse])⟩

theorem Orderly.names_of_listed (h : w.Orderly base lifted) (hbase : Tidy base)
    (htop : PlainTop base) {f : File} (hf : f ∈ w.files) : w.Names f.name := by
  obtain ⟨hparse, hfile⟩ := h.path_of_listed hbase htop hf
  obtain ⟨hp, hname, -⟩ := h.sound.of_mem_files hbase hf
  exact ⟨by rwa [hparse], by rw [hparse, ← hname], .inl (by rwa [hparse])⟩

/-- `w` is `Orderly`, and `w.Names` every open file. -/
structure Founded (base : List Entry) (w : Workspace) : Prop where
  orderly : ∃ lifted, w.Orderly base lifted
  names : ∀ name ∈ w.openFiles, w.Names name

theorem Founded.start (base : List Entry) (active : String) :
    Founded base (start base [] active) :=
  ⟨⟨[], .start base [] active⟩, by simp [Workspace.start]⟩

/-- **A founded workspace lists its open files** iff none of their paths `isCovered`. -/
theorem Founded.openListed_iff (h : Founded base w) (hbase : Tidy base) :
    w.OpenListed ↔ ∀ name ∈ w.openFiles, w.isCovered (Path.parse name) = false := by
  obtain ⟨lifted, horderly⟩ := h.orderly
  refine forall₂_congr fun name hopen => ?_
  have hname := h.names name hopen
  rw [← horderly.listed_iff hbase hname.proper hname.has, hname.key]

/-! ## 4. Operations that leave the documents alone -/

theorem Founded.same (h : Founded base w) (hbase : w'.base = w.base)
    (hjournal : w'.journal = w.journal) (hcache : w'.cache = w.cache)
    (hopen : ∀ name ∈ w'.openFiles, w.Names name) : Founded base w' := by
  obtain ⟨lifted, horderly⟩ := h.orderly
  have hview : w'.view = w.view := view_congr hbase hjournal hcache
  have hsound := horderly.sound.same hbase hjournal hcache
  refine ⟨⟨lifted, horderly.same hsound hjournal hview⟩, fun name hname => ?_⟩
  obtain ⟨hproper, hkey, hhas⟩ := hopen name hname
  refine ⟨hproper, hkey, ?_⟩
  rwa [Has, tree, hview, hjournal]

theorem Founded.refresh (h : Founded base w) : Founded base w.refresh := by
  obtain ⟨lifted, horderly⟩ := h.orderly
  refine ⟨⟨lifted, horderly.refresh⟩, fun name hname => ?_⟩
  obtain ⟨hproper, hkey, hhas⟩ := h.names name hname
  refine ⟨hproper, hkey, ?_⟩
  rwa [Has, tree, view_refresh]

theorem openFiles_showing {opened : String} (h : opened ∈ (w.showing name).openFiles) :
    opened ∈ w.openFiles ∨ opened = name := by
  simp only [showing] at h
  split at h
  · exact .inl h
  · simpa using h

theorem Founded.openFile (h : Founded base w) (hbase : Tidy base) (htop : PlainTop base)
    (name : String) : Founded base (w.openFile name).2 := by
  unfold Workspace.openFile
  cases hfind : w.file? name with
  | none => exact h
  | some f =>
    obtain ⟨lifted, horderly⟩ := h.orderly
    refine h.same rfl rfl rfl fun opened hopen => ?_
    rcases openFiles_showing hopen with hold | rfl
    · exact h.names opened hold
    · exact horderly.names_of_listed hbase htop (mem_of_findFile hfind)

/-! ## 5. Creations -/

/-- `Founded` is kept by a creation, which may open what it records. -/
theorem Founded.grows (hw : Founded base w) (h : w.Orderly base lifted)
    (h' : w'.Orderly base lifted') (hlifts : Lifts w w' q lifted lifted')
    (hgrows : w.journal.Grows q w'.journal)
    (hopen : ∀ name ∈ w'.openFiles, name ∈ w.openFiles ∨ w'.Names name) : Founded base w' := by
  refine ⟨⟨lifted', h'⟩, fun name hname => (hopen name hname).elim (fun hold => ?_) id⟩
  obtain ⟨hproper, hkey, hhas⟩ := hw.names name hold
  exact ⟨hproper, hkey, h.has_grows h' hlifts hgrows hhas⟩

theorem Founded.createFile (h : Founded base w) (hplain : (Path.parse name).Plain)
    (content : String) : Founded base (w.createFile name content).2 := by
  obtain ⟨lifted, horderly⟩ := h.orderly
  obtain ⟨lifted', hnext, hlifts⟩ := horderly.createFile hplain content
  refine h.grows horderly hnext hlifts (createFile_grows w name content) fun opened hopen => ?_
  rcases w.createFile_cases name content with ⟨hnone, -⟩ | ⟨hp, -, -, file, hkey, hdone⟩
  · rw [(createFile_refused hnone).2.openFiles] at hopen
    exact .inl hopen
  · -- The new file is recorded at its path, whether or not it is seen there.
    rw [hdone] at hopen ⊢
    rcases openFiles_showing hopen with hold | rfl
    · rw [(sameOpen_record w _).openFiles] at hold
      exact .inl hold
    · rw [hkey]
      exact .inr (names_of_created hp hplain (Bindings.mem_keys_putLast.2 (.inl rfl)))

theorem Founded.createFolder (h : Founded base w) (name : String) :
    Founded base (w.createFolder name).2 := by
  obtain ⟨lifted, horderly⟩ := h.orderly
  obtain ⟨lifted', hnext, hlifts⟩ := horderly.createFolder name
  refine h.grows horderly hnext hlifts (createFolder_grows w name) fun opened hopen => ?_
  rw [(w.sameOpen_createFolder name).openFiles] at hopen
  exact .inl hopen

theorem Founded.createFolders (h : Founded base w) (folders : List Path) :
    Founded base (w.createFolders folders).2 := by
  induction folders generalizing w with
  | nil => exact h
  | cons folder rest ih =>
    have hnext := h.createFolder folder.key
    rw [Workspace.createFolders]
    split
    · rename_i heq
      rw [heq] at hnext
      exact ih hnext
    · rename_i heq
      rwa [heq] at hnext

theorem Founded.createFileWithPath (h : Founded base w) (hplain : (Path.parse name).Plain)
    (content : String) : Founded base (w.createFileWithPath name content).2 := by
  unfold Workspace.createFileWithPath
  simp only
  split
  · exact h
  · have hfolders := h.createFolders (Path.parse name).ancestors
    split
    · rename_i heq
      rw [heq] at hfolders
      refine hfolders.createFile ?_ content
      rwa [Path.parse_key (Path.parse_normal name) hplain]
    · rename_i heq
      rwa [heq] at hfolders

/-! ## 6. Deletions -/

/-- `Founded` is kept by pruning, which closes what it prunes. -/
theorem Founded.prunes (hw : Founded base w) (h : w.Orderly base lifted)
    (h' : w'.Orderly base []) (hprunes : w.journal.Prunes q w'.journal)
    (hopen : ∀ name ∈ w'.openFiles,
      name ∈ w.openFiles ∧ (Path.parse name).isWithin q = false) : Founded base w' := by
  refine ⟨⟨[], h'⟩, fun name hname => ?_⟩
  obtain ⟨hold, hout⟩ := hopen name hname
  obtain ⟨hproper, hkey, hhas⟩ := hw.names name hold
  exact ⟨hproper, hkey, h.has_pruned h' hprunes hout hhas⟩

theorem Founded.hasFile (h : Founded base w) (hlisted : w.OpenListed) (hbase : Tidy base)
    (hopen : name ∈ w.openFiles) : HasFile (Path.parse name).segments w.tree := by
  obtain ⟨lifted, horderly⟩ := h.orderly
  have hname := h.names name hopen
  obtain ⟨g, hg, hkey⟩ := List.mem_map.1 (hlisted name hopen)
  exact (horderly.sound.hasFile_iff hbase).2 ⟨hname.proper, g, hg, hkey.trans hname.key.symm⟩

theorem Founded.deleteFile (h : Founded base w) (hlisted : w.OpenListed) (hbase : Tidy base)
    (htop : PlainTop base) (name : String) : Founded base (w.deleteFile name).2 := by
  rcases w.deleteFile_cases name with hsame | ⟨_, -, -, hdone⟩
  · rwa [hsame]
  obtain ⟨lifted, horderly⟩ := h.orderly
  obtain ⟨f, hfind, hfile, hjournal, hnext⟩ := horderly.deleteFile_done hbase htop hdone
  obtain ⟨g, hg, hdeleted⟩ := Workspace.deleteFile_done hdone
  obtain rfl : f = g := Option.some.inj (hfind.symm.trans hg)
  rw [hdone]
  refine h.prunes horderly hnext (q := f.path) ?_ fun opened hopen => ?_
  · rw [hjournal]
    exact .delete _ ((Path.isWithin_iff _ _).2 List.prefix_rfl)
  · rw [hdeleted.openFiles] at hopen
    obtain ⟨hold, hne⟩ := List.mem_filter.1 hopen
    refine ⟨hold, Bool.eq_false_iff.2 fun hwithin => bne_iff_ne.1 hne ?_⟩
    -- Nothing is seen below a file, so the open one would be the deleted one.
    obtain ⟨e, he⟩ := h.hasFile hlisted hbase hold
    have heq := hfile.eq_of_start ((Path.isWithin_iff _ _).1 hwithin) he
    rw [← (h.names opened hold).key, ← Path.segments_injective heq,
      ← (horderly.sound.of_mem_files hbase hdeleted.listed).2.1]

theorem Founded.deleteFolder (h : Founded base w) (hlisted : w.OpenListed) (hbase : Tidy base)
    (name : String) : Founded base (w.deleteFolder name).2 := by
  rcases w.deleteFolder_cases name with hsame | ⟨w', hdone⟩
  · rwa [hsame]
  obtain ⟨lifted, horderly⟩ := h.orderly
  have hdeleted := deleteFolder_done horderly.sound hbase hdone
  have hnext := horderly.deleteFolder hbase hdone
  rw [hdone]
  refine h.prunes horderly hnext hdeleted.prunes fun opened hopen => ?_
  rw [hdeleted.openFiles] at hopen
  obtain ⟨hold, hkept⟩ := List.mem_filter.1 hopen
  refine ⟨hold, Bool.eq_false_iff.2 fun hwithin => ?_⟩
  -- A file is seen at the path of the open one, so that is not the folder, and those below closed.
  have hne : Path.parse opened ≠ Path.parse name := fun heq =>
    (h.hasFile hlisted hbase hold).not_folder (heq ▸ hdeleted.seen)
  have hstart := Path.startsWith_key hdeleted.proper.1 hwithin hne
  rw [(h.names opened hold).key] at hstart
  simp [hstart] at hkept

/-! ## 7. Runs -/

/-- The states of a run: `w`, and the state after each operation. -/
def states (w : Workspace) : List Operation → List Workspace
  | [] => [w]
  | op :: rest => w :: (w.perform op).states rest

def Operation.opensBlindly : Operation → Bool
  | .openGiven _ | .closeOthers _ => true
  | _ => false

/-- **Each operation keeps a workspace founded**, if it is `OpenListed` before. -/
theorem Founded.perform (h : Founded base w) (hlisted : w.OpenListed) (hbase : Tidy base)
    (htop : PlainTop base) {op : Operation} (hplain : op.Plain) (hop : op.opensBlindly = false) :
    Founded base (w.perform op) := by
  obtain ⟨lifted, horderly⟩ := h.orderly
  cases op with
  | read => exact h.refresh
  | openFile name => exact h.openFile hbase htop name
  | openGiven | closeOthers => cases hop
  -- Closing leaves fewer open files and the same documents.
  | closeFile name =>
    refine h.same rfl rfl rfl fun opened hopen => h.names opened ?_
    exact (List.mem_filter.1 hopen).1
  | closeAll => exact h.same rfl rfl rfl fun opened hopen => absurd hopen List.not_mem_nil
  -- An edit creates nothing and takes nothing, which is a special case of growing.
  | update name content =>
    have hnext := horderly.recordEdit (.modify (Path.parse name) content) rfl rfl rfl rfl
    exact h.grows (q := Path.parse name) horderly hnext (.inl rfl)
      ⟨fun _ hq => hq, fun _ hq _ => hq, fun _ hq => hq, fun _ hq => hq⟩ fun _ hopen => .inl hopen
  | resetFile name =>
    obtain ⟨lifted', hnext, hlifts⟩ := horderly.resetFile name
    refine h.grows horderly hnext hlifts ?_ fun opened hopen => .inl ?_
    · show w.journal.Grows _ (w.record (.reset (Path.parse name))).journal
      rw [record_journal, Journal.apply, Journal.reset]
      split
      · exact ⟨fun _ hq => hq, fun _ hq _ => hq, fun _ hq => hq, fun _ hq => hq⟩
      · exact .of_eq rfl _
    · rwa [← (sameOpen_record w (.reset (Path.parse name))).openFiles]
  | createFile name content => exact h.createFile (hplain name rfl) content
  | createFileWithPath name content => exact h.createFileWithPath (hplain name rfl) content
  | createFolder name => exact h.createFolder name
  | deleteFile name => exact h.deleteFile hlisted hbase htop name
  | deleteFolder name => exact h.deleteFolder hlisted hbase name

theorem Founded.states_iff (h : Founded base w) (hbase : Tidy base) (htop : PlainTop base)
    {operations : List Operation}
    (hops : ∀ op ∈ operations, op.Plain ∧ op.opensBlindly = false) :
    (∀ w' ∈ w.states operations, w'.OpenListed) ↔
      ∀ w' ∈ w.states operations, ∀ name ∈ w'.openFiles,
        w'.isCovered (Path.parse name) = false := by
  induction operations generalizing w with
  | nil => simpa [states] using h.openListed_iff hbase
  | cons op rest ih =>
    obtain ⟨hop, hrest⟩ := List.forall_mem_cons.1 hops
    rw [states, List.forall_mem_cons, List.forall_mem_cons, ← h.openListed_iff hbase]
    -- If what is open before the operation is listed, what is open afterwards is founded.
    refine and_congr_right fun hlisted => ih ?_ hrest
    exact h.perform hlisted hbase htop hop.1 hop.2

/-- **When no open file is lost.** From the start, with no `openFiles`, let `operations` be `Plain`,
none of which `opensBlindly`. Every open file is listed after each operation iff in none of these
states `isCovered` holds of an open file. -/
theorem open_files_listed_iff (hbase : Tidy base) (htop : PlainTop base) (active : String)
    (operations : List Operation)
    (hops : ∀ op ∈ operations, op.Plain ∧ op.opensBlindly = false) :
    let run := (start base [] active).states operations
    (∀ w ∈ run, ∀ name ∈ w.openFiles, name ∈ w.files.map File.name) ↔
      ∀ w ∈ run, ∀ name ∈ w.openFiles, w.isCovered (Path.parse name) = false :=
  (Founded.start base active).states_iff hbase htop hops

/-- Files are opened, created, deleted and deleted with their folder, and none is lost. -/
theorem open_files_listed_closing :
    let base : List Entry :=
      [.folder "a" [.file ⟨"p", "markdown", "x", false⟩] false, .file ⟨"b", "markdown", "y", false⟩]
    let operations : List Operation :=
      [.openFile "A/P", .createFile "b" "z", .createFileWithPath "c/d" "", .deleteFile "b",
        .deleteFolder "a", .closeFile "x", .deleteFolder "c", .createFolder "a",
        .createFile "a/p" "w"]
    let run := (start base [] "").states operations
    Tidy base ∧ PlainTop base ∧ (∀ op ∈ operations, op.Plain ∧ op.opensBlindly = false) ∧
      (∀ w ∈ run, ∀ name ∈ w.openFiles, name ∈ w.files.map File.name) ∧
      run.map openFiles =
        [[], ["a/p"], ["a/p", "b"], ["a/p", "b", "c/d"], ["a/p", "c/d"], ["c/d"], ["c/d"], [], [],
          ["a/p"]] := by
  intro base operations run
  have hbase : Tidy base := by decide
  have htop : PlainTop base := by decide
  have hops : ∀ op ∈ operations, op.Plain ∧ op.opensBlindly = false := by decide +kernel
  refine ⟨hbase, htop, hops, (open_files_listed_iff hbase htop "" operations hops).2 ?_, ?_⟩
  · decide +kernel
  · decide +kernel

/-- A file is created in a deleted folder, and then the folder is: a folder of the base comes back
in the place of the file, which stays open. -/
theorem open_file_covered :
    let base : List Entry := [.folder "a" [.folder "p" [] false] false]
    let operations : List Operation := [.deleteFolder "a", .createFile "a/p" "x", .createFolder "a"]
    let w := operations.foldl perform (start base [] "")
    Tidy base ∧ (∀ op ∈ operations, op.Plain ∧ op.opensBlindly = false) ∧
      w.openFiles = ["a/p"] ∧ w.files = [] ∧ isFolderAt w.tree (Path.parse "a/p") = true := by
  intro base operations w
  refine ⟨by decide, ?_, ?_, ?_, ?_⟩ <;> decide +kernel

end Workspace

end OverlayShell
