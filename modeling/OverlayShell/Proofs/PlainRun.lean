import OverlayShell.Proofs.OrderlyJournal

/-!
# Plain runs

A course leads from one workspace to another by operations that are permitted where they are
performed. A run is plain if no path that is named in it starts with a tilde, and no entry at the
top of the base does. Then every key reads back as its path, and the journal keeps in order.
-/

namespace OverlayShell

open Entry

namespace Workspace

/-! ## 1. Courses -/

/-- The text in which the operation names a path. `closeFile` compares names as they stand, so it
names none. -/
def Operation.name? : Operation → Option String
  | .read | .openGiven _ | .closeFile _ | .closeAll | .closeOthers _ => none
  | .openFile name | .update name _ | .resetFile name | .createFile name _
  | .createFileWithPath name _ | .createFolder name | .deleteFile name | .deleteFolder name =>
    some name

/-- The path that the operation names, if it names one, is `Path.Plain`. -/
def Operation.Plain (op : Operation) : Prop := ∀ name ∈ op.name?, (Path.parse name).Plain

instance (op : Operation) : Decidable op.Plain :=
  inferInstanceAs (Decidable (∀ name ∈ op.name?, _))

/-- The workspaces to which operations lead that are each `permitted` where they are performed. -/
inductive Course (permitted : Workspace → Operation → Prop) (w : Workspace) : Workspace → Prop
  | stay : Course permitted w w
  | go {w' : Workspace} (h : Course permitted w w') (op : Operation) (hop : permitted w' op) :
      Course permitted w (w'.perform op)

variable {permitted permitted' : Workspace → Operation → Prop} {w w' w'' : Workspace}

theorem Course.trans (h : Course permitted w w') (h' : Course permitted w' w'') :
    Course permitted w w'' := by
  induction h' with
  | stay => exact h
  | go _ op hop ih => exact .go ih op hop

theorem Course.mono (h : Course permitted w w')
    (hmore : ∀ w op, permitted w op → permitted' w op) : Course permitted' w w' := by
  induction h with
  | stay => exact .stay
  | go _ op hop ih => exact .go ih op (hmore _ op hop)

theorem Course.keeps {P : Workspace → Prop} (h : Course permitted w w')
    (hstep : ∀ w op, permitted w op → P w → P (w.perform op)) (hw : P w) : P w' := by
  induction h with
  | stay => exact hw
  | go _ op hop ih => exact hstep _ op hop ih

variable {base : List Entry}

/-- A `Course` of `Plain` operations over a base without tildes at its top. -/
def PlainRun (base : List Entry) (w : Workspace) : Prop :=
  PlainTop base ∧
    ∃ openFiles active, Course (fun _ op => op.Plain) (start base openFiles active) w

/-- `w.view` is the merge of the journal as it is: no tombstone has gone silently since. -/
def UpToDate (w : Workspace) : Prop := w.view = merge w.base w.journal

/-! ## 2. Operations keep the order -/

variable {lifted : List Path} {name content : String} {p : Path}

theorem Orderly.same (h : w.Orderly base lifted) (hsound : w'.Sound base)
    (hjournal : w'.journal = w.journal) (hview : w'.view = w.view) : w'.Orderly base lifted := by
  refine ⟨hsound, ?_, ?_, ?_, ?_⟩
  · rw [hjournal]
    exact h.journal
  · rw [hjournal]
    exact h.apart
  · rw [hjournal]
    exact h.returning
  · rw [hview, hjournal]
    exact h.seen

theorem Orderly.fresh (hsound : w.Sound base) (hjournal : w.journal.Orderly base)
    (hview : w.view = merge base w.journal) : w.Orderly base [] :=
  ⟨hsound, hjournal, by simp, by simp, by rw [Journal.buried_nil]; exact hview⟩

/-- A write that raises `version` is seen at once, so that nothing is `lifted` any more. -/
theorem Orderly.changed (h : w.Orderly base lifted) (hsound : w'.Sound base)
    (hbase : w'.base = w.base) (hcache : w'.cache = w.cache)
    (hversion : w.journal.version < w'.journal.version) (hjournal : w'.journal.Orderly base) :
    w'.Orderly base [] :=
  .fresh hsound hjournal (h.sound.view_changed hbase hcache hversion)

theorem Orderly.start (base : List Entry) (openFiles : List String) (active : String) :
    (start base openFiles active).Orderly base [] :=
  .fresh (.start base openFiles active) (.empty base) rfl

theorem Orderly.refresh (h : w.Orderly base lifted) : w.refresh.Orderly base lifted :=
  h.same h.sound.refresh rfl (view_refresh w)

/-- `Orderly` is kept by a write that leaves created files, created folders and tombstones as they
are. -/
theorem Orderly.recordEdit (h : w.Orderly base lifted) (write : Journal.Write)
    (hversion : (w.journal.apply write).version = w.journal.version + 1)
    (hcreated : (w.journal.apply write).created = w.journal.created)
    (hfolders : (w.journal.apply write).folders = w.journal.folders)
    (hdeleted : (w.journal.apply write).deleted = w.journal.deleted) :
    (w.record write).Orderly base [] := by
  have hsame : (w.journal.apply write).isDeleted = w.journal.isDeleted := by
    funext q
    unfold Journal.isDeleted
    rw [hdeleted]
  have hsound := h.sound.record write hversion (h.sound.journal.congr hcreated hfolders hsame)
  refine h.changed hsound (record_base w _) (record_cache w _) ?_ ?_
  · rw [record_journal, hversion]
    exact Nat.lt_succ_self _
  · rw [record_journal]
    exact h.journal.congr hcreated hfolders hsame

/-- What a write at `p` makes of `lifted`: either the view is made anew without any, or it stays as
it is and at most the tombstone of `p` joins them. -/
def Lifts (w w' : Workspace) (p : Path) (lifted lifted' : List Path) : Prop :=
  lifted' = [] ∨ w'.view = w.view ∧ ∀ q ∈ lifted', q ∈ lifted ∨ q = p

theorem Lifts.same (hview : w'.view = w.view) (p : Path) (lifted : List Path) :
    Lifts w w' p lifted lifted := .inr ⟨hview, fun _ hq => .inl hq⟩

theorem Orderly.resetFile (h : w.Orderly base lifted) (name : String) :
    ∃ lifted', (w.resetFile name).2.Orderly base lifted' ∧
      Lifts w (w.resetFile name).2 (Path.parse name) lifted lifted' := by
  have hsound := h.sound.resetFile name
  by_cases hmod : w.journal.isModified (Path.parse name) = true
  · have happly : w.journal.apply (.reset (Path.parse name)) =
        Journal.bump { w.journal with modified := w.journal.modified.erase (Path.parse name) } := by
      simp [Journal.apply, Journal.reset, hmod]
    refine ⟨[], h.recordEdit (.reset (Path.parse name)) ?_ ?_ ?_ ?_, .inl rfl⟩ <;> rw [happly] <;>
      rfl
  · have hjournal : (w.record (.reset (Path.parse name))).journal = w.journal := by
      rw [record_journal]
      simp [Journal.apply, Journal.reset, hmod]
    have hview := view_congr (record_base w _) hjournal (record_cache w _)
    exact ⟨lifted, h.same hsound hjournal hview, .same hview _ _⟩

theorem Orderly.createFile (h : w.Orderly base lifted) (hplain : (Path.parse name).Plain)
    (content : String) : ∃ lifted', (w.createFile name content).2.Orderly base lifted' ∧
      Lifts w (w.createFile name content).2 (Path.parse name) lifted lifted' := by
  have hsound := h.sound.createFile name content
  rcases w.createFile_cases name content with
    ⟨-, hsame | ⟨level, text, hsame⟩⟩ | ⟨hp, hfolder, hfree, file, -, hdone⟩
  · rw [hsame]
    exact ⟨lifted, h, .same rfl _ _⟩
  · rw [hsame] at hsound ⊢
    exact ⟨lifted, h.same hsound rfl rfl, .same rfl _ _⟩
  · rw [hdone] at hsound ⊢
    have hunseen : ¬ HasFolder (Path.parse name).segments w.tree := by
      rw [← isFolderAt_iff hp.1, hfolder]
      simp
    rw [any_isFileAt_ancestors hp.1] at hfree
    exact ⟨[], h.changed hsound rfl rfl (Nat.lt_succ_self _)
      (h.create hplain hp.1 hunseen hfree file), .inl rfl⟩

/-- `addFolder` of a folder that has been created before raises no version: the view stays as it is,
and a tombstone of the folder is one more to be put back. -/
theorem Orderly.recordFolder_again (h : w.Orderly base lifted)
    (hcur : w.cache.isCurrent w.journal = true) (hsound : (w.record (.addFolder p)).Sound base)
    (horderly : (w.journal.apply (.addFolder p)).Orderly base)
    (hfolder : w.journal.hasFolder p = true) :
    let lifted' := lifted ++ w.journal.silentlyLifted (.addFolder p)
    (w.record (.addFolder p)).Orderly base lifted' ∧
      Lifts w (w.record (.addFolder p)) p lifted lifted' := by
  have hversion : (w.journal.apply (.addFolder p)).version = w.journal.version := by
    rw [Journal.apply, Journal.addFolder_of_hasFolder hfolder]
  have hgrows : w.journal.Grows p (w.journal.apply (.addFolder p)) := .addFolder w.journal p
  have hview := view_recordFolder_again hcur hfolder
  -- The tombstone that goes, if there is one, is that of the folder itself.
  have hlifted : ∀ q ∈ w.journal.silentlyLifted (.addFolder p),
      q = p ∧ w.journal.isDeleted p = true := by
    intro q hq
    rw [Journal.silentlyLifted_addFolder hfolder] at hq
    split at hq
    · exact ⟨List.mem_singleton.1 hq, ‹_›⟩
    · cases hq
  refine ⟨⟨hsound, ?_, ?_, ?_, ?_⟩, .inr ⟨hview, fun q hq => ?_⟩⟩
  · rwa [record_journal]
  · intro q hq hmem
    rw [record_journal, Journal.apply, Journal.created_addFolder] at hq
    rcases List.mem_append.1 hmem with hmem | hmem
    · exact h.apart q hq hmem
    · obtain ⟨rfl, hdel⟩ := hlifted q hmem
      exact h.sound.journal.apart q hq (Journal.isDeleted_iff.1 hdel)
  · intro q hq
    have hold : w.journal.Returning base q := by
      rcases List.mem_append.1 hq with hq | hq
      · exact h.returning q hq
      · obtain ⟨rfl, hdel⟩ := hlifted q hq
        exact h.journal.again q (List.contains_iff_mem.1 hfolder) hdel
    rw [record_journal]
    exact hold.mono (hgrows.folders q hold.folder) hgrows.fewer
  · rw [hview, record_journal, Journal.merge_buried_apply hversion]
    exact h.seen
  · exact (List.mem_append.1 hq).imp_right fun hq => (hlifted q hq).1

/-- `addFolder` keeps the workspace `Orderly` where no file is in the way of the folder. -/
theorem Orderly.recordFolder (h : w.Orderly base lifted)
    (hcur : w.cache.isCurrent w.journal = true) (hp : p.Proper)
    (hfree : isObstructed p.segments w.tree = false) :
    ∃ lifted', (w.record (.addFolder p)).Orderly base lifted' ∧
      Lifts w (w.record (.addFolder p)) p lifted lifted' := by
  have hsound := h.sound.recordFolder hcur hp hfree
  have hjournal : (w.journal.apply (.addFolder p)).Orderly base := h.addFolder hfree
  cases hfolder : w.journal.hasFolder p with
  | true => exact ⟨_, h.recordFolder_again hcur hsound hjournal hfolder⟩
  | false =>
    rw [← record_journal] at hjournal
    refine ⟨[], h.changed hsound (record_base w _) (record_cache w _) ?_ hjournal, .inl rfl⟩
    rw [record_journal, Journal.apply, Journal.addFolder_of_new hfolder]
    exact Nat.lt_succ_self _

theorem Orderly.createFolder (h : w.Orderly base lifted) (name : String) :
    ∃ lifted', (w.createFolder name).2.Orderly base lifted' ∧
      Lifts w (w.createFolder name).2 (Path.parse name) lifted lifted' := by
  rcases w.createFolder_cases name with ⟨-, hsame | ⟨level, text, hsame⟩⟩ | ⟨hp, hfree, hdone⟩
  · rw [hsame]
    exact ⟨lifted, h, .same rfl _ _⟩
  · rw [hsame]
    have hview : (w.refresh.note level text).view = w.view := view_refresh w
    exact ⟨lifted, h.same (h.sound.refresh.same rfl rfl rfl) rfl hview, .same hview _ _⟩
  · rw [hdone]
    have hfree' : isObstructed (Path.parse name).segments w.refresh.tree = false := by
      rwa [tree, view_refresh]
    obtain ⟨lifted', horderly, hlifts⟩ := h.refresh.recordFolder (isCurrent_refresh w) hp hfree'
    rw [Lifts, view_refresh] at hlifts
    exact ⟨lifted', horderly, hlifts⟩

theorem Orderly.createFolders (h : w.Orderly base lifted) (folders : List Path) :
    ∃ lifted', (w.createFolders folders).2.Orderly base lifted' := by
  induction folders generalizing w lifted with
  | nil => exact ⟨lifted, h⟩
  | cons folder rest ih =>
    obtain ⟨lifted', hnext, -⟩ := h.createFolder folder.key
    rw [Workspace.createFolders]
    split
    · rename_i heq
      rw [heq] at hnext
      exact ih hnext
    · rename_i heq
      rw [heq] at hnext
      exact ⟨lifted', hnext⟩

theorem Orderly.createFileWithPath (h : w.Orderly base lifted) (hplain : (Path.parse name).Plain)
    (content : String) : ∃ lifted', (w.createFileWithPath name content).2.Orderly base lifted' := by
  unfold Workspace.createFileWithPath
  simp only
  split
  · exact ⟨lifted, h⟩
  · obtain ⟨lifted', hfolders⟩ := h.createFolders (Path.parse name).ancestors
    split
    · rename_i heq
      rw [heq] at hfolders
      -- The key of a plain path reads back as the path, which is plain.
      have hkey : (Path.parse (Path.parse name).key).Plain := by
        rwa [Path.parse_key (Path.parse_normal name) hplain]
      obtain ⟨lifted', hnext, -⟩ := hfolders.createFile hkey content
      exact ⟨lifted', hnext⟩
    · rename_i heq
      rw [heq] at hfolders
      exact ⟨lifted', hfolders⟩

/-- The name of a listed file reads back as its `File.path`, and a file stands there. -/
theorem Orderly.path_of_listed (h : w.Orderly base lifted) (hbase : Tidy base)
    (htop : PlainTop base) {f : File} (hf : f ∈ w.files) :
    Path.parse f.name = f.path ∧ HasFile f.path.segments w.tree := by
  obtain ⟨q, hq, g, hg, rfl⟩ := (h.sound.mem_files_iff hbase).1 hf
  have hpath : File.path { g with name := q.key } = q := File.path_of_key rfl hq.2
  have hfile := hg
  rw [h.tree_eq] at hfile
  have hplain : q.Plain := by
    rcases Journal.hasFile_merge_cases h.made_sound ⟨g, hfile⟩ with hkept | hcreated
    · obtain ⟨-, e, he⟩ := (hasFile_survivors _ base).1 hkept
      exact htop.plain he
    · exact h.journal.plain q hcreated
  rw [hpath]
  exact ⟨Path.parse_key hq.2 hplain, g, hg⟩

/-- What `deleteFile` deletes was seen, and leaves a tombstone at its path. -/
theorem Orderly.deleteFile_done (h : w.Orderly base lifted) (hbase : Tidy base)
    (htop : PlainTop base) (hdone : w.deleteFile name = (true, w')) :
    ∃ f, w.file? name = some f ∧ HasFile f.path.segments w.tree ∧
      w'.journal = w.journal.delete f.path ∧ w'.Orderly base [] := by
  have hsound : w'.Sound base := by
    have hnext := h.sound.deleteFile name
    rwa [hdone] at hnext
  rcases w.deleteFile_cases name with hsame | ⟨f, hfind, hf, hdeleted⟩
  · rw [hdone] at hsame
    cases hsame
  · rw [hdone] at hdeleted
    obtain ⟨-, rfl⟩ := Prod.mk.inj hdeleted
    obtain ⟨hparse, hfile⟩ := h.path_of_listed hbase htop hf
    have hjournal : ((w.record (.delete (Path.parse f.name))).closeFile f.name).journal =
        w.journal.delete f.path := by rw [← hparse]; rfl
    refine ⟨f, hfind, hfile, hjournal, h.changed hsound rfl rfl (Nat.lt_succ_self _) ?_⟩
    rw [hjournal]
    exact h.delete hfile

theorem Orderly.deleteFolder (h : w.Orderly base lifted) (hbase : Tidy base)
    (hdone : w.deleteFolder name = (true, w')) : w'.Orderly base [] := by
  have hdeleted := deleteFolder_done h.sound hbase hdone
  exact h.changed (h.sound.after_deleteFolder hdone) hdeleted.base_eq hdeleted.cache_eq
    hdeleted.version (h.journal.emptied hdeleted.prunes hdeleted.emptied)

theorem deleteFolder_cases (w : Workspace) (name : String) :
    w.deleteFolder name = (false, w) ∨ ∃ w', w.deleteFolder name = (true, w') := by
  unfold Workspace.deleteFolder
  simp only
  split
  · exact .inl rfl
  · split
    · exact .inr ⟨_, rfl⟩
    · exact .inl rfl

/-- **A plain operation keeps the workspace in order**: `Orderly` goes over, with other tombstones
`lifted`. -/
theorem Orderly.perform (h : w.Orderly base lifted) (hbase : Tidy base) (htop : PlainTop base)
    {op : Operation} (hop : op.Plain) : ∃ lifted', (w.perform op).Orderly base lifted' := by
  have hsound := h.sound.perform op
  -- What neither writes nor reads the journal keeps `lifted`. A write that is seen at once, as
  -- edits and deletions are, leaves none; creations tell by themselves what becomes of it.
  cases op with
  | read => exact ⟨lifted, h.refresh⟩
  | openFile name =>
    show ∃ lifted', (w.openFile name).2.Orderly base lifted'
    unfold Workspace.openFile
    cases hfile : w.file? name with
    | none => exact ⟨lifted, h⟩
    | some f => exact ⟨lifted, h.same (h.sound.same rfl rfl rfl) rfl rfl⟩
  | openGiven file => exact ⟨lifted, h.same hsound rfl rfl⟩
  | closeFile name => exact ⟨lifted, h.same hsound rfl rfl⟩
  | closeAll => exact ⟨lifted, h.same hsound rfl rfl⟩
  | closeOthers keep => exact ⟨lifted, h.same hsound rfl rfl⟩
  | update name content =>
    exact ⟨[], h.recordEdit (.modify (Path.parse name) content) rfl rfl rfl rfl⟩
  | resetFile name =>
    obtain ⟨lifted', hnext, -⟩ := h.resetFile name
    exact ⟨lifted', hnext⟩
  | createFile name content =>
    obtain ⟨lifted', hnext, -⟩ := h.createFile (hop name rfl) content
    exact ⟨lifted', hnext⟩
  | createFileWithPath name content => exact h.createFileWithPath (hop name rfl) content
  | createFolder name =>
    obtain ⟨lifted', hnext, -⟩ := h.createFolder name
    exact ⟨lifted', hnext⟩
  | deleteFile name =>
    show ∃ lifted', (w.deleteFile name).2.Orderly base lifted'
    rcases w.deleteFile_cases name with hsame | ⟨_, -, -, hdone⟩
    · exact ⟨lifted, by rwa [hsame]⟩
    · obtain ⟨-, -, -, -, hnext⟩ := h.deleteFile_done hbase htop hdone
      exact ⟨[], by rwa [hdone]⟩
  | deleteFolder name =>
    show ∃ lifted', (w.deleteFolder name).2.Orderly base lifted'
    rcases w.deleteFolder_cases name with hsame | ⟨w', hdone⟩
    · exact ⟨lifted, by rwa [hsame]⟩
    · exact ⟨[], by rw [hdone]; exact h.deleteFolder hbase hdone⟩

/-- **A plain run ends in order**: its last workspace is `Orderly` with some `lifted`. -/
theorem PlainRun.orderly (hbase : Tidy base) (h : PlainRun base w) :
    ∃ lifted, w.Orderly base lifted := by
  obtain ⟨htop, openFiles, active, hcourse⟩ := h
  refine hcourse.keeps (P := fun w => ∃ lifted, w.Orderly base lifted) ?_
    ⟨[], .start base openFiles active⟩
  rintro w op hop ⟨lifted, horderly⟩
  exact horderly.perform hbase htop hop

theorem PlainRun.orderly_of_upToDate (hbase : Tidy base) (h : PlainRun base w)
    (hview : w.UpToDate) : w.Orderly base [] := by
  obtain ⟨lifted, horderly⟩ := h.orderly hbase
  refine .fresh horderly.sound horderly.journal ?_
  have hmerge : w.view = merge w.base w.journal := hview
  rwa [horderly.sound.base_eq] at hmerge

end Workspace

end OverlayShell
