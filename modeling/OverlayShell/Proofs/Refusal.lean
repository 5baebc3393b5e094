import OverlayShell.Proofs.PlainRun
import OverlayShell.Proofs.Writing

/-!
# Refusals

An operation that makes or takes away one thing checks everything before it records anything, so
when it is refused nothing has happened. A file that is created together with the folders above it
is different: the folders are recorded one by one, and those that were made stay when a later one,
or the file itself, is refused.
-/

namespace OverlayShell

open Entry

namespace Journal

variable {j : Journal} {p q : Path}

/-! ## 1. Recorded folders -/

/-- The folder was created as such and has no tombstone. -/
def isRecorded (j : Journal) (p : Path) : Bool := j.hasFolder p && !j.isDeleted p

theorem isRecorded_iff : j.isRecorded p = true ↔ p ∈ j.folders ∧ p ∉ j.deleted := by
  rw [isRecorded, Bool.and_eq_true, Bool.not_eq_true', Bool.eq_false_iff, Ne, isDeleted_iff,
    hasFolder, List.contains_iff_mem]

/-- `addFolder` of a recorded folder changes nothing at all, `version` included. -/
theorem addFolder_of_isRecorded (h : j.isRecorded p = true) : j.addFolder p = j := by
  obtain ⟨hfolder, hlive⟩ := isRecorded_iff.1 h
  have hwithout : without p j.deleted = j.deleted := by
    refine List.filter_eq_self.2 fun q hq => bne_iff_ne.2 fun heq => ?_
    exact hlive (heq ▸ hq)
  rw [addFolder_of_hasFolder (List.contains_iff_mem.2 hfolder), hwithout]

theorem isRecorded_addFolder (j : Journal) (p : Path) : (j.addFolder p).isRecorded p = true := by
  refine isRecorded_iff.2 ⟨mem_folders_addFolder.2 (.inl rfl), fun hdel => ?_⟩
  exact ((isDeleted_addFolder_iff j p p).1 (isDeleted_iff.2 hdel)).2 rfl

/-- `isRecorded` is kept by every write that does not destroy. -/
theorem isRecorded_apply {write : Write} (hwrite : write.destroys = false)
    (h : j.isRecorded p = true) : (j.apply write).isRecorded p = true := by
  obtain ⟨hfolder, hlive⟩ := isRecorded_iff.1 h
  refine isRecorded_iff.2 ?_
  cases write with
  | create path file => exact ⟨hfolder, fun hdel => hlive (mem_without.1 hdel).1⟩
  | addFolder path =>
    refine ⟨mem_folders_addFolder.2 (.inr hfolder), fun hdel => hlive ?_⟩
    exact isDeleted_iff.1 ((isDeleted_addFolder_iff j path p).1 (isDeleted_iff.2 hdel)).1
  | modify path content => exact ⟨hfolder, hlive⟩
  | reset path =>
    simp only [apply, Journal.reset]
    split <;> exact ⟨hfolder, hlive⟩
  | delete | dropFoldersUnder | dropCreatedUnder => cases hwrite

end Journal

namespace Workspace

variable {w w' w'' : Workspace} {p : Path} {name content : String} {folders : List Path}

/-! ## 2. Open files -/

structure SameOpen (w w' : Workspace) : Prop where
  openFiles : w'.openFiles = w.openFiles
  active : w'.active = w.active

theorem SameOpen.refl (w : Workspace) : SameOpen w w := ⟨rfl, rfl⟩

theorem SameOpen.trans (h : SameOpen w w') (h' : SameOpen w' w'') : SameOpen w w'' :=
  ⟨h'.openFiles.trans h.openFiles, h'.active.trans h.active⟩

theorem sameOpen_record (w : Workspace) (write : Journal.Write) : SameOpen w (w.record write) := by
  unfold record
  cases write with
  | addFolder path =>
    simp only
    split <;> exact ⟨rfl, rfl⟩
  | _ => exact ⟨rfl, rfl⟩

theorem sameOpen_createFolder (w : Workspace) (name : String) :
    SameOpen w (w.createFolder name).2 := by
  rcases w.createFolder_cases name with ⟨-, hsame | ⟨level, text, hsame⟩⟩ | ⟨-, -, hdone⟩
  · rw [hsame]
    exact .refl w
  · rw [hsame]
    exact ⟨rfl, rfl⟩
  · rw [hdone]
    have hread : SameOpen w w.refresh := ⟨rfl, rfl⟩
    exact hread.trans (sameOpen_record w.refresh (.addFolder (Path.parse name)))

theorem sameOpen_createFolders (w : Workspace) (folders : List Path) :
    SameOpen w (w.createFolders folders).2 := by
  induction folders generalizing w with
  | nil => exact .refl w
  | cons folder rest ih =>
    have hfirst := w.sameOpen_createFolder folder.key
    rw [createFolders]
    split
    · rename_i w' heq
      rw [heq] at hfirst
      exact hfirst.trans (ih w')
    · rename_i heq
      rwa [heq] at hfirst

/-! ## 3. One creation -/

/-- `createFile` that gives `none` leaves at most a notice. -/
theorem createFile_refused (h : (w.createFile name content).1 = none) :
    (w.createFile name content).2.journal = w.journal ∧
      SameOpen w (w.createFile name content).2 := by
  rcases w.createFile_cases name content with
    ⟨-, hsame | ⟨level, text, hsame⟩⟩ | ⟨-, -, -, file, -, hdone⟩
  · rw [hsame]
    exact ⟨rfl, .refl w⟩
  · rw [hsame]
    exact ⟨rfl, rfl, rfl⟩
  · rw [hdone] at h
    cases h

/-- `createFolder` that gives `false` leaves at most a notice, and a view that has been read. -/
theorem createFolder_refused (h : (w.createFolder name).1 = false) :
    (w.createFolder name).2.journal = w.journal := by
  rcases w.createFolder_cases name with ⟨-, hsame | ⟨level, text, hsame⟩⟩ | ⟨-, -, hdone⟩
  · rw [hsame]
  · rw [hsame]
    rfl
  · rw [hdone] at h
    cases h

/-- `createFolder` does not refuse `p`: it is not the root, and no file stands there or above. -/
def admits (w : Workspace) (p : Path) : Bool := !p.isRoot && !isObstructed p.segments w.tree

theorem createFolder_fst (w : Workspace) (name : String) :
    (w.createFolder name).1 = w.admits (Path.parse name) := by
  unfold createFolder admits
  cases hroot : (Path.parse name).isRoot with
  | true => simp [hroot]
  | false =>
    -- The refusal is decided by the view that has just been read, which is the one before.
    have hblocked : w.refresh.isBlocked (Path.parse name) =
        isObstructed (Path.parse name).segments w.tree := by
      rw [isBlocked_eq _ (proper_parse hroot).1, tree, view_refresh, tree]
    cases hobs : isObstructed (Path.parse name).segments w.tree <;> simp [hroot, hblocked, hobs]

/-- A folder that `createFolder` makes is recorded from then on. -/
theorem isRecorded_of_createFolder (hdone : (w.createFolder name).1 = true) :
    (w.createFolder name).2.journal.isRecorded (Path.parse name) = true := by
  rcases w.createFolder_cases name with ⟨hrefused, -⟩ | ⟨-, -, hmade⟩
  · rw [hdone] at hrefused
    cases hrefused
  · rw [hmade, record_journal]
    exact Journal.isRecorded_addFolder _ _

/-- `createFolder` of a recorded folder leaves journal and view as they are. -/
theorem createFolder_of_isRecorded (hrecorded : w.journal.isRecorded (Path.parse name) = true) :
    (w.createFolder name).2.journal = w.journal ∧ (w.createFolder name).2.view = w.view := by
  rcases w.createFolder_cases name with ⟨-, hsame | ⟨level, text, hsame⟩⟩ | ⟨-, -, hdone⟩
  · exact ⟨by rw [hsame], by rw [hsame]⟩
  · exact ⟨by rw [hsame]; rfl, by rw [hsame]; exact view_refresh w⟩
  · have hfolder : w.refresh.journal.hasFolder (Path.parse name) = true :=
      List.contains_iff_mem.2 (Journal.isRecorded_iff.1 hrecorded).1
    rw [hdone]
    refine ⟨?_, (view_recordFolder_again (isCurrent_refresh w) hfolder).trans (view_refresh w)⟩
    exact (record_journal _ _).trans (Journal.addFolder_of_isRecorded hrecorded)

/-! ## 4. Folders in turn -/

theorem isRecorded_createFolders (hrecorded : w.journal.isRecorded p = true)
    (folders : List Path) : (w.createFolders folders).2.journal.isRecorded p = true :=
  (writes_createFolders w folders).keeps (P := fun j => j.isRecorded p = true)
    (fun _ _ _ hdestroys => Journal.isRecorded_apply (by simpa using hdestroys)) hrecorded

/-- The folders as they are read back from their keys, up to the first that `admits` refuses. -/
def admitted (w : Workspace) (folders : List Path) : List Path :=
  (folders.map fun folder => Path.parse folder.key).takeWhile w.admits

/-- **Folders in turn.** `createFolders` leaves the journal iff each of the `admitted` folders was
recorded before. The induction is on `folders`, with the workspace at hand for each. -/
theorem createFolders_journal_eq_iff (w : Workspace) (folders : List Path) :
    (w.createFolders folders).2.journal = w.journal ↔
      ∀ p ∈ w.admitted folders, w.journal.isRecorded p = true := by
  induction folders generalizing w with
  | nil => simp [createFolders, admitted]
  | cons folder rest ih =>
    have hadmits := w.createFolder_fst folder.key
    rw [admitted, List.map_cons, List.takeWhile_cons, ← hadmits]
    rcases hfirst : w.createFolder folder.key with ⟨made, w'⟩
    cases made with
    | false =>
      have hjournal : w'.journal = w.journal := by
        have hrefused : (w.createFolder folder.key).1 = false := by rw [hfirst]
        have hsame := createFolder_refused hrefused
        rwa [hfirst] at hsame
      simp [createFolders, hfirst, hjournal]
    | true =>
      -- If this folder was recorded, the others find everything as it was.
      have hothers (hrecorded : w.journal.isRecorded (Path.parse folder.key) = true) :
          (w'.createFolders rest).2.journal = w.journal ↔
            ∀ p ∈ w.admitted rest, w.journal.isRecorded p = true := by
        obtain ⟨hjournal, hview⟩ := createFolder_of_isRecorded hrecorded
        rw [hfirst] at hjournal hview
        have hsame : w'.admits = w.admits := by
          funext p
          rw [admits, admits, tree, tree, hview]
        rw [← hjournal, ih w', admitted, admitted, hsame]
      have hmade : w'.journal.isRecorded (Path.parse folder.key) = true := by
        have hdone : (w.createFolder folder.key).1 = true := by rw [hfirst]
        have hrecorded := isRecorded_of_createFolder hdone
        rwa [hfirst] at hrecorded
      simp only [createFolders, hfirst, if_true, List.forall_mem_cons]
      constructor
      · intro heq
        have hrecorded := isRecorded_createFolders hmade rest
        rw [heq] at hrecorded
        exact ⟨hrecorded, (hothers hrecorded).1 heq⟩
      · rintro ⟨hrecorded, hrest⟩
        exact (hothers hrecorded).2 hrest

/-- What `createFileWithPath` leaves behind when it is refused is what `createFolders` of the
ancestors leaves. -/
theorem createFileWithPath_refused (h : (w.createFileWithPath name content).1 = none) :
    (w.createFileWithPath name content).2.journal =
        (w.createFolders (Path.parse name).ancestors).2.journal ∧
      SameOpen w (w.createFileWithPath name content).2 := by
  have hopen := w.sameOpen_createFolders (Path.parse name).ancestors
  unfold createFileWithPath at h ⊢
  cases hroot : (Path.parse name).isRoot with
  | true =>
    -- The root has no ancestors, so no folder is made for it.
    have hnone : (Path.parse name).ancestors = [] := by
      rw [Path.ancestors, List.isEmpty_iff.1 hroot]
      rfl
    simp only [hroot, hnone, createFolders, if_true]
    exact ⟨trivial, .refl w⟩
  | false =>
    rcases hfolders : w.createFolders (Path.parse name).ancestors with ⟨made, w'⟩
    rw [hfolders] at hopen
    cases made with
    | false =>
      simp only [hroot, Bool.false_eq_true, if_false, hfolders]
      exact ⟨trivial, hopen⟩
    -- All folders are made, and then the file itself is refused.
    | true =>
      simp only [hroot, Bool.false_eq_true, if_false, hfolders] at h ⊢
      obtain ⟨hjournal, hlast⟩ := createFile_refused h
      exact ⟨hjournal, hopen.trans hlast⟩

/-! ## 5. Refused operations -/

/-- `op` reports that it has failed. -/
def refuses (w : Workspace) : Operation → Bool
  | .createFile name content => (w.createFile name content).1.isNone
  | .createFileWithPath name content => (w.createFileWithPath name content).1.isNone
  | .createFolder name => !(w.createFolder name).1
  | .deleteFile name => !(w.deleteFile name).1
  | .deleteFolder name => !(w.deleteFolder name).1
  | .read | .openFile _ | .openGiven _ | .closeFile _ | .closeAll | .closeOthers _ | .update _ _
  | .resetFile _ => false

/-- The folders that `op` makes before it does what it is asked for. -/
def makesFirst (w : Workspace) : Operation → List Path
  | .createFileWithPath name _ => w.admitted (Path.parse name).ancestors
  | _ => []

/-- **What a refusal leaves behind.** In any state, an operation that `refuses` leaves `openFiles`
and `active` as they were. It leaves `journal`, too, iff each folder that it `makesFirst` was
recorded before; only `createFileWithPath` makes any. -/
theorem refused_iff_recorded (w : Workspace) (op : Operation) (hrefused : w.refuses op = true) :
    let w' := w.perform op
    w'.openFiles = w.openFiles ∧ w'.active = w.active ∧
      (w'.journal = w.journal ↔ ∀ p ∈ w.makesFirst op, w.journal.isRecorded p = true) := by
  intro w'
  -- Creations are refused by a lemma of their own. A deletion reports `false` only if it did
  -- nothing, and the rest reports nothing.
  cases op with
  | createFile name content =>
    obtain ⟨hjournal, hopen⟩ := createFile_refused (Option.isNone_iff_eq_none.1 hrefused)
    exact ⟨hopen.openFiles, hopen.active, by simp [makesFirst, w', perform, hjournal]⟩
  | createFolder name =>
    have hopen := w.sameOpen_createFolder name
    have hfalse : (w.createFolder name).1 = false := by simpa [refuses] using hrefused
    have hjournal := createFolder_refused hfalse
    exact ⟨hopen.openFiles, hopen.active, by simp [makesFirst, w', perform, hjournal]⟩
  | createFileWithPath name content =>
    obtain ⟨hjournal, hopen⟩ := createFileWithPath_refused (Option.isNone_iff_eq_none.1 hrefused)
    refine ⟨hopen.openFiles, hopen.active, ?_⟩
    rw [makesFirst, ← createFolders_journal_eq_iff, ← hjournal]
    rfl
  | deleteFile name =>
    have hsame : w' = w := by
      rcases w.deleteFile_cases name with hnone | ⟨f, -, -, hdone⟩
      · exact congrArg Prod.snd hnone
      · simp [refuses, hdone] at hrefused
    rw [hsame]
    simp [makesFirst]
  | deleteFolder name =>
    have hsame : w' = w := by
      rcases w.deleteFolder_cases name with hnone | ⟨w'', hdone⟩
      · exact congrArg Prod.snd hnone
      · simp [refuses, hdone] at hrefused
    rw [hsame]
    simp [makesFirst]
  | read | openFile | openGiven | closeFile | closeAll | closeOthers | update | resetFile =>
    cases hrefused

/-- A file below a file is refused without a trace if the folder around it was created before. -/
theorem refused_without_trace :
    let base : List Entry := [.folder "a" [.file ⟨"b", "markdown", "x", false⟩] false]
    let w := ((start base ["a/b"] "a/b").createFolder "a").2
    let op := Operation.createFileWithPath "a/b/c" "y"
    w.refuses op = true ∧ w.makesFirst op = [⟨["a"]⟩] ∧ (w.perform op).journal = w.journal ∧
      (w.perform op).openFiles = ["a/b"] ∧ (w.perform op).active = "a/b" := by
  intro base w op
  have hrefused : w.refuses op = true := by decide +kernel
  have hfirst : w.makesFirst op = [⟨["a"]⟩] := by decide +kernel
  obtain ⟨hopen, hactive, hjournal⟩ := refused_iff_recorded w op hrefused
  refine ⟨hrefused, hfirst, hjournal.2 ?_, hopen.trans ?_, hactive.trans ?_⟩
  · rw [hfirst]
    decide +kernel
  · decide +kernel
  · decide +kernel

/-- A file below a file is refused once the folder around that one has been recorded. -/
theorem refused_leaves_folder :
    let base : List Entry := [.folder "a" [.file ⟨"b", "markdown", "x", false⟩] false]
    let w := start base [] ""
    let op := Operation.createFileWithPath "a/b/c" "y"
    Tidy base ∧ Reachable base w ∧ w.refuses op = true ∧ w.version = 0 ∧
      (w.perform op).version = 1 ∧ (w.perform op).journal.folders = [⟨["a"]⟩] := by
  intro base w op
  refine ⟨by decide, ⟨[], "", [], rfl⟩, ?_, rfl, ?_, ?_⟩ <;> decide +kernel

end Workspace

end OverlayShell
