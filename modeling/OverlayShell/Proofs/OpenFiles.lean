import OverlayShell.Proofs.Refusal

/-!
# Open files

The editor knows which files are open and which one is in front. An operation may leave them alone,
put a name in front, close all of them, or close some: the ones of a name, or the ones below a
folder. When the one in front is closed, the last of the others follows it; so the one in front is
open as long as any is.
-/

namespace OverlayShell

/-! ## 1. The open files and the one in front -/

/-- No name is open twice, and `front` is among `openFiles`, or empty when nothing is open. -/
structure Arranged (openFiles : List String) (front : String) : Prop where
  nodup : openFiles.Nodup
  mem : openFiles ≠ [] → front ∈ openFiles
  blank : openFiles = [] → front = ""

namespace Arranged

variable {openFiles : List String} {front : String}

theorem none : Arranged [] "" := ⟨by simp, by simp, by simp⟩

theorem one (name : String) : Arranged [name] name := ⟨by simp, by simp, by simp⟩

/-- A name that comes to the front, at the end of the list if it is new, leaves the rest
`Arranged`. -/
theorem bring (h : Arranged openFiles front) (name : String) :
    Arranged (if openFiles.contains name then openFiles else openFiles ++ [name]) name := by
  by_cases hopen : name ∈ openFiles
  · rw [if_pos (List.contains_iff_mem.2 hopen)]
    exact ⟨h.nodup, fun _ => hopen, fun hnil => by simp [hnil] at hopen⟩
  · rw [if_neg fun hcontains => hopen (List.contains_iff_mem.1 hcontains)]
    refine ⟨?_, by simp, by simp⟩
    rw [List.nodup_append]
    refine ⟨h.nodup, by simp, ?_⟩
    rintro other hother _ hname rfl
    rw [List.mem_singleton.1 hname] at hother
    exact hopen hother

/-- **Some files are closed.** `front` stays if it is kept, and otherwise `lastOpen` of the kept
ones follows it. -/
theorem keep (h : Arranged openFiles front) (kept : String → Bool) :
    Arranged (openFiles.filter kept)
      (if kept front then front else Workspace.lastOpen (openFiles.filter kept)) := by
  refine ⟨h.nodup.filter kept, fun hsome => ?_, fun hnil => ?_⟩
  · have hopen : openFiles ≠ [] := by
      rintro rfl
      exact hsome rfl
    split
    · rename_i hkept
      exact List.mem_filter.2 ⟨h.mem hopen, hkept⟩
    · rw [Workspace.lastOpen, List.getLast?_eq_some_getLast hsome, Option.getD_some]
      exact List.getLast_mem hsome
  · split
    · rename_i hkept
      -- The one in front would be left if anything had been open.
      refine h.blank (by_contra fun hopen => ?_)
      have hfront := List.mem_filter.2 ⟨h.mem hopen, hkept⟩
      rw [hnil] at hfront
      cases hfront
    · rw [hnil]
      rfl

end Arranged

namespace Workspace

variable {w w' : Workspace}

/-! ## 2. Each operation -/

theorem SameOpen.arranged (h : SameOpen w w') (hw : Arranged w.openFiles w.active) :
    Arranged w'.openFiles w'.active := by
  rw [h.openFiles, h.active]
  exact hw

theorem sameOpen_recordDeletes (w : Workspace) (paths : List Path) :
    SameOpen w (paths.foldl (fun w p => w.record (.delete p)) w) := by
  obtain ⟨notices, hdone⟩ := recordDeletes_eq w paths
  rw [hdone]
  exact ⟨rfl, rfl⟩

theorem arranged_closeFile (hw : Arranged w.openFiles w.active) (name : String) :
    Arranged (w.closeFile name).openFiles (w.closeFile name).active := by
  have hkeep := hw.keep (· != name)
  have hactive : (w.closeFile name).active = if w.active != name then w.active
      else lastOpen (w.openFiles.filter (· != name)) := by
    by_cases h : w.active = name <;> simp [closeFile, h]
  rwa [hactive]

theorem arranged_closeUnder (hw : Arranged w.openFiles w.active) (p : Path) :
    Arranged (w.closeUnder p).openFiles (w.closeUnder p).active := by
  have hkeep := hw.keep (!Text.startsWith (p.key ++ "/") ·)
  have hactive : (w.closeUnder p).active =
      if !Text.startsWith (p.key ++ "/") w.active then w.active
      else lastOpen (w.openFiles.filter (!Text.startsWith (p.key ++ "/") ·)) := by
    cases h : Text.startsWith (p.key ++ "/") w.active <;> simp [closeUnder, h]
  rwa [hactive]

theorem arranged_openFile (hw : Arranged w.openFiles w.active) (name : String) :
    Arranged (w.openFile name).2.openFiles (w.openFile name).2.active := by
  unfold openFile
  split
  · exact hw
  · exact hw.bring _

theorem arranged_createFile (hw : Arranged w.openFiles w.active) (name content : String) :
    Arranged (w.createFile name content).2.openFiles (w.createFile name content).2.active := by
  cases hresult : (w.createFile name content).1 with
  | none => exact (createFile_refused hresult).2.arranged hw
  | some f =>
    rcases w.createFile_cases name content with ⟨hrefused, -⟩ | ⟨-, -, -, file, -, hdone⟩
    · rw [hresult] at hrefused
      cases hrefused
    -- The new file is recorded, which leaves the open files alone, and then comes to the front.
    · rw [hdone]
      exact ((w.sameOpen_record _).arranged hw).bring file.name

theorem arranged_createFileWithPath (hw : Arranged w.openFiles w.active) (name content : String) :
    Arranged (w.createFileWithPath name content).2.openFiles
      (w.createFileWithPath name content).2.active := by
  unfold createFileWithPath
  simp only
  split
  · exact hw
  · have hfolders := (w.sameOpen_createFolders (Path.parse name).ancestors).arranged hw
    split
    · rename_i w' heq
      have hw' : Arranged w'.openFiles w'.active := by rwa [heq] at hfolders
      exact arranged_createFile hw' _ content
    · rename_i w' heq
      rwa [heq] at hfolders

theorem arranged_deleteFile (hw : Arranged w.openFiles w.active) (name : String) :
    Arranged (w.deleteFile name).2.openFiles (w.deleteFile name).2.active := by
  rcases w.deleteFile_cases name with hsame | ⟨f, -, -, hdone⟩
  · rwa [hsame]
  · rw [hdone]
    exact arranged_closeFile ((w.sameOpen_record _).arranged hw) f.name

theorem arranged_deleteFolder (hw : Arranged w.openFiles w.active) (name : String) :
    Arranged (w.deleteFolder name).2.openFiles (w.deleteFolder name).2.active := by
  unfold deleteFolder
  simp only
  split
  · exact hw
  · split
    · -- All that is recorded leaves the open files alone; then those below the folder are closed.
      have hdropped : SameOpen w ((w.record (.dropFoldersUnder (Path.parse name))).record
          (.dropCreatedUnder (Path.parse name))) :=
        (sameOpen_record _ _).trans (sameOpen_record _ _)
      refine arranged_closeUnder (SameOpen.arranged (hdropped.trans ?_) hw) (Path.parse name)
      exact sameOpen_recordDeletes _ _
    · exact hw

/-- **Each operation keeps the open files arranged**: `bring` and `keep` cover what `perform` does
to them. -/
theorem arranged_perform (hw : Arranged w.openFiles w.active) (op : Operation) :
    Arranged (w.perform op).openFiles (w.perform op).active := by
  cases op with
  | read => exact hw
  | openFile name => exact arranged_openFile hw name
  | openGiven file => exact hw.bring file.name
  | closeFile name => exact arranged_closeFile hw name
  | closeAll => exact .none
  | closeOthers keep => exact .one keep
  | update name content => exact (sameOpen_record _ _).arranged hw
  | resetFile name =>
    exact (sameOpen_record w (.reset (Path.parse name))).arranged hw
  | createFile name content => exact arranged_createFile hw name content
  | createFileWithPath name content => exact arranged_createFileWithPath hw name content
  | createFolder name => exact (w.sameOpen_createFolder name).arranged hw
  | deleteFile name => exact arranged_deleteFile hw name
  | deleteFolder name => exact arranged_deleteFolder hw name

/-! ## 3. Runs -/

/-- **The open files stay arranged.** From any workspace whose `openFiles` and `active` are
`Arranged`, whatever its documents and journal are, every sequence of `perform` leaves them so. -/
theorem open_files_stay_arranged (hw : Arranged w.openFiles w.active)
    (operations : List Operation) :
    let w' := operations.foldl perform w
    Arranged w'.openFiles w'.active := by
  induction operations generalizing w with
  | nil => exact hw
  | cons op rest ih => exact ih (arranged_perform hw op)

/-- The file in front is deleted with its folder, and then the one that has followed it is
closed. -/
theorem open_files_stay_arranged_closing :
    let base : List Entry :=
      [.folder "a" [.file ⟨"b", "markdown", "x", false⟩] false, .file ⟨"c", "markdown", "y", false⟩]
    let w := start base ["c", "a/b"] "c"
    let operations : List Operation :=
      [.createFile "d" "z", .openFile "A/B", .deleteFolder "a", .closeFile "d"]
    let w' := operations.foldl perform w
    Arranged w.openFiles w.active ∧ Arranged w'.openFiles w'.active ∧
      w'.openFiles = ["c"] ∧ w'.active = "c" := by
  intro base w operations w'
  have hw : Arranged w.openFiles w.active := ⟨by decide, by decide, by decide⟩
  refine ⟨hw, open_files_stay_arranged hw operations, ?_, ?_⟩ <;> decide +kernel

end Workspace

end OverlayShell
