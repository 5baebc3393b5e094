import OverlayShell.Proofs.Deletion

/-!
# Operations as writes

Whatever an operation decides by the look of the view, what it does to the journal is a list of
writes. They create nothing but what the operation names, and only a deletion takes anything away.
What every such write keeps, the operation keeps.
-/

namespace OverlayShell

namespace Journal

/-- The path at which the write creates something. -/
def Write.creates? : Write → Option Path
  | .create path _ | .addFolder path => some path
  | .delete _ | .dropFoldersUnder _ | .dropCreatedUnder _ | .modify _ _ | .reset _ => none

def Write.destroys : Write → Bool
  | .delete _ | .dropFoldersUnder _ | .dropCreatedUnder _ => true
  | .create _ _ | .addFolder _ | .modify _ _ | .reset _ => false

end Journal

namespace Workspace

/-- The paths at which the operation may create something. -/
def Operation.creates : Operation → List Path
  | .createFile name _ | .createFolder name => [Path.parse name]
  | .createFileWithPath name _ =>
    -- The folders above come first; each of these paths is read back from its key.
    ((Path.parse name).ancestors ++ [Path.parse name]).map fun p => Path.parse p.key
  | _ => []

def Operation.deletes : Operation → Bool
  | .deleteFile _ | .deleteFolder _ => true
  | _ => false

/-- From `w` to `w'` the journal changes by writes that create nothing but at the paths in
`creates`, and only if `deletes` take anything away. -/
def Writes (creates : List Path) (deletes : Bool) (w w' : Workspace) : Prop :=
  ∃ writes : List Journal.Write, w'.journal = writes.foldl Journal.apply w.journal ∧
    ∀ write ∈ writes, (∀ p ∈ write.creates?, p ∈ creates) ∧
      (write.destroys = true → deletes = true)

variable {w w' w'' : Workspace} {creates creates' : List Path} {deletes : Bool}

theorem Writes.none (h : w'.journal = w.journal) : Writes creates deletes w w' :=
  ⟨[], h, by simp⟩

theorem Writes.one (write : Journal.Write) (h : w'.journal = w.journal.apply write)
    (hcreates : ∀ p ∈ write.creates?, p ∈ creates)
    (hdestroys : write.destroys = true → deletes = true) : Writes creates deletes w w' := by
  refine ⟨[write], h, fun write' hmem => ?_⟩
  rw [List.mem_singleton.1 hmem]
  exact ⟨hcreates, hdestroys⟩

theorem Writes.trans (h : Writes creates deletes w w') (h' : Writes creates deletes w' w'') :
    Writes creates deletes w w'' := by
  obtain ⟨writes, hjournal, hall⟩ := h
  obtain ⟨writes', hjournal', hall'⟩ := h'
  refine ⟨writes ++ writes', by rw [List.foldl_append, ← hjournal, hjournal'], fun write hmem => ?_⟩
  rcases List.mem_append.1 hmem with hmem | hmem
  · exact hall write hmem
  · exact hall' write hmem

theorem Writes.mono (h : Writes creates deletes w w') (hsub : ∀ p ∈ creates, p ∈ creates') :
    Writes creates' deletes w w' := by
  obtain ⟨writes, hjournal, hall⟩ := h
  exact ⟨writes, hjournal, fun write hmem =>
    ⟨fun p hp => hsub p ((hall write hmem).1 p hp), (hall write hmem).2⟩⟩

theorem Writes.keeps {P : Journal → Prop} (h : Writes creates deletes w w')
    (hstep : ∀ j write, (∀ p ∈ write.creates?, p ∈ creates) →
      (write.destroys = true → deletes = true) → P j → P (j.apply write))
    (hw : P w.journal) : P w'.journal := by
  obtain ⟨writes, hjournal, hall⟩ := h
  rw [hjournal]
  clear hjournal
  generalize w.journal = j at hw
  induction writes generalizing j with
  | nil => exact hw
  | cons write rest ih =>
    have hfirst := hall write (by simp)
    exact ih (fun write' hmem => hall write' (by simp [hmem])) _
      (hstep j write hfirst.1 hfirst.2 hw)

theorem writes_createFile (w : Workspace) (name content : String) :
    Writes [Path.parse name] false w (w.createFile name content).2 := by
  rcases w.createFile_cases name content with
    ⟨-, hsame | ⟨level, text, hsame⟩⟩ | ⟨-, -, -, file, -, hdone⟩
  · exact .none (by rw [hsame])
  · exact .none (by rw [hsame]; rfl)
  · refine .one (.create (Path.parse name) file) ?_ (by simp [Journal.Write.creates?]) ?_
    · rw [hdone]
      exact record_journal w _
    · simp [Journal.Write.destroys]

theorem writes_createFolder (w : Workspace) (name : String) :
    Writes [Path.parse name] false w (w.createFolder name).2 := by
  rcases w.createFolder_cases name with ⟨-, hsame | ⟨level, text, hsame⟩⟩ | ⟨-, -, hdone⟩
  · exact .none (by rw [hsame])
  · exact .none (by rw [hsame]; rfl)
  · refine .one (.addFolder (Path.parse name)) ?_ (by simp [Journal.Write.creates?]) ?_
    · rw [hdone]
      exact record_journal w.refresh _
    · simp [Journal.Write.destroys]

theorem writes_createFolders (w : Workspace) (folders : List Path) :
    Writes (folders.map fun p => Path.parse p.key) false w (w.createFolders folders).2 := by
  induction folders generalizing w with
  | nil => exact .none rfl
  | cons folder rest ih =>
    have hfirst : Writes ((folder :: rest).map fun p => Path.parse p.key) false w
        (w.createFolder folder.key).2 := (w.writes_createFolder folder.key).mono (by simp)
    rw [createFolders]
    -- The others follow only if this one was made.
    split
    · rename_i w' heq
      rw [heq] at hfirst
      exact hfirst.trans ((ih w').mono (by simp +contextual))
    · rename_i heq
      rwa [heq] at hfirst

theorem writes_createFileWithPath (w : Workspace) (name content : String) :
    Writes (Operation.createFileWithPath name content).creates false w
      (w.createFileWithPath name content).2 := by
  unfold createFileWithPath
  simp only
  split
  · exact .none rfl
  · have hfolders : Writes (Operation.createFileWithPath name content).creates false w
        (w.createFolders (Path.parse name).ancestors).2 := by
      refine (w.writes_createFolders (Path.parse name).ancestors).mono fun p hp => ?_
      rw [Operation.creates, List.map_append]
      exact List.mem_append_left _ hp
    split
    · rename_i w' heq
      rw [heq] at hfolders
      refine hfolders.trans ((w'.writes_createFile _ content).mono ?_)
      simp [Operation.creates]
    · rename_i heq
      rwa [heq] at hfolders

theorem writes_deletes (w : Workspace) (paths : List Path) :
    Writes creates true w (paths.foldl (fun w p => w.record (.delete p)) w) := by
  induction paths generalizing w with
  | nil => exact .none rfl
  | cons p rest ih =>
    have hfirst : Writes creates true w (w.record (.delete p)) :=
      .one (.delete p) (record_journal w _) (by simp [Journal.Write.creates?]) fun _ => rfl
    exact hfirst.trans (ih _)

theorem writes_deleteFolder (w : Workspace) (name : String) :
    Writes [] true w (w.deleteFolder name).2 := by
  unfold deleteFolder
  simp only
  split
  · exact .none rfl
  · split
    · have hfolders : Writes [] true w (w.record (.dropFoldersUnder (Path.parse name))) :=
        .one _ (record_journal w _) (by simp [Journal.Write.creates?]) fun _ => rfl
      have hfiles := hfolders.trans (.one (.dropCreatedUnder (Path.parse name))
        (record_journal _ _) (by simp [Journal.Write.creates?]) fun _ => rfl)
      -- Closing the files below the folder leaves the journal alone.
      exact hfiles.trans (writes_deletes _ _)
    · exact .none rfl

/-- **Each operation is a list of writes**: `creates` and `deletes` tell which ones `perform` may
record. -/
theorem writes_of_perform (w : Workspace) (op : Operation) :
    Writes op.creates op.deletes w (w.perform op) := by
  cases op with
  | read => exact .none rfl
  | openFile name =>
    show Writes _ _ w (w.openFile name).2
    unfold openFile
    split <;> exact .none rfl
  | openGiven file => exact .none rfl
  | closeFile name => exact .none rfl
  | closeAll => exact .none rfl
  | closeOthers keep => exact .none rfl
  | update name content =>
    exact .one (.modify (Path.parse name) content) (record_journal w _)
      (by simp [Journal.Write.creates?]) (by simp [Journal.Write.destroys])
  | resetFile name =>
    exact .one (.reset (Path.parse name)) (record_journal w _)
      (by simp [Journal.Write.creates?]) (by simp [Journal.Write.destroys])
  | createFile name content => exact w.writes_createFile name content
  | createFileWithPath name content => exact w.writes_createFileWithPath name content
  | createFolder name => exact w.writes_createFolder name
  | deleteFile name =>
    show Writes _ _ w (w.deleteFile name).2
    rcases w.deleteFile_cases name with hsame | ⟨f, -, -, hdone⟩
    · exact .none (by rw [hsame])
    · refine .one (.delete (Path.parse f.name)) ?_ (by simp [Journal.Write.creates?]) fun _ => rfl
      rw [hdone]
      exact record_journal w _
  | deleteFolder name => exact w.writes_deleteFolder name

end Workspace

end OverlayShell
