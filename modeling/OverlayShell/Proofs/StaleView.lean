import OverlayShell.Proofs.MergedView

/-!
# Stale views

A view is remembered under the version of the journal it was made for. Every write that changes a
journal gives it a new version, but for one: a created folder that is created again loses its
tombstone silently. A remembered view is therefore the view of the journal with the tombstones that
went silently put back.
-/

namespace OverlayShell

namespace Journal

/-! ## 1. Silent writes -/

def buried (j : Journal) (paths : List Path) : Journal := { j with deleted := j.deleted ++ paths }

/-- The tombstones that a write takes away without a new `version`. -/
def silentlyLifted (j : Journal) : Write → List Path
  | .addFolder path => if j.hasFolder path && j.isDeleted path then [path] else []
  | _ => []

theorem isDeleted_buried (j : Journal) (paths : List Path) (p : Path) :
    (j.buried paths).isDeleted p = (j.isDeleted p || paths.contains p) := by
  simp [buried, isDeleted]

theorem buried_nil (j : Journal) : j.buried [] = j := by
  simp [buried]

theorem addFolder_of_hasFolder {j : Journal} {path : Path} (h : j.hasFolder path = true) :
    j.addFolder path = { j with deleted := without path j.deleted } := by
  simp [addFolder, h]

theorem isDeleted_without (j : Journal) (path p : Path) :
    ({ j with deleted := without path j.deleted } : Journal).isDeleted p =
      (j.isDeleted p && p != path) := by
  rw [Bool.eq_iff_iff, isDeleted_iff, mem_without, Bool.and_eq_true, isDeleted_iff, bne_iff_ne]

theorem addFolder_of_new {j : Journal} {path : Path} (h : j.hasFolder path = false) :
    j.addFolder path =
      bump { j with deleted := without path j.deleted, folders := j.folders ++ [path] } := by
  simp [addFolder, h]

theorem isDeleted_addFolder (j : Journal) (path p : Path) :
    (j.addFolder path).isDeleted p = (j.isDeleted p && p != path) := by
  rw [← isDeleted_without]
  unfold addFolder
  split <;> rfl

theorem silentlyLifted_addFolder {j : Journal} {path : Path} (h : j.hasFolder path = true) :
    j.silentlyLifted (.addFolder path) = if j.isDeleted path then [path] else [] := by
  simp [silentlyLifted, h]

/-- `apply` gives a new version, unless the write creates a created folder again or takes back an
edit that was not made. -/
theorem version_apply (j : Journal) (write : Write) :
    (j.apply write).version = j.version + 1 ∨
      (∃ path, write = .addFolder path ∧ j.hasFolder path = true) ∨
      (∃ path, write = .reset path ∧ j.apply write = j) := by
  cases write with
  | create path file => exact .inl rfl
  | delete path => exact .inl rfl
  | addFolder path =>
    by_cases h : j.hasFolder path = true
    · exact .inr (.inl ⟨path, rfl, h⟩)
    · left
      simp [apply, addFolder, h, bump]
  | dropFoldersUnder path => exact .inl rfl
  | dropCreatedUnder path => exact .inl rfl
  | modify path content => exact .inl rfl
  | reset path =>
    by_cases h : j.isModified path = true
    · left
      simp [apply, reset, h, bump]
    · right; right
      exact ⟨path, rfl, by simp [apply, reset, h]⟩

/-- A write that leaves `version` as it is changes nothing but the tombstones it lifts silently, all
of them on created folders. -/
theorem apply_of_version_eq {j : Journal} {write : Write}
    (h : (j.apply write).version = j.version) :
    (j.apply write).created = j.created ∧ (j.apply write).folders = j.folders ∧
      (j.apply write).modified = j.modified ∧
      (∀ p, j.isDeleted p = ((j.apply write).isDeleted p || (j.silentlyLifted write).contains p)) ∧
      ∀ p ∈ j.silentlyLifted write, j.hasFolder p = true := by
  rcases version_apply j write with hv | ⟨path, rfl, hfolder⟩ | ⟨path, rfl, hsame⟩
  · omega
  -- A created folder again: only its tombstone goes, and that one is put back.
  · rw [apply, addFolder_of_hasFolder hfolder, silentlyLifted_addFolder hfolder]
    refine ⟨rfl, rfl, rfl, fun p => ?_, fun p hp => ?_⟩
    · rw [isDeleted_without]
      by_cases hpath : p = path
      · subst hpath
        cases j.isDeleted p <;> simp
      · cases j.isDeleted path <;> simp [hpath]
    · split at hp
      · rw [List.mem_singleton.1 hp]
        exact hfolder
      · simp at hp
  · rw [hsame]
    simp [silentlyLifted]

/-- With the `silentlyLifted` tombstones put back, a write that leaves `version` as it is leaves
every `isDeleted`. -/
theorem isDeleted_buried_apply {j : Journal} {write : Write}
    (h : (j.apply write).version = j.version) (paths : List Path) :
    ((j.apply write).buried (paths ++ j.silentlyLifted write)).isDeleted =
      (j.buried paths).isDeleted := by
  obtain ⟨-, -, -, hdeleted, -⟩ := apply_of_version_eq h
  funext p
  rw [isDeleted_buried, isDeleted_buried, hdeleted p, List.contains_append]
  cases (j.apply write).isDeleted p <;> cases paths.contains p <;> simp

theorem merge_buried_apply {j : Journal} {write : Write}
    (h : (j.apply write).version = j.version) (paths : List Path) (base : List Entry) :
    merge base ((j.apply write).buried (paths ++ j.silentlyLifted write)) =
      merge base (j.buried paths) := by
  obtain ⟨hcreated, hfolders, hmodified, -, -⟩ := apply_of_version_eq h
  exact merge_congr (isDeleted_buried_apply h paths) hmodified hcreated hfolders base

end Journal

/-! ## 2. The remembered view -/

namespace ViewCache

variable {cache : ViewCache} {base : List Entry} {j j' : Journal}

theorem read_of_current (h : cache.isCurrent j = true) : cache.read base j = cache := by
  unfold read
  rw [if_pos h]

theorem read_of_not_current (h : cache.isCurrent j = false) :
    cache.read base j = ⟨some j.version, merge base j⟩ := by
  unfold read
  rw [if_neg (by rw [h]; simp)]

theorem isCurrent_read (cache : ViewCache) (base : List Entry) (j : Journal) :
    (cache.read base j).isCurrent j = true := by
  cases h : cache.isCurrent j with
  | true => rw [read_of_current h, h]
  | false =>
    rw [read_of_not_current h]
    exact decide_eq_true rfl

theorem isCurrent_congr (h : j'.version = j.version) : cache.isCurrent j' = cache.isCurrent j := by
  unfold isCurrent
  rw [h]

/-- The remembered view was made for no later version than that of `j`. -/
def NotAhead (cache : ViewCache) (j : Journal) : Prop :=
  ∀ v, cache.version = some v → v ≤ j.version

theorem NotAhead.empty (j : Journal) : empty.NotAhead j := by
  intro v hv
  simp [ViewCache.empty] at hv

theorem NotAhead.mono (h : cache.NotAhead j) (hle : j.version ≤ j'.version) : cache.NotAhead j' :=
  fun v hv => Nat.le_trans (h v hv) hle

theorem NotAhead.isCurrent_eq_false (h : cache.NotAhead j) (hlt : j.version < j'.version) :
    cache.isCurrent j' = false := by
  unfold isCurrent
  rw [decide_eq_false_iff_not]
  intro hv
  have hle : j'.version ≤ j.version := h _ hv
  omega

theorem NotAhead.read (h : cache.NotAhead j) : (cache.read base j).NotAhead j := by
  cases hcur : cache.isCurrent j with
  | true => rwa [read_of_current hcur]
  | false =>
    rw [read_of_not_current hcur]
    intro v hv
    exact Nat.le_of_eq (Option.some.inj hv).symm

end ViewCache

/-! ## 3. Writing and reading in turn -/

inductive Access where
  | write (write : Journal.Write)
  | read

/-- A journal in use, with the view remembered of it. -/
structure Watched where
  journal : Journal
  cache : ViewCache
  /-- The tombstones that have gone silently since the remembered view was made. -/
  lifted : List Path

namespace Watched

def start : Watched := ⟨.empty, .empty, []⟩

def shown (base : List Entry) (w : Watched) : View := (w.cache.read base w.journal).view

def step (base : List Entry) (w : Watched) : Access → Watched
  | .write write =>
    { w with
      journal := w.journal.apply write
      lifted :=
        if w.cache.isCurrent (w.journal.apply write) then
          w.lifted ++ w.journal.silentlyLifted write
        else [] }
  | .read => { w with cache := w.cache.read base w.journal }

def run (base : List Entry) (accesses : List Access) : Watched := accesses.foldl (step base) start

/-- A remembered view that `isCurrent` is the merge with the tombstones of `lifted` put back. -/
structure Kept (base : List Entry) (w : Watched) : Prop where
  version : w.cache.NotAhead w.journal
  current : w.cache.isCurrent w.journal = true →
    w.cache.view = merge base (w.journal.buried w.lifted)
  outdated : w.cache.isCurrent w.journal = false → w.lifted = []
  known : ∀ p ∈ w.lifted, w.journal.hasFolder p = true

variable {base : List Entry} {w : Watched}

theorem Kept.start (base : List Entry) : start.Kept base where
  version := .empty _
  current := by simp [Watched.start, ViewCache.empty, ViewCache.isCurrent]
  outdated := fun _ => rfl
  known := by simp [Watched.start]

theorem Kept.read (h : w.Kept base) : (w.step base .read).Kept base := by
  by_cases hcur : w.cache.isCurrent w.journal = true
  · have hsame : w.step base .read = w := by
      rw [step, ViewCache.read_of_current hcur]
    rwa [hsame]
  · -- A view made anew is that of the journal as it is, with nothing to put back.
    rw [Bool.not_eq_true] at hcur
    have hlifted : w.lifted = [] := h.outdated hcur
    refine ⟨h.version.read, fun _ => ?_, fun _ => hlifted, h.known⟩
    show (w.cache.read base w.journal).view = merge base (w.journal.buried w.lifted)
    rw [ViewCache.read_of_not_current hcur, hlifted, Journal.buried_nil]

theorem Kept.write (h : w.Kept base) (write : Journal.Write) :
    (w.step base (.write write)).Kept base := by
  -- Only a write that keeps the version can leave the remembered view current.
  by_cases hver : (w.journal.apply write).version = w.journal.version
  · obtain ⟨-, hfolders, -, -, hknown⟩ := Journal.apply_of_version_eq hver
    -- The view stays current or outdated as it was, and the lifted tombstones are put back.
    have hiff : w.cache.isCurrent (w.journal.apply write) = w.cache.isCurrent w.journal :=
      ViewCache.isCurrent_congr hver
    have hfolder : ∀ p, (w.journal.apply write).hasFolder p = w.journal.hasFolder p := fun p => by
      simp [Journal.hasFolder, hfolders]
    refine ⟨h.version.mono (Nat.le_of_eq hver.symm), ?_, ?_, ?_⟩
    · intro hcur
      have hcur' : w.cache.isCurrent (w.journal.apply write) = true := hcur
      have hlifted : (w.step base (.write write)).lifted =
          w.lifted ++ w.journal.silentlyLifted write := if_pos hcur'
      show w.cache.view = merge base ((w.journal.apply write).buried _)
      rw [hlifted, h.current (hiff ▸ hcur'), Journal.merge_buried_apply hver]
    · intro hcur
      have hcur' : w.cache.isCurrent (w.journal.apply write) = false := hcur
      simp [step, hcur']
    · intro p hp
      show (w.journal.apply write).hasFolder p = true
      rw [hfolder]
      simp only [step] at hp
      split at hp
      · rcases List.mem_append.1 hp with hp | hp
        · exact h.known p hp
        · exact hknown p hp
      · simp at hp
  · have hnext : (w.journal.apply write).version = w.journal.version + 1 := by
      rcases Journal.version_apply w.journal write with
        hv | ⟨path, rfl, hfolder⟩ | ⟨path, rfl, hsame⟩
      · exact hv
      · rw [Journal.apply, Journal.addFolder_of_hasFolder hfolder] at hver
        exact absurd rfl hver
      · rw [hsame] at hver
        exact absurd rfl hver
    -- With a new version the remembered view is given up, and nothing has to be put back.
    have hlt : w.journal.version < (w.journal.apply write).version := by omega
    have hcur : w.cache.isCurrent (w.journal.apply write) = false :=
      h.version.isCurrent_eq_false hlt
    have hlifted : (w.step base (.write write)).lifted = [] := by simp [step, hcur]
    refine ⟨h.version.mono (Nat.le_of_lt hlt), ?_, fun _ => hlifted, by simp [hlifted]⟩
    intro hcur'
    have hcur'' : w.cache.isCurrent (w.journal.apply write) = true := hcur'
    rw [hcur] at hcur''
    exact absurd hcur'' (by simp)

theorem kept_run (base : List Entry) (accesses : List Access) : (run base accesses).Kept base := by
  -- The induction is on the accesses, over every state that keeps the invariant.
  suffices h : ∀ w : Watched, w.Kept base → (accesses.foldl (step base) w).Kept base from
    h start (.start base)
  induction accesses with
  | nil => exact fun w hw => hw
  | cons access rest ih =>
    intro w hw
    cases access with
    | write write => exact ih _ (hw.write write)
    | read => exact ih _ hw.read

/-- What a read gives, current or not. A read that merges anew leaves nothing `lifted`. -/
theorem Kept.shown_eq (h : w.Kept base) :
    w.shown base = merge base (w.journal.buried w.lifted) := by
  unfold shown
  cases hcur : w.cache.isCurrent w.journal with
  | true => rw [ViewCache.read_of_current hcur, h.current hcur]
  | false => rw [ViewCache.read_of_not_current hcur, h.outdated hcur, Journal.buried_nil]

/-- **When a read is right.** After any `accesses`, `shown` is the merge of the journal with
`lifted` put back, all of them tombstones on created folders. So it is the merge of the journal as
it is iff these make no difference to it. -/
theorem shown_eq_merge_iff (base : List Entry) (accesses : List Access) :
    let w := run base accesses
    (∀ p ∈ w.lifted, w.journal.hasFolder p = true) ∧
      w.shown base = merge base (w.journal.buried w.lifted) ∧
      (w.shown base = merge base w.journal ↔
        merge base (w.journal.buried w.lifted) = merge base w.journal) := by
  intro w
  have hkept : w.Kept base := kept_run base accesses
  refine ⟨hkept.known, hkept.shown_eq, ?_⟩
  rw [hkept.shown_eq]

/-- A created folder that is deleted, missed in a read and created again is still missed in the
next. -/
theorem shown_ne_merge_of_folder_again :
    let w := run [] [.write (.addFolder ⟨["a"]⟩), .write (.delete ⟨["a"]⟩), .read,
      .write (.addFolder ⟨["a"]⟩)]
    w.shown [] ≠ merge [] w.journal := by
  intro w h
  -- The tree of the one view has the folder and that of the other has not.
  have hfolder := congrArg (fun view : View => isFolderAt view.tree ⟨["a"]⟩) h
  exact absurd hfolder (by decide +kernel)

end Watched

end OverlayShell
