import OverlayShell.Proofs.MergedView

/-!
# Uncovering

A tombstone that is taken away uncovers what the base has there. An earlier journal is compared with
a later one that has the same created files and edits, fewer tombstones and more folders. What is
uncovered may fit the earlier view, with files only where files were seen and no folder where a file
was seen. Then the flat list stays as it was; otherwise it cannot.
-/

namespace OverlayShell

open Entry

/-! ## 1. What fits a view -/

/-- What is `kept` of the base fits what was `shown`: its files stand where files were shown, and
its folders where none was. -/
def Entry.Fits (kept shown : List Entry) : Prop :=
  ∀ way, (HasFile way kept → HasFile way shown) ∧ (HasFolder way kept → ¬ HasFile way shown)

/-! ## 2. Placing keeps files and folders -/

namespace Placement

variable {j : Journal} {P : Placement} {entries : List (Path × File)} {way : List String}

/-- What `withFile` keeps of a tree, a run of `place` keeps. -/
theorem run_keeps {Q : List Entry → Prop}
    (hstep : ∀ tree (p : Path) f, p ∈ entries.map Prod.fst → p.segments ≠ [] → Q tree →
      Q (withFile tree p f).1)
    (hproper : ∀ p ∈ entries.map Prod.fst, p.Proper) (h : Q P.tree) :
    Q (entries.foldl (Placement.place j) P).tree := by
  induction entries generalizing P with
  | nil => exact h
  | cons entry rest ih =>
    obtain ⟨path, file⟩ := entry
    refine ih (fun tree p f hp => hstep tree p f (by simp [hp]))
      (fun p hp => hproper p (by simp [hp])) ?_
    by_cases hdel : j.isDeleted path = true
    · rwa [place_of_isDeleted hdel]
    · rw [place_tree P file (by simpa using hdel)]
      exact hstep P.tree path _ (by simp) (hproper path (by simp)).1 h

theorem hasFile_run (hproper : ∀ p ∈ entries.map Prod.fst, p.Proper) (h : HasFile way P.tree) :
    HasFile way (entries.foldl (Placement.place j) P).tree :=
  run_keeps (fun _ _ f _ hp hfile => (hasFile_withFile hp f).2 (.inl hfile)) hproper h

theorem hasFolder_run (hproper : ∀ p ∈ entries.map Prod.fst, p.Proper) (h : HasFolder way P.tree) :
    HasFolder way (entries.foldl (Placement.place j) P).tree :=
  run_keeps (fun _ _ f _ hp hfolder => (hasFolder_withFile hp f).2 (.inl hfolder)) hproper h

end Placement

/-! ## 3. Two trees under construction -/

namespace Entry

/-- Two trees into which the same files were placed, the `first` under an earlier and the `second`
under a later journal. The second has what the first has, and what it has besides agrees with what
was `shown`. -/
structure Alike (shown first second : List Entry) : Prop where
  file_up : ∀ way, HasFile way first → HasFile way second
  file_seen : ∀ way, HasFile way second → HasFile way shown
  folder_up : ∀ way, HasFolder way first → HasFolder way second
  folder_seen : ∀ way, HasFolder way second → ¬ HasFile way shown

variable {shown first second : List Entry} {way : List String}

section Step

variable (h : Alike shown first second) {p : Path} (hp : p.segments ≠ []) (f : File)
  (hfile : ∀ way, HasFile way (withFile first p f).1 → HasFile way shown)

include h hp hfile

/-- `withFile` finds room in both of two trees that are `Alike`, or in neither. -/
theorem Alike.snd_withFile_eq : (withFile second p f).2 = (withFile first p f).2 := by
  cases hdone : (withFile first p f).2 with
  | true =>
    -- The file is seen in its place, so the second tree has no file above it and no folder there.
    have hseen := hfile p.segments ((hasFile_withFile hp f).2 (.inr ⟨rfl, hdone⟩))
    rw [snd_withFile_iff hp, isObstructed_eq_false_iff]
    refine ⟨fun b hb hf => ?_, fun hfolder => h.folder_seen _ hfolder hseen⟩
    obtain ⟨hbp, hne⟩ := (Path.prefix_dropLast_iff hp).1 hb
    obtain ⟨g, hg⟩ := hseen
    exact hne ((h.file_seen b hf).eq_of_start hbp hg)
  | false =>
    rw [← Bool.not_eq_true, snd_withFile_iff hp] at hdone ⊢
    -- What keeps it from its place in the first tree is in the second tree as well.
    rintro ⟨hfree, hfolder⟩
    exact hdone ⟨free_of_free h.file_up hfree, fun hold => hfolder (h.folder_up _ hold)⟩

variable (hfolder : ∀ way, HasFolder way (withFile first p f).1 → HasFolder way shown)

include hfolder

theorem Alike.withFile : Alike shown (withFile first p f).1 (withFile second p f).1 := by
  have hsame := h.snd_withFile_eq hp f hfile
  -- In turn: files of the first tree and of the second, folders of the first and of the second.
  refine ⟨fun q hq => ?_, fun q hq => ?_, fun q hq => ?_, fun q hq => ?_⟩
  · rw [hasFile_withFile hp] at hq ⊢
    rw [hsame]
    exact hq.imp_left (h.file_up q)
  · rw [hasFile_withFile hp, hsame] at hq
    rcases hq with hq | hplace
    · exact h.file_seen q hq
    · exact hfile q ((hasFile_withFile hp f).2 (.inr hplace))
  · have hseen := hfolder q hq
    rw [hasFolder_withFile hp] at hq ⊢
    rcases hq with hq | ⟨hne, habove, -⟩
    · exact .inl (h.folder_up q hq)
    · exact .inr ⟨hne, habove, hseen.free h.file_seen⟩
  · rw [hasFolder_withFile hp] at hq
    rcases hq with hq | ⟨hne, habove, hfree⟩
    · exact h.folder_seen q hq
    · intro hshown
      refine hshown.not_folder (hfolder q ((hasFolder_withFile hp f).2 (.inr ?_)))
      exact ⟨hne, habove, free_of_free h.file_up hfree⟩

end Step

end Entry

/-- `place` takes the same files under both journals, and leaves the trees `Alike`. -/
theorem Placement.run_alike {made now : Journal} (hedited : now.edited = made.edited)
    {entries : List (Path × File)} (hproper : ∀ p ∈ entries.map Prod.fst, p.Proper)
    (hmade : ∀ p ∈ entries.map Prod.fst, made.isDeleted p = false)
    (hnow : ∀ p ∈ entries.map Prod.fst, now.isDeleted p = false) (P P' : Placement)
    (halike : Alike (entries.foldl (place made) P).tree P.tree P'.tree)
    (hplaced : P'.placed = P.placed) :
    Alike (entries.foldl (place made) P).tree (entries.foldl (place made) P).tree
        (entries.foldl (place now) P').tree ∧
      (entries.foldl (place now) P').placed = (entries.foldl (place made) P).placed := by
  induction entries generalizing P P' with
  | nil => exact ⟨halike, hplaced⟩
  | cons entry rest ih =>
    obtain ⟨path, file⟩ := entry
    have hpath := (hproper path (by simp)).1
    have hrest : ∀ p ∈ rest.map Prod.fst, p.Proper := fun p hp => hproper p (by simp [hp])
    have htree := place_tree P file (hmade path (by simp))
    have htree' := place_tree P' file (hnow path (by simp))
    rw [hedited] at htree'
    -- What stands after this step is seen in the end.
    have hfile : ∀ way, HasFile way (withFile P.tree path (made.edited path file)).1 →
        HasFile way (rest.foldl (place made) (P.place made (path, file))).tree := by
      rw [← htree]
      exact fun way => hasFile_run hrest
    have hfolder : ∀ way, HasFolder way (withFile P.tree path (made.edited path file)).1 →
        HasFolder way (rest.foldl (place made) (P.place made (path, file))).tree := by
      rw [← htree]
      exact fun way => hasFolder_run hrest
    have hmadeRest : ∀ p ∈ rest.map Prod.fst, made.isDeleted p = false := fun p hp =>
      hmade p (by simp [hp])
    have hnowRest : ∀ p ∈ rest.map Prod.fst, now.isDeleted p = false := fun p hp =>
      hnow p (by simp [hp])
    refine ih hrest hmadeRest hnowRest _ _ ?_ ?_
    · rw [htree, htree']
      exact halike.withFile hpath _ hfile hfolder
    · rw [place_placed P file (hmade path (by simp)), place_placed P' file (hnow path (by simp)),
        hedited, halike.snd_withFile_eq hpath _ hfile, hplaced]

/-! ## 4. Fewer tombstones -/

namespace Journal

/-- `now` shows the created files of `made` with the same edits, has no tombstone that `made` does
not have, and has all its folders. -/
structure Uncovers (made now : Journal) : Prop where
  created : now.created = made.created
  modified : now.modified = made.modified
  deleted : ∀ p, now.isDeleted p = true → made.isDeleted p = true
  folders : ∀ p ∈ made.folders, p ∈ now.folders

theorem Uncovers.isDeleted_eq_false {made now : Journal} (h : Uncovers made now) {p : Path}
    (hp : made.isDeleted p = false) : now.isDeleted p = false := by
  rw [Bool.eq_false_iff] at hp ⊢
  exact fun hdel => hp (h.deleted p hdel)

theorem Uncovers.hides {made now : Journal} (h : Uncovers made now) {p : Path}
    (hhides : now.hides p = true) : made.hides p = true := by
  obtain ⟨b, hne, hb, hdel⟩ := hides_iff.1 hhides
  exact hides_iff.2 ⟨b, hne, hb, h.deleted _ hdel⟩

theorem Uncovers.hides_eq_false {made now : Journal} (h : Uncovers made now) {p : Path}
    (hhides : made.hides p = false) : now.hides p = false := by
  rw [Bool.eq_false_iff] at hhides ⊢
  exact fun hnow => hhides (h.hides hnow)

theorem Uncovers.hasFile_kept {made now : Journal} (h : Uncovers made now) {base : List Entry}
    {way : List String} (hfile : HasFile way (survivors made .root base)) :
    HasFile way (survivors now .root base) := by
  rw [hasFile_survivors] at hfile ⊢
  exact hfile.imp_left h.hides_eq_false

theorem Uncovers.hasFolder_kept {made now : Journal} (h : Uncovers made now) {base : List Entry}
    {way : List String} (hfolder : HasFolder way (survivors made .root base)) :
    HasFolder way (survivors now .root base) := by
  rw [hasFolder_survivors] at hfolder ⊢
  exact hfolder.imp_left h.hides_eq_false

end Journal

/-! ## 5. What is kept is seen -/

section Merge

variable {base : List Entry} {j : Journal} (hj : j.Sound) {way : List String}

include hj

theorem hasFile_merge_of_kept (h : HasFile way (survivors j .root base)) :
    HasFile way (merge base j).tree :=
  Placement.hasFile_run hj.created ((hasFile_withFolders j _).2 h)

theorem hasFolder_merge_of_withFolders
    (h : HasFolder way (withFolders j j.foldersByDepth (survivors j .root base))) :
    HasFolder way (merge base j).tree :=
  Placement.hasFolder_run hj.created h

theorem hasFolder_merge_of_kept (h : HasFolder way (survivors j .root base)) :
    HasFolder way (merge base j).tree :=
  hasFolder_merge_of_withFolders hj ((hasFolder_withFolders j _).2 (.inl h))

/-- `(merge base j).files` tells where the files of its tree stand. -/
theorem hasFile_merge_iff (hbase : Tidy base) :
    HasFile way (merge base j).tree ↔
      Path.Proper ⟨way⟩ ∧ ∃ g ∈ (merge base j).files, g.name = Path.key ⟨way⟩ := by
  constructor
  · rintro ⟨f, hf⟩
    have hproper : Path.Proper ⟨way⟩ := by
      obtain ⟨entry, hfind, -⟩ := Option.map_eq_some_iff.1 hf
      refine ⟨?_, (tidy_merge hbase hj).normal_of_find? hfind⟩
      rintro rfl
      simp at hf
    exact ⟨hproper, (isFileAt_merge_iff hbase hj hproper).1 (isFileAt_iff.2 ⟨f, hf⟩)⟩
  · rintro ⟨hproper, hlisted⟩
    exact isFileAt_iff.1 ((isFileAt_merge_iff hbase hj hproper).2 hlisted)

end Merge

/-! ## 6. The later view against the earlier one -/

section Views

variable {base : List Entry} {made now : Journal}

/-- If the flat list stays, what `survivors` keeps `now` fits the tree of `made`. -/
theorem fits_of_files_eq (hbase : Tidy base) (hmade : made.Sound) (hnow : now.Sound)
    (hfiles : (merge base now).files = (merge base made).files) :
    Fits (survivors now .root base) (merge base made).tree := by
  -- The flat list tells where files stand, so both trees have them in the same places.
  have hsame : ∀ way, HasFile way (merge base made).tree ↔ HasFile way (merge base now).tree := by
    intro way
    rw [hasFile_merge_iff hmade hbase, hasFile_merge_iff hnow hbase, hfiles]
  intro way
  rw [hsame]
  exact ⟨hasFile_merge_of_kept hnow, fun hfolder hfile =>
    hfile.not_folder (hasFolder_merge_of_kept hnow hfolder)⟩

variable (hbase : Tidy base) (hmade : made.Sound) (h : made.Uncovers now)
  (hfits : Fits (survivors now .root base) (merge base made).tree)
  (hextra : ∀ p ∈ now.folders, now.isDeleted p = false →
    p ∈ made.folders ∧ made.isDeleted p = false ∨
      isObstructed p.segments (merge base made).tree = false)

include hmade h hfits hextra

/-- Before any created file is placed, the two trees are `Alike`. -/
theorem alike_withFolders :
    Alike (merge base made).tree
      (withFolders made made.foldersByDepth (survivors made .root base))
      (withFolders now now.foldersByDepth (survivors now .root base)) := by
  refine ⟨fun way hfile => ?_, fun way hfile => ?_, fun way hfolder => ?_, fun way hfolder => ?_⟩
  · rw [hasFile_withFolders] at hfile ⊢
    exact h.hasFile_kept hfile
  · rw [hasFile_withFolders] at hfile
    exact (hfits way).1 hfile
  · have hseen := hasFolder_merge_of_withFolders hmade hfolder
    rw [hasFolder_withFolders] at hfolder ⊢
    -- A folder on the way to a created one is opened again, as no file that is kept obstructs it.
    rcases hfolder with hfolder | ⟨hne, -, p, hp, hdel, hway⟩
    · exact .inl (h.hasFolder_kept hfolder)
    · have hfree := hseen.free fun b => (hfits b).1
      rw [mem_foldersByDepth] at hp
      have hlater := mem_foldersByDepth.2 (h.folders p hp)
      exact .inr ⟨hne, hfree, p, hlater, h.isDeleted_eq_false hdel, hway⟩
  · rw [hasFolder_withFolders] at hfolder
    rcases hfolder with hfolder | ⟨hne, hfree, p, hp, hdel, hway⟩
    · exact (hfits way).2 hfolder
    · rw [mem_foldersByDepth] at hp
      -- The folder opened by a created one was opened before, or leads to one that was free.
      rcases hextra p hp hdel with ⟨hold, hdel'⟩ | hfreep
      · intro hfile
        refine hfile.not_folder (hasFolder_merge_of_withFolders hmade ?_)
        rw [hasFolder_withFolders]
        have hfree' := free_of_free (fun b => h.hasFile_kept) hfree
        exact .inr ⟨hne, hfree', p, mem_foldersByDepth.2 hold, hdel', hway⟩
      · exact isObstructed_eq_false_iff.1 hfreep way hway

/-- The same created files are `placed` in both merges, and their trees are `Alike`. -/
theorem alike_merge :
    Alike (merge base made).tree (merge base made).tree (merge base now).tree ∧
      (placement now.foldersByDepth base now).placed =
        (placement made.foldersByDepth base made).placed := by
  have hedited : now.edited = made.edited := Journal.edited_congr h.modified
  have hlive : ∀ p ∈ made.created.entries.map Prod.fst, made.isDeleted p = false := fun p hp => by
    rw [Bool.eq_false_iff, Ne, Journal.isDeleted_iff]
    exact hmade.apart p hp
  have hlive' : ∀ p ∈ made.created.entries.map Prod.fst, now.isDeleted p = false := fun p hp =>
    h.isDeleted_eq_false (hlive p hp)
  have hstart := alike_withFolders hmade h hfits hextra
  have hrun := Placement.run_alike hedited hmade.created hlive hlive'
    ⟨withFolders made made.foldersByDepth (survivors made .root base), []⟩
    ⟨withFolders now now.foldersByDepth (survivors now .root base), []⟩ hstart rfl
  unfold merge
  rw [mergeInOrder_tree, mergeInOrder_tree]
  unfold placement
  rw [h.created]
  exact hrun

include hbase

/-- **What fits changes no file.** If what `survivors` keeps `now` `Fits` the tree of `made`, the
flat list stays as it is, in its order. -/
theorem files_eq_of_fits : (merge base now).files = (merge base made).files := by
  obtain ⟨-, hplaced⟩ := alike_merge hmade h hfits hextra
  have hpaths : (placement now.foldersByDepth base now).paths =
      (placement made.foldersByDepth base made).paths := by
    rw [Placement.paths, hplaced, Placement.paths]
  have hmerge := consistent_merge hbase hmade
  -- A file that comes up has been seen, so one was created in its place.
  have hhides : ∀ entry ∈ keyedFiles base,
      entry.1 ∉ (placement made.foldersByDepth base made).paths →
      now.hides entry.1 = made.hides entry.1 := by
    rintro ⟨p, g⟩ hentry hnot
    obtain ⟨f, hf, -⟩ := (mem_keyedFiles_iff hbase.distinct).1 hentry
    cases hnowhides : now.hides p with
    | true => exact (h.hides hnowhides).symm
    | false =>
      obtain ⟨f', hf'⟩ := (hfits p.segments).1 ((hasFile_survivors now base).2 ⟨hnowhides, f, hf⟩)
      rcases (hmerge.files p f').1 hf' with ⟨g', hg', -⟩ | ⟨-, hkept⟩
      · exact absurd (List.mem_map.2 ⟨(p, g'), hg', rfl⟩) hnot
      · exact ((hasFile_survivors made base).1 ⟨f', hkept⟩).1.symm
  have hbaseFiles : (keyedFiles (survivors now .root base)).filter (fun entry =>
        !(placement made.foldersByDepth base made).paths.contains entry.1) =
      (keyedFiles (survivors made .root base)).filter (fun entry =>
        !(placement made.foldersByDepth base made).paths.contains entry.1) := by
    rw [keyedFiles_survivors, keyedFiles_survivors, Journal.edited_congr h.modified,
      List.filter_map, List.filter_map, List.filter_filter, List.filter_filter]
    congr 1
    refine List.filter_congr fun entry hentry => ?_
    by_cases hplacedAt : entry.1 ∈ (placement made.foldersByDepth base made).paths
    · simp [hplacedAt]
    · rw [hhides entry hentry hplacedAt]
  unfold merge
  rw [mergeInOrder_files, mergeInOrder_files, Placement.listing, Placement.listing, hpaths,
    hplaced, hbaseFiles]

end Views

end OverlayShell
