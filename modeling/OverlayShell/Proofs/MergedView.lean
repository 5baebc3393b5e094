import OverlayShell.Proofs.Placing
import OverlayShell.Proofs.Recording
import Mathlib.Data.List.Nodup

/-!
# The merged view

The merge builds a tree from what survives of the base, first with the created folders, then with
the created files. The flat list is put together apart from it, from the surviving files and the
created ones that found a place. The two are tied by one invariant of the tree under construction:
a file stands at a place exactly if it was placed there, or survives there and nothing was placed.
-/

namespace OverlayShell

open Entry

/-! ## 1. The created folders -/

theorem markAt_withFolder_file (tree : List Entry) (p : Path) (q : List String) (f : File) :
    markAt q (withFolder tree p) = some (.file f) ↔ markAt q tree = some (.file f) := by
  rw [markAt_withFolder]
  split
  · rename_i h
    constructor
    · intro hf
      simp at hf
    · intro hf
      rw [isObstructed_of_file hf] at h
      simp at h
  · rfl

/-- `isObstructed` asks for the files on the way alone. -/
theorem isObstructed_congr {tree other : List Entry} {way : List String}
    (h : ∀ b f, b <+: way → (markAt b tree = some (.file f) ↔ markAt b other = some (.file f))) :
    isObstructed way tree = isObstructed way other := by
  rw [Bool.eq_iff_iff, isObstructed_iff, isObstructed_iff]
  constructor
  · rintro ⟨b, hb, f, hf⟩
    exact ⟨b, hb, f, (h b f hb).1 hf⟩
  · rintro ⟨b, hb, f, hf⟩
    exact ⟨b, hb, f, (h b f hb).2 hf⟩

theorem isObstructed_withFolder (tree : List Entry) (p : Path) (way : List String) :
    isObstructed way (withFolder tree p) = isObstructed way tree :=
  isObstructed_congr fun b f _ => markAt_withFolder_file tree p b f

/-- **The created folders.** `withFolders` makes every place on the way to a live folder an open
folder, up to the first file. The order of `folders` does not matter for it. -/
theorem markAt_withFolders (j : Journal) (folders : List Path) (tree : List Entry)
    (q : List String) :
    markAt q (withFolders j folders tree) =
      if q ≠ [] ∧ isObstructed q tree = false ∧
        (∃ p ∈ folders, j.isDeleted p = false ∧ q <+: p.segments) then some (.folder true)
      else markAt q tree := by
  induction folders generalizing tree with
  | nil => simp [withFolders]
  | cons p rest ih =>
    -- A folder with a tombstone is passed over; any other opens its way, and no file comes or goes.
    by_cases hdel : j.isDeleted p = true
    · have hskip : withFolders j (p :: rest) tree = withFolders j rest tree := by
        simp [withFolders, hdel]
      rw [hskip, ih]
      simp [hdel]
    · have hstep : withFolders j (p :: rest) tree = withFolders j rest (withFolder tree p) := by
        simp [withFolders, hdel]
      rw [hstep, ih, isObstructed_withFolder, markAt_withFolder]
      by_cases hq : q = [] <;> by_cases hobs : isObstructed q tree = true <;>
        by_cases hp : q <+: p.segments <;> simp [hq, hobs, hp, hdel]

theorem markAt_withFolders_file (j : Journal) (folders : List Path) (tree : List Entry)
    (q : List String) (f : File) :
    markAt q (withFolders j folders tree) = some (.file f) ↔ markAt q tree = some (.file f) := by
  rw [markAt_withFolders]
  split
  · rename_i h
    constructor
    · intro hf
      simp at hf
    · intro hf
      rw [isObstructed_of_file hf] at h
      simp at h
  · rfl

theorem hasFile_withFolders (j : Journal) (folders : List Path) {tree : List Entry}
    {way : List String} : HasFile way (withFolders j folders tree) ↔ HasFile way tree := by
  unfold HasFile
  simp only [markAt_withFolders_file]

theorem hasFolder_withFolders (j : Journal) (folders : List Path) {tree : List Entry}
    {way : List String} :
    HasFolder way (withFolders j folders tree) ↔
      HasFolder way tree ∨ way ≠ [] ∧ isObstructed way tree = false ∧
        ∃ p ∈ folders, j.isDeleted p = false ∧ way <+: p.segments := by
  unfold HasFolder
  rw [markAt_withFolders]
  split
  · simp [*]
  · rename_i h
    exact (or_iff_left h).symm

theorem Entry.EachLevel.withFolders {P : List String → Prop} {tree : List Entry}
    (h : EachLevel P tree) (hnone : P []) (j : Journal) {folders : List Path}
    (hf : ∀ p ∈ folders, ∀ s ∈ p.segments, Admits P s) :
    EachLevel P (withFolders j folders tree) := by
  unfold OverlayShell.withFolders
  replace hf : ∀ p ∈ folders.filter (!j.isDeleted ·), ∀ s ∈ p.segments, Admits P s := fun p hp =>
    hf p (List.mem_of_mem_filter hp)
  generalize folders.filter (!j.isDeleted ·) = shown at hf
  induction shown generalizing tree with
  | nil => exact h
  | cons p rest ih =>
    exact ih (h.withFolder hnone (hf p (by simp))) fun q hq => hf q (by simp [hq])

theorem Entry.Tidy.withFolders {tree : List Entry} (h : Tidy tree) (j : Journal)
    {folders : List Path} (hf : ∀ p ∈ folders, p.Normal) : Tidy (withFolders j folders tree) :=
  EachLevel.withFolders h (by simp) j fun p hp s hs => admits_segments (hf p hp s hs)

theorem Entry.Distinct.withFolders {tree : List Entry} (h : Distinct tree) (j : Journal)
    (folders : List Path) : Distinct (withFolders j folders tree) :=
  EachLevel.withFolders h (by simp) j fun _ _ s _ => admits_nodup s

/-! ## 2. The created files -/

namespace Placement

def paths (P : Placement) : List Path := P.placed.map Prod.fst

/-- A file stands in `P.tree` iff it was placed, or `kept` has it where nothing was placed. -/
structure Consistent (kept : List Entry) (P : Placement) : Prop where
  tidy : Tidy P.tree
  proper : ∀ p ∈ P.paths, p.Proper
  nodup : P.paths.Nodup
  listed : ∀ p g, (p, g) ∈ P.placed → g.name = p.key
  files : ∀ (p : Path) (f : File), markAt p.segments P.tree = some (.file f) ↔
    (∃ g, (p, g) ∈ P.placed ∧ f = { g with name := p.name }) ∨
      p ∉ P.paths ∧ markAt p.segments kept = some (.file f)

variable {kept : List Entry} {P : Placement} {j : Journal} {path : Path} {file : File}

theorem place_of_isDeleted (h : j.isDeleted path = true) : P.place j (path, file) = P := by
  simp [place, h]

theorem place_tree (P : Placement) (file : File) (h : j.isDeleted path = false) :
    (P.place j (path, file)).tree = (withFile P.tree path (j.edited path file)).1 := by
  simp [place, h]

theorem place_placed (P : Placement) (file : File) (h : j.isDeleted path = false) :
    (P.place j (path, file)).placed =
      if (withFile P.tree path (j.edited path file)).2 then
        P.placed ++ [(path, { j.edited path file with name := path.key })]
      else P.placed := by
  simp [place, h]

theorem paths_place (P : Placement) (file : File) (h : j.isDeleted path = false) :
    (P.place j (path, file)).paths =
      if (withFile P.tree path (j.edited path file)).2 then P.paths ++ [path] else P.paths := by
  rw [paths, place_placed P file h]
  split
  · rw [List.map_append]
    rfl
  · rfl

/-- A file without room opens folders at most, and `placed` stays. -/
theorem Consistent.place_missed (h : P.Consistent kept) (hpath : path.Proper)
    (hdel : j.isDeleted path = false)
    (hdone : (withFile P.tree path (j.edited path file)).2 = false) :
    (P.place j (path, file)).Consistent kept := by
  have htree := place_tree P file hdel
  have hplaced : (P.place j (path, file)).placed = P.placed := by
    rw [place_placed P file hdel, hdone]
    rfl
  have hpaths : (P.place j (path, file)).paths = P.paths := by rw [paths, hplaced, paths]
  refine ⟨?_, ?_, ?_, ?_, fun p f => ?_⟩
  · rw [htree]
    exact h.tidy.withFile hpath.1 _ hpath.2
  · rw [hpaths]
    exact h.proper
  · rw [hpaths]
    exact h.nodup
  · rw [hplaced]
    exact h.listed
  · rw [htree, markAt_withFile_file hpath.1 _ (.inr hdone), h.files, hplaced, hpaths]

/-- A file with room joins `placed` and stands at its place. -/
theorem Consistent.place_done (h : P.Consistent kept) (hpath : path.Proper)
    (hnew : path ∉ P.paths) (hdel : j.isDeleted path = false)
    (hdone : (withFile P.tree path (j.edited path file)).2 = true) :
    (P.place j (path, file)).Consistent kept := by
  have htree := place_tree P file hdel
  have hplaced : (P.place j (path, file)).placed =
      P.placed ++ [(path, { j.edited path file with name := path.key })] := by
    rw [place_placed P file hdel, if_pos hdone]
  have hpaths : (P.place j (path, file)).paths = P.paths ++ [path] := by
    rw [paths_place P file hdel, if_pos hdone]
  refine ⟨?_, ?_, ?_, ?_, fun p f => ?_⟩
  · rw [htree]
    exact h.tidy.withFile hpath.1 _ hpath.2
  · intro p hp
    rw [hpaths, List.mem_append, List.mem_singleton] at hp
    rcases hp with hp | rfl
    · exact h.proper p hp
    · exact hpath
  · rw [hpaths, List.nodup_append]
    refine ⟨h.nodup, by simp, ?_⟩
    rintro a ha b hb rfl
    rw [List.mem_singleton.1 hb] at ha
    exact hnew ha
  · intro p g hg
    rw [hplaced, List.mem_append, List.mem_singleton] at hg
    rcases hg with hg | hg
    · exact h.listed p g hg
    · obtain ⟨rfl, rfl⟩ := Prod.mk.inj hg
      rfl
  · rw [htree, hplaced, hpaths]
    -- At its own place stands the new file, and everywhere else what stood there before.
    by_cases hp : p = path
    · subst hp
      rw [markAt_withFile_self hpath.1 _ hdone]
      constructor
      · intro hf
        obtain rfl := Mark.file.inj (Option.some.inj hf)
        exact .inl ⟨{ j.edited p file with name := p.key }, by simp, rfl⟩
      · rintro (⟨g, hg, rfl⟩ | ⟨hp, -⟩)
        · rw [List.mem_append, List.mem_singleton] at hg
          rcases hg with hg | hg
          · exact absurd (List.mem_map.2 ⟨(p, g), hg, rfl⟩) hnew
          · obtain ⟨-, rfl⟩ := Prod.mk.inj hg
            rfl
        · simp at hp
    · have hne : p.segments ≠ path.segments := fun heq => hp (Path.segments_injective heq)
      rw [markAt_withFile_file hpath.1 _ (.inl hne), h.files]
      simp [hp]

/-- One more `place` keeps tree and list `Consistent`, by the two cases of `withFile`. -/
theorem Consistent.place (h : P.Consistent kept) (hpath : path.Proper) (hnew : path ∉ P.paths) :
    (P.place j (path, file)).Consistent kept := by
  cases hdel : j.isDeleted path with
  | true => rwa [place_of_isDeleted hdel]
  | false =>
    cases hdone : (withFile P.tree path (j.edited path file)).2 with
    | false => exact h.place_missed hpath hdel hdone
    | true => exact h.place_done hpath hnew hdel hdone

theorem Consistent.run {entries : List (Path × File)} (h : P.Consistent kept)
    (hproper : ∀ p ∈ entries.map Prod.fst, p.Proper) (hnodup : (entries.map Prod.fst).Nodup)
    (hnew : ∀ p ∈ entries.map Prod.fst, p ∉ P.paths) :
    (entries.foldl (Placement.place j) P).Consistent kept := by
  induction entries generalizing P with
  | nil => exact h
  | cons entry rest ih =>
    obtain ⟨path, file⟩ := entry
    rw [List.map_cons, List.nodup_cons] at hnodup
    -- No later file has the path of this one, so the others are still new.
    refine ih (h.place (hproper path (by simp)) (hnew path (by simp)))
      (fun p hp => hproper p (by simp [hp])) hnodup.2 ?_
    intro p hp hmem
    have hold : p ∉ P.paths := hnew p (by simp [hp])
    by_cases hdel : j.isDeleted path = true
    · rw [place_of_isDeleted hdel] at hmem
      exact hold hmem
    · rw [Bool.not_eq_true] at hdel
      rw [paths_place P file hdel] at hmem
      split at hmem
      · rcases List.mem_append.1 hmem with hmem | hmem
        · exact hold hmem
        · obtain rfl : p = path := List.mem_singleton.1 hmem
          exact hnodup.1 hp
      · exact hold hmem

end Placement

/-! ## 3. The merge -/

/-- The tree and the placed files of the merge, once every file of `j.created` had its turn. -/
def placement (folders : List Path) (base : List Entry) (j : Journal) : Placement :=
  j.created.entries.foldl (Placement.place j)
    ⟨withFolders j folders (survivors j .root base), []⟩

/-- The flat list of the merge, with the path of each file. -/
def Placement.listing (kept : List Entry) (P : Placement) : List (Path × File) :=
  (keyedFiles kept).filter (fun entry => !P.paths.contains entry.1) ++ P.placed

theorem mergeInOrder_tree (folders : List Path) (base : List Entry) (j : Journal) :
    (mergeInOrder folders base j).tree = (placement folders base j).tree := rfl

theorem mergeInOrder_files (folders : List Path) (base : List Entry) (j : Journal) :
    (mergeInOrder folders base j).files =
      ((placement folders base j).listing (survivors j .root base)).map Prod.snd := rfl

theorem consistent_placement {folders : List Path} {base : List Entry} {j : Journal}
    (hbase : Tidy base) (hj : j.Sound) (hfolders : ∀ p ∈ folders, p.Normal) :
    (placement folders base j).Consistent (survivors j .root base) := by
  refine Placement.Consistent.run ?_ hj.created j.created.distinct (by simp [Placement.paths])
  -- Before the first created file the files are those that survive, since folders displace none.
  refine ⟨(hbase.survivors j .root).withFolders j hfolders, by simp [Placement.paths],
    by simp [Placement.paths], by simp, fun p f => ?_⟩
  simp [markAt_withFolders_file, Placement.paths]

namespace Placement

variable {kept : List Entry} {P : Placement}

/-- **The flat list has what the tree has.** A file is in `P.listing` under `p` iff `P.tree` has it
there, up to its name, which is the key. -/
theorem Consistent.mem_listing_iff (h : P.Consistent kept) (hkept : Distinct kept) {p : Path}
    {g : File} :
    (p, g) ∈ P.listing kept ↔
      ∃ f, markAt p.segments P.tree = some (.file f) ∧ g = { f with name := p.key } := by
  unfold listing
  rw [List.mem_append, List.mem_filter, mem_keyedFiles_iff hkept]
  simp only [Bool.not_eq_true', List.contains_eq_mem, decide_eq_false_iff_not]
  constructor
  · rintro (⟨⟨f, hf, rfl⟩, hp⟩ | hg)
    · exact ⟨f, (h.files p f).2 (.inr ⟨hp, hf⟩), rfl⟩
    · refine ⟨{ g with name := p.name }, (h.files p _).2 (.inl ⟨g, hg, rfl⟩), ?_⟩
      rw [← h.listed p g hg]
  · rintro ⟨f, hf, rfl⟩
    -- A file of the tree was placed, and is listed as such, or survives where none was placed.
    rcases (h.files p f).1 hf with ⟨g, hg, rfl⟩ | ⟨hp, hf⟩
    · right
      rw [← h.listed p g hg]
      exact hg
    · exact .inl ⟨⟨f, hf, rfl⟩, hp⟩

theorem Consistent.nodup_listing (h : P.Consistent kept) (hkept : Distinct kept) :
    ((P.listing kept).map Prod.fst).Nodup := by
  unfold listing
  rw [List.map_append, List.nodup_append]
  refine ⟨(nodup_keyedFiles hkept).sublist (List.filter_sublist.map _), h.nodup, ?_⟩
  -- The files of the base are listed only where none was placed.
  rintro a ha b hb rfl
  obtain ⟨⟨p, g⟩, hpg, rfl⟩ := List.mem_map.1 ha
  have hnot := (List.mem_filter.1 hpg).2
  simp only [Bool.not_eq_true', List.contains_eq_mem, decide_eq_false_iff_not] at hnot
  exact hnot hb

theorem Consistent.of_mem_listing (h : P.Consistent kept) (hkept : Distinct kept) {p : Path}
    {g : File} (hmem : (p, g) ∈ P.listing kept) : p.Proper ∧ g.name = p.key := by
  obtain ⟨f, hf, rfl⟩ := (h.mem_listing_iff hkept).1 hmem
  refine ⟨⟨?_, ?_⟩, rfl⟩
  · intro hroot
    rw [hroot, markAt_root] at hf
    simp at hf
  · obtain ⟨entry, hfind, -⟩ := Option.map_eq_some_iff.1 hf
    exact h.tidy.normal_of_find? hfind

end Placement

/-! ## 4. What the merge reads of a journal -/

theorem Journal.edited_congr {j j' : Journal} (hmodified : j.modified = j'.modified) :
    j.edited = j'.edited := by
  funext p f
  rw [edited, edited, hmodified]

section Congr

variable {j j' : Journal} (hdeleted : j.isDeleted = j'.isDeleted)
  (hmodified : j.modified = j'.modified)

include hdeleted hmodified

theorem survivors_congr (top : Path) (entries : List Entry) :
    survivors j top entries = survivors j' top entries := by
  have hedited := Journal.edited_congr hmodified
  induction entries using forest_induction generalizing top with
  | nil => rfl
  | file f rest ih =>
    rw [survivors_cons, survivors_cons, surviving, surviving, hdeleted, hedited, ih]
  | folder n children isOpen rest ihc ihr =>
    rw [survivors_cons, survivors_cons, surviving, surviving, hdeleted, ihc, ihr]

theorem Placement.place_congr : Placement.place j = Placement.place j' := by
  funext P entry
  rw [Placement.place, Placement.place, hdeleted, Journal.edited_congr hmodified]

/-- `merge` reads which paths have a tombstone, not the order in which they got it, and no
version. -/
theorem merge_congr (hcreated : j.created = j'.created) (hfolders : j.folders = j'.folders)
    (base : List Entry) : merge base j = merge base j' := by
  unfold merge mergeInOrder Journal.foldersByDepth withFolders
  rw [hfolders, survivors_congr hdeleted hmodified, hdeleted,
    Placement.place_congr hdeleted hmodified, hcreated]

end Congr

/-! ## 5. Tree and flat list -/

theorem mem_foldersByDepth {j : Journal} {p : Path} : p ∈ j.foldersByDepth ↔ p ∈ j.folders :=
  List.mem_mergeSort

section Merge

variable {base : List Entry} {j : Journal} (hbase : Tidy base) (hj : j.Sound)

include hbase hj

theorem consistent_merge :
    (placement j.foldersByDepth base j).Consistent (survivors j .root base) :=
  consistent_placement hbase hj fun p hp => (hj.folders p (mem_foldersByDepth.1 hp)).2

theorem tidy_merge : Tidy (merge base j).tree := (consistent_merge hbase hj).tidy

/-- `(merge base j).files` has the files of its tree, each named by its key. -/
theorem mem_files_merge_iff {g : File} :
    g ∈ (merge base j).files ↔ ∃ p : Path, p.Proper ∧
      ∃ f, markAt p.segments (merge base j).tree = some (.file f) ∧
        g = { f with name := p.key } := by
  have hkept := (hbase.survivors j .root).distinct
  have hmerge := consistent_merge hbase hj
  unfold merge
  rw [mergeInOrder_files, mergeInOrder_tree, List.mem_map]
  constructor
  · rintro ⟨⟨p, g⟩, hpg, rfl⟩
    exact ⟨p, (hmerge.of_mem_listing hkept hpg).1, (hmerge.mem_listing_iff hkept).1 hpg⟩
  · rintro ⟨p, -, hf⟩
    exact ⟨(p, g), (hmerge.mem_listing_iff hkept).2 hf, rfl⟩

theorem nodup_names_merge : ((merge base j).files.map File.name).Nodup := by
  have hkept := (hbase.survivors j .root).distinct
  have hmerge := consistent_merge hbase hj
  unfold merge
  rw [mergeInOrder_files, List.map_map]
  -- Keys are distinct because the paths are, and a proper path is known by its key.
  refine (List.Nodup.of_map Prod.fst (hmerge.nodup_listing hkept)).map_on ?_
  rintro ⟨p, g⟩ hp ⟨q, g'⟩ hq hname
  obtain ⟨hproper, hkey⟩ := hmerge.of_mem_listing hkept hp
  obtain ⟨hproper', hkey'⟩ := hmerge.of_mem_listing hkept hq
  obtain rfl : p = q := by
    apply Path.key_injective hproper.2 hproper'.2
    rw [← hkey, ← hkey']
    exact hname
  obtain ⟨f, hf, rfl⟩ := (hmerge.mem_listing_iff hkept).1 hp
  obtain ⟨f', hf', rfl⟩ := (hmerge.mem_listing_iff hkept).1 hq
  rw [hf] at hf'
  obtain rfl := Mark.file.inj (Option.some.inj hf')
  rfl

theorem isFileAt_merge_iff {p : Path} (hp : p.Proper) :
    isFileAt (merge base j).tree p = true ↔ ∃ g ∈ (merge base j).files, g.name = p.key := by
  rw [isFileAt_iff]
  constructor
  · rintro ⟨f, hf⟩
    exact ⟨_, (mem_files_merge_iff hbase hj).2 ⟨p, hp, f, hf, rfl⟩, rfl⟩
  · rintro ⟨g, hg, hname⟩
    obtain ⟨q, hq, f, hf, rfl⟩ := (mem_files_merge_iff hbase hj).1 hg
    obtain rfl : q = p := Path.key_injective hq.2 hp.2 hname
    exact ⟨f, hf⟩

end Merge

/-- **Tree and flat list agree.** After any `writes` about proper paths over a `Tidy` base,
sibling names are `Distinct` in `view.tree` and names in `view.files`. At each proper path
`lookup` finds a file iff `view.files` has one named by the key, and the two agree in `kind`,
`content` and `isOpen`. -/
theorem tree_agrees_with_files {base : List Entry} (hbase : Tidy base)
    {writes : List Journal.Write} (hwrites : ∀ write ∈ writes, write.path.Proper) :
    let view := merge base (Journal.after writes)
    Distinct view.tree ∧ (view.files.map File.name).Nodup ∧
      ∀ p : Path, p.Proper →
        ((∃ f, lookup view.tree (Path.parse p.absolute) = some (.file f)) ↔
          ∃ g ∈ view.files, g.name = p.key) ∧
        ∀ f g, lookup view.tree (Path.parse p.absolute) = some (.file f) →
          g ∈ view.files → g.name = p.key →
          f.kind = g.kind ∧ f.content = g.content ∧ f.isOpen = g.isOpen := by
  intro view
  have hj : (Journal.after writes).Sound := Journal.sound_after hwrites
  refine ⟨(tidy_merge hbase hj).distinct, nodup_names_merge hbase hj, fun p hp => ?_⟩
  -- The absolute form of a proper path reads back, so looking up is following its segments.
  have hlookup : ∀ f, lookup view.tree (Path.parse p.absolute) = some (.file f) ↔
      markAt p.segments view.tree = some (.file f) := by
    intro f
    rw [Path.parse_absolute hp.2, lookup_eq_find? hp.1, find?_eq_file_iff]
  simp only [hlookup]
  constructor
  · show HasFile p.segments view.tree ↔ _
    rw [← isFileAt_iff]
    exact isFileAt_merge_iff hbase hj hp
  · -- The listed file of that key is the one that stands at the path, under another name.
    intro f g hf hg hname
    obtain ⟨q, hq, f', hf', rfl⟩ := (mem_files_merge_iff hbase hj).1 hg
    obtain rfl : q = p := Path.key_injective hq.2 hp.2 hname
    rw [hf] at hf'
    obtain rfl := Mark.file.inj (Option.some.inj hf')
    exact ⟨rfl, rfl, rfl⟩

/-- A created file takes the place of one of the base, in a folder that was deleted in between. Both
`tree` and `files` have it with its edited content. -/
theorem tree_agrees_with_files_replaced :
    let base : List Entry := [.folder "a" [.file ⟨"b", "markdown", "old", false⟩] false]
    let writes : List Journal.Write := [.delete ⟨["a"]⟩,
      .create ⟨["a", "b"]⟩ ⟨"a/b", "json", "new", true⟩, .addFolder ⟨["a"]⟩,
      .modify ⟨["a", "b"]⟩ "edited"]
    let view := merge base (Journal.after writes)
    Tidy base ∧ (∀ write ∈ writes, write.path.Proper) ∧
      Distinct view.tree ∧ (view.files.map File.name).Nodup ∧
      lookup view.tree (Path.parse "/a/b") = some (.file ⟨"b", "json", "edited", true⟩) ∧
      ∃ g ∈ view.files,
        g.name = "a/b" ∧ g.kind = "json" ∧ g.content = "edited" ∧ g.isOpen = true := by
  intro base writes view
  have hbase : Tidy base := by decide
  have hwrites : ∀ write ∈ writes, write.path.Proper := by decide
  have hfile : lookup view.tree (Path.parse "/a/b") =
      some (.file ⟨"b", "json", "edited", true⟩) := lookup_eq_file_iff.2 (by decide +kernel)
  obtain ⟨hdistinct, hnodup, hagree⟩ := tree_agrees_with_files hbase hwrites
  obtain ⟨hiff, hsame⟩ := hagree ⟨["a", "b"]⟩ (by decide)
  -- That the flat list has the file, and what it has there, is taken from the tree.
  obtain ⟨g, hg, hname⟩ := hiff.1 ⟨_, hfile⟩
  obtain ⟨hkind, hcontent, hopen⟩ := hsame _ g hfile hg hname
  exact ⟨hbase, hwrites, hdistinct, hnodup, hfile, g, hg, hname, hkind.symm, hcontent.symm,
    hopen.symm⟩

end OverlayShell
