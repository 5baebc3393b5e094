import OverlayShell.Proofs.FolderReasons

/-!
# The flat list

The candidates for the flat list are the files of the base at whose paths none was created, and
behind them the created ones. Those make up the list that have their place in the tree. So two views
with the same candidates have the same list, in its order, if their trees have files in the same
places.
-/

namespace OverlayShell

open Entry

/-- The path of a listed file, whose name is its `Path.key`. -/
def File.path (f : File) : Path := Path.parse ("/" ++ f.name)

theorem File.path_of_key {f : File} {p : Path} (h : f.name = p.key) (hp : p.Normal) :
    f.path = p := by
  rw [File.path, h]
  exact Path.parse_absolute hp

/-- A file of `(merge base j).files` stands in the tree, and its name is the key of its
`File.path`. -/
theorem of_mem_files_merge {base : List Entry} (hbase : Tidy base) {j : Journal} (hj : j.Sound)
    {f : File} (hf : f ∈ (merge base j).files) :
    f.path.Proper ∧ f.name = f.path.key ∧ HasFile f.path.segments (merge base j).tree := by
  obtain ⟨p, hp, g, hg, rfl⟩ := (mem_files_merge_iff hbase hj).1 hf
  rw [File.path_of_key (p := p) rfl hp.2]
  exact ⟨hp, rfl, g, hg⟩

/-! ## 1. Placed files -/

def Journal.listed (j : Journal) (entry : Path × File) : Path × File :=
  (entry.1, { j.edited entry.1 entry.2 with name := entry.1.key })

namespace Placement

variable {j : Journal} {P : Placement} {entries : List (Path × File)} {path : Path} {file : File}

/-- `withFile` places a created file iff `isFileAt` holds of its path in the end. -/
theorem done_iff_isFileAt (file : File) (hpath : path.segments ≠ [])
    (hentries : ∀ p ∈ entries.map Prod.fst, p.Proper) (hlive : j.isDeleted path = false) :
    (withFile P.tree path (j.edited path file)).2 = true ↔
      isFileAt (entries.foldl (place j) (P.place j (path, file))).tree path = true := by
  have htree := place_tree P file hlive
  rw [isFileAt_iff]
  constructor
  · intro hdone
    refine hasFile_run hentries ?_
    rw [htree]
    exact (hasFile_withFile hpath _).2 (.inr ⟨rfl, hdone⟩)
  · intro hfile
    rw [snd_withFile_iff hpath, isObstructed_eq_false_iff]
    refine ⟨fun b hb hbfile => ?_, fun hfolder => ?_⟩
    -- What is in its way stays there, and then no file stands at the path.
    · obtain ⟨hbpath, hne⟩ := (Path.prefix_dropLast_iff hpath).1 hb
      have hstill : HasFile b (entries.foldl (place j) (P.place j (path, file))).tree := by
        refine hasFile_run hentries ?_
        rw [htree]
        exact (hasFile_withFile hpath _).2 (.inl hbfile)
      obtain ⟨f, hf⟩ := hfile
      exact hne (hstill.eq_of_start hbpath hf)
    · refine hfile.not_folder (hasFolder_run hentries ?_)
      rw [htree]
      exact (hasFolder_withFile hpath _).2 (.inl hfolder)

/-- **The placed files.** `placed` gains the entries whose path `isFileAt` in the finished tree, in
order. -/
theorem placed_run (hentries : ∀ p ∈ entries.map Prod.fst, p.Proper)
    (hlive : ∀ p ∈ entries.map Prod.fst, j.isDeleted p = false) :
    (entries.foldl (place j) P).placed =
      P.placed ++ (entries.filter fun entry =>
        isFileAt (entries.foldl (place j) P).tree entry.1).map j.listed := by
  induction entries generalizing P with
  | nil => simp
  | cons entry rest ih =>
    obtain ⟨path, file⟩ := entry
    have hrest : ∀ p ∈ rest.map Prod.fst, p.Proper := fun p hp => hentries p (by simp [hp])
    have hpath := (hentries path (by simp)).1
    have hnow := hlive path (by simp)
    have hdone := done_iff_isFileAt (P := P) file hpath hrest hnow
    rw [List.foldl_cons, ih hrest fun p hp => hlive p (by simp [hp]), place_placed P file hnow,
      List.filter_cons]
    simp only [hdone]
    split <;> simp [Journal.listed]

end Placement

/-! ## 2. The list and the tree -/

namespace Journal

/-- The files that the flat list may have: those of `base` where `j` created none, and behind them
the created ones in the order of creation. -/
def candidates (base : List Entry) (j : Journal) : List (Path × File) :=
  ((keyedFiles base).filter fun entry => !j.created.keys.contains entry.1).map
      (fun entry => (entry.1, j.edited entry.1 entry.2)) ++
    j.created.entries.map j.listed

/-- The `candidates` that have their place in the tree of the merge. -/
def listing (base : List Entry) (j : Journal) : List (Path × File) :=
  (j.candidates base).filter fun entry => isFileAt (merge base j).tree entry.1

variable {base : List Entry} {j : Journal} (hbase : Tidy base) (hj : j.Sound)

include hj

theorem placed_merge (base : List Entry) :
    (placement j.foldersByDepth base j).placed =
      (j.created.entries.filter fun entry => isFileAt (merge base j).tree entry.1).map
        j.listed := by
  have hrun := Placement.placed_run (P := ⟨withFolders j j.foldersByDepth (survivors j .root base),
    []⟩) hj.created fun p hp => isDeleted_created hj hp
  rw [List.nil_append] at hrun
  exact hrun

include hbase

/-- `hides` keeps a base file, where none was created, iff `isFileAt` holds of its path. -/
theorem hides_eq_isFileAt {p : Path} {f : File} (hp : (p, f) ∈ keyedFiles base)
    (hcreated : p ∉ j.created.keys) : (!j.hides p) = isFileAt (merge base j).tree p := by
  obtain ⟨g, hg, -⟩ := (mem_keyedFiles_iff hbase.distinct).1 hp
  rw [Bool.eq_iff_iff, isFileAt_iff, Bool.not_eq_true']
  constructor
  · intro hhides
    exact hasFile_merge_of_kept hj ((hasFile_survivors j base).2 ⟨hhides, g, hg⟩)
  · intro hfile
    rcases hasFile_merge_cases hj hfile with hkept | hmem
    · exact ((hasFile_survivors j base).1 hkept).1
    · exact absurd hmem hcreated

/-- The two tests of the flat list come to one where no file was created: `isFileAt` in the tree of
the merge. -/
theorem free_and_kept_eq {p : Path} {f : File} (hp : (p, f) ∈ keyedFiles base) :
    (!(placement j.foldersByDepth base j).paths.contains p && !j.hides p) =
      (isFileAt (merge base j).tree p && !j.created.keys.contains p) := by
  have hplaced := placed_merge hj base
  by_cases hcreated : p ∈ j.created.keys
  · have hcontains : j.created.keys.contains p = true := by simpa using hcreated
    rw [hcontains, Bool.not_true, Bool.and_false]
    cases hhides : j.hides p with
    | true => simp
    | false =>
      -- A kept file has only folders above it, so the created one finds room and was placed.
      obtain ⟨g, hg, -⟩ := (mem_keyedFiles_iff hbase.distinct).1 hp
      have hfile := hasFile_merge_of_kept hj ((hasFile_survivors j base).2 ⟨hhides, g, hg⟩)
      obtain ⟨⟨q, file⟩, hmem, rfl⟩ := List.mem_map.1 hcreated
      have hpath : q ∈ (placement j.foldersByDepth base j).paths := by
        rw [Placement.paths, hplaced]
        refine List.mem_map.2 ⟨j.listed (q, file), List.mem_map.2 ⟨(q, file), ?_, rfl⟩, rfl⟩
        exact List.mem_filter.2 ⟨hmem, isFileAt_iff.2 hfile⟩
      simp [hpath]
  · have hcontains : j.created.keys.contains p = false := by simpa using hcreated
    have hpath : p ∉ (placement j.foldersByDepth base j).paths := by
      rw [Placement.paths, hplaced, List.map_map]
      intro hmem
      obtain ⟨entry, hentry, rfl⟩ := List.mem_map.1 hmem
      exact hcreated (List.mem_map.2 ⟨entry, (List.mem_filter.1 hentry).1, rfl⟩)
    rw [hcontains, Bool.not_false, Bool.and_true, ← hides_eq_isFileAt hbase hj hp hcreated]
    simp [hpath]

/-- **The flat list.** `(merge base j).files` is the `listing` without its paths. -/
theorem files_merge : (merge base j).files = (j.listing base).map Prod.snd := by
  have hbaseFiles : (keyedFiles (survivors j .root base)).filter (fun entry =>
        !(placement j.foldersByDepth base j).paths.contains entry.1) =
      (((keyedFiles base).filter fun entry => !j.created.keys.contains entry.1).map
        (fun entry => (entry.1, j.edited entry.1 entry.2))).filter
        (fun entry => isFileAt (merge base j).tree entry.1) := by
    rw [keyedFiles_survivors, List.filter_map, List.filter_map, List.filter_filter,
      List.filter_filter]
    congr 1
    exact List.filter_congr fun _ hp => free_and_kept_eq hbase hj hp
  have hcreatedFiles : (j.created.entries.map j.listed).filter
        (fun entry => isFileAt (merge base j).tree entry.1) =
      (placement j.foldersByDepth base j).placed := by
    rw [placed_merge hj base, List.filter_map]
    rfl
  unfold listing candidates
  rw [List.filter_append, ← hbaseFiles, hcreatedFiles]
  rfl

theorem of_mem_listing {p : Path} {f : File} (h : (p, f) ∈ j.listing base) :
    p.Proper ∧ f.name = p.key := by
  obtain ⟨hcandidate, hfile⟩ := List.mem_filter.1 h
  obtain ⟨g, hg⟩ := isFileAt_iff.1 hfile
  obtain ⟨entry, hfind, -⟩ := Option.map_eq_some_iff.1 hg
  refine ⟨⟨?_, (tidy_merge hbase hj).normal_of_find? hfind⟩, ?_⟩
  · intro hroot
    rw [hroot, markAt_root] at hg
    simp at hg
  · rcases List.mem_append.1 hcandidate with hmem | hmem
    · obtain ⟨⟨q, e⟩, hq, heq⟩ := List.mem_map.1 hmem
      obtain ⟨rfl, rfl⟩ := Prod.mk.inj heq
      obtain ⟨e', -, rfl⟩ := (mem_keyedFiles_iff hbase.distinct).1 (List.mem_filter.1 hq).1
      exact edited_name j _ _
    · obtain ⟨⟨q, e⟩, -, heq⟩ := List.mem_map.1 hmem
      obtain ⟨rfl, rfl⟩ := Prod.mk.inj heq
      rfl

theorem files_filter_path (keep : Path → Bool) :
    (merge base j).files.filter (fun f => keep f.path) =
      ((j.listing base).filter fun entry => keep entry.1).map Prod.snd := by
  rw [files_merge hbase hj, List.filter_map]
  congr 1
  refine List.filter_congr fun ⟨p, f⟩ hmem => ?_
  obtain ⟨hproper, hname⟩ := of_mem_listing hbase hj hmem
  show keep f.path = keep p
  rw [File.path_of_key hname hproper.2]

end Journal

/-! ## 3. Two views -/

section TwoViews

variable {base : List Entry} {made now : Journal} (keep : Path → Bool)
  (hcreated : now.created.entries.filter (fun entry => keep entry.1) =
    made.created.entries.filter fun entry => keep entry.1)
  (hedited : ∀ p f, keep p = true → now.edited p f = made.edited p f)

include hcreated in
theorem contains_created_eq {p : Path} (hkeep : keep p = true) :
    now.created.keys.contains p = made.created.keys.contains p := by
  have hmem : ∀ j : Journal, p ∈ j.created.keys ↔
      p ∈ (j.created.filter fun entry => keep entry.1).keys := by
    intro j
    rw [Bindings.mem_keys_filter]
    simp [Bindings.keys, hkeep]
  have hsame : (now.created.filter fun entry => keep entry.1).keys =
      (made.created.filter fun entry => keep entry.1).keys := congrArg (List.map Prod.fst) hcreated
  rw [Bool.eq_iff_iff, List.contains_iff_mem, List.contains_iff_mem, hmem now, hmem made, hsame]

include hcreated hedited in
theorem candidates_filter_eq (base : List Entry) :
    (now.candidates base).filter (fun entry => keep entry.1) =
      (made.candidates base).filter fun entry => keep entry.1 := by
  unfold Journal.candidates
  rw [List.filter_append, List.filter_append]
  -- The candidates of the base and the created ones, each filtered on their own.
  congr 1
  · rw [List.filter_map, List.filter_map, List.filter_filter, List.filter_filter]
    have hfilter : (keyedFiles base).filter (fun entry =>
          keep entry.1 && !now.created.keys.contains entry.1) =
        (keyedFiles base).filter fun entry =>
          keep entry.1 && !made.created.keys.contains entry.1 := by
      refine List.filter_congr fun entry _ => ?_
      cases hkeep : keep entry.1 with
      | true => rw [contains_created_eq keep hcreated hkeep]
      | false => rfl
    show ((keyedFiles base).filter fun entry =>
      keep entry.1 && !now.created.keys.contains entry.1).map _ = _
    rw [hfilter]
    -- An edit is told by its path, so it is the same at the paths that are kept.
    refine List.map_congr_left fun entry hentry => ?_
    have hkeep := (Bool.and_eq_true _ _ ▸ (List.mem_filter.1 hentry).2).1
    rw [hedited _ _ hkeep]
  · rw [List.filter_map, List.filter_map]
    show (now.created.entries.filter fun entry => keep entry.1).map now.listed =
      (made.created.entries.filter fun entry => keep entry.1).map made.listed
    rw [hcreated]
    refine List.map_congr_left fun entry hentry => ?_
    rw [Journal.listed, Journal.listed, hedited _ _ (List.mem_filter.1 hentry).2]

include hcreated hedited in
/-- **Only what is kept remains.** If `now` and `made` have the same created files and edits at the
paths in `keep`, and the tree of `now` has files where that of `made` has them among these and none
elsewhere, then the flat list of `now` is that of `made` filtered by `keep`, in the same order. -/
theorem files_eq_filter (hbase : Tidy base) (hmade : made.Sound) (hnow : now.Sound)
    (hsame : ∀ p, keep p = true →
      isFileAt (merge base now).tree p = isFileAt (merge base made).tree p)
    (hgone : ∀ p, keep p = false → isFileAt (merge base now).tree p = false) :
    (merge base now).files = (merge base made).files.filter fun f => keep f.path := by
  -- Both lists are those of the candidates at kept paths that are seen in the earlier tree.
  have hkept : ∀ entry : Path × File,
      isFileAt (merge base now).tree entry.1 =
        (keep entry.1 && isFileAt (merge base made).tree entry.1) := by
    intro entry
    cases hkeep : keep entry.1 with
    | true => rw [hsame entry.1 hkeep, Bool.true_and]
    | false => rw [hgone entry.1 hkeep, Bool.false_and]
  rw [Journal.files_filter_path hbase hmade, Journal.files_merge hbase hnow]
  congr 1
  unfold Journal.listing
  rw [List.filter_filter]
  calc (now.candidates base).filter (fun entry => isFileAt (merge base now).tree entry.1)
      = ((now.candidates base).filter fun entry => keep entry.1).filter
          (fun entry => isFileAt (merge base made).tree entry.1) := by
        rw [List.filter_filter]
        exact List.filter_congr fun entry _ => (hkept entry).trans (Bool.and_comm _ _)
    _ = (made.candidates base).filter (fun entry =>
          keep entry.1 && isFileAt (merge base made).tree entry.1) := by
        rw [candidates_filter_eq keep hcreated hedited, List.filter_filter]
        exact List.filter_congr fun entry _ => Bool.and_comm _ _

include hcreated hedited in
/-- A file listed by `made` at a path in `keep` is listed by `now` as well, if `isFileAt` holds
there. -/
theorem mem_files_of_seen (hbase : Tidy base) (hmade : made.Sound) (hnow : now.Sound) {f : File}
    (hf : f ∈ (merge base made).files) (hkeep : keep f.path = true)
    (hseen : isFileAt (merge base now).tree f.path = true) : f ∈ (merge base now).files := by
  rw [Journal.files_merge hbase hmade] at hf
  obtain ⟨⟨p, g⟩, hlisted, rfl⟩ := List.mem_map.1 hf
  obtain ⟨hproper, hname⟩ := Journal.of_mem_listing hbase hmade hlisted
  have hpath : g.path = p := File.path_of_key hname hproper.2
  rw [hpath] at hkeep hseen
  have hcandidate : (p, g) ∈ (now.candidates base).filter fun entry => keep entry.1 := by
    rw [candidates_filter_eq keep hcreated hedited]
    exact List.mem_filter.2 ⟨(List.mem_filter.1 hlisted).1, hkeep⟩
  rw [Journal.files_merge hbase hnow]
  exact List.mem_map.2
    ⟨(p, g), List.mem_filter.2 ⟨(List.mem_filter.1 hcandidate).1, hseen⟩, rfl⟩

end TwoViews

end OverlayShell
