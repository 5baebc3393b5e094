import OverlayShell.Proofs.MergedView

/-!
# The order of the created folders

The created folders form a set, and the merge takes them in some order. The order is seen in nothing
but the order of siblings: whichever it is, the same stands at every place of the tree, the same
created files find room, and the flat list is the same. Two trees in which the same stands at every
place are one tree up to the order of siblings, as long as these have distinct names.
-/

namespace OverlayShell

open Entry

namespace Entry

/-! ## 1. Trees up to the order of siblings -/

/-- The entries of one list in some order, and those of each folder (`inner`, `other`) as well. -/
inductive Reordered : List Entry → List Entry → Prop
  | nil : Reordered [] []
  | file (f : File) {front back : List Entry} (hrest : Reordered front back) :
      Reordered (.file f :: front) (.file f :: back)
  | folder (name : String) (isOpen : Bool) {inner other front back : List Entry}
      (hinner : Reordered inner other) (hrest : Reordered front back) :
      Reordered (.folder name inner isOpen :: front) (.folder name other isOpen :: back)
  | swap (first second : Entry) (rest : List Entry) :
      Reordered (first :: second :: rest) (second :: first :: rest)
  | trans {first second third : List Entry} (h : Reordered first second)
      (h' : Reordered second third) : Reordered first third

theorem Reordered.refl (entries : List Entry) : Reordered entries entries := by
  induction entries using forest_induction with
  | nil => exact .nil
  | file f rest ih => exact .file f ih
  | folder name children isOpen rest ihc ihr => exact .folder name isOpen ihc ihr

theorem Reordered.cons (entry : Entry) {front back : List Entry} (h : Reordered front back) :
    Reordered (entry :: front) (entry :: back) := by
  cases entry with
  | file f => exact .file f h
  | folder name children isOpen => exact .folder name isOpen (.refl children) h

theorem Reordered.middle (entry : Entry) (front back : List Entry) :
    Reordered (entry :: (front ++ back)) (front ++ entry :: back) := by
  induction front with
  | nil => exact .refl _
  | cons first rest ih => exact (Reordered.swap entry first (rest ++ back)).trans (ih.cons first)

/-- Every entry's `Mark` with its path, in the order of `walkAll`. -/
def marks (base : Path) (entries : List Entry) : List (Path × Mark) :=
  (walkAll base entries).map fun (path, entry) => (path, entry.mark)

theorem marks_cons (base : Path) (entry : Entry) (rest : List Entry) :
    marks base (entry :: rest) =
      (base.child entry.name, entry.mark) ::
        (marks (base.child entry.name) entry.children ++ marks base rest) := by
  cases entry <;> simp [marks, walkAll, walk, name, children]

/-- `Reordered` trees have the same `marks` up to order. -/
theorem Reordered.perm_marks {first second : List Entry} (h : Reordered first second)
    (base : Path) : (marks base first).Perm (marks base second) := by
  induction h generalizing base with
  | nil => exact .refl _
  | file f _ ih =>
    rw [marks_cons, marks_cons]
    exact .cons _ (.append (.refl _) (ih base))
  | folder n isOpen _ _ ihc ihr =>
    rw [marks_cons, marks_cons]
    exact .cons _ (.append (ihc (base.child n)) (ihr base))
  | swap x y rest =>
    -- The walk of each of the two is one block, and the blocks change places.
    have hblocks : ∀ a b : Entry, marks base (a :: b :: rest) =
        (marks base [a] ++ marks base [b]) ++ marks base rest := fun a b => by
      simp [marks, walkAll]
    rw [hblocks, hblocks]
    exact .append List.perm_append_comm (.refl _)
  | trans _ _ ih ih' => exact (ih base).trans (ih' base)

/-! ## 2. The same at every place -/

/-- `markAt` agrees in every place. -/
def SameMarks (first second : List Entry) : Prop := ∀ way, markAt way first = markAt way second

theorem markAt_of_not_mem {s : String} {entries : List Entry} (h : s ∉ entries.map name)
    (way : List String) : markAt (s :: way) entries = none := by
  rw [markAt, Option.map_eq_none_iff]
  by_contra hfind
  obtain ⟨entry, hentry⟩ := Option.ne_none_iff_exists'.1 hfind
  exact h (name_mem_of_find? hentry)

theorem exists_of_markAt {s : String} {entries : List Entry} {m : Mark}
    (h : markAt [s] entries = some m) :
    ∃ front entry back, entries = front ++ entry :: back ∧ entry.name = s ∧ entry.mark = m := by
  obtain ⟨entry, hfind, hmark⟩ := Option.map_eq_some_iff.1 h
  obtain ⟨front, back, hsplit⟩ := List.append_of_mem (List.mem_of_find?_eq_some hfind)
  exact ⟨front, entry, back, hsplit, by simpa using List.find?_some hfind, hmark⟩

theorem Distinct.without {front back : List Entry} {entry : Entry}
    (h : Distinct (front ++ entry :: back)) :
    Distinct (front ++ back) ∧ entry.name ∉ (front ++ back).map name := by
  obtain ⟨hnames, hinside⟩ := eachLevel_iff.1 h
  have hmiddle : ((entry :: (front ++ back)).map name).Nodup :=
    (List.perm_middle.map name).nodup_iff.1 hnames
  rw [List.map_cons, List.nodup_cons] at hmiddle
  refine ⟨eachLevel_iff.2 ⟨hmiddle.2, fun n children isOpen hmem => hinside n children isOpen ?_⟩,
    hmiddle.1⟩
  rcases List.mem_append.1 hmem with hmem | hmem
  · exact List.mem_append_left _ hmem
  · exact List.mem_append_right _ (List.mem_cons_of_mem _ hmem)

/-- `markAt` of a way that starts with the name of `entry` looks inside it; of any other, it looks
among the rest. -/
theorem markAt_middle {front back : List Entry} {entry : Entry}
    (h : Distinct (front ++ entry :: back)) (s : String) (way : List String) :
    markAt (s :: way) (front ++ entry :: back) =
      if s = entry.name then markWithin way entry else markAt (s :: way) (front ++ back) := by
  have hnot := h.without.2
  rw [List.map_append, List.mem_append, not_or] at hnot
  rw [markAt_cons, List.find?_append]
  split
  · rename_i hs
    have hfront : front.find? (·.name = s) = none := by
      rw [List.find?_eq_none]
      intro other hother
      have hne : other.name ≠ entry.name := fun heq =>
        hnot.1 (List.mem_map.2 ⟨other, hother, heq⟩)
      simpa [hs] using hne
    rw [hfront, Option.none_or, List.find?_cons_of_pos (by simpa using hs.symm), Option.bind_some]
  · rename_i hs
    have hne : entry.name ≠ s := fun heq => hs heq.symm
    rw [markAt_cons, List.find?_append, List.find?_cons_of_neg (by simpa using hne)]

/-- `SameMarks` of two trees goes down to the children of an entry they share, and to the rest. -/
theorem SameMarks.split {first second : Entry} {rest front back : List Entry}
    (hfirst : Distinct (first :: rest)) (hsecond : Distinct (front ++ second :: back))
    (hname : second.name = first.name)
    (h : SameMarks (first :: rest) (front ++ second :: back)) :
    SameMarks first.children second.children ∧ SameMarks rest (front ++ back) := by
  have hleft : ∀ s way, markAt (s :: way) (first :: rest) =
      if s = first.name then markWithin way first else markAt (s :: way) rest :=
    @markAt_middle [] rest first hfirst
  have hright := markAt_middle hsecond
  constructor
  · -- Below the name of the entry both trees are what is inside.
    intro way
    cases way with
    | nil => simp
    | cons s way =>
      have hplace := h (first.name :: s :: way)
      rw [hright] at hplace
      rw [hleft, if_pos rfl, if_pos hname.symm] at hplace
      exact hplace
  · -- Under another name they are the rest; under this one the rest has nothing in either.
    intro way
    cases way with
    | nil => simp
    | cons s way =>
      by_cases hs : s = first.name
      · have hnot : first.name ∉ (front ++ back).map name := hname ▸ hsecond.without.2
        rw [hs, markAt_of_not_mem hfirst.not_mem_names, markAt_of_not_mem hnot]
      · have hplace := h (s :: way)
        rw [hright] at hplace
        rw [hleft, if_neg hs, if_neg (hname ▸ hs)] at hplace
        exact hplace

/-- **The same at every place, in another order.** Two `Distinct` trees with `SameMarks` are
`Reordered`. -/
theorem Reordered.of_sameMarks {first second : List Entry} (hfirst : Distinct first)
    (hsecond : Distinct second) (h : SameMarks first second) : Reordered first second := by
  -- The entries of the first tree are found one by one in what is left of the second.
  induction first using forest_induction generalizing second with
  | nil =>
    cases second with
    | nil => exact .nil
    | cons entry rest =>
      have hplace := h [entry.name]
      simp [markAt_cons, markWithin] at hplace
  | file f rest ih =>
    have hplace : markAt [f.name] second = some (.file f) := by
      rw [← h, markAt_cons, List.find?_cons_of_pos (by simp [name])]
      rfl
    obtain ⟨front, entry, back, rfl, hname, hmark⟩ := exists_of_markAt hplace
    obtain rfl : entry = .file f := by cases entry <;> simp_all [mark]
    obtain ⟨-, hrest⟩ := h.split hfirst hsecond rfl
    exact (Reordered.file f (ih hfirst.tail hsecond.without.1 hrest)).trans (.middle _ front back)
  | folder n children isOpen rest ihc ihr =>
    have hplace : markAt [n] second = some (.folder isOpen) := by
      rw [← h, markAt_cons, List.find?_cons_of_pos (by simp [name])]
      rfl
    obtain ⟨front, entry, back, rfl, hname, hmark⟩ := exists_of_markAt hplace
    obtain ⟨inner, rfl⟩ : ∃ inner, entry = .folder n inner isOpen := by
      cases entry with
      | file f => simp [mark] at hmark
      | folder n' inner isOpen' => simp_all [mark, name]
    obtain ⟨hinner, hrest⟩ := h.split hfirst hsecond rfl
    have hdistinct : Distinct inner :=
      (eachLevel_iff.1 hsecond).2 n inner isOpen (by simp)
    exact (Reordered.folder n isOpen (ihc hfirst.inside hdistinct hinner)
      (ihr hfirst.tail hsecond.without.1 hrest)).trans (.middle _ front back)

variable {first second : List Entry}

theorem SameMarks.isObstructed_eq (h : SameMarks first second) (way : List String) :
    isObstructed way first = isObstructed way second :=
  isObstructed_congr fun b f _ => by rw [h b]

/-- The root has no name, so `withFile` puts a file there as under the empty name. -/
theorem withFile_root (tree : List Entry) (f : File) :
    withFile tree .root f = withFile tree ⟨[""]⟩ f := rfl

/-- `withFile` finds room in both of two trees with `SameMarks` or in none, and leaves
`SameMarks`. -/
theorem SameMarks.withFile (h : SameMarks first second) (p : Path) (f : File) :
    (withFile first p f).2 = (withFile second p f).2 ∧
      SameMarks (withFile first p f).1 (withFile second p f).1 := by
  suffices hproper : ∀ p : Path, p.segments ≠ [] →
      (OverlayShell.withFile first p f).2 = (OverlayShell.withFile second p f).2 ∧
        SameMarks (OverlayShell.withFile first p f).1 (OverlayShell.withFile second p f).1 by
    by_cases hroot : p.segments = []
    · obtain rfl : p = .root := Path.segments_injective hroot
      rw [withFile_root, withFile_root]
      exact hproper ⟨[""]⟩ (by simp)
    · exact hproper p hroot
  intro p hp
  have hroom : (OverlayShell.withFile first p f).2 = (OverlayShell.withFile second p f).2 := by
    rw [Bool.eq_iff_iff, snd_withFile_iff hp, snd_withFile_iff hp, h.isObstructed_eq, HasFolder,
      HasFolder, h p.segments]
  refine ⟨hroom, fun way => ?_⟩
  rw [markAt_withFile hp, markAt_withFile hp, hroom, h.isObstructed_eq, h way]

end Entry

/-! ## 3. The merge -/

/-- `withFolders` over the same folders in another order leaves `SameMarks`. -/
theorem sameMarks_withFolders (j : Journal) {first second : List Path}
    (hsame : ∀ p, p ∈ first ↔ p ∈ second) (tree : List Entry) :
    SameMarks (withFolders j first tree) (withFolders j second tree) := by
  intro way
  rw [markAt_withFolders, markAt_withFolders]
  simp only [hsame]

namespace Placement

variable {j : Journal} {P Q : Placement}

/-- The files that `place` finds room for are the same over trees with `SameMarks`. -/
theorem run_sameMarks (entries : List (Path × File)) (h : SameMarks P.tree Q.tree)
    (hplaced : P.placed = Q.placed) :
    SameMarks (entries.foldl (place j) P).tree (entries.foldl (place j) Q).tree ∧
      (entries.foldl (place j) P).placed = (entries.foldl (place j) Q).placed := by
  induction entries generalizing P Q with
  | nil => exact ⟨h, hplaced⟩
  | cons entry rest ih =>
    obtain ⟨path, file⟩ := entry
    rw [List.foldl_cons, List.foldl_cons]
    cases hdel : j.isDeleted path with
    | true =>
      rw [place_of_isDeleted hdel, place_of_isDeleted hdel]
      exact ih h hplaced
    | false =>
      obtain ⟨hroom, hmarks⟩ := h.withFile path (j.edited path file)
      refine ih ?_ ?_
      · rwa [place_tree P file hdel, place_tree Q file hdel]
      · rw [place_placed P file hdel, place_placed Q file hdel, hroom, hplaced]

theorem distinct_run (entries : List (Path × File)) (h : Distinct P.tree) :
    Distinct (entries.foldl (place j) P).tree := by
  induction entries generalizing P with
  | nil => exact h
  | cons entry rest ih =>
    obtain ⟨path, file⟩ := entry
    refine ih ?_
    cases hdel : j.isDeleted path with
    | true => rwa [place_of_isDeleted hdel]
    | false =>
      rw [place_tree P file hdel]
      by_cases hroot : path.segments = []
      · obtain rfl : path = .root := Path.segments_injective hroot
        rw [withFile_root]
        exact h.withFile (by simp) _
      · exact h.withFile hroot _

end Placement

theorem distinct_mergeInOrder {base : List Entry} (hbase : Distinct base) (folders : List Path)
    (j : Journal) : Distinct (mergeInOrder folders base j).tree :=
  Placement.distinct_run _ ((hbase.survivors j .root).withFolders j folders)

/-- **The order of the created folders is not seen.** Over a `Distinct` base, let `first` and
`second` list the folders of any journal `j`, each in any order, by depth or not. `mergeInOrder`
gives the same flat list in the same order for both, `marks` that are a permutation, and `Reordered`
trees. -/
theorem merge_in_any_order {base : List Entry} (hbase : Distinct base) (j : Journal)
    {first second : List Path} (hfirst : ∀ p, p ∈ first ↔ p ∈ j.folders)
    (hsecond : ∀ p, p ∈ second ↔ p ∈ j.folders) :
    let view := mergeInOrder first base j
    let other := mergeInOrder second base j
    view.files = other.files ∧ (marks .root view.tree).Perm (marks .root other.tree) ∧
      Reordered view.tree other.tree := by
  intro view other
  have hsame : ∀ p, p ∈ first ↔ p ∈ second := fun p => (hfirst p).trans (hsecond p).symm
  obtain ⟨hmarks, hplaced⟩ := Placement.run_sameMarks (j := j)
    (P := ⟨withFolders j first (survivors j .root base), []⟩)
    (Q := ⟨withFolders j second (survivors j .root base), []⟩) j.created.entries
    (sameMarks_withFolders j hsame _) rfl
  have hreordered : Reordered view.tree other.tree :=
    .of_sameMarks (distinct_mergeInOrder hbase first j) (distinct_mergeInOrder hbase second j)
      hmarks
  refine ⟨?_, hreordered.perm_marks .root, hreordered⟩
  -- The flat list reads the placed files alone, and what survives of the base.
  have hlisting : (placement first base j).listing (survivors j .root base) =
      (placement second base j).listing (survivors j .root base) := by
    unfold Placement.listing Placement.paths
    rw [show (placement first base j).placed = (placement second base j).placed from hplaced]
  show (mergeInOrder first base j).files = (mergeInOrder second base j).files
  rw [mergeInOrder_files, mergeInOrder_files, hlisting]

/-- Two folders of one depth come in either order; a third one finds a file in its way in both. -/
theorem merge_in_any_order_siblings :
    let base : List Entry := [.file ⟨"c", "markdown", "z", false⟩]
    let j := Journal.after [.addFolder ⟨["a"]⟩, .addFolder ⟨["b"]⟩, .addFolder ⟨["c", "d"]⟩,
      .create ⟨["b", "x"]⟩ ⟨"b/x", "markdown", "y", true⟩]
    let view := mergeInOrder [⟨["a"]⟩, ⟨["b"]⟩, ⟨["c", "d"]⟩] base j
    let other := mergeInOrder [⟨["b"]⟩, ⟨["a"]⟩, ⟨["c", "d"]⟩] base j
    Distinct base ∧ (∀ p, p ∈ [⟨["a"]⟩, ⟨["b"]⟩, ⟨["c", "d"]⟩] ↔ p ∈ j.folders) ∧
      (∀ p, p ∈ [⟨["b"]⟩, ⟨["a"]⟩, ⟨["c", "d"]⟩] ↔ p ∈ j.folders) ∧
      view.tree.map name = ["c", "a", "b"] ∧ other.tree.map name = ["c", "b", "a"] ∧
      view.files = other.files ∧ Reordered view.tree other.tree := by
  intro base j view other
  have hfolders : j.folders = [⟨["a"]⟩, ⟨["b"]⟩, ⟨["c", "d"]⟩] := by decide +kernel
  have hfirst : ∀ p, p ∈ [⟨["a"]⟩, ⟨["b"]⟩, ⟨["c", "d"]⟩] ↔ p ∈ j.folders := fun p => by
    rw [hfolders]
  have hsecond : ∀ p, p ∈ [⟨["b"]⟩, ⟨["a"]⟩, ⟨["c", "d"]⟩] ↔ p ∈ j.folders := fun p => by
    rw [hfolders]
    exact (List.Perm.swap _ _ _).mem_iff
  have hbase : Distinct base := by decide
  obtain ⟨hfiles, -, htrees⟩ := merge_in_any_order hbase j hfirst hsecond
  exact ⟨hbase, hfirst, hsecond, by decide +kernel, by decide +kernel, hfiles, htrees⟩

end OverlayShell
