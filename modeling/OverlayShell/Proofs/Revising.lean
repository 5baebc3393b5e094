import OverlayShell.Proofs.FlatList

/-!
# Revisions

A revision gives every content a new one, by its path. Where an entry is placed depends on names and
kinds alone, so it makes no difference whether contents are revised before the merge or after it. An
edit is a revision at one path; the view of the edited journal is therefore the earlier view with
one content replaced, and taking a first edit back restores it.
-/

namespace OverlayShell

/-- What becomes of the content of a file, by its path. -/
abbrev Revision := Path → String → String

/-- The revision that replaces the content at `p` alone. -/
def Revision.replacing (p : Path) (content : String) : Revision :=
  fun q old => if q = p then content else old

def File.revise (c : Revision) (p : Path) (f : File) : File := { f with content := c p f.content }

namespace Entry

mutual

def revise (c : Revision) (p : Path) : Entry → Entry
  | .file f => .file (f.revise c p)
  | .folder name children isOpen => .folder name (reviseAll c p children) isOpen

def reviseAll (c : Revision) (base : Path) : List Entry → List Entry
  | [] => []
  | entry :: rest => entry.revise c (base.child entry.name) :: reviseAll c base rest

end

def Attempt.revise (c : Revision) (base : Path) (a : Attempt) : Attempt :=
  (reviseAll c base a.1, a.2)

end Entry

open Entry

def View.revise (c : Revision) (v : View) : View where
  tree := reviseAll c .root v.tree
  files := v.files.map fun f => f.revise c f.path

/-! ## 1. Revising entries -/

namespace Entry

variable (c : Revision)

@[simp] theorem name_revise (p : Path) (entry : Entry) : (entry.revise c p).name = entry.name := by
  cases entry <;> rfl

theorem reviseAll_append (base : Path) (front back : List Entry) :
    reviseAll c base (front ++ back) = reviseAll c base front ++ reviseAll c base back := by
  induction front with
  | nil => rfl
  | cons entry rest ih => rw [List.cons_append, reviseAll, reviseAll, ih, List.cons_append]

theorem walkAll_reviseAll (base : Path) (entries : List Entry) :
    walkAll base (reviseAll c base entries) =
      (walkAll base entries).map fun (p, entry) => (p, entry.revise c p) := by
  -- Below a folder the walk goes on from another base, so that is kept general.
  induction entries using forest_induction generalizing base with
  | nil => rfl
  | file f rest ih =>
    rw [reviseAll, walkAll, walkAll, ih, List.map_append]
    rfl
  | folder n children isOpen rest ihc ihr =>
    rw [reviseAll, walkAll, walkAll, ihr, List.map_append]
    simp only [revise, walk, name, ihc, List.map_cons]

theorem keyedFiles_reviseAll (tree : List Entry) :
    keyedFiles (reviseAll c .root tree) =
      (keyedFiles tree).map fun (p, f) => (p, f.revise c p) := by
  have hkeyed : ∀ entry : Path × Entry, keyed (entry.1, entry.2.revise c entry.1) =
      (keyed entry).map fun (p, f) => (p, f.revise c p) := by
    rintro ⟨p, entry⟩
    cases entry <;> rfl
  rw [keyedFiles_eq, keyedFiles_eq, walkAll_reviseAll, List.filterMap_map, List.map_filterMap]
  exact List.filterMap_congr fun entry _ => hkeyed entry

/-! ## 2. Placing revised entries -/

/-- `atName` and `reviseAll` commute, if the changes do. -/
theorem atName_reviseAll {base : Path} {s : String} {fresh fresh' : Attempt}
    {change change' : Entry → Attempt} (hfresh : fresh' = fresh.revise c base)
    (hchange : ∀ entry : Entry, entry.name = s →
      change' (entry.revise c (base.child s)) = (change entry).revise c base)
    (entries : List Entry) :
    atName s fresh' change' (reviseAll c base entries) =
      Attempt.revise c base (atName s fresh change entries) := by
  induction entries with
  | nil => exact hfresh
  | cons entry rest ih =>
    -- A revised entry has its name, so both lists are changed at the same entry.
    rw [reviseAll, atName, atName, name_revise]
    by_cases hs : entry.name = s
    · rw [if_pos hs, if_pos hs, hs, hchange entry hs]
      simp only [Attempt.revise, reviseAll_append]
    · rw [if_neg hs, if_neg hs, ih]
      rfl

/-- `inFolder` and `reviseAll` commute, if the changes do at the end of the way. -/
theorem inFolder_reviseAll {change change' : List Entry → Attempt} (way : List String)
    (base : Path) (hchange : ∀ children, change' (reviseAll c ⟨base.segments ++ way⟩ children) =
      Attempt.revise c ⟨base.segments ++ way⟩ (change children)) (entries : List Entry) :
    inFolder change' way (reviseAll c base entries) =
      Attempt.revise c base (inFolder change way entries) := by
  induction way generalizing base entries with
  | nil =>
    rw [List.append_nil] at hchange
    exact hchange entries
  | cons s rest ih =>
    -- The folder of the first name has the rest of the way below its own path.
    have hrest := ih (base.child s) (by simpa [Path.child] using hchange)
    rw [inFolder_cons, inFolder_cons]
    refine atName_reviseAll c ?_ (fun entry hs => ?_) entries
    · have hnew := hrest []
      rw [reviseAll] at hnew
      rw [hnew]
      rfl
    · cases entry with
      | file f =>
        obtain rfl : f.name = s := hs
        rfl
      | folder n children isOpen =>
        obtain rfl : n = s := hs
        simp only [revise, enter, hrest children, Attempt.revise, reviseAll, name]

/-- `placeFile` and `reviseAll` commute. -/
theorem placeFile_reviseAll (base : Path) (f : File) (entries : List Entry) :
    placeFile (f.revise c (base.child f.name)) (reviseAll c base entries) =
      Attempt.revise c base (placeFile f entries) := by
  have hfresh : (([.file (f.revise c (base.child f.name))], true) : Attempt) =
      Attempt.revise c base ([.file f], true) := rfl
  rw [placeFile_eq, placeFile_eq]
  refine atName_reviseAll c hfresh (fun entry hs => ?_) entries
  cases entry with
  | file g => rfl
  | folder n children isOpen =>
    obtain rfl : n = f.name := hs
    rfl

end Entry

variable (c : Revision)

theorem withFolder_reviseAll (tree : List Entry) (p : Path) :
    withFolder (reviseAll c .root tree) p = reviseAll c .root (withFolder tree p) :=
  congrArg Prod.fst (inFolder_reviseAll c p.segments .root (fun _ => rfl) tree)

theorem withFile_reviseAll (tree : List Entry) {p : Path} (hp : p.segments ≠ []) (f : File) :
    withFile (reviseAll c .root tree) p (f.revise c p) =
      Attempt.revise c .root (withFile tree p f) := by
  refine inFolder_reviseAll c p.parent.segments .root (fun children => ?_) tree
  -- Among its siblings the file stands at the path that is made of their folder's and its name.
  have hpath : (⟨Path.root.segments ++ p.parent.segments⟩ : Path).child p.name = p :=
    Path.segments_injective (Path.segments_eq_parent_name hp).symm
  have hplace := placeFile_reviseAll c ⟨Path.root.segments ++ p.parent.segments⟩
    { f with name := p.name } children
  rw [hpath] at hplace
  exact hplace

/-! ## 3. Journals that differ in their edits -/

/-- `j'` has the tombstones and creations of `j`, and its edits give the contents that `j` gives,
revised by `c`. -/
structure Journal.Revised (c : Revision) (j j' : Journal) : Prop where
  deleted : j'.isDeleted = j.isDeleted
  created : j'.created = j.created
  folders : j'.folders = j.folders
  edited : ∀ p f, j'.edited p f = (j.edited p f).revise c p

def Placement.revise (P : Placement) : Placement where
  tree := reviseAll c .root P.tree
  placed := P.placed.map fun (p, f) => (p, f.revise c p)

theorem Placement.listing_revise (kept : List Entry) (P : Placement) :
    (P.revise c).listing (reviseAll c .root kept) =
      (P.listing kept).map fun (p, f) => (p, f.revise c p) := by
  have hpaths : (P.revise c).paths = P.paths := by
    simp [Placement.paths, Placement.revise, Function.comp_def]
  unfold Placement.listing
  rw [hpaths, keyedFiles_reviseAll, List.filter_map, List.map_append]
  rfl

section Revised

variable {c} {j j' : Journal} (h : Journal.Revised c j j')

include h

theorem Journal.Revised.survivors (base : Path) (entries : List Entry) :
    Entry.survivors j' base entries = reviseAll c base (Entry.survivors j base entries) := by
  induction entries using forest_induction generalizing base with
  | nil => rfl
  | file f rest ih =>
    rw [survivors_cons, survivors_cons, reviseAll_append, ih, surviving, surviving, h.deleted,
      h.edited]
    split
    · rfl
    · simp only [reviseAll, Entry.revise, name, Journal.edited_name]
  | folder n children isOpen rest ihc ihr =>
    rw [survivors_cons, survivors_cons, reviseAll_append, ihr, surviving, surviving, h.deleted, ihc]
    split <;> rfl

theorem Journal.Revised.withFolders (folders : List Path) (tree : List Entry) :
    withFolders j' folders (reviseAll c .root tree) =
      reviseAll c .root (withFolders j folders tree) := by
  unfold OverlayShell.withFolders
  -- The two journals have the same tombstones, so they pass over the same folders.
  rw [h.deleted]
  induction folders.filter (!j.isDeleted ·) generalizing tree with
  | nil => rfl
  | cons p rest ih => rw [List.foldl_cons, List.foldl_cons, withFolder_reviseAll, ih]

theorem Journal.Revised.place {p : Path} (hp : p.segments ≠ []) (file : File) (P : Placement) :
    (P.revise c).place j' (p, file) = (P.place j (p, file)).revise c := by
  cases hdel : j.isDeleted p with
  | true =>
    have hdel' : j'.isDeleted p = true := by rw [h.deleted, hdel]
    rw [Placement.place_of_isDeleted hdel, Placement.place_of_isDeleted hdel']
  | false =>
    have hdel' : j'.isDeleted p = false := by rw [h.deleted, hdel]
    have hwith : withFile (P.revise c).tree p (j'.edited p file) =
        Attempt.revise c .root (withFile P.tree p (j.edited p file)) := by
      rw [h.edited]
      exact withFile_reviseAll c P.tree hp _
    have htree : ((P.revise c).place j' (p, file)).tree =
        reviseAll c .root (P.place j (p, file)).tree := by
      rw [Placement.place_tree _ _ hdel', Placement.place_tree _ _ hdel, hwith]
      rfl
    -- Whether there is room for the file does not depend on any content.
    have hplaced : ((P.revise c).place j' (p, file)).placed =
        (P.place j (p, file)).placed.map fun (p, f) => (p, f.revise c p) := by
      rw [Placement.place_placed _ _ hdel', Placement.place_placed _ _ hdel, hwith, h.edited,
        Attempt.revise]
      split
      · rw [List.map_append]
        rfl
      · rfl
    exact congrArg₂ Placement.mk htree hplaced

theorem Journal.Revised.run {entries : List (Path × File)}
    (hproper : ∀ p ∈ entries.map Prod.fst, p.Proper) (P : Placement) :
    entries.foldl (Placement.place j') (P.revise c) =
      (entries.foldl (Placement.place j) P).revise c := by
  induction entries generalizing P with
  | nil => rfl
  | cons entry rest ih =>
    obtain ⟨p, file⟩ := entry
    rw [List.foldl_cons, List.foldl_cons, h.place (hproper p (by simp)).1,
      ih fun q hq => hproper q (by simp [hq])]

theorem Journal.Revised.placement (hj : j.Sound) (folders : List Path) (base : List Entry) :
    placement folders base j' = (placement folders base j).revise c := by
  unfold OverlayShell.placement
  rw [h.created, h.survivors, h.withFolders, ← h.run hj.created]
  rfl

/-- **The merge of a revised journal** is `View.revise` of the earlier merge. -/
theorem Journal.Revised.merge {base : List Entry} (hbase : Tidy base) (hj : j.Sound) :
    merge base j' = (merge base j).revise c := by
  have hplacement := h.placement hj j.foldersByDepth base
  have hfolders : j'.foldersByDepth = j.foldersByDepth := by
    rw [foldersByDepth, foldersByDepth, h.folders]
  have hkept := (hbase.survivors j .root).distinct
  have htree : (OverlayShell.merge base j').tree = ((OverlayShell.merge base j).revise c).tree := by
    unfold OverlayShell.merge
    rw [hfolders, mergeInOrder_tree, hplacement]
    rfl
  have hfiles : (OverlayShell.merge base j').files =
      ((OverlayShell.merge base j).revise c).files := by
    unfold OverlayShell.merge View.revise
    rw [hfolders, mergeInOrder_files, mergeInOrder_files, hplacement, h.survivors,
      Placement.listing_revise, List.map_map, List.map_map]
    refine List.map_congr_left fun ⟨p, f⟩ hmem => ?_
    -- In the flat list the path of a file is told by its name.
    obtain ⟨hproper, hname⟩ := (consistent_merge hbase hj).of_mem_listing hkept hmem
    show f.revise c p = f.revise c f.path
    rw [File.path_of_key hname hproper.2]
  exact congrArg₂ View.mk htree hfiles

end Revised

/-! ## 4. Edits -/

namespace Journal

theorem edited_modify (j : Journal) (p q : Path) (content : String) (f : File) :
    (j.modify p content).edited q f = (j.edited q f).revise (.replacing p content) q := by
  have hmodified : (j.modify p content).modified = j.modified.put p content := rfl
  rw [edited_eq, edited_eq, hmodified, File.revise, Revision.replacing]
  by_cases h : q = p
  · rw [if_pos h, h, Bindings.get?_put]
    rfl
  · rw [if_neg h, Bindings.get?_put_of_ne _ _ h]

/-- `modify` is `Revised` by `replacing` at its path. -/
theorem revised_modify (j : Journal) (p : Path) (content : String) :
    Revised (.replacing p content) j (j.modify p content) where
  deleted := rfl
  created := rfl
  folders := rfl
  edited := fun q => edited_modify j p q content

/-- A first edit that `reset` takes back leaves no trace but in `version`. -/
theorem merge_modify_reset {j : Journal} {p : Path} (h : j.isModified p = false) (content : String)
    (base : List Entry) : merge base ((j.modify p content).reset p) = merge base j := by
  have hnew : p ∉ j.modified.keys := by
    rw [← Bindings.isSome_get?]
    exact Bool.eq_false_iff.1 h
  have hmodified : (j.modify p content).isModified p = true :=
    Bindings.isSome_get?.2 (Bindings.mem_keys_put.2 (.inl rfl))
  rw [reset, if_pos hmodified]
  -- A new edit comes last, so erasing it leaves the others in their order.
  refine merge_congr ?_ ?_ ?_ ?_ base
  · rfl
  · exact Bindings.erase_put hnew content
  · rfl
  · rfl

end Journal

/-- **An edit replaces one content.** After any `writes` about proper paths, the merge with one more
`modify` is that without it, revised by `replacing` at `p`: in tree and list, and nothing else
changed. If `p` had no edit before, `reset` restores the view. -/
theorem edit_replaces_one_content {base : List Entry} (hbase : Tidy base)
    {writes : List Journal.Write} (hwrites : ∀ write ∈ writes, write.path.Proper) (p : Path)
    (content : String) :
    let j := Journal.after writes
    merge base (j.modify p content) = (merge base j).revise (.replacing p content) ∧
      (j.isModified p = false → merge base ((j.modify p content).reset p) = merge base j) := by
  intro j
  have hj : j.Sound := Journal.sound_after hwrites
  exact ⟨(Journal.revised_modify j p content).merge hbase hj,
    fun hfirst => Journal.merge_modify_reset hfirst content base⟩

/-- A file that was created over one of the base is edited, and shown as before after a reset. -/
theorem edit_replaces_one_content_created :
    let base : List Entry := [.folder "a" [.file ⟨"b", "markdown", "x", false⟩] false]
    let j := Journal.after [.create ⟨["a", "b"]⟩ ⟨"a/b", "json", "y", true⟩,
      .modify ⟨["c"]⟩ "other"]
    Tidy base ∧ j.isModified ⟨["a", "b"]⟩ = false ∧
      (merge base (j.modify ⟨["a", "b"]⟩ "z")).files = [⟨"a/b", "json", "z", true⟩] ∧
      merge base ((j.modify ⟨["a", "b"]⟩ "z").reset ⟨["a", "b"]⟩) = merge base j := by
  intro base j
  have hbase : Tidy base := by decide
  have hwrites : ∀ write ∈ ([.create ⟨["a", "b"]⟩ ⟨"a/b", "json", "y", true⟩,
      .modify ⟨["c"]⟩ "other"] : List Journal.Write), write.path.Proper := by decide
  have hfirst : j.isModified ⟨["a", "b"]⟩ = false := by decide +kernel
  obtain ⟨hedited, hreset⟩ := edit_replaces_one_content hbase hwrites ⟨["a", "b"]⟩ "z"
  refine ⟨hbase, hfirst, ?_, hreset hfirst⟩
  rw [show merge base (j.modify ⟨["a", "b"]⟩ "z") = _ from hedited]
  decide +kernel

end OverlayShell
