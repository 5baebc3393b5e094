import OverlayShell.Overlay.Merge
import OverlayShell.Proofs.Level

/-!
# What survives of the base

A tombstone hides its own place and everything below it. Of the base tree there remains what no
tombstone hides, each file with its edited content, in the order in which the base has it.
-/

namespace OverlayShell

/-! ## 1. Tombstones and edits -/

namespace Journal

/-- A tombstone stands on a way that starts in the folder `base`, or at its end. -/
def hidesFrom (j : Journal) (base : Path) : List String → Bool
  | [] => false
  | segment :: rest => j.isDeleted (base.child segment) || j.hidesFrom (base.child segment) rest

/-- A tombstone stands at `p` or on the way to it. -/
def hides (j : Journal) (p : Path) : Bool := j.hidesFrom .root p.segments

theorem hidesFrom_iff {j : Journal} {base : Path} {way : List String} :
    j.hidesFrom base way = true ↔
      ∃ b, b ≠ [] ∧ b <+: way ∧ j.isDeleted ⟨base.segments ++ b⟩ = true := by
  induction way generalizing base with
  | nil =>
    simp only [hidesFrom, Bool.false_eq_true, false_iff]
    rintro ⟨b, hne, hb, -⟩
    exact hne (List.prefix_nil.1 hb)
  | cons s rest ih =>
    rw [hidesFrom, Bool.or_eq_true, ih]
    -- The tombstone stands at the first place of the way, or further on it.
    constructor
    · rintro (h | ⟨b, hne, hb, h⟩)
      · exact ⟨[s], by simp, by simp, h⟩
      · exact ⟨s :: b, by simp, List.cons_prefix_cons.2 ⟨rfl, hb⟩, by simpa [Path.child] using h⟩
    · rintro ⟨b, hne, hb, h⟩
      rcases List.prefix_cons_iff.1 hb with rfl | ⟨c, rfl, hc⟩
      · exact absurd rfl hne
      · by_cases hnil : c = []
        · left
          simpa [hnil, Path.child] using h
        · right
          exact ⟨c, hnil, hc, by simpa [Path.child] using h⟩

theorem hides_iff {j : Journal} {p : Path} :
    j.hides p = true ↔ ∃ b, b ≠ [] ∧ b <+: p.segments ∧ j.isDeleted ⟨b⟩ = true := by
  simp [hides, hidesFrom_iff, Path.root]

theorem hides_of_isDeleted {j : Journal} {p : Path} (hp : p.segments ≠ [])
    (h : j.isDeleted p = true) : j.hides p = true :=
  hides_iff.2 ⟨p.segments, hp, List.prefix_rfl, h⟩

/-- What stands at `p` once the edits are made. -/
def editedMark (j : Journal) (p : Path) : Mark → Mark
  | .file f => .file (j.edited p f)
  | .folder isOpen => .folder isOpen

/-- `edited` gives the content of `modified`, and leaves the file its own where there is none. -/
theorem edited_eq (j : Journal) (p : Path) (f : File) :
    j.edited p f = { f with content := (j.modified.get? p).getD f.content } := by
  unfold edited
  cases j.modified.get? p <;> rfl

@[simp] theorem edited_name (j : Journal) (p : Path) (f : File) : (j.edited p f).name = f.name := by
  unfold edited
  split <;> rfl

theorem edited_rename (j : Journal) (p : Path) (f : File) (name : String) :
    j.edited p { f with name } = { j.edited p f with name } := by
  unfold edited
  split <;> rfl

end Journal

namespace Entry

variable (j : Journal)

/-! ## 2. The surviving tree -/

theorem survivors_cons (base : Path) (entry : Entry) (rest : List Entry) :
    survivors j base (entry :: rest) = entry.surviving j base ++ survivors j base rest := rfl

theorem surviving_of_isDeleted {base : Path} {entry : Entry}
    (h : j.isDeleted (base.child entry.name) = true) : entry.surviving j base = [] := by
  cases entry <;> simp_all [surviving, name]

theorem surviving_file {base : Path} {f : File} (h : j.isDeleted (base.child f.name) = false) :
    (Entry.file f).surviving j base = [.file (j.edited (base.child f.name) f)] := by
  simp [surviving, h]

theorem surviving_folder {base : Path} {n : String} {children : List Entry} {isOpen : Bool}
    (h : j.isDeleted (base.child n) = false) :
    (Entry.folder n children isOpen).surviving j base =
      [.folder n (survivors j (base.child n) children) isOpen] := by
  simp [surviving, h]

theorem names_surviving (base : Path) (entry : Entry) :
    (entry.surviving j base).map name =
      if j.isDeleted (base.child entry.name) then [] else [entry.name] := by
  cases entry with
  | file f => by_cases h : j.isDeleted (base.child f.name) <;> simp [surviving, name, h]
  | folder n children isOpen =>
    by_cases h : j.isDeleted (base.child n) <;> simp [surviving, name, h]

theorem find?_survivors (base : Path) (entries : List Entry) (s : String) :
    (survivors j base entries).find? (·.name = s) =
      (entries.find? (·.name = s)).bind fun entry => (entry.surviving j base).head? := by
  induction entries with
  | nil => rfl
  | cons entry rest ih =>
    have hnames := names_surviving j base entry
    rw [survivors_cons, List.find?_append, ih]
    by_cases hs : entry.name = s
    · rw [List.find?_cons_of_pos (by simpa using hs), Option.bind_some]
      by_cases hdel : j.isDeleted (base.child entry.name) = true
      · -- Every later sibling of that name lies under the same tombstone.
        rw [surviving_of_isDeleted j hdel]
        simp only [List.find?_nil, Option.none_or, List.head?_nil]
        cases hrest : rest.find? (·.name = s) with
        | none => rfl
        | some other =>
          have hother : other.name = s := by simpa using List.find?_some hrest
          rw [Option.bind_some, surviving_of_isDeleted j (by rw [hother, ← hs]; exact hdel)]
          rfl
      · rw [if_neg hdel] at hnames
        obtain ⟨kept, hkept, hname⟩ := List.map_eq_singleton_iff.1 hnames
        simp [hkept, hname, hs]
    · -- Another entry of the name is found in the rest, whether this one survives or not.
      rw [List.find?_cons_of_neg (by simpa using hs)]
      by_cases hdel : j.isDeleted (base.child entry.name) = true
      · rw [surviving_of_isDeleted j hdel]
        simp
      · rw [if_neg hdel] at hnames
        obtain ⟨kept, hkept, hname⟩ := List.map_eq_singleton_iff.1 hnames
        simp [hkept, hname, hs]

/-- **Tombstones hide and edits show.** `survivors` has nothing where `hidesFrom` holds, and
otherwise what the tree has there, edited. -/
theorem markAt_survivors (base : Path) (entries : List Entry) (way : List String) :
    markAt way (survivors j base entries) =
      if j.hidesFrom base way then none
      else (markAt way entries).map (j.editedMark ⟨base.segments ++ way⟩) := by
  -- By induction on the way: the tombstones are met one by one, from the folder `base` on.
  induction way generalizing base entries with
  | nil => simp
  | cons s rest ih =>
    rw [markAt_cons, markAt_cons, find?_survivors, Journal.hidesFrom]
    cases hs : entries.find? (·.name = s) with
    | none => simp
    | some entry =>
      obtain rfl : entry.name = s := by simpa using List.find?_some hs
      simp only [Option.bind_some]
      by_cases hdel : j.isDeleted (base.child entry.name) = true
      · simp [surviving_of_isDeleted j hdel, hdel]
      · have hfalse : j.isDeleted (base.child entry.name) = false := by simpa using hdel
        cases entry with
        | file f =>
          rw [surviving_file j hfalse]
          cases rest with
          | nil =>
            rw [if_neg (by simpa [Journal.hidesFrom] using hdel)]
            rfl
          -- Nothing stands below a file, before or after.
          | cons t rest => simp
        | folder n children isOpen =>
          rw [surviving_folder j (n := n) hfalse]
          cases rest with
          | nil =>
            rw [if_neg (by simpa [Journal.hidesFrom] using hdel)]
            rfl
          | cons t rest =>
            have hway : (base.child n).segments ++ t :: rest = base.segments ++ n :: t :: rest := by
              simp [Path.child]
            have hgo := ih (base.child n) children
            rw [hway] at hgo
            rw [List.head?_cons, Option.bind_some, markWithin_folder, markWithin_folder, hfalse,
              Bool.false_or]
            exact hgo

theorem markAt_survivors_root (base : List Entry) (way : List String) :
    markAt way (survivors j .root base) =
      if j.hides ⟨way⟩ then none else (markAt way base).map (j.editedMark ⟨way⟩) :=
  markAt_survivors j .root base way

theorem hasFile_survivors {way : List String} (base : List Entry) :
    HasFile way (survivors j .root base) ↔ j.hides ⟨way⟩ = false ∧ HasFile way base := by
  rw [HasFile, HasFile, markAt_survivors_root]
  rcases markAt way base with _ | f | isOpen <;> cases j.hides ⟨way⟩ <;> simp [Journal.editedMark]

theorem hasFolder_survivors {way : List String} (base : List Entry) :
    HasFolder way (survivors j .root base) ↔ j.hides ⟨way⟩ = false ∧ HasFolder way base := by
  rw [HasFolder, HasFolder, markAt_survivors_root]
  rcases markAt way base with _ | f | isOpen <;> cases j.hides ⟨way⟩ <;> simp [Journal.editedMark]

theorem survivors_empty (base : Path) (entries : List Entry) :
    survivors .empty base entries = entries := by
  induction entries using forest_induction generalizing base with
  | nil => rfl
  | file f rest ih =>
    rw [survivors_cons, ih]
    rfl
  | folder name children isOpen rest ihc ihr =>
    rw [survivors_cons, surviving, ihc, ihr]
    rfl

/-! ## 3. The surviving tree is tidy -/

theorem names_survivors_sublist (base : Path) (entries : List Entry) :
    ((survivors j base entries).map name).Sublist (entries.map name) := by
  induction entries with
  | nil => simp [survivors]
  | cons entry rest ih =>
    rw [survivors_cons, List.map_append, names_surviving, List.map_cons]
    split
    · exact ih.cons _
    · exact ih.cons_cons _

theorem eachInsideAll_append {P : List String → Prop} (front back : List Entry) :
    EachInsideAll P (front ++ back) ↔ EachInsideAll P front ∧ EachInsideAll P back := by
  induction front with
  | nil => simp [EachInsideAll]
  | cons entry rest ih => simp [EachInsideAll, ih, and_assoc]

/-- `EachLevel` goes over to `survivors`, if `P` does to the parts of a list. -/
theorem EachLevel.survivors {P : List String → Prop} {entries : List Entry}
    (hsub : ∀ {a b : List String}, a.Sublist b → P b → P a) (h : EachLevel P entries)
    (base : Path) : EachLevel P (survivors j base entries) := by
  refine ⟨hsub (names_survivors_sublist j base entries) h.1, ?_⟩
  -- The names in the list itself are done; what is left concerns the folders that survive.
  replace h := h.2
  induction entries using forest_induction generalizing base with
  | nil => trivial
  | file f rest ih =>
    rw [survivors_cons, eachInsideAll_append]
    refine ⟨?_, ih base h.2⟩
    by_cases hdel : j.isDeleted (base.child f.name) = true
    · rw [surviving_of_isDeleted j hdel]
      trivial
    · rw [surviving_file j (by simpa using hdel)]
      exact ⟨trivial, trivial⟩
  | folder n children isOpen rest ihc ihr =>
    obtain ⟨⟨hnames, hchildren⟩, hrest⟩ := h
    rw [survivors_cons, eachInsideAll_append]
    refine ⟨?_, ihr base hrest⟩
    by_cases hdel : j.isDeleted (base.child n) = true
    · rw [surviving_of_isDeleted j hdel]
      trivial
    · rw [surviving_folder j (by simpa using hdel)]
      exact ⟨⟨hsub (names_survivors_sublist j _ children) hnames, ihc _ hchildren⟩, trivial⟩

theorem Tidy.survivors {entries : List Entry} (h : Tidy entries) (base : Path) :
    Tidy (survivors j base entries) :=
  EachLevel.survivors j (fun hsub hnames =>
    ⟨hnames.1.sublist hsub, fun s hs => hnames.2 s (hsub.subset hs)⟩) h base

theorem Distinct.survivors {entries : List Entry} (h : Distinct entries) (base : Path) :
    Distinct (survivors j base entries) :=
  EachLevel.survivors j (fun hsub hnames => hnames.sublist hsub) h base

/-! ## 4. The files of the surviving tree -/

/-- What the flat list has for an entry that `walkAll` lists. -/
def keyed : Path × Entry → Option (Path × File)
  | (path, .file f) => some (path, { f with name := path.key })
  | (_, .folder _ _ _) => none

theorem keyedFiles_eq (tree : List Entry) :
    keyedFiles tree = (walkAll .root tree).filterMap keyed := by
  unfold keyedFiles
  congr 1

theorem exists_way_of_mem_walkAll {base p : Path} {entries : List Entry} {entry : Entry}
    (h : (p, entry) ∈ walkAll base entries) :
    ∃ s way, p.segments = base.segments ++ s :: way := by
  induction entries using forest_induction generalizing base with
  | nil => simp [walkAll] at h
  | file f rest ih =>
    simp only [walkAll, walk, List.singleton_append, List.mem_cons] at h
    rcases h with h | h
    · obtain ⟨rfl, -⟩ := Prod.mk.inj h
      exact ⟨f.name, [], rfl⟩
    · exact ih h
  | folder n children isOpen rest ihc ihr =>
    simp only [walkAll, walk, List.cons_append, List.mem_cons, List.mem_append] at h
    rcases h with h | h | h
    · obtain ⟨rfl, -⟩ := Prod.mk.inj h
      exact ⟨n, [], rfl⟩
    · obtain ⟨s, way, hp⟩ := ihc h
      exact ⟨n, s :: way, by rw [hp]; simp [Path.child]⟩
    · exact ihr h

/-- The way from `base` to a path below it. -/
def wayFrom (base p : Path) : List String := p.segments.drop base.segments.length

theorem wayFrom_eq {base p : Path} {way : List String} (h : p.segments = base.segments ++ way) :
    wayFrom base p = way := by
  simp [wayFrom, h]

/-- Below a folder without tombstone the tombstones further down decide what is hidden. -/
theorem hidesFrom_below {base : Path} {n : String} {children : List Entry}
    (hdel : j.isDeleted (base.child n) = false) {p : Path} {f : File}
    (hp : (p, f) ∈ (walkAll (base.child n) children).filterMap keyed) :
    j.hidesFrom base (wayFrom base p) = j.hidesFrom (base.child n) (wayFrom (base.child n) p) := by
  obtain ⟨⟨q, entry⟩, hq, hkeyed⟩ := List.mem_filterMap.1 hp
  obtain rfl : q = p := by cases entry <;> simp_all [keyed]
  obtain ⟨s, way, hway⟩ := exists_way_of_mem_walkAll hq
  have hbase : q.segments = base.segments ++ n :: s :: way := by rw [hway]; simp [Path.child]
  rw [wayFrom_eq hbase, wayFrom_eq hway, Journal.hidesFrom, hdel, Bool.false_or]

theorem hidesFrom_of_isDeleted {base : Path} {n : String} {children : List Entry}
    (hdel : j.isDeleted (base.child n) = true) {p : Path} {f : File}
    (hp : (p, f) ∈ (walkAll (base.child n) children).filterMap keyed) :
    j.hidesFrom base (wayFrom base p) = true := by
  obtain ⟨⟨q, entry⟩, hq, hkeyed⟩ := List.mem_filterMap.1 hp
  obtain rfl : q = p := by cases entry <;> simp_all [keyed]
  obtain ⟨s, way, hway⟩ := exists_way_of_mem_walkAll hq
  have hbase : q.segments = base.segments ++ n :: s :: way := by rw [hway]; simp [Path.child]
  rw [wayFrom_eq hbase, Journal.hidesFrom, hdel, Bool.true_or]

theorem filterMap_keyed_survivors (base : Path) (entries : List Entry) :
    (walkAll base (survivors j base entries)).filterMap keyed =
      (((walkAll base entries).filterMap keyed).filter
        fun entry => !j.hidesFrom base (wayFrom base entry.1)).map
        fun entry => (entry.1, j.edited entry.1 entry.2) := by
  -- By induction over the forest: an entry under a tombstone is dropped with all below it, and the
  -- filter drops the same files because their ways go through the tombstone.
  induction entries using forest_induction generalizing base with
  | nil => rfl
  | file f rest ih =>
    have hway : wayFrom base (base.child f.name) = [f.name] := wayFrom_eq rfl
    rw [survivors_cons]
    by_cases hdel : j.isDeleted (base.child f.name) = true
    · rw [surviving_of_isDeleted j hdel]
      simp [walkAll, walk, keyed, hway, Journal.hidesFrom, hdel, ih]
    · rw [Bool.not_eq_true] at hdel
      rw [surviving_file j hdel]
      simp [walkAll, walk, keyed, hway, Journal.hidesFrom, hdel, ih, Journal.edited_rename]
  | folder n children isOpen rest ihc ihr =>
    rw [survivors_cons]
    by_cases hdel : j.isDeleted (base.child n) = true
    · rw [surviving_of_isDeleted j hdel]
      have hnone : ((walkAll (base.child n) children).filterMap keyed).filter
          (fun entry => !j.hidesFrom base (wayFrom base entry.1)) = [] := by
        rw [List.filter_eq_nil_iff]
        intro entry hentry
        simp [hidesFrom_of_isDeleted j hdel hentry]
      simp [walkAll, walk, List.filterMap_cons, keyed, ihr, hnone]
    · rw [Bool.not_eq_true] at hdel
      rw [surviving_folder j hdel]
      have hinner : ((walkAll (base.child n) children).filterMap keyed).filter
          (fun entry => !j.hidesFrom base (wayFrom base entry.1)) =
          ((walkAll (base.child n) children).filterMap keyed).filter
          (fun entry => !j.hidesFrom (base.child n) (wayFrom (base.child n) entry.1)) := by
        apply List.filter_congr
        intro entry hentry
        rw [hidesFrom_below j hdel hentry]
      simp [walkAll, walk, List.filterMap_cons, keyed, ihr, ihc, hinner]

/-- **The surviving files, in the order of the base.** They are the `keyedFiles` of the base that
nothing `hides`, each with its edited content. -/
theorem keyedFiles_survivors (base : List Entry) :
    keyedFiles (survivors j .root base) =
      ((keyedFiles base).filter fun entry => !j.hides entry.1).map
        fun entry => (entry.1, j.edited entry.1 entry.2) := by
  rw [keyedFiles_eq, keyedFiles_eq, filterMap_keyed_survivors]
  simp [wayFrom, Path.root, Journal.hides]

/-- `keyedFiles` has a file for each place where `markAt` finds one, named by its key. -/
theorem mem_keyedFiles_iff {tree : List Entry} (h : Distinct tree) {p : Path} {g : File} :
    (p, g) ∈ keyedFiles tree ↔
      ∃ f, markAt p.segments tree = some (.file f) ∧ g = { f with name := p.key } := by
  rw [keyedFiles_eq, List.mem_filterMap]
  constructor
  · rintro ⟨⟨q, entry⟩, hq, hkeyed⟩
    cases entry with
    | folder n children isOpen => simp [keyed] at hkeyed
    | file f =>
      obtain ⟨rfl, rfl⟩ := Prod.mk.inj (Option.some.inj hkeyed)
      obtain ⟨way, hway, hfind⟩ := (mem_walkAll_iff h _ _ _).1 hq
      rw [Path.root, List.nil_append] at hway
      exact ⟨f, by simp [markAt, hway, hfind, mark], rfl⟩
  · rintro ⟨f, hf, rfl⟩
    obtain ⟨entry, hfind, hmark⟩ := Option.map_eq_some_iff.1 hf
    cases entry with
    | folder n children isOpen => simp [mark] at hmark
    | file f' =>
      obtain rfl : f' = f := by simpa [mark] using hmark
      exact ⟨(p, .file f'), (mem_walkAll_iff h _ _ _).2 ⟨_, rfl, hfind⟩, rfl⟩

theorem nodup_keyedFiles {tree : List Entry} (h : Distinct tree) :
    ((keyedFiles tree).map Prod.fst).Nodup := by
  refine (nodup_walkAll h .root).sublist ?_
  rw [keyedFiles_eq]
  induction walkAll .root tree with
  | nil => simp
  | cons entry rest ih =>
    obtain ⟨path, entry⟩ := entry
    cases entry with
    | file f => simpa [keyed] using ih
    | folder n children isOpen => simpa [List.filterMap_cons, keyed] using ih.cons path

end Entry

end OverlayShell
