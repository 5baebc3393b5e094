import OverlayShell.Proofs.Mark

/-!
# Names at every level

A host's tree is tidy: at every level the names are distinct normal segments. Over such a tree the
walk and the look-up are two readings of one thing, since an entry is the first of its name.
-/

namespace OverlayShell

namespace Entry

/-! ## 1. A condition at every level -/

mutual

/-- `P` holds of the names in each folder at or below the entry. -/
def EachInside (P : List String → Prop) : Entry → Prop
  | .file _ => True
  | .folder _ children _ => P (children.map Entry.name) ∧ EachInsideAll P children

def EachInsideAll (P : List String → Prop) : List Entry → Prop
  | [] => True
  | entry :: rest => entry.EachInside P ∧ EachInsideAll P rest

end

/-- `P` holds of the names of `entries` and of those in each folder below. -/
def EachLevel (P : List String → Prop) (entries : List Entry) : Prop :=
  P (entries.map Entry.name) ∧ EachInsideAll P entries

mutual

def decideEachInside (P : List String → Prop) [DecidablePred P] :
    (entry : Entry) → Decidable (entry.EachInside P)
  | .file _ => .isTrue trivial
  | .folder _ children _ => @instDecidableAnd _ _ _ (decideEachInsideAll P children)

def decideEachInsideAll (P : List String → Prop) [DecidablePred P] :
    (entries : List Entry) → Decidable (EachInsideAll P entries)
  | [] => .isTrue trivial
  | entry :: rest => @instDecidableAnd _ _ (decideEachInside P entry) (decideEachInsideAll P rest)

end

instance (P : List String → Prop) [DecidablePred P] (entries : List Entry) :
    Decidable (EachLevel P entries) :=
  @instDecidableAnd _ _ _ (decideEachInsideAll P entries)

/-- Sibling names are pairwise distinct, in every folder. -/
def Distinct (entries : List Entry) : Prop := EachLevel List.Nodup entries

instance (entries : List Entry) : Decidable (Distinct entries) :=
  inferInstanceAs (Decidable (EachLevel _ entries))

/-- Sibling names are pairwise distinct and satisfy `Path.IsSegment`, in every folder. -/
def Tidy (entries : List Entry) : Prop :=
  EachLevel (fun names => names.Nodup ∧ ∀ s ∈ names, Path.IsSegment s) entries

instance (entries : List Entry) : Decidable (Tidy entries) :=
  inferInstanceAs (Decidable (EachLevel _ entries))

theorem eachInsideAll_iff {P : List String → Prop} {entries : List Entry} :
    EachInsideAll P entries ↔
      ∀ name children isOpen, .folder name children isOpen ∈ entries → EachLevel P children := by
  induction entries with
  | nil => simp [EachInsideAll]
  | cons entry rest ih =>
    rw [EachInsideAll, ih]
    constructor
    · rintro ⟨hentry, hrest⟩ name children isOpen hmem
      rcases List.mem_cons.1 hmem with rfl | hmem
      · exact hentry
      · exact hrest name children isOpen hmem
    · intro h
      -- Inside a file there are no names to look at.
      refine ⟨?_, fun name children isOpen hmem => h name children isOpen (by simp [hmem])⟩
      cases entry with
      | file f => simp [EachInside]
      | folder name children isOpen => exact h name children isOpen (by simp)

/-- `EachLevel` unfolded once: the names of the list, and the children of each folder in it. -/
theorem eachLevel_iff {P : List String → Prop} {entries : List Entry} :
    EachLevel P entries ↔ P (entries.map Entry.name) ∧
      ∀ name children isOpen, .folder name children isOpen ∈ entries → EachLevel P children := by
  rw [EachLevel, eachInsideAll_iff]

theorem EachInsideAll.mono {P Q : List String → Prop} (hPQ : ∀ names, P names → Q names)
    {entries : List Entry} (h : EachInsideAll P entries) : EachInsideAll Q entries := by
  induction entries using forest_induction with
  | nil => trivial
  | file f rest ih => exact ⟨trivial, ih h.2⟩
  | folder name children isOpen rest ihc ihr =>
    obtain ⟨⟨hnames, hchildren⟩, hrest⟩ := h
    exact ⟨⟨hPQ _ hnames, ihc hchildren⟩, ihr hrest⟩

theorem EachLevel.mono {P Q : List String → Prop} (hPQ : ∀ names, P names → Q names)
    {entries : List Entry} (h : EachLevel P entries) : EachLevel Q entries :=
  ⟨hPQ _ h.1, h.2.mono hPQ⟩

theorem Tidy.distinct {entries : List Entry} (h : Tidy entries) : Distinct entries :=
  EachLevel.mono (fun _ hnames => hnames.1) h

theorem Distinct.tail {entry : Entry} {rest : List Entry} (h : Distinct (entry :: rest)) :
    Distinct rest := ⟨h.1.of_cons, h.2.2⟩

theorem Distinct.not_mem_names {entry : Entry} {rest : List Entry}
    (h : Distinct (entry :: rest)) : entry.name ∉ rest.map Entry.name :=
  (List.nodup_cons.1 h.1).1

theorem Distinct.inside {name : String} {children rest : List Entry} {isOpen : Bool}
    (h : Distinct (.folder name children isOpen :: rest)) : Distinct children := h.2.1

/-- `P` is kept when the new name `s` comes to the end. -/
def Admits (P : List String → Prop) (s : String) : Prop :=
  ∀ names, P names → s ∉ names → P (names ++ [s])

theorem admits_nodup (s : String) : Admits List.Nodup s := by
  intro names hnames hnew
  rw [List.nodup_append]
  refine ⟨hnames, by simp, ?_⟩
  rintro a ha b hb rfl
  rw [List.mem_singleton.1 hb] at ha
  exact hnew ha

theorem admits_segments {s : String} (h : Path.IsSegment s) :
    Admits (fun names => names.Nodup ∧ ∀ t ∈ names, Path.IsSegment t) s := by
  intro names hnames hnew
  refine ⟨admits_nodup s names hnames.1 hnew, fun t ht => ?_⟩
  rcases List.mem_append.1 ht with ht | ht
  · exact hnames.2 t ht
  · rw [List.mem_singleton.1 ht]
    exact h

/-! ## 2. The walk and the look-up -/

theorem find?_cons_of_ne {entry : Entry} {rest : List Entry} {s : String} (way : List String)
    (h : entry.name ≠ s) : find? (s :: way) (entry :: rest) = find? (s :: way) rest := by
  cases way with
  | nil => simp [find?, h]
  | cons t way => simp [find?_cons_cons, h]

theorem name_mem_of_find? {entries : List Entry} {s : String} {way : List String} {entry : Entry}
    (h : find? (s :: way) entries = some entry) : s ∈ entries.map Entry.name := by
  -- Both readings of a way begin by finding its first segment.
  have hfirst : ∃ first, entries.find? (·.name = s) = some first := by
    cases way with
    | nil => exact ⟨entry, h⟩
    | cons t way =>
      rw [find?_cons_cons] at h
      obtain ⟨first, hfirst, -⟩ := Option.bind_eq_some_iff.1 h
      exact ⟨first, hfirst⟩
  obtain ⟨first, hfirst⟩ := hfirst
  refine List.mem_map.2 ⟨first, List.mem_of_find?_eq_some hfirst, ?_⟩
  simpa using List.find?_some hfirst

/-- `find?` on a way leads to the first entry, to one inside of it, or goes on among the others. -/
theorem find?_cons_iff {entry found : Entry} {rest : List Entry} {way : List String}
    (hname : entry.name ∉ rest.map Entry.name) :
    find? way (entry :: rest) = some found ↔
      way = [entry.name] ∧ found = entry ∨
        (∃ inner, inner ≠ [] ∧ way = entry.name :: inner ∧
          find? inner entry.children = some found) ∨
        find? way rest = some found := by
  cases way with
  | nil => cases rest <;> simp [find?]
  | cons s way =>
    by_cases hs : entry.name = s
    · -- None of the others has that name, so the way leads to the entry or into it.
      subst hs
      have hrest : find? (entry.name :: way) rest ≠ some found := fun h =>
        hname (name_mem_of_find? h)
      simp only [hrest, or_false]
      cases way with
      | nil => simp [find?, eq_comm]
      | cons t way => simp [find?_cons_cons entry.name]
    · have hne : s ≠ entry.name := fun h => hs h.symm
      rw [find?_cons_of_ne way hs]
      simp [hne]

theorem mem_walkAll_cons {entry found : Entry} {rest : List Entry} {base p : Path} :
    (p, found) ∈ walkAll base (entry :: rest) ↔
      (p = base.child entry.name ∧ found = entry) ∨
        (p, found) ∈ walkAll (base.child entry.name) entry.children ∨
        (p, found) ∈ walkAll base rest := by
  cases entry <;> simp [walkAll, walk, name, children]

/-- `walkAll` of a list, from what `find?` says of the first entry's children and of the others. -/
theorem mem_walkAll_cons_iff {entry found : Entry} {rest : List Entry} {base p : Path}
    (h : Distinct (entry :: rest))
    (hinside : (p, found) ∈ walkAll (base.child entry.name) entry.children ↔
      ∃ way, p.segments = (base.child entry.name).segments ++ way ∧
        find? way entry.children = some found)
    (hrest : (p, found) ∈ walkAll base rest ↔
      ∃ way, p.segments = base.segments ++ way ∧ find? way rest = some found) :
    (p, found) ∈ walkAll base (entry :: rest) ↔
      ∃ way, p.segments = base.segments ++ way ∧ find? way (entry :: rest) = some found := by
  have hchild : ∀ inner, (base.child entry.name).segments ++ inner =
      base.segments ++ entry.name :: inner := fun inner => by simp [Path.child]
  rw [mem_walkAll_cons, hinside, hrest]
  -- A way from the entry's children starts with the name of the entry, and the other ways do not.
  simp only [find?_cons_iff h.not_mem_names, hchild]
  constructor
  · rintro (⟨rfl, rfl⟩ | ⟨inner, hp, hfind⟩ | ⟨way, hp, hfind⟩)
    · exact ⟨_, rfl, .inl ⟨rfl, rfl⟩⟩
    · have hne : inner ≠ [] := by
        rintro rfl
        cases hchildren : entry.children <;> rw [hchildren] at hfind <;> simp [find?] at hfind
      exact ⟨entry.name :: inner, hp, .inr (.inl ⟨inner, hne, rfl, hfind⟩)⟩
    · exact ⟨way, hp, .inr (.inr hfind)⟩
  · rintro ⟨way, hp, ⟨rfl, rfl⟩ | ⟨inner, -, rfl, hfind⟩ | hfind⟩
    · exact .inl ⟨Path.segments_injective hp, rfl⟩
    · exact .inr (.inl ⟨inner, hp, hfind⟩)
    · exact .inr (.inr ⟨way, hp, hfind⟩)

/-- **The walk lists what the look-up finds.** `walkAll base` of a `Distinct` tree lists exactly the
entries that `find?` gives for some way, each under `base` and that way. -/
theorem mem_walkAll_iff {entries : List Entry} (h : Distinct entries) (base p : Path)
    (found : Entry) :
    (p, found) ∈ walkAll base entries ↔
      ∃ way, p.segments = base.segments ++ way ∧ find? way entries = some found := by
  -- By induction over the forest, for every starting folder at once: inside a folder the walk goes
  -- on from the folder's own path.
  induction entries using forest_induction generalizing base with
  | nil => simp [walkAll]
  | file f rest ih => exact mem_walkAll_cons_iff h (by simp [children, walkAll]) (ih h.tail base)
  | folder folderName inner isOpen rest ihc ihr =>
    exact mem_walkAll_cons_iff h (ihc h.inside _) (ihr h.tail base)

theorem not_mem_walkAll (entry : Entry) {rest : List Entry} {base p : Path} {way : List String}
    (hname : entry.name ∉ rest.map Entry.name) (hrest : Distinct rest)
    (hp : p.segments = base.segments ++ entry.name :: way) :
    p ∉ (walkAll base rest).map Prod.fst := by
  intro hmem
  obtain ⟨⟨q, found⟩, hq, rfl⟩ := List.mem_map.1 hmem
  obtain ⟨other, hother, hfind⟩ := (mem_walkAll_iff hrest base q found).1 hq
  -- The walk would have found it by a way that starts with the sibling's name.
  rw [hp] at hother
  rw [← List.append_cancel_left hother] at hfind
  exact hname (name_mem_of_find? hfind)

/-- `walkAll` of a `Distinct` tree lists no path twice. -/
theorem nodup_walkAll {entries : List Entry} (h : Distinct entries) (base : Path) :
    ((walkAll base entries).map Prod.fst).Nodup := by
  induction entries using forest_induction generalizing base with
  | nil => simp [walkAll]
  | file f rest ih =>
    simp only [walkAll, walk, List.singleton_append, List.map_cons, List.nodup_cons]
    exact ⟨not_mem_walkAll (.file f) h.not_mem_names h.tail rfl, ih h.tail base⟩
  | folder folderName inner isOpen rest ihc ihr =>
    simp only [walkAll, walk, List.cons_append, List.map_cons, List.map_append, List.nodup_cons,
      List.mem_append, not_or]
    -- Every place listed inside the folder continues the folder's own place.
    have hbelow : ∀ p ∈ (walkAll (base.child folderName) inner).map Prod.fst,
        ∃ s way, p.segments = base.segments ++ folderName :: s :: way := by
      intro p hp
      obtain ⟨⟨q, found⟩, hq, rfl⟩ := List.mem_map.1 hp
      obtain ⟨way, hway, hfind⟩ := (mem_walkAll_iff h.inside _ q found).1 hq
      cases way with
      | nil => cases inner <;> simp [find?] at hfind
      | cons s way => exact ⟨s, way, by simpa [Path.child] using hway⟩
    -- The folder's own place is neither inside it nor among the others, and these do not meet.
    refine ⟨⟨?_, ?_⟩, ?_⟩
    · intro hmem
      obtain ⟨s, way, hp⟩ := hbelow _ hmem
      simp [Path.child] at hp
    · exact not_mem_walkAll (.folder folderName inner isOpen) h.not_mem_names h.tail rfl
    · rw [List.nodup_append]
      refine ⟨ihc h.inside _, ihr h.tail base, ?_⟩
      rintro p hp q hq rfl
      obtain ⟨s, way, hway⟩ := hbelow p hp
      exact not_mem_walkAll (.folder folderName inner isOpen) h.not_mem_names h.tail
        hway hq

/-! ## 3. Tidy trees -/

theorem Tidy.inside {entries children : List Entry} {name : String} {isOpen : Bool}
    (h : Tidy entries) (hmem : .folder name children isOpen ∈ entries) : Tidy children :=
  (eachLevel_iff.1 h).2 name children isOpen hmem

theorem Tidy.normal_of_find? {entries : List Entry} {way : List String} {entry : Entry}
    (h : Tidy entries) (hfind : find? way entries = some entry) :
    ∀ s ∈ way, Path.IsSegment s := by
  induction way generalizing entries with
  | nil => simp
  | cons s way ih =>
    have hs : Path.IsSegment s := h.1.2 s (name_mem_of_find? hfind)
    cases way with
    | nil => simpa using hs
    | cons t way =>
      rw [find?_cons_cons] at hfind
      obtain ⟨first, hfirst, hfind⟩ := Option.bind_eq_some_iff.1 hfind
      cases first with
      | file f => simp [children] at hfind
      | folder name children isOpen =>
        have hrest := ih (h.inside (List.mem_of_find?_eq_some hfirst)) hfind
        intro u hu
        rcases List.mem_cons.1 hu with rfl | hu
        · exact hs
        · exact hrest u hu

end Entry

end OverlayShell
