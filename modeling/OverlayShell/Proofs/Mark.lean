import OverlayShell.Tree.Walk
import OverlayShell.Proofs.NormalPath

/-!
# What stands at a place

A place in a tree is reached by the way to it, a list of segments. What can be said of it without
looking inside a folder is its mark: a file with all it carries, or a folder, open or closed. Trees
are compared by their marks; nothing here asks for distinct names, since every look-up takes the
first sibling of a name.
-/

namespace OverlayShell

/-- What `markAt` tells of an entry: a file with all it carries, or a folder without what is
inside. -/
inductive Mark where
  | file (f : File)
  | folder (isOpen : Bool)
  deriving DecidableEq

namespace Entry

def mark : Entry → Mark
  | .file f => .file f
  | .folder _ _ isOpen => .folder isOpen

/-- The `Mark` at the end of a way. -/
def markAt (way : List String) (entries : List Entry) : Option Mark :=
  (find? way entries).map mark

/-- The `Mark` at the end of a way that starts inside the entry. -/
def markWithin : List String → Entry → Option Mark
  | [], entry => some entry.mark
  | segment :: rest, entry => markAt (segment :: rest) entry.children

def HasFile (way : List String) (tree : List Entry) : Prop := ∃ f, markAt way tree = some (.file f)

def HasFolder (way : List String) (tree : List Entry) : Prop :=
  ∃ isOpen, markAt way tree = some (.folder isOpen)

instance (way : List String) (tree : List Entry) : Decidable (HasFolder way tree) :=
  match h : markAt way tree with
  | some (.folder isOpen) => .isTrue ⟨isOpen, h⟩
  | some (.file _) => .isFalse fun ⟨_, hfolder⟩ => by rw [h] at hfolder; cases hfolder
  | none => .isFalse fun ⟨_, hfolder⟩ => by rw [h] at hfolder; cases hfolder

def isObstructed : List String → List Entry → Bool
  | [], _ => false
  | segment :: rest, entries =>
    match entries.find? (·.name = segment) with
    | some (.file _) => true
    | some (.folder _ children _) => isObstructed rest children
    | none => false

/-- The entries of the folder at the end of the way, none if there is no folder. -/
def contents : List String → List Entry → List Entry
  | [], entries => entries
  | segment :: rest, entries =>
    match entries.find? (·.name = segment) with
    | some (.folder _ children _) => contents rest children
    | _ => []

/-! ## 1. Following a way -/

@[simp] theorem find?_no_entries (way : List String) : find? way [] = none := by
  match way with
  | [] => rfl
  | [_] => rfl
  | _ :: _ :: _ => rfl

theorem find?_cons_cons (s t : String) (rest : List String) (entries : List Entry) :
    find? (s :: t :: rest) entries =
      (entries.find? (·.name = s)).bind fun entry => find? (t :: rest) entry.children := by
  rw [find?]
  cases entries.find? (·.name = s) with
  | none => rfl
  | some entry =>
    cases entry with
    | file f => simp [children]
    | folder name children isOpen => rfl

@[simp] theorem markAt_root (entries : List Entry) : markAt [] entries = none := by
  cases entries <;> rfl

@[simp] theorem markAt_no_entries (way : List String) : markAt way [] = none := by
  simp [markAt]

theorem markAt_cons (s : String) (rest : List String) (entries : List Entry) :
    markAt (s :: rest) entries = (entries.find? (·.name = s)).bind (markWithin rest) := by
  cases rest with
  | nil =>
    show ((entries.find? (·.name = s)).map mark) = _
    cases entries.find? (·.name = s) <;> rfl
  | cons t rest =>
    unfold markAt
    rw [find?_cons_cons]
    cases entries.find? (·.name = s) <;> rfl

@[simp] theorem markWithin_file (f : File) (s : String) (rest : List String) :
    markWithin (s :: rest) (.file f) = none := by
  simp [markWithin, children]

@[simp] theorem markWithin_folder (name : String) (children : List Entry) (isOpen : Bool)
    (s : String) (rest : List String) :
    markWithin (s :: rest) (.folder name children isOpen) = markAt (s :: rest) children := rfl

/-- `markAt` of a way goes on from the `contents` at any of its starts. -/
theorem markAt_append (way rest : List String) (entries : List Entry) :
    markAt (way ++ rest) entries =
      if rest = [] then markAt way entries else markAt rest (contents way entries) := by
  induction way generalizing entries with
  | nil =>
    by_cases hrest : rest = []
    · simp [hrest]
    · simp [hrest, contents]
  | cons s way ih =>
    by_cases hrest : rest = []
    · simp [hrest]
    -- Something follows the first segment, so the look-up goes into the entry of that name.
    obtain ⟨t, u, htu⟩ := List.exists_cons_of_ne_nil (l := way ++ rest) (by simp [hrest])
    rw [if_neg hrest, List.cons_append, markAt_cons, contents]
    rcases hs : entries.find? (·.name = s) with _ | entry
    · rw [hs]
      simp
    · rw [hs]
      cases entry with
      | file f =>
        rw [Option.bind_some, htu, markWithin_file]
        simp
      | folder name children isOpen =>
        have hgo := ih children
        rw [if_neg hrest] at hgo
        rw [Option.bind_some, htu, markWithin_folder, ← htu]
        exact hgo

/-! ## 2. Files on the way -/

theorem isObstructed_no_entries (way : List String) : isObstructed way [] = false := by
  cases way <;> rfl

theorem contents_no_entries (way : List String) : contents way [] = [] := by
  cases way <;> rfl

/-- `isObstructed` tells whether `HasFile` holds at some start of the way. -/
theorem isObstructed_iff {way : List String} {entries : List Entry} :
    isObstructed way entries = true ↔ ∃ b, b <+: way ∧ HasFile b entries := by
  induction way generalizing entries with
  | nil =>
    constructor
    · intro h
      exact absurd h (by simp [isObstructed])
    · rintro ⟨b, hb, f, hf⟩
      rw [List.prefix_nil.1 hb, markAt_root] at hf
      exact absurd hf (by simp)
  | cons s rest ih =>
    rw [isObstructed]
    rcases hs : entries.find? (·.name = s) with _ | entry
    · simp only [hs, Bool.false_eq_true, false_iff]
      rintro ⟨b, hb, f, hf⟩
      rcases List.prefix_cons_iff.1 hb with rfl | ⟨c, rfl, -⟩
      · simp at hf
      · simp [markAt_cons, hs] at hf
    · cases entry with
      | file f =>
        simp only [hs, true_iff]
        exact ⟨[s], by simp, f, by simp [markAt_cons, hs, markWithin, mark]⟩
      | folder name children isOpen =>
        simp only [hs]
        rw [ih]
        -- A start of the way inside the folder becomes one of the whole way with the folder's name.
        constructor
        · rintro ⟨b, hb, f, hf⟩
          refine ⟨s :: b, List.cons_prefix_cons.2 ⟨rfl, hb⟩, f, ?_⟩
          cases b with
          | nil => simp at hf
          | cons t b => simpa [markAt_cons s, hs] using hf
        · rintro ⟨b, hb, f, hf⟩
          rcases List.prefix_cons_iff.1 hb with rfl | ⟨c, rfl, hc⟩
          · simp at hf
          · refine ⟨c, hc, f, ?_⟩
            cases c with
            | nil => simp [markAt_cons, hs, markWithin, mark] at hf
            | cons t c => simpa [markAt_cons s, hs] using hf

theorem isObstructed_further {way further : List String} {entries : List Entry}
    (h : isObstructed way entries = true) (hp : way <+: further) :
    isObstructed further entries = true := by
  obtain ⟨b, hb, hf⟩ := isObstructed_iff.1 h
  exact isObstructed_iff.2 ⟨b, hb.trans hp, hf⟩

theorem isObstructed_of_file {way : List String} {entries : List Entry} {f : File}
    (h : markAt way entries = some (.file f)) : isObstructed way entries = true :=
  isObstructed_iff.2 ⟨way, List.prefix_rfl, f, h⟩

/-- Nothing stands below a file or an empty place, so `markAt` finds a folder there. -/
theorem exists_folder_of_below {way rest : List String} {entries : List Entry} {m : Mark}
    (hway : way ≠ []) (hrest : rest ≠ []) (h : markAt (way ++ rest) entries = some m) :
    ∃ isOpen, markAt way entries = some (.folder isOpen) := by
  induction way generalizing entries with
  | nil => exact absurd rfl hway
  | cons s way ih =>
    rw [List.cons_append, markAt_cons] at h
    rcases hs : entries.find? (·.name = s) with _ | entry
    · simp [hs] at h
    rw [hs, Option.bind_some] at h
    obtain ⟨t, u, htu⟩ := List.exists_cons_of_ne_nil (l := way ++ rest) (by simp [hrest])
    cases entry with
    | file f => rw [htu, markWithin_file] at h; simp at h
    | folder name children isOpen =>
      cases way with
      | nil => exact ⟨isOpen, by simp [markAt_cons, hs, markWithin, mark]⟩
      | cons t' way =>
        obtain ⟨o, ho⟩ := ih (by simp) (by simpa using h)
        exact ⟨o, by simpa [markAt_cons s, hs] using ho⟩

/-- Every proper start of a way that leads somewhere leads to a `folder`. -/
theorem exists_folder_above {b way : List String} {entries : List Entry} {m : Mark}
    (hb : b ≠ []) (hp : b <+: way) (hne : b ≠ way) (h : markAt way entries = some m) :
    ∃ isOpen, markAt b entries = some (.folder isOpen) := by
  obtain ⟨rest, rfl⟩ := hp
  refine exists_folder_of_below hb ?_ h
  rintro rfl
  exact hne (by simp)

theorem not_isObstructed_of_folder {way : List String} {entries : List Entry} {isOpen : Bool}
    (h : markAt way entries = some (.folder isOpen)) : isObstructed way entries = false := by
  rw [Bool.eq_false_iff]
  intro hobs
  obtain ⟨b, hb, f, hf⟩ := isObstructed_iff.1 hobs
  -- The file would be the folder itself or stand above it, where there are folders only.
  by_cases hne : b = way
  · rw [hne, h] at hf
    simp at hf
  · have hroot : b ≠ [] := by
      rintro rfl
      simp at hf
    obtain ⟨o, ho⟩ := exists_folder_above hroot hb hne h
    rw [ho] at hf
    simp at hf

/-! ## 3. Files and folders -/

variable {way : List String} {tree shown first second : List Entry}

theorem HasFile.not_folder (h : HasFile way tree) : ¬ HasFolder way tree := by
  obtain ⟨f, hf⟩ := h
  rintro ⟨o, ho⟩
  rw [hf] at ho
  simp at ho

theorem HasFile.ne_nil (h : HasFile way tree) : way ≠ [] := by
  rintro rfl
  obtain ⟨f, hf⟩ := h
  rw [markAt_root] at hf
  cases hf

theorem HasFolder.ne_nil (h : HasFolder way tree) : way ≠ [] := by
  rintro rfl
  obtain ⟨o, ho⟩ := h
  rw [markAt_root] at ho
  cases ho

theorem HasFolder.above {b : List String} (h : HasFolder way tree) (hne : b ≠ [])
    (hb : b <+: way) : HasFolder b tree := by
  by_cases hway : b = way
  · rwa [hway]
  · obtain ⟨o, ho⟩ := h
    exact exists_folder_above hne hb hway ho

/-- `HasFile` at a start of a way leaves nothing behind it. -/
theorem HasFile.eq_of_start {b : List String} (h : HasFile b tree) (hb : b <+: way) {m : Mark}
    (hm : markAt way tree = some m) : b = way := by
  by_contra hne
  exact h.not_folder (exists_folder_above h.ne_nil hb hne hm)

theorem isObstructed_eq_false_iff :
    isObstructed way tree = false ↔ ∀ b, b <+: way → ¬ HasFile b tree := by
  rw [Bool.eq_false_iff, Ne, isObstructed_iff]
  constructor
  · intro h b hb hf
    exact h ⟨b, hb, hf⟩
  · rintro h ⟨b, hb, hf⟩
    exact h b hb hf

theorem HasFolder.free (h : HasFolder way shown)
    (hseen : ∀ way, HasFile way second → HasFile way shown) : isObstructed way second = false := by
  rw [isObstructed_eq_false_iff]
  intro b hb hfile
  obtain ⟨o, ho⟩ := h
  obtain rfl := (hseen b hfile).eq_of_start hb ho
  exact (hseen b hfile).not_folder ⟨o, ho⟩

theorem free_of_free (hup : ∀ way, HasFile way first → HasFile way second)
    (hfree : isObstructed way second = false) : isObstructed way first = false := by
  rw [isObstructed_eq_false_iff] at hfree ⊢
  exact fun b hb hfile => hfree b hb (hup b hfile)

end Entry

/-! ## 4. Marks and look-up -/

theorem lookup_eq_find? {tree : List Entry} {p : Path} (h : p.segments ≠ []) :
    lookup tree p = Entry.find? p.segments tree := by
  have hroot : p.isRoot = false := by simpa [Path.isRoot] using h
  simp [lookup, hroot]

theorem markAt_of_lookup {tree : List Entry} {p : Path} (h : lookup tree p = none) :
    Entry.markAt p.segments tree = none := by
  by_cases hroot : p.segments = []
  · rw [hroot, Entry.markAt_root]
  · rw [lookup_eq_find? hroot] at h
    rw [Entry.markAt, h, Option.map_none]

theorem find?_eq_file_iff {tree : List Entry} {way : List String} {f : File} :
    Entry.find? way tree = some (.file f) ↔ Entry.markAt way tree = some (.file f) := by
  unfold Entry.markAt
  cases Entry.find? way tree with
  | none => simp
  | some entry => cases entry <;> simp [Entry.mark]

theorem lookup_eq_file_iff {tree : List Entry} {p : Path} {f : File} :
    lookup tree p = some (.file f) ↔ Entry.markAt p.segments tree = some (.file f) := by
  by_cases h : p.segments = []
  · -- The root is a folder.
    have hroot : p.isRoot = true := by simp [Path.isRoot, h]
    simp [lookup, hroot, h]
  · rw [lookup_eq_find? h, find?_eq_file_iff]

theorem isFileAt_iff {tree : List Entry} {p : Path} :
    isFileAt tree p = true ↔ Entry.HasFile p.segments tree := by
  unfold Entry.HasFile
  simp only [← lookup_eq_file_iff]
  unfold isFileAt
  cases lookup tree p with
  | none => simp
  | some entry => cases entry <;> simp

theorem isFolderAt_iff {tree : List Entry} {p : Path} (h : p.segments ≠ []) :
    isFolderAt tree p = true ↔ Entry.HasFolder p.segments tree := by
  unfold isFolderAt Entry.HasFolder Entry.markAt
  rw [lookup_eq_find? h]
  cases Entry.find? p.segments tree with
  | none => simp
  | some entry => cases entry <;> simp [Entry.mark]

/-- The ancestors that `isFileAt` finds obstruct the way to the parent. -/
theorem any_isFileAt_ancestors {tree : List Entry} {p : Path} (h : p.segments ≠ []) :
    p.ancestors.any (isFileAt tree) = Entry.isObstructed p.parent.segments tree := by
  rw [Bool.eq_iff_iff, List.any_eq_true, Entry.isObstructed_iff]
  constructor
  -- The ancestors are the proper starts of the way, that is the starts of the way to its folder.
  · rintro ⟨a, ha, hf⟩
    obtain ⟨-, hp, hne⟩ := Path.mem_ancestors.1 ha
    exact ⟨a.segments, (Path.prefix_dropLast_iff h).2 ⟨hp, hne⟩, isFileAt_iff.1 hf⟩
  · rintro ⟨b, hb, f, hf⟩
    have hroot : b ≠ [] := by
      rintro rfl
      simp at hf
    obtain ⟨hp, hne⟩ := (Path.prefix_dropLast_iff h).1 hb
    exact ⟨⟨b⟩, Path.mem_ancestors.2 ⟨hroot, hp, hne⟩, isFileAt_iff.2 ⟨f, hf⟩⟩

end OverlayShell
