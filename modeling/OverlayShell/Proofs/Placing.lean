import OverlayShell.Proofs.Surviving

/-!
# Placing entries

A folder or a file is placed by following the way to it. Folders on the way are supplied or opened
up to the first file, at which the attempt ends; elsewhere nothing changes. Stated by marks, these
laws say what every later look-up sees.
-/

namespace OverlayShell

namespace Entry

/-! ## 1. Changing the entry of a name -/

section AtName

variable {s : String} {fresh : Attempt} {change : Entry → Attempt}

/-- Whether `atName` changes anything depends on the first entry of the name. -/
theorem snd_atName (entries : List Entry) :
    (atName s fresh change entries).2 =
      match entries.find? (·.name = s) with
      | none => fresh.2
      | some entry => (change entry).2 := by
  induction entries with
  | nil => rfl
  | cons entry rest ih =>
    by_cases h : entry.name = s
    · simp [atName, h]
    · simp [atName, h, ih]

theorem mem_atName {entries : List Entry} {entry : Entry}
    (h : entry ∈ (atName s fresh change entries).1) :
    entry ∈ entries ∨ entry ∈ fresh.1 ∨ ∃ old ∈ entries, entry ∈ (change old).1 := by
  induction entries with
  | nil => exact .inr (.inl h)
  | cons first rest ih =>
    by_cases hs : first.name = s
    · rw [atName, if_pos hs, List.mem_append] at h
      rcases h with h | h
      · exact .inr (.inr ⟨first, by simp, h⟩)
      · exact .inl (List.mem_cons_of_mem _ h)
    · rw [atName, if_neg hs, List.mem_cons] at h
      rcases h with rfl | h
      · exact .inl (by simp)
      · rcases ih h with h | h | ⟨old, hold, h⟩
        · exact .inl (List.mem_cons_of_mem _ h)
        · exact .inr (.inl h)
        · exact .inr (.inr ⟨old, List.mem_cons_of_mem _ hold, h⟩)

variable (hfresh : fresh.1.map name = [s])
  (hchange : ∀ entry : Entry, entry.name = s → (change entry).1.map name = [s])

include hfresh hchange

/-- `atName` leaves the names as they are, but for a new one at the end. -/
theorem names_atName (entries : List Entry) :
    (atName s fresh change entries).1.map name =
      if s ∈ entries.map name then entries.map name else entries.map name ++ [s] := by
  induction entries with
  | nil => simpa [atName] using hfresh
  | cons entry rest ih =>
    by_cases h : entry.name = s
    · simp [atName, h, hchange entry h]
    · have hne : s ≠ entry.name := fun hs => h hs.symm
      rw [atName, if_neg h]
      simp only [List.map_cons, ih, List.mem_cons, hne, false_or]
      split <;> simp

theorem find?_atName_of_ne (entries : List Entry) {t : String} (ht : t ≠ s) :
    (atName s fresh change entries).1.find? (·.name = t) = entries.find? (·.name = t) := by
  -- An entry called `s` is not the one that is looked for.
  have hskip : ∀ {new : List Entry}, new.map name = [s] → new.find? (·.name = t) = none := by
    intro new hnew
    obtain ⟨entry, rfl, hname⟩ := List.map_eq_singleton_iff.1 hnew
    simp [hname, ht.symm]
  induction entries with
  | nil => exact hskip hfresh
  | cons entry rest ih =>
    by_cases h : entry.name = s
    · have hne : entry.name ≠ t := by
        rw [h]
        exact ht.symm
      rw [atName, if_pos h]
      simp [List.find?_append, hskip (hchange entry h), hne]
    · rw [atName, if_neg h]
      by_cases hne : entry.name = t
      · simp [hne]
      · simp [hne, ih]

theorem find?_atName_self (entries : List Entry) :
    (atName s fresh change entries).1.find? (·.name = s) =
      match entries.find? (·.name = s) with
      | none => fresh.1.head?
      | some entry => (change entry).1.head? := by
  -- A list that has the one name `s` is its head, and the head is found.
  have hhead : ∀ {new : List Entry}, new.map name = [s] →
      new.find? (·.name = s) = new.head? ∧ new.head?.isSome := by
    intro new hnew
    obtain ⟨entry, rfl, hname⟩ := List.map_eq_singleton_iff.1 hnew
    simp [hname]
  induction entries with
  | nil => exact (hhead hfresh).1
  | cons entry rest ih =>
    by_cases h : entry.name = s
    · obtain ⟨hfind, hsome⟩ := hhead (hchange entry h)
      obtain ⟨new, hnew⟩ := Option.isSome_iff_exists.1 hsome
      rw [atName, if_pos h]
      simp [List.find?_append, hfind, hnew, h]
    · rw [atName, if_neg h]
      simp [h, ih]

/-- `EachLevel` is kept by `atName` if the new name and the folders it puts in place keep it. -/
theorem EachLevel.atName {P : List String → Prop} {entries : List Entry} (h : EachLevel P entries)
    (hs : Admits P s)
    (hfreshIn : ∀ n children isOpen, .folder n children isOpen ∈ fresh.1 → EachLevel P children)
    (hchangeIn : ∀ old ∈ entries, ∀ n children isOpen,
      .folder n children isOpen ∈ (change old).1 → EachLevel P children) :
    EachLevel P (atName s fresh change entries).1 := by
  obtain ⟨hnames, hinside⟩ := eachLevel_iff.1 h
  refine eachLevel_iff.2 ⟨?_, ?_⟩
  · rw [names_atName hfresh hchange]
    split
    · exact hnames
    · rename_i hnew
      exact hs _ hnames hnew
  · intro n children isOpen hmem
    rcases mem_atName hmem with hmem | hmem | ⟨old, hold, hmem⟩
    · exact hinside n children isOpen hmem
    · exact hfreshIn n children isOpen hmem
    · exact hchangeIn old hold n children isOpen hmem

end AtName

/-! ## 2. Going down a way -/

section InFolder

variable (change : List Entry → Attempt)

/-- One step down the way, as an argument of `atName`. -/
def enter (rest : List String) : Entry → Attempt
  | .folder name children _ =>
    ([.folder name (inFolder change rest children).1 true], (inFolder change rest children).2)
  | .file f => ([.file f], false)

theorem inFolder_cons (s : String) (rest : List String) (entries : List Entry) :
    inFolder change (s :: rest) entries =
      atName s ([.folder s (inFolder change rest []).1 true], (inFolder change rest []).2)
        (enter change rest) entries := by
  rw [inFolder]
  congr 1

theorem names_enter (rest : List String) (entry : Entry) :
    (enter change rest entry).1.map name = [entry.name] := by
  cases entry <;> rfl

theorem names_enter_of_name {s : String} (rest : List String) (entry : Entry)
    (h : entry.name = s) : (enter change rest entry).1.map name = [s] := by
  rw [names_enter, h]

theorem find?_inFolder_of_ne {s t : String} (rest : List String) (entries : List Entry)
    (h : t ≠ s) :
    (inFolder change (s :: rest) entries).1.find? (·.name = t) = entries.find? (·.name = t) := by
  rw [inFolder_cons]
  exact find?_atName_of_ne rfl (names_enter_of_name change rest) entries h

theorem find?_inFolder_self (s : String) (rest : List String) (entries : List Entry) :
    (inFolder change (s :: rest) entries).1.find? (·.name = s) =
      match entries.find? (·.name = s) with
      | none => some (.folder s (inFolder change rest []).1 true)
      | some (.folder n children _) => some (.folder n (inFolder change rest children).1 true)
      | some (.file f) => some (.file f) := by
  rw [inFolder_cons, find?_atName_self rfl (names_enter_of_name change rest)]
  cases entries.find? (·.name = s) with
  | none => rfl
  | some entry => cases entry <;> rfl

/-- `inFolder` reaches the end of the way unless it `isObstructed`. -/
theorem snd_inFolder (way : List String) (entries : List Entry) :
    (inFolder change way entries).2 =
      (!isObstructed way entries && (change (contents way entries)).2) := by
  induction way generalizing entries with
  | nil => rfl
  | cons s rest ih =>
    rw [inFolder_cons, snd_atName, isObstructed, contents]
    cases entries.find? (·.name = s) with
    | none => rw [ih, isObstructed_no_entries, contents_no_entries]
    | some entry =>
      cases entry with
      | file f => rfl
      | folder n children isOpen => exact ih children

/-- Below the end of the way stands what `change` leaves in its `contents`. -/
theorem markAt_inFolder_below (way : List String) (entries : List Entry) {rest : List String}
    (hrest : rest ≠ []) :
    markAt (way ++ rest) (inFolder change way entries).1 =
      if isObstructed way entries then none else markAt rest (change (contents way entries)).1 := by
  induction way generalizing entries with
  | nil => rfl
  | cons s way ih =>
    -- The way goes on behind its first segment, so a folder of that name is entered, be it new.
    obtain ⟨t, u, htu⟩ := List.exists_cons_of_ne_nil (l := way ++ rest) (by simp [hrest])
    rw [List.cons_append, markAt_cons, find?_inFolder_self, isObstructed, contents]
    cases entries.find? (·.name = s) with
    | none =>
      have hgo := ih []
      rw [isObstructed_no_entries, contents_no_entries] at hgo
      rw [Option.bind_some, htu, markWithin_folder, ← htu]
      exact hgo
    | some entry =>
      cases entry with
      | file f =>
        rw [Option.bind_some, htu, markWithin_file]
        rfl
      | folder n children isOpen =>
        rw [Option.bind_some, htu, markWithin_folder, ← htu]
        exact ih children

/-- On the way `inFolder` supplies and opens folders, up to the first file. -/
theorem markAt_inFolder_on {q way : List String} (entries : List Entry) (hq : q ≠ [])
    (hp : q <+: way) :
    markAt q (inFolder change way entries).1 =
      if isObstructed q entries then markAt q entries else some (.folder true) := by
  induction way generalizing q entries with
  | nil => exact absurd (List.prefix_nil.1 hp) hq
  | cons s way ih =>
    -- The place is the first folder on the way, or lies on the way inside that folder.
    obtain ⟨q, rfl, hrest⟩ := (List.prefix_cons_iff.1 hp).resolve_left hq
    rw [markAt_cons, markAt_cons, find?_inFolder_self, isObstructed]
    cases entries.find? (·.name = s) with
    | none =>
      cases q with
      | nil => rfl
      | cons t q =>
        have hgo := ih [] (by simp) hrest
        rw [isObstructed_no_entries] at hgo
        exact hgo
    | some entry =>
      cases entry with
      | file f => simp
      | folder n children isOpen =>
        cases q with
        | nil => rfl
        | cons t q => exact ih children (by simp) hrest

/-- Off the way `inFolder` changes nothing. -/
theorem markAt_inFolder_off {q way : List String} (entries : List Entry) (hq : ¬ q <+: way)
    (hway : ¬ way <+: q) : markAt q (inFolder change way entries).1 = markAt q entries := by
  induction way generalizing q entries with
  | nil => exact absurd List.nil_prefix hway
  | cons s way ih =>
    cases q with
    | nil => exact absurd List.nil_prefix hq
    | cons t q =>
      rw [markAt_cons, markAt_cons]
      -- Under another name nothing is touched; under the same one the ways part further down.
      by_cases hts : t = s
      · subst hts
        have hq' : ¬ q <+: way := fun h => hq (List.cons_prefix_cons.2 ⟨rfl, h⟩)
        have hway' : ¬ way <+: q := fun h => hway (List.cons_prefix_cons.2 ⟨rfl, h⟩)
        have hne : q ≠ [] := by
          rintro rfl
          exact hq' List.nil_prefix
        obtain ⟨u, r, rfl⟩ := List.exists_cons_of_ne_nil hne
        rw [find?_inFolder_self]
        cases entries.find? (·.name = t) with
        | none => simpa using ih [] hq' hway'
        | some entry =>
          cases entry with
          | file f => rfl
          | folder n children isOpen => simpa using ih children hq' hway'
      · rw [find?_inFolder_of_ne change way entries hts]

/-- `EachLevel` is kept by `inFolder` if `change` keeps it in one folder and the names of the way
are admitted. -/
theorem EachLevel.inFolder {P : List String → Prop} {way : List String} {entries : List Entry}
    (hchange : ∀ {children : List Entry}, EachLevel P children → EachLevel P (change children).1)
    (hnone : P []) (hway : ∀ s ∈ way, Admits P s) (h : EachLevel P entries) :
    EachLevel P (inFolder change way entries).1 := by
  induction way generalizing entries with
  | nil => exact hchange h
  | cons s rest ih =>
    -- A folder is entered or made new, and in both cases its children keep the condition.
    have hinner : ∀ {children : List Entry}, EachLevel P children →
        EachLevel P (Entry.inFolder change rest children).1 :=
      ih fun t ht => hway t (List.mem_cons_of_mem _ ht)
    rw [inFolder_cons]
    refine h.atName rfl (names_enter_of_name change rest) (hway s (by simp)) ?_ ?_
    · intro n children isOpen hmem
      obtain ⟨-, rfl, -⟩ := Entry.folder.inj (List.mem_singleton.1 hmem)
      exact hinner ⟨hnone, trivial⟩
    · intro old hold n children isOpen hmem
      cases old with
      | file f => simp [enter] at hmem
      | folder n' children' isOpen' =>
        obtain ⟨-, rfl, -⟩ := Entry.folder.inj (List.mem_singleton.1 hmem)
        exact hinner ((eachLevel_iff.1 h).2 _ _ _ hold)

end InFolder

theorem markAt_below_obstructed {way rest : List String} {entries : List Entry}
    (h : isObstructed way entries = true) (hrest : rest ≠ []) :
    markAt (way ++ rest) entries = none := by
  cases hm : markAt (way ++ rest) entries with
  | none => rfl
  | some m =>
    have hway : way ≠ [] := by
      rintro rfl
      simp [isObstructed] at h
    obtain ⟨o, ho⟩ := exists_folder_of_below hway hrest hm
    rw [not_isObstructed_of_folder ho] at h
    exact absurd h (by simp)

end Entry

open Entry

/-! ## 3. Placing a folder -/

/-- **A folder appears with its way.** `withFolder` makes open folders of the places on the way, up
to the first file; everything else stays. -/
theorem markAt_withFolder (tree : List Entry) (p : Path) (q : List String) :
    markAt q (withFolder tree p) =
      if q ≠ [] ∧ q <+: p.segments ∧ isObstructed q tree = false then some (.folder true)
      else markAt q tree := by
  unfold withFolder
  by_cases hq : q = []
  · simp [hq]
  -- The place lies on the way to the folder, below the folder, or off the way.
  by_cases hp : q <+: p.segments
  · rw [markAt_inFolder_on _ tree hq hp]
    cases isObstructed q tree <;> simp [hq, hp]
  · rw [if_neg fun h => hp h.2.1]
    by_cases hbelow : p.segments <+: q
    · obtain ⟨rest, rfl⟩ := hbelow
      have hrest : rest ≠ [] := by
        rintro rfl
        exact hp (by simp)
      rw [markAt_inFolder_below _ _ _ hrest]
      split
      · rename_i hobs
        rw [markAt_below_obstructed hobs hrest]
      · rw [markAt_append, if_neg hrest]
    · exact markAt_inFolder_off _ tree hp hbelow

theorem Entry.EachLevel.withFolder {P : List String → Prop} {tree : List Entry} {p : Path}
    (h : EachLevel P tree) (hnone : P []) (hp : ∀ s ∈ p.segments, Admits P s) :
    EachLevel P (withFolder tree p) :=
  h.inFolder _ id hnone hp

/-! ## 4. Placing a file -/

section PlaceFile

variable (f : File)

/-- What `placeFile` does to the entry that has the name of `f`: a file is replaced, a folder
stays. -/
def Entry.yield : Entry → Attempt
  | .file _ => ([.file f], true)
  | .folder name children isOpen => ([.folder name children isOpen], false)

theorem Entry.placeFile_eq (entries : List Entry) :
    placeFile f entries = atName f.name ([.file f], true) (yield f) entries := by
  unfold placeFile
  congr 1

theorem Entry.names_yield (entry : Entry) (h : entry.name = f.name) :
    (yield f entry).1.map name = [f.name] := by
  cases entry with
  | file g => rfl
  | folder n children isOpen => simpa [yield] using h

theorem Entry.snd_placeFile (entries : List Entry) :
    (placeFile f entries).2 = true ↔ ¬ HasFolder [f.name] entries := by
  rw [placeFile_eq, snd_atName, HasFolder, markAt_cons]
  cases entries.find? (·.name = f.name) with
  | none => simp
  | some entry => cases entry <;> simp [yield, markWithin, mark]

theorem Entry.markAt_placeFile (entries : List Entry) (q : List String) :
    markAt q (placeFile f entries).1 =
      if q = [f.name] ∧ (placeFile f entries).2 = true then some (.file f)
      else markAt q entries := by
  cases q with
  | nil => simp
  | cons t rest =>
    simp only [snd_placeFile, HasFolder]
    rw [placeFile_eq, markAt_cons, markAt_cons, markAt_cons]
    by_cases ht : t = f.name
    · subst ht
      rw [find?_atName_self rfl (names_yield f)]
      cases entries.find? (·.name = f.name) with
      | none => cases rest <;> simp [markWithin, mark, children]
      | some entry => cases entry <;> cases rest <;> simp [yield, markWithin, mark, children]
    · rw [find?_atName_of_ne rfl (names_yield f) entries ht]
      simp [ht]

theorem Entry.EachLevel.placeFile {P : List String → Prop} {entries : List Entry}
    (hf : Admits P f.name) (h : EachLevel P entries) : EachLevel P (placeFile f entries).1 := by
  rw [placeFile_eq]
  refine h.atName rfl (names_yield f) hf ?_ ?_
  · intro n children isOpen hmem
    simp at hmem
  · intro old hold n children isOpen hmem
    cases old with
    | file g => simp [yield] at hmem
    | folder n' children' isOpen' =>
      obtain ⟨-, rfl, -⟩ := Entry.folder.inj (List.mem_singleton.1 hmem)
      exact (eachLevel_iff.1 h).2 _ _ _ hold

end PlaceFile

theorem Path.segments_eq_parent_name {p : Path} (h : p.segments ≠ []) :
    p.segments = p.parent.segments ++ [p.name] := by
  obtain ⟨segments⟩ := p
  simp only [Path.parent, Path.name] at h ⊢
  rw [List.getLast?_eq_some_getLast h, Option.getD_some, List.dropLast_append_getLast h]

section WithFile

variable {tree : List Entry} {p : Path} (hp : p.segments ≠ []) (f : File)

include hp

/-- `withFile` has room for a file iff no file obstructs the way to its folder and no folder stands
there. -/
theorem snd_withFile :
    (withFile tree p f).2 = (!isObstructed p.parent.segments tree && !isFolderAt tree p) := by
  unfold withFile
  rw [snd_inFolder]
  cases hobs : isObstructed p.parent.segments tree with
  | true => rfl
  | false =>
    rw [Bool.not_false, Bool.true_and, Bool.true_and, Bool.eq_iff_iff, snd_placeFile,
      Bool.not_eq_true', Bool.eq_false_iff, Ne, isFolderAt_iff hp]
    have hmark := markAt_append p.parent.segments [p.name] tree
    rw [if_neg (by simp), ← Path.segments_eq_parent_name hp] at hmark
    rw [HasFolder, HasFolder, hmark]

theorem snd_withFile_iff :
    (withFile tree p f).2 = true ↔
      isObstructed p.parent.segments tree = false ∧ ¬ HasFolder p.segments tree := by
  rw [snd_withFile hp, Bool.and_eq_true, Bool.not_eq_true', Bool.not_eq_true', ← isFolderAt_iff hp,
    Bool.not_eq_true]

/-- **A file appears at its place.** With room, `withFile` puts the file there; the places above it,
up to the first file, become open folders in any case; everything else stays. -/
theorem markAt_withFile (q : List String) :
    markAt q (withFile tree p f).1 =
      if q = p.segments ∧ (withFile tree p f).2 = true then some (.file { f with name := p.name })
      else if q ≠ [] ∧ q <+: p.parent.segments ∧ isObstructed q tree = false then
        some (.folder true)
      else markAt q tree := by
  have hsegments := Path.segments_eq_parent_name hp
  by_cases hq : q = []
  · simp [hq, hp.symm]
  unfold withFile
  -- The place lies on the way to the file's folder, in or below that folder, or off the way.
  by_cases hon : q <+: p.parent.segments
  · have hne : q ≠ p.segments := by
      rintro rfl
      have hlen := hon.length_le
      rw [hsegments, List.length_append, List.length_singleton] at hlen
      omega
    rw [markAt_inFolder_on _ tree hq hon]
    cases isObstructed q tree <;> simp [hq, hon, hne]
  · rw [if_neg (c := q ≠ [] ∧ _) fun h => hon h.2.1]
    by_cases hbelow : p.parent.segments <+: q
    · obtain ⟨rest, rfl⟩ := hbelow
      have hrest : rest ≠ [] := by
        rintro rfl
        exact hon (by simp)
      have hplace : p.parent.segments ++ rest = p.segments ↔ rest = [p.name] := by
        rw [hsegments, List.append_cancel_left_eq]
      rw [markAt_inFolder_below _ _ _ hrest, snd_inFolder]
      simp only [hplace]
      cases hobs : isObstructed p.parent.segments tree with
      | true => simp [markAt_below_obstructed hobs hrest]
      | false => simp [markAt_placeFile, markAt_append, hrest]
    · have hne : q ≠ p.segments := by
        rintro rfl
        rw [hsegments] at hbelow
        exact hbelow (List.prefix_append _ _)
      rw [markAt_inFolder_off _ tree hon hbelow, if_neg fun h => hne h.1]

theorem markAt_withFile_self (hdone : (withFile tree p f).2 = true) :
    markAt p.segments (withFile tree p f).1 = some (.file { f with name := p.name }) := by
  rw [markAt_withFile hp, if_pos ⟨rfl, hdone⟩]

theorem markAt_withFile_file {way : List String}
    (hway : way ≠ p.segments ∨ (withFile tree p f).2 = false) (g : File) :
    markAt way (withFile tree p f).1 = some (.file g) ↔ markAt way tree = some (.file g) := by
  rw [markAt_withFile hp]
  split
  · rename_i h
    rcases hway with hway | hway
    · exact absurd h.1 hway
    · rw [hway] at h
      simp at h
  · split
    · rename_i h
      constructor
      · intro hg
        simp at hg
      · intro hg
        rw [isObstructed_of_file hg] at h
        simp at h
    · rfl

/-- The files of `withFile` are those of `tree` and the new one, if there is room for it. -/
theorem hasFile_withFile {way : List String} :
    HasFile way (withFile tree p f).1 ↔
      HasFile way tree ∨ way = p.segments ∧ (withFile tree p f).2 = true := by
  by_cases h : way = p.segments ∧ (withFile tree p f).2 = true
  · obtain ⟨rfl, hdone⟩ := h
    have hself := markAt_withFile_self hp f hdone
    exact iff_of_true ⟨_, hself⟩ (.inr ⟨rfl, hdone⟩)
  · have helse : way ≠ p.segments ∨ (withFile tree p f).2 = false := by
      by_cases hway : way = p.segments
      · exact .inr (by simpa [hway] using h)
      · exact .inl hway
    rw [or_iff_left h]
    unfold HasFile
    simp only [markAt_withFile_file hp f helse]

/-- The folders of `withFile` are those of `tree` and the ones above the file, up to the first
file. -/
theorem hasFolder_withFile {way : List String} :
    HasFolder way (withFile tree p f).1 ↔
      HasFolder way tree ∨
        way ≠ [] ∧ way <+: p.parent.segments ∧ isObstructed way tree = false := by
  unfold HasFolder
  rw [markAt_withFile hp]
  split
  · -- The new file stands where no folder is, and not above itself.
    rename_i h
    obtain ⟨rfl, hdone⟩ := h
    rw [snd_withFile_iff hp] at hdone
    constructor
    · rintro ⟨o, ho⟩
      simp at ho
    · rintro (hfolder | ⟨-, habove, -⟩)
      · exact absurd hfolder hdone.2
      · exact absurd rfl ((Path.prefix_dropLast_iff hp).1 habove).2
  · split
    · simp [*]
    · rename_i h
      exact (or_iff_left h).symm

theorem Entry.EachLevel.withFile {P : List String → Prop} (h : EachLevel P tree) (hnone : P [])
    (hadmits : ∀ s ∈ p.segments, Admits P s) : EachLevel P (withFile tree p f).1 := by
  have hsegments := Path.segments_eq_parent_name hp
  refine EachLevel.inFolder _ (fun hchildren => EachLevel.placeFile _ ?_ hchildren) hnone ?_ h
  · exact hadmits p.name (by rw [hsegments]; simp)
  · intro s hs
    exact hadmits s (by rw [hsegments]; simp [hs])

theorem Entry.Tidy.withFile (h : Tidy tree) (hnormal : p.Normal) : Tidy (withFile tree p f).1 :=
  EachLevel.withFile hp f h (by simp) fun s hs => admits_segments (hnormal s hs)

theorem Entry.Distinct.withFile (h : Distinct tree) : Distinct (withFile tree p f).1 :=
  EachLevel.withFile hp f h (by simp) fun s _ => admits_nodup s

end WithFile

end OverlayShell
