import OverlayShell.Proofs.Deletion
import OverlayShell.Proofs.PlainPath

/-!
# Orderly journals

A journal is orderly if no created file gets in the way of a folder that is wanted, and a created
folder has a tombstone only where a file of the base would stand without it. A write that is
checked against what is seen keeps the journal in order, even if the view that was looked at lacks
the files that came back silently.
-/

namespace OverlayShell

open Entry

namespace Journal

variable {base : List Entry} {j j' : Journal} {p : Path} {way : List String}

/-! ## 1. Files that come back -/

/-- `base` has a file at the created folder `p`, and nothing hides the place around it: without a
tombstone of its own the file is there. -/
structure Returning (base : List Entry) (j : Journal) (p : Path) : Prop where
  folder : p ∈ j.folders
  file : HasFile p.segments base
  above : j.hides p.parent = false

theorem hides_of_fewer (hfewer : ∀ q, j'.isDeleted q = true → j.isDeleted q = true)
    (h : j'.hides p = true) : j.hides p = true := by
  obtain ⟨b, hne, hb, hdel⟩ := hides_iff.1 h
  exact hides_iff.2 ⟨b, hne, hb, hfewer _ hdel⟩

theorem hides_mono (hfewer : ∀ q, j'.isDeleted q = true → j.isDeleted q = true)
    (h : j.hides p = false) : j'.hides p = false := by
  rw [Bool.eq_false_iff] at h ⊢
  exact fun hhides => h (hides_of_fewer hfewer hhides)

theorem markAt_kept_eq_none_iff :
    markAt way (survivors j .root base) = none ↔
      j.hides ⟨way⟩ = true ∨ markAt way base = none := by
  rw [markAt_survivors_root]
  cases j.hides ⟨way⟩ <;> simp

theorem markAt_kept_mono (hfewer : ∀ q, j'.isDeleted q = true → j.isDeleted q = true)
    (h : markAt way (survivors j' .root base) = none) :
    markAt way (survivors j .root base) = none := by
  rw [markAt_kept_eq_none_iff] at h ⊢
  exact h.imp_left (hides_of_fewer hfewer)

/-- What `base` has where `hides` fails is seen in the merge, if only as a folder in its place. -/
theorem markAt_merge_ne_none (hj : j.Sound) (hhides : j.hides ⟨way⟩ = false) {m : Mark}
    (hm : markAt way base = some m) : markAt way (merge base j).tree ≠ none := by
  intro hnone
  cases m with
  | file f =>
    obtain ⟨g, hg⟩ := hasFile_merge_of_kept hj ((hasFile_survivors j base).2 ⟨hhides, f, hm⟩)
    rw [hnone] at hg
    cases hg
  | folder isOpen =>
    obtain ⟨o, ho⟩ :=
      hasFolder_merge_of_kept hj ((hasFolder_survivors j base).2 ⟨hhides, isOpen, hm⟩)
    rw [hnone] at ho
    cases ho

theorem Returning.mono (h : j.Returning base p) (hfolders : p ∈ j'.folders)
    (hfewer : ∀ q, j'.isDeleted q = true → j.isDeleted q = true) : j'.Returning base p where
  folder := hfolders
  file := h.file
  above := hides_mono hfewer h.above

/-- Above a `Returning` folder the base has folders, and `survivors` keeps them. -/
theorem Returning.kept_above (h : j.Returning base p) (hne : way ≠ []) (hway : way <+: p.segments)
    (hproper : way ≠ p.segments) : HasFolder way (survivors j .root base) := by
  obtain ⟨f, hf⟩ := h.file
  have habove : way <+: p.parent.segments :=
    (Path.prefix_dropLast_iff h.file.ne_nil).2 ⟨hway, hproper⟩
  exact (hasFolder_survivors j base).2
    ⟨hides_start (b := ⟨way⟩) habove h.above, exists_folder_above hne hway hproper hf⟩

/-- Without its tombstone a `Returning` folder has the file of the base at its place. -/
theorem Returning.kept (h : j.Returning base p) (hdel : j.isDeleted p = false) :
    HasFile p.segments (survivors j .root base) := by
  refine (hasFile_survivors j base).2 ⟨?_, h.file⟩
  show j.hides p = false
  rw [hides_eq_isDeleted h.file.ne_nil h.above, hdel]

theorem Returning.markAt_ne_none (h : j.Returning base p) (hdel : j.isDeleted p = false)
    (hne : way ≠ []) (hway : way <+: p.segments) :
    markAt way (survivors j .root base) ≠ none := by
  by_cases hp : way = p.segments
  · obtain ⟨f, hf⟩ := h.kept hdel
    rw [hp, hf]
    exact Option.some_ne_none _
  · obtain ⟨o, ho⟩ := h.kept_above hne hway hp
    rw [ho]
    exact Option.some_ne_none _

/-! ## 2. Orderly journals -/

/-- Created files are in nobody's way and have plain paths, and a created folder with a tombstone is
`Returning`. -/
structure Orderly (base : List Entry) (j : Journal) : Prop where
  clear : j.Clear base
  plain : ∀ p ∈ j.created.keys, p.Plain
  again : ∀ p ∈ j.folders, j.isDeleted p = true → j.Returning base p

theorem Orderly.empty (base : List Entry) : empty.Orderly base where
  clear := by simp [Clear, Journal.empty, Bindings.empty, Bindings.keys]
  plain := by simp [Journal.empty, Bindings.empty, Bindings.keys]
  again := by simp [Journal.empty]

theorem Orderly.congr (h : j.Orderly base) (hcreated : j'.created = j.created)
    (hfolders : j'.folders = j.folders) (hdeleted : j'.isDeleted = j.isDeleted) :
    j'.Orderly base := by
  have hfewer : ∀ q, j.isDeleted q = true → j'.isDeleted q = true := fun q hq => by rwa [hdeleted]
  refine ⟨fun q hq hnone hwants => ?_, ?_, fun q hq hdel => ?_⟩
  · refine h.clear q (hcreated ▸ hq) (markAt_kept_mono (fun r hr => ?_) hnone) ?_
    · rwa [hdeleted] at hr
    · unfold Wants at hwants ⊢
      rwa [hfolders, hcreated, hdeleted] at hwants
  · rw [hcreated]
    exact h.plain
  · rw [hdeleted] at hdel
    rw [hfolders] at hq
    exact (h.again q hq hdel).mono (hfolders ▸ hq) fun r hr => by rwa [hdeleted] at hr

/-- What `Emptied` a place takes nothing out of order elsewhere. -/
theorem Orderly.emptied (h : j.Orderly base) (hprunes : j.Prunes p j') (hempty : j'.Emptied p) :
    j'.Orderly base where
  clear := by
    refine hprunes.clear h.clear fun q hq hwithin => ?_
    rw [hempty.created q hq] at hwithin
    cases hwithin
  plain := fun q hq => h.plain q (hprunes.created_old q hq)
  again := by
    intro q hq hdel
    have hout : q.isWithin p = false := hempty.folders q hq
    rw [hprunes.isDeleted_eq hout] at hdel
    have hold := h.again q (hprunes.folders_old q hq) hdel
    have habove : q.parent.isWithin p = false :=
      Path.isWithin_start hout (List.dropLast_prefix _)
    exact ⟨hq, hold.file, (hprunes.hides_eq habove).trans hold.above⟩

/-! ## 3. What a write makes wanted -/

theorem isDeleted_create_iff (j : Journal) (p : Path) (file : File) (q : Path) :
    (j.create p file).isDeleted q = true ↔ j.isDeleted q = true ∧ q ≠ p := by
  rw [isDeleted_iff, isDeleted_iff]
  exact mem_without

theorem isDeleted_addFolder_iff (j : Journal) (p q : Path) :
    (j.addFolder p).isDeleted q = true ↔ j.isDeleted q = true ∧ q ≠ p := by
  rw [isDeleted_addFolder, Bool.and_eq_true, bne_iff_ne]

theorem wants_create {file : File} (h : (j.create p file).Wants way) :
    j.Wants way ∨ (p ∈ j.folders ∧ j.isDeleted p = true ∧ way <+: p.segments) ∨
      way <+: p.parent.segments := by
  rcases h with ⟨q, hq, hdel, hway⟩ | ⟨q, hq, hway⟩
  · cases hold : j.isDeleted q with
    | false => exact .inl (.inl ⟨q, hq, hold, hway⟩)
    | true =>
      -- The one tombstone that went is that of the new file.
      have hqp : q = p := by
        by_contra hne
        rw [(isDeleted_create_iff j p file q).2 ⟨hold, hne⟩] at hdel
        cases hdel
      subst hqp
      exact .inr (.inl ⟨hq, hold, hway⟩)
  · rcases Bindings.mem_keys_putLast.1 hq with rfl | hq
    · exact .inr (.inr hway)
    · exact .inl (.inr ⟨q, hq, hway⟩)

theorem mem_folders_addFolder {q : Path} :
    q ∈ (j.addFolder p).folders ↔ q = p ∨ q ∈ j.folders := by
  unfold addFolder
  split
  · rename_i hfolder
    have hmem : p ∈ j.folders := List.contains_iff_mem.1 hfolder
    exact ⟨.inr, fun h => h.elim (fun hq => hq ▸ hmem) id⟩
  · show q ∈ j.folders ++ [p] ↔ _
    rw [List.mem_append, List.mem_singleton, or_comm]

theorem created_addFolder (j : Journal) (p : Path) : (j.addFolder p).created = j.created := by
  unfold addFolder
  split <;> rfl

theorem wants_addFolder (h : (j.addFolder p).Wants way) : j.Wants way ∨ way <+: p.segments := by
  rcases h with ⟨q, hq, hdel, hway⟩ | ⟨q, hq, hway⟩
  · by_cases hqp : q = p
    · exact .inr (hqp ▸ hway)
    · refine .inl (.inl ⟨q, (mem_folders_addFolder.1 hq).resolve_left hqp, ?_, hway⟩)
      rwa [isDeleted_addFolder, bne_iff_ne.2 hqp, Bool.and_true] at hdel
  · rw [created_addFolder] at hq
    exact .inl (.inr ⟨q, hq, hway⟩)

/-- `j'` has all that was created in `j`, and every tombstone but, perhaps, that of `p`. -/
structure Grows (p : Path) (j j' : Journal) : Prop where
  fewer : ∀ q, j'.isDeleted q = true → j.isDeleted q = true
  deleted : ∀ q, j.isDeleted q = true → q ≠ p → j'.isDeleted q = true
  folders : ∀ q ∈ j.folders, q ∈ j'.folders
  created : ∀ q ∈ j.created.keys, q ∈ j'.created.keys

theorem Grows.of_eq (h : j' = j) (p : Path) : Grows p j j' := by
  subst h
  exact ⟨fun _ hq => hq, fun _ hq _ => hq, fun _ hq => hq, fun _ hq => hq⟩

theorem Grows.create (j : Journal) (p : Path) (file : File) : Grows p j (j.create p file) where
  fewer := fun q hq => ((isDeleted_create_iff j p file q).1 hq).1
  deleted := fun q hq hne => (isDeleted_create_iff j p file q).2 ⟨hq, hne⟩
  folders := fun _ hq => hq
  created := fun _ hq => Bindings.mem_keys_putLast.2 (.inr hq)

theorem Grows.addFolder (j : Journal) (p : Path) : Grows p j (j.addFolder p) where
  fewer := fun q hq => ((isDeleted_addFolder_iff j p q).1 hq).1
  deleted := fun q hq hne => (isDeleted_addFolder_iff j p q).2 ⟨hq, hne⟩
  folders := fun _ hq => mem_folders_addFolder.2 (.inr hq)
  created := by
    intro q hq
    rwa [created_addFolder]

theorem isDeleted_buried_of (paths : List Path) {q : Path} (h : j.isDeleted q = true) :
    (j.buried paths).isDeleted q = true := by
  rw [isDeleted_buried, h, Bool.true_or]

theorem Wants.of_buried {paths : List Path} (h : (j.buried paths).Wants way) : j.Wants way := by
  rcases h with ⟨q, hq, hdel, hway⟩ | hcreated
  · refine .inl ⟨q, hq, ?_, hway⟩
    rw [Bool.eq_false_iff] at hdel ⊢
    exact fun hold => hdel (isDeleted_buried_of paths hold)
  · exact .inr hcreated

/-- What `j` wants it wants with the tombstones of `paths` put back, unless one of these is at it or
below. -/
theorem Wants.buried_or (h : j.Wants way) (paths : List Path) :
    (j.buried paths).Wants way ∨
      ∃ q ∈ paths, q ∈ j.folders ∧ j.isDeleted q = false ∧ way <+: q.segments := by
  rcases h with ⟨q, hq, hdel, hway⟩ | hcreated
  · by_cases hmem : q ∈ paths
    · exact .inr ⟨q, hmem, hq, hdel, hway⟩
    · refine .inl (.inl ⟨q, hq, ?_, hway⟩)
      rw [isDeleted_buried, hdel, Bool.false_or]
      simpa using hmem
  · exact .inl (.inr hcreated)

end Journal

/-! ## 4. Orderly workspaces -/

namespace Workspace

/-- `w.journal` is orderly, and `w.tree` is its merge with the tombstones of `lifted` put back, all
of them on `Returning` folders. So a view from before those were lifted is described by the journal
as it is now. -/
structure Orderly (base : List Entry) (w : Workspace) (lifted : List Path) : Prop where
  sound : w.Sound base
  journal : w.journal.Orderly base
  apart : ∀ p ∈ w.journal.created.keys, p ∉ lifted
  returning : ∀ p ∈ lifted, w.journal.Returning base p
  seen : w.view = merge base (w.journal.buried lifted)

variable {base : List Entry} {w w' : Workspace} {lifted : List Path} {p : Path} {way : List String}

theorem Orderly.made_sound (h : w.Orderly base lifted) : (w.journal.buried lifted).Sound := by
  refine ⟨h.sound.journal.created, h.sound.journal.folders, fun q hq hdel => ?_⟩
  rcases List.mem_append.1 hdel with hdel | hdel
  · exact h.sound.journal.apart q hq hdel
  · exact h.apart q hq hdel

theorem Orderly.tree_eq (h : w.Orderly base lifted) :
    w.tree = (merge base (w.journal.buried lifted)).tree := by
  rw [tree, h.seen]

/-- `survivors` of the journal keeps what it kept with `paths` buried, and perhaps more. -/
theorem hasFile_of_buried {j : Journal} {paths : List Path}
    (h : HasFile way (survivors (j.buried paths) .root base)) :
    HasFile way (survivors j .root base) := by
  rw [hasFile_survivors] at h ⊢
  exact h.imp_left (Journal.hides_mono fun q => Journal.isDeleted_buried_of paths)

theorem hasFolder_of_buried {j : Journal} {paths : List Path}
    (h : HasFolder way (survivors (j.buried paths) .root base)) :
    HasFolder way (survivors j .root base) := by
  rw [hasFolder_survivors] at h ⊢
  exact h.imp_left (Journal.hides_mono fun q => Journal.isDeleted_buried_of paths)

/-- The tombstones of `lifted` lie on files, so they hide no folder of the base. -/
theorem Orderly.kept_folder_seen (h : w.Orderly base lifted)
    (hfolder : HasFolder way (survivors w.journal .root base)) : HasFolder way w.tree := by
  rw [h.tree_eq]
  refine hasFolder_merge_of_kept h.made_sound ((hasFolder_survivors _ base).2 ?_)
  obtain ⟨hhides, o, ho⟩ := (hasFolder_survivors _ base).1 hfolder
  refine ⟨?_, o, ho⟩
  rw [Bool.eq_false_iff]
  intro hmade
  obtain ⟨b, hne, hb, hdel⟩ := Journal.hides_iff.1 hmade
  rw [Journal.isDeleted_buried, Bool.or_eq_true] at hdel
  rcases hdel with hdel | hdel
  · rw [Journal.hides_iff.2 ⟨b, hne, hb, hdel⟩] at hhides
    cases hhides
  · -- The base has a file there, so nothing is below it and no folder in its place.
    have hfile : HasFile b base := (h.returning ⟨b⟩ (List.contains_iff_mem.1 hdel)).file
    obtain rfl : b = way := hfile.eq_of_start hb ho
    exact hfile.not_folder ⟨o, ho⟩

theorem Orderly.clear_made (h : w.Orderly base lifted) :
    (w.journal.buried lifted).Clear base := by
  intro q hq hnone hwants
  refine h.journal.clear q hq ?_ hwants.of_buried
  -- A created file is none of those folders, and below them the base has nothing.
  rw [Journal.markAt_kept_eq_none_iff] at hnone ⊢
  rcases hnone with hhides | hnone
  · obtain ⟨b, hne, hb, hdel⟩ := Journal.hides_iff.1 hhides
    rw [Journal.isDeleted_buried, Bool.or_eq_true] at hdel
    rcases hdel with hdel | hdel
    · exact .inl (Journal.hides_iff.2 ⟨b, hne, hb, hdel⟩)
    · have hmem : (⟨b⟩ : Path) ∈ lifted := List.contains_iff_mem.1 hdel
      have hfile : HasFile b base := (h.returning ⟨b⟩ hmem).file
      right
      cases hmark : markAt q.segments base with
      | none => rfl
      | some m =>
        obtain rfl : b = q.segments := hfile.eq_of_start hb hmark
        exact absurd hmem (h.apart q hq)
  · exact .inr hnone

/-- A file of `w.tree` where a folder is wanted is one that `survivors` keeps. -/
theorem Orderly.kept_of_wants (h : w.Orderly base lifted) (hfile : HasFile way w.tree)
    (hwants : (w.journal.buried lifted).Wants way) :
    HasFile way (survivors (w.journal.buried lifted) .root base) := by
  rw [h.tree_eq] at hfile
  exact h.clear_made.kept_of_wants h.made_sound hwants hfile

/-- At a created file where `survivors` keeps nothing the view has a file, there or above. -/
theorem Orderly.created_obstructed (h : w.Orderly base lifted)
    (hp : p ∈ w.journal.created.keys)
    (hnone : markAt p.segments (survivors w.journal .root base) = none) :
    isObstructed p.segments w.tree = true := by
  rw [h.tree_eq]
  rcases Journal.created_folder_or_obstructed h.made_sound base hp with hfolder | hobs
  · rcases Journal.hasFolder_merge_cases h.made_sound hfolder with hkept | ⟨-, hwants⟩
    · obtain ⟨o, ho⟩ := hasFolder_of_buried hkept
      rw [hnone] at ho
      cases ho
    · exact absurd hwants.of_buried (h.journal.clear p hp hnone)
  · exact hobs

/-- No folder is wanted at `p` where none is seen, if no file stands above and `survivors` keeps
nothing there. -/
theorem Orderly.not_wanted (h : w.Orderly base lifted) (hproper : p.segments ≠ [])
    (hfolder : ¬ HasFolder p.segments w.tree)
    (hfree : isObstructed p.parent.segments w.tree = false)
    (hnone : markAt p.segments (survivors w.journal .root base) = none) :
    ¬ w.journal.Wants p.segments := by
  intro hwants
  rcases hwants.buried_or lifted with hmade | ⟨l, hl, -, hdel, hway⟩
  · -- A wanted folder is seen if no file is in its way, and only a kept one can be.
    cases hobs : isObstructed p.segments w.tree with
    | false =>
      rw [h.tree_eq] at hobs hfolder
      exact hfolder (hmade.hasFolder h.made_sound hproper hobs)
    | true =>
      obtain ⟨b, hb, hfile⟩ := isObstructed_iff.1 hobs
      by_cases hbp : b = p.segments
      · subst hbp
        obtain ⟨f, hf⟩ := hasFile_of_buried (h.kept_of_wants hfile hmade)
        rw [hnone] at hf
        cases hf
      · have habove := (Path.prefix_dropLast_iff hproper).2 ⟨hb, hbp⟩
        exact isObstructed_eq_false_iff.1 hfree b habove hfile
  · -- A tombstone that was put back lies at it or below, where a file of the base comes back.
    exact (h.returning l hl).markAt_ne_none hdel hproper hway hnone

theorem Orderly.nothing_kept_below (h : w.Orderly base lifted) (hfile : HasFile p.segments w.tree)
    (hway : p.segments <+: way) (hne : p.segments ≠ way) :
    markAt way (survivors w.journal .root base) = none := by
  cases hmark : markAt way (survivors w.journal .root base) with
  | none => rfl
  | some m =>
    have hfolder := exists_folder_above hfile.ne_nil hway hne hmark
    exact absurd (h.kept_folder_seen hfolder) hfile.not_folder

/-- A file of `w.tree` at the path of a created folder is one of the base: the folder is wanted
there, unless it has a tombstone. -/
theorem Orderly.kept_at_folder (h : w.Orderly base lifted) (hfile : HasFile p.segments w.tree)
    (hmem : p ∈ w.journal.folders) : HasFile p.segments (survivors w.journal .root base) := by
  have hmade := hfile
  rw [h.tree_eq] at hmade
  rcases Journal.hasFile_merge_cases h.made_sound hmade with hkept | hcreated
  · exact hasFile_of_buried hkept
  · have hlive := Journal.isDeleted_created h.made_sound hcreated
    exact hasFile_of_buried (h.kept_of_wants hfile (.inl ⟨p, hmem, hlive, List.prefix_rfl⟩))

/-! ## 5. The writes keep the journal in order -/

/-- `create` keeps the journal orderly where no folder is seen, nor a file above. -/
theorem Orderly.create (h : w.Orderly base lifted) (hplain : p.Plain)
    (hproper : p.segments ≠ []) (hfolder : ¬ HasFolder p.segments w.tree)
    (hfree : isObstructed p.parent.segments w.tree = false) (file : File) :
    (w.journal.create p file).Orderly base := by
  have hfewer := (Journal.Grows.create w.journal p file).fewer
  have hlive : (w.journal.create p file).isDeleted p = false := by
    rw [Bool.eq_false_iff]
    exact fun hdel => ((Journal.isDeleted_create_iff _ p file p).1 hdel).2 rfl
  refine ⟨fun q hq hnone hwants => ?_, ?_, fun q hq hdel => ?_⟩
  · have hold : markAt q.segments (survivors w.journal .root base) = none :=
      Journal.markAt_kept_mono hfewer hnone
    have hroot : q.segments ≠ [] := by
      rcases Bindings.mem_keys_putLast.1 hq with rfl | hq
      · exact hproper
      · exact (h.sound.journal.created q hq).1
    -- The folder was wanted before, or for one whose tombstone goes, or lies above the new file.
    rcases Journal.wants_create hwants with hbefore | ⟨hmem, hdel, hqp⟩ | hqp
    · rcases Bindings.mem_keys_putLast.1 hq with rfl | hq
      · exact h.not_wanted hproper hfolder hfree hold hbefore
      · exact h.journal.clear q hq hold hbefore
    · have hback : (w.journal.create p file).Returning base p :=
        (h.journal.again p hmem hdel).mono hmem hfewer
      exact hback.markAt_ne_none hlive hroot hqp hnone
    · have hne : q ≠ p := by
        rintro rfl
        exact ((Path.prefix_dropLast_iff hproper).1 hqp).2 rfl
      have hcreated := (Bindings.mem_keys_putLast.1 hq).resolve_left hne
      have hobs := isObstructed_further (h.created_obstructed hcreated hold) hqp
      rw [hfree] at hobs
      cases hobs
  · intro q hq
    rcases Bindings.mem_keys_putLast.1 hq with rfl | hq
    · exact hplain
    · exact h.journal.plain q hq
  · exact (h.journal.again q hq (hfewer q hdel)).mono hq hfewer

/-- `addFolder` keeps it orderly where no file is seen in its way. -/
theorem Orderly.addFolder (h : w.Orderly base lifted)
    (hfree : isObstructed p.segments w.tree = false) : (w.journal.addFolder p).Orderly base := by
  have hfewer := (Journal.Grows.addFolder w.journal p).fewer
  refine ⟨fun q hq hnone hwants => ?_, ?_, fun q hq hdel => ?_⟩
  · rw [Journal.created_addFolder] at hq
    have hold : markAt q.segments (survivors w.journal .root base) = none :=
      Journal.markAt_kept_mono hfewer hnone
    rcases Journal.wants_addFolder hwants with hbefore | hqp
    · exact h.journal.clear q hq hold hbefore
    · have hobs := isObstructed_further (h.created_obstructed hq hold) hqp
      rw [hfree] at hobs
      cases hobs
  · rw [Journal.created_addFolder]
    exact h.journal.plain
  · -- The new folder has no tombstone, so this is one of the earlier ones.
    have hne := ((Journal.isDeleted_addFolder_iff _ p q).1 hdel).2
    have hmem := (Journal.mem_folders_addFolder.1 hq).resolve_left hne
    exact (h.journal.again q hmem (hfewer q hdel)).mono hq hfewer

/-- `delete` keeps it orderly where a file is seen. -/
theorem Orderly.delete (h : w.Orderly base lifted) (hfile : HasFile p.segments w.tree) :
    (w.journal.delete p).Orderly base := by
  have hprunes : w.journal.Prunes p (w.journal.delete p) :=
    .delete _ ((Path.isWithin_iff p p).2 List.prefix_rfl)
  refine ⟨hprunes.clear h.journal.clear fun q hq hwithin => ?_,
    fun q hq => h.journal.plain q (hprunes.created_old q hq), fun q hq hdel => ?_⟩
  · have hne : q ≠ p := (Bindings.mem_keys_erase.1 hq).1
    exact h.nothing_kept_below hfile ((Path.isWithin_iff q p).1 hwithin) fun heq =>
      hne (Path.segments_injective heq.symm)
  · have hmem : q ∈ w.journal.folders := hq
    obtain ⟨hfileq, habove⟩ : HasFile q.segments base ∧ w.journal.hides q.parent = false := by
      by_cases hqp : q = p
      · subst hqp
        obtain ⟨hhides, hbase⟩ := (hasFile_survivors _ base).1 (h.kept_at_folder hfile hmem)
        exact ⟨hbase, Journal.hides_start (List.dropLast_prefix _) hhides⟩
      · have hold := ((Journal.isDeleted_delete _ p q).1 hdel).resolve_left hqp
        have hback := h.journal.again q hmem hold
        exact ⟨hback.file, hback.above⟩
    refine ⟨hq, hfileq, ?_⟩
    -- The new tombstone is not above the folder, where the base has kept folders.
    cases hout : q.parent.isWithin p with
    | false => rw [hprunes.hides_eq hout, habove]
    | true =>
      obtain ⟨f, hf⟩ := hfileq
      have hpq : p.segments <+: q.parent.segments := (Path.isWithin_iff _ _).1 hout
      have hqroot : q.segments ≠ [] := (h.sound.journal.folders q hmem).1
      obtain ⟨hbelow, hne⟩ := (Path.prefix_dropLast_iff hqroot).1 hpq
      have hfolder : HasFolder p.segments (survivors w.journal .root base) :=
        (hasFolder_survivors _ base).2
          ⟨Journal.hides_start hpq habove, exists_folder_above hfile.ne_nil hbelow hne hf⟩
      exact absurd (h.kept_folder_seen hfolder) hfile.not_folder

end Workspace

end OverlayShell
