import OverlayShell.Proofs.DeletedFile
import OverlayShell.Proofs.Standing

/-!
# What the next view keeps

A remembered view may show files that the next one does not: a file that has come back silently
covers what was created below it in the meantime. A view is lasting if it shows no such file. Of a
lasting view a write takes no file but those that it is about.
-/

namespace OverlayShell

open Entry

namespace Journal

variable {base : List Entry} {j j' : Journal} {p : Path} {way : List String}

/-! ## 1. Creating a file -/

theorem hides_create (j : Journal) (file : File) (hout : ¬ p.segments <+: way) :
    (j.create p file).hides ⟨way⟩ = j.hides ⟨way⟩ := by
  rw [Bool.eq_iff_iff, hides_iff, hides_iff]
  refine exists_congr fun b => and_congr_right fun _ => and_congr_right fun hb => ?_
  rw [isDeleted_create_iff]
  refine and_iff_left_of_imp fun _ heq => hout ?_
  rw [← heq]
  exact hb

/-- **A created file leaves the others in place**: a file of the merge that does not lie within `p`
is still there after `create p file`, when the journal stays `Clear`. -/
theorem Clear.hasFile_create (hclear : j.Clear base) (hj : j.Sound) {file : File}
    (hclear' : (j.create p file).Clear base) (hj' : (j.create p file).Sound)
    (hout : ¬ p.segments <+: way) (hfile : HasFile way (merge base j).tree) :
    HasFile way (merge base (j.create p file)).tree := by
  have hkept : ∀ b, b <+: way → (HasFile b (survivors (j.create p file) .root base) ↔
      HasFile b (survivors j .root base)) := by
    intro b hb
    rw [hasFile_survivors, hasFile_survivors, hides_create j file fun h => hout (h.trans hb)]
  rcases (hclear.hasFile_merge_iff hj).1 hfile with hfile | ⟨hcreated, hfolder, hfree⟩
  · exact (hclear'.hasFile_merge_iff hj').2 (.inl ((hkept way List.prefix_rfl).2 hfile))
  · refine (hclear'.hasFile_merge_iff hj').2 (.inr ⟨?_, ?_, ?_⟩)
    · exact Bindings.mem_keys_putLast.2 (.inr hcreated)
    · rwa [hasFolder_survivors, hides_create j file hout, ← hasFolder_survivors]
    · rw [isObstructed_eq_false_iff] at hfree ⊢
      intro b hb hblock
      exact hfree b hb ((hkept b (hb.trans (List.dropLast_prefix way))).1 hblock)

theorem created_create (j : Journal) (p : Path) (file : File) :
    (j.create p file).created.entries.filter (fun entry => entry.1 ≠ p) =
      j.created.entries.filter fun entry => entry.1 ≠ p := by
  show (j.created.putLast p file).entries.filter _ = _
  rw [Bindings.entries_putLast, List.filter_append]
  show (j.created.entries.filter _).filter _ ++ _ = _
  have hlast : [(p, file)].filter (fun entry => entry.1 ≠ p) = [] := by simp
  rw [hlast, List.append_nil, List.filter_filter]
  refine List.filter_congr fun entry _ => ?_
  by_cases h : entry.1 = p <;> simp [h]

end Journal

namespace Workspace

variable {base : List Entry} {w w' : Workspace} {lifted : List Path} {p : Path} {f : File}
  {way : List String}

/-! ## 2. Lasting views -/

/-- Every file of `w.tree` is still there when `w.journal` is merged anew. -/
def Lasting (w : Workspace) : Prop :=
  ∀ p : Path, isFileAt w.tree p = true → isFileAt (merge w.base w.journal).tree p = true

theorem Orderly.lasting (h : w.Orderly base []) : w.Lasting := by
  intro p hp
  have htree := h.tree_eq
  rw [Journal.buried_nil] at htree
  rwa [h.sound.base_eq, ← htree]

/-- **A file that is lost** with the next merge has a file of the base above it, one that `w.tree`
did not show. -/
theorem Orderly.lasts_or_covered (h : w.Orderly base lifted) (hfile : HasFile way w.tree) :
    HasFile way (merge base w.journal).tree ∨
      ∃ b, b <+: way ∧ b ≠ way ∧ HasFile b (survivors w.journal .root base) := by
  rw [h.journal.clear.hasFile_merge_iff h.sound.journal]
  have hmade := hfile
  rw [h.tree_eq] at hmade
  rcases Journal.hasFile_merge_cases h.made_sound hmade with hkept | hcreated
  · exact .inl (.inl (hasFile_of_buried hkept))
  have hfolder : ¬ HasFolder way (survivors w.journal .root base) :=
    fun hfolder => hfile.not_folder (h.kept_folder_seen hfolder)
  cases hfree : isObstructed way.dropLast (survivors w.journal .root base) with
  | false => exact .inl (.inr ⟨hcreated, hfolder, rfl⟩)
  | true =>
    obtain ⟨b, hb, hblock⟩ := isObstructed_iff.1 hfree
    have hway := (Path.prefix_dropLast_iff hfile.ne_nil).1 hb
    exact .inr ⟨b, hway.1, hway.2, hblock⟩

/-- **A settled view lasts**, since in a `Settled` workspace whatever was lifted stays unseen. -/
theorem Settled.lasting (h : Settled base w) : w.Lasting := by
  obtain ⟨lifted, horderly, hunseen⟩ := h
  intro p hp
  have hfile := isFileAt_iff.1 hp
  rw [horderly.sound.base_eq, isFileAt_iff]
  refine (horderly.lasts_or_covered hfile).resolve_right ?_
  rintro ⟨b, hb, hne, hblock⟩
  obtain ⟨m, hm⟩ := hfile
  obtain ⟨hhides, hbase⟩ := (hasFile_survivors _ base).1 hblock
  cases hmade : (w.journal.buried lifted).hides ⟨b⟩ with
  | false =>
    -- The file above would be seen, and then nothing below it.
    have hkept := (hasFile_survivors _ base).2 ⟨hmade, hbase⟩
    have hseen := (horderly.clear_made.hasFile_merge_iff horderly.made_sound).2 (.inl hkept)
    rw [← horderly.tree_eq] at hseen
    exact hne (hseen.eq_of_start hb hm)
  | true =>
    -- The tombstone that hides it was put back, but something is seen at its place or below.
    obtain ⟨c, hc, hcb, hdel⟩ := Journal.hides_iff.1 hmade
    have hcway : c ≠ p.segments := by
      rintro rfl
      exact hne (hb.eq_of_length (Nat.le_antisymm hb.length_le hcb.length_le))
    obtain ⟨isOpen, hfolder⟩ := exists_folder_above hc (hcb.trans hb) hcway hm
    rw [Journal.isDeleted_buried, Bool.or_eq_true] at hdel
    rcases hdel with hdel | hlifted
    · rw [Journal.hides_iff.2 ⟨c, hc, hcb, hdel⟩] at hhides
      cases hhides
    · have hnone := hunseen ⟨c⟩ (List.contains_iff_mem.1 hlifted)
      rw [hfolder] at hnone
      cases hnone

/-! ## 3. Listed files that stay -/

/-- A file of `w.files` is in `w'.files`, where `w'` has nothing `lifted`, if at the paths in `keep`
both journals have the same created files and edits and `HasFile` holds of the merge. -/
theorem Orderly.mem_files (h : w.Orderly base lifted) (h' : w'.Orderly base []) (hbase : Tidy base)
    (keep : Path → Bool)
    (hcreated : w'.journal.created.entries.filter (fun entry => keep entry.1) =
      w.journal.created.entries.filter fun entry => keep entry.1)
    (hedited : ∀ q g, keep q = true → w'.journal.edited q g = w.journal.edited q g)
    (hf : f ∈ w.files) (hkeep : keep f.path = true)
    (hseen : HasFile f.path.segments (merge base w'.journal).tree) : f ∈ w'.files := by
  rw [files, h.seen] at hf
  rw [files, h'.seen, Journal.buried_nil]
  have hmade : w'.journal.created.entries.filter (fun entry => keep entry.1) =
      (w.journal.buried lifted).created.entries.filter fun entry => keep entry.1 := hcreated
  exact mem_files_of_seen keep hmade hedited hbase h.made_sound h'.sound.journal hf hkeep
    (isFileAt_iff.2 hseen)

theorem Lasting.hasFile (hlasting : w.Lasting) (hw : w.Sound base) (hbase : Tidy base)
    (hf : f ∈ w.files) : HasFile f.path.segments (merge base w.journal).tree := by
  have hseen := hlasting f.path (isFileAt_iff.2 (hw.of_mem_files hbase hf).2.2)
  rwa [hw.base_eq, isFileAt_iff] at hseen

/-- **Creating a file where nothing is seen** takes no file from a `Lasting` view. -/
theorem Orderly.created_keeps (h : w.Orderly base lifted) (hlasting : w.Lasting)
    (hbase : Tidy base) (h' : w'.Orderly base []) {file : File}
    (hjournal : w'.journal = w.journal.create p file) (hp : p.segments ≠ [])
    (hfree : markAt p.segments w.tree = none) (hf : f ∈ w.files) : f ∈ w'.files := by
  obtain ⟨e, he⟩ := (h.sound.of_mem_files hbase hf).2.2
  -- Nothing is seen at `p`, so no file that is listed lies there or below it.
  have hout : ¬ p.segments <+: f.path.segments := by
    intro hway
    by_cases heq : p.segments = f.path.segments
    · rw [heq, he] at hfree
      cases hfree
    · obtain ⟨isOpen, hfolder⟩ := exists_folder_above hp hway heq he
      rw [hfolder] at hfree
      cases hfree
  have hne : f.path ≠ p := fun heq => hout (heq ▸ List.prefix_rfl)
  have hclear := h'.journal.clear
  have hsound := h'.sound.journal
  rw [hjournal] at hclear hsound
  have hseen := h.journal.clear.hasFile_create h.sound.journal hclear hsound hout
    (hlasting.hasFile h.sound hbase hf)
  -- What is created and edited elsewhere is the same, so the file stays listed as it is seen.
  refine h.mem_files h' hbase (fun q => q ≠ p) ?_ ?_ hf (decide_eq_true hne) ?_
  · rw [hjournal]
    exact Journal.created_create w.journal p file
  · intro q g _
    rw [hjournal]
    rfl
  · rwa [hjournal]

/-- **Pruning** takes no file from a `Lasting` view but those within `p`. -/
theorem Orderly.pruned_keeps (h : w.Orderly base lifted) (hlasting : w.Lasting)
    (hbase : Tidy base) (h' : w'.Orderly base []) (hprunes : w.journal.Prunes p w'.journal)
    (hf : f ∈ w.files) (hout : f.path.isWithin p = false) : f ∈ w'.files := by
  refine h.mem_files h' hbase (fun q => !q.isWithin p) hprunes.created ?_ hf (by simp [hout]) ?_
  · intro q g hkeep
    exact hprunes.edited q g (by simpa using hkeep)
  · exact (hprunes.hasFile_iff h.sound.journal h'.sound.journal h.journal.clear h'.journal.clear
      hout).2 (hlasting.hasFile h.sound hbase hf)

/-- `w.files` has a file of the name and content of `f`. -/
def Lists (w : Workspace) (f : File) : Prop :=
  ∃ g ∈ w.files, g.name = f.name ∧ g.content = f.content

instance (w : Workspace) (f : File) : Decidable (w.Lists f) :=
  inferInstanceAs (Decidable (∃ g ∈ w.files, _))

theorem lists_of_mem (hf : f ∈ w.files) : w.Lists f := ⟨f, hf, rfl, rfl⟩

theorem Lists.hasFile (h : w.Lists f) (hw : w.Sound base) (hbase : Tidy base) :
    HasFile f.path.segments w.tree := by
  obtain ⟨g, hg, hname, -⟩ := h
  have hpath : g.path = f.path := by rw [File.path, File.path, hname]
  rw [← hpath]
  exact (hw.of_mem_files hbase hg).2.2

end Workspace

end OverlayShell
