import OverlayShell.Proofs.DeletedFolder

/-!
# Deleted files

A file is deleted at the path that its name is read as. The flat list loses it and nothing else
exactly if the tree does; and what the tree loses or gains besides has two reasons. The view that
was looked at may have been out of date, and created files below the deleted one, which it had kept
from being seen, find room when it is gone.
-/

namespace OverlayShell

open Entry

namespace Journal

/-! ## 1. What a tombstone leaves -/

theorem created_delete (j : Journal) {p : Path} {keep : Path → Bool} (hp : keep p = false) :
    (j.delete p).created.entries.filter (fun entry => keep entry.1) =
      j.created.entries.filter fun entry => keep entry.1 := by
  show (j.created.entries.filter _).filter _ = _
  rw [List.filter_filter]
  refine List.filter_congr fun entry _ => ?_
  cases hkeep : keep entry.1 with
  | false => rfl
  | true =>
    have hne : entry.1 ≠ p := by
      intro h
      rw [h, hp] at hkeep
      cases hkeep
    simp [hne]

theorem edited_delete (j : Journal) {p q : Path} (hne : q ≠ p) (f : File) :
    (j.delete p).edited q f = j.edited q f := by
  refine edited_congr_at (Bindings.get?_filter _ fun value => ?_) f
  exact bne_iff_ne.2 hne

end Journal

namespace Workspace

variable {base : List Entry} {w w' : Workspace} {lifted : List Path} {name : String} {f g : File}
  {p q : Path}

/-! ## 2. Listed files -/

/-- A listed file stands in the tree, and its name is the key of `f.path`. -/
theorem Sound.of_mem_files (hw : w.Sound base) (hbase : Tidy base) (hf : f ∈ w.files) :
    f.path.Proper ∧ f.name = f.path.key ∧ HasFile f.path.segments w.tree := by
  obtain ⟨lifted, hmade, hseen, -⟩ := hw.seen
  rw [files, hseen] at hf
  rw [tree, hseen]
  exact of_mem_files_merge hbase hmade hf

theorem Sound.eq_of_path_eq (hw : w.Sound base) (hbase : Tidy base) (hf : f ∈ w.files)
    (hg : g ∈ w.files) (h : f.path = g.path) : f = g := by
  obtain ⟨p, hp, f', hf', rfl⟩ := (hw.mem_files_iff hbase).1 hf
  obtain ⟨q, hq, g', hg', rfl⟩ := (hw.mem_files_iff hbase).1 hg
  rw [File.path_of_key (p := p) rfl hp.2, File.path_of_key (p := q) rfl hq.2] at h
  subst h
  rw [hf'] at hg'
  cases hg'
  rfl

/-! ## 3. What is left of the list -/

/-- What the deletion of a listed file leaves. The tombstone is set at the path that `f.name` is
read as. -/
structure FileDeleted (w w' : Workspace) (f : File) : Prop where
  listed : f ∈ w.files
  base_eq : w'.base = w.base
  cache_eq : w'.cache = w.cache
  journal : w'.journal = w.journal.delete (Path.parse f.name)
  openFiles : w'.openFiles = w.openFiles.filter (· != f.name)

theorem deleteFile_done (h : w.deleteFile name = (true, w')) :
    ∃ f, w.file? name = some f ∧ FileDeleted w w' f := by
  rcases w.deleteFile_cases name with hsame | ⟨f, hfind, hf, hdone⟩
  · rw [h] at hsame
    cases hsame
  · rw [h] at hdone
    obtain ⟨-, rfl⟩ := Prod.mk.inj hdone
    exact ⟨f, hfind, hf, rfl, rfl, rfl, rfl⟩

theorem FileDeleted.view_eq (h : FileDeleted w w' f) (hw : w.Sound base) :
    w'.view = merge base w'.journal := by
  refine hw.view_changed h.base_eq h.cache_eq ?_
  rw [h.journal]
  exact Nat.lt_succ_self _

theorem FileDeleted.not_open (h : FileDeleted w w' f) : f.name ∉ w'.openFiles := by
  rw [h.openFiles, List.mem_filter]
  simp

theorem FileDeleted.not_hasFile (h : FileDeleted w w' f) (hw : w.Sound base)
    (hw' : w'.Sound base) : ¬ HasFile (Path.parse f.name).segments w'.tree := by
  have hdel : w'.journal.isDeleted (Path.parse f.name) = true := by
    rw [h.journal]
    exact (Journal.isDeleted_delete _ _ _).2 (.inl rfl)
  rw [tree, h.view_eq hw]
  exact Journal.not_hasFile_of_isDeleted hw'.journal hdel base

/-- **The flat list after a deletion.** It is the earlier one without `f`, in its order, exactly if
the tree has lost the file at that path and has its other files where it had them. -/
theorem FileDeleted.files_eq_iff (h : FileDeleted w w' f) (hw : w.Sound base)
    (hw' : w'.Sound base) (hbase : Tidy base) :
    w'.files = w.files.filter (fun g => g ≠ f) ↔
      ∀ q : Path, isFileAt w'.tree q = (isFileAt w.tree q && q ≠ f.path) := by
  obtain ⟨hproper, hname, -⟩ := hw.of_mem_files hbase h.listed
  constructor
  · intro hfiles q
    rw [Bool.eq_iff_iff, Bool.and_eq_true, isFileAt_iff, isFileAt_iff, decide_eq_true_eq,
      hw'.hasFile_iff hbase, hw.hasFile_iff hbase, hfiles, and_assoc]
    -- The file of this key is another one exactly if the path is another one.
    refine and_congr_right fun hq => ⟨?_, ?_⟩
    · rintro ⟨g, hg, hkey⟩
      obtain ⟨hmem, hne⟩ := List.mem_filter.1 hg
      refine ⟨⟨g, hmem, hkey⟩, fun heq => of_decide_eq_true hne ?_⟩
      refine hw.eq_of_path_eq hbase hmem h.listed ?_
      rw [File.path_of_key hkey hq.2, ← heq]
    · rintro ⟨⟨g, hmem, hkey⟩, hne⟩
      refine ⟨g, List.mem_filter.2 ⟨hmem, decide_eq_true fun heq => hne ?_⟩, hkey⟩
      rw [← heq, File.path_of_key hkey hq.2]
  · intro hsame
    obtain ⟨lifted, hmade, hseen, -⟩ := hw.seen
    let d := Path.parse f.name
    have hnone : isFileAt w'.tree d = false := by
      rw [Bool.eq_false_iff, Ne, isFileAt_iff]
      exact h.not_hasFile hw hw'
    let keep (q : Path) : Bool := q ≠ f.path && q ≠ d
    have hkept : ∀ q, keep q = true → q ≠ f.path ∧ q ≠ d := fun q hq => by simpa [keep] using hq
    have hlist : w'.files = w.files.filter fun g => keep g.path := by
      rw [files, files, h.view_eq hw, hseen]
      refine files_eq_filter keep ?_ ?_ hbase hmade hw'.journal ?_ ?_
      · rw [h.journal]
        exact Journal.created_delete w.journal (by simp [keep, d])
      · intro q g hq
        rw [h.journal]
        exact Journal.edited_delete w.journal (hkept q hq).2 g
      · intro q hq
        rw [← h.view_eq hw, ← hseen]
        refine (hsame q).trans ?_
        rw [decide_eq_true (hkept q hq).1, Bool.and_true]
        rfl
      · intro q hq
        rw [← h.view_eq hw]
        by_cases hd : q = d
        · rw [hd]
          exact hnone
        · have hpath : q = f.path := by simpa [keep, hd] using hq
          refine (hsame q).trans ?_
          simp [hpath]
    rw [hlist]
    refine List.filter_congr fun g hg => ?_
    -- Another listed file has another path, and none is listed at the tombstone unless it is `f`.
    by_cases hgf : g = f
    · simp [keep, hgf]
    · have hpath : g.path ≠ f.path := fun heq => hgf (hw.eq_of_path_eq hbase hg h.listed heq)
      have hd : g.path ≠ d := by
        intro heq
        have hfile := isFileAt_iff.2 (hw.of_mem_files hbase hg).2.2
        have hlost := hsame g.path
        rw [hfile, decide_eq_true hpath, heq, hnone] at hlost
        cases hlost
      simp [keep, hpath, hd, hgf]

/-! ## 4. After a plain run -/

/-- A created file below `p` is in nobody's way once the file seen at `p` is gone: that one is of
the base, for it stands where the created one `Wants` a folder. -/
theorem Orderly.free_below (h : w.Orderly base lifted) (hfile : HasFile p.segments w.tree)
    (hq : q ∈ w.journal.created.keys) (hway : p.segments <+: q.segments)
    (hne : p.segments ≠ q.segments) :
    isObstructed q.segments.dropLast (survivors (w.journal.delete p) .root base) = false := by
  have hproper := (h.sound.journal.created q hq).1
  have hwants : (w.journal.buried lifted).Wants p.segments :=
    Journal.wants_of_created hq hproper hway hne
  obtain ⟨e, he⟩ := hasFile_of_buried (h.kept_of_wants hfile hwants)
  refine isObstructed_eq_false_iff.2 fun b hb hblock => ?_
  obtain ⟨hhides, hbase⟩ := (hasFile_survivors _ base).1 hblock
  have hbefore : HasFile b (survivors w.journal .root base) := by
    refine (hasFile_survivors _ base).2 ⟨Journal.hides_mono (fun r hr => ?_) hhides, hbase⟩
    exact (Journal.isDeleted_delete _ _ _).2 (.inr hr)
  have hbq := ((Path.prefix_dropLast_iff hproper).1 hb).1
  by_cases heq : b = p.segments
  · have hdel := (Journal.isDeleted_delete w.journal p p).2 (.inl rfl)
    rw [heq, Journal.hides_of_isDeleted hfile.ne_nil hdel] at hhides
    cases hhides
  rcases List.prefix_or_prefix_of_prefix hbq hway with hbp | hpb
  -- Two files cannot be kept on one way, nor anything below the one that is seen.
  · exact heq (hbefore.eq_of_start hbp he)
  · obtain ⟨m, hm⟩ := hbefore
    rw [h.nothing_kept_below hfile hpb (Ne.symm heq)] at hm
    cases hm

/-- **Below a deleted file** the files of `journal.created` are seen, and nothing else. -/
theorem Orderly.hasFile_below (h : w.Orderly base lifted) (h' : w'.Orderly base [])
    (hfile : HasFile p.segments w.tree) (hjournal : w'.journal = w.journal.delete p)
    (hwithin : q.isWithin p = true) (hne : q ≠ p) :
    HasFile q.segments w'.tree ↔ q ∈ w.journal.created.keys := by
  have hway := (Path.isWithin_iff q p).1 hwithin
  have hsegments : p.segments ≠ q.segments := fun heq => hne (Path.segments_injective heq.symm)
  have htree := h'.tree_eq
  rw [Journal.buried_nil, hjournal] at htree
  have hclear := h'.journal.clear
  have hsound := h'.sound.journal
  rw [hjournal] at hclear hsound
  have hnone : markAt q.segments (survivors (w.journal.delete p) .root base) = none :=
    Journal.markAt_kept_mono (fun r hr => (Journal.isDeleted_delete _ _ _).2 (.inr hr))
      (h.nothing_kept_below hfile hway hsegments)
  rw [htree, hclear.hasFile_merge_iff hsound, HasFile, HasFolder, hnone]
  simp only [reduceCtorEq, exists_false, false_or, not_false_eq_true, true_and]
  constructor
  · exact fun hcreated => (Bindings.mem_keys_erase.1 hcreated.1).2
  · exact fun hcreated => ⟨Bindings.mem_keys_erase.2 ⟨hne, hcreated⟩,
      h.free_below hfile hcreated hway hsegments⟩

theorem Orderly.isFileAt_deleted_iff (h : w.Orderly base lifted) (h' : w'.Orderly base [])
    (hfile : HasFile p.segments w.tree) (hjournal : w'.journal = w.journal.delete p) :
    (∀ q : Path, isFileAt w'.tree q = (isFileAt w.tree q && q ≠ p)) ↔
      (∀ q : Path, q.isWithin p = false →
        isFileAt (merge base w.journal).tree q = isFileAt w.tree q) ∧
      ∀ q ∈ w.journal.created.keys, q.isWithin p = true → q = p := by
  have hself : p.isWithin p = true := (Path.isWithin_iff p p).2 List.prefix_rfl
  have htree := h'.tree_eq
  rw [Journal.buried_nil] at htree
  have hprunes : w.journal.Prunes p w'.journal := by
    rw [hjournal]
    exact .delete w.journal hself
  have houtside : ∀ q : Path, q.isWithin p = false →
      isFileAt w'.tree q = isFileAt (merge base w.journal).tree q := by
    intro q hout
    rw [Bool.eq_iff_iff, isFileAt_iff, isFileAt_iff, htree]
    exact hprunes.hasFile_iff h.sound.journal h'.sound.journal h.journal.clear h'.journal.clear hout
  have hne : ∀ q : Path, q.isWithin p = false → q ≠ p := by
    rintro q hout rfl
    rw [hself] at hout
    cases hout
  have hbelow : ∀ q : Path, q.isWithin p = true → isFileAt w.tree q = true → q = p := by
    intro q hwithin hq
    obtain ⟨e, he⟩ := isFileAt_iff.1 hq
    have heq := hfile.eq_of_start ((Path.isWithin_iff q p).1 hwithin) he
    exact Path.segments_injective heq.symm
  constructor
  · intro hsame
    refine ⟨fun q hout => ?_, fun q hq hwithin => ?_⟩
    · rw [← houtside q hout, hsame q, decide_eq_true (hne q hout), Bool.and_true]
    · by_contra hqp
      have hseen := isFileAt_iff.2 ((h.hasFile_below h' hfile hjournal hwithin hqp).2 hq)
      rw [hsame q, Bool.and_eq_true] at hseen
      exact hqp (hbelow q hwithin hseen.1)
  · rintro ⟨hcurrent, hnone⟩ q
    cases hout : q.isWithin p with
    | false => rw [houtside q hout, hcurrent q hout, decide_eq_true (hne q hout), Bool.and_true]
    | true =>
      -- Within the path the one file that was seen is gone, and none has come.
      have hlost : (isFileAt w.tree q && decide (q ≠ p)) = false := by
        by_cases hqp : q = p
        · simp [hqp]
        · have hunseen : isFileAt w.tree q = false :=
            Bool.eq_false_iff.2 fun hq => hqp (hbelow q hout hq)
          rw [hunseen, Bool.false_and]
      rw [hlost, Bool.eq_false_iff, Ne, isFileAt_iff]
      by_cases hqp : q = p
      · have hdel := (Journal.isDeleted_delete w.journal p p).2 (.inl rfl)
        rw [hqp, htree]
        exact Journal.not_hasFile_of_isDeleted h'.sound.journal (hjournal ▸ hdel) base
      · rw [h.hasFile_below h' hfile hjournal hout hqp]
        exact fun hq => hqp (hnone q hq hout)

/-- **What a deleted file takes along.** However the workspace came about, once `deleteFile` takes a
file it is the one that `name` denotes, and it is no longer open. `files` loses it and nothing else
exactly if the tree has lost the file at its path and has its other files where it had them. After a
`PlainRun` that is so exactly if the view that was looked at showed the files outside of its path as
the journal has them, and no file was created below it. -/
theorem deleted_file_iff (hbase : Tidy base) (hw : Reachable base w)
    (h : w.deleteFile name = (true, w')) :
    ∃ f, w.file? name = some f ∧ f ∈ w.files ∧ f.name ∉ w'.openFiles ∧
      (w'.files = w.files.filter (fun g => g ≠ f) ↔
        ∀ q : Path, isFileAt w'.tree q = (isFileAt w.tree q && q ≠ f.path)) ∧
      (PlainRun base w →
        (w'.files = w.files.filter (fun g => g ≠ f) ↔
          (∀ q : Path, q.isWithin f.path = false →
            isFileAt (merge base w.journal).tree q = isFileAt w.tree q) ∧
          ∀ q ∈ w.journal.created.keys, q.isWithin f.path = true → q = f.path)) := by
  have hsound := sound_of_reachable hw
  have hsound' : w'.Sound base := by
    have hnext := hsound.deleteFile name
    rwa [h] at hnext
  obtain ⟨f, hfind, hdeleted⟩ := deleteFile_done h
  have hfiles := hdeleted.files_eq_iff hsound hsound' hbase
  refine ⟨f, hfind, hdeleted.listed, hdeleted.not_open, hfiles, fun hplain => ?_⟩
  obtain ⟨lifted, horderly⟩ := hplain.orderly hbase
  obtain ⟨g, hg, hseen, hjournal, horderly'⟩ := horderly.deleteFile_done hbase hplain.1 h
  obtain rfl : f = g := Option.some.inj (hfind.symm.trans hg)
  exact hfiles.trans (horderly.isFileAt_deleted_iff horderly' hseen hjournal)

/-- A file that replaces one of the base is found in another case, deleted and closed. -/
theorem deleted_file_replaced :
    let base : List Entry :=
      [.file ⟨"a", "markdown", "x", false⟩, .file ⟨"b", "markdown", "y", false⟩]
    let w := ((start base [] "").createFile "a" "z").2
    let w' := (w.deleteFile "A").2
    Tidy base ∧ Reachable base w ∧ PlainRun base w ∧ w.deleteFile "A" = (true, w') ∧
      ∃ f, w.file? "A" = some f ∧ f.content = "z" ∧ f.name ∉ w'.openFiles ∧
        w'.files = w.files.filter fun g => g ≠ f := by
  intro base w w'
  have hbase : Tidy base := by decide
  have hw : Reachable base w := ⟨[], "", [.createFile "a" "z"], rfl⟩
  have hplain : PlainRun base w :=
    ⟨by decide, [], "", .go .stay (.createFile "a" "z") (by decide +kernel)⟩
  have hdone : (w.deleteFile "A").1 = true := by decide +kernel
  have hdelete : w.deleteFile "A" = (true, w') := by
    rw [← hdone]
  obtain ⟨f, hfind, -, hopen, -, hfiles⟩ := deleted_file_iff hbase hw hdelete
  have hcontent : ∀ g, w.file? "A" = some g → g.content = "z" ∧ g.path = ⟨["a"]⟩ := by
    decide +kernel
  obtain ⟨hz, hpath⟩ := hcontent f hfind
  have hview : w.view = merge base w.journal := by
    rw [← (sound_of_reachable hw).base_eq]
    exact view_of_not_current (by decide +kernel)
  refine ⟨hbase, hw, hplain, hdelete, f, hfind, hz, hopen, (hfiles hplain).2 ⟨?_, ?_⟩⟩
  · intro q _
    rw [tree, hview]
  · rw [hpath]
    decide +kernel

/-- A file that was recorded below a deleted one comes to be seen. -/
theorem deleted_file_shows_another :
    let base : List Entry := [.file ⟨"a", "markdown", "y", false⟩]
    let w := [Operation.deleteFile "a", .createFile "a/x" "x", .createFolder "a"].foldl perform
      (start base [] "")
    let w' := (w.deleteFile "a").2
    Tidy base ∧ Reachable base w ∧ (w.deleteFile "a").1 = true ∧
      w.file? "a" = some ⟨"a", "markdown", "y", false⟩ ∧ w.files.map File.name = ["a"] ∧
      w'.files.map File.name = ["a/x"] := by
  intro base w w'
  refine ⟨by decide, ⟨[], "", _, rfl⟩, ?_, ?_, ?_, ?_⟩ <;> decide +kernel

end Workspace

end OverlayShell
