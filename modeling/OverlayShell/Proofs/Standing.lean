import OverlayShell.Proofs.PlainRun

/-!
# Standing folders

A creation where nothing is seen leaves every folder standing. A deletion leaves those standing that
are still supported: by the base, or by what else was created. Neither holds of a view that hides
what a tombstone hides no more, so it is part of the invariant that at the folders whose tombstones
went silently nothing is seen yet.
-/

namespace OverlayShell

open Entry

namespace Journal

variable {base : List Entry} {j j' : Journal} {p : Path} {way : List String}

/-! ## 1. Support -/

theorem Grows.supports (h : Grows p j j') (hsupport : j.Supports base way) :
    j'.Supports base way := by
  rcases hsupport with hkept | ⟨q, hq, hdel, hway⟩ | ⟨q, hq, hway⟩
  · rw [hasFolder_survivors] at hkept
    exact .inl ((hasFolder_survivors j' base).2 (hkept.imp_left (hides_mono h.fewer)))
  · refine .inr (.inl ⟨q, h.folders q hq, ?_, hway⟩)
    rw [Bool.eq_false_iff] at hdel ⊢
    exact fun hnew => hdel (h.fewer q hnew)
  · exact .inr (.inr ⟨q, h.created q hq, hway⟩)

theorem Prunes.supports_old (h : Prunes p j j') (hsupport : j'.Supports base way) :
    j.Supports base way := by
  rcases hsupport with hkept | hwants
  · rw [hasFolder_survivors] at hkept
    exact .inl ((hasFolder_survivors j base).2 (hkept.imp_left (hides_mono h.deleted)))
  · exact .inr (h.wants_old hwants)

end Journal

namespace Workspace

variable {base : List Entry} {w w' : Workspace} {lifted lifted' : List Path} {p : Path}
  {name : String} {way : List String}

/-- Every folder of `w.tree` is one that the journal `Supports`. -/
theorem Orderly.supported (h : w.Orderly base lifted) (hfolder : HasFolder way w.tree) :
    w.journal.Supports base way := by
  rw [h.tree_eq] at hfolder
  rcases Journal.hasFolder_merge_cases h.made_sound hfolder with hkept | ⟨-, hwants⟩
  · exact .inl (hasFolder_of_buried hkept)
  · exact .inr hwants.of_buried

/-! ## 2. What the next view shows -/

/-- **A supported folder stays**, when a new view is made and no tombstone of the old one has gone
where `w.tree` has something. -/
theorem Orderly.folder_stays (h : w.Orderly base lifted) (h' : w'.Orderly base [])
    (htombs : ∀ q, (w.journal.buried lifted).isDeleted q = true →
      w'.journal.isDeleted q = true ∨ markAt q.segments w.tree = none)
    (hfolder : HasFolder way w.tree) (hsupport : w'.journal.Supports base way) :
    HasFolder way w'.tree := by
  have htree' := h'.tree_eq
  rw [Journal.buried_nil] at htree'
  rw [htree']
  rcases hsupport with hkept | hwants
  · exact hasFolder_merge_of_kept h'.sound.journal hkept
  · refine hwants.hasFolder h'.sound.journal hfolder.ne_nil ?_
    rw [Bool.eq_false_iff]
    intro hobs
    -- A file in the way could only be one of the base.
    obtain ⟨b, hb, hfile⟩ := isObstructed_iff.1 hobs
    have hkept := h'.journal.clear.kept_of_wants h'.sound.journal (hwants.above hb) hfile
    obtain ⟨hhides', hbase⟩ := (hasFile_survivors _ base).1 hkept
    have hhides : (w.journal.buried lifted).hides ⟨b⟩ = false := by
      rw [Bool.eq_false_iff]
      intro hhides
      obtain ⟨t, hne, ht, hdel⟩ := Journal.hides_iff.1 hhides
      rcases htombs ⟨t⟩ hdel with hstill | hnone
      · rw [Journal.hides_iff.2 ⟨t, hne, ht, hstill⟩] at hhides'
        cases hhides'
      · obtain ⟨o, ho⟩ := hfolder.above hne (ht.trans hb)
        rw [hnone] at ho
        cases ho
    -- So it was seen before, where a folder was seen.
    have hseen : HasFile b w.tree := by
      rw [h.tree_eq]
      exact hasFile_merge_of_kept h.made_sound ((hasFile_survivors _ base).2 ⟨hhides, hbase⟩)
    obtain ⟨o, ho⟩ := hfolder
    obtain rfl : b = way := hseen.eq_of_start hb ho
    exact hseen.not_folder ⟨o, ho⟩

/-! ## 3. Settled workspaces -/

/-- `w` is `Orderly`, and nothing is seen at the folders whose tombstones are `lifted`. -/
def Settled (base : List Entry) (w : Workspace) : Prop :=
  ∃ lifted, w.Orderly base lifted ∧ ∀ q ∈ lifted, markAt q.segments w.tree = none

theorem Settled.start (base : List Entry) (openFiles : List String) (active : String) :
    Settled base (start base openFiles active) :=
  ⟨[], .start base openFiles active, by simp⟩

theorem Settled.same (h : Settled base w) (hbase : w'.base = w.base)
    (hjournal : w'.journal = w.journal) (hcache : w'.cache = w.cache) : Settled base w' := by
  obtain ⟨lifted, horderly, hunseen⟩ := h
  have hview : w'.view = w.view := view_congr hbase hjournal hcache
  refine ⟨lifted, horderly.same (horderly.sound.same hbase hjournal hcache) hjournal hview, ?_⟩
  intro q hq
  rw [tree, hview]
  exact hunseen q hq

theorem Settled.refresh (h : Settled base w) : Settled base w.refresh := by
  obtain ⟨lifted, horderly, hunseen⟩ := h
  refine ⟨lifted, horderly.refresh, fun q hq => ?_⟩
  rw [tree, view_refresh]
  exact hunseen q hq

/-- `Settled` is kept by a creation where nothing is seen. -/
theorem Settled.grows (h : w.Orderly base lifted)
    (hunseen : ∀ q ∈ lifted, markAt q.segments w.tree = none) (h' : w'.Orderly base lifted')
    (hlifts : Lifts w w' p lifted lifted') (hgrows : w.journal.Grows p w'.journal)
    (hfree : markAt p.segments w.tree = none) :
    Settled base w' ∧ ∀ way, HasFolder way w.tree → HasFolder way w'.tree := by
  rcases hlifts with rfl | ⟨hview, hmem⟩
  · refine ⟨⟨[], h', by simp⟩, fun way hfolder => ?_⟩
    refine h.folder_stays h' (fun q hq => ?_) hfolder (hgrows.supports (h.supported hfolder))
    rw [Journal.isDeleted_buried, Bool.or_eq_true] at hq
    rcases hq with hq | hq
    · by_cases hqp : q = p
      · exact .inr (hqp ▸ hfree)
      · exact .inl (hgrows.deleted q hq hqp)
    · exact .inr (hunseen q (List.contains_iff_mem.1 hq))
  · have htree : w'.tree = w.tree := congrArg View.tree hview
    rw [Settled, htree]
    refine ⟨⟨lifted', h', fun q hq => ?_⟩, fun way hfolder => hfolder⟩
    rcases hmem q hq with hq | rfl
    · exact hunseen q hq
    · exact hfree

theorem createFile_grows (w : Workspace) (name content : String) :
    w.journal.Grows (Path.parse name) (w.createFile name content).2.journal := by
  rcases w.createFile_cases name content with
    ⟨-, hsame | ⟨level, text, hsame⟩⟩ | ⟨-, -, -, file, -, hdone⟩
  · exact .of_eq (by rw [hsame]) _
  · exact .of_eq (by rw [hsame]; rfl) _
  · rw [hdone]
    exact .create _ _ file

theorem createFolder_grows (w : Workspace) (name : String) :
    w.journal.Grows (Path.parse name) (w.createFolder name).2.journal := by
  rcases w.createFolder_cases name with ⟨-, hsame | ⟨level, text, hsame⟩⟩ | ⟨-, -, hdone⟩
  · exact .of_eq (by rw [hsame]) _
  · exact .of_eq (by rw [hsame]; rfl) _
  · rw [hdone, record_journal]
    exact .addFolder _ _

theorem Settled.createFile (h : Settled base w) (hplain : (Path.parse name).Plain)
    (hfree : markAt (Path.parse name).segments w.tree = none) (content : String) :
    Settled base (w.createFile name content).2 ∧
      ∀ way, HasFolder way w.tree → HasFolder way (w.createFile name content).2.tree := by
  obtain ⟨lifted, horderly, hunseen⟩ := h
  obtain ⟨lifted', hnext, hlifts⟩ := horderly.createFile hplain content
  exact Settled.grows horderly hunseen hnext hlifts (createFile_grows w name content) hfree

theorem Settled.createFolder (h : Settled base w)
    (hfree : markAt (Path.parse name).segments w.tree = none) :
    Settled base (w.createFolder name).2 ∧
      ∀ way, HasFolder way w.tree → HasFolder way (w.createFolder name).2.tree := by
  obtain ⟨lifted, horderly, hunseen⟩ := h
  obtain ⟨lifted', hnext, hlifts⟩ := horderly.createFolder name
  exact Settled.grows horderly hunseen hnext hlifts (createFolder_grows w name) hfree

/-- `w'` supports nothing that `w` did not, and the folders that it supports still stay. -/
structure Thins (base : List Entry) (w w' : Workspace) : Prop where
  supports_old : ∀ way, w'.journal.Supports base way → w.journal.Supports base way
  stays : ∀ way, HasFolder way w.tree → w'.journal.Supports base way → HasFolder way w'.tree

theorem Thins.refl (base : List Entry) (w : Workspace) : Thins base w w :=
  ⟨fun _ h => h, fun _ h _ => h⟩

theorem Settled.prunes (h : Settled base w) (h' : w'.Orderly base [])
    (hprunes : w.journal.Prunes p w'.journal) : Settled base w' ∧ Thins base w w' := by
  obtain ⟨lifted, horderly, hunseen⟩ := h
  refine ⟨⟨[], h', by simp⟩, fun way => hprunes.supports_old, fun way hfolder hsupport => ?_⟩
  refine horderly.folder_stays h' (fun q hq => ?_) hfolder hsupport
  rw [Journal.isDeleted_buried, Bool.or_eq_true] at hq
  rcases hq with hq | hq
  · exact .inl (hprunes.deleted q hq)
  · exact .inr (hunseen q (List.contains_iff_mem.1 hq))

theorem Settled.deleteFile (h : Settled base w) (hbase : Tidy base) (htop : PlainTop base)
    (name : String) :
    Settled base (w.deleteFile name).2 ∧ Thins base w (w.deleteFile name).2 := by
  obtain ⟨lifted, horderly, -⟩ := id h
  cases hdone : w.deleteFile name with
  | mk found w' =>
    cases found with
    | true =>
      obtain ⟨f, -, -, hjournal, hnext⟩ := horderly.deleteFile_done hbase htop hdone
      refine h.prunes (p := f.path) hnext ?_
      rw [hjournal]
      exact .delete _ ((Path.isWithin_iff _ _).2 List.prefix_rfl)
    | false =>
      rcases w.deleteFile_cases name with hsame | ⟨f, -, -, hdeleted⟩
      · rw [hdone] at hsame
        obtain ⟨-, rfl⟩ := Prod.mk.inj hsame
        exact ⟨h, .refl base w'⟩
      · rw [hdone] at hdeleted
        cases hdeleted

theorem Settled.deleteFolder (h : Settled base w) (hbase : Tidy base) (name : String) :
    Settled base (w.deleteFolder name).2 ∧ Thins base w (w.deleteFolder name).2 := by
  obtain ⟨lifted, horderly, -⟩ := id h
  rcases w.deleteFolder_cases name with hsame | ⟨w', hdone⟩
  · rw [hsame]
    exact ⟨h, .refl base w⟩
  · rw [hdone]
    exact h.prunes (horderly.deleteFolder hbase hdone)
      (deleteFolder_done horderly.sound hbase hdone).prunes

/-! ## 4. Folders that are looked up -/

theorem isFolderAt_of_isRoot {tree : List Entry} {p : Path} (h : p.isRoot = true) :
    isFolderAt tree p = true := by
  simp [isFolderAt, lookup, h]

theorem ne_nil_of_not_isRoot {p : Path} (h : ¬ p.isRoot = true) : p.segments ≠ [] := by
  simpa [Path.isRoot] using h

theorem isFolderAt_of_keeps {tree tree' : List Entry} {p : Path}
    (hkeeps : ∀ way, HasFolder way tree → HasFolder way tree') (h : isFolderAt tree p = true) :
    isFolderAt tree' p = true := by
  by_cases hroot : p.isRoot = true
  · exact isFolderAt_of_isRoot hroot
  · rw [isFolderAt_iff (ne_nil_of_not_isRoot hroot)] at h ⊢
    exact hkeeps _ h

theorem isFolderAt_parent {tree : List Entry} {p : Path} (h : HasFolder p.segments tree) :
    isFolderAt tree p.parent = true := by
  by_cases hroot : p.parent.isRoot = true
  · exact isFolderAt_of_isRoot hroot
  · have hne := ne_nil_of_not_isRoot hroot
    exact (isFolderAt_iff hne).2 (h.above hne (List.dropLast_prefix _))

theorem Thins.isFolderAt (h : Thins base w w')
    (hfolder : isFolderAt w.tree p = true)
    (hsupport : p.isRoot = true ∨ w'.journal.Supports base p.segments) :
    isFolderAt w'.tree p = true := by
  by_cases hroot : p.isRoot = true
  · exact isFolderAt_of_isRoot hroot
  · have hne := ne_nil_of_not_isRoot hroot
    rw [isFolderAt_iff hne] at hfolder ⊢
    exact h.stays _ hfolder (hsupport.resolve_left hroot)

end Workspace

end OverlayShell
