import OverlayShell.Proofs.PlainSession

/-!
# Removing

Names are removed in turn, and each is read in the directory that the session is in by then. A
folder that is removed around the session moves it, so a later name may lead elsewhere than it did
when the command was given. What goes is told by the paths at which something is removed: every
listed file at them or below goes, and every other one stays.
-/

namespace OverlayShell

open Entry

namespace Workspace

variable {base : List Entry} {w w' w'' : Workspace} {lifted : List Path} {name : String} {p : Path}
  {paths : List Path}

/-! ## 1. One removal -/

/-- `w'` is `w` with all at `p` and below removed, and it shows its journal as it is. -/
structure Takes (base : List Entry) (w w' : Workspace) (p : Path) : Prop where
  orderly : w'.Orderly base []
  prunes : w.journal.Prunes p w'.journal
  buried : ∀ f ∈ w.files, f.path.isWithin p = true → w'.journal.isDeleted f.path = true

theorem Orderly.deleteFile_takes (h : w.Orderly base lifted) (hbase : Tidy base)
    (htop : PlainTop base) (hparse : Path.parse p.key = p) (hfile : HasFile p.segments w.tree) :
    Takes base w (w.deleteFile p.key).2 p := by
  -- The file that is seen is listed under the key, so it is the one that is found and deleted.
  obtain ⟨hproper, g, hg, hname⟩ := (h.sound.hasFile_iff hbase).1 hfile
  obtain ⟨f, hfind, hkey⟩ : ∃ f, w.file? p.key = some f ∧ f.name = (Path.parse p.key).key :=
    findFile_of_listed ⟨g, hg, by rw [hparse]; exact hname⟩
  have hdone : w.deleteFile p.key = (true, (w.deleteFile p.key).2) := by
    unfold deleteFile
    rw [hfind]
  obtain ⟨f', hfind', -, hjournal, horderly⟩ := h.deleteFile_done hbase htop hdone
  obtain rfl : f = f' := Option.some.inj (hfind.symm.trans hfind')
  rw [hparse] at hkey
  have hpath : f.path = p := File.path_of_key hkey hproper.2
  rw [hpath] at hjournal
  refine ⟨horderly, ?_, fun e he hwithin => ?_⟩
  · rw [hjournal]
    exact .delete w.journal ((Path.isWithin_iff p p).2 List.prefix_rfl)
  · -- Below a file nothing else is listed.
    obtain ⟨m, hm⟩ := (h.sound.of_mem_files hbase he).2.2
    have heq := hfile.eq_of_start ((Path.isWithin_iff _ _).1 hwithin) hm
    rw [hjournal]
    exact (Journal.isDeleted_delete _ _ _).2 (.inl (Path.segments_injective heq.symm))

theorem deleteFolder_of_hasFolder (h : HasFolder (Path.parse name).segments w.tree) :
    (w.deleteFolder name).1 = true := by
  obtain ⟨isOpen, hmark⟩ := h
  obtain ⟨entry, hfind, hentry⟩ := Option.map_eq_some_iff.1 hmark
  have hne : (Path.parse name).segments ≠ [] := HasFolder.ne_nil ⟨isOpen, hmark⟩
  have hroot : (Path.parse name).isRoot = false := by
    rw [Path.isRoot, List.isEmpty_eq_false_iff]
    exact hne
  cases entry with
  | file f => cases hentry
  | folder n children isOpen' => simp [deleteFolder, hroot, lookup_eq_find? hne, hfind]

theorem Orderly.deleteFolder_takes (h : w.Orderly base lifted) (hbase : Tidy base)
    (hparse : Path.parse p.key = p) (hfolder : HasFolder p.segments w.tree) :
    Takes base w (w.deleteFolder p.key).2 p := by
  have hfst : (w.deleteFolder p.key).1 = true := by
    refine deleteFolder_of_hasFolder ?_
    rwa [hparse]
  have hdone : w.deleteFolder p.key = (true, (w.deleteFolder p.key).2) := by rw [← hfst]
  have hdeleted := deleteFolder_done h.sound hbase hdone
  rw [hparse] at hdeleted
  refine ⟨h.deleteFolder hbase hdone, hdeleted.prunes, fun f hf hwithin => ?_⟩
  obtain ⟨e, he⟩ := (h.sound.of_mem_files hbase hf).2.2
  exact hdeleted.buried f.path _ hwithin he

/-! ## 2. Removals in turn -/

/-- Something has been removed at each of `paths`, and nowhere else. -/
structure Removed (base : List Entry) (w w' : Workspace) (paths : List Path) : Prop where
  fresh : w.Orderly base [] ∨ paths ≠ [] → w'.Orderly base []
  deleted : ∀ q, w.journal.isDeleted q = true → w'.journal.isDeleted q = true
  stays : ∀ f ∈ w.files, (∀ p ∈ paths, f.path.isWithin p = false) → f ∈ w'.files
  gone : ∀ f ∈ w.files, (∃ p ∈ paths, f.path.isWithin p = true) →
    w'.journal.isDeleted f.path = true

theorem Removed.nil (base : List Entry) (w : Workspace) : Removed base w w [] where
  fresh := by simp
  deleted := fun _ hq => hq
  stays := fun _ hf _ => hf
  gone := by simp

/-- One more `Takes` before the others. The view that it is made by must be `Lasting`. -/
theorem Removed.cons (hw : w.Orderly base lifted) (hlasting : w.Lasting) (hbase : Tidy base)
    (htakes : Takes base w w' p) (h : Removed base w' w'' paths) :
    Removed base w w'' (p :: paths) where
  fresh := fun _ => h.fresh (.inl htakes.orderly)
  deleted := fun q hq => h.deleted q (htakes.prunes.deleted q hq)
  stays := by
    intro f hf hout
    rw [List.forall_mem_cons] at hout
    exact h.stays f (hw.pruned_keeps hlasting hbase htakes.orderly htakes.prunes hf hout.1) hout.2
  gone := by
    rintro f hf ⟨q, hq, hwithin⟩
    cases hp : f.path.isWithin p with
    | true => exact h.deleted _ (htakes.buried f hf hp)
    | false =>
      have hnext := hw.pruned_keeps hlasting hbase htakes.orderly htakes.prunes hf hp
      refine h.gone f hnext ⟨q, (List.mem_cons.1 hq).resolve_left ?_, hwithin⟩
      rintro rfl
      rw [hp] at hwithin
      cases hwithin

/-- **What goes and what stays.** A file of `w` is still listed iff it lies within none of
`paths`. -/
theorem Removed.lists_iff (h : Removed base w w' paths) (hbase : Tidy base) {f : File}
    (hf : f ∈ w.files) : w'.Lists f ↔ ∀ p ∈ paths, f.path.isWithin p = false := by
  refine ⟨fun hlists p hp => ?_, fun hout => lists_of_mem (h.stays f hf hout)⟩
  by_contra hwithin
  rw [Bool.not_eq_false] at hwithin
  have hfresh := h.fresh (.inr (List.ne_nil_of_mem hp))
  have hfile := hlists.hasFile hfresh.sound hbase
  rw [hfresh.tree_eq, Journal.buried_nil] at hfile
  exact Journal.not_hasFile_of_isDeleted hfresh.sound.journal (h.gone f hf ⟨p, hp, hwithin⟩) base
    hfile

end Workspace

namespace Session

open Workspace

variable {base : List Entry} {hosted recursive : Bool} {s t : Session} {lifted : List Path}
  {name : String} {names args : List String} {p : Path}

/-- The path at which `rmOne` removes something for `name`, if it does. -/
def removal? (s : Session) (recursive : Bool) (name : String) : Option Path :=
  let path := s.resolve name
  if path.isRoot then none
  else
    match lookup s.workspace.tree path with
    | none => none
    | some (.file _) => some path
    | some (.folder _ _ _) => if recursive then some path else none

/-- The paths at which `rmOne` removes something, each for a name that is read in the directory of
its turn. -/
def removals (recursive : Bool) : Session → List String → List Path
  | _, [] => []
  | s, name :: rest =>
    (s.removal? recursive name).toList ++ removals recursive (s.rmOne recursive name).1 rest

theorem Rests.takes {w : Workspace} (h : Rests s t) (hw : Takes base w s.workspace p) :
    Takes base w t.workspace p where
  orderly := h.orderly_workspace hw.orderly
  prunes := by
    rw [h.journal_eq]
    exact hw.prunes
  buried := by
    rw [h.journal_eq]
    exact hw.buried

/-- `rmOne` does nothing, or deletes a file or a folder at the path of `name`. With a folder `cwd`
goes, if it lies within. -/
theorem removal_cases (s : Session) (recursive : Bool) (name : String) :
    s.removal? recursive name = none ∧ (s.rmOne recursive name).1 = s ∨
      s.removal? recursive name = some (s.resolve name) ∧
        (HasFile (s.resolve name).segments s.workspace.tree ∧
            (s.rmOne recursive name).1 =
              s.withWorkspace (s.workspace.deleteFile (s.resolve name).key).2 ∨
          HasFolder (s.resolve name).segments s.workspace.tree ∧ recursive = true ∧
            (s.rmOne recursive name).1.workspace =
              (s.withWorkspace (s.workspace.deleteFolder (s.resolve name).key).2).workspace ∧
            (s.rmOne recursive name).1.cwd =
              if s.cwd.isWithin (s.resolve name) then (s.resolve name).parent else s.cwd) := by
  unfold removal? rmOne
  dsimp only
  -- The branches of the two definitions are the same, and are taken together.
  cases hroot : (s.resolve name).isRoot with
  | true => exact .inl ⟨rfl, rfl⟩
  | false =>
    have hne : (s.resolve name).segments ≠ [] := ne_nil_of_not_isRoot (by simp [hroot])
    simp only [Bool.false_eq_true, if_false]
    cases hlookup : lookup s.workspace.tree (s.resolve name) with
    | none => exact .inl ⟨rfl, rfl⟩
    | some entry =>
      cases entry with
      | file f =>
        refine .inr ⟨rfl, .inl ⟨isFileAt_iff.1 ?_, rfl⟩⟩
        unfold isFileAt
        rw [hlookup]
      | folder n children isOpen =>
        cases recursive with
        | false => exact .inl ⟨rfl, rfl⟩
        | true =>
          -- The directory is compared after the deletion, which has not moved it.
          have hcwd := withWorkspace_cwd s (s.workspace.deleteFolder (s.resolve name).key).2
          generalize s.withWorkspace (s.workspace.deleteFolder (s.resolve name).key).2 = without
            at hcwd ⊢
          refine .inr ⟨rfl, .inr ⟨(isFolderAt_iff hne).1 ?_, rfl, ?_⟩⟩
          · unfold isFolderAt
            rw [hlookup]
          · rw [← hcwd]
            cases without.cwd.isWithin (s.resolve name) <;> exact ⟨rfl, rfl⟩

theorem takes_of_removal? (hs : s.workspace.Orderly base lifted) (hbase : Tidy base)
    (htop : PlainTop base) (hnormal : s.cwd.Normal) (h : s.removal? recursive name = some p)
    (hplain : p.Plain) : Takes base s.workspace (s.rmOne recursive name).1.workspace p := by
  rcases s.removal_cases recursive name with ⟨hnone, -⟩ | ⟨hsome, hdone⟩
  · rw [h] at hnone
    cases hnone
  · obtain rfl : s.resolve name = p := Option.some.inj (hsome.symm.trans h)
    have hparse := Path.parse_key (Path.resolve_normal hnormal name) hplain
    rcases hdone with ⟨hfile, hdone⟩ | ⟨hfolder, -, hdone, -⟩
    · rw [hdone]
      exact (rests_withWorkspace s _).takes (hs.deleteFile_takes hbase htop hparse hfile)
    · rw [hdone]
      exact (rests_withWorkspace s _).takes (hs.deleteFolder_takes hbase hparse hfolder)

/-- **Removing in turn.** `forEachName` has `Removed` just at `removals`, by induction on the
names. -/
theorem removed_forEachName (hs : s.workspace.Orderly base lifted) (hlasting : s.workspace.Lasting)
    (hbase : Tidy base) (htop : PlainTop base) (hnormal : s.cwd.Normal)
    (hplain : ∀ p ∈ s.removals recursive names, p.Plain) :
    Removed base s.workspace (forEachName (·.rmOne recursive ·) s names).1.workspace
      (s.removals recursive names) := by
  induction names generalizing s lifted with
  | nil => exact .nil base s.workspace
  | cons name rest ih =>
    have hmove : Move [name] true s (s.rmOne recursive name).1 := .remove recursive name (by simp)
    rw [removals] at hplain ⊢
    show Removed base s.workspace
      (forEachName (·.rmOne recursive ·) (s.rmOne recursive name).1 rest).1.workspace _
    -- What has been removed before is not seen any more, so the view lasts again for the next name.
    cases hremoval : s.removal? recursive name with
    | none =>
      have hsame : (s.rmOne recursive name).1 = s := by
        rcases s.removal_cases recursive name with ⟨-, hsame⟩ | ⟨hsome, -⟩
        · exact hsame
        · rw [hremoval] at hsome
          cases hsome
      rw [hsame, hremoval] at hplain
      rw [hsame]
      exact ih hs hlasting hnormal hplain
    | some p =>
      rw [hremoval] at hplain
      obtain ⟨hp, hrest⟩ := List.forall_mem_cons.1 hplain
      have htakes := takes_of_removal? hs hbase htop hnormal hremoval hp
      exact .cons hs hlasting hbase htakes
        (ih htakes.orderly htakes.orderly.lasting (hmove.normal hnormal) hrest)

/-- `rmOne` keeps `cwd`, unless a folder around it is removed. -/
theorem rmOne_cwd (hout : recursive = true → s.cwd.isWithin (s.resolve name) = false) :
    (s.rmOne recursive name).1.cwd = s.cwd := by
  rcases s.removal_cases recursive name with ⟨-, hsame⟩ | ⟨-, ⟨-, hdone⟩ | ⟨-, hrec, -, hcwd⟩⟩
  · rw [hsame]
  · rw [hdone, withWorkspace_cwd]
  · rw [hcwd, hout hrec]
    rfl

/-- As long as `cwd` lies within no path that is named, each name leads where it led at the
start. -/
theorem mem_named_of_mem_removals
    (hout : recursive = true → ∀ name ∈ names, s.cwd.isWithin (s.resolve name) = false) :
    ∀ p ∈ s.removals recursive names, p ∈ names.map s.resolve := by
  -- The paths of the names behind are those that they had, since the directory has not moved.
  induction names generalizing s with
  | nil => simp [removals]
  | cons name rest ih =>
    intro p hp
    rw [removals] at hp
    rcases List.mem_append.1 hp with hp | hp
    · rw [Option.mem_toList] at hp
      rcases s.removal_cases recursive name with ⟨hnone, -⟩ | ⟨hsome, -⟩
      · rw [hnone] at hp
        cases hp
      · rw [hsome] at hp
        simp [Option.some.inj hp]
    · have hcwd : (s.rmOne recursive name).1.cwd = s.cwd :=
        rmOne_cwd fun hrec => hout hrec name (by simp)
      have hresolve : (s.rmOne recursive name).1.resolve = s.resolve := by
        funext other
        rw [resolve, resolve, hcwd]
      have hnext := ih (s := (s.rmOne recursive name).1) (fun hrec other hother => by
        rw [hcwd, hresolve]
        exact hout hrec other (by simp [hother])) p hp
      rw [hresolve] at hnext
      rw [List.map_cons]
      exact List.mem_cons_of_mem _ hnext

theorem rm_fst (s : Session) (args : List String) :
    (s.rm args).1 =
      (forEachName (·.rmOne (asksRecursive args) ·) s (args.filter (!isOption ·))).1 := by
  unfold rm
  cases args.filter (!isOption ·) with
  | nil => rfl
  | cons name rest => rfl

/-- **What `rm` takes along.** In a session in use whose view is `Lasting`, a listed file is still
listed iff it lies within none of `removals`. So everything outside of what the names meant at the
start, `named`, stays iff whatever lies within a removed path lies within one of `named`; and that
is certain if `cwd` lies within none of these, or folders are not removed at all. -/
theorem rm_spares_iff (hbase : Tidy base) (htop : PlainTop base) (hs : Used base hosted s)
    (hlasting : hosted = true → s.workspace.Lasting) (args : List String)
    (hplain : ∀ p ∈ s.removals (asksRecursive args) (args.filter (!isOption ·)), p.Plain) :
    let named := (args.filter (!isOption ·)).map s.resolve
    let removed := s.removals (asksRecursive args) (args.filter (!isOption ·))
    let s' := (s.rm args).1
    (∀ f ∈ s.workspace.files,
        s'.workspace.Lists f ↔ ∀ p ∈ removed, f.path.isWithin p = false) ∧
      ((∀ f ∈ s.workspace.files, (∀ c ∈ named, f.path.isWithin c = false) →
          s'.workspace.Lists f) ↔
        ∀ f ∈ s.workspace.files, (∃ p ∈ removed, f.path.isWithin p = true) →
          ∃ c ∈ named, f.path.isWithin c = true) ∧
      ((asksRecursive args = true → ∀ c ∈ named, s.cwd.isWithin c = false) →
        ∀ f ∈ s.workspace.files, (∀ c ∈ named, f.path.isWithin c = false) →
          s'.workspace.Lists f) := by
  intro named removed s'
  have horderly := hs.orderly hbase htop
  obtain ⟨lifted, hw⟩ := horderly.workspace
  -- Without a host the view lasts by itself; with one it has to be assumed.
  have hlasts : s.workspace.Lasting := by
    cases hosted with
    | false => exact hs.lasting hbase htop rfl
    | true => exact hlasting rfl
  have hremoved : Removed base s.workspace s'.workspace removed := by
    rw [show s' = _ from rm_fst s args]
    exact removed_forEachName hw hlasts hbase htop horderly.normal hplain
  have hlists : ∀ f ∈ s.workspace.files,
      (s'.workspace.Lists f ↔ ∀ p ∈ removed, f.path.isWithin p = false) :=
    fun f hf => hremoved.lists_iff hbase hf
  -- The second and third parts follow from the first, by what lies within the paths.
  refine ⟨hlists, ⟨fun hspared f hf => ?_, fun hwithin f hf hout => ?_⟩, fun hcwd f hf hout => ?_⟩
  · rintro ⟨p, hp, hin⟩
    by_contra hnone
    have hout : ∀ c ∈ named, f.path.isWithin c = false := fun c hc =>
      Bool.eq_false_iff.2 fun h => hnone ⟨c, hc, h⟩
    rw [(hlists f hf).1 (hspared f hf hout) p hp] at hin
    cases hin
  · refine (hlists f hf).2 fun p hp => Bool.eq_false_iff.2 fun hin => ?_
    obtain ⟨c, hc, h⟩ := hwithin f hf ⟨p, hp, hin⟩
    rw [hout c hc] at h
    cases h
  · -- As `cwd` stays, what was removed is among what was named.
    refine (hlists f hf).2 fun p hp => hout p ?_
    refine mem_named_of_mem_removals (fun hrec name hname => ?_) p hp
    exact hcwd hrec _ (List.mem_map_of_mem hname)

/-- Inside the working directory a folder is removed, and its neighbour stays. -/
theorem rm_spares_neighbour :
    let base : List Entry := [.folder "a"
      [.folder "b" [.file ⟨"x", "markdown", "y", false⟩] false,
        .file ⟨"c", "markdown", "z", false⟩] false]
    let s := (standard base 0).next "cd a"
    let s' := (s.rm ["-r", "b"]).1
    Tidy base ∧ PlainTop base ∧ Used base true s ∧ s.workspace.Lasting ∧
      s.removals true ["b"] = [⟨["a", "b"]⟩] ∧
      s'.workspace.Lists ⟨"a/c", "markdown", "z", false⟩ ∧
      ¬ s'.workspace.Lists ⟨"a/b/x", "markdown", "y", false⟩ := by
  intro base s s'
  have hbase : Tidy base := by decide
  have htop : PlainTop base := by decide
  have hwords : ∀ word ∈ (standard base 0).wordsOf "cd a", Path.TildeFirst word := by
    decide +kernel
  have hs (hosted : Bool) : Used base hosted s := .line (.standard base hosted 0) "cd a" hwords
  have hlasting := (hs false).lasting hbase htop rfl
  have hremovals : s.removals true ["b"] = [⟨["a", "b"]⟩] := by decide +kernel
  have hplain : ∀ p ∈ s.removals true ["b"], p.Plain := by
    rw [hremovals]
    decide
  obtain ⟨hlists, -, -⟩ :=
    rm_spares_iff hbase htop (hs true) (fun _ => hlasting) ["-r", "b"] hplain
  have hone (f : File) (hf : f ∈ s.workspace.files) :
      s'.workspace.Lists f ↔ f.path.isWithin ⟨["a", "b"]⟩ = false := by
    have hall : s'.workspace.Lists f ↔
      ∀ p ∈ s.removals true ["b"], f.path.isWithin p = false := hlists f hf
    rw [hall, hremovals, List.forall_mem_singleton]
  refine ⟨hbase, htop, hs true, hlasting, hremovals, (hone _ ?_).2 ?_, (hone _ ?_).not.2 ?_⟩ <;>
    decide +kernel

/-- `cwd` goes with the first folder, and the second name leads to a file that it did not mean. -/
theorem rm_takes_another :
    let base : List Entry := [.folder "a"
      [.folder "b" [] false, .file ⟨"x", "markdown", "y", false⟩] false]
    let s := (standard base 0).next "cd a/b"
    let args := ["-r", "/a/b", "x"]
    Tidy base ∧ Used base false s ∧ ∃ f ∈ s.workspace.files,
      (∀ c ∈ (args.filter (!isOption ·)).map s.resolve, f.path.isWithin c = false) ∧
        ¬ (s.rm args).1.workspace.Lists f := by
  intro base s args
  have hwords : ∀ word ∈ (standard base 0).wordsOf "cd a/b", Path.TildeFirst word := by
    decide +kernel
  refine ⟨by decide, .line (.standard base false 0) "cd a/b" hwords,
    ⟨"a/x", "markdown", "y", false⟩, ?_, ?_, ?_⟩ <;> decide +kernel

end Session

end OverlayShell
