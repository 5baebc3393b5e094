import OverlayShell.Proofs.PlainSession

/-!
# Touching

A file is created for each name at which nothing is seen. What is seen elsewhere stays, if the view
that was looked at lasts: the creation is followed by a new one. And a name must be read the same
way twice, by the command, which looks whether there is something, and by the workspace, which is
given the key of the path.
-/

namespace OverlayShell

open Entry

namespace Workspace

variable {base : List Entry} {w w' w'' : Workspace} {lifted : List Path} {name : String}

/-! ## 1. Files that are added -/

/-- `w'` is `w` with something created where nothing was seen, and it shows its journal as it is. -/
structure Extends (base : List Entry) (w w' : Workspace) : Prop where
  orderly : w'.Orderly base []
  version : w.journal.version < w'.journal.version
  fewer : ∀ q, w'.journal.isDeleted q = true → w.journal.isDeleted q = true
  keeps : w.Lasting → ∀ f ∈ w.files, f ∈ w'.files

theorem Extends.trans (h : Extends base w w') (h' : Extends base w' w'') : Extends base w w'' where
  orderly := h'.orderly
  version := Nat.lt_trans h.version h'.version
  fewer := fun q hq => h.fewer q (h'.fewer q hq)
  keeps := fun hlasting f hf => h'.keeps h.orderly.lasting f (h.keeps hlasting f hf)

/-- `createFile` where nothing is seen `Extends` the workspace, or refuses. -/
theorem Orderly.createFile_extends (h : w.Orderly base lifted) (hbase : Tidy base)
    (hplain : (Path.parse name).Plain)
    (hfree : markAt (Path.parse name).segments w.tree = none) (content : String) :
    SameDocuments w (w.createFile name content).2 ∨
      Extends base w (w.createFile name content).2 := by
  obtain ⟨lifted', horderly, -⟩ := h.createFile hplain content
  rcases w.createFile_cases name content with
    ⟨-, hsame | ⟨level, text, hsame⟩⟩ | ⟨hproper, -, -, file, -, hdone⟩
  · rw [hsame]
    exact .inl ⟨rfl, rfl, rfl⟩
  · rw [hsame]
    exact .inl ⟨rfl, rfl, rfl⟩
  · rw [hdone] at horderly ⊢
    have hfresh := h.changed horderly.sound rfl rfl (Nat.lt_succ_self _) horderly.journal
    refine .inr ⟨hfresh, Nat.lt_succ_self _, fun q hq => ?_, fun hlasting f hf => ?_⟩
    · exact ((Journal.isDeleted_create_iff w.journal (Path.parse name) file q).1 hq).1
    · exact h.created_keeps hlasting hbase hfresh rfl hproper.1 hfree hf

/-- **Without a lasting view a file is lost**: `Extends` makes the view anew, and then a file of the
base covers it for good. -/
theorem Extends.lasting (h : Extends base w w') (hw : w.Orderly base lifted) (hbase : Tidy base)
    (hlists : ∀ f ∈ w.files, w'.Lists f) : w.Lasting := by
  intro p hp
  have hfile := isFileAt_iff.1 hp
  rw [hw.sound.base_eq, isFileAt_iff]
  refine (hw.lasts_or_covered hfile).resolve_right ?_
  rintro ⟨b, hb, hne, hblock⟩
  obtain ⟨hhides, hmark⟩ := (hasFile_survivors _ base).1 hblock
  have hcovered : HasFile b w'.tree := by
    rw [h.orderly.tree_eq, Journal.buried_nil]
    refine (h.orderly.journal.clear.hasFile_merge_iff h.orderly.sound.journal).2 (.inl ?_)
    exact (hasFile_survivors _ base).2 ⟨Journal.hides_mono h.fewer hhides, hmark⟩
  obtain ⟨hproper, f, hf, hname⟩ := (hw.sound.hasFile_iff hbase).1 hfile
  obtain ⟨e, he⟩ := (hlists f hf).hasFile h.orderly.sound hbase
  rw [File.path_of_key hname hproper.2] at he
  exact hne (hcovered.eq_of_start hb he)

end Workspace

namespace Session

open Workspace

variable {base : List Entry} {hosted : Bool} {s t u : Session} {args : List String} {name : String}

/-! ## 2. One name after the other -/

theorem Rests.extends {w : Workspace} (h : Rests s t) (hw : Extends base w s.workspace) :
    Extends base w t.workspace where
  orderly := h.orderly_workspace hw.orderly
  version := by
    rw [h.journal_eq]
    exact hw.version
  fewer := by
    rw [h.journal_eq]
    exact hw.fewer
  keeps := by
    rw [files, files, h.view_eq]
    exact hw.keeps

theorem Rests.extends_from {w : Workspace} (h : Rests s t) (hw : Extends base t.workspace w) :
    Extends base s.workspace w where
  orderly := hw.orderly
  version := by
    rw [← h.journal_eq]
    exact hw.version
  fewer := by
    rw [← h.journal_eq]
    exact hw.fewer
  keeps := by
    intro hlasting
    rw [files, ← h.view_eq]
    refine hw.keeps ?_
    rw [Lasting, tree, h.view_eq, h.base_eq, h.journal_eq]
    exact hlasting

/-- How far `touch` has come: nothing has been created yet, or something has been. -/
inductive Touched (base : List Entry) (s : Session) (t : Session) : Prop
  | rests (h : Rests s t)
  | extends (hcwd : t.cwd = s.cwd) (h : Extends base s.workspace t.workspace)

theorem touched_touchAll (hs : Orderly base s) (hbase : Tidy base)
    (hplain : ∀ name ∈ args, (s.resolve name).Plain) : Touched base s (s.touchAll args).1 := by
  obtain ⟨lifted, hw⟩ := hs.workspace
  refine touchAll_keeps s (.rests .stay) fun t name hname ht hfree => ?_
  have hcwd : t.cwd = s.cwd := by
    rcases ht with hrest | ⟨hcwd, -⟩
    · exact hrest.cwd
    · exact hcwd
  have horderly : ∃ lifted, t.workspace.Orderly base lifted := by
    rcases ht with hrest | ⟨-, hextends⟩
    · exact ⟨lifted, hrest.orderly_workspace hw⟩
    · exact ⟨[], hextends.orderly⟩
  -- What the command looks up is what the workspace is told to create.
  have hpath : t.resolve name = s.resolve name := by rw [resolve, resolve, hcwd]
  have hparse : Path.parse (t.resolve name).key = t.resolve name := by
    rw [hpath]
    exact Path.parse_key (Path.resolve_normal hs.normal name) (hplain name hname)
  have hstep : SameDocuments t.workspace (t.workspace.createFile (t.resolve name).key "").2 ∨
      Extends base t.workspace (t.workspace.createFile (t.resolve name).key "").2 := by
    obtain ⟨lifted', horderly⟩ := horderly
    refine horderly.createFile_extends hbase ?_ ?_ ""
    · rw [hparse, hpath]
      exact hplain name hname
    · rw [hparse]
      exact markAt_of_lookup hfree
  rcases hstep with hsame | hextends
  · have hnext : Rests t (t.withWorkspace (t.workspace.createFile (t.resolve name).key "").2) :=
      .withWorkspace hsame
    rcases ht with hrest | ⟨-, hextended⟩
    · exact .rests (hrest.trans hnext)
    · exact .extends (hnext.cwd.trans hcwd) (hnext.extends hextended)
  · have hnext := (rests_withWorkspace t _).extends hextends
    refine .extends ((withWorkspace_cwd t _).trans hcwd) ?_
    rcases ht with hrest | ⟨-, hextended⟩
    · exact hrest.extends_from hnext
    · exact hextended.trans hnext

theorem touch_fst (s : Session) (args : List String) : (s.touch args).1 = (s.touchAll args).1 := by
  cases args with
  | nil => rfl
  | cons name rest => rfl

/-- **What touching does to the other files.** In a session in use, if the names lead to `Plain`
paths, `touch` keeps every file of `s.workspace` listed with its content iff it leaves `journal` as
it was or the view that it went by is `Lasting`. Without a host (`hosted = false`) every view is. -/
theorem touch_keeps_iff (hbase : Tidy base) (htop : PlainTop base) (hs : Used base hosted s)
    (args : List String) (hplain : ∀ name ∈ args, (s.resolve name).Plain) :
    let s' := (s.touch args).1
    ((∀ f ∈ s.workspace.files, s'.workspace.Lists f) ↔
        s'.workspace.journal = s.workspace.journal ∨ s.workspace.Lasting) ∧
      (hosted = false → ∀ f ∈ s.workspace.files, s'.workspace.Lists f) := by
  intro s'
  have horderly := hs.orderly hbase htop
  have htouched : Touched base s s' := by
    rw [show s' = (s.touchAll args).1 from touch_fst s args]
    exact touched_touchAll horderly hbase hplain
  have hkeeps : s'.workspace.journal = s.workspace.journal ∨ s.workspace.Lasting →
      ∀ f ∈ s.workspace.files, s'.workspace.Lists f := by
    intro hor f hf
    rcases htouched with hrest | ⟨-, hextends⟩
    · rw [files, ← hrest.view_eq] at hf
      exact lists_of_mem hf
    · -- A journal that is the same has no later version, so the view is the lasting one.
      refine lists_of_mem (hextends.keeps (hor.resolve_left fun heq => ?_) f hf)
      have hversion := hextends.version
      rw [heq] at hversion
      exact Nat.lt_irrefl _ hversion
  -- For the other direction: whatever was created made the view anew, and then all that was listed
  -- before is listed only if it lasts.
  refine ⟨⟨fun hlists => ?_, hkeeps⟩, fun hhosted => hkeeps (.inr (hs.lasting hbase htop hhosted))⟩
  rcases htouched with hrest | ⟨-, hextends⟩
  · exact .inl hrest.journal_eq
  · obtain ⟨lifted, hw⟩ := horderly.workspace
    exact .inr (hextends.lasting hw hbase hlists)

/-- A file that is there keeps its content when it is touched, and gets a neighbour. -/
theorem touch_keeps_content :
    let base : List Entry := [.file ⟨"a", "markdown", "y", false⟩]
    let s := standard base 0
    let s' := (s.touch ["a", "~/b"]).1
    Tidy base ∧ PlainTop base ∧ Used base false s ∧
      (∀ name ∈ ["a", "~/b"], (s.resolve name).Plain) ∧ s'.workspace.version = 1 ∧
      ∀ f ∈ s.workspace.files, s'.workspace.Lists f := by
  intro base s s'
  have hbase : Tidy base := by decide
  have htop : PlainTop base := by decide
  have hs : Used base false s := .standard base false 0
  have hplain : ∀ name ∈ ["a", "~/b"], (s.resolve name).Plain := by decide +kernel
  exact ⟨hbase, htop, hs, hplain, by decide +kernel,
    (touch_keeps_iff hbase htop hs ["a", "~/b"] hplain).2 rfl⟩

/-- A path that starts with a tilde is free, but its key is read as the path of another file, which
is replaced. -/
theorem touch_empties_file :
    let base : List Entry := [.file ⟨"x", "markdown", "y", false⟩]
    let s := standard base 0
    let s' := (s.touch ["./~x"]).1
    Tidy base ∧ Used base false s ∧ ∃ f ∈ s.workspace.files, ¬ s'.workspace.Lists f := by
  intro base s s'
  have hs : Used base false s := .standard base false 0
  refine ⟨by decide, hs, ⟨"x", "markdown", "y", false⟩, ?_, ?_⟩ <;> decide +kernel

end Session

end OverlayShell
