import OverlayShell.Proofs.Moves
import OverlayShell.Proofs.Standing

/-!
# The working directory

A session starts in the root, and only folders are entered. Creating something where nothing is seen
takes no folder away, so it is up to `rm` whether the working directory still exists: it moves the
session out of a folder that it removes, but a folder above, which the view had supplied for what
was removed, goes without notice.
-/

namespace OverlayShell

open Entry

namespace Session

open Workspace

variable {base : List Entry} {s s' : Session} {names : List String} {removing : Bool}

def Stands (s : Session) : Prop := isFolderAt s.workspace.tree s.cwd = true

instance (s : Session) : Decidable s.Stands := inferInstanceAs (Decidable (_ = _))

/-- `cwd` is the root, or it does not depend on anything that is not recorded: the base has it, or
it was created itself, or something below it was. -/
def Supported (base : List Entry) (s : Session) : Prop :=
  s.cwd.isRoot = true ∨ s.workspace.journal.Supports base s.cwd.segments

instance (base : List Entry) (s : Session) : Decidable (s.Supported base) :=
  inferInstanceAs (Decidable (_ ∨ _))

/-! ## 1. Sessions in order -/

/-- The workspace is `Settled`, and `cwd` can be named in a line. -/
structure InOrder (base : List Entry) (s : Session) : Prop where
  settled : s.workspace.Settled base
  normal : s.cwd.Normal
  plain : s.cwd.Plain

theorem InOrder.start (base : List Entry) (openFiles : List String) (active : String)
    (env aliases : Bindings String String) (table : CommandTable) (now : Int) :
    InOrder base (start (.start base openFiles active) env aliases table now) :=
  ⟨.start base openFiles active, by simp [Session.start, Path.root, Path.Normal], Path.plain_root⟩

theorem Rests.view_eq (h : Rests s s') : s'.workspace.view = s.workspace.view := by
  rcases h.documents with hsame | hsame
  · exact view_congr hsame.base hsame.journal hsame.cache
  · rw [view_congr hsame.base hsame.journal hsame.cache, view_refresh]

theorem Rests.journal_eq (h : Rests s s') : s'.workspace.journal = s.workspace.journal := by
  rcases h.documents with hsame | hsame
  · exact hsame.journal
  · exact hsame.journal

theorem Rests.inOrder (h : Rests s s') (hs : InOrder base s) : InOrder base s' := by
  refine ⟨?_, h.cwd ▸ hs.normal, h.cwd ▸ hs.plain⟩
  rcases h.documents with hsame | hsame
  · exact hs.settled.same hsame.base hsame.journal hsame.cache
  · exact hs.settled.refresh.same hsame.base hsame.journal hsame.cache

theorem Rests.stands_iff (h : Rests s s') : s'.Stands ↔ s.Stands := by
  rw [Stands, Stands, h.cwd, tree, tree, h.view_eq]

theorem Rests.supported_iff (h : Rests s s') : s'.Supported base ↔ s.Supported base := by
  rw [Supported, Supported, h.cwd, h.journal_eq]

theorem rests_withWorkspace (s : Session) (w : Workspace) :
    Rests { s with workspace := w } (s.withWorkspace w) := by
  refine ⟨withWorkspace_cwd s w, .inr ?_⟩
  rw [withWorkspace_workspace]
  exact ⟨rfl, rfl, rfl⟩

theorem InOrder.supported (hs : InOrder base s) (hstands : s.Stands) : s.Supported base := by
  by_cases hroot : s.cwd.isRoot = true
  · exact .inl hroot
  · obtain ⟨lifted, horderly, -⟩ := hs.settled
    exact .inr (horderly.supported ((isFolderAt_iff (ne_nil_of_not_isRoot hroot)).1 hstands))

/-- `resolve` of a name and `parse` of its key give the same path. -/
theorem InOrder.parse_resolve (hs : InOrder base s) {name : String}
    (hname : Path.TildeFirst name) :
    Path.parse (s.resolve name).key = s.resolve name ∧ (s.resolve name).Plain := by
  have hplain := Path.resolve_plain hs.normal hs.plain hname
  exact ⟨Path.parse_key (Path.resolve_normal hs.normal name) hplain, hplain⟩

/-! ## 2. Moves other than removing -/

theorem InOrder.touch (hs : InOrder base s) {name : String} (hname : Path.TildeFirst name)
    (hfree : lookup s.workspace.tree (s.resolve name) = none) :
    let w := (s.workspace.createFile (s.resolve name).key "").2
    w.Settled base ∧ ∀ way, HasFolder way s.workspace.tree → HasFolder way w.tree := by
  obtain ⟨hparse, hplain⟩ := hs.parse_resolve hname
  refine hs.settled.createFile ?_ ?_ ""
  · rwa [hparse]
  · rw [hparse]
    exact markAt_of_lookup hfree

theorem InOrder.mkdir (hs : InOrder base s) {name : String} (hname : Path.TildeFirst name)
    (hfree : lookup s.workspace.tree (s.resolve name) = none) :
    let w := (s.workspace.createFolder (s.resolve name).key).2
    w.Settled base ∧ ∀ way, HasFolder way s.workspace.tree → HasFolder way w.tree := by
  obtain ⟨hparse, -⟩ := hs.parse_resolve hname
  refine hs.settled.createFolder ?_
  rw [hparse]
  exact markAt_of_lookup hfree

/-- A `Move` that removes nothing keeps the session in order and `cwd` standing. -/
theorem InOrder.move (hs : InOrder base s) (hnames : ∀ name ∈ names, Path.TildeFirst name)
    (hmove : Move names false s s') : InOrder base s' ∧ (s.Stands → s'.Stands) := by
  have hcreated : ∀ w : Workspace, (w.Settled base ∧
      ∀ way, HasFolder way s.workspace.tree → HasFolder way w.tree) →
      InOrder base (s.withWorkspace w) ∧ (s.Stands → (s.withWorkspace w).Stands) := by
    rintro w ⟨hsettled, hkeeps⟩
    have hrest := rests_withWorkspace s w
    refine ⟨hrest.inOrder ⟨hsettled, hs.normal, hs.plain⟩, fun hstands => ?_⟩
    exact hrest.stands_iff.2 (isFolderAt_of_keeps hkeeps hstands)
  cases hmove with
  | rest hrest => exact ⟨hrest.inOrder hs, hrest.stands_iff.2⟩
  | home =>
    have hnormal : Path.root.Normal := by simp [Path.root, Path.Normal]
    exact ⟨⟨hs.settled, hnormal, Path.plain_root⟩, fun _ => isFolderAt_of_isRoot rfl⟩
  | enter name hname hfolder =>
    have hplain := (hs.parse_resolve (hnames name hname)).2
    exact ⟨⟨hs.settled, Path.resolve_normal hs.normal name, hplain⟩, fun _ => hfolder⟩
  | touch name hname hfree => exact hcreated _ (hs.touch (hnames name hname) hfree)
  | mkdir name hname hfree => exact hcreated _ (hs.mkdir (hnames name hname) hfree)

/-! ## 3. Removing -/

/-- `rmOne` for one name: nothing, a file deleted, or a folder, with `cwd` moved out of it. -/
theorem rmOne_cases (s : Session) (recursive : Bool) (name : String) :
    (s.rmOne recursive name).1 = s ∨
      (s.rmOne recursive name).1 =
        s.withWorkspace (s.workspace.deleteFile (s.resolve name).key).2 ∨
      HasFolder (s.resolve name).segments s.workspace.tree ∧
        ((s.rmOne recursive name).1 =
            s.withWorkspace (s.workspace.deleteFolder (s.resolve name).key).2 ∨
          (s.rmOne recursive name).1 =
            { s.withWorkspace (s.workspace.deleteFolder (s.resolve name).key).2 with
              cwd := (s.resolve name).parent }) := by
  unfold rmOne
  dsimp only
  -- What the two deletions come to does not matter for the cases.
  generalize s.withWorkspace (s.workspace.deleteFile (s.resolve name).key).2 = withoutFile
  generalize s.withWorkspace (s.workspace.deleteFolder (s.resolve name).key).2 = withoutFolder
  split
  · exact .inl rfl
  · rename_i hroot
    split
    · exact .inl rfl
    · exact .inr (.inl rfl)
    · rename_i n children isOpen heq
      split
      · have hfolder : HasFolder (s.resolve name).segments s.workspace.tree := by
          rw [← isFolderAt_iff (ne_nil_of_not_isRoot hroot)]
          unfold OverlayShell.isFolderAt
          rw [heq]
        refine .inr (.inr ⟨hfolder, ?_⟩)
        split
        · exact .inr rfl
        · exact .inl rfl
      · exact .inl rfl

/-- The session stays in its directory while the workspace loses something, as `Thins` says. -/
theorem InOrder.thinned {w : Workspace} (hs : InOrder base s) (hw : w.Settled base)
    (hthins : Thins base s.workspace w) :
    InOrder base (s.withWorkspace w) ∧ ((s.Supported base → s.Stands) →
      (s.withWorkspace w).Supported base → (s.withWorkspace w).Stands) := by
  have hrest := rests_withWorkspace s w
  refine ⟨hrest.inOrder ⟨hw, hs.normal, hs.plain⟩, fun hstands hsupport => ?_⟩
  have hsupport' := hrest.supported_iff.1 hsupport
  have hbefore : s.Supported base := hsupport'.imp_right (hthins.supports_old _)
  exact hrest.stands_iff.2 (hthins.isFolderAt (hstands hbefore) hsupport')

/-- The session moves to the folder around `p`, which was there. -/
theorem inOrder_parent {w : Workspace} (hthins : Thins base s.workspace w) (hw : w.Settled base)
    {p : Path} (hnormal : p.Normal) (hplain : p.Plain)
    (hseen : HasFolder p.segments s.workspace.tree) :
    InOrder base { s.withWorkspace w with cwd := p.parent } ∧
      (Supported base { s.withWorkspace w with cwd := p.parent } →
        Stands { s.withWorkspace w with cwd := p.parent }) := by
  have hrest : Rests { s with workspace := w, cwd := p.parent }
      { s.withWorkspace w with cwd := p.parent } := ⟨rfl, (rests_withWorkspace s w).documents⟩
  refine ⟨hrest.inOrder ⟨hw, hnormal.parent, hplain.parent⟩, fun hsupport => ?_⟩
  have hsupport' := hrest.supported_iff.1 hsupport
  exact hrest.stands_iff.2 (hthins.isFolderAt (isFolderAt_parent hseen) hsupport')

/-- After `rmOne` the session is in order, and `cwd` stands if it is `Supported`. -/
theorem InOrder.remove (hs : InOrder base s) (hbase : Tidy base) (htop : PlainTop base)
    (recursive : Bool) {name : String} (hname : Path.TildeFirst name) :
    InOrder base (s.rmOne recursive name).1 ∧
      ((s.Supported base → s.Stands) → (s.rmOne recursive name).1.Supported base →
        (s.rmOne recursive name).1.Stands) := by
  obtain ⟨hwfile, hthinfile⟩ := hs.settled.deleteFile hbase htop (s.resolve name).key
  obtain ⟨hwfolder, hthinfolder⟩ := hs.settled.deleteFolder hbase (s.resolve name).key
  rcases s.rmOne_cases recursive name with hsame | hfile | ⟨hseen, hdone | hdone⟩
  · rw [hsame]
    exact ⟨hs, id⟩
  · rw [hfile]
    exact hs.thinned hwfile hthinfile
  · rw [hdone]
    exact hs.thinned hwfolder hthinfolder
  -- The directory goes with the folder, and the one around it takes its place.
  · rw [hdone]
    have hnormal := Path.resolve_normal hs.normal name
    have hplain := (hs.parse_resolve hname).2
    have hmoved := inOrder_parent hthinfolder hwfolder hnormal hplain hseen
    exact ⟨hmoved.1, fun _ => hmoved.2⟩

/-! ## 4. Lines -/

/-- A line that is submitted, with the sessions `before` and `after` it. -/
structure Step where
  before : Session
  line : String
  after : Session

namespace Step

def words (step : Step) : List String := step.before.wordsOf step.line

def callsRm (step : Step) : Bool := step.before.callsRm step.words

end Step

/-- The session after a line. It is unfolded in `moves_next` only: what is said of lines is said of
their moves. -/
@[irreducible]
def next (s : Session) (line : String) : Session := (s.execute line).1

theorem moves_next (s : Session) (line : String) :
    Moves (s.wordsOf line) (s.callsRm (s.wordsOf line)) s (s.next line) := by
  rw [next]
  exact moves_execute s line

def steps (s : Session) : List String → List Step
  | [] => []
  | line :: rest => ⟨s, line, s.next line⟩ :: steps (s.next line) rest

variable {lines : List String} {step : Step}

theorem moves_of_mem_steps (s : Session) (lines : List String) :
    ∀ step ∈ s.steps lines, Moves step.words step.callsRm step.before step.after := by
  induction lines generalizing s with
  | nil => simp [steps]
  | cons line rest ih =>
    rw [steps, List.forall_mem_cons]
    exact ⟨moves_next s line, ih (s.next line)⟩

theorem steps_keep {P : Session → Prop} (hs : P s)
    (hstep : ∀ step ∈ s.steps lines, P step.before → P step.after) :
    ∀ step ∈ s.steps lines, P step.before ∧ P step.after := by
  induction lines generalizing s with
  | nil => simp [steps]
  | cons line rest ih =>
    rw [steps, List.forall_mem_cons] at hstep ⊢
    have hnext : P (s.next line) := hstep.1 hs
    exact ⟨⟨hs, hnext⟩, ih hnext hstep.2⟩

/-- No `Move` leads to a path that is not normal. -/
theorem Move.normal (hmove : Move names removing s s') (hs : s.cwd.Normal) : s'.cwd.Normal := by
  cases hmove with
  | rest hrest => rwa [hrest.cwd]
  | home => simp [Path.root, Path.Normal]
  | enter name => exact Path.resolve_normal hs name
  | touch | mkdir => rwa [withWorkspace_cwd]
  | remove recursive name =>
    rcases s.rmOne_cases recursive name with hsame | hfile | ⟨-, hdone | hdone⟩
    · rwa [hsame]
    · rwa [hfile, withWorkspace_cwd]
    · rwa [hdone, withWorkspace_cwd]
    · rw [hdone]
      exact (Path.resolve_normal hs name).parent

/-- A line keeps the session in order. It keeps `cwd` standing if it does not run `rm`, and
otherwise if it is `Supported` after it. -/
theorem InOrder.after_line (hs : InOrder base step.before)
    (hmoves : Moves step.words step.callsRm step.before step.after) (hbase : Tidy base)
    (htop : PlainTop base)
    (hwords : ∀ word ∈ step.words, Path.TildeFirst word) :
    InOrder base step.after ∧
      (step.before.Stands →
        (step.callsRm = true → step.after.Supported base) → step.after.Stands) := by
  cases hcalls : step.callsRm with
  | false =>
    rw [hcalls] at hmoves
    -- Each move keeps the directory standing if it stood before the line.
    have hall := hmoves.keeps
      (P := fun t => InOrder base t ∧ (step.before.Stands → t.Stands))
      (fun t t' hmove ht => ⟨(ht.1.move hwords hmove).1, (ht.1.move hwords hmove).2 ∘ ht.2⟩)
      ⟨hs, id⟩
    exact ⟨hall.1, fun hstands _ => hall.2 hstands⟩
  | true =>
    rw [hcalls] at hmoves
    -- Removals take it away unless it is supported; what rests keeps both. The support is asked for
    -- at the end of the line, so it stands in the invariant as a condition.
    have hall := hmoves.keeps
      (P := fun t => InOrder base t ∧ (step.before.Stands → t.Supported base → t.Stands)) ?_
      ⟨hs, fun hstands _ => hstands⟩
    · exact ⟨hall.1, fun hstands hsupport => hall.2 hstands (hsupport rfl)⟩
    · rintro t t' hmove ⟨ht, hstands⟩
      cases hmove with
      | rest hrest =>
        refine ⟨hrest.inOrder ht, fun hbefore hsupport => hrest.stands_iff.2 ?_⟩
        exact hstands hbefore (hrest.supported_iff.1 hsupport)
      | remove recursive name hname =>
        have hremove := ht.remove hbase htop recursive (hwords name hname)
        exact ⟨hremove.1, fun hbefore => hremove.2 (hstands hbefore)⟩

/-- **The working directory.** After any `lines`, `cwd` is `Normal`. If no tilde stands but at the
start of a word or in the names at the top of the base, it always `Stands` iff each line that
`callsRm` leaves it `Supported`: as the root, as a folder that the base has without a tombstone, or
as one that was created, itself or something below it. -/
theorem working_directory_stands_iff (hbase : Tidy base) (openFiles : List String)
    (active : String) (env aliases : Bindings String String) (table : CommandTable) (now : Int)
    (lines : List String) :
    let steps := (start (.start base openFiles active) env aliases table now).steps lines
    (∀ step ∈ steps, step.after.cwd.Normal) ∧
      (PlainTop base → (∀ step ∈ steps, ∀ word ∈ step.words, Path.TildeFirst word) →
        ((∀ step ∈ steps, step.after.Stands) ↔
          ∀ step ∈ steps, step.callsRm = true → step.after.Supported base)) := by
  intro steps
  have hstart := InOrder.start base openFiles active env aliases table now
  have hmoves := moves_of_mem_steps
    (start (.start base openFiles active) env aliases table now) lines
  refine ⟨fun step hmem => ?_, fun htop hwords => ?_⟩
  · -- Moves lead to normal paths, so a run does.
    refine (steps_keep (P := fun s => s.cwd.Normal) hstart.normal ?_ step hmem).2
    intro step hmem hnormal
    exact (hmoves step hmem).keeps (fun t t' hmove => hmove.normal) hnormal
  · have horder : ∀ step ∈ steps, InOrder base step.before ∧ InOrder base step.after :=
      steps_keep hstart fun step hmem hs =>
        (hs.after_line (hmoves step hmem) hbase htop (hwords step hmem)).1
    constructor
    · intro hstands step hmem _
      exact (horder step hmem).2.supported (hstands step hmem)
    · -- The invariant along the run is that the directory stands; that the session is in order is
      -- known for every step beforehand.
      intro hsupported step hmem
      refine (steps_keep (P := Stands) (isFolderAt_of_isRoot rfl) ?_ step hmem).2
      intro step hmem
      have hnext := (horder step hmem).1.after_line (hmoves step hmem) hbase htop (hwords step hmem)
      exact fun hstands => hnext.2 hstands (hsupported step hmem)

/-- A folder that was created as such remains the working directory when what is inside is
removed. -/
theorem working_directory_stands_created :
    let lines := ["mkdir a", "cd a", "touch b", "rm b"]
    let steps := (standard [] 0).steps lines
    Tidy [] ∧ PlainTop [] ∧ (∀ step ∈ steps, ∀ word ∈ step.words, Path.TildeFirst word) ∧
      (∀ step ∈ steps, step.callsRm = true → step.after.Supported []) ∧
      ∀ step ∈ steps, step.after.cwd.Normal ∧ step.after.Stands := by
  intro lines steps
  have hbase : Tidy [] := by decide
  have hwords : ∀ step ∈ steps, ∀ word ∈ step.words, Path.TildeFirst word := by decide +kernel
  have hsupported : ∀ step ∈ steps, step.callsRm = true → step.after.Supported [] := by
    decide +kernel
  obtain ⟨hnormal, hstands⟩ := working_directory_stands_iff hbase [] ""
    (.ofList Product.environment) (.ofList Product.aliases) (.standard []) 0 lines
  have hall : ∀ step ∈ steps, step.after.Stands :=
    (hstands (by decide) hwords).2 hsupported
  exact ⟨hbase, by decide, hwords, hsupported, fun step hmem =>
    ⟨hnormal step hmem, hall step hmem⟩⟩

/-- A folder that was supplied for the one inside is gone with it, and remains the working
directory. -/
theorem working_directory_vanishes :
    let steps := (standard [] 0).steps ["mkdir -p a/b", "cd a", "rm -r b"]
    Tidy [] ∧ ∃ step ∈ steps, step.after.cwd = ⟨["a"]⟩ ∧ ¬ step.after.Stands := by
  decide +kernel

end Session

end OverlayShell
