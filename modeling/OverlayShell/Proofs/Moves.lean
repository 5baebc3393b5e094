import Mathlib.Logic.Relation
import OverlayShell.Session.Pipeline

/-!
# Moves

Of all that a submitted line does, little touches the working directory and the documents: a
directory is entered, a file or a folder is created or removed. These are the moves of a session,
and every line comes down to a sequence of them.
-/

namespace OverlayShell

namespace Workspace

/-- `w'` has the documents of `w`, recorded and remembered ones; what is open in it may differ. -/
structure SameDocuments (w w' : Workspace) : Prop where
  base : w'.base = w.base
  journal : w'.journal = w.journal
  cache : w'.cache = w.cache

theorem SameDocuments.trans {w w' w'' : Workspace} (h : SameDocuments w w')
    (h' : SameDocuments w' w'') : SameDocuments w w'' :=
  ⟨h'.base.trans h.base, h'.journal.trans h.journal, h'.cache.trans h.cache⟩

theorem SameDocuments.refresh {w w' : Workspace} (h : SameDocuments w w') :
    SameDocuments w.refresh w'.refresh := by
  refine ⟨h.base, h.journal, ?_⟩
  show w'.cache.read w'.base w'.journal = w.cache.read w.base w.journal
  rw [h.base, h.journal, h.cache]

theorem sameDocuments_openFile (w : Workspace) (name : String) :
    SameDocuments w (w.openFile name).2 := by
  unfold openFile
  split <;> exact ⟨rfl, rfl, rfl⟩

end Workspace

namespace Session

open Workspace

/-! ## 1. Rest -/

/-- `s'` is in the directory of `s` and has its documents; at most `view` has been read. -/
structure Rests (s s' : Session) : Prop where
  cwd : s'.cwd = s.cwd
  documents : SameDocuments s.workspace s'.workspace ∨
    SameDocuments s.workspace.refresh s'.workspace

variable {s s' s'' : Session}

theorem Rests.of_same (hcwd : s'.cwd = s.cwd) (hworkspace : s'.workspace = s.workspace) :
    Rests s s' :=
  ⟨hcwd, by rw [hworkspace]; exact .inl ⟨rfl, rfl, rfl⟩⟩

theorem Rests.stay : Rests s s := .of_same rfl rfl

theorem Rests.then_same (h : Rests s s') (hcwd : s''.cwd = s'.cwd)
    (hworkspace : s''.workspace = s'.workspace) : Rests s s'' :=
  ⟨hcwd.trans h.cwd, by rw [hworkspace]; exact h.documents⟩

@[simp] theorem note_workspace (s : Session) (level : Level) (text : String) :
    (s.note level text).workspace = s.workspace := by
  unfold note
  split <;> rfl

@[simp] theorem note_cwd (s : Session) (level : Level) (text : String) :
    (s.note level text).cwd = s.cwd := by
  unfold note
  split <;> rfl

theorem foldl_note (notices : List Notice) (s : Session) :
    (notices.foldl (fun s n => s.note n.level n.text) s).workspace = s.workspace ∧
      (notices.foldl (fun s n => s.note n.level n.text) s).cwd = s.cwd := by
  induction notices generalizing s with
  | nil => exact ⟨rfl, rfl⟩
  | cons n rest ih =>
    obtain ⟨hworkspace, hcwd⟩ := ih (s.note n.level n.text)
    exact ⟨hworkspace.trans (note_workspace s n.level n.text),
      hcwd.trans (note_cwd s n.level n.text)⟩

@[simp] theorem withWorkspace_workspace (s : Session) (w : Workspace) :
    (s.withWorkspace w).workspace = { w.refresh with notices := [] } := (foldl_note _ _).1

@[simp] theorem withWorkspace_cwd (s : Session) (w : Workspace) :
    (s.withWorkspace w).cwd = s.cwd := (foldl_note _ _).2

theorem Rests.withWorkspace {w : Workspace} (h : SameDocuments s.workspace w) :
    Rests s (s.withWorkspace w) := by
  refine ⟨withWorkspace_cwd s w, .inr ?_⟩
  rw [withWorkspace_workspace]
  exact h.refresh.trans ⟨rfl, rfl, rfl⟩

theorem Rests.note (h : Rests s s') (level : Level) (text : String) :
    Rests s (s'.note level text) :=
  h.then_same (note_cwd s' level text) (note_workspace s' level text)

/-! ## 2. Commands at rest -/

/-- `perform` of the core commands other than these seven leaves the session as it is. -/
theorem perform_looks (s : Session) (args : List String) {c : Core}
    (hc : c ∉ [Core.cd, .openFile, .touch, .mkdir, .rm, .exportVar, .aliases]) :
    (s.perform args c).1 = s := by
  -- One case for each command, as each shows by its own text that it hands `s` on. The first seven
  -- are excluded, and the next return `s` without asking anything.
  cases c with
  | cd | openFile | touch | mkdir | rm | exportVar | aliases => exact absurd (by decide) hc
  | pwd | search | stats | whoami | date | uptime | env | echo | history | clear => rfl
  | help =>
    show (s.help args).1 = s
    unfold help
    repeat' (first | rfl | split)
  | ls =>
    show (s.ls args).1 = s
    unfold ls
    dsimp only
    repeat' (first | rfl | split)
  | tree =>
    show (s.drawTree args).1 = s
    unfold drawTree
    dsimp only
    split <;> rfl
  | find =>
    show (s.find args).1 = s
    unfold find
    dsimp only
    repeat' (first | rfl | split)
  | cat =>
    show (s.cat args).1 = s
    unfold cat
    split <;> rfl
  | head =>
    show (s.head args).1 = s
    unfold head excerpt
    split <;> rfl
  | tail =>
    show (s.tail args).1 = s
    unfold tail excerpt
    split <;> rfl
  | wc =>
    show (s.wc args).1 = s
    unfold wc
    split <;> rfl
  | grep =>
    show (s.grep args).1 = s
    unfold grep
    split <;> rfl
  | dmesg =>
    show s.dmesg.1 = s
    unfold dmesg
    split <;> rfl
  | npm =>
    show (s.npm args).1 = s
    unfold npm
    dsimp only
    repeat' (first | rfl | split)
  | node =>
    show (s.node args).1 = s
    unfold node
    dsimp only
    split <;> rfl
  | git =>
    show (s.git args).1 = s
    unfold git
    split <;> rfl
  | curl =>
    show (s.curl args).1 = s
    unfold curl
    split <;> rfl
  | ping =>
    show (s.ping args).1 = s
    unfold ping
    split <;> rfl
  | calculate =>
    show (s.calculate args).1 = s
    unfold calculate
    dsimp only
    split <;> rfl

theorem rests_exportVariable (s : Session) (args : List String) :
    Rests s (s.exportVariable args).1 := by
  unfold exportVariable
  split
  · exact .stay
  · exact .of_same rfl rfl

theorem rests_defineAlias (s : Session) (args : List String) :
    Rests s (s.defineAlias args).1 := by
  unfold defineAlias
  split
  · exact .stay
  · split
    · exact .stay
    · exact .stay
    · exact .of_same rfl rfl

theorem rests_openNamed (s : Session) (args : List String) : Rests s (s.openNamed args).1 := by
  unfold openNamed
  split
  · exact .stay
  · rename_i name _
    have hfirst := sameDocuments_openFile s.workspace (s.resolve name).key
    have hsecond := hfirst.trans (sameDocuments_openFile _ name)
    dsimp only
    split
    · split <;> exact .withWorkspace hsecond
    · exact .withWorkspace hfirst

theorem rests_emit (s : Session) (event : String) : Rests s (s.emit event) :=
  .of_same (note_cwd s _ _) (note_workspace s _ _)

theorem rests_choose {α : Type} (s : Session) (default : α) (things : List α) :
    Rests s (s.choose default things).2 := by
  unfold choose
  cases s.chance.choose default things
  exact .of_same rfl rfl

theorem rests_matrix (s : Session) : Rests s s.matrix.1 := by
  -- The rows are named before the definition is opened: they are not to be computed.
  rcases hrain : matrixRain matrixRows s.chance with ⟨rows, chance⟩
  rw [matrix, hrain]
  exact .of_same rfl rfl

theorem rests_social (s : Session) (args : List String) : Rests s (s.social args).1 := by
  unfold social
  split
  · exact .stay
  · split
    · exact .stay
    · exact rests_emit s _

theorem rests_divert (s : Session) (args : List String) (n : Novelty) :
    Rests s (s.divert args n).1 := by
  cases n with
  | snake | game => exact rests_emit s "game:snake"
  | leave => exact rests_emit s "session:exit"
  | matrix => exact rests_matrix s
  | joke =>
    have hchoose := s.rests_choose "" Screens.jokes
    show Rests s s.joke.1
    unfold joke
    cases hchosen : s.choose "" Screens.jokes
    rwa [hchosen] at hchoose
  | fortune =>
    have hchoose := s.rests_choose "" Screens.fortunes
    show Rests s s.fortune.1
    unfold fortune
    cases hchosen : s.choose "" Screens.fortunes
    rwa [hchosen] at hchoose
  | uname =>
    show Rests s (s.uname args).1
    unfold uname
    split <;> exact .stay
  | social => exact rests_social s args
  | neofetch | cowsay | figlet | weather | hostname | df | free | ps | top | about | skills
  | contact | projects | theme | time | welcome => exact .stay

/-! ## 3. Moves -/

/-- One move, with one of the `names` at hand. With the flag set it removes; `rm` mixes with no
other move. -/
inductive Move (names : List String) : Bool → Session → Session → Prop
  | rest {removing : Bool} {s s' : Session} (h : Rests s s') : Move names removing s s'
  | home {s : Session} : Move names false s { s with cwd := .root }
  | enter {s : Session} (name : String) (hname : name ∈ names)
      (hfolder : isFolderAt s.workspace.tree (s.resolve name) = true) :
      Move names false s { s with cwd := s.resolve name }
  | touch {s : Session} (name : String) (hname : name ∈ names)
      (hfree : lookup s.workspace.tree (s.resolve name) = none) :
      Move names false s (s.withWorkspace (s.workspace.createFile (s.resolve name).key "").2)
  | mkdir {s : Session} (name : String) (hname : name ∈ names)
      (hfree : lookup s.workspace.tree (s.resolve name) = none) :
      Move names false s (s.withWorkspace (s.workspace.createFolder (s.resolve name).key).2)
  | remove {s : Session} (recursive : Bool) (name : String) (hname : name ∈ names) :
      Move names true s (s.rmOne recursive name).1

abbrev Moves (names : List String) (removing : Bool) : Session → Session → Prop :=
  Relation.ReflTransGen (Move names removing)

variable {names args : List String} {removing : Bool}

theorem Rests.moves (h : Rests s s') : Moves names removing s s' := .single (.rest h)

theorem Moves.keeps {P : Session → Prop} (h : Moves names removing s s')
    (hmove : ∀ s s', Move names removing s s' → P s → P s') (hs : P s) : P s' := by
  induction h with
  | refl => exact hs
  | tail _ hlast ih => exact hmove _ _ hlast ih

theorem Moves.mono (h : Moves args removing s s') (hargs : ∀ name ∈ args, name ∈ names) :
    Moves names removing s s' := by
  refine Relation.ReflTransGen.mono (fun t t' hmove => ?_) _ _ h
  cases hmove with
  | rest hrest => exact .rest hrest
  | home => exact .home
  | enter name hname hfolder => exact .enter name (hargs name hname) hfolder
  | touch name hname hfree => exact .touch name (hargs name hname) hfree
  | mkdir name hname hfree => exact .mkdir name (hargs name hname) hfree
  | remove recursive name hname => exact .remove recursive name (hargs name hname)

theorem moves_cd (s : Session) (args : List String) : Moves args false s (s.cd args).1 := by
  unfold cd
  split
  · exact .single (.home)
  · exact .single (.home)
  · rename_i name rest _
    dsimp only
    split
    · exact .refl
    · exact .refl
    · rename_i heq
      refine .single (.enter name (by simp) ?_)
      unfold isFolderAt
      rw [heq]

/-- What `createFile` keeps, wherever `touch` finds nothing, `touch` keeps. -/
theorem touchAll_keeps {P : Session → Prop} (s : Session) (hs : P s)
    (hcreate : ∀ t, ∀ name ∈ args, P t → lookup t.workspace.tree (t.resolve name) = none →
      P (t.withWorkspace (t.workspace.createFile (t.resolve name).key "").2)) :
    P (s.touchAll args).1 := by
  induction args generalizing s with
  | nil => exact hs
  | cons name rest ih =>
    have hrest := fun t other hother => hcreate t other (List.mem_cons_of_mem name hother)
    unfold touchAll
    dsimp only
    split
    · exact ih s hs hrest
    · exact hs
    · rename_i hfree
      have hnext := hcreate s name (by simp) hs hfree
      split
      · -- A file is created where nothing is; if that is refused, the command ends there.
        split
        · rename_i heq
          rw [heq] at hnext
          exact ih _ hnext hrest
        · rename_i heq
          rwa [heq] at hnext
      · exact hs

theorem moves_touchAll (s : Session) (hargs : ∀ name ∈ args, name ∈ names) :
    Moves names false s (s.touchAll args).1 :=
  touchAll_keeps s .refl fun _ name hname hmoves hfree =>
    hmoves.tail (.touch name (hargs name hname) hfree)

theorem moves_mkdirOne (s : Session) (parents : Bool) {name : String} (hname : name ∈ names) :
    Moves names false s (s.mkdirOne parents name).1 := by
  unfold mkdirOne
  dsimp only
  split
  · exact .refl
  · rename_i hfree
    split
    · exact .refl
    · have hmove := Move.mkdir name hname hfree
      cases hmade : s.workspace.createFolder (s.resolve name).key
      rw [hmade] at hmove
      exact .single hmove

/-- What a step does for one name, `forEachName` does for each in turn. -/
theorem moves_forEachName {step : Session → String → Session × List Line}
    (hstep : ∀ s, ∀ name ∈ names, Moves names removing s (step s name).1) (s : Session)
    (hargs : ∀ name ∈ args, name ∈ names) :
    Moves names removing s (forEachName step s args).1 := by
  induction args generalizing s with
  | nil => exact .refl
  | cons name rest ih =>
    have hfirst := hstep s name (hargs name (by simp))
    exact hfirst.trans (ih _ fun other hother => hargs other (by simp [hother]))

/-- `perform` of a core command is a sequence of `Moves`, which remove something only for `rm`. -/
theorem moves_perform (s : Session) (args : List String) (c : Core) :
    Moves args (decide (c = .rm)) s (s.perform args c).1 := by
  have hnames : ∀ name ∈ args.filter (!isOption ·), name ∈ args := fun name hname =>
    (List.mem_filter.1 hname).1
  cases c with
  | cd => exact moves_cd s args
  | openFile => exact (rests_openNamed s args).moves
  | exportVar => exact (rests_exportVariable s args).moves
  | aliases => exact (rests_defineAlias s args).moves
  | touch =>
    show Moves args false s (s.touch args).1
    unfold touch
    split
    · exact .refl
    · exact moves_touchAll s fun _ hname => hname
  | mkdir =>
    show Moves args false s (s.mkdir args).1
    unfold mkdir
    dsimp only
    split
    · exact .refl
    · exact moves_forEachName (fun s name hname => moves_mkdirOne s _ hname) s hnames
  | rm =>
    show Moves args true s (s.rm args).1
    unfold rm
    dsimp only
    split
    · exact .refl
    · exact moves_forEachName (fun s name hname => .single (.remove _ name hname)) s hnames
  -- What is left only looks.
  | _ => rw [perform_looks s args (by decide)]

/-! ## 4. Lines -/

def removes : Action → Bool
  | .core .rm => true
  | _ => false

theorem moves_act (s : Session) (args : List String) (action : Action) :
    Moves args (removes action) s (s.act args action).1 := by
  cases action with
  | core c =>
    have hremoves : removes (.core c) = decide (c = .rm) := by cases c <;> rfl
    rw [hremoves]
    exact moves_perform s args c
  | novelty n => exact (rests_divert s args n).moves
  | prints | fails | echoes | nothing => exact .refl

theorem rests_noteFailure (s : Session) (command : String) (failure : Failure) :
    Rests s (s.noteFailure command failure) := by
  cases failure with
  | refused => exact Rests.stay.note _ _
  | broken => exact Rests.stay.note _ _

/-- The words of a line, trimmed, once `replaceAlias` has replaced an alias in the first place. -/
def wordsOf (s : Session) (input : String) : List String :=
  ((s.remember (Text.trim input)).replaceAlias (Text.trim input)).2

def isRm (s : Session) (name : String) : Bool :=
  match s.table.get? name with
  | none => false
  | some c => removes c.action

def callsRm (s : Session) : List String → Bool
  | [] => false
  | head :: _ => s.isRm (Text.lower head)

theorem callsRm_congr (h : s'.table = s.table) : s'.callsRm = s.callsRm := by
  funext words
  unfold callsRm isRm
  rw [h]

theorem moves_run (s : Session) (name : String) (args : List String) :
    Moves args (s.isRm name) s (s.run name args).1 := by
  unfold run isRm
  cases s.table.get? name with
  | none => exact .refl
  | some c =>
    dsimp only
    have hnote := (Rests.stay (s := s)).note .debug
      ("dispatch " ++ c.name ++ " " ++ Text.quotedList args)
    have hact := moves_act (s.note .debug ("dispatch " ++ c.name ++ " " ++ Text.quotedList args))
      args c.action
    have hmoves := Relation.ReflTransGen.head (.rest hnote) hact
    split
    · rename_i heq
      rwa [heq] at hmoves
    · rename_i heq
      rw [heq] at hmoves
      exact hmoves.tail (.rest (rests_noteFailure _ _ _))

theorem moves_produce (s : Session) (line : String) (words : List String) :
    Moves words (s.callsRm words) s (s.produce line words).1 := by
  unfold produce
  split
  · exact .refl
  · rename_i head args
    dsimp only
    split
    · exact .refl
    · split
      · show Moves (head :: args) (s.isRm (Text.lower head)) s (s.run (Text.lower head) args).1
        have hrun := moves_run s (Text.lower head) args
        exact hrun.mono fun name hname => List.mem_cons_of_mem head hname
      · exact .refl

@[simp] theorem note_table (s : Session) (level : Level) (text : String) :
    (s.note level text).table = s.table := by
  unfold note
  split <;> rfl

theorem replaceAlias_fst (s : Session) (line : String) :
    Rests s (s.replaceAlias line).1 ∧ (s.replaceAlias line).1.table = s.table := by
  unfold replaceAlias
  split
  · exact ⟨.stay, rfl⟩
  · dsimp only
    split
    · exact ⟨.stay, rfl⟩
    · exact ⟨Rests.stay.note _ _, note_table s _ _⟩

/-- **A line is a sequence of moves.** `execute` takes the names for its `Moves` from `wordsOf` the
line, and removes something only if these `callsRm`. -/
theorem moves_execute (s : Session) (input : String) :
    Moves (s.wordsOf input) (s.callsRm (s.wordsOf input)) s (s.execute input).1 := by
  unfold execute
  dsimp only
  split
  · exact .refl
  · obtain ⟨hrest, htable⟩ := (s.remember (Text.trim input)).replaceAlias_fst (Text.trim input)
    have hcalls : ((s.remember (Text.trim input)).replaceAlias (Text.trim input)).1.callsRm =
      s.callsRm := callsRm_congr htable
    rw [← hcalls, wordsOf]
    cases hreplaced : (s.remember (Text.trim input)).replaceAlias (Text.trim input)
    rename_i before words
    rw [hreplaced] at hrest
    have hbefore : Rests s before := ⟨hrest.cwd, hrest.documents⟩
    dsimp only
    split
    · exact Rests.moves (hbefore.then_same rfl rfl)
    · have hproduce := moves_produce before (Text.trim input) words
      cases hproduced : before.produce (Text.trim input) words
      rw [hproduced] at hproduce
      exact .head (.rest hbefore) (hproduce.tail (.rest (.of_same rfl rfl)))

end Session

end OverlayShell
