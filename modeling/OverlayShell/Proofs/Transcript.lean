import Mathlib.Data.List.Destutter
import Mathlib.Data.List.DropRight
import OverlayShell.Proofs.WorkingDirectory

/-!
# History and screen

What was submitted is in the history, and what it came to is on the screen. No command touches
either, so both can be told from the lines alone: the history drops what repeats the line before it,
and the screen shows the turns since it was cleared.
-/

namespace OverlayShell

namespace Session

open Workspace

variable {s s' s'' : Session} {args : List String}

/-! ## 1. What a line comes to -/

/-- The session that goes about `input`: it has been remembered, and the alias in it replaced. -/
def prepared (s : Session) (input : String) : Session :=
  ((s.remember (Text.trim input)).replaceAlias (Text.trim input)).1

/-- What `input` comes to in the end: what it has produced stands on the screen below it. -/
def concluded (input : String) (outcome : Session × List Line) : Session × List Line :=
  ({ outcome.1 with
      lastError := lastErrorAfter outcome.1.lastError outcome.2
      screen := outcome.1.screen ++ ⟨.command, Text.trim input⟩ :: outcome.2 },
    outcome.2)

theorem concluded_screen (input : String) (outcome : Session × List Line) :
    (concluded input outcome).1.screen =
      outcome.1.screen ++ ⟨.command, Text.trim input⟩ :: (concluded input outcome).2 := rfl

theorem concluded_lines (input : String) (outcome : Session × List Line) :
    (concluded input outcome).2 = outcome.2 := rfl

theorem concluded_history (input : String) (outcome : Session × List Line) :
    (concluded input outcome).1.history = outcome.1.history := rfl

theorem concluded_recalled (input : String) (outcome : Session × List Line) :
    (concluded input outcome).1.recalled = outcome.1.recalled := rfl

/-- `execute` of a line that is not blank clears the screen, or is `concluded` with what it
produces. -/
theorem execute_eq (s : Session) (input : String) :
    s.execute input =
      if (Text.trim input).isEmpty then (s, [])
      else if asksClear (s.wordsOf input) then
        ({ s.prepared input with
            screen := [], events := (s.prepared input).events ++ ["screen:clear"] }, [])
      else concluded input ((s.prepared input).produce (Text.trim input) (s.wordsOf input)) := by
  unfold execute prepared wordsOf
  dsimp only
  rcases (s.remember (Text.trim input)).replaceAlias (Text.trim input) with ⟨before, words⟩
  rcases before.produce (Text.trim input) words with ⟨after, produced⟩
  rfl

/-! ## 2. Commands leave history and screen alone -/

/-- `s'` has the history and the screen of `s`, and recalls from the same place. -/
structure Quiet (s s' : Session) : Prop where
  history : s'.history = s.history
  screen : s'.screen = s.screen
  recalled : s'.recalled = s.recalled

theorem Quiet.stay : Quiet s s := ⟨rfl, rfl, rfl⟩

theorem Quiet.trans (h : Quiet s s') (h' : Quiet s' s'') : Quiet s s'' :=
  ⟨h'.history.trans h.history, h'.screen.trans h.screen, h'.recalled.trans h.recalled⟩

theorem quiet_note (s : Session) (level : Level) (text : String) :
    Quiet s (s.note level text) := by
  unfold note
  split <;> exact ⟨rfl, rfl, rfl⟩

theorem quiet_emit (s : Session) (event : String) : Quiet s (s.emit event) :=
  (quiet_note s .info ("host event " ++ event)).trans ⟨rfl, rfl, rfl⟩

theorem quiet_withWorkspace (s : Session) (w : Workspace) : Quiet s (s.withWorkspace w) := by
  unfold withWorkspace
  -- The notices are passed on one by one.
  suffices h : ∀ (notices : List Notice) (t : Session),
      Quiet t (notices.foldl (fun s n => s.note n.level n.text) t) from
    ⟨(h w.notices _).history, (h w.notices _).screen, (h w.notices _).recalled⟩
  intro notices
  induction notices with
  | nil => exact fun t => .stay
  | cons n rest ih => exact fun t => (quiet_note t n.level n.text).trans (ih _)

theorem quiet_enter (s : Session) (cwd : Path) : Quiet s { s with cwd } := ⟨rfl, rfl, rfl⟩

theorem quiet_cd (s : Session) (args : List String) : Quiet s (s.cd args).1 := by
  unfold cd
  split
  · exact quiet_enter s _
  · exact quiet_enter s _
  · dsimp only
    split
    · exact .stay
    · exact .stay
    · exact quiet_enter s _

theorem quiet_openNamed (s : Session) (args : List String) : Quiet s (s.openNamed args).1 := by
  unfold openNamed
  split
  · exact .stay
  · dsimp only
    split
    · split <;> exact quiet_withWorkspace s _
    · exact quiet_withWorkspace s _

theorem quiet_exportVariable (s : Session) (args : List String) :
    Quiet s (s.exportVariable args).1 := by
  unfold exportVariable
  split <;> exact ⟨rfl, rfl, rfl⟩

theorem quiet_defineAlias (s : Session) (args : List String) :
    Quiet s (s.defineAlias args).1 := by
  unfold defineAlias
  split
  · exact .stay
  · split <;> exact ⟨rfl, rfl, rfl⟩

theorem quiet_touch (s : Session) (args : List String) : Quiet s (s.touch args).1 := by
  unfold touch
  split
  · exact .stay
  · exact touchAll_keeps s .stay fun t _ _ hquiet _ => hquiet.trans (quiet_withWorkspace t _)

theorem quiet_mkdirOne (s : Session) (parents : Bool) (name : String) :
    Quiet s (s.mkdirOne parents name).1 := by
  unfold mkdirOne
  dsimp only
  split
  · exact .stay
  · split
    · exact .stay
    · cases s.workspace.createFolder (s.resolve name).key
      exact quiet_withWorkspace s _

theorem quiet_rmOne (s : Session) (recursive : Bool) (name : String) :
    Quiet s (s.rmOne recursive name).1 := by
  rcases s.rmOne_cases recursive name with hsame | hfile | ⟨-, hdone | hdone⟩
  · rw [hsame]
    exact .stay
  · rw [hfile]
    exact quiet_withWorkspace s _
  · rw [hdone]
    exact quiet_withWorkspace s _
  · rw [hdone]
    exact (quiet_withWorkspace s _).trans (quiet_enter _ _)

theorem quiet_forEachName {step : Session → String → Session × List Line}
    (hstep : ∀ s name, Quiet s (step s name).1) (s : Session) (names : List String) :
    Quiet s (forEachName step s names).1 := by
  induction names generalizing s with
  | nil => exact .stay
  | cons name rest ih => exact (hstep s name).trans (ih _)

theorem quiet_perform (s : Session) (args : List String) (c : Core) :
    Quiet s (s.perform args c).1 := by
  cases c with
  | cd => exact quiet_cd s args
  | openFile => exact quiet_openNamed s args
  | exportVar => exact quiet_exportVariable s args
  | aliases => exact quiet_defineAlias s args
  | touch => exact quiet_touch s args
  | mkdir =>
    show Quiet s (s.mkdir args).1
    unfold mkdir
    dsimp only
    split
    · exact .stay
    · exact quiet_forEachName (fun s name => quiet_mkdirOne s _ name) s _
  | rm =>
    show Quiet s (s.rm args).1
    unfold rm
    dsimp only
    split
    · exact .stay
    · exact quiet_forEachName (fun s name => quiet_rmOne s _ name) s _
  | _ =>
    rw [perform_looks s args (by decide)]
    exact .stay

theorem quiet_divert (s : Session) (args : List String) (n : Novelty) :
    Quiet s (s.divert args n).1 := by
  cases n with
  | snake | game => exact quiet_emit s "game:snake"
  | leave => exact quiet_emit s "session:exit"
  | matrix =>
    rcases hrain : matrixRain matrixRows s.chance with ⟨rows, chance⟩
    show Quiet s s.matrix.1
    rw [matrix, hrain]
    exact ⟨rfl, rfl, rfl⟩
  | joke | fortune => exact ⟨rfl, rfl, rfl⟩
  | uname =>
    show Quiet s (s.uname args).1
    unfold uname
    split <;> exact .stay
  | social =>
    show Quiet s (s.social args).1
    unfold social
    split
    · exact .stay
    · split
      · exact .stay
      · exact quiet_emit s _
  | neofetch | cowsay | figlet | weather | hostname | df | free | ps | top | about | skills
  | contact | projects | theme | time | welcome => exact .stay

theorem quiet_act (s : Session) (args : List String) (action : Action) :
    Quiet s (s.act args action).1 := by
  cases action with
  | core c => exact quiet_perform s args c
  | novelty n => exact quiet_divert s args n
  | prints | fails | echoes | nothing => exact .stay

theorem quiet_noteFailure (s : Session) (command : String) (failure : Failure) :
    Quiet s (s.noteFailure command failure) := by
  cases failure with
  | refused => exact quiet_note s _ _
  | broken => exact quiet_note s _ _

/-- **A command leaves history and screen alone**, also when it fails: `run` is `Quiet`. -/
theorem quiet_run (s : Session) (name : String) (args : List String) :
    Quiet s (s.run name args).1 := by
  unfold run
  cases s.table.get? name with
  | none => exact .stay
  | some c =>
    dsimp only
    have hnote := quiet_note s .debug ("dispatch " ++ c.name ++ " " ++ Text.quotedList args)
    have hact := hnote.trans (quiet_act _ args c.action)
    split
    · rename_i heq
      rwa [heq] at hact
    · rename_i heq
      rw [heq] at hact
      exact hact.trans (quiet_noteFailure _ _ _)

theorem quiet_produce (s : Session) (line : String) (words : List String) :
    Quiet s (s.produce line words).1 := by
  unfold produce
  split
  · exact .stay
  · dsimp only
    split
    · exact .stay
    · split
      · exact quiet_run s _ _
      · exact .stay

theorem quiet_prepared (s : Session) (input : String) :
    Quiet (s.remember (Text.trim input)) (s.prepared input) := by
  unfold prepared replaceAlias
  split
  · exact .stay
  · dsimp only
    split
    · exact .stay
    · exact quiet_note _ _ _

/-! ## 3. One line -/

/-- `next` enters a line that is not blank into the history, unless it repeats the latest one. -/
theorem history_next (s : Session) (line : String) :
    (s.next line).history =
      if (Text.trim line).isEmpty then s.history else (s.remember (Text.trim line)).history := by
  have hprepared := (s.quiet_prepared line).history
  have hproduced := (quiet_produce (s.prepared line) (Text.trim line) (s.wordsOf line)).history
  rw [next, execute_eq]
  cases (Text.trim line).isEmpty with
  | true => rw [if_pos rfl, if_pos rfl]
  | false =>
    rw [if_neg Bool.false_ne_true, if_neg Bool.false_ne_true]
    cases asksClear (s.wordsOf line) with
    | true =>
      rw [if_pos rfl]
      dsimp only
      exact hprepared
    | false =>
      rw [if_neg Bool.false_ne_true, concluded_history]
      exact hproduced.trans hprepared

/-- `next` with a line that is not blank clears the screen, or puts it there with what it has
produced. -/
theorem screen_next (s : Session) (line : String) :
    (s.next line).screen =
      if (Text.trim line).isEmpty then s.screen
      else if asksClear (s.wordsOf line) then []
      else s.screen ++ ⟨.command, Text.trim line⟩ :: (s.execute line).2 := by
  have hprepared : (s.prepared line).screen = s.screen := (s.quiet_prepared line).screen
  have hproduced := (quiet_produce (s.prepared line) (Text.trim line) (s.wordsOf line)).screen
  rw [next, execute_eq]
  cases (Text.trim line).isEmpty with
  | true => rw [if_pos rfl, if_pos rfl]
  | false =>
    rw [if_neg Bool.false_ne_true, if_neg Bool.false_ne_true]
    cases asksClear (s.wordsOf line) with
    | true => rw [if_pos rfl, if_pos rfl]
    | false =>
      rw [if_neg Bool.false_ne_true, if_neg Bool.false_ne_true, concluded_screen, hproduced,
        hprepared]

/-! ## 4. Many lines -/

namespace Step

def isBlank (step : Step) : Bool := (Text.trim step.line).isEmpty

def clears (step : Step) : Bool := asksClear step.words

def shown (step : Step) : List Line :=
  ⟨.command, Text.trim step.line⟩ :: (step.before.execute step.line).2

end Step

def texts (lines : List String) : List String := (lines.map Text.trim).filter (!·.isEmpty)

theorem texts_cons (line : String) (rest : List String) :
    texts (line :: rest) =
      if (Text.trim line).isEmpty then texts rest else Text.trim line :: texts rest := by
  rw [texts, List.map_cons, List.filter_cons]
  cases (Text.trim line).isEmpty <;> rfl

theorem steps_append (s : Session) (lines : List String) (line : String) :
    s.steps (lines ++ [line]) =
      s.steps lines ++ [⟨lines.foldl next s, line, (lines.foldl next s).next line⟩] := by
  induction lines generalizing s with
  | nil => rfl
  | cons first rest ih => rw [List.cons_append, steps, steps, ih]; rfl

/-- Behind `last`, the history gets the `texts` without what repeats it and without what repeats its
successors. -/
theorem history_after {front : List String} {last : String} (lines : List String)
    (h : s.history = front ++ [last]) :
    (lines.foldl next s).history = front ++ (texts lines).destutter' (· ≠ ·) last := by
  induction lines generalizing s front last with
  | nil => exact h
  | cons line rest ih =>
    have hnext := history_next s line
    rw [List.foldl_cons]
    cases hblank : (Text.trim line).isEmpty with
    | true =>
      rw [hblank, if_pos rfl, h] at hnext
      rw [ih hnext, texts_cons, hblank, if_pos rfl]
    | false =>
      rw [hblank, if_neg Bool.false_ne_true, remember, h, List.getLast?_concat] at hnext
      rw [texts_cons, hblank, if_neg Bool.false_ne_true, List.destutter'_cons]
      by_cases hsame : last = Text.trim line
      · rw [if_pos (congrArg some hsame)] at hnext
        rw [if_neg (not_not_intro hsame), ih hnext]
      · rw [if_neg fun heq => hsame (Option.some.inj heq)] at hnext
        rw [if_pos hsame, ih hnext, List.append_assoc]
        rfl

theorem history_from_start (lines : List String) (h : s.history = []) :
    (lines.foldl next s).history = (texts lines).destutter (· ≠ ·) := by
  induction lines generalizing s with
  | nil => exact h
  | cons line rest ih =>
    have hnext := history_next s line
    rw [List.foldl_cons]
    cases hblank : (Text.trim line).isEmpty with
    | true =>
      rw [hblank, if_pos rfl, h] at hnext
      rw [ih hnext, texts_cons, hblank, if_pos rfl]
    | false =>
      have hfirst : (s.next line).history = [] ++ [Text.trim line] := by
        rw [hnext, hblank, if_neg Bool.false_ne_true, remember, h]
        rfl
      rw [history_after rest hfirst, texts_cons, hblank, if_neg Bool.false_ne_true,
        List.destutter_cons', List.nil_append]

/-- `screen` has the turns since it was cleared last, or all of them. -/
theorem screen_from_start (lines : List String) (h : s.screen = []) :
    (lines.foldl next s).screen =
      (((s.steps lines).filter (!·.isBlank)).rtakeWhile (!·.clears)).flatMap Step.shown := by
  -- The last line decides what becomes of the screen that the lines before it have left.
  induction lines using List.reverseRecOn with
  | nil => exact h
  | append_singleton lines line ih =>
    let last : Step := ⟨lines.foldl next s, line, (lines.foldl next s).next line⟩
    have hnext := screen_next (lines.foldl next s) line
    rw [List.foldl_append, List.foldl_cons, List.foldl_nil, hnext, steps_append,
      List.filter_append]
    show (if last.isBlank then _ else if last.clears then _ else _ ++ last.shown) =
      ((_ ++ [last].filter _).rtakeWhile _).flatMap _
    cases hblank : last.isBlank with
    | true =>
      rw [if_pos rfl, List.filter_cons_of_neg (by simp [hblank]), List.filter_nil, List.append_nil]
      exact ih
    | false =>
      rw [if_neg Bool.false_ne_true, List.filter_cons_of_pos (by simp [hblank]), List.filter_nil]
      cases hclears : last.clears with
      | true =>
        rw [if_pos rfl, List.rtakeWhile_concat_neg _ _ _ (by simp [hclears])]
        rfl
      | false =>
        rw [if_neg Bool.false_ne_true, List.rtakeWhile_concat_pos _ _ _ (by simp [hclears]),
          List.flatMap_append, ih]
        simp

/-- **History and screen.** From `start`, after any `lines`: `history` has the trimmed lines that
are not empty, each once where it is repeated directly; and `screen` has the steps that are not
blank since the last one that `clears`, each as `shown` with what it has produced. -/
theorem history_and_screen (workspace : Workspace) (env aliases : Bindings String String)
    (table : CommandTable) (now : Int) (lines : List String) :
    let s := start workspace env aliases table now
    let final := lines.foldl next s
    final.history = ((lines.map Text.trim).filter (!·.isEmpty)).destutter (· ≠ ·) ∧
      final.screen =
        (((s.steps lines).filter (!·.isBlank)).rtakeWhile (!·.clears)).flatMap Step.shown :=
  ⟨history_from_start lines rfl, screen_from_start lines rfl⟩

/-- The alias `c` clears the screen; the line stays in the history. -/
example :
    let final := ["pwd", "pwd ", " ", "c", "pwd", "echo x"].foldl next (standard [] 0)
    final.history = ["pwd", "c", "pwd", "echo x"] ∧
      final.screen = [⟨.command, "pwd"⟩, .output "/", ⟨.command, "echo x"⟩, .output "x"] := by
  decide +kernel

end Session

end OverlayShell
