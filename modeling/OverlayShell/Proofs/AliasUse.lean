import OverlayShell.Proofs.CoreCommands
import OverlayShell.Proofs.Transcript

/-!
# Aliases in use

An alias is defined under a name as it is typed, and looked up under the first word of a line in
lower case. If both are the same, the line calls the command that the alias begins with, the rest of
the alias and of the line being its arguments; what the alias begins with is not replaced again,
even if it is an alias itself.
-/

namespace OverlayShell

namespace Session

open Text

variable {s s' : Session} {input line name n t command head : String} {c : Command}
  {args more rest words : List String}

/-! ## 1. The words of a line -/

/-- The words that stand for the first word of a line: those of the alias that `lower name` is, or
else `name` alone. -/
def standsFor (s : Session) (name : String) : List String :=
  Text.words ((s.aliases.get? (lower name)).getD name)

theorem standsFor_of_alias (h : s.aliases.get? (lower name) = some command) :
    s.standsFor name = Text.words command := by
  rw [standsFor, h, Option.getD_some]

theorem wordsOf_nil (h : Text.words input = []) : s.wordsOf input = [] := by
  unfold wordsOf replaceAlias
  rw [words_trim, h]

/-- **One alias is replaced.** The words of a line are what `standsFor` its first word, and then its
other words. -/
theorem wordsOf_cons (h : Text.words input = name :: rest) :
    s.wordsOf input = s.standsFor name ++ rest := by
  have hsingle : ∀ word ∈ name :: rest, IsSingle word := fun word hword =>
    isSingle_of_mem_words (h ▸ hword)
  have haliases : (s.remember (trim input)).aliases = s.aliases := rfl
  unfold wordsOf replaceAlias
  rw [words_trim, h]
  dsimp only
  rw [haliases]
  cases halias : s.aliases.get? (lower name) with
  | none =>
    rw [standsFor, halias, Option.getD_none, words_of_isSingle (hsingle name (by simp))]
    rfl
  | some command =>
    rw [standsFor_of_alias halias]
    dsimp only
    rw [words_append, words_join fun word hword => hsingle word (by simp [hword])]

/-! ## 2. The command that a line calls -/

/-- The words `clear`, `cls` and `history` are taken care of before any command is looked up. -/
def isAboutScreen (name : String) : Bool := name = "clear" || name = "cls" || name = "history"

def called? (s : Session) : List String → Option (Command × List String)
  | [] => none
  | head :: args =>
    if isAboutScreen (lower head) then none
    else (s.table.get? (lower head)).map fun c => (c, args)

def dispatch? (s : Session) (input : String) : Option (Command × List String) :=
  s.called? (s.wordsOf input)

theorem called?_cons (hscreen : isAboutScreen (lower head) = false)
    (hcommand : s.table.get? (lower head) = some c) :
    s.called? (head :: args) = some (c, args) := by
  rw [called?, hscreen, if_neg Bool.false_ne_true, hcommand]
  rfl

/-- More words behind are more arguments, and no other command is `called?`. -/
theorem called?_append_iff (words more rest : List String) :
    s.called? (words ++ rest) = some (c, more ++ rest) ↔ s.called? words = some (c, more) := by
  cases words with
  | cons head args =>
    rw [List.cons_append, called?, called?]
    cases isAboutScreen (lower head) <;> cases s.table.get? (lower head) <;> simp
  | nil =>
    -- Without words of its own the command would take its arguments from itself.
    rw [List.nil_append]
    refine iff_of_false (fun hcalled => ?_) (by simp [called?])
    cases rest with
    | nil => simp [called?] at hcalled
    | cons head args =>
      rw [called?] at hcalled
      split at hcalled
      · cases hcalled
      · obtain ⟨found, -, hargs⟩ := Option.map_eq_some_iff.1 hcalled
        have hlength := congrArg (fun pair => pair.2.length) hargs
        simp only [List.length_append, List.length_cons] at hlength
        omega

theorem prepared_table (s : Session) (input : String) : (s.prepared input).table = s.table := by
  rw [prepared, (replaceAlias_fst _ _).2, remember]

/-- **A line that calls a command runs it**, in the `prepared` session, and is `concluded` with what
that produces. -/
theorem execute_of_dispatch? (h : s.dispatch? input = some (c, args)) :
    ∃ name, s.table.get? name = some c ∧
      s.execute input = concluded input ((s.prepared input).run name args) := by
  unfold dispatch? at h
  cases hwords : s.wordsOf input with
  | nil => rw [hwords, called?] at h; cases h
  -- The words are not those of `clear`, `cls` or `history`, and the line is not blank as it has
  -- words. So `execute` comes to the table, which has the command.
  | cons head others =>
    rw [hwords, called?] at h
    split at h
    · cases h
    rename_i hscreen
    obtain ⟨found, hfound, hpair⟩ := Option.map_eq_some_iff.1 h
    obtain ⟨rfl, rfl⟩ := Prod.mk.inj hpair
    simp only [isAboutScreen, Bool.or_eq_true, decide_eq_true_eq, not_or] at hscreen
    obtain ⟨⟨hclear, hcls⟩, hhistory⟩ := hscreen
    have hblank : (trim input).isEmpty = false := by
      rw [Bool.eq_false_iff]
      intro hempty
      have htrim : trim input = "" := String.isEmpty_iff.1 hempty
      rw [wordsOf_nil (by rw [← words_trim, htrim]; rfl)] at hwords
      cases hwords
    have hasks : asksClear (head :: others) = false := by simp [asksClear, hclear, hcls]
    have hcontains : (s.prepared input).table.contains (lower head) = true := by
      rw [prepared_table, CommandTable.contains, hfound]
      rfl
    refine ⟨lower head, hfound, ?_⟩
    rw [execute_eq, hblank, if_neg Bool.false_ne_true, hwords, hasks, if_neg Bool.false_ne_true,
      produce]
    rw [if_neg hhistory, hcontains, if_pos rfl]

theorem dispatch?_core {core : Core} (halias : s.aliases.get? core.name = none)
    (hscreen : isAboutScreen core.name = false) (text : String) :
    s.dispatch? (core.name ++ " " ++ text) = some (core.command, Text.words text) := by
  have hwords : Text.words (core.name ++ " " ++ text) = core.name :: Text.words text := by
    rw [words_append, core.words_name]
    rfl
  have hfound : s.table.get? (lower core.name) = some core.command := by
    rw [core.lower_name]
    exact s.table.get?_core core.lower_name
  rw [dispatch?, wordsOf_cons hwords, standsFor, core.lower_name, halias, Option.getD_none,
    core.words_name]
  exact called?_cons (by rw [core.lower_name, hscreen]) hfound

/-! ## 3. Defining an alias -/

/-- The line `alias n=t` says that `n` is now an alias, and `command` is stored for it. -/
structure Defines (s : Session) (n t command : String) (s' : Session) : Prop where
  said : s.execute ("alias " ++ n ++ "=" ++ t) =
    (s', [.success ("Alias: " ++ n ++ " = " ++ command)])
  stored : s'.aliases.get? n = some command

theorem defineAlias_done (s : Session)
    (hdefinition : definition? isAliasChar (join " " args) = some (n, t)) (ht : t ≠ "") :
    s.defineAlias args = ({ s with aliases := s.aliases.put n (unquoted t) },
      .ok [.success ("Alias: " ++ n ++ " = " ++ unquoted t)]) := by
  have hargs : args.isEmpty = false := by
    cases args with
    | nil => cases hdefinition
    | cons => rfl
  unfold defineAlias
  rw [hargs, if_neg Bool.false_ne_true, hdefinition]
  split
  · rename_i heq
    cases heq
  · rename_i heq
    exact absurd (Prod.mk.inj (Option.some.inj heq)).2 ht
  · rename_i heq
    obtain ⟨rfl, rfl⟩ := Prod.mk.inj (Option.some.inj heq)
    rfl

theorem run_alias (hfound : s.table.get? name = some Core.aliases.command)
    (hdefinition : definition? isAliasChar (join " " args) = some (n, t)) (ht : t ≠ "") :
    ∃ u : Session, s.run name args = ({ u with aliases := u.aliases.put n (unquoted t) },
      [.success ("Alias: " ++ n ++ " = " ++ unquoted t)]) := by
  refine ⟨s.note .debug ("dispatch " ++ Core.aliases.name ++ " " ++ quotedList args), ?_⟩
  have hact : ∀ u : Session, u.act args (.core .aliases) =
      ({ u with aliases := u.aliases.put n (unquoted t) },
        .ok (some [.success ("Alias: " ++ n ++ " = " ++ unquoted t)])) := by
    intro u
    rw [act, perform, u.defineAlias_done hdefinition ht]
    rfl
  rw [run, hfound]
  dsimp only [Core.command]
  rw [hact]
  rfl

/-- A definition that `definition?` reads is acknowledged, unless `alias` is an alias itself. What
is stored for `n` is `unquoted`. -/
theorem defines_of_definition (halias : s.aliases.get? "alias" = none)
    (hdefinition : definition? isAliasChar (join " " (Text.words (n ++ "=" ++ t))) =
      some (n, command)) (hcommand : command ≠ "") :
    s.Defines n t (unquoted command) (s.execute ("alias " ++ n ++ "=" ++ t)).1 := by
  have hline : "alias " ++ n ++ "=" ++ t = Core.aliases.name ++ " " ++ (n ++ "=" ++ t) := by
    simp only [← String.append_assoc]
    rfl
  have hdispatch : s.dispatch? ("alias " ++ n ++ "=" ++ t) =
      some (Core.aliases.command, Text.words (n ++ "=" ++ t)) := by
    rw [hline]
    exact dispatch?_core halias rfl _
  obtain ⟨name, hname, hexecute⟩ := execute_of_dispatch? hdispatch
  obtain ⟨u, hrun⟩ := run_alias (s := s.prepared ("alias " ++ n ++ "=" ++ t))
    (by rw [prepared_table, hname]) hdefinition hcommand
  rw [hrun] at hexecute
  rw [hexecute]
  exact ⟨hexecute, Bindings.get?_put _ n _⟩

/-- **When an alias does what its definition says.** Let `s.Defines n t command s'`, and let the
first word of `command` be in the table of `s'`. Then a line that begins with `n` has `dispatch?`
give that command, with the other words of `command` and those of the line, exactly if `standsFor n`
calls it with the other words of `command`. This is so if `lower n = n`, whatever else is an alias,
and `execute` then runs the command. -/
theorem alias_dispatch_iff (hdefined : s.Defines n t command s')
    (hcommand : Text.words command = head :: more) (hscreen : isAboutScreen (lower head) = false)
    (hfound : s'.table.get? (lower head) = some c) (hline : Text.words line = n :: rest) :
    (s'.dispatch? line = some (c, more ++ rest) ↔
        s'.called? (s'.standsFor n) = some (c, more)) ∧
      (lower n = n → s'.dispatch? line = some (c, more ++ rest)) ∧
      (s'.dispatch? line = some (c, more ++ rest) → ∃ name, s'.table.get? name = some c ∧
        s'.execute line = concluded line ((s'.prepared line).run name (more ++ rest))) := by
  have hiff : s'.dispatch? line = some (c, more ++ rest) ↔
      s'.called? (s'.standsFor n) = some (c, more) := by
    rw [dispatch?, wordsOf_cons hline, called?_append_iff]
  refine ⟨hiff, fun hlower => hiff.2 ?_, execute_of_dispatch?⟩
  have hstored : s'.aliases.get? (lower n) = some command := by rw [hlower, hdefined.stored]
  rw [standsFor_of_alias hstored, hcommand]
  exact called?_cons hscreen hfound

/-- The alias `p` calls `pwd` with its own arguments and those of the line, although `pwd` is an
alias itself. -/
theorem alias_dispatch_one_level :
    let s := ((standard [] 0).execute "alias pwd=date").1
    let s' := (s.execute "alias p='PWD a'").1
    s'.aliases.get? "pwd" = some "date" ∧ s.Defines "p" "'PWD a'" "PWD a" s' ∧
      s'.dispatch? " p  b" = some (Core.pwd.command, ["a", "b"]) ∧
      (s'.execute " p  b").2 = [.output "/"] := by
  intro s s'
  have hdefined : s.Defines "p" "'PWD a'" (unquoted "'PWD a'") s' :=
    defines_of_definition (by decide +kernel) (by decide +kernel) (by decide)
  rw [show unquoted "'PWD a'" = "PWD a" from by decide +kernel] at hdefined
  have hlower : lower (lower "PWD") = Core.pwd.name := by decide +kernel
  have hcommand : Text.words "PWD a" = ["PWD", "a"] := by decide +kernel
  have hline : Text.words " p  b" = ["p", "b"] := by decide +kernel
  obtain ⟨-, hcalls, -⟩ := alias_dispatch_iff hdefined hcommand (by decide +kernel)
    (s'.table.get?_core (c := .pwd) hlower) hline
  exact ⟨by decide +kernel, hdefined, hcalls (by decide +kernel), by decide +kernel⟩

/-- The alias `P` is acknowledged and stored, but `dispatch?` finds nothing for a line that begins
with it, which `Conversation.reply` answers. -/
theorem alias_in_capitals_not_found :
    let s := standard [] 0
    let s' := (s.execute "alias P=pwd").1
    s.Defines "P" "pwd" "pwd" s' ∧ s'.table.get? (lower "pwd") = some Core.pwd.command ∧
      s'.dispatch? "P" = none ∧ (s'.execute "P").2 = Conversation.reply "P" ∧
      (s'.execute "pwd").2 = [.output "/"] := by
  intro s s'
  have hlower : lower (lower "pwd") = Core.pwd.name := by decide +kernel
  have hdefined : s.Defines "P" "pwd" (unquoted "pwd") s' :=
    defines_of_definition (by decide +kernel) (by decide +kernel) (by decide)
  rw [show unquoted "pwd" = "pwd" from by decide +kernel] at hdefined
  refine ⟨hdefined, s'.table.get?_core hlower, ?_, ?_, ?_⟩
  · exact Option.isNone_iff_eq_none.1 (by decide +kernel)
  · decide +kernel
  · decide +kernel

end Session

end OverlayShell
