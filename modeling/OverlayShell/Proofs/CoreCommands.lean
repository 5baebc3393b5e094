import Mathlib.Data.List.Nodup
import OverlayShell.Commands.Table
import OverlayShell.Proofs.Recording
import OverlayShell.Text.Blank

/-!
# Core commands

A command table is built from extra commands and from packs, and commands are registered and taken
away while it is in use. Whatever happens to it, the core commands stay what they are and come
first, every other command is found under its own name in lower case, and no name and no command
occurs twice.
-/

namespace OverlayShell

/-! ## 1. Groups -/

theorem nodup_eraseDups {α : Type} [DecidableEq α] (keys : List α) : keys.eraseDups.Nodup := by
  cases keys with
  | nil => exact List.nodup_nil
  | cons key rest =>
    rw [List.eraseDups_cons, List.nodup_cons, List.mem_eraseDups]
    exact ⟨by simp, nodup_eraseDups _⟩
termination_by keys.length
decreasing_by
  have hle := List.length_filter_le (fun other => !other == key) rest
  simp only [List.length_cons]
  omega

/-- Groups by `f` with the keys in any order are a permutation of the list. -/
theorem flatMap_filter_perm {α β : Type} [DecidableEq β] (f : α → β) {keys : List β}
    (hkeys : keys.Nodup) (things : List α) (hall : ∀ thing ∈ things, f thing ∈ keys) :
    (keys.flatMap fun key => things.filter (f · = key)).Perm things := by
  induction keys generalizing things with
  | nil =>
    have hnil : things = [] := List.eq_nil_iff_forall_not_mem.2 fun thing hthing => by
      simpa using hall thing hthing
    rw [hnil, List.flatMap_nil]
  | cons key rest ih =>
    obtain ⟨hnew, hrest⟩ := List.nodup_cons.1 hkeys
    -- The other groups take nothing from the first one.
    have hothers : (rest.flatMap fun other => things.filter (f · = other)) =
        rest.flatMap fun other => (things.filter (!f · = key)).filter (f · = other) := by
      refine List.flatMap_congr fun other hother => ?_
      rw [List.filter_filter]
      refine List.filter_congr fun thing _ => ?_
      by_cases hthing : f thing = other
      · have hne : other ≠ key := fun heq => hnew (heq ▸ hother)
        simp [hthing, hne]
      · simp [hthing]
    have hleft := ih hrest (things.filter (!f · = key)) fun thing hthing => by
      obtain ⟨hmem, hne⟩ := List.mem_filter.1 hthing
      refine (List.mem_cons.1 (hall thing hmem)).resolve_left ?_
      simpa using hne
    rw [List.flatMap_cons, hothers]
    exact (hleft.append_left _).trans (List.filter_append_perm _ things)

/-! ## 2. Core commands -/

theorem Core.ofName?_name (c : Core) : ofName? c.name = some c := by
  cases c <;> rfl

theorem Core.ofName?_isSome {name : String} :
    (ofName? name).isSome = true ↔ name ∈ all.map Core.name := by
  rw [ofName?, List.find?_isSome, List.mem_map]
  simp only [decide_eq_true_eq]

theorem Core.nodup_names : (all.map Core.name).Nodup := by decide

theorem Core.lower_names : (all.map fun c => Text.lower c.name) = all.map Core.name := by
  decide +kernel

theorem Core.lower_name (c : Core) : Text.lower c.name = c.name :=
  List.map_inj_left.1 lower_names c (by cases c <;> decide)

theorem Core.words_name (c : Core) : Text.words c.name = [c.name] := by
  cases c <;> decide

namespace CommandTable

variable {t : CommandTable} {name : String}

/-- **A core command is found under its name in any case**, whatever else `t` holds. -/
theorem get?_core (t : CommandTable) {c : Core} (h : Text.lower name = c.name) :
    t.get? name = some c.command := by
  rw [get?, h, Core.ofName?_name]

/-- `t.names` has the names, in lower case, that `t.contains`. -/
theorem contains_iff (t : CommandTable) (name : String) :
    t.contains name = true ↔ Text.lower name ∈ t.names := by
  rw [contains, get?, names, List.mem_append, ← Core.ofName?_isSome]
  cases Core.ofName? (Text.lower name) with
  | some c => simp
  | none => simp [Bindings.isSome_get?]

theorem nodup_names (t : CommandTable) : t.names.Nodup := by
  rw [names, List.nodup_append]
  refine ⟨Core.nodup_names, t.extras.distinct, ?_⟩
  rintro name hcore other hextra rfl
  have hnone := t.apart name hextra
  rw [← Core.ofName?_isSome, hnone] at hcore
  cases hcore

/-! ## 3. Changes -/

/-- Every extra command of `t` is bound to its own name in lower case. -/
def Keyed (t : CommandTable) : Prop :=
  ∀ entry ∈ t.extras.entries, Text.lower entry.2.name = entry.1

theorem keyed_empty : empty.Keyed := by simp [Keyed, empty, Bindings.empty]

theorem Keyed.register (h : t.Keyed) (c : Command) : (t.register c).Keyed := by
  unfold CommandTable.register
  dsimp only
  split
  · intro entry hentry
    rcases Bindings.mem_putIn hentry with rfl | hold
    · rfl
    · exact h entry hold
  · exact h

theorem Keyed.unregister (h : t.Keyed) (name : String) : (t.unregister name).Keyed :=
  fun entry hentry => h entry (List.mem_of_mem_filter hentry)

theorem keyed_ofList (commands : List Command) : (ofList commands).Keyed := by
  suffices h : ∀ t : CommandTable, t.Keyed → (commands.foldl CommandTable.register t).Keyed from
    h empty keyed_empty
  induction commands with
  | nil => exact fun t ht => ht
  | cons c rest ih => exact fun t ht => ih _ (ht.register c)

inductive Change where
  | register (c : Command)
  | unregister (name : String)

def change (t : CommandTable) : Change → CommandTable
  | .register c => t.register c
  | .unregister name => t.unregister name

theorem Keyed.change (h : t.Keyed) (change : Change) : (t.change change).Keyed := by
  cases change with
  | register c => exact h.register c
  | unregister name => exact h.unregister name

theorem Keyed.changes (h : t.Keyed) (changes : List Change) :
    (changes.foldl CommandTable.change t).Keyed := by
  induction changes generalizing t with
  | nil => exact h
  | cons change rest ih => exact ih (h.change change)

/-- The commands of a `Keyed` table go by the names that it lists. -/
theorem Keyed.map_all (h : t.Keyed) : (t.all.map fun c => Text.lower c.name) = t.names := by
  rw [all, names, List.map_append, List.map_map]
  refine congrArg₂ (· ++ ·) Core.lower_names ?_
  rw [Bindings.values, Bindings.keys, List.map_map]
  exact List.map_congr_left h

theorem Keyed.nodup_all (h : t.Keyed) : t.all.Nodup :=
  List.Nodup.of_map (fun c : Command => Text.lower c.name) (by rw [h.map_all]; exact t.nodup_names)

theorem byCategory_perm (t : CommandTable) : (t.byCategory.flatMap Prod.snd).Perm t.all := by
  rw [byCategory, List.flatMap_map]
  refine flatMap_filter_perm Command.category (nodup_eraseDups _) t.all fun c hc => ?_
  rw [List.mem_eraseDups]
  exact List.mem_map_of_mem hc

/-- **A command table stays well-formed.** Whatever extra commands and packs it is made from, and
whatever is registered and taken away later: a name that is in lower case that of a `Core` command
leads to that command; no name is listed twice, and those of the core commands come first; the table
`contains` a name exactly if its lower case is listed; and `byCategory` has every command of the
table, each once. -/
theorem table_stays_well_formed (extras : List Command) (pack : List (String × List String))
    (changes : List Change) :
    let made := ofList (extras ++ pack.map fun (name, lines) => .printing name lines)
    let t := changes.foldl change made
    (∀ (c : Core) (name : String), Text.lower name = c.name → t.get? name = some c.command) ∧
      t.names.Nodup ∧ Core.all.map Core.name <+: t.names ∧
      (∀ name, t.contains name = true ↔ Text.lower name ∈ t.names) ∧
      (t.byCategory.flatMap Prod.snd).Nodup ∧
      ∀ c, c ∈ t.byCategory.flatMap Prod.snd ↔
        c ∈ Core.all.map Core.command ∨ c ∈ t.extras.values := by
  intro made t
  have hkeyed : t.Keyed := (keyed_ofList _).changes changes
  have hperm := t.byCategory_perm
  refine ⟨fun c name h => t.get?_core h, t.nodup_names, List.prefix_append _ _, t.contains_iff,
    hperm.nodup_iff.2 hkeyed.nodup_all, fun c => ?_⟩
  rw [hperm.mem_iff, all, List.mem_append]

end CommandTable

end OverlayShell
