import OverlayShell.Bindings
import OverlayShell.Commands.Command
import OverlayShell.Text.Letter

/-!
# The command table

All the commands that a session knows: the core commands, which cannot be replaced, and the extra
ones, which are found under their names in lower case and can be registered and taken away.
-/

namespace OverlayShell

/-- The extra commands by their names in lower case. By `apart` none of them has the name of a core
command. -/
structure CommandTable where
  extras : Bindings String Command
  apart : ∀ key ∈ extras.keys, Core.ofName? key = none

namespace CommandTable

def empty : CommandTable := ⟨.empty, by simp [Bindings.keys, Bindings.empty]⟩

def isCore (name : String) : Bool := (Core.ofName? (Text.lower name)).isSome

/-- A command is registered in place of the extra one of its name, or behind all others. One for
which `isCore` holds is not. -/
def register (t : CommandTable) (c : Command) : CommandTable :=
  let key := Text.lower c.name
  if h : Core.ofName? key = none then
    { extras := t.extras.put key c
      apart := fun k hk => by
        rw [Bindings.keys, Bindings.put, Bindings.mem_keys_putIn] at hk
        rcases hk with rfl | hk
        · exact h
        · exact t.apart k hk }
  else t

def unregister (t : CommandTable) (name : String) : CommandTable :=
  { extras := t.extras.erase (Text.lower name)
    apart := fun k hk => t.apart k (by
      simp only [Bindings.keys, Bindings.erase, Bindings.filter, List.mem_map] at hk ⊢
      obtain ⟨entry, hentry, rfl⟩ := hk
      exact ⟨entry, (List.mem_filter.1 hentry).1, rfl⟩) }

def hasExtra (t : CommandTable) (name : String) : Bool := t.extras.has (Text.lower name)

def ofList (commands : List Command) : CommandTable := commands.foldl register empty

def standardExtras : List Command := Novelty.all.map Novelty.command

/-- The table of a fresh session with the commands of a pack, which print lines, on top of
`standardExtras`. -/
def standard (pack : List (String × List String)) : CommandTable :=
  ofList (standardExtras ++ pack.map fun (name, lines) => .printing name lines)

def get? (t : CommandTable) (name : String) : Option Command :=
  let key := Text.lower name
  match Core.ofName? key with
  | some c => some c.command
  | none => t.extras.get? key

def contains (t : CommandTable) (name : String) : Bool := (t.get? name).isSome

/-- The names under which `get?` finds a command, those of the core commands first. -/
def names (t : CommandTable) : List String := Core.all.map Core.name ++ t.extras.keys

def all (t : CommandTable) : List Command := Core.all.map Core.command ++ t.extras.values

/-- The commands under their headings, which are in order of first use. -/
def byCategory (t : CommandTable) : List (String × List Command) :=
  (t.all.map Command.category).eraseDups.map fun category =>
    (category, t.all.filter (·.category = category))

end CommandTable

end OverlayShell
