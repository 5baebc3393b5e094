/-!
# Bindings in order

A finite map that remembers the order in which its keys were first bound. Binding a key again keeps
its place and takes the new value. No key occurs twice.
-/

namespace OverlayShell

/-- Keys bound to values, in order of first binding; no key is bound twice. -/
structure Bindings (α β : Type) where
  entries : List (α × β)
  distinct : (entries.map Prod.fst).Nodup

namespace Bindings

variable {α β : Type}

/-! ## On lists of pairs -/

theorem nodup_keys_filter (p : α × β → Bool) (entries : List (α × β))
    (h : (entries.map Prod.fst).Nodup) : ((entries.filter p).map Prod.fst).Nodup :=
  List.Nodup.sublist (List.Sublist.map Prod.fst List.filter_sublist) h

variable [DecidableEq α]

/-- The list with `key` bound to `value`, in place if `key` is there and at the end otherwise. -/
def putIn (key : α) (value : β) : List (α × β) → List (α × β)
  | [] => [(key, value)]
  | (k, v) :: rest => if k = key then (key, value) :: rest else (k, v) :: putIn key value rest

theorem mem_keys_putIn {key k : α} {value : β} {entries : List (α × β)} :
    k ∈ (putIn key value entries).map Prod.fst ↔ k = key ∨ k ∈ entries.map Prod.fst := by
  induction entries with
  | nil => simp [putIn]
  | cons entry rest ih =>
    obtain ⟨k', v'⟩ := entry
    simp only [putIn]
    split
    · rename_i h
      simp [h]
    · simp only [List.map_cons, List.mem_cons, ih]
      grind

theorem nodup_keys_putIn (key : α) (value : β) (entries : List (α × β))
    (h : (entries.map Prod.fst).Nodup) : ((putIn key value entries).map Prod.fst).Nodup := by
  induction entries with
  | nil => simp [putIn]
  | cons entry rest ih =>
    obtain ⟨k', v'⟩ := entry
    simp only [List.map_cons, List.nodup_cons] at h
    simp only [putIn]
    split
    · rename_i hk
      subst hk
      simpa using h
    · rename_i hk
      simp only [List.map_cons, List.nodup_cons]
      refine ⟨?_, ih h.2⟩
      rw [mem_keys_putIn]
      rintro (rfl | hmem)
      · exact hk rfl
      · exact h.1 hmem

/-! ## Operations -/

def empty : Bindings α β := ⟨[], by simp⟩

def get? (b : Bindings α β) (key : α) : Option β := b.entries.lookup key

def has (b : Bindings α β) (key : α) : Bool := (b.get? key).isSome

def keys (b : Bindings α β) : List α := b.entries.map Prod.fst

def values (b : Bindings α β) : List β := b.entries.map Prod.snd

def put (b : Bindings α β) (key : α) (value : β) : Bindings α β :=
  ⟨putIn key value b.entries, nodup_keys_putIn key value b.entries b.distinct⟩

def filter (b : Bindings α β) (p : α × β → Bool) : Bindings α β :=
  ⟨b.entries.filter p, nodup_keys_filter p b.entries b.distinct⟩

def erase (b : Bindings α β) (key : α) : Bindings α β := b.filter fun entry => entry.1 != key

/-- `key` is bound to `value` at the end, whether or not it was bound before. -/
def putLast (b : Bindings α β) (key : α) (value : β) : Bindings α β := (b.erase key).put key value

def putAll (b : Bindings α β) (pairs : List (α × β)) : Bindings α β :=
  pairs.foldl (fun acc entry => acc.put entry.1 entry.2) b

/-- The pairs bound in turn: of two with one key, the first gives the place and the last the
value. -/
def ofList (pairs : List (α × β)) : Bindings α β := empty.putAll pairs

end Bindings

end OverlayShell
