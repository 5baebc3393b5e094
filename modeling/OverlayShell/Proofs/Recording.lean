import OverlayShell.Overlay.Journal
import OverlayShell.Proofs.NormalPath

/-!
# What a journal holds

A journal is reached from the empty one by its writes. If each write is about a proper path, one
that is normal and not the root, then so is all that the journal shows as created; and a created
file never lies under a tombstone of its own.
-/

namespace OverlayShell

namespace Bindings

/-! ## 1. Bindings -/

variable {α β : Type}

theorem mem_keys_filter {b : Bindings α β} {p : α × β → Bool} {k : α} :
    k ∈ (b.filter p).keys ↔ ∃ v, (k, v) ∈ b.entries ∧ p (k, v) = true := by
  simp [keys, filter]

theorem mem_keys_of_filter {b : Bindings α β} {p : α × β → Bool} {k : α}
    (h : k ∈ (b.filter p).keys) : k ∈ b.keys := by
  obtain ⟨v, hv, -⟩ := mem_keys_filter.1 h
  exact List.mem_map.2 ⟨(k, v), hv, rfl⟩

variable [DecidableEq α]

theorem mem_keys_put {b : Bindings α β} {key k : α} {value : β} :
    k ∈ (b.put key value).keys ↔ k = key ∨ k ∈ b.keys := mem_keys_putIn

theorem mem_keys_erase {b : Bindings α β} {key k : α} :
    k ∈ (b.erase key).keys ↔ k ≠ key ∧ k ∈ b.keys := by
  rw [erase, mem_keys_filter]
  simp only [keys, List.mem_map, bne_iff_ne]
  constructor
  · rintro ⟨v, hv, hk⟩
    exact ⟨hk, (k, v), hv, rfl⟩
  · rintro ⟨hk, ⟨k', v⟩, hv, rfl⟩
    exact ⟨v, hv, hk⟩

theorem mem_keys_putLast {b : Bindings α β} {key k : α} {value : β} :
    k ∈ (b.putLast key value).keys ↔ k = key ∨ k ∈ b.keys := by
  -- The key is taken out first, so it comes back even if it was there.
  rw [putLast, mem_keys_put, mem_keys_erase]
  by_cases h : k = key <;> simp [h]

theorem mem_putIn {key : α} {value : β} {entries : List (α × β)} {entry : α × β}
    (h : entry ∈ putIn key value entries) : entry = (key, value) ∨ entry ∈ entries := by
  induction entries with
  | nil => exact .inl (List.mem_singleton.1 h)
  | cons first rest ih =>
    rw [putIn] at h
    split at h
    · exact (List.mem_cons.1 h).imp_right (List.mem_cons_of_mem first)
    · rcases List.mem_cons.1 h with rfl | h
      · exact .inr List.mem_cons_self
      · exact (ih h).imp_right (List.mem_cons_of_mem first)

theorem putIn_of_not_mem {key : α} {value : β} {entries : List (α × β)}
    (h : key ∉ entries.map Prod.fst) : putIn key value entries = entries ++ [(key, value)] := by
  induction entries with
  | nil => rfl
  | cons entry rest ih =>
    obtain ⟨k, v⟩ := entry
    simp only [List.map_cons, List.mem_cons, not_or] at h
    rw [putIn, if_neg (fun hk => h.1 hk.symm), ih h.2, List.cons_append]

theorem entries_putLast (b : Bindings α β) (key : α) (value : β) :
    (b.putLast key value).entries = (b.erase key).entries ++ [(key, value)] :=
  putIn_of_not_mem fun h => (mem_keys_erase.1 h).1 rfl

theorem get?_put (b : Bindings α β) (key : α) (value : β) :
    (b.put key value).get? key = some value := by
  show (putIn key value b.entries).lookup key = some value
  induction b.entries with
  | nil => simp [putIn]
  | cons first rest ih =>
    rw [putIn]
    split
    · exact List.lookup_cons_self
    · rename_i hne
      rw [List.lookup_cons, beq_false_of_ne (Ne.symm hne)]
      exact ih

theorem get?_put_of_ne (b : Bindings α β) {key k : α} (value : β) (h : k ≠ key) :
    (b.put key value).get? k = b.get? k := by
  show (putIn key value b.entries).lookup k = b.entries.lookup k
  induction b.entries with
  | nil => rw [putIn, List.lookup_cons, beq_false_of_ne h]
  | cons first rest ih =>
    rw [putIn]
    split
    · rename_i hkey
      rw [List.lookup_cons, List.lookup_cons, hkey, beq_false_of_ne h]
    · rw [List.lookup_cons, List.lookup_cons, ih]

theorem isSome_get? {b : Bindings α β} {key : α} : (b.get? key).isSome = true ↔ key ∈ b.keys := by
  rw [get?, List.lookup_isSome_iff, keys, List.mem_map]
  exact exists_congr fun entry => and_congr_right fun _ => beq_iff_eq.trans eq_comm

/-- `erase` of a new key takes a `put` back, with the others in their order. -/
theorem erase_put {b : Bindings α β} {key : α} (h : key ∉ b.keys) (value : β) :
    (b.put key value).erase key = b := by
  have hentries : ((b.put key value).erase key).entries = b.entries := by
    have hothers : b.entries.filter (fun entry => entry.1 != key) = b.entries :=
      List.filter_eq_self.2 fun entry hentry => bne_iff_ne.2 fun heq =>
        h (List.mem_map.2 ⟨entry, hentry, heq⟩)
    show (putIn key value b.entries).filter _ = b.entries
    rw [putIn_of_not_mem h, List.filter_append, hothers]
    simp
  obtain ⟨entries, hdistinct⟩ := b
  exact (Bindings.mk.injEq ..).mpr hentries

end Bindings

/-- A path that an entry can have: `Normal` and not the root. -/
def Path.Proper (p : Path) : Prop := p.segments ≠ [] ∧ p.Normal

instance (p : Path) : Decidable p.Proper := inferInstanceAs (Decidable (_ ∧ _))

namespace Journal

/-! ## 2. Tombstones -/

theorem isDeleted_iff {j : Journal} {p : Path} : j.isDeleted p = true ↔ p ∈ j.deleted := by
  simp [isDeleted]

theorem mem_without {p q : Path} {paths : List Path} : q ∈ without p paths ↔ q ∈ paths ∧ q ≠ p := by
  simp [without]

theorem mem_including {p q : Path} {paths : List Path} :
    q ∈ including p paths ↔ q = p ∨ q ∈ paths := by
  unfold including
  split
  · rename_i h
    rw [List.contains_iff_mem] at h
    constructor
    · exact .inr
    · rintro (rfl | hq)
      · exact h
      · exact hq
  · rw [List.mem_append, List.mem_singleton, or_comm]

/-! ## 3. Runs of writes -/

/-- The journal after `writes` from the empty one. -/
def after (writes : List Write) : Journal := writes.foldl apply empty

/-- Created files and folders have `Proper` paths, and no created file has a tombstone. -/
structure Sound (j : Journal) : Prop where
  created : ∀ p ∈ j.created.keys, p.Proper
  folders : ∀ p ∈ j.folders, p.Proper
  apart : ∀ p ∈ j.created.keys, p ∉ j.deleted

theorem Sound.empty : Sound empty where
  created := by simp [Journal.empty, Bindings.empty, Bindings.keys]
  folders := by simp [Journal.empty]
  apart := by simp [Journal.empty]

variable {j : Journal} {path : Path}

/-- `Sound` reads `created`, `folders` and which paths have a tombstone, nothing else. -/
theorem Sound.congr {j' : Journal} (h : j.Sound) (hcreated : j'.created = j.created)
    (hfolders : j'.folders = j.folders) (hdeleted : j'.isDeleted = j.isDeleted) : j'.Sound where
  created := by
    rw [hcreated]
    exact h.created
  folders := by
    rw [hfolders]
    exact h.folders
  apart := by
    intro p hmem hdel
    rw [hcreated] at hmem
    rw [← isDeleted_iff, hdeleted, isDeleted_iff] at hdel
    exact h.apart p hmem hdel

theorem Sound.create (h : j.Sound) (hp : path.Proper) (file : File) :
    (j.create path file).Sound where
  created := by
    intro p hmem
    rcases Bindings.mem_keys_putLast.1 hmem with rfl | hmem
    · exact hp
    · exact h.created p hmem
  folders := h.folders
  apart := by
    intro p hmem hdel
    -- The tombstone of the path itself is gone, and no other created file had one.
    obtain ⟨hdel, hne⟩ := mem_without.1 hdel
    exact h.apart p ((Bindings.mem_keys_putLast.1 hmem).resolve_left hne) hdel

theorem Sound.delete (h : j.Sound) (path : Path) : (j.delete path).Sound where
  created := fun p hmem => h.created p (Bindings.mem_keys_erase.1 hmem).2
  folders := h.folders
  apart := by
    intro p hmem hdel
    -- The new tombstone stands where the created file has just been forgotten.
    obtain ⟨hne, hmem⟩ := Bindings.mem_keys_erase.1 hmem
    exact h.apart p hmem ((mem_including.1 hdel).resolve_left hne)

theorem Sound.addFolder (h : j.Sound) (hp : path.Proper) : (j.addFolder path).Sound := by
  -- With one tombstone less, still none of them stands on a created file.
  have hapart : ∀ p ∈ j.created.keys, p ∉ without path j.deleted := fun p hmem hdel =>
    h.apart p hmem (mem_without.1 hdel).1
  unfold Journal.addFolder
  split
  · exact ⟨h.created, h.folders, hapart⟩
  · refine ⟨h.created, fun p hmem => ?_, hapart⟩
    rcases List.mem_append.1 hmem with hmem | hmem
    · exact h.folders p hmem
    · rw [List.mem_singleton.1 hmem]
      exact hp

theorem Sound.dropFoldersUnder (h : j.Sound) (path : Path) : (j.dropFoldersUnder path).Sound :=
  ⟨h.created, fun p hmem => h.folders p (List.mem_of_mem_filter hmem), h.apart⟩

theorem Sound.dropCreatedUnder (h : j.Sound) (path : Path) : (j.dropCreatedUnder path).Sound :=
  ⟨fun p hmem => h.created p (Bindings.mem_keys_of_filter hmem), h.folders,
    fun p hmem => h.apart p (Bindings.mem_keys_of_filter hmem)⟩

theorem Sound.modify (h : j.Sound) (path : Path) (content : String) :
    (j.modify path content).Sound := ⟨h.created, h.folders, h.apart⟩

theorem Sound.reset (h : j.Sound) (path : Path) : (j.reset path).Sound := by
  unfold Journal.reset
  split
  · exact ⟨h.created, h.folders, h.apart⟩
  · exact h

/-- `apply` of a write about a proper path keeps the journal `Sound`. -/
theorem Sound.apply (h : j.Sound) (write : Write) (hp : write.path.Proper) :
    (j.apply write).Sound := by
  cases write with
  | create path file => exact h.create hp file
  | delete path => exact h.delete path
  | addFolder path => exact h.addFolder hp
  | dropFoldersUnder path => exact h.dropFoldersUnder path
  | dropCreatedUnder path => exact h.dropCreatedUnder path
  | modify path content => exact h.modify path content
  | reset path => exact h.reset path

theorem sound_after {writes : List Write} (h : ∀ write ∈ writes, write.path.Proper) :
    (after writes).Sound := by
  -- The induction is on the writes, over every sound journal they may start from.
  suffices hrun : ∀ j : Journal, j.Sound → (writes.foldl Journal.apply j).Sound from
    hrun empty .empty
  induction writes with
  | nil => exact fun j hj => hj
  | cons write rest ih =>
    intro j hj
    exact ih (fun w hw => h w (by simp [hw])) _ (hj.apply write (h write (by simp)))

end Journal

end OverlayShell
