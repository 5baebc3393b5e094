import OverlayShell.Proofs.Recording
import OverlayShell.Proofs.Surviving

/-!
# Enumeration

The walk lists a tree entry by entry, and the look-up follows one path down. In a tree with distinct
sibling names they tell the same: an entry is listed once, under the one path that leads to it. A
path that is not listed leads nowhere, be it that nothing stands at its end or a file on its way.
-/

namespace OverlayShell

open Entry

variable {tree : List Entry} {p q : Path} {entry : Entry} {f : File}

/-- `walkAll` lists an entry below the root under `p` iff `lookup` finds it there. -/
theorem mem_walk_iff_lookup (h : Distinct tree) :
    (p, entry) ∈ walkAll .root tree ↔ p.segments ≠ [] ∧ lookup tree p = some entry := by
  constructor
  · intro hmem
    obtain ⟨s, rest, hp⟩ := exists_way_of_mem_walkAll hmem
    have hroot : p.segments ≠ [] := by
      rw [hp]
      simp
    obtain ⟨way, hway, hfind⟩ := (mem_walkAll_iff h .root p entry).1 hmem
    -- The way from the root to a path is the whole of its segments.
    have hsegments : p.segments = way := hway
    rw [lookup_eq_find? hroot, hsegments]
    exact ⟨hsegments ▸ hroot, hfind⟩
  · rintro ⟨hroot, hlookup⟩
    rw [lookup_eq_find? hroot] at hlookup
    exact (mem_walkAll_iff h .root p entry).2 ⟨p.segments, rfl, hlookup⟩

theorem lookup_eq_none_iff (h : Distinct tree) (hroot : p.segments ≠ []) :
    lookup tree p = none ↔ p ∉ (walkAll .root tree).map Prod.fst := by
  rw [Option.eq_none_iff_forall_ne_some]
  constructor
  · intro hnone hlisted
    obtain ⟨⟨q, entry⟩, hmem, rfl⟩ := List.mem_map.1 hlisted
    exact hnone entry ((mem_walk_iff_lookup h).1 hmem).2
  · intro hlisted entry hentry
    exact hlisted (List.mem_map.2 ⟨(p, entry), (mem_walk_iff_lookup h).2 ⟨hroot, hentry⟩, rfl⟩)

theorem lookup_below_file (hfile : lookup tree p = some (.file f)) (hq : q.isWithin p = true)
    (hne : q ≠ p) : lookup tree q = none := by
  have hway := (Path.isWithin_iff q p).1 hq
  have hp : HasFile p.segments tree := ⟨f, lookup_eq_file_iff.1 hfile⟩
  have hroot : q.segments ≠ [] := by
    intro hnil
    rw [hnil, List.prefix_nil] at hway
    exact hp.ne_nil hway
  rw [Option.eq_none_iff_forall_ne_some]
  intro entry hentry
  -- Whatever stands in the tree has only folders above it.
  have hstands : markAt q.segments tree = some entry.mark := by
    rw [markAt, ← lookup_eq_find? hroot, hentry, Option.map_some]
  exact hne (Path.segments_injective (hp.eq_of_start hway hstands).symm)

/-- **The walk and the look-up agree.** In a `Tidy` tree `walkAll` lists no path twice. It lists
an entry under a proper path `p` iff `lookup` of `p.absolute` gives this entry; and a text that
denotes neither the root nor a listed path, such as one that goes on below a file, is looked up as
`none`. -/
theorem lookup_agrees_with_walk (h : Tidy tree) :
    ((walkAll .root tree).map Prod.fst).Nodup ∧
      (∀ p : Path, p.Proper → ∀ entry,
        (p, entry) ∈ walkAll .root tree ↔ lookup tree (Path.parse p.absolute) = some entry) ∧
      (∀ text, (Path.parse text).isRoot = false →
        Path.parse text ∉ (walkAll .root tree).map Prod.fst →
        lookup tree (Path.parse text) = none) ∧
      ∀ p f, (p, .file f) ∈ walkAll .root tree → ∀ text, (Path.parse text).isWithin p = true →
        Path.parse text ≠ p → lookup tree (Path.parse text) = none := by
  have hdistinct := h.distinct
  refine ⟨nodup_walkAll hdistinct .root, ?_, ?_, ?_⟩
  · intro p hp entry
    rw [Path.parse_absolute hp.2, mem_walk_iff_lookup hdistinct]
    exact and_iff_right hp.1
  · intro text hroot hlisted
    exact (lookup_eq_none_iff hdistinct (by simpa [Path.isRoot] using hroot)).2 hlisted
  · intro p f hmem text hwithin hne
    exact lookup_below_file ((mem_walk_iff_lookup hdistinct).1 hmem).2 hwithin hne

/-- `lookup` finds a file in a folder under the path of `walkAll`, and nothing below it. -/
theorem lookup_agrees_with_walk_nested :
    let f : File := ⟨"b", "markdown", "x", false⟩
    let tree : List Entry := [.file ⟨"c", "json", "", false⟩, .folder "a" [.file f] true]
    Tidy tree ∧ Path.Proper ⟨["a", "b"]⟩ ∧ (⟨["a", "b"]⟩, .file f) ∈ walkAll .root tree ∧
      lookup tree (Path.parse "/a/b") = some (.file f) ∧
      lookup tree (Path.parse "/a/b/c") = none ∧ lookup tree (Path.parse "/a/c") = none := by
  intro f tree
  have htree : Tidy tree := by decide
  have hproper : Path.Proper ⟨["a", "b"]⟩ := by decide
  have hlisted : (⟨["a", "b"]⟩, .file f) ∈ walkAll .root tree := by
    simp [tree, walkAll, walk, Path.child, Path.root, f]
  obtain ⟨-, hfound, hnone, hbelow⟩ := lookup_agrees_with_walk htree
  refine ⟨htree, hproper, hlisted, (hfound _ hproper _).1 hlisted, ?_, ?_⟩
  · exact hbelow _ f hlisted "/a/b/c" (by decide) (by decide)
  · exact hnone "/a/c" (by decide) (by decide)

end OverlayShell
