import Mathlib.Tactic.TFAE
import OverlayShell.Proofs.PlainPath

/-!
# Keys below a folder

A path lies below a folder if it continues the segments of the folder. Its key tells the same by its
characters: no segment holds a slash, so that the key of the folder with a slash behind it ends
where one of the segments of the path ends.
-/

namespace OverlayShell

namespace Text

theorem join_append (sep : String) {front back : List String} (hfront : front ≠ [])
    (hback : back ≠ []) : join sep (front ++ back) = join sep front ++ sep ++ join sep back := by
  obtain ⟨second, others, rfl⟩ := List.exists_cons_of_ne_nil hback
  induction front with
  | nil => exact absurd rfl hfront
  | cons first rest ih =>
    cases rest with
    | nil => rw [List.singleton_append, join_cons_cons, join_singleton]
    | cons next rest =>
      rw [List.cons_append, List.cons_append, join_cons_cons, ← List.cons_append,
        ih (List.cons_ne_nil _ _), join_cons_cons]
      simp only [String.append_assoc]

theorem startsWith_append (start text : String) : startsWith start (start ++ text) = true := by
  rw [startsWith, String.toList_append, List.isPrefixOf_iff_prefix]
  exact List.prefix_append _ _

end Text

namespace Path

variable {p q : Path}

/-! ## 1. From the segments to the keys -/

theorem exists_way_of_isWithin (hwithin : p.isWithin q = true) (hne : p ≠ q) :
    ∃ way, way ≠ [] ∧ p.segments = q.segments ++ way := by
  obtain ⟨way, hway⟩ := (isWithin_iff p q).1 hwithin
  refine ⟨way, ?_, hway.symm⟩
  rintro rfl
  exact hne (segments_injective (by rw [← hway, List.append_nil]))

/-- The key of a path below `q` starts with `q.key` and a slash. -/
theorem startsWith_key (hq : q.segments ≠ []) (hwithin : p.isWithin q = true) (hne : p ≠ q) :
    Text.startsWith (q.key ++ "/") p.key = true := by
  obtain ⟨way, hbelow, hway⟩ := exists_way_of_isWithin hwithin hne
  have hkey : p.key = q.key ++ "/" ++ Text.join "/" way := by
    rw [key, hway, Text.join_append "/" hq hbelow, key]
  rw [hkey]
  exact Text.startsWith_append _ _

/-! ## 2. From the keys to the segments -/

theorem pieces_key (h : p.Normal) (hroot : p.segments ≠ []) :
    Text.pieces '/' p.key.toList = p.segments.map String.toList :=
  Text.pieces_join '/' p.segments hroot fun s hs => (h s hs).2.2.2.1

theorem exists_way_of_startsWith_key (hp : p.Normal) (hq : q.Normal) (hroot : q.segments ≠ [])
    (h : Text.startsWith (q.key ++ "/") p.key = true) :
    ∃ way, way ≠ [] ∧ p.segments = q.segments ++ way := by
  obtain ⟨rest, hrest⟩ := List.isPrefixOf_iff_prefix.1 h
  rw [String.toList_append, List.append_assoc] at hrest
  -- The root has an empty key, in which there is no slash.
  have hpath : p.segments ≠ [] := by
    intro hnil
    have hempty : p.key.toList = [] := by
      rw [key, hnil]
      rfl
    rw [hempty] at hrest
    simp at hrest
  -- Both keys are cut at their slashes, the longer one at the slash behind the shorter one as well.
  have hsplit : p.segments.map String.toList =
      q.segments.map String.toList ++ Text.pieces '/' rest := by
    rw [← pieces_key hp hpath, ← pieces_key hq hroot, ← Text.pieces_append, ← hrest]
    rfl
  obtain ⟨front, way, hway, hfront, hback⟩ := List.map_eq_append_iff.1 hsplit
  have hsame : front = q.segments :=
    List.map_injective_iff.2 (fun _ _ h => String.toList_injective h) hfront
  refine ⟨way, ?_, by rw [hway, hsame]⟩
  rintro rfl
  exact Text.piecesBy_ne_nil _ rest hback.symm

/-! ## 3. Three ways to lie below -/

theorem isWithin_of_way {way : List String} (hway : p.segments = q.segments ++ way)
    (hne : way ≠ []) : p.isWithin q = true ∧ p ≠ q := by
  constructor
  · rw [isWithin_iff, hway]
    exact List.prefix_append _ _
  · rintro rfl
    exact hne (List.self_eq_append_right.1 hway)

/-- **Lying below is told alike by segments, by keys and by ancestors.** For `Normal` paths, of
which `q` is not the root, `p` is strictly within `q` iff `p.key` starts with `q.key` and a slash,
and iff `q ∈ p.ancestors`. -/
theorem lies_below_tfae (hp : p.Normal) (hq : q.Normal) (hroot : q.isRoot = false) :
    List.TFAE [p.isWithin q = true ∧ p ≠ q, Text.startsWith (q.key ++ "/") p.key = true,
      q ∈ p.ancestors] := by
  have hne : q.segments ≠ [] := by simpa [isRoot] using hroot
  tfae_have 1 → 2 := fun h => startsWith_key hne h.1 h.2
  tfae_have 2 → 1 := by
    intro hstart
    obtain ⟨way, hbelow, hway⟩ := exists_way_of_startsWith_key hp hq hne hstart
    exact isWithin_of_way hway hbelow
  tfae_have 1 ↔ 3 := by
    have hsame : q.segments ≠ p.segments ↔ p ≠ q :=
      not_congr ⟨fun h => (segments_injective h).symm, fun h => h ▸ rfl⟩
    rw [mem_ancestors, isWithin_iff, hsame]
    exact ⟨fun h => ⟨hne, h⟩, fun h => h.2⟩
  tfae_finish

/-- The key of `/a/bc` starts with that of `/a/b`, but not with that and a slash. -/
theorem lies_below_tfae_sibling :
    let p : Path := ⟨["a", "bc"]⟩
    let q : Path := ⟨["a", "b"]⟩
    p.Normal ∧ q.Normal ∧ q.isRoot = false ∧ Text.startsWith q.key p.key = true ∧
      ¬ (p.isWithin q = true ∧ p ≠ q) ∧ Text.startsWith (q.key ++ "/") p.key = false ∧
      q ∉ p.ancestors := by
  intro p q
  have hp : p.Normal := by decide
  have hq : q.Normal := by decide
  have hroot : q.isRoot = false := rfl
  have htfae := lies_below_tfae hp hq hroot
  have hstart : Text.startsWith (q.key ++ "/") p.key = false := by decide
  have hno : ¬ Text.startsWith (q.key ++ "/") p.key = true := by simp [hstart]
  exact ⟨hp, hq, hroot, by decide, mt (htfae.out 0 1).1 hno, hstart, mt (htfae.out 2 1).1 hno⟩

end Path

end OverlayShell
