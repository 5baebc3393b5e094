import Mathlib.Algebra.Ring.Int.Defs
import Mathlib.Algebra.Ring.Nat
import OverlayShell.Proofs.Recording
import OverlayShell.Proofs.Suggestions
import OverlayShell.Search.Statistics

/-!
# Counting files by extension

Every file with content is counted once, under what stands behind the last dot of its key, and with
the lines of its content. That is the extension of the file itself, unless the last dot stands in
the name of a folder.
-/

namespace OverlayShell

/-! ## 1. Slashes in lower case -/

namespace Text

theorem shiftIn_some {n m : Nat} {runs : List CaseRun} (h : shiftIn n runs = some m) :
    ∃ run ∈ runs, run.first ≤ n ∧ m = Int.toNat (n + run.shift) := by
  induction runs with
  | nil => cases h
  | cons run rest ih =>
    rw [shiftIn] at h
    split at h
    · cases h
    · rename_i hfirst
      split at h
      · exact ⟨run, List.mem_cons_self, Nat.le_of_not_lt hfirst, (Option.some.inj h).symm⟩
      · obtain ⟨other, hmem, hother⟩ := ih h
        exact ⟨other, List.mem_cons_of_mem run hmem, hother⟩

theorem lowerRuns_above : ∀ run ∈ lowerRuns, 0x40 ≤ run.first + run.shift := by decide +kernel

theorem toNat_ofNat_cases (n : Nat) : (Char.ofNat n).toNat = n ∨ (Char.ofNat n).toNat = 0 := by
  by_cases hvalid : n.isValidChar
  · rw [Char.ofNat, dif_pos hvalid]
    exact .inl rfl
  · rw [Char.ofNat, dif_neg hvalid]
    exact .inr rfl

theorem slash_mem_lowerForm_iff (c : Char) : '/' ∈ lowerForm c ↔ c = '/' := by
  unfold lowerForm
  split
  · rename_i hc
    have hne : c ≠ '/' := by
      rw [eq_of_beq hc]
      decide
    exact iff_of_false (by decide) hne
  · rw [List.mem_singleton]
    -- Either the character is not in the table and stays, or it is shifted above the slash.
    cases hshift : shiftIn c.toNat lowerRuns with
    | none => exact eq_comm
    | some m =>
      obtain ⟨run, hmem, hfirst, rfl⟩ := shiftIn_some hshift
      have habove := lowerRuns_above run hmem
      refine iff_of_false (fun heq => ?_) (fun heq => ?_)
      · have hcode : 0x2f = (Char.ofNat (Int.toNat (c.toNat + run.shift))).toNat :=
          congrArg Char.toNat heq
        have hcases := toNat_ofNat_cases (Int.toNat (c.toNat + run.shift))
        omega
      · have hnone : shiftIn '/'.toNat lowerRuns = none := by decide +kernel
        rw [heq, hnone] at hshift
        cases hshift

theorem slash_mem_lowerAfter_iff (before cs : List Char) :
    '/' ∈ lowerAfter before cs ↔ '/' ∈ cs := by
  induction cs generalizing before with
  | nil => simp [lowerAfter]
  | cons c cs ih =>
    rw [lowerAfter, List.mem_cons]
    split
    · rename_i hc
      rw [eq_of_beq hc, List.mem_cons, ih]
      refine or_congr_left (iff_of_false ?_ (by decide))
      split <;> decide
    · rw [List.mem_append, ih, slash_mem_lowerForm_iff, eq_comm]

theorem slash_mem_lower_iff (text : String) : '/' ∈ (lower text).toList ↔ '/' ∈ text.toList := by
  rw [lower, String.toList_ofList, slash_mem_lowerAfter_iff]

end Text

/-! ## 2. Extensions -/

/-- The extension of the file itself, whatever folder it stands in. `countedExtension` reads the
whole key instead. -/
def ownExtension (key : String) : String := (extension? (Text.behindLast '/' key)).getD "unknown"

theorem extension?_eq (name : String) :
    extension? name =
      if '.' ∈ name.toList then some (Text.lower (Text.behindLast '.' name)) else none := by
  have hnil : Text.throughLast '.' name = [] ↔ '.' ∉ name.toList := by
    rw [Text.throughLast, List.rdropWhile_eq_nil_iff]
    simp only [ne_eq, decide_not, Bool.not_eq_eq_eq_not, Bool.not_true, decide_eq_false_iff_not]
    exact ⟨fun h hdot => h _ hdot rfl, fun h c hc heq => h (heq ▸ hc)⟩
  rw [extension?, Text.splitLast_eq]
  by_cases hdot : '.' ∈ name.toList
  · rw [if_pos hdot, if_neg (by rw [hnil]; exact not_not_intro hdot)]
  · rw [if_neg hdot, if_pos (hnil.2 hdot)]

theorem countedExtension_eq (key : String) :
    countedExtension key = (extension? key).getD "unknown" := by
  unfold countedExtension extension?
  rcases Text.splitLast '.' key with ⟨_ | before, behind⟩ <;> rfl

/-- With a dot behind the last slash, `behindLast '.'` of a key is that of its last part. -/
theorem behindLast_dot_of_mem {key : String} (h : '.' ∈ (Text.behindLast '/' key).toList) :
    Text.behindLast '.' key = Text.behindLast '.' (Text.behindLast '/' key) := by
  have hkey := congrArg String.toList (Text.throughLast_append_behindLast '/' key)
  rw [String.toList_ofList] at hkey
  rw [Text.behindLast, Text.behindLast, hkey, List.rtakeWhile, List.reverse_append,
    List.takeWhile_append, if_neg]
  · rfl
  · intro hlength
    have hall := (List.takeWhile_eq_self_iff).1 (List.IsPrefix.eq_of_length
      (List.takeWhile_prefix _) hlength)
    simpa using hall '.' (List.mem_reverse.2 h)

theorem slash_mem_behindLast_dot {key : String} (hdot : '.' ∈ key.toList)
    (h : '.' ∉ (Text.behindLast '/' key).toList) : '/' ∈ (Text.behindLast '.' key).toList := by
  have hkey := congrArg String.toList (Text.throughLast_append_behindLast '/' key)
  rw [String.toList_ofList] at hkey
  rcases Text.throughLast_cases '/' key with hnil | ⟨head, hhead⟩
  · rw [hkey, hnil, List.nil_append] at hdot
    exact absurd hdot h
  · have hreverse : key.toList.reverse =
        (Text.behindLast '/' key).toList.reverse ++ '/' :: head.reverse := by
      rw [hkey, hhead, List.reverse_append, List.reverse_append]
      rfl
    have hfree : ∀ c ∈ (Text.behindLast '/' key).toList.reverse, decide (c ≠ '.') = true := by
      intro c hc
      rw [decide_eq_true_eq]
      rintro rfl
      exact h (List.mem_reverse.1 hc)
    rw [Text.behindLast, String.toList_ofList, List.rtakeWhile, List.mem_reverse, hreverse,
      List.takeWhile_append_of_pos hfree, List.takeWhile_cons_of_pos (by decide)]
    simp

theorem slash_not_mem_ownExtension (key : String) : '/' ∉ (ownExtension key).toList := by
  rw [ownExtension, extension?_eq]
  split
  · rw [Option.getD_some, Text.slash_mem_lower_iff]
    intro hmem
    refine Text.not_mem_behindLast '/' key ?_
    rw [Text.behindLast, String.toList_ofList] at hmem
    exact (List.rtakeWhile_suffix _ _).subset hmem
  · decide

/-- The dot that `countedExtension` goes by stands in the file's own name, not in a folder's. -/
def IsCountedByItself (key : String) : Prop :=
  '.' ∈ key.toList → '.' ∈ (Text.behindLast '/' key).toList

theorem countedExtension_of_itself {key : String} (h : IsCountedByItself key) :
    countedExtension key = ownExtension key := by
  rw [countedExtension_eq, ownExtension, extension?_eq, extension?_eq]
  by_cases hdot : '.' ∈ key.toList
  · rw [if_pos hdot, if_pos (h hdot), behindLast_dot_of_mem (h hdot)]
  · have hbehind : '.' ∉ (Text.behindLast '/' key).toList := by
      rw [Text.behindLast, String.toList_ofList]
      exact fun hmem => hdot ((List.rtakeWhile_suffix _ _).subset hmem)
    rw [if_neg hdot, if_neg hbehind]

theorem slash_mem_countedExtension {key : String} (h : ¬ IsCountedByItself key) :
    '/' ∈ (countedExtension key).toList := by
  rw [IsCountedByItself, Classical.not_imp] at h
  rw [countedExtension_eq, extension?_eq, if_pos h.1, Option.getD_some, Text.slash_mem_lower_iff]
  exact slash_mem_behindLast_dot h.1 h.2

/-! ## 3. Tallies -/

/-- How often `name` occurs, as the entry that `byExtension` has for it: none for zero. -/
def tally (names : List String) (name : String) : Option Int :=
  if names.count name = 0 then none else some (names.count name)

theorem tally_eq_none_iff {names : List String} {name : String} :
    tally names name = none ↔ name ∉ names := by
  rw [tally, ← List.count_eq_zero]
  split <;> simp_all

def addOne (b : Bindings String Int) (name : String) : Bindings String Int :=
  b.put name ((b.get? name).getD 0 + 1)

theorem get?_addOne (b : Bindings String Int) (name other : String) :
    (addOne b name).get? other =
      if other = name then some ((b.get? name).getD 0 + 1) else b.get? other := by
  by_cases h : other = name
  · rw [if_pos h, h, addOne, Bindings.get?_put]
  · rw [if_neg h, addOne, Bindings.get?_put_of_ne _ _ h]

theorem sum_addOne (b : Bindings String Int) (name : String) :
    (addOne b name).values.sum = b.values.sum + 1 := by
  show ((Bindings.putIn name ((b.entries.lookup name).getD 0 + 1) b.entries).map Prod.snd).sum =
    (b.entries.map Prod.snd).sum + 1
  induction b.entries with
  | nil => rfl
  | cons entry rest ih =>
    obtain ⟨key, count⟩ := entry
    by_cases hkey : key = name
    · subst hkey
      rw [Bindings.putIn, if_pos rfl, List.lookup_cons_self]
      simp only [Option.getD_some, List.map_cons, List.sum_cons]
      omega
    · rw [Bindings.putIn, if_neg hkey, List.lookup_cons, beq_false_of_ne (Ne.symm hkey)]
      simp only [List.map_cons, List.sum_cons]
      omega

theorem get?_foldl_addOne (names : List String) (b : Bindings String Int) (name : String) :
    (names.foldl addOne b).get? name =
      if names.count name = 0 then b.get? name
      else some ((b.get? name).getD 0 + names.count name) := by
  induction names generalizing b with
  | nil => rw [List.count_nil, if_pos rfl, List.foldl_nil]
  | cons first rest ih =>
    rw [List.foldl_cons, ih, get?_addOne, List.count_cons]
    by_cases hname : name = first
    · subst hname
      rw [if_pos rfl, beq_self_eq_true, if_pos rfl, if_neg (Nat.succ_ne_zero _), Option.getD_some]
      split
      · rename_i hnone
        rw [hnone]
        rfl
      · congr 1
        omega
    · rw [if_neg hname, beq_false_of_ne (Ne.symm hname), if_neg Bool.false_ne_true, Nat.add_zero]

theorem sum_foldl_addOne (names : List String) (b : Bindings String Int) :
    (names.foldl addOne b).values.sum = b.values.sum + names.length := by
  induction names generalizing b with
  | nil => simp
  | cons first rest ih =>
    rw [List.foldl_cons, ih, sum_addOne, List.length_cons]
    omega

theorem length_lines (text : String) :
    (Text.lines text).length = text.toList.count '\n' + 1 := by
  rw [Text.lines, Text.splitAt, List.length_map, Text.pieces]
  induction text.toList with
  | nil => rfl
  | cons c cs ih =>
    rw [Text.piecesBy, List.count_cons]
    split
    · rw [List.length_cons, ih]
    · obtain ⟨first, rest, hsplit⟩ :=
        List.exists_cons_of_ne_nil (Text.piecesBy_ne_nil (· == '\n') cs)
      rw [hsplit] at ih ⊢
      exact ih

theorem totalLines_eq (files : List File) :
    (treeStats files).totalLines = (((files.filter (!·.content.isEmpty)).map fun f =>
      f.content.toList.count '\n' + 1).sum : Nat) := by
  show (files.filter (!·.content.isEmpty)).foldl _ 0 = _
  generalize files.filter (!·.content.isEmpty) = counted
  suffices h : ∀ total : Int, counted.foldl
      (fun (total : Int) f => total + (Text.lines f.content).length) total =
        total + ((counted.map fun f => f.content.toList.count '\n' + 1).sum : Nat) by
    rw [h 0, Int.zero_add]
  induction counted with
  | nil => simp
  | cons f rest ih =>
    intro total
    rw [List.foldl_cons, ih, length_lines, List.map_cons, List.sum_cons]
    omega

/-! ## 4. The figures -/

/-- **When files are counted under their own extensions.** `treeStats` counts each file with content
once, under its `countedExtension`, and lists no extension without a file; the values of
`byExtension` sum to the number of these files, and `totalLines` to their lines. What is counted
under each extension is the `tally` of `ownExtension` iff every counted file `IsCountedByItself`. -/
theorem extension_counts_iff (files : List File) :
    let stats := treeStats files
    let counted := files.filter (!·.content.isEmpty)
    (∀ extension, stats.byExtension.get? extension =
        tally (counted.map fun f => countedExtension f.name) extension) ∧
      stats.byExtension.values.sum = counted.length ∧
      stats.totalLines = ((counted.map fun f => f.content.toList.count '\n' + 1).sum : Nat) ∧
      ((∀ extension, stats.byExtension.get? extension =
          tally (counted.map fun f => ownExtension f.name) extension) ↔
        ∀ f ∈ counted, IsCountedByItself f.name) := by
  intro stats counted
  have hbindings : stats.byExtension =
    (counted.map fun f => countedExtension f.name).foldl addOne .empty := rfl
  have hcounts : ∀ extension, stats.byExtension.get? extension =
      tally (counted.map fun f => countedExtension f.name) extension := by
    intro extension
    rw [hbindings, get?_foldl_addOne, tally]
    split
    · rfl
    · exact congrArg some (Int.zero_add _)
  refine ⟨hcounts, ?_, totalLines_eq files, fun hown f hf => ?_, fun hitself extension => ?_⟩
  · rw [hbindings, sum_foldl_addOne, List.length_map]
    exact Int.zero_add _
  · -- A file that is not counted by itself is counted where no extension of a file is.
    by_contra hfolder
    have hnone : tally (counted.map fun f => ownExtension f.name)
        (countedExtension f.name) = none := by
      rw [tally_eq_none_iff]
      intro hmem
      obtain ⟨other, -, hother⟩ := List.mem_map.1 hmem
      refine slash_not_mem_ownExtension other.name ?_
      rw [hother]
      exact slash_mem_countedExtension hfolder
    rw [← hown, hcounts, tally_eq_none_iff] at hnone
    exact hnone (List.mem_map.2 ⟨f, hf, rfl⟩)
  · rw [hcounts, List.map_congr_left fun f hf => countedExtension_of_itself (hitself f hf)]

/-- `a.b/Makefile` is counted under `b/makefile`, where `ownExtension` has `unknown`. -/
theorem folder_dot_taken_for_extension :
    let f : File := ⟨"a.b/Makefile", "markdown", "x", false⟩
    (treeStats [f]).byExtension.entries = [("b/makefile", 1)] ∧ ownExtension f.name = "unknown" ∧
      (treeStats [f]).byExtension.get? (ownExtension f.name) ≠
        tally [ownExtension f.name] (ownExtension f.name) := by
  decide +kernel

end OverlayShell
