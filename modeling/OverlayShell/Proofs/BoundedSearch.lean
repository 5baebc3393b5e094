import OverlayShell.Search.Result

/-!
# Limits

A search stops as soon as it has as many results as are wanted, be it in the middle of a line. What
it has found by then is the beginning of what it finds without a limit, so a greater limit only adds
results at the end. Without a limit there are finitely many: a line is left at its first empty
match, and every other match takes something of the line.
-/

namespace OverlayShell

variable {m : Matcher} {text : Array Char} {j k limit start : Nat} {advancing : Bool}

/-! ## 1. The matches of a line -/

namespace Matcher

theorem upToFrom_eq_take (h : j ≤ k) :
    m.upToFrom text j start advancing = (m.upToFrom text k start advancing).take j := by
  induction j generalizing k start advancing with
  | zero => simp [upToFrom]
  | succ j ih =>
    obtain ⟨k, rfl⟩ := Nat.exists_eq_succ_of_ne_zero (by omega : k ≠ 0)
    rw [upToFrom, upToFrom]
    split
    · rfl
    split
    · rfl
    · rw [List.take_succ_cons, ih (Nat.le_of_succ_le_succ h)]

theorem le_of_first? {further first stop : Nat}
    (h : m.first? text further start advancing = some (first, stop)) : start ≤ first := by
  induction further generalizing start advancing with
  | zero =>
    obtain ⟨_, -, heq⟩ := Option.map_eq_some_iff.1 h
    exact Nat.le_of_eq (Prod.mk.inj heq).1
  | succ further ih =>
    rw [first?] at h
    split at h
    · exact Nat.le_of_eq (Prod.mk.inj (Option.some.inj h)).1
    · exact Nat.le_of_succ_le (ih h)

end Matcher

theorem throughFirstEmpty_take (n : Nat) (stretches : List (Nat × Nat)) :
    throughFirstEmpty (stretches.take n) = (throughFirstEmpty stretches).take n := by
  induction stretches generalizing n with
  | nil => simp [throughFirstEmpty]
  | cons stretch rest ih =>
    cases n with
    | zero => rfl
    | succ n =>
      rw [List.take_succ_cons, throughFirstEmpty, throughFirstEmpty, List.take_succ_cons]
      split
      · rw [List.take_nil]
      · rw [ih]

namespace Matcher

/-- Each match but the last takes at least one of the characters that are left, so
`throughFirstEmpty` leaves at most two more than these. -/
theorem length_throughFirstEmpty_le (m : Matcher) (text : Array Char) (limit start : Nat)
    (advancing : Bool) :
    (throughFirstEmpty (m.upToFrom text limit start advancing)).length ≤ text.size - start + 2 := by
  induction limit generalizing start advancing with
  | zero => simp [upToFrom, throughFirstEmpty]
  | succ limit ih =>
    rw [upToFrom]
    split
    · simp [throughFirstEmpty]
    rename_i hstart
    split
    · simp [throughFirstEmpty]
    · rename_i first stop hfirst
      have hle := le_of_first? hfirst
      rw [throughFirstEmpty, List.length_cons]
      split
      · simp
      rename_i hstop
      -- Behind the end of the text there is no further match.
      by_cases hend : stop > text.size
      · have hnone : m.upToFrom text limit stop (first = stop) = [] := by
          cases limit with
          | zero => rfl
          | succ limit => rw [upToFrom, if_pos hend]
        rw [hnone, throughFirstEmpty]
        simp
      · have hrest := ih stop (first = stop)
        omega

/-- The matches of a line that a search reports if there is room for all: `m.all` up to the first
empty one. -/
def reported (m : Matcher) (text : Array Char) : List (Nat × Nat) := throughFirstEmpty (m.all text)

theorem throughFirstEmpty_upTo :
    throughFirstEmpty (m.upTo limit text) = (m.reported text).take limit := by
  unfold reported all upTo
  rcases Nat.le_total limit (2 * text.size + 2) with h | h
  · rw [upToFrom_eq_take h, throughFirstEmpty_take]
  · have hshort : (throughFirstEmpty (m.upToFrom text limit 0 false)).length ≤
        2 * text.size + 2 := by
      have hle := m.length_throughFirstEmpty_le text limit 0 false
      omega
    rw [upToFrom_eq_take h, throughFirstEmpty_take, List.take_of_length_le hshort,
      List.take_of_length_le (Nat.le_trans hshort h)]

end Matcher

/-! ## 2. The results of a search -/

def resultAt (context : Nat) (path : String) (lines : List String) (line : String) (index : Nat)
    (stretch : Nat × Nat) : SearchResult :=
  { path, line := index + 1, column := stretch.1 + 1, content := Text.trim line
    found := String.ofList (slice line.toList stretch.1 stretch.2)
    before := contextText ((lines.drop (index - context)).take (min index context))
    after := contextText ((lines.drop (index + 1)).take context) }

def everyResultIn (m : Matcher) (context : Nat) (file : File) : List SearchResult :=
  let lines := Text.lines file.content
  if file.content.isEmpty then []
  else
    lines.zipIdx.flatMap fun (line, index) =>
      (m.reported line.toList.toArray).map (resultAt context file.name lines line index)

/-- All the results of a search, file by file. A blank `query` has none. -/
def everyResult (m : Matcher) (context : Nat) (query : String) (files : List File) :
    List SearchResult :=
  if Text.isBlankText query then [] else files.flatMap (everyResultIn m context)

theorem resultsInFile_eq_take (m : Matcher) (context limit : Nat) (file : File) :
    resultsInFile m context limit file = (everyResultIn m context file).take limit := by
  unfold resultsInFile everyResultIn
  split
  · rw [List.take_nil]
  · apply gatherUpTo_eq_take
    rintro limit ⟨line, index⟩
    show (throughFirstEmpty (m.upTo limit _)).map (resultAt _ _ _ line index) = _
    rw [Matcher.throughFirstEmpty_upTo, List.map_take]

variable {query : String} {options : SearchOptions}

/-- A search gives the first of `everyResult`. -/
theorem searchFiles_eq_take (files : List File) (hm : queryMatcher? query options = .ok m) :
    searchFiles files query options =
      .ok ((everyResult m options.contextLines.toNat query files).take
        options.maxResults.toNat) := by
  unfold searchFiles everyResult
  by_cases hblank : Text.isBlankText query = true
  · simp [hblank]
  by_cases hlimit : options.maxResults ≤ 0
  · simp [hlimit, Int.toNat_of_nonpos]
  · simp only [hblank, hlimit, hm, decide_false, Bool.or_false, Bool.false_eq_true, if_false]
    rw [gatherUpTo_eq_take _ _ fun limit file => resultsInFile_eq_take m _ limit file]

/-- **A smaller limit gives the beginning of what a greater one gives**: of `everyResult`, in the
order in which they are met, as many as `maxResults` allows. -/
theorem limit_gives_beginning (files : List File) (hm : queryMatcher? query options = .ok m) :
    let search (limit : Nat) := searchFiles files query { options with maxResults := limit }
    let every := everyResult m options.contextLines.toNat query files
    (∀ j k : Nat, j ≤ k →
      ∃ results, search k = .ok results ∧ search j = .ok (results.take j)) ∧
      ∀ k : Nat, ∃ results, search k = .ok results ∧ results <+: every ∧
        results.length = min k every.length := by
  intro search every
  have hsearch (limit : Nat) : search limit = .ok (every.take limit) := by
    have hlimited : queryMatcher? query { options with maxResults := limit } = .ok m := hm
    exact searchFiles_eq_take files hlimited
  refine ⟨fun j k hle => ⟨_, hsearch k, ?_⟩, fun k => ⟨_, hsearch k, ?_, ?_⟩⟩
  · rw [hsearch j, List.take_take, Nat.min_eq_left hle]
  · exact List.take_prefix k every
  · exact List.length_take

/-- A line with two matches of `a*`, the second of them empty, and another such line behind it: with
three results the second line has begun, with two it has not. -/
theorem limit_gives_beginning_between_lines :
    let files : List File := [⟨"f", "markdown", "aab\na", false⟩]
    let options : SearchOptions := ⟨true, false, true, 50, 2⟩
    let m : Matcher := ⟨.repeated .greedy 0 none (.one (.code false .none 97)), 0, none⟩
    queryMatcher? "a*" options = .ok m ∧ (everyResult m 2 "a*" files).length = 4 ∧
      ∃ results, searchFiles files "a*" { options with maxResults := 3 } = .ok results ∧
        searchFiles files "a*" { options with maxResults := 2 } = .ok (results.take 2) ∧
          results.map (·.line) = [1, 1, 2] := by
  intro files options m
  have hm : queryMatcher? "a*" options = .ok m := rfl
  have hlines : (everyResult m 2 "a*" files).map (·.line) = [1, 1, 2, 2] := by decide +kernel
  have hfour : (everyResult m 2 "a*" files).length = 4 := by
    simpa using congrArg List.length hlines
  obtain ⟨hless, hmany⟩ := limit_gives_beginning files hm
  obtain ⟨results, hthree, htwo⟩ := hless 2 3 (by decide)
  obtain ⟨results', hthree', hstart, hlength⟩ := hmany 3
  obtain rfl : results = results' := Except.ok.inj (hthree.symm.trans hthree')
  have heq : results = (everyResult m 2 "a*" files).take 3 := by
    rw [List.prefix_iff_eq_take.1 hstart, hlength, show options.contextLines.toNat = 2 from rfl,
      hfour]
    rfl
  refine ⟨hm, hfour, results, hthree, htwo, ?_⟩
  rw [heq, List.map_take, hlines]
  rfl

end OverlayShell
