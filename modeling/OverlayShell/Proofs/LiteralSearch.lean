import OverlayShell.Proofs.BoundedSearch
import Mathlib.Data.List.DropRight

/-!
# Searching for a text

A search for a text in its own case finds it where a reader who goes through each line from left to
right finds it: at the first place at which it stands, and then on behind that place. The scan for
matches of the pattern that is made of the text does the same.
-/

namespace OverlayShell

variable {needle : List Char} {text : List Char} {start p : Nat}

/-! ## 1. Places -/

/-- `needle` stands in `text` at the place `p`. -/
def StandsAt (needle text : List Char) (p : Nat) : Prop :=
  (text.drop p).take needle.length = needle

instance (needle text : List Char) (p : Nat) : Decidable (StandsAt needle text p) :=
  inferInstanceAs (Decidable (_ = _))

/-- The `places` at which `needle` is found from left to right: it stands at each, they do not
overlap, and wherever else it stands it overlaps with a place before. -/
structure LeftmostPlaces (needle text : List Char) (places : List Nat) : Prop where
  stands : ∀ p ∈ places, StandsAt needle text p
  apart : places.Pairwise fun p q => p + needle.length ≤ q
  leftmost : ∀ p, StandsAt needle text p → ∃ q ∈ places, q ≤ p ∧ p < q + needle.length

/-- The places of `needle` in the rest of a text that starts at `pos`; the first `skip` characters
are passed over, as they belong to the last find. -/
def placesFrom (needle : List Char) : Nat → Nat → List Char → List Nat
  | _, _, [] => []
  | skip + 1, pos, _ :: rest => placesFrom needle skip (pos + 1) rest
  | 0, pos, c :: rest =>
    if needle.isPrefixOf (c :: rest) then
      pos :: placesFrom needle (needle.length - 1) (pos + 1) rest
    else placesFrom needle 0 (pos + 1) rest

def placesIn (needle text : List Char) : List Nat := placesFrom needle 0 0 text

theorem placesFrom_skip (skip pos : Nat) (rest : List Char) :
    placesFrom needle skip pos rest = placesFrom needle 0 (pos + skip) (rest.drop skip) := by
  induction rest generalizing skip pos with
  | nil => simp [placesFrom]
  | cons c rest ih =>
    cases skip with
    | zero => rfl
    | succ skip =>
      rw [placesFrom, ih, List.drop_succ_cons]
      congr 1
      omega

theorem standsAt_iff_starts : StandsAt needle text p ↔ needle <+: text.drop p := by
  rw [StandsAt, List.prefix_iff_eq_take, eq_comm]

theorem StandsAt.lt (h : StandsAt needle text p) (hne : needle ≠ []) : p < text.length := by
  by_contra hle
  rw [StandsAt, List.drop_eq_nil_of_le (Nat.le_of_not_lt hle), List.take_nil] at h
  exact hne h.symm

/-! A scan that has come to `start` goes on in one of three ways. -/

theorem placesFrom_of_end (h : text.length ≤ start) :
    placesFrom needle 0 start (text.drop start) = [] := by
  rw [List.drop_eq_nil_of_le h, placesFrom]

theorem placesFrom_of_stands (h : StandsAt needle text start) (hne : needle ≠ []) :
    placesFrom needle 0 start (text.drop start) =
      start :: placesFrom needle 0 (start + needle.length) (text.drop (start + needle.length)) := by
  have hpos := List.length_pos_of_ne_nil hne
  have hstarts := standsAt_iff_starts.1 h
  rw [List.drop_eq_getElem_cons (h.lt hne)] at hstarts ⊢
  rw [placesFrom, if_pos (List.isPrefixOf_iff_prefix.2 hstarts), placesFrom_skip, List.drop_drop,
    show start + 1 + (needle.length - 1) = start + needle.length by omega]

theorem placesFrom_of_not_stands (h : ¬ StandsAt needle text start) (hlt : start < text.length) :
    placesFrom needle 0 start (text.drop start) =
      placesFrom needle 0 (start + 1) (text.drop (start + 1)) := by
  rw [standsAt_iff_starts, List.drop_eq_getElem_cons hlt] at h
  rw [List.drop_eq_getElem_cons hlt, placesFrom, if_neg (by rwa [List.isPrefixOf_iff_prefix])]

/-- `placesFrom` from `start` on has the leftmost places there, as in `LeftmostPlaces`. The
induction is on `room`, which the rest of the text does not exceed. -/
theorem placesFrom_leftmost (hne : needle ≠ []) (start : Nat) {room : Nat}
    (hroom : text.length ≤ start + room) :
    let places := placesFrom needle 0 start (text.drop start)
    (∀ p ∈ places, start ≤ p ∧ StandsAt needle text p) ∧
      places.Pairwise (fun p q => p + needle.length ≤ q) ∧
      ∀ p, start ≤ p → StandsAt needle text p → ∃ q ∈ places, q ≤ p ∧ p < q + needle.length := by
  have hpos := List.length_pos_of_ne_nil hne
  intro places
  unfold places
  clear places
  induction room generalizing start with
  | zero =>
    rw [placesFrom_of_end (by omega)]
    refine ⟨by simp, .nil, fun p hle hp => ?_⟩
    have hlt := hp.lt hne
    omega
  | succ room ih =>
    by_cases hstands : StandsAt needle text start
    -- A find: the next one is behind it, and what overlaps with it is passed over.
    · obtain ⟨hin, hapart, hleft⟩ := ih (start + needle.length) (by omega)
      rw [placesFrom_of_stands hstands hne]
      refine ⟨fun p hp => ?_, List.pairwise_cons.2 ⟨fun q hq => (hin q hq).1, hapart⟩, ?_⟩
      · rcases List.mem_cons.1 hp with rfl | hp
        · exact ⟨Nat.le_refl _, hstands⟩
        · exact ⟨Nat.le_trans (Nat.le_add_right _ _) (hin p hp).1, (hin p hp).2⟩
      · intro p hle hp
        by_cases hbehind : start + needle.length ≤ p
        · obtain ⟨q, hq, hoverlap⟩ := hleft p hbehind hp
          exact ⟨q, List.mem_cons_of_mem _ hq, hoverlap⟩
        · exact ⟨start, List.mem_cons_self, hle, Nat.lt_of_not_le hbehind⟩
    · by_cases hlt : start < text.length
      · obtain ⟨hin, hapart, hleft⟩ := ih (start + 1) (by omega)
        rw [placesFrom_of_not_stands hstands hlt]
        refine ⟨fun p hp => ⟨Nat.le_of_succ_le (hin p hp).1, (hin p hp).2⟩, hapart, ?_⟩
        intro p hle hp
        have hne : start ≠ p := fun heq => hstands (heq ▸ hp)
        exact hleft p (by omega) hp
      · rw [placesFrom_of_end (Nat.le_of_not_lt hlt)]
        refine ⟨by simp, .nil, fun p hle hp => ?_⟩
        have hp := hp.lt hne
        omega

/-- Behind its first find `placesFrom` goes on as if it had started there. -/
theorem placesFrom_behind (hne : needle ≠ []) {room : Nat} (hroom : text.length ≤ start + room)
    {rest : List Nat} (h : placesFrom needle 0 start (text.drop start) = p :: rest) :
    rest = placesFrom needle 0 (p + needle.length) (text.drop (p + needle.length)) := by
  induction room generalizing start with
  | zero =>
    rw [placesFrom_of_end (by omega)] at h
    cases h
  | succ room ih =>
    by_cases hstands : StandsAt needle text start
    · rw [placesFrom_of_stands hstands hne] at h
      obtain ⟨rfl, rfl⟩ := List.cons.inj h
      rfl
    by_cases hlt : start < text.length
    · rw [placesFrom_of_not_stands hstands hlt] at h
      exact ih (by omega) h
    · rw [placesFrom_of_end (Nat.le_of_not_lt hlt)] at h
      cases h

theorem placesIn_leftmost (hne : needle ≠ []) (text : List Char) :
    LeftmostPlaces needle text (placesIn needle text) := by
  obtain ⟨hin, hapart, hleft⟩ := placesFrom_leftmost hne 0 (Nat.le_add_left text.length 0)
  exact ⟨fun p hp => (hin p hp).2, hapart, fun p hp => hleft p (Nat.zero_le p) hp⟩

/-! ## 2. The pattern of a text -/

/-- The `Pattern` of one character in its own case. -/
def ofLetter (c : Char) : Pattern := .one (.code false .none c.toNat)

def ofLetters (letters : List Char) : Pattern := .sequence (letters.map ofLetter)

theorem ofLiteral_eq (query : String) :
    Matcher.ofLiteral query false false = .ofPattern .plain [] (ofLetters query.toList) := rfl

theorem holds_letter (c d : Char) :
    (CharTest.code false .none c.toNat).holds d = decide (d = c) := by
  simp [CharTest.holds, Folding.same, Char.toNat_inj]

theorem run_ofLetters_cons (source : Array Char) (c : Char) (letters : List Char)
    (place : PatternPlace) (st : MatchState) (k : Continuation) :
    (ofLetters (c :: letters)).run source place st k =
      if source[st.pos]? = some c then
        (ofLetters letters).run source place { st with pos := st.pos + 1 } k
      else .error st := by
  have hone : (ofLetters (c :: letters)).run source place st k =
      (ofLetter c).run source place st fun st => (ofLetters letters).run source place st k := by
    cases letters <;> rfl
  rw [hone, ofLetter, Pattern.run]
  cases hc : source[st.pos]? with
  | none => simp
  | some d => simp [holds_letter]

/-- `ofLetters` matches where `StandsAt` holds, and fails before its continuation is asked
elsewhere. -/
theorem run_ofLetters (source : Array Char) (letters : List Char) (place : PatternPlace)
    (st : MatchState) (k : Continuation) :
    if StandsAt letters source.toList st.pos then
      (ofLetters letters).run source place st k = k { st with pos := st.pos + letters.length }
    else ∃ left, (ofLetters letters).run source place st k = .error left := by
  induction letters generalizing st with
  | nil =>
    rw [if_pos (by simp [StandsAt])]
    rfl
  | cons c letters ih =>
    rw [run_ofLetters_cons]
    -- A text stands at a place if its first character does and the others stand behind it.
    have hcons : StandsAt (c :: letters) source.toList st.pos ↔
        source[st.pos]? = some c ∧ StandsAt letters source.toList (st.pos + 1) := by
      simp only [StandsAt, ← Array.getElem?_toList]
      by_cases hlt : st.pos < source.toList.length
      · rw [List.drop_eq_getElem_cons hlt, List.getElem?_eq_getElem hlt, List.length_cons,
          List.take_succ_cons, List.cons.injEq, Option.some.injEq]
      · rw [List.drop_eq_nil_of_le (Nat.le_of_not_lt hlt),
          List.getElem?_eq_none (Nat.le_of_not_lt hlt)]
        simp
    by_cases hc : source[st.pos]? = some c
    · have hrest := ih { st with pos := st.pos + 1 }
      rw [if_pos hc]
      simp only [hcons, hc, true_and, List.length_cons] at hrest ⊢
      rwa [Nat.add_assoc, Nat.add_comm 1] at hrest
    · -- The first character differs, and the test on it fails where it was tried.
      rw [if_neg hc, if_neg fun h => hc (hcons.1 h).1]
      exact ⟨st, rfl⟩

theorem least_ofLetters_le (letters : List Char) :
    ((ofLetters letters).width []).least ≤ letters.length := by
  induction letters with
  | nil => exact Nat.le_refl 0
  | cons c letters ih =>
    cases letters with
    | nil => exact Nat.le_refl 1
    | cons d rest =>
      show min (1 + ((ofLetters (d :: rest)).width []).least) _ ≤ _
      rw [List.length_cons]
      omega

theorem startTest?_ofLetters (letters : List Char) :
    (ofLetters letters).startTest? false = none := by
  cases letters with
  | nil => rfl
  | cons c letters => cases letters <;> rfl

/-- `mayStartAt` rules out no place that leaves room for the query. -/
theorem mayStartAt_ofLiteral {query : String} {source : Array Char}
    (h : start + query.toList.length ≤ source.size) :
    (Matcher.ofLiteral query false false).mayStartAt source start = true := by
  have hleast := least_ofLetters_le query.toList
  rw [ofLiteral_eq, Matcher.mayStartAt, Matcher.ofPattern]
  simp only [startTest?_ofLetters, show PatternMode.plain.ascii = false from rfl, ite_self,
    Option.all_none, Bool.and_true, decide_eq_true_eq]
  omega

theorem StandsAt.length_le (h : StandsAt needle text p) (hne : needle ≠ []) :
    p + needle.length ≤ text.length := by
  have hlt := h.lt hne
  have hlength := congrArg List.length h
  rw [List.length_take, List.length_drop] at hlength
  omega

/-- `endAt?` of a literal is decided by `StandsAt`. -/
theorem endAt?_ofLiteral {query : String} (hne : query.toList ≠ []) (source : Array Char)
    (start : Nat) (advancing : Bool) :
    (Matcher.ofLiteral query false false).endAt? source start advancing =
      if StandsAt query.toList source.toList start then some (start + query.toList.length)
      else none := by
  have hpos := List.length_pos_of_ne_nil hne
  have hrun := run_ofLetters source query.toList .top (.start start)
    fun st => if advancing && st.pos = start then .error st else .ok st
  rw [Matcher.endAt?, ofLiteral_eq]
  by_cases hstands : StandsAt query.toList source.toList start
  · have hroom := hstands.length_le hne
    rw [show source.toList.length = source.size from Array.length_toList] at hroom
    rw [← ofLiteral_eq, if_pos hstands, if_pos (mayStartAt_ofLiteral hroom)]
    rw [if_pos (show StandsAt _ _ (MatchState.start start).pos from hstands)] at hrun
    -- The match is not empty, so it is not passed over.
    have hmoved : (advancing && decide (start + query.toList.length = start)) = false := by
      rw [decide_eq_false (by omega), Bool.and_false]
    show Option.map _ (Except.toOption ((ofLetters query.toList).run source _ _ _)) = _
    rw [hrun]
    show Option.map _ (Except.toOption (if (advancing &&
      decide (start + query.toList.length = start)) = true then _ else _)) = _
    rw [hmoved]
    rfl
  · rw [if_neg (show ¬ StandsAt _ _ (MatchState.start start).pos from hstands)] at hrun
    obtain ⟨left, hleft⟩ := hrun
    rw [if_neg hstands]
    show (if _ then Option.map _ (Except.toOption ((ofLetters query.toList).run source _ _ _))
      else none) = none
    rw [hleft]
    exact ite_self none

/-! ## 3. The matches of a line -/

/-- `first?` of a literal is the first of its places. -/
theorem first?_ofLiteral {query : String} (hne : query.toList ≠ []) (source : Array Char)
    {room : Nat} (hroom : source.size = start + room) (advancing : Bool) :
    (Matcher.ofLiteral query false false).first? source room start advancing =
      (placesFrom query.toList 0 start (source.toList.drop start)).head?.map
        fun p => (p, p + query.toList.length) := by
  induction room generalizing start advancing with
  | zero =>
    rw [Matcher.first?, endAt?_ofLiteral hne, if_neg fun h => ?_, placesFrom_of_end ?_]
    · rfl
    · rw [Array.length_toList]
      omega
    · have hlt := h.lt hne
      rw [Array.length_toList] at hlt
      omega
  | succ room ih =>
    rw [Matcher.first?, endAt?_ofLiteral hne]
    by_cases hstands : StandsAt query.toList source.toList start
    · rw [if_pos hstands, placesFrom_of_stands hstands hne]
      rfl
    · rw [if_neg hstands, placesFrom_of_not_stands hstands (by rw [Array.length_toList]; omega)]
      exact ih (by omega) false

/-- `upToFrom` of a literal has its places, up to the limit. -/
theorem upToFrom_ofLiteral {query : String} (hne : query.toList ≠ []) (source : Array Char)
    (limit start : Nat) (advancing : Bool) :
    (Matcher.ofLiteral query false false).upToFrom source limit start advancing =
      ((placesFrom query.toList 0 start (source.toList.drop start)).take limit).map
        fun p => (p, p + query.toList.length) := by
  induction limit generalizing start advancing with
  | zero => rfl
  | succ limit ih =>
    rw [Matcher.upToFrom]
    split
    · rename_i hend
      rw [placesFrom_of_end (by rw [Array.length_toList]; omega)]
      rfl
    · rename_i hstart
      have hroom : source.toList.length ≤ start + source.size := by
        rw [Array.length_toList]
        omega
      rw [first?_ofLiteral hne source (by omega)]
      cases hplaces : placesFrom query.toList 0 start (source.toList.drop start) with
      | nil => rfl
      | cons p rest =>
        -- The scan goes on behind the find, as the places do.
        rw [placesFrom_behind hne hroom hplaces, List.take_succ_cons, List.map_cons, ← ih]
        rfl

/-- A match of a literal is never empty, so `reported` has all of `placesIn`. -/
theorem reported_ofLiteral {query : String} (hne : query.toList ≠ []) (line : List Char) :
    (Matcher.ofLiteral query false false).reported line.toArray =
      (placesIn query.toList line).map fun p => (p, p + query.toList.length) := by
  have hpos := List.length_pos_of_ne_nil hne
  have hall (places : List Nat) :
      throughFirstEmpty (places.map fun p => (p, p + query.toList.length)) =
        places.map fun p => (p, p + query.toList.length) := by
    induction places with
    | nil => rfl
    | cons p rest ih =>
      rw [List.map_cons, throughFirstEmpty, if_neg (by omega), ih]
  -- As many matches as there are places are enough.
  have hupTo (limit : Nat) : ((Matcher.ofLiteral query false false).reported line.toArray).take
      limit = ((placesIn query.toList line).take limit).map
        fun p => (p, p + query.toList.length) := by
    rw [← Matcher.throughFirstEmpty_upTo, Matcher.upTo, upToFrom_ofLiteral hne, hall]
    rfl
  have hlong := hupTo (max ((Matcher.ofLiteral query false false).reported line.toArray).length
    (placesIn query.toList line).length)
  rwa [List.take_of_length_le (Nat.le_max_left _ _),
    List.take_of_length_le (Nat.le_max_right _ _)] at hlong

/-! ## 4. The results of a search -/

/-- The `SearchResult` for a place `p` in the line at `index`, with its neighbours as context. -/
def placeResult (query : String) (context : Nat) (path : String) (lines : List String)
    (line : String) (index p : Nat) : SearchResult :=
  { path, line := index + 1, column := p + 1, content := Text.trim line, found := query
    before := contextText ((lines.take index).rtake context)
    after := contextText ((lines.drop (index + 1)).take context) }

/-- The results for all the places of `query` in a file, line by line. -/
def placeResultsIn (query : String) (context : Nat) (file : File) : List SearchResult :=
  let lines := Text.lines file.content
  lines.zipIdx.flatMap fun (line, index) =>
    (placesIn query.toList line.toList).map
      (placeResult query context file.name lines line index)

theorem resultAt_place {query line : String} {lines : List String} {context index p : Nat}
    {path : String} (hindex : index ≤ lines.length) (hp : StandsAt query.toList line.toList p) :
    resultAt context path lines line index (p, p + query.toList.length) =
      placeResult query context path lines line index p := by
  have hfound : slice line.toList p (p + query.toList.length) = query.toList := by
    rw [slice, Nat.add_sub_cancel_left]
    exact hp
  have hbefore : (lines.drop (index - context)).take (min index context) =
      (lines.take index).rtake context := by
    rw [List.rtake, List.length_take, Nat.min_eq_left hindex, List.drop_take]
    congr 1
    omega
  rw [resultAt, placeResult, hfound, hbefore, String.ofList_toList]

theorem everyResultIn_ofLiteral {query : String} (hne : query.toList ≠ []) (context : Nat)
    (file : File) :
    everyResultIn (Matcher.ofLiteral query false false) context file =
      placeResultsIn query context file := by
  unfold everyResultIn placeResultsIn
  split
  -- The one line of an empty file is too short for the text.
  · rename_i hempty
    rw [String.isEmpty_iff.1 hempty]
    rfl
  · apply List.flatMap_congr
    rintro ⟨line, index⟩ hline
    have hindex := List.snd_lt_of_mem_zipIdx hline
    show List.map _ (Matcher.reported _ line.toList.toArray) = List.map _ _
    rw [reported_ofLiteral hne, List.map_map]
    apply List.map_congr_left
    intro p hp
    exact resultAt_place (by omega) ((placesIn_leftmost hne _).stands p hp)

theorem ne_nil_of_not_blank {query : String} (h : Text.isBlankText query = false) :
    query.toList ≠ [] := by
  rintro hnil
  rw [Text.isBlankText, hnil] at h
  cases h

variable {query : String} {options : SearchOptions}

theorem everyResult_ofLiteral (h : Text.isBlankText query = false) (context : Nat)
    (files : List File) :
    everyResult (Matcher.ofLiteral query false false) context query files =
      files.flatMap (placeResultsIn query context) := by
  unfold everyResult
  rw [h, if_neg Bool.false_ne_true]
  apply List.flatMap_congr
  intro file _
  exact everyResultIn_ofLiteral (ne_nil_of_not_blank h) context file

theorem mem_placeResultsIn {context : Nat} {file : File} {r : SearchResult} :
    r ∈ placeResultsIn query context file ↔
      ∃ line index, (Text.lines file.content)[index]? = some line ∧
        ∃ p ∈ placesIn query.toList line.toList,
          placeResult query context file.name (Text.lines file.content) line index p = r := by
  simp only [placeResultsIn, List.mem_flatMap, Prod.exists, List.mem_map,
    List.mk_mem_zipIdx_iff_getElem?]

/-- **A search for a text finds exactly its places.** With `caseSensitive`, without `wholeWord` and
`asPattern`, `searchFiles` gives `placeResultsIn` of the files in order: all of them below
`maxResults`, and else the first. `placesIn` are the `LeftmostPlaces`, and what each result points
at is the query. -/
theorem literal_search_finds_places (files : List File)
    (hquery : Text.isBlankText query = false) (hcase : options.caseSensitive = true)
    (hword : options.wholeWord = false) (hliteral : options.asPattern = false) :
    let every := files.flatMap (placeResultsIn query options.contextLines.toNat)
    ∃ results, searchFiles files query options = .ok results ∧
      results = every.take options.maxResults.toNat ∧
      (results.length < options.maxResults → results = every) ∧
      (∀ line, LeftmostPlaces query.toList line (placesIn query.toList line)) ∧
      ∀ r ∈ results, ∃ file ∈ files, ∃ (line : String) (index : Nat),
        (Text.lines file.content)[index]? = some line ∧ r.path = file.name ∧
          r.line = index + 1 ∧ 1 ≤ r.column ∧
          (line.toList.drop (r.column - 1)).take query.toList.length = query.toList ∧
          r.found = query := by
  have hne := ne_nil_of_not_blank hquery
  -- In its own case and not as a pattern, the query is searched for as a literal.
  have hm : queryMatcher? query options = .ok (.ofLiteral query false false) := by
    rw [queryMatcher?, hliteral, hcase, hword]
    rfl
  have hsearch := searchFiles_eq_take files hm
  rw [everyResult_ofLiteral hquery] at hsearch
  refine ⟨_, hsearch, rfl, fun hroom => ?_, placesIn_leftmost hne, fun r hr => ?_⟩
  · rw [List.length_take] at hroom
    exact List.take_of_length_le (by omega)
  · -- A result comes from a place in a line of a file, and says where.
    obtain ⟨file, hfile, hin⟩ := List.mem_flatMap.1 (List.mem_of_mem_take hr)
    obtain ⟨line, index, hline, p, hp, rfl⟩ := mem_placeResultsIn.1 hin
    exact ⟨file, hfile, line, index, hline, rfl, rfl, Nat.le_add_left 1 p,
      (placesIn_leftmost hne _).stands p hp, rfl⟩

/-- In `baaaa` the text `aa` is found twice, the second time behind the first. -/
theorem literal_search_finds_places_apart :
    let files : List File := [⟨"f", "markdown", "c\nbaaaa\naa", false⟩]
    let options : SearchOptions := ⟨true, false, false, 5, 1⟩
    Text.isBlankText "aa" = false ∧ placesIn "aa".toList "baaaa".toList = [1, 3] ∧
      searchFiles files "aa" options = .ok
        [⟨"f", 2, 2, "baaaa", "aa", some "c", some "aa"⟩,
          ⟨"f", 2, 4, "baaaa", "aa", some "c", some "aa"⟩,
          ⟨"f", 3, 1, "aa", "aa", some "baaaa", none⟩] := by
  intro files options
  have hquery : Text.isBlankText "aa" = false := by decide
  have hcase : options.caseSensitive = true := rfl
  obtain ⟨results, hsearch, hfirst, -⟩ := literal_search_finds_places files hquery hcase rfl rfl
  refine ⟨hquery, by decide, hsearch.trans ?_⟩
  rw [hfirst]
  decide +kernel

end OverlayShell
