import OverlayShell.Console.Completion
import OverlayShell.Proofs.Resolving
import Mathlib.Data.List.DropRight
import Mathlib.Data.List.Infix
import Mathlib.Data.List.Nodup

/-!
# Suggested entries

What is suggested is what a folder holds, behind the text that was typed to lead to the folder. The
folder is found from that text alone, and the suggestion is resolved as a whole. The two come to the
same place, but for two kinds of suggestions that are read from the root: names with a tilde in
front that stand behind steps up alone or behind nothing, and names behind steps up and one slash
more.
-/

namespace OverlayShell

open Entry

/-! ## 1. The last separator -/

namespace Text

/-- The text up to its last separator, and that separator. -/
def throughLast (sep : Char) (text : String) : List Char := text.toList.rdropWhile (· ≠ sep)

def behindLast (sep : Char) (text : String) : String :=
  String.ofList (text.toList.rtakeWhile (· ≠ sep))

/-- `join` takes `pieces` back. -/
theorem join_pieces (sep : Char) (text : List Char) :
    join (String.singleton sep) ((pieces sep text).map String.ofList) = String.ofList text := by
  induction text with
  | nil => rfl
  | cons c cs ih =>
    obtain ⟨first, rest, hsplit⟩ := List.exists_cons_of_ne_nil (piecesBy_ne_nil (· == sep) cs)
    rw [pieces, hsplit] at ih
    rw [pieces, piecesBy]
    split
    · rename_i hc
      rw [hsplit, List.map_cons, List.map_cons, join_cons_cons, ← List.map_cons, ih, eq_of_beq hc,
        String.ofList_cons]
      rfl
    · rw [hsplit]
      show join _ (String.ofList (c :: first) :: _) = _
      rw [String.ofList_cons, String.ofList_cons, ← ih, join, foldl_join_append]
      rfl

theorem splitLast_of_not_mem {sep : Char} {text : List Char} (h : sep ∉ text) :
    splitLast sep (String.ofList text) = (none, String.ofList text) := by
  rw [splitLast, splitAt, String.toList_ofList, pieces_of_not_mem sep text h]
  rfl

theorem splitLast_append {sep : Char} {behind : List Char} (before : List Char)
    (h : sep ∉ behind) :
    splitLast sep (String.ofList (before ++ sep :: behind)) =
      (some (String.ofList before), String.ofList behind) := by
  have hpieces : (splitAt sep (String.ofList (before ++ sep :: behind))).reverse =
      String.ofList behind :: ((pieces sep before).map String.ofList).reverse := by
    rw [splitAt, String.toList_ofList, pieces_append, pieces_of_not_mem sep behind h,
      List.map_append, List.reverse_append]
    rfl
  rw [splitLast, hpieces]
  -- What stands before the separator has a piece at least, so it is not the only one.
  cases hbefore : ((pieces sep before).map String.ofList).reverse with
  | nil =>
    rw [List.reverse_eq_nil_iff, List.map_eq_nil_iff] at hbefore
    exact absurd hbefore (piecesBy_ne_nil _ before)
  | cons last others =>
    show (some (join (String.singleton sep) (last :: others).reverse), String.ofList behind) = _
    rw [← hbefore, List.reverse_reverse, join_pieces]

theorem throughLast_cases (sep : Char) (text : String) :
    throughLast sep text = [] ∨ ∃ head, throughLast sep text = head ++ [sep] := by
  by_cases hnil : throughLast sep text = []
  · exact .inl hnil
  · have hlast : ¬ decide ((throughLast sep text).getLast hnil ≠ sep) = true :=
      List.rdropWhile_last_not _ _ hnil
    rw [decide_eq_true_eq, not_not] at hlast
    have hsplit := List.dropLast_append_getLast hnil
    rw [hlast] at hsplit
    exact .inr ⟨_, hsplit.symm⟩

theorem throughLast_append_behindLast (sep : Char) (text : String) :
    text = String.ofList (throughLast sep text ++ (behindLast sep text).toList) := by
  rw [throughLast, behindLast, String.toList_ofList, List.rdropWhile_append_rtakeWhile,
    String.ofList_toList]

theorem not_mem_behindLast (sep : Char) (text : String) : sep ∉ (behindLast sep text).toList := by
  intro hmem
  rw [behindLast, String.toList_ofList] at hmem
  simpa using List.mem_rtakeWhile_imp hmem

theorem splitLast_eq (sep : Char) (text : String) :
    splitLast sep text =
      (if throughLast sep text = [] then none
        else some (String.ofList (throughLast sep text).dropLast), behindLast sep text) := by
  have hbehind := not_mem_behindLast sep text
  conv_lhs => rw [throughLast_append_behindLast sep text]
  rcases throughLast_cases sep text with hnil | ⟨head, hhead⟩
  · rw [hnil, List.nil_append, splitLast_of_not_mem hbehind, String.ofList_toList, if_pos rfl]
  · rw [hhead, List.append_assoc, List.singleton_append, splitLast_append head hbehind,
      String.ofList_toList, if_neg (by simp), List.dropLast_concat]

end Text

/-! ## 2. Texts that go on behind a slash -/

namespace Path

/-- A name as it is suggested, with a slash behind it for a folder. -/
def written (name : String) (isFolder : Bool) : List Char :=
  name.toList ++ if isFolder then ['/'] else []

variable {name : String} {isFolder : Bool} {lead : List Char}

theorem map_slashed_of_isSegment (h : IsSegment name) :
    name.toList.map slashed = name.toList := by
  rw [List.map_congr_left, List.map_id']
  intro c hc
  have hne : c ≠ '\\' := by
    rintro rfl
    exact h.2.2.2.2 hc
  exact if_neg hne

/-- `step` over the pieces of a `written` name goes down by one. -/
theorem foldl_step_written (h : IsSegment name) (segments : List String) :
    ((Text.pieces '/' ((written name isFolder).map slashed)).map String.ofList).foldl step
      segments = segments ++ [name] := by
  have hslash : '/' ∉ name.toList := h.2.2.2.1
  rw [written, List.map_append, map_slashed_of_isSegment h]
  cases isFolder with
  | false =>
    rw [if_neg (by decide), List.map_nil, List.append_nil, Text.pieces_of_not_mem '/' _ hslash]
    show step segments (String.ofList name.toList) = _
    rw [String.ofList_toList, step_of_isSegment segments h]
  | true =>
    have hpieces := Text.pieces_append_cons '/' name.toList [] hslash
    rw [if_pos rfl, show ['/'].map slashed = ['/'] from rfl, hpieces]
    -- Behind the slash there is an empty piece, which is no step.
    show step (step segments (String.ofList name.toList)) "" = _
    rw [String.ofList_toList, step_of_isSegment segments h]
    rfl

theorem withoutTilde_append_slash (before rest : List Char) :
    withoutTilde (before ++ '/' :: rest) = withoutTilde before ++ '/' :: rest := by
  cases before with
  | nil => rfl
  | cons c cs =>
    by_cases hc : c = '~'
    · subst hc
      rfl
    · rw [withoutTilde_of_head? (by simpa using hc), withoutTilde_of_head? (by simpa using hc)]

theorem along_nil (p : Path) : p.along [] = p := rfl

theorem along_append_slash (p : Path) (before rest : List Char) :
    p.along (before ++ '/' :: rest) = (p.along before).along rest := by
  rw [along, List.map_append, List.map_cons, show slashed '/' = '/' from rfl, Text.pieces_append,
    List.map_append, List.foldl_append]
  rfl

/-- `parse` of a text with a slash in it reads what is behind on from the path before. -/
theorem parse_append_slash (before rest : List Char) :
    parse (String.ofList (before ++ '/' :: rest)) =
      (parse (String.ofList before)).along rest := by
  have hraw : rawSegments (String.ofList (before ++ '/' :: rest)) =
      rawSegments (String.ofList before) ++
        (Text.pieces '/' (rest.map slashed)).map String.ofList := by
    rw [rawSegments, rawSegments, String.toList_ofList, String.toList_ofList, List.map_append,
      List.map_cons, show slashed '/' = '/' from rfl, withoutTilde_append_slash,
      Text.pieces_append, List.map_append]
  rw [parse, hraw, List.foldl_append]
  rfl

theorem along_written (p : Path) (h : IsSegment name) :
    p.along (written name isFolder) = p.child name :=
  congrArg Path.mk (foldl_step_written h p.segments)

theorem parse_append_written (before : List Char) :
    parse (String.ofList (before ++ written name isFolder)) =
      parse (String.ofList (before ++ name.toList)) := by
  cases isFolder with
  | false => rw [written, if_neg (by decide), List.append_nil]
  | true =>
    rw [written, if_pos rfl, ← List.append_assoc, parse_append_slash]
    rfl

/-! ## 3. Steps up before a name -/

theorem behindUps_eq_self {target : List Char} (h : ¬ ['.', '.', '/'] <+: target) :
    behindUps target = target :=
  behindUps_of_not_up fun rest hrest => h ⟨rest, hrest.symm⟩

/-- `behindUps` leaves a `written` name, which is no step up. -/
theorem behindUps_written (h : IsSegment name) :
    behindUps (written name isFolder) = written name isFolder := by
  obtain ⟨hempty, hdot, hdots, hslash, -⟩ := h
  refine behindUps_eq_self fun hup => ?_
  rcases List.prefix_or_prefix_of_prefix hup (List.prefix_append name.toList _) with hup | hname
  · exact hslash (hup.subset (by simp))
  · have hname : name.toList ∈ ["", ".", "..", "../"].map String.toList :=
      (List.mem_inits _ _).2 hname
    simp only [List.map_cons, List.map_nil, List.mem_cons, String.toList_inj] at hname
    rcases hname with rfl | rfl | rfl | rfl | hname
    · exact hempty rfl
    · exact hdot rfl
    · exact hdots rfl
    · exact hslash (by decide)
    · cases hname

theorem fromRoot_written (h : IsSegment name) :
    FromRoot (written name isFolder) ↔ ¬ IsPlain name := by
  have hslash : '/' ∉ name.toList := h.2.2.2.1
  have hne : name.toList ≠ [] := fun hname => h.1 (String.toList_inj.1 hname)
  rw [FromRoot, IsPlain, not_not, written, List.head?_append_of_ne_nil _ hne]
  exact ⟨fun hroot => hroot.resolve_left fun hhead => hslash (List.mem_of_mem_head? hhead), .inr⟩

/-- `lead` is a text that names may stand behind: empty, or with a slash at its end. -/
def LeadsOn (lead : List Char) : Prop := lead = [] ∨ ∃ head, lead = head ++ ['/']

theorem LeadsOn.behindUp {rest : List Char} (h : LeadsOn ('.' :: '.' :: '/' :: rest)) :
    LeadsOn rest := by
  obtain h | ⟨head, hhead⟩ := h
  · cases h
  match head with
  | [] | [_] => simp at hhead
  | [_, _] =>
    simp only [List.cons_append, List.cons.injEq] at hhead
    exact .inl (List.cons.inj hhead.2.2).2
  | _ :: _ :: _ :: init =>
    simp only [List.cons_append, List.cons.injEq] at hhead
    exact .inr ⟨init, hhead.2.2.2⟩

theorem LeadsOn.behindUps (h : LeadsOn lead) : LeadsOn (behindUps lead) := by
  fun_induction Path.behindUps lead with
  | case1 rest ih => exact ih h.behindUp
  | case2 => exact h

/-- `behindUps` of a text that `LeadsOn` grows at its end with the name. -/
theorem behindUps_append (hlead : LeadsOn lead) (h : IsSegment name) :
    behindUps (lead ++ written name isFolder) = behindUps lead ++ written name isFolder := by
  fun_induction behindUps lead with
  | case1 rest ih => exact ih hlead.behindUp
  | case2 target hups =>
    rcases hlead with rfl | ⟨head, rfl⟩
    · exact behindUps_written h
    · refine behindUps_eq_self fun hup => ?_
      rcases List.prefix_or_prefix_of_prefix hup (List.prefix_append (head ++ ['/']) _) with
        ⟨rest, hrest⟩ | hshort
      · exact hups rest hrest.symm
      -- A part of the step up that ends with a slash is the whole step.
      · rw [show ['.', '.', '/'] = ['.', '.'] ++ ['/'] from rfl, List.prefix_concat_iff] at hshort
        rcases hshort with hwhole | hshort
        · exact hups [] hwhole
        · exact absurd (hshort.subset (by simp : '/' ∈ head ++ ['/'])) (by decide)

theorem behindUps_append_slash (head : List Char) :
    behindUps (head ++ ['/']) =
      if behindUps head = ['.', '.'] then [] else behindUps head ++ ['/'] := by
  fun_induction behindUps head with
  | case1 rest ih => rw [← ih]; rfl
  | case2 target hups =>
    split
    · rename_i htwo
      rw [htwo]
      rfl
    · rename_i htwo
      refine behindUps_eq_self fun hup => ?_
      rcases List.prefix_concat_iff.1 hup with hup | ⟨rest, hrest⟩
      · exact htwo (List.append_cancel_right hup).symm
      · exact hups rest hrest.symm

/-! ## 4. Resolving what is suggested -/

variable {cwd : Path}

theorem fromRoot_append {text : List Char} (h : text ≠ []) (rest : List Char) :
    FromRoot (text ++ rest) ↔ FromRoot text := by
  rw [FromRoot, FromRoot, List.head?_append_of_ne_nil _ h]

theorem parse_lead_written (hlead : LeadsOn lead) (hne : lead ≠ []) (h : IsSegment name) :
    parse (String.ofList (lead ++ written name isFolder)) =
      (parse (String.ofList lead)).child name := by
  obtain hnil | ⟨head, rfl⟩ := hlead
  · exact absurd hnil hne
  · rw [List.append_assoc, List.singleton_append, parse_append_slash, along_written _ h,
      parse_append_slash]
    rfl

theorem along_lead_written (hlead : LeadsOn lead) (h : IsSegment name) :
    cwd.along (lead ++ written name isFolder) = (cwd.along lead).child name := by
  obtain rfl | ⟨head, rfl⟩ := hlead
  · exact along_written cwd h
  · rw [List.append_assoc, List.singleton_append, along_append_slash, along_written _ h,
      along_append_slash]
    rfl

/-- **A name leads down from the place that the text before it leads to**, unless nothing is left of
that text `behindUps` and the name starts with a tilde. -/
theorem resolve_written (hcwd : cwd.Normal) (hlead : LeadsOn lead) (h : IsSegment name) :
    cwd.resolve (String.ofList (lead ++ written name isFolder)) =
      if behindUps lead = [] ∧ ¬ IsPlain name then parse name
      else (cwd.resolve (String.ofList lead)).child name := by
  rw [resolve, resolve, String.toList_ofList, String.toList_ofList, follow_eq hcwd, follow_eq hcwd,
    behindUps_append hlead h, along_lead_written hlead h]
  by_cases hleft : behindUps lead = []
  · have hname : parse (String.ofList (written name isFolder)) = parse name := by
      rw [← List.nil_append (written _ _), parse_append_written, List.nil_append,
        String.ofList_toList]
    rw [hleft, List.nil_append, hname, if_neg (by decide : ¬ FromRoot [])]
    simp only [fromRoot_written h, true_and]
  · rw [parse_lead_written hlead.behindUps hleft h]
    simp only [fromRoot_append hleft, hleft, false_and, if_false]
    split <;> rfl

/-- The folder that `suggestEntries` looks in for what stands behind `lead`. -/
def lookedIn (cwd : Path) (lead : List Char) : Path :=
  if lead = [] then cwd
  else if lead = ['/'] then .root
  else cwd.resolve (String.ofList lead.dropLast)

/-- **The folder is the place that the text leads to**: `lookedIn` agrees with `resolve`, unless
`lead` is steps up with one slash more behind them. -/
theorem lookedIn_eq_resolve (hcwd : cwd.Normal) (hlead : LeadsOn lead)
    (h : behindUps lead = ['/'] → lead = ['/']) :
    lookedIn cwd lead = cwd.resolve (String.ofList lead) := by
  rw [resolve, String.toList_ofList, follow_eq hcwd]
  obtain rfl | ⟨head, rfl⟩ := hlead
  · rfl
  by_cases hne : head = []
  · subst hne
    rfl
  have hslash : head ++ ['/'] ≠ ['/'] := by simpa using hne
  rw [lookedIn, if_neg (by simp), if_neg hslash, List.dropLast_concat, resolve,
    String.toList_ofList, follow_eq hcwd, behindUps_append_slash, along_append_slash, along_nil]
  by_cases htwo : behindUps head = ['.', '.']
  · rw [if_pos htwo, htwo]
    rfl
  · rw [behindUps_append_slash, if_neg htwo] at h
    have hleft : behindUps head ≠ [] := fun hleft => hslash (h (by rw [hleft]; rfl))
    rw [if_neg htwo, parse_append_slash, along_nil]
    simp only [fromRoot_append hleft]

/-- Behind `lead`, the name is read from the root in place of the folder: nothing is left of `lead`
behind its steps up and the name starts with a tilde, or there are steps up with one slash more
behind them. -/
def Misread (lead : List Char) (name : String) : Prop :=
  behindUps lead = [] ∧ ¬ IsPlain name ∨ behindUps lead = ['/'] ∧ lead ≠ ['/']

instance (lead : List Char) (name : String) : Decidable (Misread lead name) :=
  inferInstanceAs (Decidable (_ ∨ _))

/-- **What is suggested leads to the entry in the folder**, unless it is `Misread`. -/
theorem resolve_suggested (hcwd : cwd.Normal) (hlead : LeadsOn lead) (h : IsSegment name) :
    cwd.resolve (String.ofList (lead ++ written name isFolder)) =
      if Misread lead name then parse (String.ofList (behindUps lead ++ name.toList))
      else (lookedIn cwd lead).child name := by
  rw [resolve_written hcwd hlead h]
  by_cases htilde : behindUps lead = [] ∧ ¬ IsPlain name
  · rw [if_pos htilde, if_pos (.inl htilde), htilde.1, List.nil_append, String.ofList_toList]
  rw [if_neg htilde]
  by_cases hslash : behindUps lead = ['/'] ∧ lead ≠ ['/']
  -- Steps up and a slash lead to the root, and the name is read behind that slash.
  · have hroot : cwd.resolve (String.ofList lead) = .root := by
      rw [resolve, String.toList_ofList, follow_eq hcwd, hslash.1]
      rfl
    have hname : parse (String.ofList (['/'] ++ written name false)) = root.child name :=
      parse_lead_written (.inr ⟨[], rfl⟩) (by simp) h
    rw [if_pos (.inr hslash), hroot, hslash.1, ← parse_append_written, hname]
  · have hread : ¬ Misread lead name := not_or.2 ⟨htilde, hslash⟩
    rw [if_neg hread, lookedIn_eq_resolve hcwd hlead fun hleft =>
      not_not.1 fun hne => hslash ⟨hleft, hne⟩]

end Path

/-! ## 5. Entries in a folder -/

namespace Entry

theorem find?_name_of_mem {entries : List Entry} {entry : Entry}
    (h : (entries.map Entry.name).Nodup) (hmem : entry ∈ entries) :
    entries.find? (·.name = entry.name) = some entry := by
  cases hfind : entries.find? (·.name = entry.name) with
  | none => exact absurd (List.find?_eq_none.1 hfind entry hmem) (by simp)
  | some found =>
    have hname : found.name = entry.name := by simpa using List.find?_some hfind
    rw [List.inj_on_of_nodup_map h (List.mem_of_find?_eq_some hfind) hmem hname]

theorem Tidy.children {entries : List Entry} {entry : Entry} (h : Tidy entries)
    (hmem : entry ∈ entries) : Tidy entry.children := by
  cases entry with
  | file f => exact ⟨by simp [Entry.children], trivial⟩
  | folder name children isOpen => exact h.inside hmem

/-- What is in a folder that `find?` gives is found one segment further down. -/
theorem Tidy.find?_concat {entries : List Entry} {way : List String} {folder entry : Entry}
    (h : Tidy entries) (hfind : find? way entries = some folder) (hmem : entry ∈ folder.children) :
    find? (way ++ [entry.name]) entries = some entry := by
  induction way generalizing entries with
  | nil => cases entries <;> cases hfind
  | cons s way ih =>
    cases way with
    | nil =>
      have hfolder : entries.find? (·.name = s) = some folder := hfind
      have hinside := h.children (List.mem_of_find?_eq_some hfolder)
      show find? [s, entry.name] entries = some entry
      rw [find?_cons_cons, hfolder]
      exact find?_name_of_mem hinside.1.1 hmem
    | cons t way =>
      rw [find?_cons_cons] at hfind
      obtain ⟨first, hfirst, hfind⟩ := Option.bind_eq_some_iff.1 hfind
      show find? (s :: t :: (way ++ [entry.name])) entries = some entry
      rw [find?_cons_cons, hfirst]
      exact ih (h.children (List.mem_of_find?_eq_some hfirst)) hfind

end Entry

/-- `lookup` of an entry of `childrenAt`, one segment further down. -/
theorem lookup_child {tree : List Entry} {p : Path} {entry : Entry} (h : Tidy tree)
    (hmem : entry ∈ childrenAt tree p) :
    lookup tree (p.child entry.name) = some entry ∧ Path.IsSegment entry.name := by
  have hdown : lookup tree (p.child entry.name) = find? (p.segments ++ [entry.name]) tree :=
    lookup_eq_find? (by simp [Path.child])
  rw [hdown]
  unfold childrenAt at hmem
  by_cases hroot : p.segments = []
  · have hmem : entry ∈ tree := by simpa [lookup, Path.isRoot, hroot, Entry.children] using hmem
    rw [hroot]
    exact ⟨find?_name_of_mem h.1.1 hmem, h.1.2 _ (List.mem_map_of_mem hmem)⟩
  · rw [lookup_eq_find? hroot] at hmem
    cases hfind : find? p.segments tree with
    | none => simp [hfind] at hmem
    | some folder =>
      rw [hfind] at hmem
      have hentry := h.find?_concat hfind hmem
      exact ⟨hentry, h.normal_of_find? hentry _ (by simp)⟩

/-! ## 6. What is suggested -/

/-- `text` leads to an entry, which is a folder iff `text` ends with a slash. -/
def NamesEntry (tree : List Entry) (cwd : Path) (text : String) : Prop :=
  ∃ entry, lookup tree (cwd.resolve text) = some entry ∧
    (entry.isFolder = true ↔ text.toList.getLast? = some '/')

theorem suggestEntries_eq (typed : String) (tree : List Entry) (cwd : Path) :
    suggestEntries typed tree cwd =
      ((childrenAt tree (Path.lookedIn cwd (Text.throughLast '/' typed))).filter
        (beginsAs (Text.behindLast '/' typed) ·.name) |>.take 8).map fun entry =>
          String.ofList (Text.throughLast '/' typed ++ Path.written entry.name entry.isFolder) := by
  have hwritten (lead : List Char) (entry : Entry) :
      String.ofList lead ++ entry.name ++ (if entry.isFolder = true then "/" else "") =
        String.ofList (lead ++ Path.written entry.name entry.isFolder) := by
    rw [Path.written, String.ofList_append, String.ofList_append, String.ofList_toList,
      String.append_assoc]
    split <;> rfl
  unfold suggestEntries
  rw [Text.splitLast_eq]
  simp only [List.map_take]
  -- The three folders that are looked in: that of the session, the root, and the one that the text
  -- before the slash names.
  rcases Text.throughLast_cases '/' typed with hnil | ⟨head, hhead⟩
  · rw [hnil]
    simp only [← hwritten]
    rfl
  · rw [hhead, if_neg (by simp), List.dropLast_concat]
    simp only [← hwritten]
    by_cases hnil : head = []
    · subst hnil
      rfl
    · have hslash : head ++ ['/'] ≠ ['/'] := by simpa using hnil
      rw [Path.lookedIn, if_neg (by simp), if_neg hslash, List.dropLast_concat]
      split
      · rename_i heq
        cases heq
      · rename_i heq
        have hempty := congrArg String.toList (Option.some.inj heq)
        rw [String.toList_ofList] at hempty
        exact absurd hempty hnil
      · rename_i heq
        rw [← Option.some.inj heq, String.ofList_append]
        rfl

theorem getLast?_written {name : String} {isFolder : Bool} (h : Path.IsSegment name)
    (lead : List Char) :
    (lead ++ Path.written name isFolder).getLast? = some '/' ↔ isFolder = true := by
  cases isFolder with
  | true => simp [Path.written]
  | false =>
    have hne : name.toList ≠ [] := fun hname => h.1 (String.toList_inj.1 hname)
    rw [Path.written, if_neg (by decide), List.append_nil, List.getLast?_append_of_ne_nil _ hne]
    refine ⟨fun hlast => absurd (List.mem_of_getLast? hlast) h.2.2.2.1, fun hfolder => ?_⟩
    cases hfolder

theorem namesEntry_iff {tree : List Entry} {cwd : Path} {lead : List Char} {entry : Entry}
    (htree : Tidy tree) (hcwd : cwd.Normal) (hlead : Path.LeadsOn lead)
    (hmem : entry ∈ childrenAt tree (Path.lookedIn cwd lead)) :
    NamesEntry tree cwd (String.ofList (lead ++ Path.written entry.name entry.isFolder)) ↔
      (Path.Misread lead entry.name → ∃ found,
        lookup tree (Path.parse (String.ofList (Path.behindUps lead ++ entry.name.toList))) =
          some found ∧ found.isFolder = entry.isFolder) := by
  obtain ⟨hlookup, hname⟩ := lookup_child htree hmem
  simp only [NamesEntry, String.toList_ofList, getLast?_written hname, ← Bool.eq_iff_iff]
  rw [Path.resolve_suggested hcwd hlead hname]
  by_cases hread : Path.Misread lead entry.name
  · rw [if_pos hread]
    exact ⟨fun h _ => h, fun h => h hread⟩
  · rw [if_neg hread]
    exact ⟨fun _ h => absurd h hread, fun _ => ⟨entry, hlookup, rfl⟩⟩

/-- **What is suggested.** `suggestEntries` gives the first eight entries of `lookedIn`, in its
order, whose names begin in any case with the text behind the last slash, each behind the text up to
there. Every one of them `NamesEntry` iff for each name that is `Misread` an entry of the same kind
stands where it is read. -/
theorem suggestions_name_entries_iff {tree : List Entry} {cwd : Path} (htree : Tidy tree)
    (hcwd : cwd.Normal) (typed : String) :
    let lead := Text.throughLast '/' typed
    let begun := (childrenAt tree (Path.lookedIn cwd lead)).filter fun entry =>
      Text.startsWith (Text.lower (Text.behindLast '/' typed)) (Text.lower entry.name)
    suggestEntries typed tree cwd = (begun.take 8).map (fun entry =>
      String.ofList (lead ++ Path.written entry.name entry.isFolder)) ∧
    ((∀ text ∈ suggestEntries typed tree cwd, NamesEntry tree cwd text) ↔
      ∀ entry ∈ begun.take 8, Path.Misread lead entry.name → ∃ found,
        lookup tree (Path.parse (String.ofList (Path.behindUps lead ++ entry.name.toList))) =
          some found ∧ found.isFolder = entry.isFolder) := by
  intro lead begun
  have hsuggested : suggestEntries typed tree cwd = (begun.take 8).map fun entry =>
      String.ofList (lead ++ Path.written entry.name entry.isFolder) :=
    suggestEntries_eq typed tree cwd
  have hlead : Path.LeadsOn lead := Text.throughLast_cases '/' typed
  refine ⟨hsuggested, ?_⟩
  rw [hsuggested, List.forall_mem_map]
  refine forall₂_congr fun entry hentry => namesEntry_iff htree hcwd hlead ?_
  exact List.mem_of_mem_filter (List.mem_of_mem_take hentry)

/-- In a folder that the text leads to by its name, a tilde in front of a name does no harm. -/
theorem suggestions_name_entries_iff_inside :
    let tree : List Entry :=
      [.folder "a" [.file ⟨"b", "markdown", "", false⟩, .folder "~c" [] false] false]
    Tidy tree ∧ Path.Normal .root ∧ suggestEntries "a/" tree .root = ["a/b", "a/~c/"] ∧
      ∀ text ∈ suggestEntries "a/" tree .root, NamesEntry tree .root text := by
  intro tree
  have htree : Tidy tree := by decide
  have hroot : Path.Normal .root := by decide
  obtain ⟨hsuggested, hnames⟩ := suggestions_name_entries_iff htree hroot "a/"
  refine ⟨htree, hroot, hsuggested.trans (by rfl), hnames.2 fun entry _ hread => ?_⟩
  rcases hread with ⟨hleft, -⟩ | ⟨hleft, -⟩
  · exact absurd hleft (by decide)
  · exact absurd hleft (by decide)

/-- Behind `..//` a file is suggested that stands in `a`, and is then looked for at the top. -/
theorem slash_behind_up_misleads :
    let tree : List Entry :=
      [.folder "a" [.folder "b" [] false, .file ⟨"x", "markdown", "", false⟩] false]
    Tidy tree ∧ Path.Normal ⟨["a", "b"]⟩ ∧ "..//x" ∈ suggestEntries "..//" tree ⟨["a", "b"]⟩ ∧
      ¬ NamesEntry tree ⟨["a", "b"]⟩ "..//x" := by
  intro tree
  have hnothing : lookup tree (Path.resolve ⟨["a", "b"]⟩ "..//x") = none := by rfl
  refine ⟨by decide, by decide, by decide +kernel, ?_⟩
  rintro ⟨entry, hentry, -⟩
  rw [hnothing] at hentry
  cases hentry

end OverlayShell
