import Mathlib.Algebra.Group.Nat.Defs
import Mathlib.Data.List.Forall2
import OverlayShell.Proofs.Spacing
import OverlayShell.Proofs.WorkspaceRun
import OverlayShell.Session.Navigation

/-!
# Drawn trees

A tree is drawn by a recursion of its own, which carries the lead of the lines and stops at some
level. It draws what the walk lists down to that level: one line for each entry, in the order of the
walk. The figures in the last line come from the walk of the whole tree.
-/

namespace OverlayShell

/-! ## 1. Numbers in arguments -/

namespace Text

open Arithmetic

variable {c : Char} {digits : List Char}

theorem digit?_of_isAsciiDigit (h : isAsciiDigit c = true) : digit? c = some (c.toNat - 0x30) := by
  obtain ⟨hlow, hhigh⟩ := toNat_of_isAsciiDigit h
  rw [digit?, digitRanges, digitIn, if_neg (Nat.not_lt.2 hlow), if_pos hhigh,
    Nat.mod_eq_of_lt (by omega)]

theorem groupedDigits?_of_isAsciiDigit (h : ∀ c ∈ digits, isAsciiDigit c = true)
    (hne : digits ≠ []) :
    groupedDigits? digits = some (digits.map fun c => c.toNat - 0x30) := by
  fun_induction groupedDigits? digits with
  | case1 => exact absurd rfl hne
  | case2 c =>
    rw [digit?_of_isAsciiDigit (h c (by simp))]
    rfl
  -- An underscore is no digit.
  | case3 c rest => exact absurd (h '_' (by simp)) (by decide)
  | case4 c rest hone hunderscore ih =>
    rw [digit?_of_isAsciiDigit (h c (by simp)), ih (fun d hd => h d (by simp [hd])) hone]
    rfl

theorem isIntegerMargin_of_isAsciiDigit (text : List Char) (h : isAsciiDigit c = true) :
    isIntegerMargin text c = false := by
  obtain ⟨hlow, hhigh⟩ := toNat_of_isAsciiDigit h
  have hspace : c ≠ ' ' := by
    rintro rfl
    exact absurd hlow (by decide)
  unfold isIntegerMargin
  split
  · simp only [Bool.or_eq_false_iff, beq_eq_false_iff_ne, Bool.and_eq_false_iff,
      decide_eq_false_iff_not]
    exact ⟨hspace, .inr (by omega)⟩
  · exact isBlank_of_isAsciiDigit h

/-- The decimal text of `n` is read as `n`, unless it is too long. -/
theorem integer?_natText (n : Nat) :
    integer? (natText n) =
      if (natText n).length ≤ integerDigitLimit then some (n : Int) else none := by
  obtain ⟨hascii, hnumber, hne, -⟩ := digitsOf_natText n
  have hmargin : ∀ c ∈ (natText n).toList, isIntegerMargin (natText n).toList c = false :=
    fun c hc => isIntegerMargin_of_isAsciiDigit _ (hascii c hc)
  have htrim : trimBy (isIntegerMargin (natText n).toList) (natText n).toList =
      (natText n).toList :=
    trimBy_eq_self (fun c hc => hmargin c (List.mem_of_mem_head? hc))
      fun c hc => hmargin c (List.mem_of_mem_getLast? hc)
  have hdigits := groupedDigits?_of_isAsciiDigit hascii hne
  rw [integer?, htrim]
  split
  -- A sign is no digit.
  · rename_i heq
    exact absurd (hascii '-' (by simp [heq])) (by decide)
  · rename_i heq
    exact absurd (hascii '+' (by simp [heq])) (by decide)
  · rw [digitsNumber] at hnumber
    simp only [hdigits, Option.bind_eq_bind, Option.bind_some, List.length_map, hnumber,
      Option.pure_def]
    rfl

theorem foldl_digits_lt {values : List Nat} (h : ∀ d ∈ values, d < 10) (before : Nat) :
    values.foldl (fun n d => 10 * n + d) before < (before + 1) * 10 ^ values.length := by
  induction values generalizing before with
  | nil => simp
  | cons d rest ih =>
    have hd : d < 10 := h d (by simp)
    calc (d :: rest).foldl (fun n d => 10 * n + d) before
        < (10 * before + d + 1) * 10 ^ rest.length := ih (fun e he => h e (by simp [he])) _
      _ ≤ ((before + 1) * 10) * 10 ^ rest.length := Nat.mul_le_mul_right _ (by omega)
      _ = (before + 1) * 10 ^ (d :: rest).length := by
          rw [List.length_cons, Nat.pow_succ, Nat.mul_assoc, Nat.mul_comm 10]

/-- A number that reaches `10 ^ k` has more digits than that has zeros. -/
theorem lt_length_natText {n k : Nat} (h : 10 ^ k ≤ n) : k < (natText n).length := by
  obtain ⟨hascii, hnumber, -, -⟩ := digitsOf_natText n
  have hvalues : ∀ d ∈ (natText n).toList.map (fun c => c.toNat - 0x30), d < 10 := by
    intro d hd
    obtain ⟨c, hc, rfl⟩ := List.mem_map.1 hd
    have := toNat_of_isAsciiDigit (hascii c hc)
    omega
  have hbound := foldl_digits_lt hvalues 0
  rw [List.length_map, Nat.zero_add, Nat.one_mul] at hbound
  rw [digitsNumber, ofDigits] at hnumber
  rw [hnumber] at hbound
  exact (Nat.pow_lt_pow_iff_right (by decide)).1 (Nat.lt_of_le_of_lt h hbound)

end Text

namespace Session

open Text Entry

variable {base : Path} {entries children : List Entry} {entry : Entry} {lead : String}
  {depth deepest : Nat}

/-! ## 2. Lines and entries -/

/-- `line` draws an entry at its place in the walk: `displayName` stands behind four columns for
each segment of the path, and a folder is drawn as a success. -/
structure Draws (listed : Path × Entry) (line : Line) : Prop where
  kind : line.kind = if listed.2.isFolder then .success else .output
  text : ∃ lead : String, lead.length = 4 * listed.1.depth ∧
    line.text = lead ++ displayName listed.2

def downTo (depth : Nat) (listed : List (Path × Entry)) : List (Path × Entry) :=
  listed.filter fun place => place.1.depth ≤ depth

theorem downTo_append (listed others : List (Path × Entry)) :
    downTo depth (listed ++ others) = downTo depth listed ++ downTo depth others :=
  List.filter_append ..

theorem downTo_cons {place : Path × Entry} (h : place.1.depth ≤ depth)
    (listed : List (Path × Entry)) :
    downTo depth (place :: listed) = place :: downTo depth listed :=
  List.filter_cons_of_pos (by simpa using h)

theorem depth_child (base : Path) (segment : String) :
    (base.child segment).depth = base.depth + 1 := List.length_append ..

theorem downTo_inside (h : deepest ≤ base.depth) : downTo deepest (walkAll base entries) = [] := by
  rw [downTo, List.filter_eq_nil_iff]
  rintro ⟨p, entry⟩ hmem
  obtain ⟨s, way, hway⟩ := exists_way_of_mem_walkAll hmem
  have hlength : p.depth = base.depth + (way.length + 1) := by
    rw [Path.depth, hway, List.length_append, List.length_cons, Path.depth]
  simp only [decide_eq_true_eq]
  omega

/-! ## 3. Drawing is walking -/

theorem draws_line (hlead : lead.length = 4 * base.depth) (isLast : Bool) (entry : Entry) :
    Draws (base.child entry.name, entry) ⟨if entry.isFolder then .success else .output,
      lead ++ (if isLast then "└── " else "├── ") ++ displayName entry⟩ := by
  refine ⟨rfl, _, ?_, rfl⟩
  rw [String.length_append, hlead, depth_child]
  cases isLast <;> simp [String.length] <;> omega

/-- **The drawing follows the walk.** From a folder on, the entries down to the level `deepest` are
drawn by one line each, in the order of the walk. -/
theorem draws_walkAll (hlead : lead.length = 4 * base.depth) (hlevel : base.depth < deepest) :
    List.Forall₂ Draws (downTo deepest (walkAll base entries))
      (drawAll lead (base.depth + 1 : Nat) deepest entries) := by
  -- By induction over the forest. The lead grows by four columns for each folder that is entered.
  induction entries using forest_induction generalizing base lead with
  | nil => exact .nil
  | file f rest ih =>
    rw [walkAll, walk, drawAll, drawEntry, List.singleton_append, List.singleton_append,
      downTo_cons (by rw [depth_child]; omega)]
    exact .cons (draws_line hlead rest.isEmpty (.file f)) (ih hlead hlevel)
  | folder name children isOpen rest ihc ihr =>
    have hchild := depth_child base name
    rw [walkAll, walk, drawAll, drawEntry, List.cons_append, List.cons_append,
      downTo_cons (by rw [hchild]; omega), downTo_append]
    refine .cons (draws_line hlead rest.isEmpty (.folder name children isOpen)) ?_
    refine List.rel_append ?_ (ihr hlead hlevel)
    split
    · rename_i hless
      have hinside : (lead ++ if rest.isEmpty then "    " else "│   ").length =
          4 * (base.child name).depth := by
        rw [String.length_append, hlead, hchild]
        cases rest.isEmpty <;> simp [String.length] <;> omega
      have hdeeper : (base.child name).depth < deepest := by
        rw [hchild]
        exact_mod_cast hless
      have hdrawn := ihc hinside hdeeper
      rwa [hchild] at hdrawn
    -- On the deepest level folders are drawn without what is in them.
    · rename_i hless
      have hbottom : deepest ≤ (base.child name).depth := by
        rw [hchild]
        omega
      rw [downTo_inside hbottom]
      exact .nil

/-! ## 4. The command -/

/-- The level down to which a tree is drawn when `depth` is asked for in decimal: a text that is too
long is read as no number, and three levels are drawn without one. -/
def askedDepth (depth : Nat) : Nat :=
  if (natText depth).length ≤ integerDigitLimit then depth else 3

theorem askedDepth_pos (h : 0 < depth) : 0 < askedDepth depth := by
  unfold askedDepth
  split <;> omega

theorem ne_of_not_isOption {arg : String} (h : isOption arg = false) : arg ≠ "--depth" := by
  rintro rfl
  exact absurd h (by decide)

theorem numberBehind_natText {arg : String} (harg : isOption arg = false) (hdepth : 0 < depth) :
    numberBehind "--depth" 3 [arg, "--depth", natText depth] = askedDepth depth := by
  have hplace : [arg, "--depth", natText depth].idxOf? "--depth" = some 1 := by
    simp [List.idxOf?_cons, ne_of_not_isOption harg]
  have hvalue : [arg, "--depth", natText depth][1 + 1]? = some (natText depth) := rfl
  simp only [numberBehind, hplace, hvalue, Option.bind_some, integer?_natText, askedDepth]
  by_cases hread : (natText depth).length ≤ integerDigitLimit
  · rw [if_pos hread, if_pos hread]
    exact if_neg (by omega)
  · rw [if_neg hread, if_neg hread]
    rfl

theorem argumentBeside_first {arg value : String} (h : isOption arg = false) :
    argumentBeside "--depth" [arg, "--depth", value] = some arg := by
  have hplace : [arg, "--depth", value].idxOf? "--depth" = some 1 := by
    simp [List.idxOf?_cons, ne_of_not_isOption h]
  simp [argumentBeside, hplace, h]

theorem treeSummary_eq (entries : List Entry) :
    treeSummary entries = .success
      (natText ((walkAll .root entries).countP fun listed => listed.2.isFolder) ++
        " directories, " ++
        natText ((walkAll .root entries).countP fun listed => !listed.2.isFolder) ++ " files") := by
  have hall : (allEntries entries).map Prod.snd = (walkAll .root entries).map Prod.snd := by
    rw [allEntries, List.map_map]
    rfl
  have hfiles : (walkAll .root entries).length -
      (walkAll .root entries).countP (fun listed => listed.2.isFolder) =
      (walkAll .root entries).countP fun listed => !listed.2.isFolder := by
    have hsum := List.length_eq_countP_add_countP (fun listed : Path × Entry => listed.2.isFolder)
      (l := walkAll .root entries)
    simp only [Bool.not_eq_true, Bool.decide_eq_false] at hsum
    omega
  simp only [treeSummary, hall, List.countP_map, List.length_map]
  rw [← hfiles]
  rfl

theorem drawTree_of_folder {s : Session} {arg name : String} {isOpen : Bool}
    (harg : isOption arg = false)
    (hfolder : lookup s.workspace.tree (s.target (some arg)) = some (.folder name children isOpen))
    (hdepth : 0 < depth) : s.drawTree [arg, "--depth", natText depth] =
      (s, .ok (.output (s.target (some arg)).absolute ::
        drawAll "" 1 (askedDepth depth) children ++ [.blank, treeSummary children])) := by
  simp only [drawTree, numberBehind_natText harg hdepth, argumentBeside_first harg, hfolder, shows]

/-- **The drawing shows what the walk lists.** Between a header and two closing lines `drawTree` has
one line for each entry that `walkAll` lists below a directory down to `askedDepth depth`, in the
order of the walk and with `displayName` at its end. The last line counts the folders and the files
of the whole walk at any depth. -/
theorem tree_draws_walk {s : Session} {arg name : String} {isOpen : Bool}
    (harg : isOption arg = false)
    (hfolder : lookup s.workspace.tree (s.target (some arg)) = some (.folder name children isOpen))
    (hdepth : 1 ≤ depth) :
    ∃ drawn, s.drawTree [arg, "--depth", natText depth] =
        (s, .ok (.output (s.target (some arg)).absolute :: drawn ++ [.blank, .success
          (natText ((walkAll .root children).countP fun listed => listed.2.isFolder) ++
            " directories, " ++
            natText ((walkAll .root children).countP fun listed => !listed.2.isFolder) ++
            " files")])) ∧
      List.Forall₂ Draws
        ((walkAll .root children).filter fun listed => listed.1.depth ≤ askedDepth depth)
        drawn := by
  refine ⟨drawAll "" 1 (askedDepth depth) children, ?_, ?_⟩
  · rw [drawTree_of_folder harg hfolder hdepth, treeSummary_eq]
  · exact draws_walkAll (show "".length = 4 * Path.root.depth from rfl) (askedDepth_pos hdepth)

/-- Two levels of `x` are drawn, and the file below them is counted. -/
theorem tree_draws_walk_cut :
    let f (name : String) : Entry := .file ⟨name, "markdown", "", false⟩
    let children : List Entry := [.folder "a" [.folder "b" [f "c"] false] false, f "d"]
    let s := standard [.folder "x" children false] 0
    isOption "x" = false ∧
      lookup s.workspace.tree (s.target (some "x")) = some (.folder "x" children false) ∧
      ∃ drawn, s.drawTree ["x", "--depth", natText 2] = (s, .ok (.output "/x" :: drawn ++
          [.blank, .success "2 directories, 2 files"])) ∧
        List.Forall₂ Draws [(⟨["a"]⟩, .folder "a" [.folder "b" [f "c"] false] false),
          (⟨["a", "b"]⟩, .folder "b" [f "c"] false), (⟨["d"]⟩, f "d")] drawn := by
  intro f children s
  have htree : s.workspace.tree = [.folder "x" children false] := Workspace.tree_start ..
  have hpath : s.target (some "x") = ⟨["x"]⟩ := by decide +kernel
  have hfolder : lookup s.workspace.tree (s.target (some "x")) =
      some (.folder "x" children false) := by
    rw [htree, hpath]
    rfl
  have harg : isOption "x" = false := by decide
  obtain ⟨drawn, hprinted, hdraws⟩ := tree_draws_walk harg hfolder (by decide : 1 ≤ 2)
  have hlevels : askedDepth 2 = 2 := by decide +kernel
  have hheader : (⟨["x"]⟩ : Path).absolute = "/x" := by decide +kernel
  have hfolders : natText ((walkAll .root children).countP fun listed => listed.2.isFolder) = "2" :=
    by decide +kernel
  have hfiles : natText ((walkAll .root children).countP fun listed => !listed.2.isFolder) = "2" :=
    by decide +kernel
  rw [hpath, hheader, hfolders, hfiles] at hprinted
  rw [hlevels] at hdraws
  exact ⟨harg, hfolder, drawn, hprinted, hdraws⟩

/-- A depth of more than `integerDigitLimit` digits is not read: three levels of four are drawn, and
the entry on the fourth, which is within the depth, has no line. -/
theorem tree_of_unread_depth :
    let tree : List Entry := [.folder "a" [.folder "b" [.folder "c" [.folder "d" [] false] false]
      false] false]
    let s := standard tree 0
    let depth := 10 ^ integerDigitLimit
    lookup s.workspace.tree (s.target (some "/")) = some (.folder "root" tree true) ∧
      ¬ ∃ drawn, s.drawTree ["/", "--depth", natText depth] =
          (s, .ok (.output "/" :: drawn ++ [.blank, treeSummary tree])) ∧
        drawn.length =
          ((walkAll .root tree).filter fun listed => listed.1.depth ≤ depth).length := by
  intro tree s depth
  have htree : s.workspace.tree = tree := Workspace.tree_start ..
  have hpath : s.target (some "/") = .root := by decide +kernel
  have hfolder : lookup s.workspace.tree (s.target (some "/")) =
      some (.folder "root" tree true) := by
    rw [htree, hpath]
    rfl
  have hlong : ¬ (natText depth).length ≤ integerDigitLimit :=
    Nat.not_le.2 (lt_length_natText (Nat.le_refl depth))
  have hlevels : askedDepth depth = 3 := if_neg hlong
  refine ⟨hfolder, ?_⟩
  rintro ⟨drawn, hprinted, hcount⟩
  rw [drawTree_of_folder (by decide) hfolder (Nat.pow_pos (by decide)), hlevels, hpath] at hprinted
  have hlines := List.append_cancel_right (List.cons.inj (Except.ok.inj (Prod.mk.inj hprinted).2)).2
  -- All four entries are within the depth, but there are three lines.
  have hwithin : ∀ listed ∈ walkAll .root tree, listed.1.depth ≤ depth := by
    have hfour : ∀ listed ∈ walkAll .root tree, listed.1.depth ≤ 10 ^ 1 := by decide
    intro listed hmem
    exact (hfour listed hmem).trans (Nat.pow_le_pow_right (by decide) (by decide))
  rw [List.filter_eq_self.2 (by simpa using hwithin), ← hlines] at hcount
  exact absurd hcount (by decide)

end Session

end OverlayShell
