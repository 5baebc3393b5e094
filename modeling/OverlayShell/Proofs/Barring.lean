import Mathlib.Data.List.Induction
import OverlayShell.Proofs.PlainRun
import OverlayShell.Proofs.Writing

/-!
# Barred places

What the base has below a path is buried there if each of these entries has a tombstone on its way
that itself lies below the path. Then nothing is ever seen there, as long as nothing is created
there. What is not buried comes back: the tombstones down to the path can be lifted one by one,
without creating anything below it.
-/

namespace OverlayShell

open Entry

namespace Path

/-- `q` lies strictly below `p`. -/
def isBelow (q p : Path) : Bool := q.isWithin p && q != p

theorem isBelow_iff {p q : Path} :
    q.isBelow p = true ↔ p.segments <+: q.segments ∧ q ≠ p := by
  rw [isBelow, Bool.and_eq_true, isWithin_iff, bne_iff_ne]

theorem isBelow_further {p q r : Path} (h : q.isBelow p = true) (hqr : q.segments <+: r.segments) :
    r.isBelow p = true := by
  rw [isBelow_iff] at h ⊢
  refine ⟨h.1.trans hqr, ?_⟩
  rintro rfl
  exact h.2 (segments_injective (hqr.eq_of_length_le h.1.length_le))

theorem isBelow_ne_nil {p q : Path} (h : q.isBelow p = true) : q.segments ≠ [] := by
  rw [isBelow_iff] at h
  intro hroot
  rw [hroot, List.prefix_nil] at h
  exact h.2 (segments_injective (by rw [hroot, h.1]))

theorem start_cases {p q : Path} {b : List String} (hq : q.isBelow p = true)
    (hb : b <+: q.segments) : b <+: p.segments ∨ isBelow ⟨b⟩ p = true := by
  rcases List.prefix_or_prefix_of_prefix hb (isBelow_iff.1 hq).1 with h | h
  · exact .inl h
  · by_cases heq : (⟨b⟩ : Path) = p
    · exact .inl (heq ▸ List.prefix_rfl)
    · exact .inr (isBelow_iff.2 ⟨h, heq⟩)

end Path

namespace Journal

variable {base : List Entry} {j j' : Journal} {p : Path}

/-! ## 1. Barred places -/

/-- Whatever the base has below `p` has a tombstone on its way that is itself below `p`. -/
def Buries (base : List Entry) (p : Path) (j : Journal) : Prop :=
  ∀ q m, Path.isBelow q p = true → markAt q.segments base = some m →
    ∃ b : Path, b.isBelow p = true ∧ b.segments <+: q.segments ∧ j.isDeleted b = true

/-- Nothing is created below `p`, and what the base has there is buried there. -/
structure Barred (base : List Entry) (p : Path) (j : Journal) : Prop where
  folders : ∀ q ∈ j.folders, q.isBelow p = false
  created : ∀ q ∈ j.created.keys, q.isBelow p = false
  buries : j.Buries base p

/-- A write that creates nothing below `p` leaves it `Barred`. -/
theorem Barred.apply (h : j.Barred base p) (write : Write)
    (hcreates : ∀ q ∈ write.creates?, q.isBelow p = false) : (j.apply write).Barred base p := by
  -- Tombstones below `p` are lifted by creations there only.
  have hburied : (∀ b, b.isBelow p = true → j.isDeleted b = true →
      (j.apply write).isDeleted b = true) → (j.apply write).Buries base p := by
    intro hkeeps q m hq hm
    obtain ⟨b, hb, hway, hdel⟩ := h.buries q m hq hm
    exact ⟨b, hb, hway, hkeeps b hb hdel⟩
  have hgrown : ∀ path, path.isBelow p = false → j.Grows path (j.apply write) →
      (j.apply write).Buries base p := by
    refine fun path hpath hgrows => hburied fun b hb hdel => hgrows.deleted b hdel ?_
    rintro rfl
    rw [hpath] at hb
    cases hb
  cases write with
  | create path file =>
    have hpath : path.isBelow p = false := hcreates path rfl
    refine ⟨h.folders, fun q hq => ?_, hgrown path hpath (.create j path file)⟩
    rcases Bindings.mem_keys_putLast.1 hq with rfl | hq
    · exact hpath
    · exact h.created q hq
  | addFolder path =>
    have hpath : path.isBelow p = false := hcreates path rfl
    refine ⟨fun q hq => ?_, fun q hq => ?_, hgrown path hpath (.addFolder j path)⟩
    · rcases mem_folders_addFolder.1 hq with rfl | hq
      · exact hpath
      · exact h.folders q hq
    · rw [Journal.apply, created_addFolder] at hq
      exact h.created q hq
  | delete path =>
    refine ⟨h.folders, fun q hq => h.created q (Bindings.mem_keys_erase.1 hq).2,
      hburied fun b _ hdel => ?_⟩
    exact (isDeleted_delete j path b).2 (.inr hdel)
  | dropFoldersUnder path =>
    exact ⟨fun q hq => h.folders q (List.mem_of_mem_filter hq), h.created, hburied fun _ _ => id⟩
  | dropCreatedUnder path =>
    exact ⟨h.folders, fun q hq => h.created q (Bindings.mem_keys_of_filter hq),
      hburied fun _ _ => id⟩
  | modify path content => exact ⟨h.folders, h.created, hburied fun _ _ => id⟩
  | reset path =>
    show (j.reset path).Barred base p
    unfold Journal.reset
    split
    · exact ⟨h.folders, h.created, h.buries⟩
    · exact h

theorem Barred.buried (h : j.Barred base p) (paths : List Path) :
    (j.buried paths).Barred base p := by
  refine ⟨h.folders, h.created, fun q m hq hm => ?_⟩
  obtain ⟨b, hb, hway, hdel⟩ := h.buries q m hq hm
  exact ⟨b, hb, hway, by rw [isDeleted_buried, hdel, Bool.true_or]⟩

/-- **Below a barred place nothing is seen**: what the base has there the journal `Buries`, and
nothing is created. -/
theorem Barred.markAt_merge (h : j.Barred base p) (hj : j.Sound) {q : Path}
    (hq : q.isBelow p = true) : markAt q.segments (merge base j).tree = none := by
  -- A tombstone below `p` hides whatever the base has at `q`.
  have hkept : markAt q.segments (survivors j .root base) = none := by
    rw [markAt_survivors_root]
    cases hm : markAt q.segments base with
    | none => simp
    | some m =>
      obtain ⟨b, hb, hway, hdel⟩ := h.buries q m hq hm
      have hhides : j.hides q = true :=
        hides_iff.2 ⟨b.segments, Path.isBelow_ne_nil hb, hway, hdel⟩
      rw [if_pos hhides]
  -- So what stands there was created, at `q` or below; that lies below `p`, where nothing was.
  cases hmark : markAt q.segments (merge base j).tree with
  | none => rfl
  | some m =>
    cases m with
    | file f =>
      rcases hasFile_merge_cases hj ⟨f, hmark⟩ with ⟨g, hg⟩ | hcreated
      · rw [hkept] at hg
        cases hg
      · rw [h.created q hcreated] at hq
        cases hq
    | folder isOpen =>
      rcases hasFolder_merge_cases hj ⟨isOpen, hmark⟩ with ⟨o, ho⟩ | ⟨-, hwants⟩
      · rw [hkept] at ho
        cases ho
      · rcases hwants with ⟨r, hr, -, hway⟩ | ⟨r, hr, hway⟩
        · have hbelow := Path.isBelow_further hq hway
          rw [h.folders r hr] at hbelow
          cases hbelow
        · have hbelow := Path.isBelow_further hq (hway.trans (List.dropLast_prefix _))
          rw [h.created r hr] at hbelow
          cases hbelow

end Journal

namespace Workspace

variable {base : List Entry} {w w' : Workspace} {lifted : List Path} {name : String} {p : Path}

/-! ## 2. Barred for good -/

/-- Nothing strictly below `p` is in `w.tree` or in `w.files`. -/
def EmptyBelow (p : Path) (w : Workspace) : Prop :=
  (∀ q entry, (q, entry) ∈ walkAll .root w.tree → q.isBelow p = false) ∧
    ∀ f ∈ w.files, f.path.isBelow p = false

theorem Sound.emptyBelow_iff (hw : w.Sound base) (hbase : Tidy base) :
    EmptyBelow p w ↔ ∀ q : Path, q.isBelow p = true → markAt q.segments w.tree = none := by
  have hdistinct : Distinct w.tree := (hw.tidy_tree hbase).distinct
  constructor
  · -- Whatever stands in the tree is met by the walk, under its path.
    intro h q hq
    cases hm : markAt q.segments w.tree with
    | none => rfl
    | some m =>
      obtain ⟨entry, hfind, -⟩ := Option.map_eq_some_iff.1 hm
      have hmem : (q, entry) ∈ walkAll .root w.tree :=
        (mem_walkAll_iff hdistinct .root q entry).2 ⟨q.segments, rfl, hfind⟩
      rw [h.1 q entry hmem] at hq
      cases hq
  · intro h
    refine ⟨fun q entry hmem => ?_, fun f hf => ?_⟩
    · obtain ⟨way, hway, hfind⟩ := (mem_walkAll_iff hdistinct .root q entry).1 hmem
      rw [Path.root, List.nil_append] at hway
      rw [Bool.eq_false_iff]
      intro hq
      have hnone := h q hq
      rw [hway, markAt, hfind] at hnone
      cases hnone
    · -- A listed file stands in the tree at the path of its key.
      obtain ⟨q, hq, g, hg, rfl⟩ := (hw.mem_files_iff hbase).1 hf
      rw [File.path_of_key (p := q) rfl hq.2, Bool.eq_false_iff]
      intro hbelow
      rw [h q hbelow] at hg
      cases hg

/-- `op` creates nothing strictly below `p`. -/
def CreatesNothingBelow (p : Path) (_ : Workspace) (op : Operation) : Prop :=
  ∀ q ∈ op.creates, q.isBelow p = false

theorem Barred.emptyBelow (hw : w.Sound base) (hbase : Tidy base) (h : w.journal.Barred base p) :
    EmptyBelow p w := by
  refine (hw.emptyBelow_iff hbase).2 fun q hq => ?_
  obtain ⟨lifted, hsound, hseen, -⟩ := hw.seen
  rw [tree, hseen]
  exact (h.buried lifted).markAt_merge hsound hq

/-- A `Barred` place stays so, and empty, as long as nothing is created below it. -/
theorem Barred.stays (hw : w.Sound base) (hbase : Tidy base) (h : w.journal.Barred base p)
    (hcourse : Course (CreatesNothingBelow p) w w') : EmptyBelow p w' := by
  have hboth : w'.Sound base ∧ w'.journal.Barred base p := by
    refine hcourse.keeps (P := fun w => w.Sound base ∧ w.journal.Barred base p) ?_ ⟨hw, h⟩
    rintro w op hop ⟨hsound, hbarred⟩
    refine ⟨hsound.perform op, ?_⟩
    refine (writes_of_perform w op).keeps (P := Journal.Barred base p) ?_ hbarred
    exact fun j write hcreates _ hj => hj.apply write fun q hq => hop q (hcreates q hq)
  exact Barred.emptyBelow hboth.1 hbase hboth.2

/-! ## 3. Uncovering what is not buried -/

/-- `w.view` shows the journal as it is, in a sound workspace. -/
def Fresh (base : List Entry) (w : Workspace) : Prop :=
  w.Sound base ∧ w.view = merge base w.journal

theorem Fresh.update (hw : w.Sound base) (name content : String) :
    Fresh base (w.update name content) := by
  refine ⟨hw.perform (.update name content),
    hw.view_changed (record_base w _) (record_cache w _) ?_⟩
  rw [Workspace.update, record_journal]
  exact Nat.lt_succ_self _

section Uncover

variable (hw : Fresh base w) (hp : p.Proper) {outside : Path} (hout : p.isBelow outside = false)
  (hfree : isObstructed p.parent.segments w.tree = false)

include hw hp hout hfree

theorem Fresh.uncover_file (hfile : HasFile p.segments w.tree) :
    ∃ w', Course (CreatesNothingBelow outside) w w' ∧ Fresh base w' ∧
      ∀ q, w'.journal.isDeleted q = (w.journal.isDeleted q && q != p) := by
  have hparse : Path.parse p.absolute = p := Path.parse_absolute hp.2
  have hroot : p.isRoot = false := by simpa [Path.isRoot] using hp.1
  have hunseen : isFolderAt w.tree p = false := by
    rw [Bool.eq_false_iff, Ne, isFolderAt_iff hp.1]
    exact hfile.not_folder
  rcases w.createFile_cases p.absolute "" with ⟨hnone, -⟩ | ⟨-, -, -, file, -, hdone⟩
  · unfold createFile at hnone
    rw [hparse] at hnone
    simp [hroot, hunseen, any_isFileAt_ancestors hp.1, hfree] at hnone
  · have hcourse : Course (CreatesNothingBelow outside) w (w.createFile p.absolute "").2 := by
      refine Course.stay.go (.createFile p.absolute "") fun q hq => ?_
      rw [List.mem_singleton.1 hq, hparse]
      exact hout
    have hsound := hw.1.createFile p.absolute ""
    rw [hdone, hparse] at hcourse hsound
    refine ⟨_, hcourse, ⟨hsound, hw.1.view_changed rfl rfl (Nat.lt_succ_self _)⟩, fun q => ?_⟩
    rw [Bool.eq_iff_iff, Bool.and_eq_true, bne_iff_ne]
    exact Journal.isDeleted_create_iff _ p file q

/-- Where no file is seen `createFolder` lifts the tombstone. The edit gives the journal a new
version in any case. -/
theorem Fresh.uncover_folder (hfile : ¬ HasFile p.segments w.tree) :
    ∃ w', Course (CreatesNothingBelow outside) w w' ∧ Fresh base w' ∧
      ∀ q, w'.journal.isDeleted q = (w.journal.isDeleted q && q != p) := by
  have hparse : Path.parse p.absolute = p := Path.parse_absolute hp.2
  have hroot : p.isRoot = false := by simpa [Path.isRoot] using hp.1
  -- No file stands at `p`, and none above by `hfree`, so the folder is not refused.
  have hblocked : w.refresh.isBlocked p = false := by
    rw [isBlocked_eq _ hp.1, tree, view_refresh, isObstructed_eq_false_iff]
    intro b hb hbfile
    by_cases hbp : b = p.segments
    · exact hfile (hbp ▸ hbfile)
    · have habove := (Path.prefix_dropLast_iff hp.1).2 ⟨hb, hbp⟩
      exact isObstructed_eq_false_iff.1 hfree b habove hbfile
  rcases w.createFolder_cases p.absolute with ⟨hnone, -⟩ | ⟨-, -, hdone⟩
  · unfold createFolder at hnone
    rw [hparse] at hnone
    simp [hroot, hblocked] at hnone
  · -- The edit is made at `p` as well, where no file is: it gives the journal a version and nothing
    -- else that is seen.
    have hcourse : Course (CreatesNothingBelow outside) w (w.createFolder p.absolute).2 := by
      refine Course.stay.go (.createFolder p.absolute) fun q hq => ?_
      rw [List.mem_singleton.1 hq, hparse]
      exact hout
    have hsound := hw.1.createFolder p.absolute
    rw [hdone, hparse] at hcourse hsound
    refine ⟨_, hcourse.go (.update p.absolute "") (by simp [CreatesNothingBelow,
      Operation.creates]), Fresh.update hsound p.absolute "", fun q => ?_⟩
    show ((w.refresh.record (.addFolder p)).record (.modify _ _)).journal.isDeleted q = _
    rw [record_journal, record_journal]
    exact Journal.isDeleted_addFolder _ p q

end Uncover

theorem Fresh.uncover (hw : Fresh base w) {m : Mark} (hp : p.Proper)
    (hm : markAt p.segments base = some m) (habove : w.journal.hides p.parent = false)
    {outside : Path} (hout : p.isBelow outside = false) :
    ∃ w', Course (CreatesNothingBelow outside) w w' ∧ Fresh base w' ∧
      ∀ q, w'.journal.isDeleted q = (w.journal.isDeleted q && q != p) := by
  -- The folder around the place is one of the base, so there is no file above.
  have hfree : isObstructed p.parent.segments w.tree = false := by
    by_cases hroot : p.parent.segments = []
    · rw [hroot]
      rfl
    · obtain ⟨hstart, hne⟩ := (Path.prefix_dropLast_iff hp.1).1 List.prefix_rfl
      have hfolder := exists_folder_above hroot hstart hne hm
      have hkept : HasFolder p.parent.segments (survivors w.journal .root base) :=
        (hasFolder_survivors _ base).2 ⟨habove, hfolder⟩
      rw [tree, hw.2]
      exact (hasFolder_merge_of_kept hw.1.journal hkept).free fun _ => id
  by_cases hfile : HasFile p.segments w.tree
  · exact hw.uncover_file hp hout hfree hfile
  · exact hw.uncover_folder hp hout hfree hfile

/-- On the way to a place of the base below `p` all tombstones down to that of `p` can be lifted,
the highest first. -/
theorem Fresh.uncover_way (hw : Fresh base w) (hbase : Tidy base) {q : Path} {m : Mark}
    (hq : q.isBelow p = true) (hm : markAt q.segments base = some m) (way : List String)
    (hway : way <+: p.segments) :
    ∃ w', Course (CreatesNothingBelow p) w w' ∧ Fresh base w' ∧ w'.journal.hides ⟨way⟩ = false ∧
      ∀ b : Path, w'.journal.isDeleted b = true → w.journal.isDeleted b = true := by
  -- The induction is on the way: the tombstone at its end goes once those above it are gone.
  induction way using List.reverseRecOn with
  | nil => exact ⟨w, .stay, hw, rfl, fun _ => id⟩
  | append_singleton above s ih =>
    obtain ⟨w₁, hcourse₁, hfresh₁, hhides₁, hfewer₁⟩ := ih ((List.prefix_append _ _).trans hway)
    have hpq : p.segments <+: q.segments := (Path.isBelow_iff.1 hq).1
    have hne : above ++ [s] ≠ q.segments := by
      intro heq
      rw [heq] at hway
      exact (Path.isBelow_iff.1 hq).2
        (Path.segments_injective (hway.eq_of_length_le hpq.length_le))
    obtain ⟨o, ho⟩ := exists_folder_above (by simp) (hway.trans hpq) hne hm
    have hproper : Path.Proper ⟨above ++ [s]⟩ := by
      obtain ⟨entry, hfind, -⟩ := Option.map_eq_some_iff.1 ho
      exact ⟨by simp, hbase.normal_of_find? hfind⟩
    have hout : Path.isBelow ⟨above ++ [s]⟩ p = false := by
      rw [Bool.eq_false_iff, Ne, Path.isBelow_iff]
      rintro ⟨hstart, hdiff⟩
      exact hdiff (Path.segments_injective (hway.eq_of_length_le hstart.length_le))
    have hparent : Path.parent ⟨above ++ [s]⟩ = ⟨above⟩ := by simp [Path.parent]
    obtain ⟨w₂, hcourse₂, hfresh₂, hdeleted₂⟩ :=
      hfresh₁.uncover hproper ho (by rw [hparent]; exact hhides₁) hout
    have hfewer₂ : ∀ b, w₂.journal.isDeleted b = true → w₁.journal.isDeleted b = true := by
      intro b hb
      rw [hdeleted₂, Bool.and_eq_true] at hb
      exact hb.1
    refine ⟨w₂, hcourse₁.trans hcourse₂, hfresh₂, ?_, fun b hb => hfewer₁ b (hfewer₂ b hb)⟩
    have habove : w₂.journal.hides (Path.parent ⟨above ++ [s]⟩) = false := by
      rw [hparent]
      exact Journal.hides_mono hfewer₂ hhides₁
    rw [Journal.hides_eq_isDeleted hproper.1 habove, hdeleted₂, bne_self_eq_false, Bool.and_false]

/-- What the base has below `p` comes back if the journal does not bury it there: the converse of
`Barred.stays`. -/
theorem Fresh.buries (hw : Fresh base w) (hbase : Tidy base)
    (hempty : ∀ w', Course (CreatesNothingBelow p) w w' → EmptyBelow p w') :
    w.journal.Buries base p := by
  intro q m hq hm
  by_contra hnone
  obtain ⟨w', hcourse, ⟨hsound, hview⟩, hhides, hfewer⟩ :=
    hw.uncover_way hbase hq hm p.segments List.prefix_rfl
  -- No tombstone is left on the way: down to `p` they were lifted, and below there were none.
  have hshown : w'.journal.hides q = false := by
    rw [Bool.eq_false_iff]
    intro hhidden
    obtain ⟨b, hne, hb, hdel⟩ := Journal.hides_iff.1 hhidden
    rcases Path.start_cases hq hb with habove | hbelow
    · rw [Journal.hides_iff.2 ⟨b, hne, habove, hdel⟩] at hhides
      cases hhides
    · exact hnone ⟨⟨b⟩, hbelow, hb, hfewer _ hdel⟩
  have hseen := (hsound.emptyBelow_iff hbase).1 (hempty w' hcourse) q hq
  rw [tree, hview] at hseen
  exact Journal.markAt_merge_ne_none hsound.journal hshown hm hseen

end Workspace

end OverlayShell
