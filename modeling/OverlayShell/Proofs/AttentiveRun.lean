import OverlayShell.Proofs.PlainRun
import OverlayShell.Proofs.Writing

/-!
# Attentive runs

A plain run is attentive if folders are deleted by an up-to-date view only. Then everything that is
hidden of the base is accounted for: it has a tombstone of its own or is recorded as created. For a
folder that is deleted sets a tombstone at all that is seen in it, and what is recorded there is
seen.
-/

namespace OverlayShell

open Entry

namespace Workspace

variable {base : List Entry} {w w' : Workspace} {lifted : List Path} {name : String} {p : Path}

/-! ## 1. What is hidden is accounted for -/

/-- What of the base is hidden has a tombstone of its own or is recorded as created. -/
def Accounted (base : List Entry) (j : Journal) : Prop :=
  ∀ q m, markAt (Path.segments q) base = some m → j.hides q = true →
    j.isDeleted q = true ∨ q ∈ j.created.keys ∨ q ∈ j.folders

theorem Accounted.congr {j j' : Journal} (h : Accounted base j) (hdeleted : j'.deleted = j.deleted)
    (hcreated : j'.created = j.created) (hfolders : j'.folders = j.folders) :
    Accounted base j' := by
  have hsame : j'.isDeleted = j.isDeleted := by
    funext q
    rw [Journal.isDeleted, Journal.isDeleted, hdeleted]
  intro q m hm hhides
  rw [hsame, hcreated, hfolders]
  exact h q m hm (Journal.hides_of_fewer (fun b hb => hsame ▸ hb) hhides)

theorem Accounted.grows {j j' : Journal} (h : Accounted base j) (hgrows : j.Grows p j')
    (hnew : p ∈ j'.created.keys ∨ p ∈ j'.folders) : Accounted base j' := by
  intro q m hm hhides
  by_cases hq : q = p
  · exact .inr (hq ▸ hnew)
  · rcases h q m hm (Journal.hides_of_fewer hgrows.fewer hhides) with hdel | hcreated | hfolder
    · exact .inl (hgrows.deleted q hdel hq)
    · exact .inr (.inl (hgrows.created q hcreated))
    · exact .inr (.inr (hgrows.folders q hfolder))

theorem Accounted.apply {j : Journal} (h : Accounted base j) (write : Journal.Write)
    (hkind : write.destroys = false) : Accounted base (j.apply write) := by
  cases write with
  | create path file =>
    exact h.grows (.create j path file) (.inl (Bindings.mem_keys_putLast.2 (.inl rfl)))
  | addFolder path =>
    exact h.grows (.addFolder j path) (.inr (Journal.mem_folders_addFolder.2 (.inl rfl)))
  | modify path content => exact h.congr rfl rfl rfl
  | reset path =>
    show Accounted base (j.reset path)
    unfold Journal.reset
    split <;> exact h.congr rfl rfl rfl
  | delete path => cases hkind
  | dropFoldersUnder path => cases hkind
  | dropCreatedUnder path => cases hkind

/-- In an `Orderly` workspace that is up to date something is seen where the base has an entry and
the journal records something created. -/
theorem Orderly.recorded_seen (h : w.Orderly base []) {q : Path} {m : Mark}
    (hm : markAt q.segments base = some m)
    (hrecorded : q ∈ w.journal.created.keys ∨
      q ∈ w.journal.folders ∧ w.journal.isDeleted q = false) :
    markAt q.segments w.tree ≠ none := by
  have hj := h.sound.journal
  have htree := h.tree_eq
  rw [Journal.buried_nil] at htree
  intro hnone
  rw [htree] at hnone
  have hroot : q.segments ≠ [] := hrecorded.elim (fun hq => (hj.created q hq).1)
    fun hq => (hj.folders q hq.1).1
  have hnofolder : ¬ HasFolder q.segments (merge base w.journal).tree := by
    rintro ⟨o, ho⟩
    rw [hnone] at ho
    cases ho
  -- A file is seen above, where a folder is wanted; so it is one of the base, which has a folder.
  have hwants : ∀ b, b <+: q.segments → b ≠ q.segments → w.journal.Wants b := by
    intro b hb hne
    rcases hrecorded with hcreated | ⟨hfolder, hdel⟩
    · exact Journal.wants_of_created hcreated hroot hb hne
    · exact .inl ⟨q, hfolder, hdel, hb⟩
  have hobs : isObstructed q.segments (merge base w.journal).tree = true := by
    rcases hrecorded with hcreated | ⟨hfolder, hdel⟩
    · exact (Journal.created_folder_or_obstructed hj base hcreated).resolve_left hnofolder
    · by_contra hfree
      have hself : w.journal.Wants q.segments := .inl ⟨q, hfolder, hdel, List.prefix_rfl⟩
      exact hnofolder (hself.hasFolder hj hroot (by simpa using hfree))
  obtain ⟨b, hb, hfile⟩ := isObstructed_iff.1 hobs
  by_cases hbq : b = q.segments
  · obtain ⟨f, hf⟩ := hfile
    rw [hbq, hnone] at hf
    cases hf
  · have hkept := h.journal.clear.kept_of_wants hj (hwants b hb hbq) hfile
    exact hbq (((hasFile_survivors _ base).1 hkept).2.eq_of_start hb hm)

/-- `FolderDeleted` in a workspace that is up to date leaves a tombstone of its own on whatever the
base has in the folder. -/
theorem FolderDeleted.isDeleted_inside (hdone : FolderDeleted w w' p) (h : w.Orderly base [])
    (haccounted : Accounted base w.journal) {q : Path} {m : Mark}
    (hm : markAt q.segments base = some m) (hq : q.isWithin p = true) :
    w'.journal.isDeleted q = true := by
  cases hseen : markAt q.segments w.tree with
  | some m' => exact hdone.buried q m' hq hseen
  | none =>
    -- An unseen entry is hidden, and nothing is recorded in its place, or that would be seen.
    have hhides : w.journal.hides q = true := by
      by_contra hnot
      rw [Bool.not_eq_true] at hnot
      have htree := h.tree_eq
      rw [Journal.buried_nil] at htree
      rw [htree] at hseen
      exact Journal.markAt_merge_ne_none h.sound.journal hnot hm hseen
    cases hdel : w.journal.isDeleted q with
    | true => exact hdone.prunes.deleted q hdel
    | false =>
      have hrecorded := (haccounted q m hm hhides).resolve_left (by rw [hdel]; simp)
      exact absurd hseen (h.recorded_seen hm (hrecorded.imp_right fun hfolder => ⟨hfolder, hdel⟩))

theorem FolderDeleted.accounted (hdone : FolderDeleted w w' p) (h : w.Orderly base [])
    (haccounted : Accounted base w.journal) : Accounted base w'.journal := by
  intro q m hm hhides
  cases hout : q.isWithin p with
  | true => exact .inl (hdone.isDeleted_inside h haccounted hm hout)
  | false =>
    rw [hdone.prunes.hides_eq hout] at hhides
    rw [hdone.prunes.isDeleted_eq hout, hdone.prunes.created_iff hout]
    exact (haccounted q m hm hhides).imp_right fun hrecorded =>
      hrecorded.imp_right fun hfolder => hdone.prunes.folders q hfolder hout

theorem Orderly.accounted_delete (h : w.Orderly base lifted) (haccounted : Accounted base w.journal)
    (hfile : HasFile p.segments w.tree) : Accounted base (w.journal.delete p) := by
  intro q m hm hhides
  by_cases hq : q = p
  · exact .inl ((Journal.isDeleted_delete _ p q).2 (.inl hq))
  -- Nothing of the base is kept below a file that is seen, so the new tombstone hides no more.
  have hold : w.journal.hides q = true := by
    by_contra hnot
    rw [Bool.not_eq_true] at hnot
    obtain ⟨b, hne, hb, hdel⟩ := Journal.hides_iff.1 hhides
    rcases (Journal.isDeleted_delete _ p ⟨b⟩).1 hdel with rfl | hdel
    · have hbq : b ≠ q.segments := fun heq => hq (congrArg Path.mk heq).symm
      have hnone := h.nothing_kept_below hfile hb hbq
      rcases Journal.markAt_kept_eq_none_iff.1 hnone with hhides | hnone
      · rw [hnot] at hhides
        cases hhides
      · rw [hm] at hnone
        cases hnone
    · rw [Journal.hides_iff.2 ⟨b, hne, hb, hdel⟩] at hnot
      cases hnot
  rcases haccounted q m hm hold with hdel | hcreated | hfolder
  · exact .inl ((Journal.isDeleted_delete _ p q).2 (.inr hdel))
  · exact .inr (.inl (Bindings.mem_keys_erase.2 ⟨hq, hcreated⟩))
  · exact .inr (.inr hfolder)

/-! ## 2. Attentive operations -/

/-- `op` names no path with a tilde, and if it deletes a folder, `w` is `UpToDate`. -/
def Attentive (w : Workspace) (op : Operation) : Prop :=
  op.Plain ∧ ∀ name, op = .deleteFolder name → w.UpToDate

def AttentiveRun (base : List Entry) (w : Workspace) : Prop :=
  PlainTop base ∧ ∃ openFiles active, Course Attentive (start base openFiles active) w

theorem AttentiveRun.plainRun (h : AttentiveRun base w) : PlainRun base w := by
  obtain ⟨htop, openFiles, active, hcourse⟩ := h
  exact ⟨htop, openFiles, active, hcourse.mono fun _ _ hop => hop.1⟩

theorem Orderly.accounted_perform (h : w.Orderly base lifted) (hbase : Tidy base)
    (htop : PlainTop base) {op : Operation} (hop : Attentive w op)
    (haccounted : Accounted base w.journal) : Accounted base (w.perform op).journal := by
  cases hdeletes : op.deletes with
  | false =>
    -- Writes that destroy nothing keep the account one by one.
    refine (writes_of_perform w op).keeps (P := Accounted base) ?_ haccounted
    intro j write _ hdestroys hj
    refine hj.apply write ?_
    rw [Bool.eq_false_iff]
    intro hkind
    rw [hdestroys hkind] at hdeletes
    cases hdeletes
  | true =>
    cases op with
    | deleteFile name =>
      show Accounted base (w.deleteFile name).2.journal
      rcases w.deleteFile_cases name with hsame | ⟨_, -, -, hdone⟩
      · rwa [hsame]
      · obtain ⟨f, -, hfile, hjournal, -⟩ := h.deleteFile_done hbase htop hdone
        rw [hdone, hjournal]
        exact h.accounted_delete haccounted hfile
    | deleteFolder name =>
      show Accounted base (w.deleteFolder name).2.journal
      rcases w.deleteFolder_cases name with hsame | ⟨w', hdone⟩
      · rwa [hsame]
      · rw [hdone]
        -- An attentive run deletes a folder by an up-to-date view only, which has all of the base
        -- that is not hidden.
        have hview : w.view = merge w.base w.journal := hop.2 name rfl
        rw [h.sound.base_eq] at hview
        have horderly : w.Orderly base [] := .fresh h.sound h.journal hview
        exact (deleteFolder_done h.sound hbase hdone).accounted horderly haccounted
    | _ => cases hdeletes

theorem AttentiveRun.accounted (hbase : Tidy base) (h : AttentiveRun base w) :
    Accounted base w.journal := by
  obtain ⟨htop, openFiles, active, hcourse⟩ := h
  have hstart : Accounted base (start base openFiles active).journal := by
    intro q m hm hhides
    obtain ⟨b, -, -, hdel⟩ := Journal.hides_iff.1 hhides
    cases hdel
  have hboth : (∃ lifted, w.Orderly base lifted) ∧ Accounted base w.journal := by
    refine hcourse.keeps
      (P := fun w => (∃ lifted, w.Orderly base lifted) ∧ Accounted base w.journal) ?_
      ⟨⟨[], .start base openFiles active⟩, hstart⟩
    rintro w op hop ⟨⟨lifted, horderly⟩, haccounted⟩
    exact ⟨horderly.perform hbase htop hop.1,
      horderly.accounted_perform hbase htop hop haccounted⟩
  exact hboth.2

end Workspace

end OverlayShell
