import OverlayShell.Proofs.LastingView
import OverlayShell.Proofs.WorkingDirectory

/-!
# Plain sessions

A session is used by the lines that are submitted and, in between, by its host, who has the same
workspace at hand and may set the working directory. It is plain if no path that is named by either
starts with a tilde. Whoever uses it, the workspace keeps in order; that its view lasts is certain
as long as the host leaves it alone.
-/

namespace OverlayShell

open Entry

namespace Session

open Workspace

variable {base : List Entry} {hosted : Bool} {s s' s'' : Session} {names : List String}
  {removing : Bool}

/-- A session in use: lines are submitted and, if it is `hosted`, the host uses the workspace or
sets the working directory in between. No tilde stands in a line but at the start of a word, and no
path that the host names starts with one. -/
inductive Used (base : List Entry) (hosted : Bool) : Session → Prop
  | start (openFiles : List String) (active : String) (env aliases : Bindings String String)
      (table : CommandTable) (now : Int) :
      Used base hosted (start (.start base openFiles active) env aliases table now)
  | line {s : Session} (h : Used base hosted s) (line : String)
      (hwords : ∀ word ∈ s.wordsOf line, Path.TildeFirst word) : Used base hosted (s.next line)
  | host {s s' : Session} (h : Used base hosted s) (hhosted : hosted = true) (op : Operation)
      (hop : op.Plain) (hafter : Rests { s with workspace := s.workspace.perform op } s') :
      Used base hosted s'
  | enter {s : Session} (h : Used base hosted s) (hhosted : hosted = true) (cwd : Path)
      (hnormal : cwd.Normal) (hplain : cwd.Plain) : Used base hosted { s with cwd }

theorem Used.standard (base : List Entry) (hosted : Bool) (now : Int) :
    Used base hosted (standard base now) :=
  .start [] "" _ _ _ now

/-! ## 1. Rest -/

theorem Rests.base_eq (h : Rests s s') : s'.workspace.base = s.workspace.base := by
  rcases h.documents with hsame | hsame
  · exact hsame.base
  · exact hsame.base

theorem sameDocuments_refresh_twice (w : Workspace) : SameDocuments w.refresh w.refresh.refresh :=
  ⟨rfl, rfl, ViewCache.read_of_current (isCurrent_refresh w)⟩

theorem Rests.trans (h : Rests s s') (h' : Rests s' s'') : Rests s s'' := by
  refine ⟨h'.cwd.trans h.cwd, ?_⟩
  rcases h.documents with hsame | hread <;> rcases h'.documents with hsame' | hread'
  · exact .inl (hsame.trans hsame')
  · exact .inr (hsame.refresh.trans hread')
  · exact .inr (hread.trans hsame')
  · exact .inr (((sameDocuments_refresh_twice _).trans hread.refresh).trans hread')

/-! ## 2. Orderly sessions -/

/-- The workspace is `Orderly`, and `cwd` can be named in a line. -/
structure Orderly (base : List Entry) (s : Session) : Prop where
  workspace : ∃ lifted, s.workspace.Orderly base lifted
  normal : s.cwd.Normal
  plain : s.cwd.Plain

theorem Rests.orderly_workspace {lifted : List Path} (h : Rests s s')
    (hw : s.workspace.Orderly base lifted) : s'.workspace.Orderly base lifted := by
  refine hw.same ?_ h.journal_eq h.view_eq
  rcases h.documents with hsame | hsame
  · exact hw.sound.same hsame.base hsame.journal hsame.cache
  · exact hw.sound.refresh.same hsame.base hsame.journal hsame.cache

theorem Rests.orderly (h : Rests s s') (hs : Orderly base s) : Orderly base s' := by
  obtain ⟨lifted, hw⟩ := hs.workspace
  exact ⟨⟨lifted, h.orderly_workspace hw⟩, h.cwd ▸ hs.normal, h.cwd ▸ hs.plain⟩

theorem Orderly.perform (hs : Orderly base s) (hbase : Tidy base) (htop : PlainTop base)
    {op : Operation} (hop : op.Plain)
    (hafter : Rests { s with workspace := s.workspace.perform op } s') : Orderly base s' := by
  obtain ⟨lifted, horderly⟩ := hs.workspace
  exact hafter.orderly ⟨horderly.perform hbase htop hop, hs.normal, hs.plain⟩

/-- Any `Move` keeps the session `Orderly`. -/
theorem Orderly.move (hs : Orderly base s) (hbase : Tidy base) (htop : PlainTop base)
    (hnames : ∀ name ∈ names, Path.TildeFirst name) (hmove : Move names removing s s') :
    Orderly base s' := by
  have hresolve : ∀ name, Path.TildeFirst name →
      (s.resolve name).Normal ∧ (s.resolve name).Plain := fun name hname =>
    ⟨Path.resolve_normal hs.normal name, Path.resolve_plain hs.normal hs.plain hname⟩
  -- What a command does to the workspace is an operation at a plain path.
  have hperform : ∀ (op : Operation) (name : String), Path.TildeFirst name →
      op.name? = some (s.resolve name).key →
      Orderly base (s.withWorkspace (s.workspace.perform op)) := by
    intro op name hname hop
    obtain ⟨hnormal, hplain⟩ := hresolve name hname
    have hplainly : op.Plain := by
      intro text htext
      rw [hop, Option.mem_some_iff] at htext
      rwa [← htext, Path.parse_key hnormal hplain]
    exact hs.perform hbase htop hplainly (rests_withWorkspace s _)
  cases hmove with
  | rest hrest => exact hrest.orderly hs
  | home => exact ⟨hs.workspace, by simp [Path.root, Path.Normal], Path.plain_root⟩
  | enter name hname =>
    obtain ⟨hnormal, hplain⟩ := hresolve name (hnames name hname)
    exact ⟨hs.workspace, hnormal, hplain⟩
  | touch name hname => exact hperform (.createFile _ "") name (hnames name hname) rfl
  | mkdir name hname => exact hperform (.createFolder _) name (hnames name hname) rfl
  | remove recursive name hname =>
    have hfolder : Orderly base
        (s.withWorkspace (s.workspace.deleteFolder (s.resolve name).key).2) :=
      hperform (.deleteFolder _) name (hnames name hname) rfl
    obtain ⟨hnormal, hplain⟩ := hresolve name (hnames name hname)
    rcases s.rmOne_cases recursive name with hsame | hfile | ⟨-, hdone | hdone⟩
    · rw [hsame]
      exact hs
    · rw [hfile]
      exact hperform (.deleteFile _) name (hnames name hname) rfl
    · rw [hdone]
      exact hfolder
    · generalize s.withWorkspace (s.workspace.deleteFolder (s.resolve name).key).2 = without
        at hdone hfolder
      rw [hdone]
      exact ⟨hfolder.workspace, hnormal.parent, hplain.parent⟩

/-! ## 3. Sessions in use -/

/-- **A plain session keeps in order**, whoever uses it: `Used` gives `Orderly`. -/
theorem Used.orderly (h : Used base hosted s) (hbase : Tidy base) (htop : PlainTop base) :
    Orderly base s := by
  induction h with
  | start openFiles active =>
    exact ⟨⟨[], .start base openFiles active⟩, by simp [Session.start, Path.root, Path.Normal],
      Path.plain_root⟩
  | line _ line hwords ih =>
    exact (moves_next _ line).keeps (fun t t' hmove ht => ht.move hbase htop hwords hmove) ih
  | host _ _ op hop hafter ih => exact ih.perform hbase htop hop hafter
  | enter _ _ cwd hnormal hplain ih => exact ⟨ih.workspace, hnormal, hplain⟩

/-- **A session without a host is settled**: with `hosted = false`, `Used` gives `InOrder`. -/
theorem Used.inOrder (h : Used base false s) (hbase : Tidy base) (htop : PlainTop base) :
    InOrder base s := by
  induction h with
  | start openFiles active env aliases table now =>
    exact .start base openFiles active env aliases table now
  | @line s _ line hwords ih =>
    let step : Step := ⟨s, line, s.next line⟩
    have hbefore : InOrder base step.before := ih
    exact (hbefore.after_line (moves_next s line) hbase htop hwords).1
  | host _ hhosted => cases hhosted
  | enter _ hhosted => cases hhosted

theorem Used.lasting (h : Used base hosted s) (hbase : Tidy base) (htop : PlainTop base)
    (hhosted : hosted = false) : s.workspace.Lasting := by
  subst hhosted
  exact (h.inOrder hbase htop).settled.lasting

end Session

end OverlayShell
