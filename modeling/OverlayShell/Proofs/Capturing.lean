import OverlayShell.Console.Capture
import Mathlib.Data.List.Basic
import Mathlib.Data.List.TakeWhile

/-!
# What a capture gets

The console is captured at a log at the top, and the logs in it go by its rank. A record reaches the
console if its log lets it through and it is of the rank of the capture or above. The capture
therefore gives its log a rank that lets through what it is to get. For the rank zero that fails,
since zero means to have no rank: the log then goes by the one around all others.
-/

namespace OverlayShell

namespace Log

variable {known : List String} {ranks : Ranks} {outer name : String}

/-! ## 1. Logs within a log -/

def IsPart (s : String) : Prop := s ≠ "" ∧ '.' ∉ s.toList

instance (s : String) : Decidable (IsPart s) := inferInstanceAs (Decidable (_ ∧ _))

/-- The log is `outer` itself, or its name goes on from `outer` by parts, each behind a dot. -/
inductive Within (outer : String) : String → Prop
  | self : Within outer outer
  | further {name part : String} (h : Within outer name) (hpart : IsPart part) :
      Within outer (name ++ "." ++ part)

theorem IsPart.reverse {s : String} (h : IsPart s) :
    ∃ last before, s.toList.reverse = last :: before ∧ last ≠ '.' := by
  have hne : s.toList.reverse ≠ [] := by simpa using h.1
  obtain ⟨last, before, hrev⟩ := List.exists_cons_of_ne_nil hne
  refine ⟨last, before, hrev, ?_⟩
  rintro rfl
  exact h.2 (List.mem_reverse.1 (hrev ▸ List.mem_cons_self))

theorem toList_further (name part : String) :
    (name ++ "." ++ part).toList.reverse =
      part.toList.reverse ++ '.' :: name.toList.reverse := by
  simp

theorem Within.reverse (hpart : IsPart outer) (h : Within outer name) :
    ∃ last before, name.toList.reverse = last :: before ∧ last ≠ '.' := by
  cases h with
  | self => exact hpart.reverse
  | @further name part _ hp =>
    obtain ⟨last, before, hrev, hlast⟩ := hp.reverse
    exact ⟨last, _, by rw [toList_further, hrev]; rfl, hlast⟩

theorem Within.ne_empty (hpart : IsPart outer) (h : Within outer name) : name ≠ "" := by
  rintro rfl
  obtain ⟨last, before, hrev, -⟩ := h.reverse hpart
  simp at hrev

theorem around_cons {c : Char} (known : List String) (cs : List Char) (h : c ≠ '.') :
    around known (c :: cs) = around known cs := by
  rw [around]
  exact h

theorem around_append (known : List String) {piece : List Char} (rest : List Char)
    (h : '.' ∉ piece) : around known (piece ++ rest) = around known rest := by
  induction piece with
  | nil => rfl
  | cons c cs ih =>
    rw [List.cons_append, around_cons known _ fun hc => h (by simp [hc])]
    exact ih fun hmem => h (by simp [hmem])

/-- Around a log within `outer` is the log that its last part stands behind, if that is `known`, and
whatever is around that one. -/
theorem around_further (known : List String) (hpart : IsPart outer) (h : Within outer name)
    {part : String} (hp : IsPart part) :
    around known (name ++ "." ++ part).toList.reverse =
      (if name ∈ known then [name] else []) ++ around known name.toList.reverse := by
  obtain ⟨last, before, hrev, hlast⟩ := h.reverse hpart
  have hname : String.ofList (last :: before).reverse = name := by
    rw [← hrev, List.reverse_reverse, String.ofList_toList]
  rw [toList_further, around_append known _ (by simpa using hp.2), hrev]
  show (if (!(last :: before).isEmpty && known.contains (String.ofList (last :: before).reverse))
    then String.ofList (last :: before).reverse :: around known (last :: before)
    else around known before) = _
  rw [hname]
  by_cases hmem : name ∈ known
  · simp [hmem]
  -- If it is not known, the search skips a character, which is no dot.
  · simp [hmem, around_cons known before hlast]

theorem around_of_isPart (known : List String) (hpart : IsPart outer) :
    around known outer.toList.reverse = [] := by
  rw [← List.append_nil outer.toList.reverse, around_append known _ (by simpa using hpart.2)]
  rfl

theorem chain_eq (known : List String) (h : name ≠ "") :
    chain known name = name :: around known name.toList.reverse ++ [""] := by
  rw [chain, if_neg h]

/-- **Around a log within one at the top are logs within that one**, and then the one around all
others. The `chain` has `outer` if that is known. -/
theorem chain_of_within (known : List String) (hpart : IsPart outer) (h : Within outer name) :
    ∃ inner, chain known name = inner ++ [""] ∧ (∀ log ∈ inner, Within outer log) ∧
      (outer ∈ known ∨ name = outer → outer ∈ inner) := by
  refine ⟨name :: around known name.toList.reverse, chain_eq known (h.ne_empty hpart), ?_⟩
  induction h with
  | self => simpa [around_of_isPart known hpart] using Within.self
  | @further name part h hp ih =>
    obtain ⟨hwithin, houter⟩ := ih
    rw [around_further known hpart h hp]
    constructor
    · intro log hlog
      rcases List.mem_cons.1 hlog with rfl | hlog
      · exact .further h hp
      rcases List.mem_append.1 hlog with hlog | hlog
      · split at hlog
        · rw [List.mem_singleton.1 hlog]
          exact h
        · simp at hlog
      · exact hwithin log (List.mem_cons_of_mem name hlog)
    · rintro (hknown | hname)
      -- If the log one part further out is the outer one itself, it is there because it is known.
      · rcases List.mem_cons.1 (houter (.inl hknown)) with rfl | hmem
        · simp [hknown]
        · simp [hmem]
      · rw [hname]
        exact List.mem_cons_self

/-! ## 2. The rank a log goes by -/

def topRank (ranks : Ranks) (outer : String) : Int :=
  if ranks outer = 0 then ranks "" else ranks outer

/-- Every log that has a rank of its own is `known`, but for the one around all others. -/
def Covers (known : List String) (ranks : Ranks) : Prop :=
  ∀ name, ranks name ≠ 0 → name = "" ∨ name ∈ known

def Bare (outer : String) (ranks : Ranks) : Prop :=
  ∀ name, Within outer name → name ≠ outer → ranks name = 0

theorem find?_ranks {inner : List String} (hinner : ∀ log ∈ inner, log = outer ∨ ranks log = 0)
    (houter : ranks outer ≠ 0 → outer ∈ inner) :
    (((inner ++ [""]).map ranks).find? (· != 0)).getD 0 = topRank ranks outer := by
  unfold topRank
  induction inner with
  | nil =>
    have hzero : ranks outer = 0 := by
      by_contra hne
      simpa using houter hne
    by_cases hroot : ranks "" = 0 <;> simp [hzero, hroot]
  | cons log rest ih =>
    by_cases hlog : ranks log = 0
    · have hrest := ih (fun other h => hinner other (List.mem_cons_of_mem log h)) fun hne => by
        refine (List.mem_cons.1 (houter hne)).resolve_left ?_
        rintro rfl
        exact hne hlog
      simpa [hlog] using hrest
    -- The first log with a rank of its own is the outer one.
    · have heq := (hinner log List.mem_cons_self).resolve_right hlog
      rw [heq] at hlog
      simp [heq, hlog]

theorem effective_of_within (hpart : IsPart outer) (hbare : Bare outer ranks)
    (hcovers : Covers known ranks) (h : Within outer name) :
    effective known ranks name = topRank ranks outer := by
  obtain ⟨inner, hchain, hwithin, houter⟩ := chain_of_within known hpart h
  rw [effective, hchain]
  refine find?_ranks (fun log hlog => ?_) fun hne => houter (.inl ?_)
  · exact or_iff_not_imp_left.2 (hbare log (hwithin log hlog))
  · exact (hcovers outer hne).resolve_left hpart.1

theorem letsThrough_of_within (hpart : IsPart outer) (hbare : Bare outer ranks)
    (hcovers : Covers known ranks) (h : Within outer name) (rank : Int) :
    letsThrough known ranks name rank = (0 < rank && topRank ranks outer ≤ rank) := by
  rw [letsThrough, effective_of_within hpart hbare hcovers h]

theorem setRank_self (ranks : Ranks) (name : String) (rank : Int) :
    setRank ranks name rank name = rank := if_pos rfl

theorem setRank_of_ne {other : String} (rank : Int) (h : other ≠ name) :
    setRank ranks name rank other = ranks other := if_neg h

theorem Covers.ask (h : Covers known ranks) (name : String) : Covers (name :: known) ranks :=
  fun other hne => (h other hne).imp_right (List.mem_cons_of_mem name)

theorem Covers.setRank (h : Covers known ranks) (name : String) (rank : Int) :
    Covers (name :: known) (setRank ranks name rank) := by
  intro other hne
  by_cases heq : other = name
  · exact .inr (by simp [heq])
  · rw [setRank_of_ne rank heq] at hne
    exact h.ask name other hne

end Log

namespace Logs

variable {logs : Logs} {c : Capture}

/-! ## 3. Remembered decisions -/

@[simp] theorem ranks_ask (logs : Logs) (name : String) : (logs.ask name).ranks = logs.ranks := rfl

@[simp] theorem ranks_write (logs : Logs) (record : LogRecord) :
    (logs.write record).ranks = logs.ranks := rfl

/-- Every remembered decision is the one to which the present `ranks` lead, from what was known when
it was taken. -/
structure Settled (logs : Logs) : Prop where
  covers : Log.Covers logs.known logs.ranks
  decided : ∀ name rank decision, ((name, rank), decision) ∈ logs.decisions →
    ∃ known, Log.Covers known logs.ranks ∧
      decision = Log.letsThrough known logs.ranks name rank

theorem settled_start : start.Settled where
  covers := by
    intro name hne
    left
    by_contra hname
    exact hne (if_neg hname)
  decided := by simp [start]

theorem Settled.ask (h : logs.Settled) (name : String) : (logs.ask name).Settled :=
  ⟨h.covers.ask name, h.decided⟩

theorem Settled.setRank (h : logs.Settled) (name : String) (rank : Int) :
    (logs.setRank name rank).Settled :=
  ⟨h.covers.setRank name rank, by simp [Logs.setRank]⟩

/-- `decide` gives what the present `ranks` lead to, whether it is remembered or not. -/
theorem Settled.decide_eq (h : logs.Settled) (name : String) (rank : Int) :
    ∃ known, Log.Covers known logs.ranks ∧
      logs.decide name rank = Log.letsThrough known logs.ranks name rank := by
  unfold decide
  cases hlookup : logs.decisions.lookup (name, rank) with
  | none => exact ⟨logs.known, h.covers, rfl⟩
  | some decision =>
    obtain ⟨before, behind, heq, -⟩ := List.lookup_eq_some_iff.1 hlookup
    refine h.decided name rank decision ?_
    rw [heq]
    simp

theorem Settled.write (h : logs.Settled) (record : LogRecord) : (logs.write record).Settled where
  covers := h.covers.ask record.log
  decided := by
    intro name rank decision hmem
    rcases List.mem_cons.1 hmem with heq | hmem
    · injection heq with hkey hdecision
      injection hkey with hname hrank
      rw [hname, hrank, hdecision]
      exact (h.ask record.log).decide_eq record.log record.rank
    · exact h.decided name rank decision hmem

theorem Settled.deliver (h : logs.Settled) (records : List LogRecord) :
    (logs.deliver records).logs.Settled := by
  induction records generalizing logs with
  | nil => exact h
  | cons record rest ih =>
    rw [Logs.deliver]
    split
    · split
      · exact h.write record
      · exact ih (h.write record)
    · exact ih (h.write record)

theorem Settled.attach (h : logs.Settled) (capture : Option Capture) :
    { logs with capture }.Settled := ⟨h.covers, h.decided⟩

/-- A capture that begins gives its log `c.rank`, unless the log has a rank already that lets
everything through that is captured. -/
theorem begun_cases (c : Capture) (logs : Logs) :
    ((logs.ranks c.log = 0 ∨ c.rank < logs.ranks c.log) ∧
      c.begun logs = { logs.ask c.log with capture := some c }.setRank c.log c.rank) ∨
    ((logs.ranks c.log ≠ 0 ∧ logs.ranks c.log ≤ c.rank) ∧
      c.begun logs = { logs.ask c.log with capture := some c }) := by
  have hcond : ((logs.ranks c.log = 0 || logs.ranks c.log > c.rank) = true) ↔
      (logs.ranks c.log = 0 ∨ c.rank < logs.ranks c.log) := by simp
  by_cases hown : logs.ranks c.log = 0 ∨ c.rank < logs.ranks c.log
  · exact .inl ⟨hown, if_pos (hcond.2 hown)⟩
  · exact .inr ⟨by omega, if_neg (hown ∘ hcond.1)⟩

theorem Settled.begun (h : logs.Settled) (c : Capture) : (c.begun logs).Settled := by
  have hasked := (h.ask c.log).attach (some c)
  rcases begun_cases c logs with ⟨-, heq⟩ | ⟨-, heq⟩
  · rw [heq]
    exact hasked.setRank c.log c.rank
  · rw [heq]
    exact hasked

theorem Settled.run (h : logs.Settled) (c : Capture) (records : List LogRecord) :
    (c.run logs records).logs.Settled :=
  (((h.begun c).deliver records).attach none).setRank c.log (logs.ranks c.log)

inductive Step where
  | ask (name : String)
  | setRank (name : String) (rank : Int)
  | write (record : LogRecord)
  | capture (c : Capture) (records : List LogRecord)

def apply (logs : Logs) : Step → Logs
  | .ask name => logs.ask name
  | .setRank name rank => logs.setRank name rank
  | .write record => logs.write record
  | .capture c records => (c.run logs records).logs

def after (steps : List Step) : Logs := steps.foldl apply start

theorem Settled.apply (h : logs.Settled) (step : Step) : (logs.apply step).Settled := by
  cases step with
  | ask name => exact h.ask name
  | setRank name rank => exact h.setRank name rank
  | write record => exact h.write record
  | capture c records => exact h.run c records

theorem settled_after (steps : List Step) : (after steps).Settled := by
  suffices hfrom : ∀ logs : Logs, logs.Settled → (steps.foldl Logs.apply logs).Settled from
    hfrom start settled_start
  induction steps with
  | nil => exact fun logs h => h
  | cons step rest ih => exact fun logs h => ih (logs.apply step) (h.apply step)

/-! ## 4. Delivery -/

theorem deliver_ranks (logs : Logs) (records : List LogRecord) :
    (logs.deliver records).logs.ranks = logs.ranks := by
  induction records generalizing logs with
  | nil => rfl
  | cons record rest ih =>
    rw [Logs.deliver]
    split
    · split
      · rfl
      · exact ih (logs.write record)
    · exact ih (logs.write record)

theorem deliver_of_no_capture (h : logs.capture = none) (records : List LogRecord) :
    (logs.deliver records).events = [] := by
  induction records generalizing logs with
  | nil => rfl
  | cons record rest ih =>
    have htakes : logs.takes record = false := by
      simp [takes, ask, h]
    rw [Logs.deliver, htakes]
    exact ih h

end Logs

/-- What the console gets of `record`, if its text can be filled. -/
def LogRecord.event? (record : LogRecord) : Option (String × String) :=
  match fillTemplate record.template record.args with
  | .error _ => none
  | .ok text => some (rankWord record.rank, text)

namespace Capture

variable {logs : Logs} {c : Capture} {record : LogRecord}

/-- `c` is the capture of `logs`, and no log within its own has a rank. -/
structure UnderWay (c : Capture) (logs : Logs) : Prop where
  settled : logs.Settled
  capture : logs.capture = some c
  known : c.log ∈ logs.known
  bare : Log.Bare c.log logs.ranks

theorem UnderWay.write (h : c.UnderWay logs) (record : LogRecord) :
    c.UnderWay (logs.write record) :=
  ⟨h.settled.write record, h.capture, List.mem_cons_of_mem record.log h.known, h.bare⟩

theorem underWay_begun (h : logs.Settled) (hbare : Log.Bare c.log logs.ranks) :
    c.UnderWay (c.begun logs) := by
  have hsettled := h.begun c
  rcases Logs.begun_cases c logs with ⟨-, heq⟩ | ⟨-, heq⟩ <;> rw [heq] at hsettled ⊢
  · refine ⟨hsettled, rfl, List.mem_cons_self, fun name hwithin hne => ?_⟩
    exact (Log.setRank_of_ne c.rank hne).trans (hbare name hwithin hne)
  · exact ⟨hsettled, rfl, List.mem_cons_self, hbare⟩

/-- The console gets `record`, where logs have these `ranks`. -/
def Gets (c : Capture) (ranks : Log.Ranks) (record : LogRecord) : Prop :=
  0 < record.rank ∧ Log.topRank ranks c.log ≤ record.rank ∧ c.rank ≤ record.rank

instance (c : Capture) (ranks : Log.Ranks) (record : LogRecord) : Decidable (c.Gets ranks record) :=
  inferInstanceAs (Decidable (_ ∧ _))

theorem UnderWay.reached (h : c.UnderWay logs) (hpart : Log.IsPart c.log)
    (hwithin : Log.Within c.log record.log) :
    (Log.chain (record.log :: logs.known) record.log).contains c.log = true := by
  obtain ⟨inner, hchain, -, houter⟩ := Log.chain_of_within (record.log :: logs.known) hpart hwithin
  have hmem := houter (.inl (List.mem_cons_of_mem record.log h.known))
  simp [hchain, hmem]

theorem UnderWay.takes_iff (h : c.UnderWay logs) (hpart : Log.IsPart c.log)
    (hwithin : Log.Within c.log record.log) :
    logs.takes record = true ↔ c.Gets logs.ranks record := by
  obtain ⟨known, hcovers, hdecide⟩ := (h.settled.ask record.log).decide_eq record.log record.rank
  rw [Logs.ranks_ask] at hcovers hdecide
  rw [Log.letsThrough_of_within hpart h.bare hcovers hwithin] at hdecide
  show ((logs.ask record.log).decide record.log record.rank &&
    logs.capture.any fun c =>
      (Log.chain (record.log :: logs.known) record.log).contains c.log && c.rank ≤ record.rank) =
    true ↔ _
  rw [hdecide, h.capture, Option.any_some, h.reached hpart hwithin]
  simp [Gets, and_assoc]

/-- **While a capture is under way, the console gets the records that its log lets through**, `Gets`
says which, in turn, up to one whose text can not be filled. -/
theorem UnderWay.events_deliver (h : c.UnderWay logs) (hpart : Log.IsPart c.log)
    (records : List LogRecord) (hwithin : ∀ record ∈ records, Log.Within c.log record.log) :
    (logs.deliver records).events.map some =
      ((records.filter (c.Gets logs.ranks ·)).map LogRecord.event?).takeWhile Option.isSome := by
  induction records generalizing logs with
  | nil => rfl
  | cons record rest ih =>
    have hrest := ih (h.write record) fun other hmem => hwithin other (List.mem_cons_of_mem _ hmem)
    have htakes := h.takes_iff hpart (hwithin record List.mem_cons_self)
    rw [Logs.ranks_write] at hrest
    rw [Logs.deliver]
    by_cases hgets : c.Gets logs.ranks record
    · rw [if_pos (htakes.2 hgets), List.filter_cons_of_pos (by simpa using hgets), List.map_cons]
      cases hfill : fillTemplate record.template record.args with
      | error failure => simp [LogRecord.event?, hfill]
      | ok text => simp [LogRecord.event?, hfill, hrest]
    · rw [if_neg (hgets ∘ htakes.1), List.filter_cons_of_neg (by simpa using hgets)]
      exact hrest

/-! ## 5. Before and after -/

theorem ranks_run (c : Capture) (logs : Logs) (records : List LogRecord) :
    (c.run logs records).logs.ranks = logs.ranks := by
  show Log.setRank ((c.begun logs).deliver records).logs.ranks c.log (logs.ranks c.log) = _
  rw [Logs.deliver_ranks]
  funext name
  by_cases hname : name = c.log
  · rw [hname, Log.setRank_self]
  -- Only the rank of its own log was changed when the capture began.
  · rw [Log.setRank_of_ne _ hname]
    rcases Logs.begun_cases c logs with ⟨-, heq⟩ | ⟨-, heq⟩ <;> rw [heq]
    · exact Log.setRank_of_ne c.rank hname
    · rfl

theorem gets_begun_iff (hpart : Log.IsPart c.log) (hroot : logs.ranks "" = 30)
    (hrank : c.rank ≤ record.rank) :
    c.Gets (c.begun logs).ranks record ↔
      0 < record.rank ∧ (c.rank = 0 → 0 ≤ logs.ranks c.log → 30 ≤ record.rank) := by
  have hne : "" ≠ c.log := fun heq => hpart.1 heq.symm
  unfold Gets Log.topRank
  rcases Logs.begun_cases c logs with ⟨hown, heq⟩ | ⟨hown, heq⟩
  · have hlog : (c.begun logs).ranks c.log = c.rank := by
      rw [heq]
      exact if_pos rfl
    have hempty : (c.begun logs).ranks "" = 30 := by
      rw [heq]
      exact (if_neg hne).trans hroot
    rw [hlog, hempty]
    split <;> omega
  · have hlog : (c.begun logs).ranks = logs.ranks := by rw [heq]; rfl
    rw [hlog, hroot]
    split <;> omega

/-- The `kept` ones up to a failing one are all the `wanted` ones exactly if all of these are kept
and none of them fails. -/
theorem takeWhile_filter_eq_iff {α β : Type} {kept wanted : α → Prop} [DecidablePred kept]
    [DecidablePred wanted] (f : α → Option β) (l : List α) (hkept : ∀ a, kept a → wanted a) :
    ((l.filter (kept ·)).map f).takeWhile Option.isSome = (l.filter (wanted ·)).map f ↔
      ∀ a ∈ l, wanted a → kept a ∧ (f a).isSome := by
  constructor
  · intro heq
    -- What is taken is a part of what is kept, and that of what is wanted: so all three are equal.
    have hpart : (l.filter (kept ·)).Sublist (l.filter (wanted ·)) :=
      List.monotone_filter_right l fun a ha => by simpa using hkept a (by simpa using ha)
    have htaken := (List.takeWhile_prefix Option.isSome (l := (l.filter (kept ·)).map f)).sublist
    rw [heq] at htaken
    have hmaps := (hpart.map f).antisymm htaken
    have hfilter := hpart.eq_of_length (by simpa using congrArg List.length hmaps)
    rw [hfilter] at heq
    have hall := List.takeWhile_eq_self_iff.1 heq
    intro a ha hwanted
    have hmem : a ∈ l.filter (wanted ·) := List.mem_filter.2 ⟨ha, by simpa using hwanted⟩
    refine ⟨?_, hall (f a) (List.mem_map_of_mem hmem)⟩
    rw [← hfilter] at hmem
    simpa using (List.mem_filter.1 hmem).2
  · intro h
    have hfilter : l.filter (kept ·) = l.filter (wanted ·) := by
      refine List.filter_congr fun a ha => ?_
      rw [decide_eq_decide]
      exact ⟨hkept a, fun hw => (h a ha hw).1⟩
    rw [hfilter]
    refine List.takeWhile_eq_self_iff.2 fun event hevent => ?_
    obtain ⟨a, ha, rfl⟩ := List.mem_map.1 hevent
    obtain ⟨hmem, hw⟩ := List.mem_filter.1 ha
    exact (h a hmem (by simpa using hw)).2

/-- **A capture gets the records of its rank or above**, in turn and each once, exactly if each of
them is of a rank above zero, can have its text filled and, where `c.rank` is zero and `c.log` has
no rank below that, is a warning at least. However that may be, the logs have their `ranks` back
afterwards, and what is written `later` is not got. -/
theorem events_run_iff (steps : List Logs.Step) (c : Capture) (records later : List LogRecord)
    (hpart : Log.IsPart c.log) (hroot : (Logs.after steps).ranks "" = 30)
    (hbare : Log.Bare c.log (Logs.after steps).ranks)
    (hwithin : ∀ record ∈ records, Log.Within c.log record.log) :
    ((c.run (Logs.after steps) records).events.map some =
        (records.filter (c.rank ≤ ·.rank)).map LogRecord.event? ↔
      ∀ record ∈ records, c.rank ≤ record.rank →
        0 < record.rank ∧
          (c.rank = 0 → 0 ≤ (Logs.after steps).ranks c.log → 30 ≤ record.rank) ∧
            record.event?.isSome) ∧
      (c.run (Logs.after steps) records).logs.ranks = (Logs.after steps).ranks ∧
        ((c.run (Logs.after steps) records).logs.deliver later).events = [] := by
  have hunder := underWay_begun (c := c) (Logs.settled_after steps) hbare
  have hevents := hunder.events_deliver hpart records hwithin
  refine ⟨?_, ranks_run c (Logs.after steps) records, Logs.deliver_of_no_capture rfl later⟩
  show ((c.begun (Logs.after steps)).deliver records).events.map some = _ ↔ _
  rw [hevents, takeWhile_filter_eq_iff _ records fun record hgets => hgets.2.2]
  refine forall₂_congr fun record _ => forall_congr' fun hrank => ?_
  rw [gets_begun_iff hpart hroot hrank, and_assoc]

/-- From warnings on, at a log that lets more through by its own rank and has decided so before. -/
theorem events_run_warnings :
    let steps : List Logs.Step := [.setRank "devterm" 10, .write ⟨"devterm.x", 20, "early", []⟩]
    let records : List LogRecord :=
      [⟨"devterm.x", 20, "hidden", []⟩, ⟨"devterm.x.y", 30, "shown", []⟩,
        ⟨"devterm", 40, "bad", []⟩]
    let run := (⟨"devterm", 30⟩ : Capture).run (Logs.after steps) records
    Log.IsPart "devterm" ∧ (Logs.after steps).ranks "" = 30 ∧
      Log.Bare "devterm" (Logs.after steps).ranks ∧
      (∀ record ∈ records, Log.Within "devterm" record.log) ∧
      run.events.map some = [some ("warn", "shown"), some ("error", "bad")] ∧
      run.logs.ranks "devterm" = 10 ∧
      (run.logs.deliver [⟨"devterm", 50, "late", []⟩]).events = [] := by
  intro steps records run
  have hpart : Log.IsPart "devterm" := by decide
  have hbare : Log.Bare "devterm" (Logs.after steps).ranks := fun name hwithin hne =>
    (Log.setRank_of_ne 10 hne).trans (if_neg (hwithin.ne_empty hpart))
  have hx : Log.Within "devterm" ("devterm" ++ "." ++ "x") := .further .self (by decide)
  have hy : Log.Within "devterm" ("devterm.x" ++ "." ++ "y") := .further hx (by decide)
  have hwithin : ∀ record ∈ records, Log.Within "devterm" record.log := by
    simpa [records] using ⟨hx, hy, Log.Within.self⟩
  obtain ⟨hevents, hranks, hlater⟩ := events_run_iff steps ⟨"devterm", 30⟩ records
    [⟨"devterm", 50, "late", []⟩] hpart rfl hbare hwithin
  refine ⟨hpart, rfl, hbare, hwithin, ?_, ?_, hlater⟩
  · refine (hevents.2 ?_).trans (by decide)
    simp [records]
    decide
  · rw [hranks]
    rfl

/-- A capture of rank zero takes from `devterm` the rank by which it let an information through. -/
theorem rank_zero_silences :
    ((⟨"devterm", 0⟩ : Capture).run (Logs.after [.setRank "devterm" 10])
        [⟨"devterm", 20, "m", []⟩]).events.map some ≠
      ([⟨"devterm", 20, "m", []⟩].filter ((0 : Int) ≤ ·.rank)).map LogRecord.event? := by
  decide

end Capture

end OverlayShell
