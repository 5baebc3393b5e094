import Mathlib.Data.List.DropRight
import Mathlib.Data.List.SplitBy
import OverlayShell.Console.Buffer

/-!
# What the console keeps

The console counts a message that repeats the one before it, and lets the oldest message go when
there is no room. It looks at nothing but the last message that it has kept. Still, what it has kept
are the last of the runs into which everything falls that was sent since it was cleared, and each of
them is counted in full.
-/

namespace OverlayShell

/-! ## 1. Runs -/

/-- A message as it is sent, before the console counts it. -/
structure Emission where
  kind : String
  content : String
  sentAt : Int

def Emission.said (e : Emission) : String × String := (e.kind, e.content)

def ConsoleMessage.said (m : ConsoleMessage) : String × String := (m.kind, m.content)

def Emission.alike (a b : Emission) : Bool := a.said == b.said

/-- The message for a run of emissions: `kind`, `content` and time of the first, and their
number. -/
def ConsoleMessage.ofRun? : List Emission → Option ConsoleMessage
  | [] => none
  | first :: later => some ⟨first.kind, first.content, first.sentAt, later.length + 1⟩

/-- The run-length encoding: a message for each of the longest runs of `alike` emissions. -/
def runMessages (sent : List Emission) : List ConsoleMessage :=
  (sent.splitBy Emission.alike).filterMap ConsoleMessage.ofRun?

variable {sent earlier run : List Emission} {e : Emission} {said : String × String}

-- The end of a list is where new emissions come in, so the runs are taken apart from there.
theorem exists_last_run (sent : List Emission) (said : String × String) :
    ∃ earlier run, sent = earlier ++ run ∧ (∀ x ∈ earlier.getLast?, x.said ≠ said) ∧
      ∀ x ∈ run, x.said = said := by
  refine ⟨sent.rdropWhile (·.said == said), sent.rtakeWhile (·.said == said),
    List.rdropWhile_append_rtakeWhile.symm, fun x hx => ?_, fun x hx => ?_⟩
  · obtain ⟨hne, rfl⟩ := List.mem_getLast?_eq_getLast hx
    simpa using List.rdropWhile_last_not _ _ hne
  · simpa using List.mem_rtakeWhile_imp hx

theorem runMessages_append (hearlier : ∀ x ∈ earlier.getLast?, x.said ≠ said)
    (hrun : ∀ x ∈ run, x.said = said) :
    runMessages (earlier ++ run) = runMessages earlier ++ (ConsoleMessage.ofRun? run).toList := by
  cases run with
  | nil => simp [ConsoleMessage.ofRun?]
  | cons first later =>
    have hchain : (first :: later).IsChain fun x y => Emission.alike x y := by
      apply List.Pairwise.isChain
      apply List.pairwise_of_forall_mem_list
      intro x hx y hy
      rw [Emission.alike, hrun x hx, hrun y hy, beq_self_eq_true]
    have hsplit : (earlier ++ first :: later).splitBy Emission.alike =
        earlier.splitBy Emission.alike ++ [first :: later] := by
      rw [List.splitBy_append_cons, List.splitBy_of_isChain (List.cons_ne_nil _ _) hchain]
      intro x hx
      rw [Emission.alike, hrun first List.mem_cons_self]
      exact beq_false_of_ne (hearlier x hx)
    rw [runMessages, hsplit, List.filterMap_append]
    rfl

/-- The last of `runMessages` says what was said last. -/
theorem getLast?_runMessages (sent : List Emission) :
    (runMessages sent).getLast?.map ConsoleMessage.said = sent.getLast?.map Emission.said := by
  rcases List.eq_nil_or_concat' sent with rfl | ⟨before, last, rfl⟩
  · rfl
  obtain ⟨earlier, run, hsplit, hearlier, hrun⟩ := exists_last_run (before ++ [last]) last.said
  cases run with
  | nil =>
    rw [List.append_nil] at hsplit
    exact absurd rfl (hearlier last (by rw [← hsplit, List.getLast?_concat]; rfl))
  | cons first later =>
    have hfirst : first.said = last.said := hrun first List.mem_cons_self
    rw [hsplit, runMessages_append hearlier hrun, ← hsplit]
    show ((runMessages earlier ++ [_]).getLast?).map ConsoleMessage.said = _
    rw [List.getLast?_concat, List.getLast?_concat, Option.map_some, Option.map_some, ← hfirst]
    rfl

/-- An emission that repeats the last of `runMessages` is counted there. -/
theorem runMessages_again {before : List ConsoleMessage} {m : ConsoleMessage}
    (h : runMessages sent = before ++ [m]) (hsaid : m.said = e.said) :
    runMessages (sent ++ [e]) = before ++ [{ m with count := m.count + 1 }] := by
  -- -- What is said now goes on with the last run, which the last message counts.
  obtain ⟨earlier, run, rfl, hearlier, hrun⟩ := exists_last_run sent e.said
  have hrun' : ∀ x ∈ run ++ [e], x.said = e.said := by
    intro x hx
    rcases List.mem_append.1 hx with hx | hx
    · exact hrun x hx
    · rw [List.mem_singleton.1 hx]
  cases run with
  | nil =>
    -- The last message would be about something said before, which is not what is said now.
    have hlast := getLast?_runMessages (earlier ++ [])
    rw [h, List.getLast?_concat, List.append_nil, Option.map_some, eq_comm,
      Option.map_eq_some_iff] at hlast
    obtain ⟨x, hx, hxsaid⟩ := hlast
    exact absurd (hxsaid.trans hsaid) (hearlier x hx)
  | cons first later =>
    rw [runMessages_append hearlier hrun] at h
    obtain ⟨rfl, hm⟩ := List.append_inj' h rfl
    obtain rfl := List.singleton_inj.1 hm
    rw [List.append_assoc, runMessages_append hearlier hrun']
    show runMessages earlier ++ [⟨_, _, _, (later ++ [e]).length + 1⟩] = _
    rw [List.length_append]
    rfl

/-- Any other emission adds a message of its own to `runMessages`. -/
theorem runMessages_new (h : ∀ m ∈ (runMessages sent).getLast?, m.said ≠ e.said) :
    runMessages (sent ++ [e]) = runMessages sent ++ [⟨e.kind, e.content, e.sentAt, 1⟩] := by
  have hearlier : ∀ x ∈ sent.getLast?, x.said ≠ e.said := by
    intro x hx hsaid
    have hlast := getLast?_runMessages sent
    rw [Option.mem_def.1 hx, Option.map_some, Option.map_eq_some_iff] at hlast
    obtain ⟨m, hm, hmsaid⟩ := hlast
    exact h m hm (hmsaid.trans hsaid)
  have hrun : ∀ x ∈ [e], x.said = e.said := by
    intro x hx
    rw [List.mem_singleton.1 hx]
  exact runMessages_append hearlier hrun

/-! ## 2. The console -/

namespace ConsoleBuffer

variable {b : ConsoleBuffer} {limit : Nat}

/-- The console has kept the last of `runMessages sent`, as many as `limit` allows. -/
structure Keeps (b : ConsoleBuffer) (limit : Nat) (sent : List Emission) : Prop where
  limit_eq : b.limit = limit
  messages_eq : b.messages = (runMessages sent).rtake limit

/-- Dropping the oldest with `rtake` before one more comes in makes no difference to what is
kept. -/
theorem rtake_rtake_concat {α : Type} (l : List α) (a : α) (n : Nat) :
    (l.rtake n ++ [a]).rtake n = (l ++ [a]).rtake n := by
  cases n with
  | zero => rw [List.rtake_zero, List.rtake_zero]
  | succ n =>
    rw [List.rtake_concat_succ, List.rtake_concat_succ]
    simp only [List.rtake_eq_reverse_take_reverse, List.reverse_reverse, List.take_take]
    rw [Nat.min_eq_left (Nat.le_succ n)]

theorem Keeps.push (h : b.Keeps limit sent) (m : ConsoleMessage)
    (hnew : runMessages (sent ++ [e]) = runMessages sent ++ [m]) :
    (b.push m).Keeps limit (sent ++ [e]) := by
  refine ⟨h.limit_eq, ?_⟩
  show (b.messages ++ [m]).rtake b.limit = _
  rw [h.limit_eq, h.messages_eq, rtake_rtake_concat, hnew]

theorem Keeps.send (h : b.Keeps limit sent) (e : Emission) :
    (b.send e.kind e.content e.sentAt).Keeps limit (sent ++ [e]) := by
  cases limit with
  | zero =>
    -- There is no room for anything, and nothing to compare with.
    have hempty : b.messages = [] := by rw [h.messages_eq, List.rtake_zero]
    refine ⟨?_, ?_⟩ <;> simp [ConsoleBuffer.send, hempty, ConsoleBuffer.push, h.limit_eq]
  | succ n =>
    rcases List.eq_nil_or_concat' (runMessages sent) with hnone | ⟨before, last, hsome⟩
    · have hempty : b.messages = [] := by rw [h.messages_eq, hnone, List.rtake_nil]
      have hsend : b.send e.kind e.content e.sentAt =
          b.push ⟨e.kind, e.content, e.sentAt, 1⟩ := by
        rw [ConsoleBuffer.send, hempty]
        rfl
      rw [hsend]
      exact h.push _ (runMessages_new (by simp [hnone]))
    · have hmessages : b.messages = before.rtake n ++ [last] := by
        rw [h.messages_eq, hsome, List.rtake_concat_succ]
      rw [ConsoleBuffer.send, hmessages, List.getLast?_concat]
      dsimp only
      split
      · rename_i hsame
        have hsaid : last.said = e.said := by simpa [ConsoleMessage.said, Emission.said] using hsame
        refine ⟨h.limit_eq, ?_⟩
        show (before.rtake n ++ [last]).dropLast ++ [_] = _
        rw [runMessages_again hsome hsaid, List.rtake_concat_succ, List.dropLast_concat]
      · rename_i hother
        refine h.push _ (runMessages_new ?_)
        rw [hsome, List.getLast?_concat]
        rintro m ⟨⟩ hsaid
        exact hother (by simpa [ConsoleMessage.said, Emission.said] using hsaid)

end ConsoleBuffer

/-! ## 3. Runs of calls -/

inductive ConsoleCall where
  | emit (kind : String) (args : List Document) (now : Int)
  | clear

/-- What a call sends: the values as texts, with blanks between them. -/
def ConsoleCall.emission? : ConsoleCall → Option Emission
  | .emit kind args now => some ⟨kind, " ".intercalate (args.map Document.asText), now⟩
  | .clear => none

/-- Everything that was sent since the console was last cleared. -/
def sentSinceClear (calls : List ConsoleCall) : List Emission :=
  (calls.rtakeWhile fun call => call.emission?.isSome).filterMap ConsoleCall.emission?

theorem sentSinceClear_concat (calls : List ConsoleCall) (call : ConsoleCall) :
    sentSinceClear (calls ++ [call]) =
      match call.emission? with
      | some e => sentSinceClear calls ++ [e]
      | none => [] := by
  unfold sentSinceClear
  cases h : call.emission? with
  | some e =>
    rw [List.rtakeWhile_concat_pos _ _ _ (by rw [h]; rfl), List.filterMap_append]
    simp [h]
  | none =>
    rw [List.rtakeWhile_concat_neg _ _ _ (by rw [h]; exact Bool.false_ne_true)]
    rfl

theorem Text.join_eq_intercalate (sep : String) (parts : List String) :
    Text.join sep parts = sep.intercalate parts := by
  induction parts with
  | nil => rfl
  | cons first rest ih =>
    cases rest with
    | nil => simp [Text.join_singleton]
    | cons second rest => rw [Text.join_cons_cons, String.intercalate_cons_cons, ih]

namespace ConsoleBuffer

def told (b : ConsoleBuffer) : ConsoleCall → ConsoleBuffer
  | .emit kind args now => b.emit kind args now
  | .clear => b.clear

theorem Keeps.told {b : ConsoleBuffer} {limit : Nat} {calls : List ConsoleCall}
    (h : b.Keeps limit (sentSinceClear calls)) (call : ConsoleCall) :
    (b.told call).Keeps limit (sentSinceClear (calls ++ [call])) := by
  rw [sentSinceClear_concat]
  cases call with
  | emit kind args now =>
    show (b.send kind (Text.join " " (args.map Document.asText)) now).Keeps limit _
    rw [Text.join_eq_intercalate]
    exact h.send ⟨kind, " ".intercalate (args.map Document.asText), now⟩
  | clear => exact ⟨h.limit_eq, (List.rtake_nil limit).symm⟩

theorem keeps_after (limit : Nat) (calls : List ConsoleCall) :
    (calls.foldl told (empty limit)).Keeps limit (sentSinceClear calls) := by
  induction calls using List.reverseRecOn with
  | nil => exact ⟨rfl, (List.rtake_nil limit).symm⟩
  | append_singleton calls call ih =>
    rw [List.foldl_append]
    exact ih.told call

/-- **The console is a bounded run-length encoding.** After any `calls`, its `messages` are the last
`runMessages` of what was `sentSinceClear`, as many as `limit` allows and in order: each has the
kind and content of its run, the time of its first emission, and the full length as its count. -/
theorem messages_eq_last_runs (limit : Nat) (calls : List ConsoleCall) :
    (calls.foldl told (empty limit)).messages = (runMessages (sentSinceClear calls)).rtake limit :=
  (keeps_after limit calls).messages_eq

end ConsoleBuffer

end OverlayShell
