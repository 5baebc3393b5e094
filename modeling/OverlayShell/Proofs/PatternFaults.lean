import OverlayShell.Search.Result
import Mathlib.Data.List.TakeWhile

/-!
# Faults of patterns

A text that is no pattern finds nothing, whatever is wrong with it, but for two faults. A number of
repetitions that is too large to be counted and modes that exclude each other are no faults of
syntax, and a search passes them on. Each of the two stands in the text: the reader that comes to it
knows what it has read last, and what it has read of the modes.
-/

namespace OverlayShell

namespace PatternText

/-! ## 1. What a text holds -/

def braces (low : List Char) : Option (List Char) → List Char
  | none => '\x7b' :: (low ++ ['\x7d'])
  | some high => '\x7b' :: (low ++ ',' :: (high ++ ['\x7d']))

/-- The `digits` stand for a number beyond `Width.unlimited`, or there are more of them than
`integerDigitLimit`. -/
def IsTooLarge (digits : List Char) : Prop :=
  (∀ d ∈ digits, isDecimal d = true) ∧
    (Width.unlimited ≤ valueIn 10 digits ∨ Text.integerDigitLimit < digits.length)

/-- Somewhere in the text a repetition is asked for in `braces`, and one of its numbers
`IsTooLarge`. -/
def RepeatsTooOften (text : List Char) : Prop :=
  ∃ low high, braces low high <:+: text ∧ (IsTooLarge low ∨ ∃ digits ∈ high, IsTooLarge digits)

/-- Somewhere in the text `mode` is switched on for the whole pattern, as by `(?a)`. -/
def SwitchesOn (mode : Char) (text : List Char) : Prop :=
  ∃ letters, '(' :: '?' :: (letters ++ [')']) <:+: text ∧ mode ∈ letters ∧
    ∀ c ∈ letters, isModeLetter c = true

/-- What an error says about the text. Nothing is claimed of `malformed`. -/
def Accounts (text : List Char) : PatternError → Prop
  | .malformed => True
  | .repetitionTooLarge | .tooManyDigits _ => RepeatsTooOften text
  | .clashingModes => SwitchesOn 'a' text ∧ SwitchesOn 'u' text

/-! ## 2. Readers -/

/-- The reader of `text` has just read `before`, so that with `s.rest` it is the end of the text.
Its `modes` have been switched on in the text. -/
structure Behind (text before : List Char) (s : ReadState) : Prop where
  rest : before ++ s.rest.flatMap PatternToken.chars <:+ text
  modes : ∀ mode ∈ s.modes, SwitchesOn mode text

/-- From a state with `P` the reader leads to a result and a state with `Q`, or fails with an error
that the text `Accounts` for. The rules for `pure`, `bind` and branches follow. -/
def Leads (text : List Char) {α : Type} (P : ReadState → Prop) (r : Reader α)
    (Q : α → ReadState → Prop) : Prop :=
  ∀ s, P s →
    match r.run s with
    | .ok (a, s') => Q a s'
    | .error e => Accounts text e

/-- Wherever it starts in the text, the reader stays in it, in the sense of `Behind`. -/
def Keeps (text : List Char) {α : Type} (r : Reader α) : Prop :=
  Leads text (Behind text []) r fun _ => Behind text []

variable {text before : List Char} {α β : Type} {P : ReadState → Prop}
  {Q : α → ReadState → Prop} {R : β → ReadState → Prop}

theorem Behind.forget {s : ReadState} (h : Behind text before s) : Behind text [] s :=
  ⟨(List.suffix_append before _).trans h.rest, h.modes⟩

theorem Behind.inText {s : ReadState} (h : Behind text before s) : before <:+: text :=
  (List.prefix_append before _).isInfix.trans h.rest.isInfix

theorem Behind.further {s s' : ReadState} (h : Behind text before s) (hrest : s'.rest <:+ s.rest)
    (hmodes : s'.modes = s.modes) : Behind text [] s' := by
  refine ⟨?_, hmodes ▸ h.modes⟩
  obtain ⟨between, hbetween⟩ := hrest
  have hleft := h.forget.rest
  rw [← hbetween, List.flatMap_append] at hleft
  exact (List.suffix_append _ _).trans hleft

/-! A step after another, and the steps that readers are made of. -/

theorem Leads.bind {r : Reader α} {f : α → Reader β} (hr : Leads text P r Q)
    (hf : ∀ a, Leads text (Q a) (f a) R) : Leads text P (r >>= f) R := by
  intro s hs
  have hfirst := hr s hs
  rw [StateT.run_bind]
  cases hrun : r.run s with
  | error e => rwa [hrun] at hfirst
  | ok done =>
    rw [hrun] at hfirst
    exact hf done.1 done.2 hfirst

theorem Leads.mono {P' : ReadState → Prop} {Q' : α → ReadState → Prop} {r : Reader α}
    (hr : Leads text P r Q) (hP : ∀ s, P' s → P s) (hQ : ∀ a s, Q a s → Q' a s) :
    Leads text P' r Q' := by
  intro s hs
  have h := hr s (hP s hs)
  split at h
  · exact hQ _ _ h
  · exact h

theorem Leads.pure {a : α} (h : ∀ s, P s → Q a s) : Leads text P (Pure.pure a : Reader α) Q := h

theorem Leads.malformed : Leads text P (malformed : Reader α) Q := fun _ _ => trivial

theorem Leads.throw {e : PatternError} (h : ∀ s, P s → Accounts text e) :
    Leads text P (MonadExcept.throw e : Reader α) Q := h

theorem Leads.get : Leads text P (get : Reader ReadState) fun a s => a = s ∧ P s :=
  fun _ hs => ⟨rfl, hs⟩

theorem Leads.get_bind {f : ReadState → Reader β}
    (h : ∀ a, P a → Leads text (· = a) (f a) R) : Leads text P (MonadState.get >>= f) R :=
  fun s hs => h s hs s rfl

theorem Leads.given {φ : Prop} {r : Reader α} (h : φ → Leads text P r Q) :
    Leads text (fun s => P s ∧ φ) r Q := fun s hs => h hs.2 s hs.1

/-- Two branches that go on alike with `f`. -/
theorem Leads.join {c : Prop} [Decidable c] {r r' : Reader α} {f : α → Reader β}
    (h : Leads text P (if c then r else r') Q) (hf : ∀ a, Leads text (Q a) (f a) R) :
    Leads text P (if c then r >>= f else r' >>= f) R := by
  split <;> rename_i hc
  · exact Leads.bind (by rwa [if_pos hc] at h) hf
  · exact Leads.bind (by rwa [if_neg hc] at h) hf

theorem Leads.set {s' : ReadState} {Q : ReadState → Prop} (h : ∀ s, P s → Q s') :
    Leads text P (set s' : Reader PUnit) fun _ => Q := h

theorem Leads.modify {f : ReadState → ReadState} {Q : ReadState → Prop} (h : ∀ s, P s → Q (f s)) :
    Leads text P (modify f : Reader Unit) fun _ => Q := h

theorem Leads.ite {c : Prop} [Decidable c] {r r' : Reader α} (h : c → Leads text P r Q)
    (h' : ¬ c → Leads text P r' Q) : Leads text P (if c then r else r') Q := by
  split
  · exact h ‹c›
  · exact h' ‹¬ c›

theorem Leads.unless {c : Prop} [Decidable c] {f : PUnit → Reader α}
    (h : ¬ c → Leads text P (f ⟨⟩) Q) :
    Leads text P (if c then PatternText.malformed >>= f else f ⟨⟩) Q :=
  .ite (fun _ _ _ => trivial) h

/-! ## 3. Tokens -/

theorem leads_take {φ : PatternToken → Prop} :
    Leads text (fun s => Behind text before s ∧ ∀ token, s.rest.head? = some token → φ token) take
      fun token s => Behind text (before ++ token.chars) s ∧ φ token := by
  rintro ⟨rest, _⟩ ⟨hs, hnext⟩
  cases rest with
  | nil => trivial
  | cons token rest =>
    have htoken := hnext token rfl
    cases token with
    | dangling => trivial
    | _ =>
      refine ⟨⟨?_, hs.modes⟩, htoken⟩
      rw [List.append_assoc]
      exact hs.rest

theorem leads_takeAny : Leads text (Behind text before) take fun token =>
    Behind text (before ++ token.chars) :=
  (leads_take (φ := fun _ => True)).mono (fun _ hs => ⟨hs, fun _ _ => trivial⟩) fun _ _ h => h.1

theorem leads_nextIs (c : Char) : Leads text (Behind text before) (nextIs c) fun next s =>
    Behind text before s ∧ (next = true → s.rest.head? = some (.plain c)) :=
  fun _ hs => ⟨hs, fun h => of_decide_eq_true h⟩

theorem leads_accept (c : Char) : Leads text (Behind text before) (accept c) fun taken s =>
    Behind text (if taken then before ++ [c] else before) s := by
  refine (leads_nextIs c).bind fun next => ?_
  cases next with
  | false => exact .pure fun _ h => h.1
  | true =>
    have htake : Leads text
        (fun s => Behind text before s ∧ ∀ token, s.rest.head? = some token → token = .plain c) take
        fun token s => Behind text (before ++ token.chars) s ∧ token = .plain c := leads_take
    refine (htake.mono (fun s hs => ⟨hs.1, fun token ht => ?_⟩) fun _ _ h => h).bind fun token => ?_
    · rw [hs.2 rfl] at ht
      exact (Option.some.inj ht).symm
    · refine .pure fun s hs => ?_
      obtain ⟨hs, rfl⟩ := hs
      exact hs

theorem leads_expect (c : Char) : Leads text (Behind text before) (expect c) fun _ =>
    Behind text (before ++ [c]) := by
  refine (leads_accept c).bind fun taken => ?_
  cases taken with
  | false => exact .malformed
  | true => exact .pure fun _ h => h

theorem leads_takePlain : Leads text (Behind text before) takePlain fun c =>
    Behind text (before ++ [c]) := by
  refine leads_takeAny.bind fun token => ?_
  cases token with
  | plain c => exact .pure fun _ h => h
  | _ => exact .malformed

theorem leads_takeSome (most : Nat) (p : Char → Bool) :
    Leads text (Behind text before) (takeSome most p) fun found s =>
      Behind text (before ++ found) s ∧ ∀ c ∈ found, p c = true := by
  intro s hs
  show Behind text (before ++ _) _ ∧ _
  have hfound : (s.rest.take most).takeWhile (·.isPlain p) <+: s.rest :=
    (List.takeWhile_prefix _).trans (List.take_prefix most s.rest)
  refine ⟨⟨?_, hs.modes⟩, fun c hc => ?_⟩
  · have hrest := hs.rest
    rw [← List.prefix_iff_eq_append.1 hfound, List.flatMap_append, ← List.append_assoc] at hrest
    exact hrest
  · obtain ⟨token, htoken, hc⟩ := List.mem_flatMap.1 hc
    have hplain := List.mem_takeWhile_imp htoken
    cases token with
    | plain d => exact (List.mem_singleton.1 hc) ▸ hplain
    | _ => cases hplain

theorem keeps_takeUntil (last : Char) : Keeps text (takeUntil last) := by
  refine Leads.get.bind fun a => .ite (fun _ => .malformed) fun _ => ?_
  refine Leads.bind (.set fun s hs => ?_) fun _ => .pure fun _ h => h
  obtain ⟨rfl, hs⟩ := hs
  exact hs.further ((List.drop_suffix _ _).trans (List.drop_suffix _ _)) rfl

theorem keeps_skipThrough (last : Char) (mayEnd : Bool) : Keeps text (skipThrough last mayEnd) := by
  refine Leads.get.bind fun a => .ite (fun _ => .malformed) fun _ => .set fun s hs => ?_
  obtain ⟨rfl, hs⟩ := hs
  exact hs.further ((List.drop_suffix _ _).trans (List.dropWhile_suffix _)) rfl

theorem Leads.keeps {r : Reader α} {after : α → List Char}
    (h : Leads text (Behind text []) r fun a => Behind text (after a)) : Keeps text r :=
  h.mono (fun _ hs => hs) fun _ _ => Behind.forget

theorem keeps_take : Keeps text take := leads_takeAny.keeps
theorem keeps_takePlain : Keeps text takePlain := leads_takePlain.keeps
theorem keeps_accept (c : Char) : Keeps text (accept c) :=
  (leads_accept c).mono (fun _ hs => hs) fun _ _ => Behind.forget
theorem keeps_expect (c : Char) : Keeps text (expect c) := (leads_expect c).keeps
theorem keeps_takeSome (most : Nat) (p : Char → Bool) : Keeps text (takeSome most p) :=
  (leads_takeSome most p).mono (fun _ hs => hs) fun _ _ h => h.1.forget

/-! ## 4. Escapes and sets -/

theorem Keeps.bind {r : Reader α} {f : α → Reader β} (hr : Keeps text r)
    (hf : ∀ a, Keeps text (f a)) : Keeps text (r >>= f) := Leads.bind hr hf

theorem Keeps.pure (a : α) : Keeps text (Pure.pure a : Reader α) := Leads.pure fun _ h => h

theorem keeps_malformed : Keeps text (malformed : Reader α) := Leads.malformed

theorem keeps_get : Keeps text (get : Reader ReadState) :=
  Leads.get.mono (fun _ hs => hs) fun _ _ h => h.2

theorem keeps_modify {f : ReadState → ReadState} (hrest : ∀ s, (f s).rest = s.rest)
    (hmodes : ∀ s, (f s).modes = s.modes) : Keeps text (modify f : Reader Unit) :=
  Leads.modify fun s hs => hs.further (hrest s ▸ List.suffix_refl _) (hmodes s)

theorem Keeps.ite {c : Prop} [Decidable c] {r r' : Reader α} (h : Keeps text r)
    (h' : Keeps text r') : Keeps text (if c then r else r') :=
  Leads.ite (fun _ => h) fun _ => h'

theorem Keeps.fallback {c : Prop} [Decidable c] {r r' : Reader α} (h' : Keeps text r')
    (h : Keeps text r' → Keeps text r) : Keeps text (if c then r else r') := .ite (h h') h'

theorem Keeps.unless {c : Prop} [Decidable c] {f : PUnit → Reader α} (h : Keeps text (f ⟨⟩)) :
    Keeps text (if c then PatternText.malformed >>= f else f ⟨⟩) := Leads.unless fun _ => h

theorem keeps_readHex (width : Nat) : Keeps text (readHex width) :=
  (keeps_takeSome _ _).bind fun _ => (Keeps.pure _).ite keeps_malformed

theorem keeps_readCode (c : Char) : Keeps text (readCode c) := by
  have hhex (width : Nat) : Keeps text (do return some (← readHex width)) :=
    (keeps_readHex width).bind fun _ => .pure _
  unfold readCode
  split
  · exact .pure _
  refine (hhex 2).ite ((hhex 4).ite ((hhex 8).ite ?_))
  refine Keeps.fallback ((Keeps.pure _).ite ((Keeps.pure _).ite (.pure _))) fun hrest => ?_
  refine (keeps_expect _).bind fun _ => (keeps_takeUntil _).bind fun name => ?_
  split
  · exact .pure _
  · exact keeps_malformed.bind fun _ => hrest

theorem keeps_readSetEscape (c : Char) : Keeps text (readSetEscape c) := by
  unfold readSetEscape
  refine (Keeps.pure _).ite ?_
  split
  · exact .pure _
  refine Keeps.ite ((keeps_takeSome _ _).bind fun _ => (Keeps.pure _).ite keeps_malformed) ?_
  refine (keeps_readCode c).bind fun found => ?_
  cases found with
  | none => exact keeps_malformed
  | some n => exact .pure _

theorem keeps_checkClosed (index : Nat) : Keeps text (checkClosed index) :=
  keeps_get.bind fun _ => keeps_malformed.ite (.pure _)

theorem keeps_checkBehind (index : Nat) : Keeps text (checkBehind index) := by
  refine keeps_get.bind fun s => ?_
  split
  · exact .pure _
  · exact (keeps_checkClosed index).bind fun _ => keeps_malformed.ite (.pure _)

theorem keeps_readReference (mode : PatternMode) (c : Char) :
    Keeps text (readReference mode c) := by
  have hgroup (index : Nat) : Keeps text (do
      if index > (← get).groups.length then malformed
      checkClosed index
      checkBehind index
      return Pattern.backref mode.folding index) :=
    keeps_get.bind fun _ => .unless <| (keeps_checkClosed _).bind fun _ =>
      (keeps_checkBehind _).bind fun _ => .pure _
  refine (keeps_takeSome _ _).bind fun second => .ite ?_ (hgroup _)
  refine (keeps_takeSome _ _).bind fun third => .ite ?_ (hgroup _)
  exact (Keeps.pure _).ite (keeps_malformed.bind fun _ => hgroup _)

theorem keeps_readEscape (mode : PatternMode) (c : Char) : Keeps text (readEscape mode c) := by
  unfold readEscape
  split
  iterate 4 exact .pure _
  · exact (keeps_takeSome _ _).bind fun _ => .pure _
  split
  · exact .pure _
  refine (keeps_readReference mode c).ite ((keeps_readCode c).bind fun found => ?_)
  cases found with
  | none => exact keeps_malformed
  | some n => exact .pure _

theorem keeps_readMember (token : PatternToken) : Keeps text (readMember token) := by
  cases token with
  | plain c => exact .pure _
  | escaped c => exact keeps_readSetEscape c
  | dangling => exact keeps_malformed

theorem keeps_readMembers (fuel : Nat) (items : List SetItem) :
    Keeps text (readMembers fuel items) := by
  induction fuel generalizing items with
  | zero => exact keeps_malformed
  | succ fuel ih =>
    refine keeps_take.bind fun token => (Keeps.pure _).ite ?_
    refine (keeps_readMember token).bind fun first => (keeps_accept _).bind fun ranged =>
      Keeps.ite ?_ (ih _)
    refine keeps_take.bind fun token => (Keeps.pure _).ite ?_
    refine (keeps_readMember token).bind fun last => ?_
    split
    · exact keeps_malformed.ite (ih _)
    · exact keeps_malformed

theorem keeps_readSet (mode : PatternMode) : Keeps text (readSet mode) :=
  (keeps_accept _).bind fun _ => keeps_get.bind fun _ =>
    (keeps_readMembers _ _).bind fun _ => .pure _

/-! ## 5. Repetitions -/

def openBraces (low : List Char) : Option (List Char) → List Char
  | none => '\x7b' :: low
  | some high => '\x7b' :: (low ++ ',' :: high)

theorem openBraces_append (low : List Char) (high : Option (List Char)) :
    openBraces low high ++ ['\x7d'] = braces low high := by
  cases high <;> simp [openBraces, braces]

/-- Digits that `countFault?` objects to are too large, and its fault is accounted for by any text
that `RepeatsTooOften`. -/
theorem isTooLarge_of_countFault {digits : List Char} {fault : PatternError}
    (hdigits : ∀ d ∈ digits, isDecimal d = true) (h : countFault? digits = some fault) :
    IsTooLarge digits ∧ ∀ text, RepeatsTooOften text → Accounts text fault := by
  unfold countFault? at h
  split_ifs at h with hlong hlarge <;> cases h
  · exact ⟨⟨hdigits, .inr hlong⟩, fun _ h => h⟩
  · exact ⟨⟨hdigits, .inl hlarge⟩, fun _ h => h⟩

/-- `readBraces` fails beyond syntax only with braces that stand in the text. -/
theorem leads_readBraces :
    Leads text (Behind text ['\x7b']) readBraces fun _ => Behind text [] := by
  refine Leads.get_bind fun start hstart => ?_
  have hfrom (s : ReadState) (hs : s = start) : Behind text ['\x7b'] s := hs ▸ hstart
  refine ((leads_nextIs _).mono hfrom fun _ _ h => h.1).bind fun closed => ?_
  refine Leads.ite (fun _ => .pure fun _ => Behind.forget) fun _ => ?_
  refine (leads_takeSome _ _).bind fun low => Leads.given fun hlow => ?_
  refine (leads_accept ',').bind fun ranged => ?_
  have hhigh : Leads text (Behind text (if ranged = true then ['\x7b'] ++ low ++ [','] else
        ['\x7b'] ++ low))
      (if ranged = true then takeSome start.rest.length isDecimal else Pure.pure low)
      fun high s => Behind text (openBraces low (if ranged = true then some high else none)) s ∧
        ((∀ d ∈ high, isDecimal d = true) ∧ (ranged = false → high = low)) := by
    cases ranged with
    | false => exact .pure fun s hs => ⟨hs, hlow, fun _ => rfl⟩
    | true =>
      refine (leads_takeSome _ _).mono (fun _ hs => hs) fun high s hs => ?_
      refine ⟨?_, hs.2, fun h => by cases h⟩
      simpa [openBraces] using hs.1
  refine Leads.join hhigh fun high => Leads.given fun ⟨hdigits, hsame⟩ => ?_
  refine (leads_accept '\x7d').bind fun taken => ?_
  cases taken with
  | false => exact Leads.bind (.set fun _ _ => hstart.forget) fun _ => .pure fun _ h => h
  | true =>
    show Leads text (Behind text (openBraces low _ ++ ['\x7d'])) _ _
    rw [openBraces_append]
    have hdone : Keeps text (if (if high.isEmpty = true then none else
        some (valueIn 10 high)).any (· < valueIn 10 low) = true then (do
          malformed
          return some (valueIn 10 low, if high.isEmpty = true then none else
            some (valueIn 10 high)))
        else return some (valueIn 10 low, if high.isEmpty = true then none else
          some (valueIn 10 high))) := .unless (.pure _)
    refine Leads.ite (fun h => by cases h) fun _ => ?_
    cases hfault : (countFault? low).or (countFault? high) with
    | none => exact hdone.mono (fun _ => Behind.forget) fun _ _ h => h
    | some fault =>
      refine Leads.get.bind fun s => .ite (fun _ => Leads.malformed.bind fun _ => hdone) fun _ => ?_
      refine Leads.bind (.throw fun s hs => ?_) fun _ => hdone
      rcases Option.or_eq_some_iff.1 hfault with hfault | ⟨-, hfault⟩
      · have hlarge := isTooLarge_of_countFault hlow hfault
        exact hlarge.2 _ ⟨low, _, hs.2.inText, .inl hlarge.1⟩
      · have hlarge := isTooLarge_of_countFault hdigits hfault
        refine hlarge.2 _ ⟨low, _, hs.2.inText, ?_⟩
        -- Without a comma the second number is the first one once more.
        cases ranged with
        | false => exact .inl (hsame rfl ▸ hlarge.1)
        | true => exact .inr ⟨high, rfl, hlarge.1⟩

theorem leads_readBounds (c : Char) (hc : c = '*' ∨ c = '+' ∨ c = '?' ∨ c = '\x7b') :
    Leads text (Behind text [c]) (readBounds c) fun _ => Behind text [] := by
  rcases hc with rfl | rfl | rfl | rfl
  iterate 3 exact .pure fun _ => Behind.forget
  exact leads_readBraces

theorem keeps_repeatLatest (bounds : Bounds) (items : List ReadItem) :
    Keeps text (repeatLatest bounds items) := by
  unfold repeatLatest
  split
  · exact keeps_malformed
  split
  · exact keeps_malformed
  refine (keeps_accept _).bind fun lazy => ?_
  have hmode : Keeps text (if lazy = true then Pure.pure false else accept '+') :=
    (Keeps.pure _).ite (keeps_accept _)
  exact Leads.join hmode fun _ =>
    (keeps_modify (by intro; rfl) (by intro; rfl)).bind fun _ => .pure _

/-! ## 6. Modes and groups -/

/-- `readModeLetters` reads mode letters up to a character that ends them, and returns both. -/
theorem leads_readModeLetters (stops : List Char) (fuel : Nat) (c : Char) :
    Leads text (Behind text (before ++ [c])) (readModeLetters stops fuel c) fun found s =>
      Behind text (before ++ found.1 ++ [found.2]) s ∧ ∀ l ∈ found.1, isModeLetter l = true := by
  induction fuel generalizing before c with
  | zero => exact .malformed
  | succ fuel ih =>
    rw [readModeLetters]
    refine Leads.unless fun hletter => ?_
    refine leads_takePlain.bind fun next => ?_
    have hc : isModeLetter c = true := by simpa using hletter
    refine .ite (fun _ => .pure fun s hs => ⟨hs, by simpa using hc⟩) fun _ => ?_
    refine (ih next).bind fun found => .pure fun s hs => ⟨?_, ?_⟩
    · simpa using hs.1
    · simpa [hc] using hs.2

/-- Letters that `readModes` finds closed by a parenthesis stand in the text behind `before`. -/
theorem leads_readModes (c : Char) :
    Leads text (Behind text (before ++ [c])) (readModes c) fun found s =>
      Behind text [] s ∧
        (found.2 = none → Behind text (before ++ found.1 ++ [')']) s ∧
          ∀ l ∈ found.1, isModeLetter l = true) := by
  refine Leads.get.bind fun start => ?_
  have hletters : Leads text (fun s => start = s ∧ Behind text (before ++ [c]) s)
      (if c = '-' then Pure.pure ([], '-')
        else readModeLetters [')', '-', ':'] (start.rest.length + 1) c)
      fun found s => Behind text (before ++ found.1 ++ [found.2]) s ∧
        ∀ l ∈ found.1, isModeLetter l = true := by
    refine .ite (fun hc => .pure fun s hs => ?_) fun _ =>
      (leads_readModeLetters _ _ c).mono (fun _ hs => hs.2) fun _ _ h => h
    subst hc
    simpa using hs.2
  refine Leads.join hletters fun found => Leads.given fun hmodes => ?_
  refine Leads.unless fun _ => ?_
  refine .ite (fun hstop => .pure fun s hs => ?_) fun _ => ?_
  · rw [hstop] at hs
    exact ⟨hs.forget, fun _ => ⟨hs, hmodes⟩⟩
  refine Leads.unless fun _ => ?_
  -- With letters to be switched off, the modes are for a part only.
  have hpart (off : List Char) : Leads text (Behind text []) (do
      if off.any (fun m => m = 'a' || m = 'u' || m = 't' || found.1.contains m) then malformed
      return (found.1, some (ModeChange.mk found.1 off))) fun found s =>
        Behind text [] s ∧ (found.2 = none → Behind text (before ++ found.1 ++ [')']) s ∧
          ∀ l ∈ found.1, isModeLetter l = true) := by
    refine Leads.unless fun _ => ?_
    refine .pure fun _ hs => ?_
    exact ⟨hs, nofun⟩
  have hforget (off : List Char) {before : List Char} : Leads text (Behind text before)
      (Pure.pure off : Reader (List Char)) fun _ => Behind text [] := .pure fun _ => Behind.forget
  refine .ite (fun _ => ?_) fun _ => (hforget []).bind hpart
  refine leads_takePlain.bind fun next => (leads_readModeLetters _ _ next).bind fun off => ?_
  exact Leads.given fun _ => (hforget off.1).bind hpart

theorem keeps_readName (last : Char) : Keeps text (readName last) :=
  (keeps_takeUntil last).bind fun _ => (Keeps.pure _).ite keeps_malformed

theorem keeps_openGroup (name : Option String) : Keeps text (openGroup name) := by
  refine Leads.get_bind fun start hstart => ?_
  cases name with
  | none =>
    exact Leads.bind (.set fun _ _ => ⟨hstart.rest, hstart.modes⟩) fun _ => .pure fun _ h => h
  | some name =>
    refine .ite (fun _ => .malformed) fun _ => ?_
    exact Leads.bind (.set fun _ _ => ⟨hstart.rest, hstart.modes⟩) fun _ => .pure fun _ h => h

theorem keeps_closeGroup (index : Nat) (body : Pattern) : Keeps text (closeGroup index body) :=
  keeps_modify (by intro; rfl) (by intro; rfl)

theorem keeps_readCondition : Keeps text readCondition := by
  refine (keeps_takeUntil _).bind fun name => ?_
  refine Keeps.fallback ?_ fun hnumber => keeps_get.bind fun s => ?_
  · split
    · refine Keeps.unless ?_
      exact (keeps_modify (by intro; rfl) (by intro; rfl)).bind fun _ => .pure _
    · exact keeps_malformed
  · split
    · exact .pure _
    · exact keeps_malformed.bind fun _ => hnumber

theorem keeps_readNamedReference (mode : PatternMode) : Keeps text (readNamedReference mode) := by
  refine keeps_get.bind fun s => (keeps_readName _).bind fun name => ?_
  split
  · exact keeps_malformed
  · exact (keeps_checkClosed _).bind fun _ => (keeps_checkBehind _).bind fun _ => .pure _

/-! ## 7. Patterns -/

/-- What the readers of alternatives, sequences and groups keep with this `fuel`; the induction on
it carries all of them at once. -/
structure PatternsKeep (text : List Char) (fuel : Nat) : Prop where
  options : ∀ mode top first, Keeps text (readOptions fuel mode top first)
  items : ∀ mode first items, Keeps text (readItems fuel mode first items)
  group : ∀ mode mayMode, Leads text (Behind text ['(']) (readGroup fuel mode mayMode) fun _ =>
    Behind text []
  body : ∀ mode, Keeps text (readBody fuel mode)
  capture : ∀ mode name, Keeps text (readCapture fuel mode name)
  lookBehind : ∀ mode, Keeps text (readBehind fuel mode)
  conditional : ∀ mode, Keeps text (readConditional fuel mode)

variable {fuel : Nat}

theorem keeps_readOptions (h : PatternsKeep text fuel) (mode : PatternMode) (top first : Bool) :
    Keeps text (readOptions (fuel + 1) mode top first) := by
  rw [readOptions]
  refine (h.items _ _ _).bind fun items => (keeps_accept _).bind fun taken => Keeps.ite ?_ (.pure _)
  exact keeps_get.bind fun s => (h.options _ _ _).bind fun _ => .pure _

theorem keeps_readBody (h : PatternsKeep text fuel) (mode : PatternMode) :
    Keeps text (readBody (fuel + 1) mode) := by
  rw [readBody]
  exact (h.options _ _ _).bind fun _ => (keeps_expect _).bind fun _ => .pure _

theorem keeps_readCapture (h : PatternsKeep text fuel) (mode : PatternMode)
    (name : Option String) : Keeps text (readCapture (fuel + 1) mode name) := by
  rw [readCapture]
  exact (keeps_openGroup _).bind fun _ => (h.body _).bind fun _ =>
    (keeps_closeGroup _ _).bind fun _ => .pure _

theorem keeps_readConditional (h : PatternsKeep text fuel) (mode : PatternMode) :
    Keeps text (readConditional (fuel + 1) mode) := by
  rw [readConditional]
  refine keeps_readCondition.bind fun index => (keeps_checkBehind _).bind fun _ => ?_
  refine (h.items _ _ _).bind fun matched => (keeps_accept _).bind fun two => ?_
  have hend (unmatched : Pattern) : Keeps text (do
      expect ')'
      return Pattern.ifGroup index (.sequence matched) unmatched) :=
    (keeps_expect _).bind fun _ => .pure _
  refine Keeps.ite ?_ ((Keeps.pure _).bind hend)
  exact (h.items _ _ _).bind fun _ => (Keeps.pure _).bind hend

theorem keeps_readBehind (h : PatternsKeep text fuel) (mode : PatternMode) :
    Keeps text (readBehind (fuel + 1) mode) := by
  rw [readBehind]
  refine keeps_takePlain.bind fun c => Keeps.unless ?_
  refine keeps_get.bind fun s => (keeps_modify (by intro; rfl) (by intro; rfl)).bind fun _ => ?_
  refine (h.options _ _ _).bind fun options => ?_
  refine (keeps_modify (by intro; rfl) (by intro; rfl)).bind fun _ => ?_
  refine (keeps_expect _).bind fun _ => keeps_get.bind fun s => ?_
  exact Keeps.ite ((keeps_modify (by intro; rfl) (by intro; rfl)).bind fun _ => .pure _) (.pure _)

/-- Adding the `letters` read in parentheses to `modes` keeps the reader in the text. -/
theorem leads_switchOn (letters : List Char) :
    Leads text (fun s => Behind text ('(' :: '?' :: (letters ++ [')'])) s ∧
        ∀ c ∈ letters, isModeLetter c = true)
      (modify fun s => { s with modes := s.modes ++ letters } : Reader Unit)
      fun _ => Behind text [] := by
  refine Leads.given fun hletters => .modify fun s hs => ⟨hs.forget.rest, fun mode hmode => ?_⟩
  rcases List.mem_append.1 hmode with hmode | hmode
  · exact hs.modes mode hmode
  · exact ⟨letters, hs.inText, hmode, hletters⟩

/-- `readGroup` behind an opening parenthesis: modes for the whole pattern are those that stand in
it. -/
theorem leads_readGroup (h : PatternsKeep text fuel) (mode : PatternMode) (mayMode : Bool) :
    Leads text (Behind text ['(']) (readGroup (fuel + 1) mode mayMode) fun _ => Behind text [] := by
  rw [readGroup]
  refine (leads_accept '?').bind fun marked => ?_
  have hforget : ∀ s, Behind text (if marked = true then ['('] ++ ['?'] else ['(']) s →
      Behind text [] s := fun _ => Behind.forget
  refine .ite (fun _ => ?_) fun hmarked => ?_
  · -- A parenthesis without a mark opens a group of its own.
    exact ((h.capture _ _).bind fun _ => Keeps.pure _).mono hforget fun _ _ h => h
  have hmarked : marked = true := by simpa using hmarked
  subst hmarked
  refine leads_takePlain.bind fun c => ?_
  -- From here on one more character has been read, which no part but the modes goes back to.
  have hafter {r : Reader (PatternMode × List ReadItem)} (hr : Keeps text r) :
      Leads text (Behind text ((if true = true then ['('] ++ ['?'] else ['(']) ++ [c])) r
        fun _ => Behind text [] := hr.mono (fun _ => Behind.forget) fun _ _ h => h
  have hbody {f : List Pattern → PatternMode × List ReadItem} (mode : PatternMode) :
      Keeps text (do return f (← readBody fuel mode)) := (h.body _).bind fun _ => .pure _
  -- The marks in the order in which they are tried, up to the modes.
  refine .ite (fun _ => hafter ?_) fun _ => ?_
  · refine (keeps_accept _).bind fun named => Keeps.ite ?_ ?_
    · exact (keeps_readName _).bind fun _ => (h.capture _ _).bind fun _ => .pure _
    · exact (keeps_expect _).bind fun _ => (keeps_readNamedReference _).bind fun _ => .pure _
  refine .ite (fun _ => hafter (hbody _)) fun _ => ?_
  refine .ite (fun _ => hafter ((keeps_skipThrough _ _).bind fun _ => .pure _)) fun _ => ?_
  refine .ite (fun _ => hafter (hbody _)) fun _ => ?_
  refine .ite (fun _ => hafter ((h.lookBehind _).bind fun _ => .pure _)) fun _ => ?_
  refine .ite (fun _ => hafter (hbody _)) fun _ => ?_
  refine .ite (fun _ => hafter ((h.conditional _).bind fun _ => .pure _)) fun _ => ?_
  refine Leads.unless fun _ => (leads_readModes c).bind fun found => ?_
  obtain ⟨on, change⟩ := found
  cases change with
  -- Modes for a part: the state is only further on in the text.
  | some change =>
    refine Leads.mono ?_ (fun _ hs => hs.1) fun _ _ h => h
    exact hbody _
  -- Modes for the whole pattern: the letters stand in the text, closed by a parenthesis.
  | none =>
    refine Leads.bind (Leads.mono (leads_switchOn on) (fun s hs => hs.2 rfl) fun _ _ hs => hs) ?_
    exact fun _ => Keeps.unless (keeps_get.bind fun _ => .pure _)

theorem keeps_readItems (h : PatternsKeep text fuel) (mode : PatternMode) (first : Bool)
    (items : List ReadItem) : Keeps text (readItems (fuel + 1) mode first items) := by
  have hitems := h.items
  rw [readItems]
  refine keeps_get.bind fun s => ?_
  split
  iterate 3 exact .pure _
  refine leads_takeAny.bind fun token => ?_
  cases token with
  | dangling => exact .malformed
  | escaped c =>
    have hescape : Keeps text (do
        let p ← readEscape mode c
        readItems fuel mode first (.part p :: items)) :=
      (keeps_readEscape _ _).bind fun _ => hitems _ _ _
    exact hescape.mono (fun _ => Behind.forget) fun _ _ hs => hs
  | plain c =>
    have hafter {r : Reader (List Pattern)} (hr : Keeps text r) :
        Leads text (Behind text ([] ++ [c])) r fun _ => Behind text [] :=
      hr.mono (fun _ => Behind.forget) fun _ _ hs => hs
    have hpart (p : Pattern) := hafter (hitems mode first (.part p :: items))
    refine .ite (fun _ => hafter (hitems _ _ _)) fun _ => ?_
    refine .ite (fun _ => hafter ((keeps_skipThrough _ _).bind fun _ => hitems _ _ _)) fun _ => ?_
    refine .ite (fun _ => hafter ((keeps_readSet _).bind fun _ => hitems _ _ _)) fun _ => ?_
    refine .ite (fun _ => hpart _) fun _ => .ite (fun _ => hpart _) fun _ => ?_
    refine .ite (fun _ => hpart _) fun _ => .ite (fun hc => ?_) fun _ => ?_
    -- What a parenthesis and what a sign of repetition start depends on having read them.
    · subst hc
      exact (h.group _ _).bind fun _ => hitems _ _ _
    refine .ite (fun hc => ?_) fun _ => hpart _
    have hc : c = '*' ∨ c = '+' ∨ c = '?' ∨ c = '\x7b' := by simpa [or_assoc] using hc
    refine (leads_readBounds c hc).bind fun bounds => ?_
    cases bounds with
    | none => exact hitems _ _ _
    | some bounds => exact (keeps_repeatLatest _ _).bind fun _ => hitems _ _ _

theorem patternsKeep (text : List Char) (fuel : Nat) : PatternsKeep text fuel := by
  induction fuel with
  | zero =>
    exact ⟨fun _ _ _ => keeps_malformed, fun _ _ _ => keeps_malformed,
      fun _ _ => Leads.malformed, fun _ => keeps_malformed, fun _ _ => keeps_malformed,
      fun _ => keeps_malformed, fun _ => keeps_malformed⟩
  | succ fuel ih =>
    exact ⟨keeps_readOptions ih, keeps_readItems ih, leads_readGroup ih, keeps_readBody ih,
      keeps_readCapture ih, keeps_readBehind ih, keeps_readConditional ih⟩

theorem flatMap_chars_ofChars (text : List Char) :
    (PatternToken.ofChars text).flatMap PatternToken.chars = text := by
  fun_induction PatternToken.ofChars text with
  | case1 => rfl
  | case2 => rfl
  | case3 c rest ih => rw [List.flatMap_cons, ih]; rfl
  | case4 c rest _ _ ih => rw [List.flatMap_cons, ih]; rfl

end PatternText

open PatternText

/-- What `ofText?` fails with is accounted for by the text. -/
theorem accounts_of_error {text : String} {ignoreCase : Bool} {e : PatternError}
    (h : Matcher.ofText? text ignoreCase = .error e) : Accounts text.toList e := by
  unfold Matcher.ofText? at h
  dsimp only at h
  generalize hstart : ReadState.mk (PatternToken.ofChars text.toList) ignoreCase [] [] [] none []
    false false = start at h
  -- From the start nothing has been read, so the readers lead through the text as it is.
  have hread := (patternsKeep text.toList
    (4 * (PatternToken.ofChars text.toList).length + 8)).options start.mode true true start (by
      subst hstart
      exact ⟨(flatMap_chars_ofChars text.toList).symm ▸ List.suffix_refl _, nofun⟩)
  cases hrun : (readOptions (4 * (PatternToken.ofChars text.toList).length + 8) start.mode true
      true).run start with
  | error fault =>
    rw [hrun] at h hread
    cases h
    exact hread
  -- The pattern was read to its end, and what is checked afterwards fails as `malformed`, unless
  -- the modes that were found exclude each other.
  | ok done =>
    rw [hrun] at h hread
    obtain ⟨options, s⟩ := done
    have hmodes : ∀ mode ∈ s.modes, SwitchesOn mode text.toList := hread.modes
    change (if (s.modes.contains 'a' && s.modes.contains 'u') = true then _ else _) = _ at h
    split at h
    · rename_i hboth
      cases h
      rw [Bool.and_eq_true, List.contains_iff_mem, List.contains_iff_mem] at hboth
      exact ⟨hmodes _ hboth.1, hmodes _ hboth.2⟩
    · change (if _ then _ else if _ then _ else _) = _ at h
      split_ifs at h <;> cases h
      all_goals trivial

/-! ## 8. Searching for a pattern -/

/-- Beside `malformed` there are two faults that a text `Accounts` for. -/
theorem PatternText.Accounts.resolve {text : List Char} {e : PatternError} (h : Accounts text e)
    (he : e ≠ .malformed) :
    RepeatsTooOften text ∨ (SwitchesOn 'a' text ∧ SwitchesOn 'u' text) := by
  cases e with
  | malformed => exact absurd rfl he
  | repetitionTooLarge | tooManyDigits _ => exact .inl h
  | clashingModes => exact .inr h

variable (files : List File) {query : String} {options : SearchOptions}

theorem searchFiles_unasked (h : Text.isBlankText query = true ∨ options.maxResults ≤ 0) :
    searchFiles files query options = .ok [] := by
  rw [searchFiles, if_pos (by simpa using h)]

section Asked

variable (hasked : ¬ (Text.isBlankText query = true ∨ options.maxResults ≤ 0))

include hasked

theorem searchFiles_of_malformed (h : queryMatcher? query options = .error .malformed) :
    searchFiles files query options = .ok [] := by
  rw [searchFiles, if_neg (by simpa using hasked), h]

theorem searchFiles_of_fault {e : PatternError} (h : queryMatcher? query options = .error e)
    (he : e ≠ .malformed) : searchFiles files query options = .error e := by
  rw [searchFiles, if_neg (by simpa using hasked), h]
  cases e with
  | malformed => exact absurd rfl he
  | _ => rfl

theorem searchFiles_of_matcher {m : Matcher} (h : queryMatcher? query options = .ok m) :
    searchFiles files query options = .ok
      (gatherUpTo (resultsInFile m options.contextLines.toNat) options.maxResults.toNat files) := by
  rw [searchFiles, if_neg (by simpa using hasked), h]

end Asked

/-- **When a pattern search returns.** With `asPattern`, `searchFiles` gives results iff nothing is
asked for or `ofText?` fails with `malformed` at most. A text that is no pattern has no results. The
search returns for every text that neither `RepeatsTooOften` nor switches on two modes that exclude
each other. -/
theorem pattern_search_returns_iff (files : List File) (query : String) (options : SearchOptions)
    (hpattern : options.asPattern = true) :
    ((∃ results, searchFiles files query options = .ok results) ↔
      Text.isBlankText query = true ∨ options.maxResults ≤ 0 ∨
        ∀ e, Matcher.ofText? query (!options.caseSensitive) = .error e → e = .malformed) ∧
    (∀ results, searchFiles files query options = .ok results →
      (∀ m, Matcher.ofText? query (!options.caseSensitive) ≠ .ok m) → results = []) ∧
    (¬ RepeatsTooOften query.toList →
      ¬ (SwitchesOn 'a' query.toList ∧ SwitchesOn 'u' query.toList) →
        ∃ results, searchFiles files query options = .ok results) := by
  have hquery : queryMatcher? query options = Matcher.ofText? query (!options.caseSensitive) :=
    if_pos hpattern
  -- Whatever the reading of the query is, nothing has to be read.
  by_cases hasked : Text.isBlankText query = true ∨ options.maxResults ≤ 0
  · have hnone : searchFiles files query options = .ok [] := searchFiles_unasked files hasked
    refine ⟨⟨fun _ => hasked.imp_right .inl, fun _ => ⟨_, hnone⟩⟩, fun results h _ => ?_,
      fun _ _ => ⟨_, hnone⟩⟩
    exact (Except.ok.inj (hnone.symm.trans h)).symm
  cases hread : Matcher.ofText? query (!options.caseSensitive) with
  | ok m =>
    have hfound := searchFiles_of_matcher files hasked (hquery.trans hread)
    refine ⟨⟨fun _ => .inr (.inr nofun), fun _ => ⟨_, hfound⟩⟩, ?_, fun _ _ => ⟨_, hfound⟩⟩
    exact fun _ _ h => absurd rfl (h m)
  | error e =>
    by_cases he : e = .malformed
    · subst he
      have hnone := searchFiles_of_malformed files hasked (hquery.trans hread)
      refine ⟨⟨fun _ => .inr (.inr fun e he => (Except.error.inj he).symm), fun _ => ⟨_, hnone⟩⟩,
        fun results h _ => ?_, fun _ _ => ⟨_, hnone⟩⟩
      exact (Except.ok.inj (hnone.symm.trans h)).symm
    · have hfault := searchFiles_of_fault files hasked (hquery.trans hread) he
      rw [hfault]
      refine ⟨⟨nofun, fun h => ?_⟩, nofun, fun hmany hclash => ?_⟩
      · rw [← or_assoc] at h
        exact absurd (h.resolve_left hasked e rfl) he
      · exact ((accounts_of_error hread).resolve he).elim (absurd · hmany) (absurd · hclash)

/-- An open parenthesis is no pattern, and is found in no file. -/
theorem pattern_search_returns_iff_open :
    let options := { SearchOptions.standard with asPattern := true }
    options.asPattern = true ∧
      searchFiles [⟨"f", "markdown", "(", false⟩] "(" options = .ok [] := by
  intro options
  have hread : Matcher.ofText? "(" (!options.caseSensitive) = .error .malformed := by rfl
  have hlaw := pattern_search_returns_iff [⟨"f", "markdown", "(", false⟩] "(" options rfl
  obtain ⟨results, hresults⟩ := hlaw.1.2 (.inr (.inr fun e he =>
    (Except.error.inj (hread.symm.trans he)).symm))
  rw [hresults, hlaw.2.1 results hresults (by simp [hread])]
  exact ⟨rfl, rfl⟩

/-- A number of repetitions that is too large escapes from `searchFiles`. -/
theorem large_repetition_escapes :
    searchFiles [] "x\x7b4294967295\x7d" { SearchOptions.standard with asPattern := true } =
      .error .repetitionTooLarge := by
  decide +kernel

end OverlayShell
