import Testbed.Proofs.Costs
import Testbed.Proofs.Upholding

/-!
# What procedures spend

Of the events that a procedure leaves, only exchanges and pauses take time. `Spends` tells of the
exchanges and pauses between two sites what they are like, and `Takes` does so for a procedure at a
bench, as long as a framework of a live cluster is there. Sequences put such lists together.
-/

set_option autoImplicit false

namespace Testbed

open Proc Bench

variable {τ ω κ α β : Type}

/-- Whether an event is an exchange or a pause. -/
def Event.isTimed : Event τ → Bool
  | .exchange .. | .pause _ => true
  | _ => false

/-- The exchanges and pauses among events. -/
def timed (events : List (Event τ)) : List (Event τ) := events.filter Event.isTimed

@[simp] theorem timed_append (events later : List (Event τ)) :
    timed (events ++ later) = timed events ++ timed later := List.filter_append ..

theorem callsIn_timed (events : List (Event τ)) : callsIn (timed events) = callsIn events := by
  unfold callsIn timed
  rw [List.filterMap_filter]
  congr 1
  funext e
  cases e <;> rfl

theorem slept_timed (events : List (Event Rat)) : slept (timed events) = slept events := by
  unfold slept timed
  rw [List.filterMap_filter]
  congr 2
  funext e
  cases e <;> rfl

section

variable {calls polls : Call Rat → Prop} {most : Nat} {time deadline start : Rat}
  {events : List (Event Rat)}

theorem Costs.timed (h : Costs calls polls most time deadline events) :
    Costs calls polls most time deadline (Testbed.timed events) where
  among e he := h.among e (List.mem_of_mem_filter he)
  slept := by
    rw [slept_timed]
    exact h.slept
  count := by
    rw [callsIn_timed]
    exact h.count
  prompt made c reply he := h.prompt made c reply (List.mem_of_mem_filter he)

theorem Asides.timed (h : Asides calls polls most start events) :
    Asides calls polls most start (Testbed.timed events) :=
  fun deadline => (h deadline).timed

/-- The exchanges and pauses of a wait are such a wait by themselves. -/
theorem Wait.timed {timeout : Rat} (h : Wait calls polls most timeout start events) :
    Wait calls polls most timeout start (Testbed.timed events) where
  toCosts := h.toCosts.timed
  opens := by
    obtain ⟨c, reply, rest, rfl, hc⟩ := h.opens
    exact ⟨c, reply, Testbed.timed rest, rfl, hc⟩

end

/-- A wait, or nothing at all. -/
def Waits (calls polls : Call Rat → Prop) (most : Nat) (timeout : Rat) (events : List (Event Rat)) :
    Prop :=
  events = [] ∨ ∃ start, Wait calls polls most timeout start events

section

variable {calls polls : Call Rat → Prop} {most : Nat} {timeout : Rat} {events : List (Event Rat)}

theorem Waits.slept_le (h : Waits calls polls most timeout events) (htimeout : 0 ≤ timeout) :
    slept events ≤ timeout := by
  rcases h with rfl | ⟨_, h⟩
  · exact htimeout
  · exact h.slept

theorem Waits.count_le (h : Waits calls polls most timeout events) :
    (callsIn events).length ≤ most := by
  rcases h with rfl | ⟨_, h⟩
  · exact Nat.zero_le _
  · exact h.count

end

/-- The first of these events are of one sort, and the others of another. -/
def Splits (P Q : List (Event τ) → Prop) (events : List (Event τ)) : Prop :=
  ∃ first rest, events = first ++ rest ∧ P first ∧ Q rest

theorem Splits.nil {P Q : List (Event τ) → Prop} (hp : P []) (hq : Q []) : Splits P Q [] :=
  ⟨[], [], rfl, hp, hq⟩

namespace Site

/-- The exchanges and pauses between the sites are such. -/
def Spends (P : List (Event τ) → Prop) (s t : Site τ ω) : Prop :=
  ∃ new, t.events = s.events ++ new ∧ P (timed new)

section

variable {P Q : List (Event τ) → Prop} {s t u : Site τ ω}

theorem Spends.mono (h : Spends P s t) (hpq : ∀ events, P events → Q events) : Spends Q s t := by
  obtain ⟨new, hnew, hp⟩ := h
  exact ⟨new, hnew, hpq _ hp⟩

theorem Spends.append (h : Spends P s t) (h' : Spends Q t u) : Spends (Splits P Q) s u := by
  obtain ⟨new, hnew, hp⟩ := h
  obtain ⟨later, hlater, hq⟩ := h'
  refine ⟨new ++ later, by rw [hlater, hnew, List.append_assoc], ?_⟩
  exact ⟨timed new, timed later, timed_append new later, hp, hq⟩

/-- Events that are neither exchanges nor pauses do not matter. -/
theorem Spends.of_leaves (h : Leaves (fun e => e.isTimed = false) s t) : Spends (· = []) s t := by
  obtain ⟨new, hnew, huntimed⟩ := h
  refine ⟨new, hnew, List.filter_eq_nil_iff.2 ?_⟩
  intro e he
  rw [huntimed e he]
  exact Bool.false_ne_true

theorem Spends.log {level : Level} {name : String} {fields : List (String × Detail τ)}
    (h : t.events = s.events ++ [.log ⟨level, name, fields⟩]) : Spends (· = []) s t :=
  of_leaves ⟨_, h, by simp [Event.isTimed]⟩

theorem Spends.before_nothing (h : Spends P s t) (h' : Spends (· = []) t u) : Spends P s u := by
  apply (h.append h').mono
  rintro _ ⟨first, _, rfl, hp, rfl⟩
  rwa [List.append_nil]

theorem Spends.alone (h : Spends P s t) (hnil : Q []) : Spends (Splits P Q) s t :=
  h.mono fun events hp => ⟨events, [], (List.append_nil events).symm, hp, hnil⟩

end

theorem Advances.spends [Host Rat ω] {calls polls : Call Rat → Prop} {most : Nat} {timeout : Rat}
    {s t : Site Rat ω} (h : s.Advances (Wait calls polls most timeout) t) :
    s.Spends (Waits calls polls most timeout) t := by
  obtain ⟨_, new, hnew, hwait⟩ := h
  exact ⟨new, hnew, .inr ⟨_, hwait.timed⟩⟩

end Site

/-- How often a poll looks at most that has this timeout and the standard interval. -/
def looks (timeout : Rat) : Nat := (timeout / Poll.standardInterval).ceil.toNat + 1

/-- A poll with the standard interval is a wait, whatever is made of how it comes out. -/
theorem Poll.spends [Host Rat ω] (hpunctual : Punctual ω) {timeout : Rat} (htimeout : 0 ≤ timeout)
    {subject : String} (hsubject : subject.isEmpty = false) {calls polls : Call Rat → Prop}
    {most : Nat} {look : SiteM Rat ω (Look Rat α)}
    (hlook : ∀ s, Ends look s fun _ t => s.Advances (Wait calls polls most 0) t)
    {absorbs : Fault Rat → Bool} {f : Poll Rat → Except (Waiting Rat) α → SiteM Rat ω β}
    (hf : ∀ p r t, Ends (f p r) t fun _ u => u = t) (s : Site Rat ω) :
    Ends (do
      let p ← required timeout standardInterval subject
      let r ← p.await absorbs look
      f p r) s fun _ t => s.Spends (Waits calls polls (looks timeout * most) timeout) t := by
  apply Ends.bind_ok (required_ends (inBounds_standard htimeout) hsubject s)
  rintro s rfl
  have hwait := await_advances (p := ⟨timeout, standardInterval, subject⟩)
    (inBounds_standard htimeout) hpunctual.sleeps hlook absorbs s
  apply hwait.bind
  · intro r t h
    apply (hf _ r t).mono
    rintro _ _ rfl
    exact h.spends
  · intro _ t h
    exact h.spends

namespace Bench

/-- The framework with number `k` is there, on a live cluster with this configuration. -/
def IsLive (config : Config.Suite τ) (k : Nat) (b : Bench τ ω κ) : Prop :=
  ∃ f, b.frameworks[k]? = some f ∧ f.cluster = .live config

/-- From a bench on which the framework is live, the exchanges and pauses of the procedure are such,
and the framework stays live. -/
def Takes (config : Config.Suite τ) (k : Nat) (P : List (Event τ) → Prop) (x : BenchM τ ω κ α) :
    Prop :=
  ∀ b, IsLive config k b → Ends x b fun _ b' => b.site.Spends P b'.site ∧ IsLive config k b'

/-- Neither exchanges nor pauses are added, and the framework keeps its cluster. -/
abbrev IsInstant (k : Nat) : Bench τ ω κ → Bench τ ω κ → Prop :=
  Upholds (fun e => e.isTimed = false) (fun s => s.cluster) k

theorem Upholds.isLive {P : Event τ → Prop} {config : Config.Suite τ} {k : Nat}
    {b b' : Bench τ ω κ} (h : Upholds P (fun s => s.cluster) k b b') (hb : IsLive config k b) :
    IsLive config k b' := by
  obtain ⟨f, hf, hlive⟩ := hb
  obtain ⟨f', hf', hsame⟩ := h.found hf
  exact ⟨f', hf', hsame.trans hlive⟩

theorem note_isInstant {k : Nat} (f : Framework τ κ) (level : Level) (name : String)
    (fields : List (String × Detail τ)) :
    (note f level name fields : BenchM τ ω κ Unit).Along (IsInstant k) := record_upholds rfl

namespace Takes

variable {config : Config.Suite τ} {k : Nat} {P Q : List (Event τ) → Prop} {x : BenchM τ ω κ α}

theorem mono (h : Takes config k P x) (hpq : ∀ events, P events → Q events) :
    Takes config k Q x := by
  intro b hb
  exact (h b hb).mono fun _ _ hspends => ⟨hspends.1.mono hpq, hspends.2⟩

theorem of_isInstant (h : x.Along (IsInstant k)) : Takes config k (· = []) x := by
  intro b hb
  exact (h b).mono fun _ _ hidle => ⟨Site.Spends.of_leaves hidle.1, hidle.isLive hb⟩

theorem bind {f : α → BenchM τ ω κ β} (hx : Takes config k P x) (hf : ∀ a, Takes config k Q (f a))
    (hnil : Q []) : Takes config k (Splits P Q) (x >>= f) := by
  intro b hb
  apply (hx b hb).bind
  · rintro a b₁ ⟨hspends, hb₁⟩
    exact (hf a b₁ hb₁).mono fun _ _ h => ⟨hspends.append h.1, h.2⟩
  · rintro _ b₁ ⟨hspends, hb₁⟩
    exact ⟨hspends.alone hnil, hb₁⟩

/-- A procedure that takes no time comes first. -/
theorem after {f : α → BenchM τ ω κ β} (hx : x.Along (IsInstant k)) (hf : ∀ a, Takes config k P (f a))
    (hnil : P []) : Takes config k P (x >>= f) := by
  apply ((of_isInstant hx).bind hf hnil).mono
  rintro _ ⟨_, rest, rfl, rfl, hp⟩
  exact hp

/-- A procedure that takes no time comes last. -/
theorem before {f : α → BenchM τ ω κ β} (hx : Takes config k P x)
    (hf : ∀ a, (f a).Along (IsInstant k)) : Takes config k P (x >>= f) := by
  apply (hx.bind (fun a => of_isInstant (hf a)) rfl).mono
  rintro _ ⟨first, _, rfl, hp, rfl⟩
  rwa [List.append_nil]

theorem ite {c : Prop} [Decidable c] {y : BenchM τ ω κ α} (hx : c → Takes config k P x)
    (hy : ¬c → Takes config k P y) : Takes config k P (if c then x else y) := by
  split
  · exact hx ‹_›
  · exact hy ‹_›

/-- A procedure that begins with a look at its framework. -/
theorem read {rest : Framework τ κ → BenchM τ ω κ α}
    (h : ∀ f, f.cluster = .live config → Takes config k P (rest f)) :
    Takes config k P (frameworkAt k >>= rest) := by
  rintro b ⟨f, hf, hlive⟩
  apply Ends.bind_ok (frameworkAt_ends hf)
  rintro b rfl
  exact h f hlive b ⟨f, hf, hlive⟩

theorem attempt (h : Takes config k P x) : Takes config k P x.attempt := h

theorem inStage [Seconds τ] (h : Takes config k P x) (baseName stage : String) :
    Takes config k P (Framework.inStage baseName stage x) := by
  intro b hb
  apply (h b hb).rescue
  · exact fun _ _ hspends => hspends
  · intro e b₁ hspends
    apply Ends.ite
    · exact fun _ => hspends
    · exact fun _ => hspends

theorem onSite {y : SiteM τ ω α} (h : ∀ s, Ends y s fun _ t => s.Spends P t) :
    Takes config k P (Bench.onSite y : BenchM τ ω κ α) := by
  rintro b ⟨f, hf, hlive⟩
  apply Ends.focus
  exact (h b.site).mono fun _ _ hspends => ⟨hspends, f, hf, hlive⟩

end Takes

end Bench

end Testbed
