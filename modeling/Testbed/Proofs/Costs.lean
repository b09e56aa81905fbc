import Testbed.Proofs.History
import Testbed.Proofs.Schedule

/-!
# What a wait costs

How long a stretch of events sleeps is the sum of its pauses. A poll looks in turn with pausing, and
its pauses add up to no more than the time from its start to the begin of its last look, which
is not after the deadline. So a poll costs its timeout at most, if its looks do not sleep, and as
many looks as its timeout has intervals, and one more. Costs of stretches that follow each other
add up.
-/

set_option autoImplicit false

namespace Testbed

open Proc

variable {τ ω α : Type}

/-- The time that is slept among events. -/
def slept (events : List (Event Rat)) : Rat := (events.filterMap Event.pause?).sum

@[simp] theorem slept_nil : slept [] = 0 := rfl

@[simp] theorem slept_append (events later : List (Event Rat)) :
    slept (events ++ later) = slept events + slept later := by
  simp [slept]

@[simp] theorem slept_pause (length : Rat) : slept [.pause length] = length := by
  simp [slept, Event.pause?]

theorem slept_eq_zero {events : List (Event Rat)} (h : ∀ e ∈ events, e.pause? = none) :
    slept events = 0 := by
  rw [slept, List.filterMap_eq_nil_iff.2 h, List.sum_nil]

@[simp] theorem slept_log (entry : LogEntry Rat) : slept [.log entry] = 0 :=
  slept_eq_zero (by simp [Event.pause?])

/-- The calls among events. -/
def callsIn (events : List (Event τ)) : List (Call τ) := events.filterMap Event.call?

@[simp] theorem callsIn_nil : callsIn ([] : List (Event τ)) = [] := rfl

@[simp] theorem callsIn_append (events later : List (Event τ)) :
    callsIn (events ++ later) = callsIn events ++ callsIn later := by
  simp [callsIn]

/-- Only sleeping takes as long as it is asked to, the other requests of the host do not set its
clock back, and drawing an identifier takes no time. -/
structure Punctual (ω : Type) [Host Rat ω] : Prop where
  sleeps : Poll.Sleeps ω
  freshId : ∀ w : ω, Host.now (Host.freshId w).2 = Host.now w
  reply : ∀ (c : Call Rat) (w : ω), Host.now w ≤ Host.now (Host.reply c w).2

/-- The calls among these events are of one kind, and at most so many. The events sleep no longer
than the given time, and those of the calls that are polls are made by the deadline. -/
structure Costs (calls polls : Call Rat → Prop) (most : Nat) (time deadline : Rat)
    (events : List (Event Rat)) : Prop where
  among : ∀ e ∈ events, e.Among calls
  slept : slept events ≤ time
  count : (callsIn events).length ≤ most
  prompt : ∀ made c reply, .exchange made c reply ∈ events → polls c → made ≤ deadline

/-- Calls of one kind, at most so many and none of them a poll, that cost no time. -/
def Asides (calls polls : Call Rat → Prop) (most : Nat) (_start : Rat) (events : List (Event Rat)) :
    Prop :=
  ∀ deadline, Costs calls polls most 0 deadline events

/-- The first of these events is a poll, made at this time. -/
def Opens (polls : Call Rat → Prop) (start : Rat) (events : List (Event Rat)) : Prop :=
  ∃ c reply rest, events = .exchange start c reply :: rest ∧ polls c

/-- The events of a wait that begins at this time: it sleeps no longer than its timeout, and none of
its polls is made after its deadline. -/
structure Wait (calls polls : Call Rat → Prop) (most : Nat) (timeout start : Rat)
    (events : List (Event Rat)) : Prop extends
    Costs calls polls most timeout (start + timeout) events where
  opens : Opens polls start events

section

variable {calls polls : Call Rat → Prop} {most most' : Nat} {time time' deadline deadline' : Rat}
  {events later : List (Event Rat)}

namespace Costs

theorem nil : Costs calls polls 0 0 deadline [] := by
  constructor <;> simp

theorem pause (length : Rat) : Costs calls polls 0 length deadline [.pause length] := by
  constructor <;> simp [Event.Among, callsIn, Event.call?]

theorem log (entry : LogEntry Rat) : Costs calls polls 0 0 deadline [.log entry] := by
  constructor <;> simp [Event.Among, callsIn, Event.call?]

theorem append (h : Costs calls polls most time deadline events)
    (h' : Costs calls polls most' time' deadline later) :
    Costs calls polls (most + most') (time + time') deadline (events ++ later) := by
  constructor
  · intro e he
    exact (List.mem_append.1 he).elim (h.among e) (h'.among e)
  · rw [slept_append]
    exact add_le_add h.slept h'.slept
  · rw [callsIn_append, List.length_append]
    exact Nat.add_le_add h.count h'.count
  · intro made c reply he
    exact (List.mem_append.1 he).elim (h.prompt made c reply) (h'.prompt made c reply)

theorem mono (h : Costs calls polls most time deadline events) (hmost : most ≤ most')
    (htime : time ≤ time') (hdeadline : deadline ≤ deadline') :
    Costs calls polls most' time' deadline' events where
  among := h.among
  slept := h.slept.trans htime
  count := h.count.trans hmost
  prompt made c reply he hc := (h.prompt made c reply he hc).trans hdeadline

end Costs

theorem Opens.append {start : Rat} (h : Opens polls start events) :
    Opens polls start (events ++ later) := by
  obtain ⟨c, reply, rest, rfl, hc⟩ := h
  exact ⟨c, reply, rest ++ later, rfl, hc⟩

theorem Asides.nil (start : Rat) : Asides calls polls most start [] :=
  fun _ => Costs.nil.mono (Nat.zero_le most) le_rfl le_rfl

theorem Asides.call {c : Call Rat} (hcalls : calls c) (hother : ¬ polls c) (made : Rat)
    (reply : Except (Fault Rat) c.Reply) : Asides calls polls 1 made [.exchange made c reply] := by
  intro deadline
  constructor
  · simpa [Event.Among] using hcalls
  · exact (slept_eq_zero (by simp [Event.pause?])).le
  · simp [callsIn, Event.call?]
  · intro made' c' reply' h hpolls
    rw [List.mem_singleton, Event.exchange.injEq] at h
    rw [h.2.1] at hpolls
    exact (hother hpolls).elim

theorem Asides.mono {start start' : Rat} (h : Asides calls polls most start events)
    (hmost : most ≤ most') : Asides calls polls most' start' events :=
  fun deadline => (h deadline).mono hmost le_rfl le_rfl

theorem Asides.append {start start' : Rat} (h : Asides calls polls most start events)
    (h' : Asides calls polls most' start' later) :
    Asides calls polls (most + most') start (events ++ later) :=
  fun deadline => ((h deadline).append (h' deadline)).mono le_rfl (add_zero _).le le_rfl

/-- What follows on a wait without a poll of its own belongs to the wait. -/
theorem Wait.append {timeout start start' : Rat} (h : Wait calls polls most timeout start events)
    (h' : Asides calls polls most' start' later) :
    Wait calls polls (most + most') timeout start (events ++ later) where
  toCosts := (h.toCosts.append (h' _)).mono le_rfl (add_zero _).le le_rfl
  opens := h.opens.append

/-- One call is a wait without a timeout. -/
theorem Wait.call {start : Rat} {c : Call Rat} (hcalls : calls c) (hpolls : polls c)
    (reply : Except (Fault Rat) c.Reply) : Wait calls polls 1 0 start [.exchange start c reply] where
  among := by simpa [Event.Among] using hcalls
  slept := (slept_eq_zero (by simp [Event.pause?])).le
  count := by simp [callsIn, Event.call?]
  prompt := by
    intro made c' reply' h _
    rw [List.mem_singleton, Event.exchange.injEq] at h
    rw [h.1, add_zero]
  opens := ⟨c, reply, [], rfl, hpolls⟩

end

namespace Site

variable [Host Rat ω]

/-- The second site is the first one after such events, and its clock was not set back. Whether
the events are such depends on when they began. -/
def Advances (P : Rat → List (Event Rat) → Prop) (s t : Site Rat ω) : Prop :=
  Host.now s.world ≤ Host.now t.world ∧
    ∃ new, t.events = s.events ++ new ∧ P (Host.now s.world) new

/-- No more than the given time was slept between the sites. -/
def Within (time : Rat) (s t : Site Rat ω) : Prop :=
  ∃ new, t.events = s.events ++ new ∧ slept new ≤ time

omit [Host Rat ω] in
theorem Within.mono {time time' : Rat} {s t : Site Rat ω} (h : Within time s t)
    (htime : time ≤ time') : Within time' s t := by
  obtain ⟨new, hnew, hslept⟩ := h
  exact ⟨new, hnew, hslept.trans htime⟩

omit [Host Rat ω] in
theorem Within.trans {time time' : Rat} {s t u : Site Rat ω} (h : Within time s t)
    (h' : Within time' t u) : Within (time + time') s u := by
  obtain ⟨new, hnew, hslept⟩ := h
  obtain ⟨later, hlater, hslept'⟩ := h'
  refine ⟨new ++ later, by rw [hlater, hnew, List.append_assoc], ?_⟩
  rw [slept_append]
  exact add_le_add hslept hslept'

/-- An operation that does not wait by itself does not sleep. -/
theorem talk_within {calls : Call Rat → Prop} {x : SiteM Rat ω α}
    (h : MadeOf (Talk calls) (fun _ => True) x) : x.Along (Within 0) := by
  apply (h.along Talk.leaves).mono
  rintro s t ⟨new, hnew, htalk⟩
  refine ⟨new, hnew, (slept_eq_zero ?_).le⟩
  intro e he
  have ht := htalk e he
  cases e with
  | pause length => exact ht.elim
  | _ => rfl

theorem Advances.mono {P Q : Rat → List (Event Rat) → Prop} {s t : Site Rat ω} (h : s.Advances P t)
    (hpq : ∀ start events, P start events → Q start events) : s.Advances Q t := by
  obtain ⟨hforward, new, hnew, hp⟩ := h
  exact ⟨hforward, new, hnew, hpq _ _ hp⟩

theorem Advances.append {P Q R : Rat → List (Event Rat) → Prop} {s t u : Site Rat ω}
    (h : s.Advances P t) (h' : t.Advances Q u)
    (hpq : ∀ start then' events later, P start events → Q then' later → R start (events ++ later)) :
    s.Advances R u := by
  obtain ⟨hforward, new, hnew, hp⟩ := h
  obtain ⟨hforward', later, hlater, hq⟩ := h'
  exact ⟨hforward.trans hforward', new ++ later, by rw [hlater, hnew, List.append_assoc],
    hpq _ _ _ _ hp hq⟩

/-- A call by itself is a wait without a timeout. -/
theorem call_advances (hpunctual : Punctual ω) {calls polls : Call Rat → Prop} {c : Call Rat}
    (hcalls : calls c) (hpolls : polls c) (s : Site Rat ω) :
    Ends (call c : SiteM Rat ω c.Reply) s fun _ t => s.Advances (Wait calls polls 1 0) t := by
  apply (call_ends c s).mono
  rintro reply t ⟨_, hworld, hevents⟩
  rw [Advances, hworld]
  exact ⟨hpunctual.reply c s.world, _, hevents, Wait.call hcalls hpolls reply⟩

/-- A call that is no poll. -/
theorem aside_advances (hpunctual : Punctual ω) {calls polls : Call Rat → Prop} {c : Call Rat}
    (hcalls : calls c) (hother : ¬ polls c) (s : Site Rat ω) :
    Ends (call c : SiteM Rat ω c.Reply) s fun _ t =>
      s.Advances (Asides calls polls 1) t := by
  apply (call_ends c s).mono
  rintro reply t ⟨_, hworld, hevents⟩
  rw [Advances, hworld]
  exact ⟨hpunctual.reply c s.world, _, hevents, Asides.call hcalls hother _ reply⟩

/-- An entry in the log. -/
theorem log_advances {calls polls : Call Rat → Prop} (level : Level) (name : String)
    (fields : List (String × Detail Rat)) (s : Site Rat ω) :
    Ends (log level name fields : SiteM Rat ω Unit) s fun r t => r = .ok () ∧
      s.Advances (Asides calls polls 0) t := by
  apply (log_ends level name fields s).mono
  rintro _ t ⟨hok, hworld, hevents⟩
  rw [Advances, hworld]
  exact ⟨hok, le_rfl, _, hevents, fun _ => Costs.log _⟩

end Site

namespace Poll

variable [Host Rat ω] {p : Poll Rat} {absorbs : Fault Rat → Bool}
  {look : SiteM Rat ω (Look Rat α)} {calls polls : Call Rat → Prop} {most : Nat}
  (hbounds : InBounds p.timeout p.interval) (hsleeps : Sleeps ω)
  (hlook : ∀ s, Ends look s fun _ t => s.Advances (Wait calls polls most 0) t)

theorem inBounds_standard {timeout : Rat} (h : 0 ≤ timeout) :
    InBounds timeout (standardInterval : Rat) := by
  constructor
  · rw [Seconds.zero_eq]
    exact h
  · decide +kernel

/-- A look at a condition costs what the condition costs. -/
theorem whether_advances {condition : SiteM Rat ω Bool} {P : Rat → List (Event Rat) → Prop}
    {s : Site Rat ω} (h : Ends condition s fun _ t => s.Advances P t) :
    Ends (whether condition) s fun _ t => s.Advances P t := by
  unfold Ends
  rw [run_whether]
  exact h

include hbounds hsleeps hlook in
/-- Before a look begins, the poll has slept no longer than the clock has moved. -/
theorem begun_advances (start : Site Rat ω) (n : Nat)
    (hearly : ∀ m < n, Host.now (p.ended look start m).world < p.deadline start) :
    start.Advances (fun _ new => Costs calls polls (n * most)
        (Host.now (p.begun look start n).world - Host.now start.world) (p.deadline start) new ∧
      (n = 0 ∧ new = [] ∨ Opens polls (Host.now start.world) new)) (p.begun look start n) := by
  induction n with
  | zero =>
    refine ⟨le_rfl, [], by simp [begun], ?_, .inl ⟨rfl, rfl⟩⟩
    simpa [begun] using Costs.nil
  | succ n ih =>
    have hbefore : ∀ m < n, Host.now (p.ended look start m).world < p.deadline start :=
      fun m hm => hearly m (by omega)
    obtain ⟨hstart, new, hnew, hcosts, hopens⟩ := ih hbefore
    obtain ⟨hforward, seen, hseen, hlooked⟩ := hlook (p.begun look start n)
    change (p.ended look start n).events = _ at hseen
    change _ ≤ Host.now (p.ended look start n).world at hforward
    have hpause := pauseFrom_pos hbounds (hearly n n.lt_succ_self)
    have hnow : Host.now (p.begun look start (n + 1)).world =
        Host.now (p.ended look start n).world + p.pauseFrom start (p.ended look start n) :=
      hsleeps _ _ hpause
    have hprompt := now_begun_le hbounds hsleeps hbefore
    refine ⟨by linarith, new ++ seen ++ [.pause (p.pauseFrom start (p.ended look start n))], ?_, ?_,
      .inr ?_⟩
    · simp [events_begun_succ, hseen, hnew]
    · have hlook := hlooked.toCosts.mono le_rfl le_rfl ((add_zero _).trans_le hprompt)
      apply ((hcosts.append hlook).append (Costs.pause _)).mono
      · rw [Nat.succ_mul]
        omega
      · rw [hnow]
        linarith
      · exact le_rfl
    · rcases hopens with ⟨rfl, rfl⟩ | hopens
      · exact hlooked.opens.append
      · exact hopens.append.append

include hbounds hsleeps hlook in
/-- A poll whose looks do not sleep costs its timeout at most. -/
theorem await_advances (absorbs : Fault Rat → Bool) (start : Site Rat ω) :
    Ends (p.await absorbs look) start fun _ t =>
      start.Advances (Wait calls polls ((p.intervals + 1) * most) p.timeout) t := by
  have hforward (n : Nat) :
      Host.now (p.begun look start n).world ≤ Host.now (p.ended look start n).world :=
    (hlook (p.begun look start n)).1
  obtain ⟨k, hk, hrun⟩ := await_run absorbs hbounds hsleeps hforward
  obtain ⟨n, hn, hlate⟩ := exists_late hbounds hsleeps hforward
  have hrounds : k ≤ p.intervals := (hk.2 fun _ _ => hlate).trans hn
  have hearly : ∀ m < k, Host.now (p.ended look start m).world < p.deadline start := by
    intro m hm
    by_contra hover
    exact absurd (hk.2 fun _ _ => not_lt.1 hover) (not_le.2 hm)
  obtain ⟨hstart, new, hnew, hcosts, hopens⟩ :=
    begun_advances hbounds hsleeps hlook start k hearly
  obtain ⟨hlast, seen, hseen, hlooked⟩ := hlook (p.begun look start k)
  have hprompt := now_begun_le hbounds hsleeps hearly
  unfold Ends
  rw [hrun]
  refine ⟨hstart.trans hlast, new ++ seen, ?_, ?_, ?_⟩
  · rw [← List.append_assoc, ← hnew]
    exact hseen
  · have hlook := hlooked.toCosts.mono le_rfl le_rfl ((add_zero _).trans_le hprompt)
    apply (hcosts.append hlook).mono
    · rw [Nat.succ_mul]
      exact Nat.add_le_add_right (Nat.mul_le_mul_right most hrounds) most
    · rw [deadline] at hprompt
      linarith
    · exact le_rfl
  · rcases hopens with ⟨rfl, rfl⟩ | hopens
    · exact hlooked.opens
    · exact hopens.append

end Poll

end Testbed
