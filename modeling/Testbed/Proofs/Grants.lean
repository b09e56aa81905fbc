import Mathlib.Algebra.Order.Field.Basic
import Mathlib.Algebra.Order.Group.MinMax
import Mathlib.Algebra.Order.Ring.Rat
import Mathlib.Data.Finset.Max
import Mathlib.Order.Interval.Finset.Nat
import Mathlib.Tactic.FieldSimp
import Mathlib.Tactic.Linarith
import Mathlib.Tactic.Ring
import Testbed.Client.ClientSet
import Testbed.Proofs.Waiting
import Testbed.Scripted.World

/-!
# Grants of a token bucket

A reservation is granted when its wait is over. In exact arithmetic all that matters of a bucket is
one time, `emptyAt`, at which its rate alone makes it hold no token. Each reservation moves it on by
the time of one token, from at least a burst before now. So after a run of reservations it is the
greatest of the times that the reservations call for one by one, and the grant is the least time
at which the call keeps within burst and rate together with those before it.
-/

set_option autoImplicit false

namespace Testbed

theorem Seconds.zero_eq : (0.0 : Rat) = 0 := by norm_num

namespace Client

open Proc

namespace TokenBucket

section

variable {τ : Type} [Seconds τ]

/-- The bucket after the first reservations, which are made at these times. -/
def held (b : TokenBucket τ) (times : Nat → τ) : Nat → TokenBucket τ
  | 0 => b
  | n + 1 => ((held b times n).reserve (times n)).2

/-- When a reservation is granted: at its time and the wait that it is given. -/
def grant (b : TokenBucket τ) (times : Nat → τ) (n : Nat) : τ :=
  times n + ((b.held times n).reserve (times n)).1

@[simp] theorem qps_held (b : TokenBucket τ) (times : Nat → τ) (n : Nat) :
    (b.held times n).qps = b.qps := by
  induction n with
  | zero => rfl
  | succ n ih => exact ih

@[simp] theorem burst_held (b : TokenBucket τ) (times : Nat → τ) (n : Nat) :
    (b.held times n).burst = b.burst := by
  induction n with
  | zero => rfl
  | succ n ih => exact ih

end

/-- With the grants of the calls before it, a call at time `t` keeps within burst and rate: the
calls since any earlier one are no more than the burst and what the rate lets through since. -/
def Conforms (b : TokenBucket Rat) (grants : Nat → Rat) (n : Nat) (t : Rat) : Prop :=
  ∀ i < n, (n : Rat) - i + 1 ≤ b.burst + b.qps * (t - grants i)

/-- The time at which the rate alone makes the bucket hold no token. -/
def emptyAt (b : TokenBucket Rat) : Rat := b.filledAt - b.tokens / b.qps

/-- The time in which the rate fills an empty bucket. -/
def fillTime (b : TokenBucket Rat) : Rat := b.burst / b.qps

/-- A reservation in the usual arithmetic of rational numbers. -/
theorem reserve_eq (b : TokenBucket Rat) (now : Rat) :
    b.reserve now =
      let left := min (b.burst : Rat) (b.tokens + (now - b.filledAt) * b.qps) - 1
      (if 0 ≤ left then 0 else -left / b.qps, { b with tokens := left, filledAt := now }) := by
  have hone : (1.0 : Rat) = 1 := by norm_num
  have hleast (x y : Rat) : Seconds.least x y = min x y := by
    rw [min_comm, min_def_lt]
    rfl
  unfold reserve
  rw [hleast, ← hone, ← Seconds.zero_eq]
  rfl

section Reservation

variable {b : TokenBucket Rat} (hq : 0 < b.qps) (now : Rat)

include hq

theorem token_le_fillTime (hb : 1 ≤ b.burst) : 1 / b.qps ≤ b.fillTime := by
  have hburst : (1 : Rat) ≤ b.burst := by exact_mod_cast hb
  exact div_le_div_of_nonneg_right hburst hq.le

/-- A reservation uses the rate for one token's time, from at least a burst before now. -/
theorem emptyAt_reserve :
    (b.reserve now).2.emptyAt = max (now - b.fillTime) b.emptyAt + 1 / b.qps := by
  have hmax : max (now - b.fillTime) b.emptyAt =
      now - min (b.burst : Rat) (b.tokens + (now - b.filledAt) * b.qps) / b.qps := by
    have hfilled : b.emptyAt = now - (b.tokens + (now - b.filledAt) * b.qps) / b.qps := by
      unfold emptyAt
      field_simp
      ring
    rw [hfilled, fillTime, max_sub_sub_left, min_div_div_right hq.le]
  rw [hmax, reserve_eq]
  simp only [emptyAt]
  ring

/-- The grant comes when the bucket stops owing tokens. -/
theorem granted_eq : now + (b.reserve now).1 = max now (b.reserve now).2.emptyAt := by
  rw [reserve_eq]
  simp only [emptyAt]
  generalize min (b.burst : Rat) (b.tokens + (now - b.filledAt) * b.qps) - 1 = left
  split
  · rename_i hleft
    have hquot : 0 ≤ left / b.qps := div_nonneg hleft hq.le
    rw [max_eq_left (by linarith), add_zero]
  · rename_i hleft
    have hquot : left / b.qps < 0 := div_neg_of_neg_of_pos (not_le.1 hleft) hq
    rw [max_eq_right (by linarith), neg_div]
    ring

end Reservation

section Run

variable {b : TokenBucket Rat} (hq : 0 < b.qps) (times : Nat → Rat)

include hq

theorem emptyAt_held_succ (n : Nat) : (b.held times (n + 1)).emptyAt =
    max (times n - b.fillTime) (b.held times n).emptyAt + 1 / b.qps := by
  have hstep := emptyAt_reserve (b := b.held times n) (by rwa [qps_held]) (times n)
  rwa [fillTime, qps_held, burst_held] at hstep

theorem grant_eq (n : Nat) : b.grant times n = max (times n) (b.held times (n + 1)).emptyAt :=
  granted_eq (by rwa [qps_held]) (times n)

/-- Each reservation uses the time of a token. -/
theorem emptyAt_held_add (m k : Nat) :
    (b.held times m).emptyAt + k * (1 / b.qps) ≤ (b.held times (m + k)).emptyAt := by
  induction k with
  | zero => simp
  | succ k ih =>
    have hstep := emptyAt_held_succ hq times (m + k)
    have hmax := le_max_right (times (m + k) - b.fillTime) (b.held times (m + k)).emptyAt
    rw [← add_assoc, hstep]
    push_cast
    linarith

/-- What any earlier reservation calls for is a bound from below. -/
theorem le_emptyAt_held (i k : Nat) :
    times i - b.fillTime + (k + 1) * (1 / b.qps) ≤ (b.held times (i + k + 1)).emptyAt := by
  have hrest := emptyAt_held_add hq times (i + 1) k
  have hstep := emptyAt_held_succ hq times i
  have hmax := le_max_left (times i - b.fillTime) (b.held times i).emptyAt
  rw [show i + k + 1 = i + 1 + k by omega]
  linarith

/-- For a bucket that is full at the first reservation, one of the reservations calls for exactly
that time. -/
theorem exists_emptyAt_held_eq (hfull : b.emptyAt ≤ times 0 - b.fillTime) (n : Nat) :
    ∃ i k, i + k = n ∧
      (b.held times (n + 1)).emptyAt = times i - b.fillTime + (k + 1) * (1 / b.qps) := by
  induction n with
  | zero =>
    refine ⟨0, 0, rfl, ?_⟩
    rw [emptyAt_held_succ hq, held, max_eq_left hfull]
    push_cast
    ring
  | succ n ih =>
    obtain ⟨i, k, rfl, hi⟩ := ih
    rw [emptyAt_held_succ hq]
    obtain hlate | hsoon := le_total (times (i + k + 1) - b.fillTime) (b.held times (i + k + 1)).emptyAt
    · refine ⟨i, k + 1, rfl, ?_⟩
      rw [max_eq_right hlate, hi]
      push_cast
      ring
    · refine ⟨i + k + 1, 0, rfl, ?_⟩
      rw [max_eq_left hsoon]
      push_cast
      ring

/-- A call keeps within burst and rate together with an earlier one exactly if it comes no sooner
than that one's grant calls for. -/
theorem conforms_iff (grants : Nat → Rat) (n : Nat) (t : Rat) : b.Conforms grants n t ↔
    ∀ i k, i + k + 1 = n → grants i - b.fillTime + (k + 2) * (1 / b.qps) ≤ t := by
  have hstep (i k : Nat) : ((i + k + 1 : Nat) : Rat) - i + 1 ≤ b.burst + b.qps * (t - grants i) ↔
      grants i - b.fillTime + (k + 2) * (1 / b.qps) ≤ t := by
    have hquot : grants i - b.fillTime + (k + 2) * (1 / b.qps) - t =
        (((i + k + 1 : Nat) : Rat) - i + 1 - (b.burst + b.qps * (t - grants i))) / b.qps := by
      unfold fillTime
      push_cast
      field_simp
      ring
    rw [← sub_nonpos, ← sub_nonpos (b := t), hquot, div_nonpos_iff]
    constructor
    · exact fun h => .inr ⟨h, hq.le⟩
    · rintro (⟨_, h⟩ | ⟨h, _⟩)
      · exact absurd h (not_le.2 hq)
      · exact h
  constructor
  · rintro h i k rfl
    exact (hstep i k).1 (h i (by omega))
  · intro h i hi
    obtain ⟨k, rfl⟩ := Nat.exists_eq_add_of_lt hi
    exact (hstep i k).2 (h i k rfl)

variable (hb : 1 ≤ b.burst)

include hb

theorem grant_conforms (n : Nat) : b.Conforms (b.grant times) n (b.grant times n) := by
  rw [conforms_iff hq]
  rintro i k rfl
  have htoken := token_le_fillTime hq hb
  have hrate := emptyAt_held_add hq times (i + 1) (k + 1)
  have hasked := le_emptyAt_held hq times i (k + 1)
  rw [show i + 1 + (k + 1) = i + k + 1 + 1 by omega] at hrate
  rw [show i + (k + 1) + 1 = i + k + 1 + 1 by omega] at hasked
  rw [grant_eq hq times (i + k + 1), le_max_iff, grant_eq hq times i]
  right
  push_cast at hrate hasked
  rcases max_cases (times i) (b.held times (i + 1)).emptyAt with ⟨hmax, _⟩ | ⟨hmax, _⟩
  · rw [hmax]
    linarith
  · rw [hmax]
    linarith

/-- A grant comes at the least time that conforms. -/
theorem grant_isLeast (hfull : b.emptyAt ≤ times 0 - b.fillTime) (n : Nat) :
    IsLeast { t | times n ≤ t ∧ b.Conforms (b.grant times) n t } (b.grant times n) := by
  constructor
  · refine ⟨?_, grant_conforms hq times hb n⟩
    rw [grant_eq hq]
    exact le_max_left _ _
  · rintro t ⟨hasked, hconforms⟩
    rw [conforms_iff hq] at hconforms
    rw [grant_eq hq, max_le_iff]
    refine ⟨hasked, ?_⟩
    obtain ⟨i, k, rfl, hempty⟩ := exists_emptyAt_held_eq hq times hfull n
    rw [hempty]
    cases k with
    | zero =>
      have htoken := token_le_fillTime hq hb
      rw [Nat.add_zero] at hasked
      push_cast
      linarith
    | succ k =>
      have hgrant : times i ≤ b.grant times i := by
        rw [grant_eq hq]
        exact le_max_left _ _
      have hi := hconforms i k rfl
      push_cast
      linarith

omit hb in
theorem grant_monotone (hmono : Monotone times) : Monotone (b.grant times) := by
  apply monotone_nat_of_le_succ
  intro n
  have hstep := emptyAt_held_add hq times (n + 1) 1
  have htoken : 0 ≤ 1 / b.qps := (one_div_pos.2 hq).le
  rw [grant_eq hq, grant_eq hq]
  apply max_le_max (hmono (Nat.le_succ n))
  push_cast at hstep
  linarith

/-- The calls that are granted within some time are no more than the burst and what the rate lets
through in that time. -/
theorem card_granted_le (first length : Rat) (calls : Finset Nat) (hlength : 0 ≤ length)
    (hcalls : ∀ n ∈ calls, b.grant times n ∈ Set.Icc first (first + length)) :
    (calls.card : Rat) ≤ b.burst + b.qps * length := by
  have hburst : (1 : Rat) ≤ b.burst := by exact_mod_cast hb
  have hrate : 0 ≤ b.qps * length := mul_nonneg hq.le hlength
  obtain rfl | hsome := calls.eq_empty_or_nonempty
  · rw [Finset.card_empty, Nat.cast_zero]
    linarith
  · have hi := calls.min'_mem hsome
    have hn := calls.max'_mem hsome
    have hcard : calls.card ≤ calls.max' hsome + 1 - calls.min' hsome := by
      rw [← Nat.card_Icc]
      apply Finset.card_le_card
      intro m hm
      exact Finset.mem_Icc.2 ⟨calls.min'_le m hm, calls.le_max' m hm⟩
    revert hi hn hcard
    generalize calls.min' hsome = i
    generalize calls.max' hsome = n
    intro hi hn hcard
    obtain hlt | hle := lt_or_ge i n
    · have hconforms := grant_conforms hq times hb n i hlt
      have hwithin : b.qps * (b.grant times n - b.grant times i) ≤ b.qps * length := by
        apply mul_le_mul_of_nonneg_left _ hq.le
        linarith [(hcalls n hn).2, (hcalls i hi).1]
      have hspread : (calls.card : Rat) ≤ (n : Rat) - i + 1 := by
        have hcount : calls.card + i ≤ n + 1 := by omega
        have hcast : (calls.card : Rat) + i ≤ n + 1 := by exact_mod_cast hcount
        linarith
      linarith
    · have hone : (calls.card : Rat) ≤ 1 := by
        exact_mod_cast (show calls.card ≤ 1 by omega)
      linarith

end Run

theorem emptyAt_full (qps : Rat) (burst : Int) (now : Rat) :
    (full qps burst now).emptyAt = now - (full qps burst now).fillTime := rfl

/-- What a wait leaves in the history. A wait of no length is none. -/
def waited (delay : Rat) : List (Event Rat) := if 0 < delay then [.pause delay] else []

variable {ω : Type} [Host Rat ω]

/-- Taking a token makes one reservation, and lasts as long as the reservation says if sleeping
does. -/
theorem acquire_ends {b : TokenBucket Rat} (hq : 0 < b.qps) (s : Site Rat ω) :
    Ends b.acquire s fun r t =>
      r = .ok (b.reserve (Host.now s.world)).2 ∧
      ((∀ d : Rat, 0 < d → Host.now s.world + d ≤ Host.now (Host.sleep d s.world)) →
        Host.now s.world + (b.reserve (Host.now s.world)).1 ≤ Host.now t.world) ∧
      t.events = s.events ++ waited (b.reserve (Host.now s.world)).1 := by
  have hpositive : ¬b.qps ≤ 0.0 := by
    rw [Seconds.zero_eq]
    exact not_le.2 hq
  unfold acquire
  rw [if_neg hpositive]
  apply Ends.bind_ok (Site.now_ends s)
  rintro s rfl
  dsimp only
  rw [Seconds.zero_eq]
  generalize b.reserve (Host.now s.world) = reservation
  obtain ⟨delay, left⟩ := reservation
  apply Ends.ite
  · intro hwait
    have hwait : 0 < delay := hwait
    apply Ends.bind_ok (Site.pause_ends delay s)
    rintro t ⟨hworld, hevents⟩
    refine ⟨rfl, ?_, ?_⟩
    · rw [run_pure, hworld]
      exact fun hsleep => hsleep delay hwait
    · rw [run_pure, hevents, waited, if_pos hwait]
  · intro hwait
    have hwait : ¬0 < delay := hwait
    refine ⟨rfl, ?_, ?_⟩
    · intro _
      show Host.now s.world + delay ≤ Host.now s.world
      linarith
    · rw [waited, if_neg hwait, List.append_nil]
      rfl

end TokenBucket

/-- Someone who makes a request, with the site from which it is made. -/
structure Caller (τ ω : Type) where
  site : Site τ ω
  args : List Value
  options : List (String × Value)

namespace ClientSet

variable {τ ω : Type} [Seconds τ] [Host τ ω]

/-- Runs the request of a caller. -/
def serve (c : ClientSet τ) (caller : Caller τ ω) :
    Except (Fault τ) (ClientSet τ × Except (Fault τ) Value) × Site τ ω :=
  (c.request caller.args caller.options).run caller.site

/-- The clients after the first requests, in the order in which these take their tokens. -/
def served (c : ClientSet τ) (callers : Nat → Caller τ ω) : Nat → ClientSet τ
  | 0 => c
  | n + 1 =>
    match ((c.served callers n).serve (callers n)).1 with
    | .ok (c', _) => c'
    | .error _ => c.served callers n

end ClientSet

section Request

variable {ω : Type} [Host Rat ω]

/-- A request makes one reservation, waits as long as that says, and is then sent once, whatever
comes of it. -/
theorem ClientSet.request_ends {c : ClientSet Rat} {b : TokenBucket Rat} (hc : c.limiter = some b)
    (hq : 0 < b.qps) (args : List Value) (options : List (String × Value)) (s : Site Rat ω)
    (hsleep : ∀ d : Rat, 0 < d → Host.now s.world + d ≤ Host.now (Host.sleep d s.world)) :
    Ends (c.request args options) s fun r t => ∃ sent reply,
      r = .ok ({ c with limiter := some (b.reserve (Host.now s.world)).2 }, reply) ∧
      Host.now s.world + (b.reserve (Host.now s.world)).1 ≤ sent ∧
      t.events = s.events ++ TokenBucket.waited (b.reserve (Host.now s.world)).1 ++
        [.exchange sent (.request args options) reply] := by
  have htoken : Ends (ClientSet.takeToken (some b)) s fun r t =>
      r = .ok (some (b.reserve (Host.now s.world)).2) ∧
      Host.now s.world + (b.reserve (Host.now s.world)).1 ≤ Host.now t.world ∧
      t.events = s.events ++ TokenBucket.waited (b.reserve (Host.now s.world)).1 := by
    apply Ends.map
    apply (b.acquire_ends hq s).mono
    rintro _ t ⟨rfl, hlasts, hwaited⟩
    exact ⟨rfl, hlasts hsleep, hwaited⟩
  unfold request
  rw [hc]
  apply Ends.bind_ok htoken
  rintro t ⟨hgrant, hwaited⟩
  apply Ends.bind_attempt (Site.call_ends (.request args options) t)
  rintro reply t' ⟨_, _, hsent⟩
  refine ⟨Host.now t.world, reply, rfl, hgrant, ?_⟩
  rw [run_pure, hsent, hwaited]

section Run

variable {c : ClientSet Rat} {b : TokenBucket Rat} {times : Nat → Rat} {callers : Nat → Caller Rat ω}
  (hq : 0 < b.qps) (hnow : ∀ n, Host.now (callers n).site.world = times n)
  (hsleep : ∀ n, ∀ d : Rat, 0 < d → times n + d ≤ Host.now (Host.sleep d (callers n).site.world))

include hq hnow hsleep

/-- A request that finds the bucket after `n` reservations makes the next one, and is sent once, not
before its grant. -/
theorem ClientSet.serve_ends (n : Nat)
    (hlimiter : (c.served callers n).limiter = some (b.held times n)) :
    (c.served callers (n + 1)).limiter = some (b.held times (n + 1)) ∧ ∃ sent reply after,
      (c.served callers n).serve (callers n) = (.ok (c.served callers (n + 1), reply), after) ∧
      b.grant times n ≤ sent ∧
      after.events = (callers n).site.events ++ TokenBucket.waited (b.grant times n - times n) ++
        [.exchange sent (.request (callers n).args (callers n).options) reply] := by
  have hrequest := ClientSet.request_ends hlimiter (by rwa [TokenBucket.qps_held])
    (callers n).args (callers n).options (callers n).site (by rw [hnow]; exact hsleep n)
  obtain ⟨sent, reply, hresult, hgrant, hevents⟩ := hrequest
  rw [hnow] at hresult hgrant hevents
  have hserve : ((c.served callers n).serve (callers n)).1 =
      .ok ({ c.served callers n with limiter := some (b.held times (n + 1)) }, reply) := hresult
  have hnext : c.served callers (n + 1) =
      { c.served callers n with limiter := some (b.held times (n + 1)) } := by
    rw [ClientSet.served, hserve]
  rw [← hnext] at hserve
  refine ⟨by rw [hnext], sent, reply, ((c.served callers n).serve (callers n)).2, ?_, hgrant, ?_⟩
  · rw [← hserve]
  · rw [show b.grant times n - times n = ((b.held times n).reserve (times n)).1 from
      add_sub_cancel_left _ _]
    exact hevents

/-- Over a run of requests each makes one reservation. -/
theorem ClientSet.limiter_served (hc : c.limiter = some b) (n : Nat) :
    (c.served callers n).limiter = some (b.held times n) := by
  induction n with
  | zero => exact hc
  | succ n ih => exact (ClientSet.serve_ends hq hnow hsleep n ih).1

end Run

/-- Each call is granted at the least time at which it keeps within burst and rate together with the
calls before it. So grants never go back, a window of time holds no more of them than burst and rate
allow, and a request is sent once, after the one reservation that it makes is granted, whatever
comes of it. -/
theorem requests_granted_earliest {qps : Rat} {burst : Int} {start : Rat} {times : Nat → Rat}
    (hq : 0 < qps) (hmono : Monotone times) (hstart : start ≤ times 0) :
    let b := TokenBucket.full qps burst start
    (∀ n : Nat, IsLeast
      { t | times n ≤ t ∧ ∀ i < n,
        (n : Rat) - i + 1 ≤ (max 1 burst : Int) + qps * (t - b.grant times i) }
      (b.grant times n)) ∧
    Monotone (b.grant times) ∧
    (∀ (first length : Rat) (calls : Finset Nat), 0 ≤ length →
      (∀ n ∈ calls, b.grant times n ∈ Set.Icc first (first + length)) →
      (calls.card : Rat) ≤ (max 1 burst : Int) + qps * length) ∧
    ∀ (c : ClientSet Rat) (callers : Nat → Caller Rat ω), c.limiter = some b →
      (∀ n, Host.now (callers n).site.world = times n) →
      (∀ n, ∀ d : Rat, 0 < d → times n + d ≤ Host.now (Host.sleep d (callers n).site.world)) →
      ∀ n, (c.served callers n).limiter = some (b.held times n) ∧ ∃ sent reply after,
        (c.served callers n).serve (callers n) = (.ok (c.served callers (n + 1), reply), after) ∧
        b.grant times n ≤ sent ∧
        after.events = (callers n).site.events ++ TokenBucket.waited (b.grant times n - times n) ++
          [.exchange sent (.request (callers n).args (callers n).options) reply] := by
  intro b
  have hqps : 0 < b.qps := hq
  have hburst : 1 ≤ b.burst := le_max_left 1 burst
  have hfull : b.emptyAt ≤ times 0 - b.fillTime := by
    rw [TokenBucket.emptyAt_full]
    exact sub_le_sub_right hstart _
  refine ⟨?_, TokenBucket.grant_monotone hqps times hmono, ?_, ?_⟩
  · exact TokenBucket.grant_isLeast hqps times hburst hfull
  · intro first length calls
    exact TokenBucket.card_granted_le hqps times hburst first length calls
  · intro c callers hc hnow hsleep n
    have hlimiter := ClientSet.limiter_served hqps hnow hsleep hc n
    exact ⟨hlimiter, (ClientSet.serve_ends hqps hnow hsleep n hlimiter).2⟩

/-- A world in which the first request fails. -/
def refusing : Scripted.World Rat := .start 0 [("call_api", [⟨some 1, 0, .raise .notFound⟩])] []

/-- Three callers reserve at once from a bucket of one token, which ten a second fill. The third one
is granted after a fifth of a second, and its request fails. -/
theorem requests_granted_earliest_atOnce :
    let b : TokenBucket Rat := .full 10 0 0
    let c : ClientSet Rat := ⟨ClientSet.defaultAgent, some b, none⟩
    let callers : Nat → Caller Rat (Scripted.World Rat) := fun _ => ⟨.start refusing, [], []⟩
    b.grant (fun _ => 0) 2 = 1 / 5 ∧
      IsLeast { t : Rat | 0 ≤ t ∧ ∀ i < (2 : Nat), ((2 : Nat) : Rat) - i + 1 ≤
        (max 1 0 : Int) + 10 * (t - b.grant (fun _ => 0) i) } (1 / 5) ∧
      ∃ sent reply after,
        (c.served callers 2).serve (callers 2) = (.ok (c.served callers 3, reply), after) ∧
        reply.isOk = false ∧ 1 / 5 ≤ sent ∧
        after.events = [.pause (1 / 5), .exchange sent (.request [] []) reply] := by
  intro b c callers
  have hgrant : b.grant (fun _ => 0) 2 = 1 / 5 := by decide +kernel
  have hclock (n : Nat) : Host.now (callers n).site.world = 0 := rfl
  have hsleep (n : Nat) (d : Rat) (_ : 0 < d) :
      0 + d ≤ Host.now (Host.sleep d (callers n).site.world) := le_refl (0 + d)
  obtain ⟨hleast, _, _, hserved⟩ := @requests_granted_earliest (Scripted.World Rat) _ 10 0 0
    (fun _ => 0) (by norm_num) monotone_const le_rfl
  refine ⟨hgrant, ?_, ?_⟩
  · have h := hleast 2
    rwa [hgrant] at h
  · obtain ⟨_, sent, reply, after, hserve, hsent, hevents⟩ := hserved c callers rfl hclock hsleep 2
    have hwaited : TokenBucket.waited ((1 : Rat) / 5) = [.pause (1 / 5)] := if_pos (by norm_num)
    rw [hgrant] at hsent hevents
    rw [sub_zero, hwaited] at hevents
    have hfails : ((c.served callers 2).serve (callers 2)).1.toOption.map (·.2.isOk) =
        some false := by decide +kernel
    rw [hserve] at hfails
    exact ⟨sent, reply, after, hserve, Option.some_inj.1 hfails, hsent, hevents⟩

end Request

end Client

end Testbed
