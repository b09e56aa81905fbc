import Testbed.Proofs.Leftovers
import Testbed.Proofs.Timely

/-!
# Waiting for a namespace to go away

A deletion is requested once, and then the namespace is read on the schedule of a poll. What a read
tells is one of three things: that the namespace is gone, that it is still there as far as one can
tell, or nothing, if a fault which is not ordinary leaves it. The deletion ends well exactly if a
read that the poll comes to tells that the namespace is gone.
-/

set_option autoImplicit false

namespace Testbed

open Proc

namespace DeletionKind

/-- The statuses of the server that a kind stands for. -/
def StandsFor : DeletionKind → Option Int → Prop
  | .notFound, status => status = some 404
  | .forbidden, status => status = some 403
  | .timeout, status => status = some 408 ∨ status = some 504
  | .other, status => ∀ code ∈ [404, 403, 408, 504], status ≠ some code

theorem standsFor_ofStatus (status : Option Int) : (ofStatus status).StandsFor status := by
  unfold ofStatus
  split
  · exact rfl
  · exact rfl
  · exact .inl rfl
  · exact .inr rfl
  · rename_i hnotFound hforbidden htimeout hgateway
    simp only [StandsFor, List.forall_mem_cons]
    exact ⟨hnotFound, hforbidden, htimeout, hgateway, by simp⟩

end DeletionKind

namespace Namespace

/-- What a read tells of a namespace that is to go away. -/
inductive Sight (τ : Type) where
  | gone
  | still
  | cut (e : Fault τ)

/-- What is seen in the reply to a read: only the answer that the namespace does not exist tells that
it is gone. -/
def sight {τ : Type} : Except (Fault τ) Remote → Sight τ
  | .ok _ => .still
  | .error (.api (some 404) _ _) => .gone
  | .error e => if e.isOrdinary then .still else .cut e

variable {ω : Type} [Host Rat ω]

/-- The poll for a namespace to go away. -/
def removal (name : String) (timeout interval : Rat) : Poll Rat :=
  ⟨timeout, interval, "namespace " ++ name ++ " deletion"⟩

/-- A read of a namespace. -/
abbrev reading (client name : String) : SiteM Rat ω Remote := Site.call (.readNamespace client name)

section Reads

variable (p : Poll Rat) (client name : String) (start : Site Rat ω)

/-- What the read with this number, counted from zero, tells. -/
def sightAt (n : Nat) : Sight Rat := sight (p.outcome (reading client name) start n)

/-- The read with this number ends at the deadline or later. -/
def IsLate (n : Nat) : Prop :=
  p.deadline start ≤ Host.now (p.ended (reading client name) start n).world

/-- The poll comes to the read with this number: those before it end in time, and tell that the
namespace is still there. -/
def Reaches (n : Nat) : Prop :=
  ∀ m < n, sightAt p client name start m = .still ∧ ¬IsLate p client name start m

/-- The fault of the poll if it gives up after the read with this number: it tells how often the
namespace was read, and the fault of the last read that has failed. -/
def givenUp (n : Nat) : Fault Rat :=
  .pollTimeout p (n + 1) (p.absorbed Poll.absorbsOrdinary (isGone client name) start (n + 1)).getLast?

end Reads

section Sights

/-- Whether a namespace is gone, by the reply to a read. -/
def judged {τ : Type} : Except (Fault τ) Remote → Except (Fault τ) Bool
  | .ok _ => .ok false
  | .error (.api (some 404) _ _) => .ok true
  | .error e => .error e

/-- What is seen is told by what the poll makes of the reply. -/
theorem sight_eq {τ : Type} (r : Except (Fault τ) Remote) :
    sight r =
      match judged r with
      | .ok true => .gone
      | .ok false => .still
      | .error e => if e.isOrdinary then .still else .cut e := by
  unfold sight judged
  split <;> rfl

/-- The look of the poll does what the read does. -/
theorem run_isGone (client name : String) (s : Site Rat ω) : (isGone client name).run s =
    (judged ((reading client name).run s).1, ((reading client name).run s).2) := by
  rw [isGone, run_rescue, run_bind]
  rcases (reading client name).run s with ⟨e | remote, t⟩
  · unfold judged
    dsimp only
    split <;> simp_all
  · rfl

variable {p : Poll Rat} {client name : String} {start : Site Rat ω}

theorem begun_isGone (n : Nat) : p.begun (isGone client name) start n = p.begun (reading client name) start n :=
  Poll.begun_congr (fun s => by rw [run_isGone]) n

theorem ended_isGone (n : Nat) : p.ended (isGone client name) start n = p.ended (reading client name) start n :=
  Poll.ended_congr (fun s => by rw [run_isGone]) n

theorem outcome_isGone (n : Nat) :
    p.outcome (isGone client name) start n = judged (p.outcome (reading client name) start n) := by
  rw [Poll.outcome, begun_isGone, run_isGone, Poll.outcome]

/-- A read is the last one if it tells anything else than that the namespace is still there, or if it
is late. -/
theorem decides_isGone (n : Nat) :
    p.Decides Poll.absorbsOrdinary (isGone client name) start n ↔
      sightAt p client name start n ≠ .still ∨ IsLate p client name start n := by
  rw [Poll.Decides, ended_isGone, sightAt, sight_eq, ← outcome_isGone, IsLate]
  cases p.outcome (isGone client name) start n with
  | ok gone => cases gone <;> simp
  | error e => cases he : e.isOrdinary <;> simp [Poll.absorbsOrdinary, he]

/-- A poll comes to no more than one last read. -/
theorem Reaches.eq_of_last {k n : Nat} (hk : Reaches p client name start k) (hn : Reaches p client name start n)
    (hlast : sightAt p client name start k ≠ .still ∨ IsLate p client name start k)
    (hlast' : sightAt p client name start n ≠ .still ∨ IsLate p client name start n) : k = n := by
  have onward {i j : Nat} (hj : Reaches p client name start j)
      (hi : sightAt p client name start i ≠ .still ∨ IsLate p client name start i) : ¬i < j := by
    intro hlt
    obtain ⟨hstill, hearly⟩ := hj i hlt
    exact hi.elim (fun h => h hstill) hearly
  exact Nat.le_antisymm (Nat.not_lt.1 (onward hk hlast')) (Nat.not_lt.1 (onward hn hlast))

/-- A poll without time comes to one read only, which is late. -/
theorem isLate_zero (hpunctual : Punctual ω) (htimeout : p.timeout = 0) : IsLate p client name start 0 := by
  have hforward := hpunctual.reply (.readNamespace client name) start.world
  rw [IsLate, Poll.deadline, htimeout, add_zero]
  exact hforward

theorem Reaches.eq_zero {n : Nat} (h : Reaches p client name start n) (hlate : IsLate p client name start 0) :
    n = 0 := by
  by_contra hn
  exact (h 0 (Nat.pos_of_ne_zero hn)).2 hlate

/-- The poll comes to a last read, and ends as that says. -/
theorem await_removal (p : Poll Rat) (client name : String) (start : Site Rat ω) (hpunctual : Punctual ω)
    (hbounds : Poll.InBounds p.timeout p.interval) :
    ∃ n, Reaches p client name start n ∧
      (sightAt p client name start n ≠ .still ∨ IsLate p client name start n) ∧
      (p.await Poll.absorbsOrdinary (Poll.whether (isGone client name))).run start =
        (match sightAt p client name start n with
        | .gone => .ok (.ok ())
        | .still => .ok (.error (p.waitingAfter Poll.absorbsOrdinary (isGone client name) start (n + 1)))
        | .cut e => .error e, p.ended (reading client name) start n) := by
  have hforward (n : Nat) : Host.now (p.begun (Poll.whether (isGone client name)) start n).world ≤
      Host.now (p.ended (Poll.whether (isGone client name)) start n).world := by
    rw [Poll.begun_whether, Poll.ended_whether, begun_isGone, ended_isGone]
    exact hpunctual.reply _ _
  obtain ⟨n, hleast, hrun⟩ :=
    Poll.await_run Poll.absorbsOrdinary hbounds hpunctual.sleeps hforward
  have hbefore := Poll.not_decides_of_lt hleast
  refine ⟨n, ?_, (decides_isGone n).1 (Poll.isLeast_decides hleast).1, ?_⟩
  · intro m hm
    have hgoes := hbefore m hm
    rw [decides_isGone, not_or, not_not] at hgoes
    exact hgoes
  · rw [hrun, Poll.conclusion_whether hleast, Poll.ended_whether,
      ended_isGone, sightAt, sight_eq, ← outcome_isGone]
    cases p.outcome (isGone client name) start n with
    | ok gone => cases gone <;> simp
    | error e => cases he : e.isOrdinary <;> simp [Poll.absorbsOrdinary, he]

end Sights

section Deletion

/-- The request that a namespace be deleted. -/
abbrev request (client name : String) : SiteM Rat ω Unit := Site.call (.deleteNamespace client name)

variable {client name : String} {timeout interval : Rat} {s : Site Rat ω}

/-- A deletion that is accepted ends as the last read says, or with what is left in the namespace if
that read is late. -/
theorem delete_outcome (hpunctual : Punctual ω) (hbounds : Poll.InBounds timeout interval)
    (haccepted : ((request client name).run s).1 = .ok ()) :
    let p := removal name timeout interval
    let asked := ((request client name).run s).2
    ∃ n, Reaches p client name asked n ∧ (sightAt p client name asked n ≠ .still ∨ IsLate p client name asked n) ∧
      ((deleteThrough client name timeout interval).run s).1 =
        match sightAt p client name asked n with
        | .gone => .ok ()
        | .still =>
          match ((leftovers client name).run (p.ended (reading client name) asked n)).1 with
          | .ok counts => .error
              (.deletion name .timeout (stillPresent timeout counts) (some (givenUp p client name asked n)))
          | .error e => .error e
        | .cut e => .error e := by
  intro p asked
  have hrequest : (requestDeletion client name).run s = (.ok (), asked) := by
    rw [requestDeletion, run_rescue]
    revert haccepted
    simp only [asked]
    rcases (request client name).run s with ⟨_ | _, t⟩
    · rintro ⟨⟩
    · exact fun _ => rfl
  have hsubject : ("namespace " ++ name ++ " deletion").isEmpty = false :=
    Poll.isEmpty_append_append (by decide)
  have hpoll : (Poll.required timeout interval ("namespace " ++ name ++ " deletion")).run asked =
      (.ok p, asked) := by
    obtain ⟨hok, hsame⟩ := Poll.required_ends hbounds hsubject asked
    exact Prod.ext hok hsame
  obtain ⟨n, hreaches, hlast, hrun⟩ := await_removal p client name asked hpunctual hbounds
  refine ⟨n, hreaches, hlast, ?_⟩
  rw [deleteThrough, run_bind_ok hrequest, awaitGone, run_bind_ok hpoll, run_bind, hrun]
  cases sightAt p client name asked n with
  | gone => rfl
  | cut e => rfl
  | still =>
    dsimp only
    rw [run_bind]
    rcases (leftovers client name).run (p.ended (reading client name) asked n) with ⟨e | counts, t⟩
    · rfl
    · rfl

/-- How a deletion ends that is not accepted but left by this fault. The namespace is not read. -/
structure Refused (client name : String) (e : Fault Rat) (s : Site Rat ω)
    (ending : Except (Fault Rat) Unit) (t : Site Rat ω) : Prop where
  answer : ∀ status reason body, e = .api status reason body → ∃ kind : DeletionKind,
    kind.StandsFor status ∧
      ending = .error (.deletion name kind (answerReason status reason body) (some e))
  other : e.isAnswer = false → ending = .error e
  unread : t.events =
    s.events ++ [.exchange (Host.now s.world) (.deleteNamespace client name) (.error e)]

/-- How a deletion ends that is accepted, as long as no read tells that the namespace is gone. -/
structure Outstays (p : Poll Rat) (client name : String) (asked : Site Rat ω)
    (ending : Except (Fault Rat) Unit) : Prop where
  cut : ∀ n e, Reaches p client name asked n → sightAt p client name asked n = .cut e → ending = .error e
  expired : (∀ n, Reaches p client name asked n → sightAt p client name asked n = .still) →
    (∀ n, Reaches p client name asked n → IsLate p client name asked n →
      Countable client name (p.ended (reading client name) asked n)) →
    ∃ n counts, Reaches p client name asked n ∧ IsLate p client name asked n ∧ ending = .error
      (.deletion name .timeout (stillPresent p.timeout counts) (some (givenUp p client name asked n)))

/-- The fault that is told if the request is left by this one. -/
def refusal (name : String) : Fault Rat → Fault Rat
  | .api status reason body =>
    .deletion name (.ofStatus status) (answerReason status reason body)
      (some (.api status reason body))
  | e => e

/-- A deletion that is not accepted ends after the request. -/
theorem run_delete_refused (timeout interval : Rat) {e : Fault Rat}
    (hrefused : ((request client name).run s).1 = .error e) :
    (deleteThrough client name timeout interval).run s =
      (.error (refusal name e), ((request client name).run s).2) := by
  have hrequest : (request client name).run s = (.error e, ((request client name).run s).2) :=
    Prod.ext hrefused rfl
  apply run_bind_error
  rw [requestDeletion, run_rescue, hrequest]
  cases e <;> rfl

theorem refused_refusal {e : Fault Rat} (hrefused : ((request client name).run s).1 = .error e) :
    Refused client name e s (.error (refusal name e)) ((request client name).run s).2 := by
  constructor
  · rintro status reason body rfl
    exact ⟨_, DeletionKind.standsFor_ofStatus status, rfl⟩
  · intro he
    cases e with
    | api status reason body => cases he
    | _ => rfl
  · rw [← hrefused]
    exact (Site.call_ends (.deleteNamespace client name) s).2.2

theorem delete_accepted (hpunctual : Punctual ω) (hbounds : Poll.InBounds timeout interval)
    (haccepted : ((request client name).run s).1 = .ok ()) :
    let p := removal name timeout interval
    let asked := ((request client name).run s).2
    Ends (deleteThrough client name timeout interval) s fun ending _ =>
      (ending = .ok () ↔ ∃ n, Reaches p client name asked n ∧ sightAt p client name asked n = .gone) ∧
      Outstays p client name asked ending := by
  intro p asked
  obtain ⟨n, hreaches, hlast, hending⟩ := delete_outcome hpunctual hbounds haccepted
  unfold Ends
  rw [hending]
  have honly {m : Nat} (hm : Reaches p client name asked m) (hgoes : sightAt p client name asked m ≠ .still) :
      m = n := hm.eq_of_last hreaches (.inl hgoes) hlast
  refine ⟨⟨?_, ?_⟩, ?_, ?_⟩
  · intro hok
    refine ⟨n, hreaches, ?_⟩
    revert hok
    cases sightAt p client name asked n with
    | gone => exact fun _ => rfl
    | still =>
      dsimp only
      split <;> rintro ⟨⟩
    | cut e => rintro ⟨⟩
  · rintro ⟨m, hm, hgone⟩
    obtain rfl := honly hm (by rw [hgone]; rintro ⟨⟩)
    rw [hgone]
  · intro m e hm hcut
    obtain rfl := honly hm (by rw [hcut]; rintro ⟨⟩)
    rw [hcut]
  · intro hstill hcountable
    have hn := hstill n hreaches
    have hlate := hlast.resolve_left (not_not_intro hn)
    obtain ⟨counts, hcounts⟩ := (hcountable n hreaches hlate).counts
    exact ⟨n, counts, hreaches, hlate, by rw [hn, hcounts]; rfl⟩

/-- A deletion is reported as the server answers. It ends well exactly if it is accepted and a read
that the poll comes to tells that the namespace is gone. -/
theorem delete_reports (hpunctual : Punctual ω) (hbounds : Poll.InBounds timeout interval)
    (client name : String) (s : Site Rat ω) :
    let p := removal name timeout interval
    let asked := ((request client name).run s).2
    Ends (deleteThrough client name timeout interval) s fun ending t =>
      (ending = .ok () ↔ ((request client name).run s).1 = .ok () ∧
        ∃ n, Reaches p client name asked n ∧ sightAt p client name asked n = .gone) ∧
      (∀ e, ((request client name).run s).1 = .error e → Refused client name e s ending t) ∧
      (((request client name).run s).1 = .ok () → Outstays p client name asked ending) := by
  intro p asked
  cases hrequest : ((request client name).run s).1 with
  | error e =>
    rw [Ends, run_delete_refused timeout interval hrequest]
    refine ⟨⟨by rintro ⟨⟩, by rintro ⟨⟨⟩, _⟩⟩, ?_, by rintro ⟨⟩⟩
    rintro _ ⟨⟩
    exact refused_refusal hrequest
  | ok _ =>
    obtain ⟨hreturns, houtstays⟩ := delete_accepted hpunctual hbounds hrequest
    exact ⟨hreturns.trans ⟨fun h => ⟨rfl, h⟩, And.right⟩, by rintro _ ⟨⟩, fun _ => houtstays⟩

end Deletion

section Recovery

open Scripted

/-- A world in which the server fails at the first read of a namespace, after a second. -/
def recoveringWorld : Timely :=
  .start [("api.read_namespace", [⟨some 1, 1, .raise (.api (some 500) none none)⟩])]
    (by decide +kernel)

/-- The failure only means that the namespace is read again. Then it is gone. -/
theorem delete_reports_recovering :
    Punctual Timely ∧ Poll.InBounds (3 : Rat) 2 ∧
      ((deleteThrough "c" "web-1" 3 2).run (.start recoveringWorld)).1 = .ok () := by
  have hbounds : Poll.InBounds (3 : Rat) 2 := ⟨by decide +kernel, by decide +kernel⟩
  refine ⟨Timely.punctual, hbounds, ?_⟩
  refine (delete_reports Timely.punctual hbounds "c" "web-1" (.start recoveringWorld)).1.2 ?_
  refine ⟨rfl, 1, ?_, rfl⟩
  intro m hm
  obtain rfl : m = 0 := by omega
  refine ⟨rfl, ?_⟩
  unfold IsLate
  decide +kernel

end Recovery

end Namespace

end Testbed
