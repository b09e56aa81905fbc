import Testbed.Proofs.History
import Testbed.Proofs.Waiting

/-!
# Requests for deletions

A cluster that is to delete a namespace is asked once, before anything else: a live one by a request
to its server, a stub by its own operation. Whatever the answer, the rest of a deletion only looks
whether the namespace is gone.
-/

set_option autoImplicit false

namespace Testbed

open Proc

variable {τ ω κ : Type}

/-- The requests for deletions among events, in order. -/
def requestsIn (events : List (Event τ)) : List (Call τ) :=
  events.filterMap fun e => e.call?.filter Call.isDeletion

@[simp] theorem requestsIn_nil : requestsIn ([] : List (Event τ)) = [] := rfl

@[simp] theorem requestsIn_append (events later : List (Event τ)) :
    requestsIn (events ++ later) = requestsIn events ++ requestsIn later := List.filterMap_append

/-- Procedures that make calls of other kinds leave no requests. -/
theorem requestsIn_eq_nil {calls : Call τ → Prop} (hcalls : ∀ c, calls c → c.isDeletion = false)
    {events : List (Event τ)} (h : ∀ e ∈ events, e.Among calls) : requestsIn events = [] := by
  apply List.filterMap_eq_nil_iff.2
  intro e he
  have hamong := h e he
  cases e with
  | exchange _ c _ =>
    show Option.filter Call.isDeletion (some c) = none
    simp [hcalls c hamong]
  | _ => rfl

/-- The call by which a cluster is asked to delete a namespace through a client. -/
def Cluster.request (c : Cluster τ) (client : String) (timeout : τ) (name : String) : Call τ :=
  match c with
  | .live _ => .deleteNamespace client name
  | .stub => .dispose name client timeout

variable [Host τ ω]

/-- The request comes first, and is left to its answer. -/
theorem Namespace.requestDeletion_ends (client name : String) (s : Site τ ω) :
    Ends (requestDeletion client name) s fun _ t => ∃ reply, t.events =
      s.events ++ [.exchange (Host.now s.world) (.deleteNamespace client name) reply] := by
  apply Ends.rescue (Site.call_ends (.deleteNamespace client name) s)
  · intro _ t hends
    obtain ⟨_, _, hevents⟩ := hends
    exact ⟨_, hevents⟩
  · intro e t hends
    obtain ⟨_, _, hevents⟩ := hends
    split
    · exact ⟨_, hevents⟩
    · exact ⟨_, hevents⟩

variable [Seconds τ]

/-- To delete a namespace a cluster is asked once. -/
theorem Cluster.deleteNamespace_requests (c : Cluster τ) (name client : String) (timeout : τ)
    (s : Site τ ω) : Ends (c.deleteNamespace name client timeout) s fun _ t =>
      ∃ new, t.events = s.events ++ new ∧ requestsIn new = [c.request client timeout name] := by
  cases c with
  | stub =>
    apply (Site.call_ends (.dispose name client timeout) s).mono
    intro _ t hends
    obtain ⟨_, _, hevents⟩ := hends
    exact ⟨_, hevents, rfl⟩
  | live config =>
    have hwait : (Namespace.awaitGone client name timeout Poll.standardInterval
        : SiteM τ ω Unit).Along (Site.Makes fun call => call.isDeletion = false) :=
      Site.makes (Site.Step.ofWork (Namespace.madeOf_awaitGone (fun _ _ => trivial) client name
        timeout Poll.standardInterval rfl rfl fun _ => rfl))
    apply Ends.bind (Namespace.requestDeletion_ends client name s)
    · intro _ t hends
      obtain ⟨reply, hasked⟩ := hends
      apply (hwait t).mono
      intro _ u hends
      obtain ⟨later, hlater, hamong⟩ := hends
      refine ⟨_, by rw [hlater, hasked, List.append_assoc], ?_⟩
      rw [requestsIn_append, requestsIn_eq_nil (fun _ => id) hamong, List.append_nil]
      rfl
    · intro _ t hends
      obtain ⟨reply, hasked⟩ := hends
      exact ⟨_, hasked, rfl⟩

end Testbed
