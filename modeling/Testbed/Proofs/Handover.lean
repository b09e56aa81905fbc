import Testbed.Framework.Namespaces
import Testbed.Proofs.History
import Testbed.Proofs.Waiting

/-!
# What a creation hands over

Between the answer that a namespace was created and the end of the creation lies the wait until the
namespace is in use. What the creation has obtained by then it hands over in every case but one: a
fault that is not ordinary leaves the read of that wait. Nothing else that the server does, and no
such fault of another call, keeps a namespace from being handed over.
-/

set_option autoImplicit false

namespace Testbed

open Proc Framework

variable {τ ω : Type}

namespace Event

/-- The namespaces that an exchange brings up: one that it has created, or those that a lookup has
found. -/
def obtained : Event τ → List Namespace.Record
  | .exchange _ (.createNamespace ..) (.ok made) => [made.record]
  | .exchange _ (.listNamespaces ..) (.ok found) => found.map (·.record)
  | _ => []

/-- The namespace with which a creation goes on: the one that was created, or the first one that was
found. -/
def adopted : Event τ → List Namespace.Record
  | .exchange _ (.createNamespace ..) (.ok made) => [made.record]
  | .exchange _ (.listNamespaces ..) (.ok found) => (found.head?.map (·.record)).toList
  | _ => []

/-- Whether the event is the read of a namespace that a fault leaves which is not ordinary. -/
def cutsRead : Event τ → Bool
  | .exchange _ (.readNamespace ..) (.error e) => !e.isOrdinary
  | _ => false

/-- An event of work that has no part in creations brings nothing up and cuts no read. -/
theorem Among.idle {e : Event τ} (h : e.Among Call.IsIncidental) :
    e.adopted = [] ∧ e.cutsRead = false := by
  cases e with
  | exchange time c reply =>
    cases c with
    | createNamespace client name labels => exact h.elim
    | listNamespaces client selector => exact h.elim
    | readNamespace client name => exact h.elim
    | _ => exact ⟨rfl, rfl⟩
  | _ => exact ⟨rfl, rfl⟩

end Event

/-- A fault that is not ordinary carries no namespace. -/
theorem Framework.leftoverOf_of_passing {e : Fault τ} (h : e.isOrdinary = false) :
    leftoverOf e = none := by
  cases e with
  | creation baseName reason leftover cause => cases h
  | _ => rfl

namespace Site

/-- The second site comes after the first one, these namespaces were adopted on the way, and a read
was cut or not. -/
def Gains (records : List Namespace.Record) (cut : Bool) (s t : Site τ ω) : Prop :=
  ∃ new, t.events = s.events ++ new ∧ new.flatMap Event.adopted = records ∧
    new.any Event.cutsRead = cut

namespace Gains

variable {records more : List Namespace.Record} {cut cut' : Bool} {s t u : Site τ ω}

theorem refl (s : Site τ ω) : Gains [] false s s := ⟨[], (List.append_nil _).symm, rfl, rfl⟩

theorem trans (h : Gains records cut s t) (h' : Gains more cut' t u) :
    Gains (records ++ more) (cut || cut') s u := by
  obtain ⟨new, hnew, hrecords, hcut⟩ := h
  obtain ⟨later, hlater, hmore, hcut'⟩ := h'
  refine ⟨new ++ later, ?_, ?_, ?_⟩
  · rw [hlater, hnew, List.append_assoc]
  · rw [List.flatMap_append, hrecords, hmore]
  · rw [List.any_append, hcut, hcut']

/-- One event more. -/
theorem of_event {e : Event τ} (h : t.events = s.events ++ [e]) :
    Gains e.adopted e.cutsRead s t :=
  ⟨[e], h, by simp, by simp⟩

/-- Nothing adopted and no read cut, before or after. -/
theorem then_idle (h : Gains records cut s t) (h' : Gains [] false t u) : Gains records cut s u := by
  have hboth := h.trans h'
  rwa [List.append_nil, Bool.or_false] at hboth

theorem idle_then (h : Gains [] false s t) (h' : Gains records cut t u) :
    Gains records cut s u := h.trans h'

end Gains

end Site

namespace Namespace

open Site

variable [Host τ ω]

theorem pause_gains (length : τ) (s : Site τ ω) :
    Ends (Site.pause length : SiteM τ ω Unit) s fun r t => r = .ok () ∧ Gains [] false s t := by
  apply (Site.pause_ends length s).mono
  rintro r t ⟨hr, _, hevents⟩
  exact ⟨hr, Gains.of_event hevents⟩

variable [Seconds τ]

/-- What one attempt obtains: a namespace if it has found one, and nothing otherwise. -/
def Attempted (s : Site τ ω) : Except (Fault τ) (Poll.Look τ Record) → Site τ ω → Prop
  | .ok (.found record), t => Gains [record] false s t
  | .ok (.notYet _), t => Gains [] false s t
  | .error e, t => leftoverOf e = none ∧ Gains [] false s t

theorem findCreated_gains (client baseName id : String) (failure : Fault τ) (s : Site τ ω) :
    Ends (findCreated client baseName id failure) s fun r t =>
      match r with
      | .ok found => Gains (found.map (·.record)).toList false s t
      | .error e => leftoverOf e = none ∧ Gains [] false s t := by
  apply Ends.bind_attempt (Site.call_ends _ s)
  rintro r t ⟨_, _, hevents⟩
  have h := Gains.of_event hevents
  cases r with
  | error e =>
    apply Ends.ite
    · intro _
      exact ⟨rfl, h⟩
    · intro he
      exact ⟨leftoverOf_of_passing (by simpa using he), h⟩
  | ok found =>
    cases found with
    | nil => exact h
    | cons first rest =>
      apply Ends.bind_ok (Site.log_ends _ _ _ t)
      rintro t' ⟨_, hlog⟩
      exact h.then_idle (Gains.of_event hlog)

theorem tryCreate_gains (client baseName : String) (labels : Labels) (s : Site τ ω) :
    Ends (tryCreate client baseName labels) s (Attempted s) := by
  apply Ends.bind_ok (Site.freshId_ends s)
  rintro s₁ ⟨_, hevents⟩
  have h₁ : Gains [] false s s₁ := ⟨[], by rw [hevents, List.append_nil], rfl, rfl⟩
  apply Ends.bind_attempt (Site.call_ends _ s₁)
  rintro r t ⟨_, _, hevents⟩
  have h := h₁.idle_then (Gains.of_event hevents)
  cases r with
  | ok made => exact h
  | error e =>
    apply Ends.ite
    · intro he
      exact ⟨leftoverOf_of_passing (by simpa using he), h⟩
    · intro _
      split
      · apply Ends.bind_ok (Site.log_ends _ _ _ t)
        rintro t' ⟨_, hlog⟩
        exact h.then_idle (Gains.of_event hlog)
      · apply Ends.bind (findCreated_gains client baseName _ e t)
        · intro found t' ht'
          cases found with
          | none => exact h.idle_then ht'
          | some n => exact h.idle_then ht'
        · rintro e' t' ⟨he', ht'⟩
          exact ⟨he', h.idle_then ht'⟩

theorem createWithin_gains (client baseName : String) (labels : Labels) (timeout interval : τ)
    (s : Site τ ω) :
    Ends (createWithin client baseName labels timeout interval) s fun r t =>
      match r with
      | .ok record => Poll.InBounds timeout interval ∧ Gains [record] false s t
      | .error e => leftoverOf e = none ∧ Gains [] false s t := by
  apply Ends.bind (Poll.required_found timeout interval _ s)
  · rintro p s ⟨rfl, hbounds⟩
    have hlook (w : Poll.Waiting τ) (t : Site τ ω) (ht : Gains [] false s t) :
        Ends (tryCreate client baseName labels) t fun r u => Poll.Judged (Gains [] false s)
          (fun record u => Gains [record] false s u)
          (fun e u => leftoverOf e = none ∧ Gains [] false s u)
          (Poll.verdict Poll.absorbsNone w r) u := by
      apply (tryCreate_gains client baseName labels t).mono
      intro r u hu
      cases r with
      | error e => exact ⟨hu.1, ht.idle_then hu.2⟩
      | ok look => cases look <;> exact ht.idle_then hu
    have hpause (length : τ) (t : Site τ ω) (ht : Gains [] false s t) :
        Ends (Site.pause length : SiteM τ ω Unit) t fun r u => r = .ok () ∧ Gains [] false s u :=
      (pause_gains length t).mono fun _ _ hu => ⟨hu.1, ht.idle_then hu.2⟩
    apply Ends.bind (Poll.await_ends p hlook hpause s (Gains.refl s))
    · intro r t ht
      cases r with
      | ok record => exact ⟨hbounds, ht⟩
      | error w => exact ⟨rfl, ht⟩
    · intro e t ht
      exact ht
  · rintro e s ⟨rfl, issues, rfl⟩
    exact ⟨rfl, Gains.refl s⟩

/-- The wait for a namespace to be in use adopts nothing. It ends well, or with a fault that carries
the namespace, or with the fault that has cut one of its reads. -/
theorem awaitActive_gains (client baseName : String) (record : Record) {timeout interval : τ}
    (hbounds : Poll.InBounds timeout interval) (s : Site τ ω) :
    Ends (awaitActive client baseName record timeout interval) s fun r t =>
      match r with
      | .ok _ => Gains [] false s t
      | .error e => leftoverOf e = some record ∧ Gains [] false s t ∨
          leftoverOf e = none ∧ Gains [] true s t := by
  have hsubject : ("namespace " ++ record.name ++ " to become Active").isEmpty = false :=
    Poll.isEmpty_append_append (by decide)
  apply Ends.bind_ok (Poll.required_ends hbounds hsubject s)
  rintro s rfl
  have hlook (w : Poll.Waiting τ) (t : Site τ ω) (ht : Gains [] false s t) :
      Ends (Poll.whether ((·.isActive) <$> (Site.call (.readNamespace client record.name)
        : SiteM τ ω Remote))) t fun r u => Poll.Judged (Gains [] false s)
          (fun _ u => Gains [] false s u) (fun e u => leftoverOf e = none ∧ Gains [] true s u)
          (Poll.verdict Poll.absorbsOrdinary w r) u := by
    apply Poll.whether_ends w
    apply Ends.map
    apply (Site.call_ends _ t).mono
    rintro r u ⟨_, _, hevents⟩
    have hu := ht.idle_then (Gains.of_event hevents)
    cases r with
    | ok n => exact hu
    | error e =>
      change Gains [] (!e.isOrdinary) s u at hu
      show if e.isOrdinary then _ else _
      split
      · rename_i he
        rw [he] at hu
        exact hu
      · rename_i he
        rw [Bool.not_eq_true] at he
        rw [he] at hu
        exact ⟨leftoverOf_of_passing he, hu⟩
  have hpause (length : τ) (t : Site τ ω) (ht : Gains [] false s t) :
      Ends (Site.pause length : SiteM τ ω Unit) t fun r u => r = .ok () ∧ Gains [] false s u :=
    (pause_gains length t).mono fun _ _ hu => ⟨hu.1, ht.idle_then hu.2⟩
  apply Ends.bind (Poll.await_ends _ hlook hpause s (Gains.refl s))
  · intro r t ht
    cases r with
    | ok _ => exact ht
    | error w => exact .inl ⟨rfl, ht⟩
  · intro e t ht
    exact .inr ht

/-- A creation hands over what it has adopted, unless the read of its namespace is cut. -/
theorem create_handsOver (client baseName : String) (labels : Labels) (timeout interval : τ)
    (s : Site τ ω) :
    Ends (createThrough client baseName labels timeout interval) s fun r t => ∃ records cut,
      Gains records cut s t ∧
        (handedOver (r.map some)).toList = if cut then [] else records := by
  apply Ends.bind (createWithin_gains client baseName labels timeout interval s)
  · rintro record t ⟨hbounds, ht⟩
    apply Ends.bind_ok (Site.log_ends _ _ _ t)
    rintro t' ⟨_, hlog⟩
    have ht' := ht.then_idle (Gains.of_event hlog)
    apply Ends.ite
    · intro _
      apply Ends.bind (awaitActive_gains client baseName record hbounds t')
      · intro _ u hu
        exact ⟨[record], false, ht'.then_idle hu, rfl⟩
      · rintro e u (⟨hleft, hu⟩ | ⟨hleft, hu⟩)
        · refine ⟨[record], false, ht'.then_idle hu, ?_⟩
          show (leftoverOf e).toList = [record]
          rw [hleft]
          rfl
        · refine ⟨[record], true, ht'.trans hu, ?_⟩
          show (leftoverOf e).toList = []
          rw [hleft]
          rfl
    · intro _
      exact ⟨[record], false, ht', rfl⟩
  · rintro e t ⟨hleft, ht⟩
    refine ⟨[], false, ht, ?_⟩
    show (leftoverOf e).toList = []
    rw [hleft]
    rfl

end Namespace

end Testbed
