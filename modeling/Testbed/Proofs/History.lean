import Testbed.Framework.Cluster
import Testbed.Proofs.MadeOf
import Testbed.Proofs.Phases

/-!
# What procedures at a site leave in its history

The history of a site only grows. `Site.Makes calls` relates a site to a later one of the same run
whose new events are exchanges for calls of the given kind and events that are no exchanges; none
of them concerns custody. Each operation of the library at a site leads along it for the calls that
the operation makes.
-/

set_option autoImplicit false

namespace Testbed

open Proc

variable {τ ω α : Type}

/-- An event that a procedure making only such calls can leave. -/
def Event.Among (calls : Call τ → Prop) : Event τ → Prop
  | .exchange _ c _ => calls c
  | .custody .. => False
  | _ => True

/-- Whether an event is a mark. -/
def Event.isMark : Event τ → Bool
  | .mark .. => true
  | _ => false

/-- The names under which the operations of the library at a site write to the log. -/
def entryNames : List String :=
  ["namespace.create_adopted", "namespace.create_rejected", "namespace.created",
   "namespace.deleted", "namespace.discovery_failed", "diagnostics.event", "diagnostics.events",
   "diagnostics.pod", "diagnostics.pods"]

/-- An event that an operation leaves which does not wait by itself. -/
def Event.IsTalk : Event τ → Prop
  | .exchange .. => True
  | .log entry => entry.name ∈ entryNames
  | _ => False

/-- An event that an operation leaves which may wait. -/
def Event.IsWork (e : Event τ) : Prop := e.IsTalk ∨ ∃ length, e = .pause length

/-- Such an event changes no custody. -/
theorem Event.Among.custody? {calls : Call τ → Prop} {e : Event τ} (h : e.Among calls) :
    e.custody? = none := by
  cases e with
  | custody k c => exact h.elim
  | _ => rfl

/-- Calls that neither create, list, read nor delete namespaces. -/
def Call.IsIncidental : Call τ → Prop
  | .createNamespace .. | .listNamespaces .. | .readNamespace .. | .deleteNamespace .. => False
  | _ => True

/-- Calls that have nothing to do with namespaces as such, whoever creates and deletes them, and
close no client. -/
def Call.IsNeutral : Call τ → Prop
  | .createNamespace .. | .listNamespaces .. | .readNamespace .. | .deleteNamespace .. | .provide ..
  | .dispose .. | .customProvide .. | .closeClient _ => False
  | _ => True

/-- Calls that request the deletion of a namespace, from the server or from a stub. -/
def Call.isDeletion : Call τ → Bool
  | .deleteNamespace .. | .dispose .. => true
  | _ => false

/-- Calls of which a teardown takes any answer: those that ask what happened in a namespace, and the
close of a client. -/
def Call.isBestEffort : Call τ → Bool
  | .describe .. | .listOccurrences .. | .listPods .. | .closeClient _ => true
  | _ => false

/-- The client that a call of a framework is made through, if it is made through one. -/
def Call.client? : Call τ → Option String
  | .createNamespace client .. | .listNamespaces client _ | .readNamespace client _
  | .deleteNamespace client _ | .readServiceAccount client .. | .readPod client ..
  | .listOccurrences client _ | .listPods client _ | .discover client | .listResource client ..
  | .provide _ client _ | .dispose _ client _ | .awaitAccount client _ | .describe client _
  | .awaitPod client .. | .customProvide _ client _ => some client
  | _ => none

/-- Calls that are made through a client: all but those that load a configuration, make or close a
client, or look at a condition. -/
def Call.isOperation : Call τ → Bool
  | .loadFile .. | .loadInside | .loadCluster | .newClient .. | .closeClient _ | .condition => false
  | _ => true

/-- The call is made through this client. -/
def Call.GoesThrough (client : String) (c : Call τ) : Prop := c.client? = some client

theorem Call.GoesThrough.isOperation {client : String} {c : Call τ} (h : c.GoesThrough client) :
    c.isOperation = true := by
  cases c <;> first | rfl | cases h

/-- The call asks for a namespace whose name begins with this text, if it asks for one. -/
def Call.AsksFor (stem : String) : Call τ → Prop
  | .createNamespace _ generateName _ => generateName = stem
  | _ => True

theorem Call.IsNeutral.isDeletion {c : Call τ} (h : c.IsNeutral) : c.isDeletion = false := by
  cases c <;> first | exact h.elim | rfl

theorem Call.IsNeutral.isIncidental {c : Call τ} (h : c.IsNeutral) : c.IsIncidental := by
  cases c <;> first | exact h | trivial

namespace Site

variable {calls : Call τ → Prop}

/-- The history of the second site is that of the first, continued by such events. -/
def Leaves (P : Event τ → Prop) (s t : Site τ ω) : Prop :=
  ∃ new, t.events = s.events ++ new ∧ ∀ e ∈ new, P e

instance {P : Event τ → Prop} : IsPreorder (Site τ ω) (Leaves P) where
  refl s := ⟨[], by simp, by simp⟩
  trans := by
    rintro s t u ⟨new, hn, hc⟩ ⟨new', hn', hc'⟩
    refine ⟨new ++ new', by rw [hn', hn, List.append_assoc], fun e he => ?_⟩
    exact (List.mem_append.1 he).elim (hc e) (hc' e)

theorem leaves_of_eq {P : Event τ → Prop} {s t : Site τ ω} (h : t.events = s.events) :
    Leaves P s t := ⟨[], by rw [h, List.append_nil], by simp⟩

/-- The history of the second site is that of the first, continued by making such calls. -/
def Makes (calls : Call τ → Prop) (s t : Site τ ω) : Prop :=
  Leaves (Event.Among calls) s t

instance : IsPreorder (Site τ ω) (Makes calls) :=
  inferInstanceAs (IsPreorder (Site τ ω) (Leaves (Event.Among calls)))

theorem Makes.mono {calls' : Call τ → Prop} {s t : Site τ ω} (hs : Makes calls s t)
    (h : ∀ c, calls c → calls' c) : Makes calls' s t := by
  obtain ⟨new, hn, hc⟩ := hs
  refine ⟨new, hn, fun e he => ?_⟩
  have hce := hc e he
  cases e with
  | exchange _ c _ => exact h c hce
  | _ => exact hce

/-- The steps of which procedures at a site are made: they leave events that are neither
exchanges nor marks, ask the host, and make such calls. -/
inductive Step [Host τ ω] (calls : Call τ → Prop) : (α : Type) → SiteM τ ω α → Prop
  | record {e : Event τ} (h : e.Among calls) (hmark : e.isMark = false) : Step calls Unit (record e)
  | now : Step calls τ now
  | elapse (length : τ) : Step calls Unit (elapse length)
  | freshId : Step calls String freshId
  | randomBits : Step calls Nat randomBits
  | call {c : Call τ} (h : calls c) : Step calls c.Reply (call c)

theorem makes_record {e : Event τ} (h : e.Among calls) :
    (record e : SiteM τ ω Unit).Along (Makes calls) := fun s =>
  ⟨[e], events_record e s, by simpa using h⟩

theorem makes_log (level : Level) (name : String) (fields : List (String × Detail τ)) :
    (log level name fields : SiteM τ ω Unit).Along (Makes calls) := makes_record trivial

variable [Host τ ω]

theorem makes_elapse (length : τ) : (elapse length : SiteM τ ω Unit).Along (Makes calls) :=
  fun s => ⟨[], by simp [elapse, events], by simp⟩

theorem makes_call {c : Call τ} (h : calls c) :
    (call c : SiteM τ ω c.Reply).Along (Makes calls) := fun s =>
  ⟨_, events_call c s, by simpa [Event.Among] using h⟩

theorem makes_mark (m : Mark) : (mark m : SiteM τ ω Unit).Along (Makes calls) := by
  have hnow : (now : SiteM τ ω τ).Along (Makes calls) := fun s => refl_of (Makes calls) s
  exact hnow.bind fun _ => makes_record trivial

theorem Step.makes {x : SiteM τ ω α} (h : Step calls α x) : x.Along (Makes calls) := by
  cases h with
  | record h _ => exact makes_record h
  | now => exact fun s => refl_of (Makes calls) s
  | elapse length => exact makes_elapse length
  | freshId => exact fun s => ⟨[], by simp [Site.freshId, Proc.run, events], by simp⟩
  | randomBits => exact fun s => ⟨[], by simp [Site.randomBits, Proc.run, events], by simp⟩
  | call h => exact makes_call h

/-- A procedure at a site leaves what its steps leave. -/
theorem makes {x : SiteM τ ω α} (h : MadeOf (Step calls) (fun _ => True) x) :
    x.Along (Makes calls) :=
  h.along Step.makes

theorem Step.mono {calls' : Call τ → Prop} (hc : ∀ c, calls c → calls' c) {x : SiteM τ ω α}
    (h : Step calls α x) : Step calls' α x := by
  cases h with
  | @record e h hmark =>
    refine Step.record ?_ hmark
    cases e with
    | exchange _ c _ => exact hc c h
    | _ => exact h
  | now => exact .now
  | elapse length => exact .elapse length
  | freshId => exact .freshId
  | randomBits => exact .randomBits
  | call h => exact .call (hc _ h)

/-- The steps of an operation that does not wait by itself: it writes such entries, draws
identifiers, and makes such calls. -/
inductive Talk (calls : Call τ → Prop) : (α : Type) → SiteM τ ω α → Prop
  | log (level : Level) {name : String} (h : name ∈ entryNames)
      (fields : List (String × Detail τ)) : Talk calls Unit (log level name fields)
  | freshId : Talk calls String freshId
  | call {c : Call τ} (h : calls c) : Talk calls c.Reply (call c)

/-- The steps of an operation that may wait: it also looks at the clock, and pauses. -/
inductive Work (calls : Call τ → Prop) : (α : Type) → SiteM τ ω α → Prop
  | talk {α : Type} {x : SiteM τ ω α} (h : Talk calls α x) : Work calls α x
  | now : Work calls τ now
  | pause (length : τ) : Work calls Unit (pause length)

theorem Talk.leaves {x : SiteM τ ω α} (h : Talk calls α x) : x.Along (Leaves Event.IsTalk) := by
  intro s
  cases h with
  | log level h fields => exact ⟨_, (events_record _ s), by simpa [Event.IsTalk] using h⟩
  | freshId => exact leaves_of_eq rfl
  | call _ => exact ⟨_, events_call _ s, by simp [Event.IsTalk]⟩

theorem Work.leaves {x : SiteM τ ω α} (h : Work calls α x) : x.Along (Leaves Event.IsWork) := by
  cases h with
  | talk h =>
    apply h.leaves.mono
    rintro s t ⟨new, hnew, htalk⟩
    exact ⟨new, hnew, fun e he => .inl (htalk e he)⟩
  | now => exact fun s => leaves_of_eq rfl
  | pause length =>
    intro s
    refine ⟨[.pause length], events_record _ { s with world := Host.sleep length s.world }, ?_⟩
    simpa using .inr ⟨length, rfl⟩

variable {kind : Fault τ → Prop}

theorem madeOf_call {c : Call τ} (h : calls c) :
    MadeOf (Step calls) kind (call c : SiteM τ ω c.Reply) := .step (.call h)

theorem madeOf_log (level : Level) (name : String) (fields : List (String × Detail τ)) :
    MadeOf (Step calls) kind (log level name fields : SiteM τ ω Unit) := .step (.record trivial rfl)

theorem madeOf_pause (length : τ) : MadeOf (Step calls) kind (pause length : SiteM τ ω Unit) :=
  .bind (.step (.elapse length)) fun _ => .step (.record trivial rfl)

theorem talk_call {c : Call τ} (h : calls c) :
    MadeOf (Talk calls) kind (call c : SiteM τ ω c.Reply) := .step (.call h)

theorem talk_log (level : Level) {name : String} (h : name ∈ entryNames)
    (fields : List (String × Detail τ)) :
    MadeOf (Talk calls) kind (log level name fields : SiteM τ ω Unit) := .step (.log level h fields)

theorem Work.ofTalk {x : SiteM τ ω α} (hx : MadeOf (Talk calls) kind x) :
    MadeOf (Work calls) kind x :=
  hx.refine fun h => .step (.talk h)

/-- What the operations of the library do at a site takes steps of a site. -/
theorem Step.ofWork {x : SiteM τ ω α} (hx : MadeOf (Work calls) kind x) :
    MadeOf (Step calls) kind x := by
  apply hx.refine
  intro _ _ h
  cases h with
  | talk h =>
    cases h with
    | log level _ fields => exact madeOf_log _ _ _
    | freshId => exact .step .freshId
    | call h => exact madeOf_call h
  | now => exact .step .now
  | pause length => exact madeOf_pause length

end Site

open Site

variable {calls : Call τ → Prop} {kind : Fault τ → Prop}
  (hkind : ∀ e : Fault τ, e.isOrdinary = true → kind e)

namespace Poll

variable [Seconds τ] [Host τ ω] {absorbs : Fault τ → Bool} {look : SiteM τ ω (Look τ α)}

include hkind in
theorem madeOf_required (timeout interval : τ) (subject : String) :
    MadeOf (Work calls) kind (required timeout interval subject : SiteM τ ω (Poll τ)) := by
  unfold required
  split
  · exact .pure _
  · exact .fail (hkind _ rfl)

omit [Seconds τ] in
/-- A verdict breaks a poll with the fault of its look. -/
theorem verdict_eq_broken {w : Waiting τ} {r : Except (Fault τ) (Look τ α)} {e : Fault τ}
    (h : verdict absorbs w r = .broken e) : r = .error e := by
  unfold verdict at h
  split at h
  · cases h
  · cases h
  · split at h
    · cases h
    · cases h
      rfl

/-- A poll is made of its looks and of pauses. -/
theorem madeOf_lookUntil (p : Poll τ) (hl : MadeOf (Talk calls) kind look) (deadline : τ)
    (rounds : Nat) (w : Waiting τ) :
    MadeOf (Work calls) kind (lookUntil p absorbs look deadline rounds w) := by
  induction rounds generalizing w with
  | zero => exact .pure _
  | succ rounds ih =>
    apply MadeOf.handle (Work.ofTalk hl)
    intro r hr
    split
    · exact .pure _
    · rename_i e hbroken
      exact .fail (hr e (verdict_eq_broken hbroken))
    · apply MadeOf.bind (.step .now)
      intro now
      apply madeOf_ite
      · intro _
        exact .pure _
      · intro _
        apply MadeOf.bind (.step (.pause _))
        intro _
        exact ih _

theorem madeOf_await (p : Poll τ) (hl : MadeOf (Talk calls) kind look) :
    MadeOf (Work calls) kind (p.await absorbs look) :=
  MadeOf.bind (.step .now) fun _ => madeOf_lookUntil p hl _ _ _

omit [Seconds τ] in
theorem madeOf_whether {condition : SiteM τ ω Bool} (h : MadeOf (Talk calls) kind condition) :
    MadeOf (Talk calls) kind (whether condition) := by
  apply MadeOf.bind h
  intro holds
  cases holds with
  | true => exact .pure _
  | false => exact .pure _

include hkind in
theorem madeOf_find (p : Poll τ) (hl : MadeOf (Talk calls) kind look) :
    MadeOf (Work calls) kind (p.find absorbs look) := by
  apply MadeOf.bind (madeOf_await p hl)
  intro r
  cases r with
  | ok a => exact .pure a
  | error w => exact .fail (hkind _ rfl)

include hkind in
theorem madeOf_hold (p : Poll τ) {condition : SiteM τ ω Bool}
    (h : MadeOf (Talk calls) kind condition) :
    MadeOf (Work calls) kind (p.hold absorbs condition) :=
  madeOf_find hkind p (madeOf_whether h)

end Poll

include hkind

namespace Namespace

variable [Seconds τ] [Host τ ω] (client : String)

theorem madeOf_findCreated (baseName id : String) (failure : Fault τ)
    (hl : ∀ selector, calls (.listNamespaces client selector)) :
    MadeOf (Talk calls) kind
      (findCreated client baseName id failure : SiteM τ ω (Option Remote)) := by
  apply MadeOf.handle (talk_call (hl _))
  intro r hr
  split
  · exact .pure _
  · exact (talk_log _ (by simp [entryNames]) _).bind fun _ => .pure _
  · rename_i e
    apply madeOf_ite
    · intro _
      exact .fail (hkind _ rfl)
    · intro _
      exact .fail (hr e rfl)

theorem madeOf_tryCreate (baseName : String) (labels : Labels)
    (hc : ∀ labels, calls (.createNamespace client (generateName baseName) labels))
    (hl : ∀ selector, calls (.listNamespaces client selector)) :
    MadeOf (Talk calls) kind
      (tryCreate client baseName labels : SiteM τ ω (Poll.Look τ Record)) := by
  apply MadeOf.bind (.step .freshId)
  intro id
  apply MadeOf.handle (talk_call (hc _))
  intro r hr
  cases r with
  | ok made => exact .pure _
  | error e =>
    apply madeOf_ite
    · intro _
      exact .fail (hr e rfl)
    · intro _
      split
      · exact (talk_log _ (by simp [entryNames]) _).bind fun _ => .pure _
      · apply MadeOf.bind (madeOf_findCreated hkind client baseName id e hl)
        intro found
        cases found with
        | some n => exact .pure _
        | none => exact .pure _

/-- Creating a namespace makes calls that create, list and read namespaces. -/
theorem madeOf_create (baseName : String) (labels : Labels) (timeout interval : τ)
    (hc : ∀ labels, calls (.createNamespace client (generateName baseName) labels))
    (hl : ∀ selector, calls (.listNamespaces client selector))
    (hr : ∀ name, calls (.readNamespace client name)) :
    MadeOf (Work calls) kind
      (createThrough client baseName labels timeout interval : SiteM τ ω Record) := by
  have hwithin : MadeOf (Work calls) kind
      (createWithin client baseName labels timeout interval : SiteM τ ω Record) := by
    apply MadeOf.bind (Poll.madeOf_required hkind _ _ _)
    intro poll
    apply MadeOf.bind (Poll.madeOf_await poll (madeOf_tryCreate hkind client baseName labels hc hl))
    intro r
    cases r with
    | ok record => exact .pure record
    | error w => exact .fail (hkind _ rfl)
  have hactive : ∀ record : Record, MadeOf (Work calls) kind
      (awaitActive client baseName record timeout interval : SiteM τ ω Unit) := by
    intro record
    have hread : MadeOf (Talk calls) kind
        ((·.isActive) <$> (call (.readNamespace client record.name) : SiteM τ ω Remote)) :=
      (talk_call (hr _)).map _
    apply MadeOf.bind (Poll.madeOf_required hkind _ _ _)
    intro poll
    apply MadeOf.bind (Poll.madeOf_await poll (Poll.madeOf_whether hread))
    intro r
    cases r with
    | ok _ => exact .pure _
    | error w => exact .fail (hkind _ rfl)
  apply MadeOf.bind hwithin
  intro record
  apply MadeOf.bind (Work.ofTalk (talk_log _ (by simp [entryNames]) _))
  intro _
  apply madeOf_ite
  · intro _
    exact (hactive record).bind fun _ => .pure record
  · intro _
    exact .fail (hkind _ rfl)

theorem madeOf_awaitServiceAccount (ns : String) (timeout interval : τ)
    (h : calls (.readServiceAccount client defaultAccount ns)) :
    MadeOf (Work calls) kind
      (awaitServiceAccountThrough client ns timeout interval : SiteM τ ω Unit) := by
  apply MadeOf.bind (Poll.madeOf_required hkind _ _ _)
  intro poll
  exact Poll.madeOf_hold hkind poll ((talk_call h).bind fun _ => .pure _)

omit hkind [Seconds τ] in
theorem madeOf_countResources (name : String) (hl : ∀ r, calls (.listResource client r name))
    (counts : List (String × Nat)) (rs : List Resource) :
    MadeOf (Talk calls) kind
      (countResources client name counts rs : SiteM τ ω (List (String × Nat))) := by
  induction rs generalizing counts with
  | nil => exact .pure counts
  | cons r rest ih =>
    have hcount : MadeOf (Talk calls) kind (countResource client r name : SiteM τ ω Nat) := by
      apply MadeOf.rescue (talk_call (hl r))
      intro e he
      split
      · exact .pure _
      · exact .fail he
    apply madeOf_ite
    · intro _
      apply MadeOf.bind hcount
      intro n
      exact ih _
    · intro _
      exact ih counts

omit hkind in
theorem madeOf_leftovers (name : String) (hd : calls (.discover client))
    (hl : ∀ r, calls (.listResource client r name)) :
    MadeOf (Talk calls) kind (leftovers client name : SiteM τ ω (List (String × Nat))) := by
  apply MadeOf.handle (talk_call hd)
  intro r hr
  cases r with
  | ok resources => exact madeOf_countResources client name hl _ resources
  | error e =>
    apply madeOf_ite
    · intro _
      exact (talk_log _ (by simp [entryNames]) _).bind fun _ => .pure _
    · intro _
      exact .fail (hr e rfl)

omit [Seconds τ] in
theorem madeOf_requestDeletion (name : String) (hq : calls (.deleteNamespace client name)) :
    MadeOf (Talk calls) kind (requestDeletion client name : SiteM τ ω Unit) := by
  apply MadeOf.rescue (talk_call hq)
  intro e he
  split
  · exact .fail (hkind _ rfl)
  · exact .fail he

omit hkind [Seconds τ] in
theorem madeOf_isGone (name : String) (hr : calls (.readNamespace client name)) :
    MadeOf (Talk calls) kind (isGone client name : SiteM τ ω Bool) := by
  apply MadeOf.rescue ((talk_call hr).bind fun _ => .pure false)
  intro e he
  split
  · exact .pure _
  · exact .fail he

/-- Waiting until a namespace is gone reads it, and counts what is left in it. -/
theorem madeOf_awaitGone (name : String) (timeout interval : τ)
    (hr : calls (.readNamespace client name)) (hd : calls (.discover client))
    (hl : ∀ r, calls (.listResource client r name)) :
    MadeOf (Work calls) kind (awaitGone client name timeout interval : SiteM τ ω Unit) := by
  apply MadeOf.bind (Poll.madeOf_required hkind _ _ _)
  intro poll
  apply MadeOf.bind (Poll.madeOf_await poll (Poll.madeOf_whether (madeOf_isGone client name hr)))
  intro r
  cases r with
  | ok _ => exact Work.ofTalk (talk_log _ (by simp [entryNames]) _)
  | error w =>
    exact (Work.ofTalk (madeOf_leftovers client name hd hl)).bind fun _ => .fail (hkind _ rfl)

/-- Deleting a namespace requests its deletion and waits until it is gone. -/
theorem madeOf_delete (name : String) (timeout interval : τ)
    (hq : calls (.deleteNamespace client name)) (hr : calls (.readNamespace client name))
    (hd : calls (.discover client)) (hl : ∀ r, calls (.listResource client r name)) :
    MadeOf (Work calls) kind (deleteThrough client name timeout interval : SiteM τ ω Unit) := by
  apply MadeOf.bind (Work.ofTalk (madeOf_requestDeletion hkind client name hq))
  intro _
  exact madeOf_awaitGone hkind client name timeout interval hr hd hl

end Namespace

theorem Pod.madeOf_awaitRunning [Seconds τ] [Host τ ω] (client pod ns : String)
    (timeout interval : τ) (h : calls (.readPod client pod ns)) :
    MadeOf (Work calls) kind
      (awaitRunningThrough client pod ns timeout interval : SiteM τ ω Unit) := by
  have hlook : MadeOf (Talk calls) kind
      (lookForPhase client pod ns : SiteM τ ω (Poll.Look τ String)) := by
    apply MadeOf.bind (talk_call h)
    intro remote
    split
    · apply madeOf_ite
      · intro _
        exact .pure _
      · intro _
        exact .pure _
    · exact .pure _
  rw [awaitRunning_eq]
  apply MadeOf.bind
  · apply MadeOf.bind (Poll.madeOf_required hkind _ _ _)
    intro poll
    exact Poll.madeOf_find hkind poll hlook
  intro phase
  apply madeOf_ite
  · intro _
    exact .fail (hkind _ rfl)
  · intro _
    exact .pure _

namespace Diagnostics

variable [Host τ ω]

omit hkind in
theorem madeOf_forEach {f : α → SiteM τ ω Unit} (h : ∀ a, MadeOf (Talk calls) kind (f a))
    (as : List α) : MadeOf (Talk calls) kind (forEach f as) := by
  induction as with
  | nil => exact .pure _
  | cons a rest ih =>
    apply MadeOf.bind (h a)
    intro _
    exact ih

theorem madeOf_dump (client ns : String) (ho : calls (.listOccurrences client ns))
    (hp : calls (.listPods client ns)) :
    MadeOf (Talk calls) kind (dumpThrough client ns : SiteM τ ω Unit) := by
  have hsort (occurrences : List Occurrence) (e : Fault τ)
      (he : inOrder occurrences = .error e) : kind e := by
    unfold inOrder at he
    split at he
    · cases he
      exact hkind _ rfl
    · cases he
  apply MadeOf.bind (talk_call ho)
  intro occurrences
  apply MadeOf.bind (talk_log _ (by simp [entryNames]) _)
  intro _
  apply MadeOf.bind (madeOf_conclude (hsort occurrences))
  intro sorted
  apply MadeOf.bind (madeOf_forEach (fun _ => talk_log _ (by simp [entryNames]) _) _)
  intro _
  apply MadeOf.bind (talk_call hp)
  intro pods
  apply MadeOf.bind (talk_log _ (by simp [entryNames]) _)
  intro _
  exact madeOf_forEach (fun _ => talk_log _ (by simp [entryNames]) _) pods

end Diagnostics

namespace Cluster

variable [Seconds τ] [Host τ ω]

/-- A cluster creates a namespace through the client, and deletes none. -/
theorem madeOf_createNamespace (c : Cluster τ) (baseName client : String) (labels : Labels)
    (h : ∀ call : Call τ, call.isDeletion = false → call.GoesThrough client → calls call) :
    MadeOf (Work calls) kind (c.createNamespace baseName client labels : SiteM τ ω _) := by
  unfold createNamespace
  split
  · exact Namespace.madeOf_create hkind client _ _ _ _ (fun _ => h _ rfl rfl)
      (fun _ => h _ rfl rfl) fun _ => h _ rfl rfl
  · exact Work.ofTalk (talk_call (h _ rfl rfl))

/-- A cluster deletes a namespace through the client, and needs the answers that it gets. -/
theorem madeOf_deleteNamespace (c : Cluster τ) (name client : String) (timeout : τ)
    (h : ∀ call : Call τ, call.isBestEffort = false → call.GoesThrough client → calls call) :
    MadeOf (Work calls) kind (c.deleteNamespace name client timeout : SiteM τ ω Unit) := by
  unfold deleteNamespace
  split
  · exact Namespace.madeOf_delete hkind client _ _ _ (h _ rfl rfl) (h _ rfl rfl) (h _ rfl rfl)
      fun _ => h _ rfl rfl
  · exact Work.ofTalk (talk_call (h _ rfl rfl))

variable (client : String)
  (h : ∀ call : Call τ, call.IsNeutral → call.GoesThrough client → calls call)

include h

theorem madeOf_awaitServiceAccount (c : Cluster τ) (ns : String) :
    MadeOf (Work calls) kind (c.awaitServiceAccount ns client : SiteM τ ω Unit) := by
  unfold awaitServiceAccount
  split
  · exact Namespace.madeOf_awaitServiceAccount hkind client _ _ _ (h _ trivial rfl)
  · exact Work.ofTalk (talk_call (h _ trivial rfl))

omit [Seconds τ] in
theorem madeOf_dump (c : Cluster τ) (ns : String) :
    MadeOf (Work calls) kind (c.dump ns client : SiteM τ ω Unit) := by
  apply Work.ofTalk
  unfold dump
  split
  · exact Diagnostics.madeOf_dump hkind client _ (h _ trivial rfl) (h _ trivial rfl)
  · exact talk_call (h _ trivial rfl)

theorem madeOf_awaitPod (c : Cluster τ) (pod ns : String) (timeout : τ) :
    MadeOf (Work calls) kind (c.awaitPod pod ns client timeout : SiteM τ ω Unit) := by
  unfold awaitPod
  split
  · exact Pod.madeOf_awaitRunning hkind client _ _ _ _ (h _ trivial rfl)
  · exact Work.ofTalk (talk_call (h _ trivial rfl))

end Cluster

end Testbed
