import Testbed.Namespace.Creation
import Testbed.Proofs.Waiting

/-!
# Creating a namespace leaves no other one behind

A creation repeats its attempts, and an attempt can fail without telling whether the server has
created anything. This module assumes of the server only what the lookup by identifier relies on,
and shows that whatever a creation has made is what it gives or carries in its fault. The invariant
of the attempts is that nothing carries an identifier of an earlier one.
-/

set_option autoImplicit false

namespace Testbed.Namespace

open Proc

variable {τ ω : Type}

/-- A failure with a status of the four hundreds, other than the one for a request that took too
long. -/
def IsRefusal (e : Fault τ) : Prop :=
  ∃ status reason body, e = .api (some status) reason body ∧ 400 ≤ status ∧ status < 500 ∧
    status ≠ 408

theorem refusal?_isSome {e : Fault τ} : (refusal? e).isSome = true ↔ IsRefusal e := by
  constructor
  · intro h
    unfold refusal? at h
    split at h
    · rename_i status reason body
      split at h
      · rename_i hstatus
        exact ⟨status, reason, body, rfl, hstatus⟩
      · cases h
    · cases h
  · rintro ⟨status, reason, body, rfl, hstatus⟩
    simp [refusal?, hstatus]

/-- What a server of namespaces keeps as far as creations are concerned: the states it can be in,
the identifiers that were drawn so far, and the namespaces that carry an identifier. -/
structure Server (ω : Type) where
  reachable : ω → Prop
  drawn : ω → List String
  carrying : ω → String → List Remote

namespace Server

variable (S : Server ω)

/-- Nothing was drawn, and what carries a drawn identifier is as it was. -/
structure Keeps (w w' : ω) : Prop where
  reachable : S.reachable w'
  drawn : S.drawn w' = S.drawn w
  carrying : ∀ id ∈ S.drawn w, S.carrying w' id = S.carrying w id

/-- What a request to create a namespace with this identifier does, given how it is answered: one
that succeeds creates what it returns, one that is refused creates nothing, and one that fails
otherwise creates nothing or one namespace. -/
structure Creates (id : String) (r : Except (Fault τ) Remote) (w w' : ω) : Prop where
  reachable : S.reachable w'
  drawn : S.drawn w' = S.drawn w
  others : ∀ i ∈ S.drawn w, i ≠ id → S.carrying w' i = S.carrying w i
  made : ∀ n, r = .ok n → S.carrying w' id = S.carrying w id ++ [n]
  refused : ∀ e, r = .error e → IsRefusal e → S.carrying w' id = S.carrying w id
  unclear : ∀ e, r = .error e →
    S.carrying w' id = S.carrying w id ∨ ∃ n, S.carrying w' id = S.carrying w id ++ [n]

/-- The server answers every request with a value or an ordinary fault, creates namespaces as
`Creates` says and lists by identifier those that carry it; identifiers are fresh. Whatever else is
asked of it changes nothing for the identifiers that were drawn. -/
structure Faithful [Host τ ω] : Prop where
  sleep : ∀ (length : τ) w, S.reachable w → S.Keeps w (Host.sleep length w)
  fresh : ∀ w, S.reachable w → S.reachable (Host.freshId w).2 ∧
    S.drawn (Host.freshId w).2 = S.drawn w ++ [(Host.freshId w).1] ∧
    S.carrying (Host.freshId w).2 (Host.freshId w).1 = [] ∧
    ∀ i ∈ S.drawn w, S.carrying (Host.freshId w).2 i = S.carrying w i
  create : ∀ client name labels id w, S.reachable w → id ∈ S.drawn w →
    lookupLast creationLabel labels = some id →
    S.Creates id (Host.reply (.createNamespace client name labels) w).1
      w (Host.reply (.createNamespace client name labels) w).2
  list : ∀ client id w found, S.reachable w → id ∈ S.drawn w →
    (Host.reply (.listNamespaces client (creationSelector id)) w).1 = .ok found →
    found.Perm (S.carrying w id)
  other : ∀ (c : Call τ) w, S.reachable w →
    (∀ client name labels, c ≠ .createNamespace client name labels) → S.Keeps w (Host.reply c w).2
  ordinary : ∀ (c : Call τ) w e, S.reachable w → (Host.reply c w).1 = .error e →
    e.isOrdinary = true

/-- Since these identifiers were drawn, others were drawn, and of the namespaces that carry them
there is exactly one, with the given record, or none. -/
def Holds (d : List String) (w : ω) (record : Option Record) : Prop :=
  S.reachable w ∧ ∃ ids, S.drawn w = d ++ ids ∧
    match record with
    | none => ∀ i ∈ ids, S.carrying w i = []
    | some record => ∃ id ∈ ids, (∃ n, S.carrying w id = [n] ∧ n.record = record) ∧
        ∀ i ∈ ids, i ≠ id → S.carrying w i = []

/-- The last thing that happened is that the lookup of an identifier failed. At most one namespace
carries it, and none carries another one that was drawn since. -/
def Unclear (client : String) (d : List String) (t : Site τ ω) : Prop :=
  S.reachable t.world ∧ ∃ ids, S.drawn t.world = d ++ ids ∧ ∃ id ∈ ids,
    (S.carrying t.world id).length ≤ 1 ∧ (∀ i ∈ ids, i ≠ id → S.carrying t.world i = []) ∧
    ∃ time e, t.events.getLast? =
      some (.exchange time (.listNamespaces client (creationSelector id)) (.error e))

/-- What a creation through a client that started when these identifiers were drawn leaves on the
server, given how it ended: what it gives, or what its fault carries, or possibly what it could not
look up. It ends with no other fault than that of a creation. -/
def Accounts (client : String) (d : List String) : Except (Fault τ) Record → Site τ ω → Prop
  | .ok record, t => S.Holds d t.world (some record)
  | .error (.creation _ _ leftover _), t =>
    S.Holds d t.world leftover ∨ leftover = none ∧ S.Unclear client d t
  | .error _, _ => False

variable {S}

theorem Keeps.holds {w w' : ω} (h : S.Keeps w w') {d : List String} {record : Option Record}
    (hw : S.Holds d w record) : S.Holds d w' record := by
  obtain ⟨_, ids, hdrawn, hids⟩ := hw
  have same (i : String) (hi : i ∈ ids) : S.carrying w' i = S.carrying w i := by
    apply h.carrying
    rw [hdrawn]
    exact List.mem_append_right _ hi
  refine ⟨h.reachable, ids, by rw [h.drawn, hdrawn], ?_⟩
  cases record with
  | none =>
    intro i hi
    rw [same i hi, hids i hi]
  | some record =>
    obtain ⟨id, hid, hone, hrest⟩ := hids
    refine ⟨id, hid, ?_, ?_⟩
    · rw [same id hid]
      exact hone
    · intro i hi hne
      rw [same i hi, hrest i hi hne]

/-- An identifier has just been drawn: nothing carries it, nor any other one drawn since. -/
theorem Faithful.fresh_holds [Host τ ω] (h : S.Faithful) {d : List String} {w : ω}
    (hw : S.Holds d w none) :
    ∃ ids, S.reachable (Host.freshId w).2 ∧
      S.drawn (Host.freshId w).2 = d ++ (ids ++ [(Host.freshId w).1]) ∧
      ∀ i ∈ ids ++ [(Host.freshId w).1], S.carrying (Host.freshId w).2 i = [] := by
  obtain ⟨hreach, ids, hdrawn, hids⟩ := hw
  obtain ⟨hreach', hdrawn', hfresh, hsame⟩ := h.fresh w hreach
  refine ⟨ids, hreach', by rw [hdrawn', hdrawn, List.append_assoc], ?_⟩
  intro i hi
  obtain hi | hi := List.mem_append.1 hi
  · rw [hsame i (by rw [hdrawn]; exact List.mem_append_right _ hi), hids i hi]
  · rw [List.mem_singleton.1 hi]
    exact hfresh

/-- What a request to create a namespace leaves when nothing carried the identifiers before. -/
theorem Creates.after {id : String} {r : Except (Fault τ) Remote} {w w' : ω} {d ids : List String}
    (h : S.Creates id r w w') (hdrawn : S.drawn w = d ++ ids) (hid : id ∈ ids)
    (hnone : ∀ i ∈ ids, S.carrying w i = []) :
    (∀ i ∈ ids, i ≠ id → S.carrying w' i = []) ∧
      (∀ n, r = .ok n → S.carrying w' id = [n]) ∧
      (∀ e, r = .error e → (S.carrying w' id).length ≤ 1 ∧
        (IsRefusal e → S.carrying w' id = [])) := by
  have hempty := hnone id hid
  refine ⟨?_, ?_, ?_⟩
  · intro i hi hne
    rw [h.others i (by rw [hdrawn]; exact List.mem_append_right _ hi) hne, hnone i hi]
  · intro n hn
    rw [h.made n hn, hempty, List.nil_append]
  · intro e he
    constructor
    · obtain hsame | ⟨n, hn⟩ := h.unclear e he
      · simp [hsame, hempty]
      · simp [hn, hempty]
    · intro hrefused
      rw [h.refused e he hrefused, hempty]

end Server

section

variable [Seconds τ] [Host τ ω] {S : Server ω} (hS : S.Faithful) {d : List String}

include hS

omit hS [Seconds τ] [Host τ ω] in
/-- The verdict on an attempt, of which no fault is absorbed. -/
theorem judged_attempt {client baseName : String} (w : Poll.Waiting τ) (r : Except (Fault τ) (Poll.Look τ Record))
    (t : Site τ ω) (h : match r with
      | .ok (.found record) => S.Holds d t.world (some record)
      | .ok (.notYet _) => S.Holds d t.world none
      | .error e => (∃ reason cause, e = .creation baseName reason none cause) ∧ S.Unclear client d t) :
    Poll.Judged (fun t => S.Holds d t.world none) (fun record t => S.Holds d t.world (some record))
      (fun e t => (∃ reason cause, e = .creation baseName reason none cause) ∧ S.Unclear client d t)
      (Poll.verdict Poll.absorbsNone w r) t := by
  cases r with
  | error e => exact h
  | ok look => cases look <;> exact h

/-- Looking a namespace up that a failed attempt may have created. -/
theorem findCreated_ends (client baseName : String) {id : String} {ids : List String} (failure : Fault τ)
    {s : Site τ ω} (hreach : S.reachable s.world) (hdrawn : S.drawn s.world = d ++ ids)
    (hid : id ∈ ids) (hone : (S.carrying s.world id).length ≤ 1)
    (hrest : ∀ i ∈ ids, i ≠ id → S.carrying s.world i = []) :
    Ends (findCreated client baseName id failure) s fun r t =>
      match r with
      | .ok found => S.Holds d t.world (found.map (·.record))
      | .error e => (∃ reason cause, e = .creation baseName reason none cause) ∧ S.Unclear client d t := by
  have hmem : id ∈ S.drawn s.world := by
    rw [hdrawn]
    exact List.mem_append_right _ hid
  have hkeeps := hS.other (.listNamespaces client (creationSelector id)) s.world hreach (by simp)
  apply Ends.bind_attempt (Site.call_ends _ s)
  rintro r t ⟨hr, hworld, hevents⟩
  rw [← hworld] at hkeeps
  have hsame := hkeeps.carrying id hmem
  have hothers : ∀ i ∈ ids, i ≠ id → S.carrying t.world i = [] := by
    intro i hi hne
    rw [hkeeps.carrying i (by rw [hdrawn]; exact List.mem_append_right _ hi), hrest i hi hne]
  have hdrawn' : S.drawn t.world = d ++ ids := by rw [hkeeps.drawn, hdrawn]
  cases r with
  | error e =>
    have hordinary := hS.ordinary _ s.world e hreach hr.symm
    have hunclear : S.Unclear client d t := by
      refine ⟨hkeeps.reachable, ids, hdrawn', id, hid, ?_, hothers, Host.now s.world, e, ?_⟩
      · rw [hsame]
        exact hone
      · rw [hevents, List.getLast?_concat]
    apply Ends.ite
    · intro _
      exact ⟨⟨_, _, rfl⟩, hunclear⟩
    · intro h
      exact absurd hordinary h
  | ok found =>
    have hperm := hS.list client id s.world found hreach hmem hr.symm
    rw [← hsame] at hperm hone
    cases found with
    | nil =>
      refine ⟨hkeeps.reachable, ids, hdrawn', ?_⟩
      intro i hi
      by_cases hne : i = id
      · rw [hne]
        exact List.nil_perm.1 hperm
      · exact hothers i hi hne
    | cons first rest =>
      have hfirst : S.carrying t.world id = [first] := by
        have hlen := hperm.length_eq
        have hnil : rest = [] := by
          rw [List.length_cons] at hlen
          apply List.eq_nil_of_length_eq_zero
          omega
        rw [hnil] at hperm
        exact (List.singleton_perm.1 hperm).symm
      apply Ends.bind_ok (Site.log_ends _ _ _ t)
      rintro t' ⟨hlog, _⟩
      show S.Holds d t'.world (some first.record)
      rw [hlog]
      exact ⟨hkeeps.reachable, ids, hdrawn', id, hid, ⟨first, hfirst, rfl⟩, hothers⟩

/-- One attempt: while none has succeeded, nothing carries an identifier that was drawn. -/
theorem tryCreate_ends (client baseName : String) (labels : Labels) {s : Site τ ω}
    (hs : S.Holds d s.world none) :
    Ends (tryCreate client baseName labels) s fun r t =>
      match r with
      | .ok (.found record) => S.Holds d t.world (some record)
      | .ok (.notYet _) => S.Holds d t.world none
      | .error e => (∃ reason cause, e = .creation baseName reason none cause) ∧ S.Unclear client d t := by
  obtain ⟨ids, hreach, hdrawn, hnone⟩ := hS.fresh_holds hs
  apply Ends.bind_ok (Site.freshId_ends s)
  rintro s₁ ⟨hworld, _⟩
  rw [← hworld] at hreach hdrawn hnone
  generalize (Host.freshId s.world).1 = id at hdrawn hnone
  have hid : id ∈ ids ++ [id] := List.mem_append_right _ (List.mem_singleton_self id)
  have hcreates := hS.create client (generateName baseName) (putEntry labels creationLabel id) id s₁.world
    hreach (by rw [hdrawn]; exact List.mem_append_right _ hid) (lookupLast_putEntry _ _ _)
  apply Ends.bind_attempt (Site.call_ends _ s₁)
  rintro r t ⟨hr, hworld₁, _⟩
  rw [← hr, ← hworld₁] at hcreates
  obtain ⟨hothers, hmade, hfailed⟩ := hcreates.after hdrawn hid hnone
  have hdrawn' : S.drawn t.world = d ++ (ids ++ [id]) := by rw [hcreates.drawn, hdrawn]
  cases r with
  | ok made => exact ⟨hcreates.reachable, _, hdrawn', id, hid, ⟨made, hmade made rfl, rfl⟩, hothers⟩
  | error e =>
    obtain ⟨hone, hrefused⟩ := hfailed e rfl
    have hordinary := hS.ordinary _ s₁.world e hreach hr.symm
    apply Ends.ite
    · intro h
      rw [hordinary] at h
      cases h
    · intro _
      cases hstatus : refusal? e with
      | some status =>
        apply Ends.bind_ok (Site.log_ends _ _ _ t)
        rintro t' ⟨hlog, _⟩
        show S.Holds d t'.world none
        rw [hlog]
        refine ⟨hcreates.reachable, _, hdrawn', ?_⟩
        intro i hi
        by_cases hne : i = id
        · rw [hne]
          exact hrefused (refusal?_isSome.1 (by rw [hstatus]; rfl))
        · exact hothers i hi hne
      | none =>
        apply Ends.bind (findCreated_ends hS client baseName e hcreates.reachable hdrawn' hid hone hothers)
        · intro found t' ht'
          cases found with
          | none => exact ht'
          | some n => exact ht'
        · intro e' t' ht'
          exact ht'

omit [Seconds τ] in
theorem pause_holds {record : Option Record} (length : τ) {s : Site τ ω}
    (hs : S.Holds d s.world record) :
    Ends (Site.pause length : SiteM τ ω Unit) s fun r t => r = .ok () ∧ S.Holds d t.world record := by
  apply (Site.pause_ends length s).mono
  rintro r t ⟨hr, hworld, _⟩
  refine ⟨hr, ?_⟩
  rw [hworld]
  exact (hS.sleep length s.world hs.1).holds hs

theorem createWithin_ends (client baseName : String) (labels : Labels) {timeout interval : τ}
    (hbounds : Poll.InBounds timeout interval) {s : Site τ ω} (hs : S.Holds d s.world none) :
    Ends (createWithin client baseName labels timeout interval) s (S.Accounts client d) := by
  have hsubject : ("namespace creation for " ++ baseName).isEmpty = false :=
    Poll.isEmpty_append (by decide)
  apply Ends.bind_ok (Poll.required_ends hbounds hsubject s)
  rintro s rfl
  have hawait := Poll.await_ends ⟨timeout, interval, "namespace creation for " ++ baseName⟩
    (fun w s hs => (tryCreate_ends hS client baseName labels hs).mono (judged_attempt w))
    (fun length s hs => pause_holds hS length hs) s hs
  apply Ends.bind hawait
  · intro r t ht
    cases r with
    | ok record => exact ht
    | error w => exact .inl ht
  · rintro e t ⟨⟨reason, cause, rfl⟩, hunclear⟩
    exact .inr ⟨rfl, hunclear⟩

theorem awaitActive_ends (client baseName : String) (record : Record) {timeout interval : τ}
    (hbounds : Poll.InBounds timeout interval) {s : Site τ ω} (hs : S.Holds d s.world (some record)) :
    Ends (awaitActive client baseName record timeout interval) s fun r t =>
      S.Holds d t.world (some record) ∧
        ∀ e, r = .error e → ∃ reason cause, e = .creation baseName reason (some record) cause := by
  have hsubject : ("namespace " ++ record.name ++ " to become Active").isEmpty = false :=
    Poll.isEmpty_append_append (by decide)
  apply Ends.bind_ok (Poll.required_ends hbounds hsubject s)
  rintro s rfl
  have hlook (w : Poll.Waiting τ) (s : Site τ ω) (hs : S.Holds d s.world (some record)) :
      Ends (Poll.whether ((·.isActive) <$> (Site.call (.readNamespace client record.name)
        : SiteM τ ω Remote))) s fun r t => Poll.Judged (fun t => S.Holds d t.world (some record))
          (fun _ t => S.Holds d t.world (some record)) (fun _ _ => False)
          (Poll.verdict Poll.absorbsOrdinary w r) t := by
    have hkeeps := hS.other (.readNamespace client record.name) s.world hs.1 (by simp)
    apply Poll.whether_ends w
    apply Ends.map
    apply (Site.call_ends _ s).mono
    rintro r t ⟨hr, hworld, _⟩
    rw [← hworld] at hkeeps
    cases r with
    | ok n => exact hkeeps.holds hs
    | error e =>
      show if e.isOrdinary then _ else _
      rw [hS.ordinary _ s.world e hs.1 hr.symm]
      exact hkeeps.holds hs
  have hawait := Poll.await_ends
    ⟨timeout, interval, "namespace " ++ record.name ++ " to become Active"⟩ hlook
    (fun length s hs => pause_holds hS length hs) s hs
  apply Ends.bind hawait
  · intro r t ht
    cases r with
    | ok _ => exact ⟨ht, by simp⟩
    | error w =>
      refine ⟨ht, ?_⟩
      rintro _ ⟨⟩
      exact ⟨_, _, rfl⟩
  · intro e t ht
    exact ht.elim

end

/-- Whatever the server does, a creation leaves on it what it gives, or what it carries in its
fault, and no other namespace. Only if the lookup after an unclear attempt fails, with which the
creation ends, may there be one namespace more. -/
theorem create_accounts [Seconds τ] [Host τ ω] {S : Server ω} (hS : S.Faithful)
    (client baseName : String) (labels : Labels) {timeout interval : τ}
    (hbounds : Poll.InBounds timeout interval) (s : Site τ ω) (hs : S.reachable s.world) :
    Ends (createThrough client baseName labels timeout interval) s
      (S.Accounts client (S.drawn s.world)) := by
  have hstart : S.Holds (S.drawn s.world) s.world none :=
    ⟨hs, [], (List.append_nil _).symm, by simp⟩
  apply Ends.bind (createWithin_ends hS client baseName labels hbounds hstart)
  · intro record t ht
    apply Ends.bind_ok (Site.log_ends _ _ _ t)
    rintro t' ⟨hlog, _⟩
    have ht' : S.Holds (S.drawn s.world) t'.world (some record) := by
      rw [hlog]
      exact ht
    apply Ends.ite
    · intro _
      apply Ends.bind (awaitActive_ends hS client baseName record hbounds ht')
      · rintro _ t ⟨ht, _⟩
        exact ht
      · rintro e t ⟨ht, he⟩
        obtain ⟨reason, cause, rfl⟩ := he e rfl
        exact .inl ht
    · intro _
      exact .inl ht'
  · intro e t ht
    exact ht

/-- How a server that loses answers deals with a request to create a namespace. -/
inductive Treatment where
  | answer
  /-- Create the namespace, but lose the answer. -/
  | lose
  /-- Lose the request. -/
  | drop
  | refuse

/-- A server that loses answers: its clock, the identifiers that were drawn, the namespaces that it
has created with the identifiers that they carry, and how it deals with the next requests. -/
structure Lossy where
  clock : Rat
  drawn : List String
  store : List (String × Remote)
  treatments : List Treatment

namespace Lossy

/-- The server with one namespace more. -/
def put (w : Lossy) (id : String) (n : Remote) : Lossy := { w with store := w.store ++ [(id, n)] }

/-- Deals with a request to create a namespace. -/
def create (w : Lossy) (name : String) (labels : Labels) :
    Except (Fault Rat) Remote × Lossy :=
  let id := (lookupLast creationLabel labels).getD ""
  let made : Remote := ⟨some (name ++ "abcde"), some labels, none, some (some activePhase)⟩
  let rest := { w with treatments := w.treatments.tail }
  match w.treatments.headD .answer with
  | .answer => (.ok made, rest.put id made)
  | .lose => (.error (.api (some 504) (some "Gateway Timeout") none), rest.put id made)
  | .drop => (.error (.plain .connectionReset []), rest)
  | .refuse => (.error (.api (some 409) (some "Conflict") none), rest)

instance : Host Rat Lossy where
  now := Lossy.clock
  sleep length w := { w with clock := w.clock + length }
  freshId w :=
    let id := String.ofList (List.replicate (w.drawn.length + 1) 'i')
    (id, { w with drawn := w.drawn ++ [id] })
  randomBits w := (0, w)
  reply c w :=
    match c with
    | .createNamespace _ name labels => w.create name labels
    | .listNamespaces _ selector =>
      (.ok ((w.store.filter fun e => creationSelector e.1 == selector).map (·.2)), w)
    | .readNamespace _ name => (.ok ⟨some name, none, none, some (some activePhase)⟩, w)
    | _ => (.error .notFound, w)

/-- What a lossy server keeps. -/
def server : Server Lossy where
  reachable w := (∀ id ∈ w.drawn, id.length ≤ w.drawn.length) ∧ ∀ e ∈ w.store, e.1 ∈ w.drawn
  drawn := Lossy.drawn
  carrying w id := (w.store.filter fun e => e.1 == id).map (·.2)

theorem carrying_put (w : Lossy) (id i : String) (n : Remote) :
    server.carrying (w.put id n) i = server.carrying w i ++ if id = i then [n] else [] := by
  by_cases h : id = i <;> simp [server, put, h]

theorem creates (w : Lossy) {id : String} (name : String) {labels : Labels}
    (hw : server.reachable w) (hid : id ∈ w.drawn) (hlabels : lookupLast creationLabel labels = some id) :
    server.Creates id (w.create name labels).1 w (w.create name labels).2 := by
  have hput (n : Remote) (rest : List Treatment) :
      server.reachable (({ w with treatments := rest } : Lossy).put id n) := by
    refine ⟨hw.1, ?_⟩
    intro e he
    obtain he | he := List.mem_append.1 he
    · exact hw.2 e he
    · rw [List.mem_singleton.1 he]
      exact hid
  have hothers (n : Remote) (rest : List Treatment) (i : String) (hi : i ≠ id) :
      server.carrying (({ w with treatments := rest } : Lossy).put id n) i = server.carrying w i := by
    rw [carrying_put, if_neg (Ne.symm hi), List.append_nil]
    rfl
  have hself (n : Remote) (rest : List Treatment) :
      server.carrying (({ w with treatments := rest } : Lossy).put id n) id =
        server.carrying w id ++ [n] := by
    rw [carrying_put, if_pos rfl]
    rfl
  unfold create
  rw [hlabels]
  cases w.treatments.headD .answer with
  | answer =>
    refine ⟨hput _ _, rfl, fun i _ hi => hothers _ _ i hi, ?_, by simp, by simp⟩
    rintro n ⟨⟩
    exact hself _ _
  | lose =>
    refine ⟨hput _ _, rfl, fun i _ hi => hothers _ _ i hi, by simp, ?_, ?_⟩
    · rintro e ⟨⟩ ⟨status, _, _, hrefusal, _, hlt, _⟩
      cases hrefusal
      omega
    · rintro e ⟨⟩
      exact .inr ⟨_, hself _ _⟩
  | drop => exact ⟨hw, rfl, fun _ _ _ => rfl, by simp, fun _ _ _ => rfl, fun _ _ => .inl rfl⟩
  | refuse => exact ⟨hw, rfl, fun _ _ _ => rfl, by simp, fun _ _ _ => rfl, fun _ _ => .inl rfl⟩

/-- The next identifier is longer than all that were drawn, so nothing carries it. -/
theorem next_unused {w : Lossy} (hw : server.reachable w) :
    String.ofList (List.replicate (w.drawn.length + 1) 'i') ∉ w.drawn := by
  intro hmem
  have hlen := hw.1 _ hmem
  rw [String.length_ofList, List.length_replicate] at hlen
  omega

theorem server_faithful : server.Faithful where
  sleep length w hw := ⟨hw, rfl, fun _ _ => rfl⟩
  fresh w hw := by
    have hunused := next_unused hw
    refine ⟨⟨?_, ?_⟩, rfl, ?_, fun _ _ => rfl⟩
    · intro id hid
      show id.length ≤ (w.drawn ++ [_]).length
      rw [List.length_append, List.length_singleton]
      obtain hid | hid := List.mem_append.1 hid
      · have hlen := hw.1 id hid
        omega
      · have hlen : id.length = w.drawn.length + 1 := by
          rw [List.mem_singleton.1 hid, String.length_ofList, List.length_replicate]
        omega
    · intro e he
      exact List.mem_append_left _ (hw.2 e he)
    · show List.map _ (List.filter _ w.store) = []
      rw [List.map_eq_nil_iff, List.filter_eq_nil_iff]
      intro e he heq
      have hdrawn := hw.2 e he
      rw [beq_iff_eq.1 heq] at hdrawn
      exact hunused hdrawn
  create _ name labels id w hw hid hlabels := creates w name hw hid hlabels
  list _ id w found hw hid hfound := by
    cases hfound
    have hselector (e : String × Remote) :
        (creationSelector e.1 == creationSelector id) = (e.1 == id) := by
      rw [Bool.eq_iff_iff, beq_iff_eq, beq_iff_eq]
      exact String.append_right_inj _
    show List.Perm (List.map _ (List.filter _ w.store)) (List.map _ (List.filter _ w.store))
    simp only [hselector]
    exact List.Perm.refl _
  other c w hw hc := by
    cases c with
    | createNamespace client name labels => exact absurd rfl (hc client name labels)
    | _ => exact ⟨hw, rfl, fun _ _ => rfl⟩
  ordinary c w e hw he := by
    cases c with
    | createNamespace client name labels =>
      change (w.create name labels).1 = _ at he
      unfold create at he
      cases hturn : w.treatments.headD .answer <;> rw [hturn] at he <;> cases he <;> rfl
    | _ => cases he <;> rfl

/-- A server that refuses the first request, loses the second one, and answers the third one so late
that it counts as lost. -/
def troubled : Lossy := ⟨0, [], [], [.refuse, .drop, .lose]⟩

theorem create_accounts_troubled :
    let s : Site Rat Lossy := .start troubled
    let run :=
      (createThrough "c" "web" [(creationLabel, "mine")] 30 2 : SiteM Rat Lossy Record).run s
    run.1.isOk = true ∧ run.2.world.store.length = 1 ∧ run.2.world.drawn.length = 3 ∧
      server.Accounts "c" (server.drawn s.world) run.1 run.2 := by
  intro s run
  have hbounds : Poll.InBounds (30 : Rat) 2 := ⟨by decide +kernel, by decide +kernel⟩
  have hreach : server.reachable s.world := ⟨by decide, by decide⟩
  exact ⟨by decide +kernel, by decide +kernel, by decide +kernel,
    create_accounts server_faithful "c" "web" [(creationLabel, "mine")] hbounds s hreach⟩

end Lossy

end Testbed.Namespace
