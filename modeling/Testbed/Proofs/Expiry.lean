import Testbed.Proofs.Removal

/-!
# What a deletion tells that has timed out

When the wait for a namespace to go away gives up, the resources that are left in it are counted for
the report. As long as the server answers the listings, if only by refusing them, and also if the
kinds of resources cannot be discovered, the deletion ends with its timeout, and the report has
exactly the counts of the listings that succeeded. But a listing that fails without an answer, for
instance because its connection breaks, leaves the deletion with its own fault: nothing then tells
that the namespace is still there.
-/

set_option autoImplicit false

namespace Testbed.Namespace

open Proc

variable {ω : Type} [Host Rat ω]

/-- How a deletion with this timeout ends whose last read was late, by what is asked of the server from
there on. The fault of the poll is the cause of the timeout that is told. -/
structure Expires (timeout : Rat) (client name : String) (cause : Fault Rat)
    (late : Site Rat ω) (ending : Except (Fault Rat) Unit) : Prop where
  undiscovered : ∀ e t, (discovery client).run late = (.error e, t) → e.isOrdinary = true →
    ending = .error (.deletion name .timeout (remainder timeout []) (some cause))
  counted : ∀ resources t, (discovery client).run late = (.ok resources, t) →
    (∀ l ∈ listings client name (listable resources) t, ∀ e, l.2 = .error e → e.isAnswer = true) →
    ∃ counts, Counted (listings client name (listable resources) t) counts ∧
      ending = .error (.deletion name .timeout (remainder timeout counts) (some cause))
  spoiled : ∀ resources t e, (discovery client).run late = (.ok resources, t) →
    (listings client name (listable resources) t).findSome? Listing.spoiling? = some e → ending = .error e

/-- A deletion that is accepted, and of which no read tells that the namespace is gone, expires after
a late read. -/
theorem delete_expires {client name : String} {timeout interval : Rat} {s : Site Rat ω}
    (hpunctual : Punctual ω) (hbounds : Poll.InBounds timeout interval)
    (haccepted : ((request client name).run s).1 = .ok ())
    (hstill : ∀ n, Reaches (removal name timeout interval) client name ((request client name).run s).2 n →
      sightAt (removal name timeout interval) client name ((request client name).run s).2 n = .still) :
    let p := removal name timeout interval
    let asked := ((request client name).run s).2
    ∃ n, Reaches p client name asked n ∧ IsLate p client name asked n ∧
      Expires timeout client name (givenUp p client name asked n) (p.ended (reading client name) asked n)
        ((deleteThrough client name timeout interval).run s).1 := by
  intro p asked
  obtain ⟨n, hreaches, hlast, hending⟩ := delete_outcome hpunctual hbounds haccepted
  have hn := hstill n hreaches
  refine ⟨n, hreaches, hlast.resolve_left (not_not_intro hn), ?_⟩
  rw [hending, hn]
  dsimp only
  constructor
  · intro e t hdiscovery he
    rw [leftovers_outcome, hdiscovery]
    simp only [he, if_true, stillPresent_eq, inOrder_nil]
    rfl
  · intro resources t hdiscovery hanswers
    rw [leftovers_outcome, hdiscovery]
    simp only [countResources_outcome, findSome?_spoiling_eq_none.2 hanswers, stillPresent_eq]
    exact ⟨_, counted_inOrder _, rfl⟩
  · intro resources t e hdiscovery hspoiled
    rw [leftovers_outcome, hdiscovery]
    simp only [countResources_outcome, hspoiled]

section Crowded

open Scripted

/-- A kind of resource as a discovery describes it. -/
def described (name kind : String) (verbs : List String) : Value :=
  .table [("name", .text name), ("kind", .text kind), ("verbs", .list (verbs.map .text))]

/-- A world in which a namespace is there whenever it is read, with the kinds of resources that are
discovered and the effects of listing them, one after the other. -/
def occupiedWorld (kinds : List Value) (effects : List (Effect Rat)) : Timely :=
  .start [("api.read_namespace", [⟨none, 0, .give (.table [("name", .text "web-1")])⟩]),
    ("api.discover", [⟨some 1, 0, .give (.list kinds)⟩]),
    ("api.list_resource", effects.map fun e => ⟨some 1, 0, e⟩)]
    (by simp [Script.IsTimely, Script.Each])

/-- A wait without time in such a world. -/
theorem reaches_occupied {kinds : List Value} {effects : List (Effect Rat)} {n : Nat}
    (h : Reaches (removal "web-1" 0 2) "c" "web-1"
      ((request "c" "web-1").run (.start (occupiedWorld kinds effects))).2 n) :
    n = 0 ∧ sightAt (removal "web-1" 0 2) "c" "web-1"
      ((request "c" "web-1").run (.start (occupiedWorld kinds effects))).2 n = .still := by
  obtain rfl := h.eq_zero (isLate_zero Timely.punctual rfl)
  exact ⟨rfl, rfl⟩

/-- Pods in two versions, secrets that may not be listed, and kinds that are not listed at all. -/
def crowdedWorld : Timely :=
  occupiedWorld
    [described "pods" "Pod" ["get", "list"], described "pods/log" "PodLog" ["list"],
      described "secrets" "Secret" ["list"], described "bindings" "Binding" ["create"],
      described "configmaps" "ConfigMap" ["list"], described "services" "Service" ["list"],
      described "podmetrics" "Pod" ["list"]]
    [.give (.int 2), .raise (.api (some 403) none none), .give (.int 1), .give (.int 0),
      .give (.int 3)]

/-- The site after the only read of the wait in this world. -/
def lateIn (world : Timely) : Site Rat Timely :=
  (removal "web-1" 0 2).ended (reading "c" "web-1") ((request "c" "web-1").run (.start world)).2 0

/-- The later count of the pods stands. -/
theorem counted_crowded : Counted
    (listings "c" "web-1" (listable [⟨0, "pods", "Pod", ["get", "list"]⟩,
      ⟨1, "pods/log", "PodLog", ["list"]⟩, ⟨2, "secrets", "Secret", ["list"]⟩,
      ⟨3, "bindings", "Binding", ["create"]⟩, ⟨4, "configmaps", "ConfigMap", ["list"]⟩,
      ⟨5, "services", "Service", ["list"]⟩, ⟨6, "podmetrics", "Pod", ["list"]⟩])
      ((discovery "c").run (lateIn crowdedWorld)).2)
    [("ConfigMap", 1), ("Pod", 3)] := by
  constructor
  · decide
  · intro kind n
    change _ ↔ lookupLast kind [("Pod", 2), ("ConfigMap", 1), ("Pod", 3)] = some n
    by_cases hpod : kind = "Pod"
    · simp [lookupLast, hpod, @eq_comm _ n]
    · by_cases hmap : kind = "ConfigMap"
      · simp [lookupLast, hmap, @eq_comm _ n]
      · simp [lookupLast, hpod, hmap, Ne.symm hpod, Ne.symm hmap]

/-- What is left is told, although secrets may not be listed. -/
theorem delete_expires_crowded :
    Punctual Timely ∧ Poll.InBounds (0 : Rat) 2 ∧
      ((request "c" "web-1").run (.start crowdedWorld)).1 = .ok () ∧
      (∀ n, Reaches (removal "web-1" 0 2) "c" "web-1" ((request "c" "web-1").run (.start crowdedWorld)).2 n →
        sightAt (removal "web-1" 0 2) "c" "web-1" ((request "c" "web-1").run (.start crowdedWorld)).2 n =
          .still) ∧
      ∃ cause, ((deleteThrough "c" "web-1" 0 2).run (.start crowdedWorld)).1 =
        .error (.deletion "web-1" .timeout
          "namespace still present after 0.0s; remaining resources: ConfigMap=1, Pod=3" cause) := by
  have hbounds : Poll.InBounds (0 : Rat) 2 := ⟨by decide +kernel, by decide +kernel⟩
  have haccepted : ((request "c" "web-1").run (.start crowdedWorld)).1 = .ok () := rfl
  have hstill : ∀ n,
      Reaches (removal "web-1" 0 2) "c" "web-1" ((request "c" "web-1").run (.start crowdedWorld)).2 n →
      sightAt (removal "web-1" 0 2) "c" "web-1" ((request "c" "web-1").run (.start crowdedWorld)).2 n =
        .still := fun _ h => (reaches_occupied h).2
  refine ⟨Timely.punctual, hbounds, haccepted, hstill, ?_⟩
  obtain ⟨n, hreaches, -, hexpires⟩ := delete_expires Timely.punctual hbounds haccepted hstill
  obtain ⟨rfl, -⟩ := reaches_occupied hreaches
  obtain ⟨counts, hcounted, hends⟩ :=
    hexpires.counted _ _ rfl (findSome?_spoiling_eq_none.1 rfl)
  obtain rfl := hcounted.unique counted_crowded
  have htext : remainder (0 : Rat) [("ConfigMap", 1), ("Pod", 3)] =
      "namespace still present after 0.0s; remaining resources: ConfigMap=1, Pod=3" := by
    decide +kernel
  rw [hends, htext]
  exact ⟨_, rfl⟩

/-- A world in which the connection breaks while secrets are listed. -/
def brokenWorld : Timely :=
  occupiedWorld [described "pods" "Pod" ["list"], described "secrets" "Secret" ["list"]]
    [.give (.int 2), .raise (.plain .connection [.text "reset"])]

/-- The timeout and what was counted are lost if a listing breaks. -/
theorem listing_fault_hides_timeout :
    Poll.InBounds (0 : Rat) 2 ∧ ((request "c" "web-1").run (.start brokenWorld)).1 = .ok () ∧
      (∀ n, Reaches (removal "web-1" 0 2) "c" "web-1" ((request "c" "web-1").run (.start brokenWorld)).2 n →
        sightAt (removal "web-1" 0 2) "c" "web-1" ((request "c" "web-1").run (.start brokenWorld)).2 n =
          .still) ∧
      ((deleteThrough "c" "web-1" 0 2).run (.start brokenWorld)).1 =
        .error (.plain .connection [.text "reset"]) ∧
      ¬ ∃ reason cause, ((deleteThrough "c" "web-1" 0 2).run (.start brokenWorld)).1 =
        .error (.deletion "web-1" .timeout reason cause) := by
  have hbounds : Poll.InBounds (0 : Rat) 2 := ⟨by decide +kernel, by decide +kernel⟩
  have haccepted : ((request "c" "web-1").run (.start brokenWorld)).1 = .ok () := rfl
  have hends : ((deleteThrough "c" "web-1" 0 2).run (.start brokenWorld)).1 =
      .error (.plain .connection [.text "reset"]) := by
    obtain ⟨n, hreaches, -, hending⟩ := delete_outcome Timely.punctual hbounds haccepted
    obtain ⟨rfl, -⟩ := reaches_occupied hreaches
    rw [hending]
    rfl
  refine ⟨hbounds, haccepted, fun _ h => (reaches_occupied h).2, hends, ?_⟩
  rintro ⟨reason, cause, h⟩
  rw [hends] at h
  cases h

end Crowded

end Testbed.Namespace
