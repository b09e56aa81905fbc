import Mathlib.Data.List.Forall2
import Mathlib.Data.List.Nodup
import Testbed.Proofs.Dump
import Testbed.Proofs.Entries

/-!
# What a dump tells of containers

The entry of a pod has a table of its containers. What it should say of a container follows from the
state that the server gives: nothing is known without one, and else the first of the activities that
are set in it counts. A state in which nothing is set is a case of its own: its container gets no
entry, and no other container is left out. `Recounted` says so of a table, and leaves no choice of
it.
-/

set_option autoImplicit false

namespace Testbed.Pod

/-- What a container does or did. -/
inductive Activity where
  | running
  | waiting (reason : Option String)
  | terminated (ending : Termination)
  deriving DecidableEq, Repr

/-- The words for an activity. -/
def Activity.text : Activity → String
  | .running => "running"
  | .waiting reason => "waiting: " ++ Fault.orNone reason
  | .terminated ending =>
    "terminated: " ++ Fault.orNone ending.reason ++ " (exit " ++
      Fault.orNone (ending.exitCode.map toString) ++ ")"

/-- The activities that are set in a state, in the order in which they count. -/
def ContainerState.activities (state : ContainerState) : List Activity :=
  (if state.running then [.running] else []) ++ (state.waiting.map .waiting).toList ++
    (state.terminated.map .terminated).toList

/-- What a text may say of a container by its state. -/
inductive Says : Option ContainerState → String → Prop where
  | unknown : Says none "unknown"
  | first {state : ContainerState} {activity : Activity} {later : List Activity}
      (set : state.activities = activity :: later) : Says (some state) activity.text

/-- Whether the server gives a container a state in which nothing is set. -/
def Container.isBlank (c : Container) : Bool :=
  match c.state with
  | none => false
  | some state => state.activities.isEmpty

/-- An entry of a table tells what a container does. -/
structure Container.ToldBy (c : Container) (entry : String × String) : Prop where
  name : entry.1 = c.name
  text : Says c.state entry.2

/-- The containers of a pod; none without a status. -/
def Remote.containers (p : Remote) : List Container := (p.status.map Status.containers).getD []

variable {containers : List Container} {table table' : List (String × String)}

/-- A table tells all containers but the blank ones, each in one entry and in the order of the
list. -/
structure Recounted (containers : List Container) (table : List (String × String)) : Prop where
  told : List.Forall₂ Container.ToldBy (containers.filter fun c => !c.isBlank) table
  /-- A container is missing if and only if it is blank. -/
  named : ∀ c ∈ containers, c.name ∈ table.map Prod.fst ↔ c.isBlank = false
  /-- All containers are told if and only if none is blank. -/
  inFull : List.Forall₂ Container.ToldBy containers table ↔ ∀ c ∈ containers, c.isBlank = false

theorem Says.unique {state : Option ContainerState} {text text' : String} (h : Says state text)
    (h' : Says state text') : text = text' := by
  obtain _ | set := h
  · obtain _ | _ := h'
    rfl
  · obtain _ | set' := h'
    rw [(List.cons.inj (set.symm.trans set')).1]

theorem Container.ToldBy.unique {c : Container} {entry entry' : String × String}
    (h : c.ToldBy entry) (h' : c.ToldBy entry') : entry = entry' :=
  Prod.ext (h.name.trans h'.name.symm) (h.text.unique h'.text)

/-- There is one table that tells the containers. -/
theorem Recounted.unique (h : Recounted containers table) (h' : Recounted containers table') :
    table = table' :=
  List.right_unique_forall₂' (fun _ _ _ hentry hentry' => hentry.unique hentry') h.told h'.told

/-- Nothing can be said of a blank container. -/
theorem Says.isBlank_eq_false {c : Container} {text : String} (h : Says c.state text) :
    c.isBlank = false := by
  obtain ⟨name, state⟩ := c
  cases h with
  | unknown => rfl
  | first set => simp [Container.isBlank, set]

theorem isBlank_eq_false_of_told (h : List.Forall₂ Container.ToldBy containers table) :
    ∀ c ∈ containers, c.isBlank = false := by
  induction h with
  | nil => exact fun c hc => absurd hc List.not_mem_nil
  | cons hentry _ ih => exact List.forall_mem_cons.2 ⟨hentry.text.isBlank_eq_false, ih⟩

/-- A table that tells containers has their names as its keys. -/
theorem keys_eq_names (h : List.Forall₂ Container.ToldBy containers table) :
    table.map Prod.fst = containers.map Container.name := by
  induction h with
  | nil => rfl
  | cons hentry _ ih => rw [List.map_cons, List.map_cons, hentry.name, ih]

/-- What a table leaves out follows from what it tells, if no two containers share a name. -/
theorem Recounted.of_told (hnames : (containers.map Container.name).Nodup)
    (htold : List.Forall₂ Container.ToldBy (containers.filter fun c => !c.isBlank) table) :
    Recounted containers table := by
  constructor
  · exact htold
  · intro c hc
    rw [keys_eq_names htold]
    constructor
    · intro hname
      -- No other container has this name, so it is this one that is told.
      obtain ⟨other, hother, hsame⟩ := List.mem_map.1 hname
      obtain ⟨hmem, htells⟩ := List.mem_filter.1 hother
      rw [List.inj_on_of_nodup_map hnames hmem hc hsame] at htells
      simpa using htells
    · intro htells
      exact List.mem_map_of_mem (List.mem_filter.2 ⟨hc, by simpa using htells⟩)
  · constructor
    · exact isBlank_eq_false_of_told
    · intro hnone
      have hlisted : (containers.filter fun c => !c.isBlank) = containers :=
        List.filter_eq_self.2 fun c hc => by rw [hnone c hc, Bool.not_false]
      rwa [hlisted] at htold

end Testbed.Pod

namespace Testbed.Diagnostics

open Pod Proc

variable {τ ω : Type}

section Table

/-- The entries that are put into the table of the containers. -/
def tellings (containers : List Container) : List (String × String) :=
  containers.filterMap fun c => (stateText c.state).map fun text => (c.name, text)

theorem containerStates_eq_putEntries (p : Pod.Remote) :
    containerStates p = putEntries [] (tellings p.containers) := by
  unfold containerStates putEntries tellings Pod.Remote.containers
  rw [List.foldl_filterMap]
  congr 1
  funext states c
  cases stateText c.state <;> rfl

/-- The activities of a state are tried in the order in which they count. -/
theorem stateText_some (state : ContainerState) :
    stateText (some state) = state.activities.head?.map Activity.text := by
  obtain ⟨running, waiting, terminated⟩ := state
  cases running <;> cases waiting <;> cases terminated <;> rfl

/-- There are no words for a blank container, and the right ones for any other. -/
theorem stateText_cases (c : Container) :
    (c.isBlank = true ∧ stateText c.state = none) ∨
      (c.isBlank = false ∧ ∃ text, stateText c.state = some text ∧ Says c.state text) := by
  obtain ⟨name, _ | state⟩ := c
  · exact .inr ⟨rfl, "unknown", rfl, .unknown⟩
  · -- No branch of the text meets a state without activities.
    cases hset : state.activities with
    | nil => exact .inl ⟨by simp [Container.isBlank, hset], by simp [stateText_some, hset]⟩
    | cons activity later =>
      exact .inr ⟨by simp [Container.isBlank, hset], activity.text,
        by simp [stateText_some, hset], .first hset⟩

theorem tellings_tell (containers : List Container) :
    List.Forall₂ Container.ToldBy (containers.filter fun c => !c.isBlank)
      (tellings containers) := by
  induction containers with
  | nil => exact .nil
  | cons c rest ih =>
    obtain ⟨hblank, htext⟩ | ⟨hblank, text, htext, hsays⟩ := stateText_cases c
    · simpa [tellings, hblank, htext] using ih
    · simpa [tellings, hblank, htext] using List.Forall₂.cons ⟨rfl, hsays⟩ ih

/-- The table of a pod tells its containers. -/
theorem containerStates_recounted {p : Pod.Remote}
    (hnames : (p.containers.map Container.name).Nodup) :
    Recounted p.containers (containerStates p) := by
  have htold := tellings_tell p.containers
  have hkeys : ((tellings p.containers).map Prod.fst).Nodup := by
    rw [keys_eq_names htold]
    exact hnames.sublist (List.filter_sublist.map _)
  rw [containerStates_eq_putEntries, putEntries_of_nodup hkeys]
  exact .of_told hnames htold

end Table

section Log

/-- The entries on pods that are logged. -/
def podEntries (events : List (Event τ)) : List (LogEntry τ) :=
  (events.filterMap Event.log?).filter fun entry => entry.name == "diagnostics.pod"

theorem podEntries_append (events added : List (Event τ)) :
    podEntries (events ++ added) = podEntries events ++ podEntries added := by
  simp [podEntries]

/-- Nothing that is logged of occurrences is an entry on a pod. -/
theorem podEntries_occurrenceLog (ns : String) (given ordered : List Occurrence) :
    podEntries (occurrenceLog (τ := τ) ns given ordered) = [] := by
  simp [podEntries, occurrenceLog, List.filterMap_map, Function.comp_def, Event.log?,
    countEntry, occurrenceEntry]

theorem podEntries_podLog (ns : String) (pods : List Pod.Remote) :
    podEntries (podLog (τ := τ) ns pods) = pods.map (podEntry ns) := by
  have hentries : ∀ entry ∈ pods.map (podEntry (τ := τ) ns),
      (entry.name == "diagnostics.pod") = true := by
    intro entry hentry
    obtain ⟨p, _, rfl⟩ := List.mem_map.1 hentry
    rfl
  have hlogged : (podLog (τ := τ) ns pods).filterMap Event.log? =
      countEntry "diagnostics.pods" ns pods.length :: pods.map (podEntry ns) := by
    simp [podLog, Event.log?, List.filterMap_map, Function.comp_def]
  rw [podEntries, hlogged, List.filter_cons_of_neg (by simp [countEntry]),
    List.filter_eq_self.2 hentries]

end Log

section Dump

/-- Times compare if all or none of them know their offsets. -/
theorem inOrder_of_alike {given : List Occurrence}
    (halike : ∀ o ∈ given, ∀ o' ∈ given, o.chosen.isAware = o'.chosen.isAware) :
    ∃ ordered, inOrder given = (.ok ordered : Except (Fault τ) _) := by
  unfold inOrder
  rw [if_neg]
  · exact ⟨_, rfl⟩
  · intro hmixed
    obtain ⟨haware, hunaware⟩ := Bool.and_eq_true_iff.1 hmixed
    obtain ⟨o, ho, hknows⟩ := List.any_eq_true.1 haware
    obtain ⟨o', ho', hlacks⟩ := List.any_eq_true.1 hunaware
    rw [o.time_eq_chosen, halike o ho o' ho', ← o'.time_eq_chosen] at hknows
    rw [hknows] at hlacks
    cases hlacks

/-- A logged table can be read off its entry. -/
theorem labels_injective : Function.Injective (Detail.labels : Labels → Detail τ) := by
  intro table table' h
  have hentry : Function.Injective fun e : String × String => (e.1, Value.text e.2) := by
    rintro ⟨name, text⟩ ⟨name', text'⟩ hsame
    cases hsame
    rfl
  exact List.map_injective_iff.2 hentry (Value.table.inj (Detail.value.inj h))

/-- What is logged of a pod: its name, and its containers if no two of them share a name. -/
structure TellsPod (p : Pod.Remote) (entry : LogEntry τ) : Prop where
  name : lookupLast "pod" entry.fields = some (.text? p.name)
  containers : ∃ table, lookupLast "containers" entry.fields = some (.labels table) ∧
    ((p.containers.map Container.name).Nodup → Recounted p.containers table)

theorem podEntry_tellsPod (ns : String) (p : Pod.Remote) : TellsPod (τ := τ) p (podEntry ns p) :=
  ⟨rfl, containerStates p, rfl, containerStates_recounted⟩

variable [Host τ ω]

/-- If the server tells what happened in a namespace and its pods, and the times compare, then each
pod has one entry. -/
theorem dump_podEntries (client ns : String) (s : Site τ ω) {given : List Occurrence}
    {pods : List Pod.Remote} (htold : (Host.reply (.listOccurrences client ns) s.world).1 = .ok given)
    (halike : ∀ o ∈ given, ∀ o' ∈ given, o.chosen.isAware = o'.chosen.isAware)
    (hpods : (Host.reply (.listPods client ns) (Host.reply (.listOccurrences client ns) s.world).2).1 =
      .ok pods) :
    Ends (dumpThrough client ns) s fun ending t => ending = .ok () ∧
      podEntries t.events = podEntries s.events ++ pods.map (podEntry ns) := by
  obtain ⟨ordered, horder⟩ := inOrder_of_alike halike
  apply (dump_told htold horder).mono
  rintro ending t ⟨hending, hevents⟩
  rw [hpods] at hending
  refine ⟨hending, ?_⟩
  have hpart : podEntries (podPart client ns (Host.reply (.listOccurrences client ns) s.world).2) =
      pods.map (podEntry ns) := by
    rw [podPart, hpods]
    exact podEntries_podLog ns pods
  rw [hevents, podEntries_append]
  congr 1
  change podEntries (occurrenceLog ns given ordered ++ _) = _
  rw [podEntries_append, podEntries_occurrenceLog, hpart, List.nil_append]

/-- A dump that comes to the pods writes one entry for each of them, in the order in which they are
told, and each entry tells all containers of its pod but the blank ones. -/
theorem dump_tells_containers (client ns : String) (s : Site τ ω) {given : List Occurrence}
    {pods : List Pod.Remote} (htold : (Host.reply (.listOccurrences client ns) s.world).1 = .ok given)
    (halike : ∀ o ∈ given, ∀ o' ∈ given, o.chosen.isAware = o'.chosen.isAware)
    (hpods : (Host.reply (.listPods client ns) (Host.reply (.listOccurrences client ns) s.world).2).1 =
      .ok pods) :
    Ends (dumpThrough client ns) s fun ending t => ending = .ok () ∧
      ∃ entries, podEntries t.events = podEntries s.events ++ entries ∧
        List.Forall₂ TellsPod pods entries := by
  apply (dump_podEntries client ns s htold halike hpods).mono
  rintro ending t ⟨hending, hentries⟩
  refine ⟨hending, pods.map (podEntry ns), hentries, ?_⟩
  rw [List.forall₂_map_right_iff, List.forall₂_same]
  exact fun p _ => podEntry_tellsPod ns p

end Dump

section Mixed

open Scripted

/-- A pod whose containers have states of all kinds, one of them with nothing set in it. -/
def mixedPod : Pod.Remote :=
  ⟨some "web", some ⟨some "Running",
    [⟨"init", none⟩, ⟨"app", some ⟨true, some (some "Restart"), some ⟨some "Error", some 1⟩⟩⟩,
      ⟨"proxy", some ⟨false, some none, some ⟨some "Error", some 1⟩⟩⟩,
      ⟨"sidecar", some ⟨false, none, none⟩⟩,
      ⟨"job", some ⟨false, none, some ⟨none, some 137⟩⟩⟩]⟩, some (some "worker")⟩

/-- A pod of which the server knows the name only. -/
def barePod : Pod.Remote := ⟨some "queued", none, some none⟩

/-- How a document describes a container whose state has these parts. -/
def containerNamed (name : String) (parts : List (String × Value)) : Value :=
  .table [("name", .text name), ("state", .table parts)]

/-- A world in which the server tells of two occurrences and of these pods. -/
def mixedWorld : World Rat :=
  let restart : Value := .table [("reason", .text "Restart")]
  let error : Value := .table [("reason", .text "Error"), ("exit_code", .int 1)]
  .start 0
    [("api.list_events", [⟨some 1, 0, .give (.list
        [.table
            [("last_timestamp", .text "2026-01-01T12:05:00+00:00"), ("reason", .text "Started")],
          .table [("reason", .text "Scheduled")]])⟩]),
      ("api.list_pods", [⟨some 1, 0, .give (.list
        [.table [("name", .text "web"), ("phase", .text "Running"), ("node", .text "worker"),
            ("containers", .list
              [.table [("name", .text "init")],
                containerNamed "app"
                  [("running", .table []), ("waiting", restart), ("terminated", error)],
                containerNamed "proxy" [("waiting", .table []), ("terminated", error)],
                containerNamed "sidecar" [],
                containerNamed "job" [("terminated", .table [("exit_code", .int 137)])]])],
          .table [("name", .text "queued"), ("no_status", .flag true)]])⟩])] []

/-- The one table that tells the containers of the pod: the blank one is not among them. -/
theorem recounted_mixed : Recounted mixedPod.containers
    [("init", "unknown"), ("app", "running"), ("proxy", "waiting: None"),
      ("job", "terminated: None (exit 137)")] := by
  have hproxy : Activity.text (.waiting none) = "waiting: None" := by decide +kernel
  have hjob : Activity.text (.terminated ⟨none, some 137⟩) = "terminated: None (exit 137)" := by
    decide +kernel
  apply Recounted.of_told (by decide +kernel)
  rw [← hproxy, ← hjob]
  refine .cons ⟨rfl, .unknown⟩ (.cons ⟨rfl, ?_⟩ (.cons ⟨rfl, ?_⟩ (.cons ⟨rfl, ?_⟩ .nil)))
  · exact @Says.first _ .running _ rfl
  · exact @Says.first _ (.waiting none) _ rfl
  · exact @Says.first _ (.terminated ⟨none, some 137⟩) _ rfl

theorem dump_tells_containers_mixed :
    (Host.reply (.listOccurrences "c" "web-1") mixedWorld).1 = .ok [late, timeless] ∧
      (∀ o ∈ [late, timeless], ∀ o' ∈ [late, timeless], o.chosen.isAware = o'.chosen.isAware) ∧
      (Host.reply (.listPods "c" "web-1") (Host.reply (.listOccurrences "c" "web-1") mixedWorld).2).1 =
        .ok [mixedPod, barePod] ∧
      (mixedPod.containers.map Container.name).Nodup ∧
      (barePod.containers.map Container.name).Nodup ∧
      Ends (dumpThrough "c" "web-1") (.start mixedWorld) fun ending t => ending = .ok () ∧
        ∃ web bare, podEntries t.events = [web, bare] ∧
          lookupLast "containers" web.fields = some (.labels
            [("init", "unknown"), ("app", "running"), ("proxy", "waiting: None"),
              ("job", "terminated: None (exit 137)")]) ∧
          lookupLast "containers" bare.fields = some (.labels []) := by
  have htold : (Host.reply (.listOccurrences "c" "web-1") mixedWorld).1 = .ok [late, timeless] := rfl
  have halike : ∀ o ∈ [late, timeless], ∀ o' ∈ [late, timeless],
      o.chosen.isAware = o'.chosen.isAware := by decide +kernel
  have hpods : (Host.reply (.listPods "c" "web-1")
      (Host.reply (.listOccurrences "c" "web-1") mixedWorld).2).1 = .ok [mixedPod, barePod] := rfl
  have hnames : (mixedPod.containers.map Container.name).Nodup := by decide +kernel
  have hbare : (barePod.containers.map Container.name).Nodup := List.nodup_nil
  refine ⟨htold, halike, hpods, hnames, hbare, ?_⟩
  obtain ⟨hending, entries, hentries, htells⟩ :=
    dump_tells_containers "c" "web-1" (.start mixedWorld) htold halike hpods
  obtain ⟨web, _, hweb, hrest, rfl⟩ := List.forall₂_cons_left_iff.1 htells
  obtain ⟨bare, _, hqueued, hnone, rfl⟩ := List.forall₂_cons_left_iff.1 hrest
  obtain rfl := List.forall₂_nil_left_iff.1 hnone
  refine ⟨hending, web, bare, hentries, ?_, ?_⟩
  · obtain ⟨table, htable, hrecounted⟩ := hweb.containers
    rw [htable, (hrecounted hnames).unique recounted_mixed]
  · obtain ⟨table, htable, hrecounted⟩ := hqueued.containers
    rw [htable, (hrecounted hbare).unique (.of_told hbare .nil)]

/-- A pod with a container that runs and one in whose state nothing is set. -/
def quietPod : Pod.Remote :=
  ⟨some "web", some ⟨none,
    [⟨"app", some ⟨true, none, none⟩⟩, ⟨"sidecar", some ⟨false, none, none⟩⟩]⟩, some none⟩

/-- A world in which the server tells of this pod. -/
def quietWorld : World Rat :=
  .start 0
    [("api.list_pods", [⟨some 1, 0, .give (.list
        [.table [("name", .text "web"), ("containers", .list
          [containerNamed "app" [("running", .table [])], containerNamed "sidecar" []])]])⟩])] []

/-- The names of the two containers differ, but what is logged of the pod has only one of them. -/
theorem blank_container_disappears :
    (Host.reply (.listPods "c" "web-1") (Host.reply (.listOccurrences "c" "web-1") quietWorld).2).1 =
        .ok [quietPod] ∧
      (quietPod.containers.map Container.name).Nodup ∧
      Ends (dumpThrough "c" "web-1") (.start quietWorld) fun ending t => ending = .ok () ∧
        ∃ entry, podEntries t.events = [entry] ∧
          lookupLast "containers" entry.fields = some (.labels [("app", "running")]) ∧
          ¬ ∃ table, lookupLast "containers" entry.fields = some (.labels table) ∧
            table.map Prod.fst = quietPod.containers.map Container.name := by
  have hpods : (Host.reply (.listPods "c" "web-1")
      (Host.reply (.listOccurrences "c" "web-1") quietWorld).2).1 = .ok [quietPod] := rfl
  have htold : (Host.reply (.listOccurrences "c" "web-1") quietWorld).1 = .ok [] := rfl
  have halike : ∀ o ∈ ([] : List Occurrence), ∀ o' ∈ ([] : List Occurrence),
      o.chosen.isAware = o'.chosen.isAware := fun _ ho => absurd ho List.not_mem_nil
  refine ⟨hpods, by decide +kernel, ?_⟩
  obtain ⟨hending, hentries⟩ := dump_podEntries "c" "web-1" (.start quietWorld) htold halike hpods
  have hlogged : lookupLast "containers" (podEntry (τ := Rat) "web-1" quietPod).fields =
      some (.labels [("app", "running")]) := rfl
  refine ⟨hending, podEntry "web-1" quietPod, hentries, hlogged, ?_⟩
  rintro ⟨table, htable, hkeys⟩
  rw [hlogged] at htable
  rw [← labels_injective (Option.some.inj htable)] at hkeys
  exact absurd hkeys (by decide +kernel)

end Mixed

end Testbed.Diagnostics
