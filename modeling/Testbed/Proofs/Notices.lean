import Testbed.Proofs.AbortedSetup
import Testbed.Proofs.Clearing

/-!
# What is told of a run

Three records tell how a teardown went: its report, the spans that it leaves, and the entries in the
log that tell of deletions. All of them can be read off the verdicts on its attempts, so they
agree. Setups leave a span as well. Hooks and deferred actions may leave notices of any kind, which
come before those that the teardown itself leaves.
-/

set_option autoImplicit false

namespace Testbed

open Proc Bench

variable {τ ω κ α : Type}

/-- The spans among events, and the entries in the log that tell of deletions. -/
def notices (events : List (Event τ)) : List (Event τ) := events.filter Event.isNotice

@[simp] theorem notices_append (events later : List (Event τ)) :
    notices (events ++ later) = notices events ++ notices later := List.filter_append ..

theorem notices_eq_nil {events : List (Event τ)} (h : ∀ e ∈ events, e.isNotice = false) :
    notices events = [] := by
  apply List.filter_eq_nil_iff.2
  intro e he
  rw [h e he]
  exact Bool.false_ne_true

section Spans

variable [Seconds τ]

/-- The attributes that tell of the fault with which an operation ended, if it is ordinary. -/
def faultAttributes : Except (Fault τ) α → Span.Attributes
  | .ok _ => []
  | .error e =>
    if e.isOrdinary then
      [("exception.type", .text e.label), ("exception.message", .text e.message)]
    else []

/-- The record of a span tells how its operation ended: that it ended well, or with which ordinary
fault, and nothing if a fault passed through. -/
structure SpanRecord.Tells (record : SpanRecord) (name : String) (own : Span.Attributes)
    (ending : Except (Fault τ) α) : Prop where
  name : record.name = name
  ok : record.status = .ok ↔ ∃ a, ending = .ok a
  error : ∀ label, record.status = .error label ↔
    ∃ e, ending = .error e ∧ e.isOrdinary = true ∧ label = e.label
  unset : record.status = .unset ↔ ∃ e, ending = .error e ∧ e.isOrdinary = false
  attributes : record.attributes = own ++ faultAttributes ending

namespace Span

/-- Setting an attribute adds it where there is room and none of its name. -/
theorem put_new {a : Attributes} {key : String} {v : Value} (hkey : key.isEmpty = false)
    (hnew : ∀ e ∈ a, e.1 ≠ key) (hroom : a.length < attributeLimit) :
    put a key v = a ++ [(key, held v)] := by
  have hany : (a.any fun e => e.1 == key) = false := by
    rw [List.any_eq_false]
    intro e he
    rw [beq_iff_eq]
    exact hnew e he
  simp [put, makeRoom, hkey, hany, hroom]

/-- A span that has room, and whose own attributes do not tell of faults, tells how its operation
ended. -/
theorem close_tells (s : Span) {own : Attributes} (hown : s.attributes = own)
    (hfree : ∀ e ∈ own, e.1 ≠ "exception.type" ∧ e.1 ≠ "exception.message")
    (hroom : own.length + 1 < attributeLimit) (ending : Except (Fault τ) α) :
    (s.close s.attributes ending).Tells ("e2e." ++ s.operation) own ending := by
  rw [hown]
  cases ending with
  | ok a =>
    constructor <;> simp [close, faultAttributes]
  | error e =>
    cases he : e.isOrdinary with
    | true =>
      have htype : put own "exception.type" (.text e.label) =
          own ++ [("exception.type", .text e.label)] :=
        put_new (by decide) (fun a ha => (hfree a ha).1) (by omega)
      have hmessage : put (own ++ [("exception.type", .text e.label)]) "exception.message"
          (.text e.message) = own ++ [("exception.type", .text e.label)] ++
            [("exception.message", .text e.message)] := by
        apply put_new (by decide)
        · intro a ha
          rcases List.mem_append.1 ha with ha | ha
          · exact (hfree a ha).2
          · rw [List.mem_singleton.1 ha]
            simp
        · simpa using hroom
      have hclosed : s.close own (.error e : Except (Fault τ) α) =
          ⟨"e2e." ++ s.operation, own ++ [("exception.type", .text e.label)] ++
            [("exception.message", .text e.message)], .error e.label⟩ := by
        rw [close, if_pos he, htype, hmessage]
      rw [hclosed]
      constructor
      · rfl
      · simp
      · intro label
        constructor
        · intro h
          cases h
          exact ⟨e, rfl, he, rfl⟩
        · rintro ⟨_, ⟨⟩, _, rfl⟩
          rfl
      · simp [he]
      · simp [faultAttributes, he]
    | false =>
      constructor <;> simp [close, he, faultAttributes]

end Span

namespace Framework

/-- The attributes of the span around a setup. -/
def setupAttributes (baseName : String) : Span.Attributes :=
  [("e2e.operation", .text "before_each"), ("e2e.base_name", .text baseName)]

/-- The attributes of the span around a teardown. -/
def teardownAttributes (baseName : String) (testFailed : Bool) : Span.Attributes :=
  [("e2e.operation", .text "after_each"), ("e2e.base_name", .text baseName),
   ("e2e.test_failed", .flag testFailed)]

theorem setupSpan_tells (baseName : String) (ending : Except (Fault τ) α) :
    ((setupSpan baseName).close (setupSpan baseName).attributes ending).Tells "e2e.before_each"
      (setupAttributes baseName) ending := by
  have hattributes : (setupSpan baseName).attributes = setupAttributes baseName := rfl
  apply Span.close_tells _ hattributes
  · simp [setupAttributes]
  · simp [setupAttributes, Span.attributeLimit]

theorem teardownSpan_tells (baseName : String) (testFailed : Bool)
    (ending : Except (Fault τ) α) :
    ((teardownSpan baseName testFailed).close (teardownSpan baseName testFailed).attributes
      ending).Tells "e2e.after_each" (teardownAttributes baseName testFailed) ending := by
  apply Span.close_tells (teardownSpan baseName testFailed)
  · rfl
  · simp [teardownAttributes]
  · simp [teardownAttributes, Span.attributeLimit]

end Framework

/-- The attributes of the span around a deletion. -/
def Attempt.attributes (name : String) : Span.Attributes :=
  [("e2e.operation", .text "delete_namespace"), ("e2e.namespace", .text name)]

theorem Attempt.span_tells (name : String) (ending : Except (Fault τ) α) :
    ((span name).close (span name).attributes ending).Tells "e2e.delete_namespace"
      (attributes name) ending := by
  apply Span.close_tells (span name)
  · rfl
  · simp [attributes]
  · simp [attributes, Span.attributeLimit]

end Spans

/-- The fault that a namespace was not there to be deleted. -/
def Fault.tellsGone : Fault τ → Bool
  | .deletion _ .notFound _ _ => true
  | _ => false

/-- What is made of an attempt to delete a namespace. -/
inductive Verdict (τ : Type) where
  | deleted
  | alreadyGone
  | failed (e : Fault τ)
  | cut (e : Fault τ)

namespace Attempt

variable (a : Attempt τ)

/-- The verdict on an attempt, by how it ended. -/
def verdict : Verdict τ :=
  match a.ending with
  | .ok _ => .deleted
  | .error e =>
    if e.tellsGone then .alreadyGone else if e.isOrdinary then .failed e else .cut e

/-- What the verdicts stand for. -/
theorem verdict_cases :
    (a.ending = .ok () ∧ a.verdict = .deleted) ∨
    (∃ e, a.ending = .error e ∧ e.tellsGone = true ∧ e.isOrdinary = true ∧
      a.verdict = .alreadyGone) ∨
    (∃ e, a.ending = .error e ∧ e.tellsGone = false ∧ e.isOrdinary = true ∧
      a.verdict = .failed e) ∨
    ∃ e, a.ending = .error e ∧ e.tellsGone = false ∧ e.isOrdinary = false ∧
      a.verdict = .cut e := by
  unfold verdict
  cases a.ending with
  | ok _ => simp
  | error e =>
    have hordinary (h : e.tellsGone = true) : e.isOrdinary = true := by
      unfold Fault.tellsGone at h
      split at h
      · rfl
      · cases h
    cases hgone : e.tellsGone with
    | true => simp [hgone, hordinary hgone]
    | false => cases he : e.isOrdinary <;> simp [hgone, he]

/-- The name of a namespace that was gone already. -/
def goneName? : Option String :=
  match a.verdict with
  | .alreadyGone => some a.name
  | _ => none

/-- A namespace that could not be deleted, with the fault that says why. -/
def failure? : Option (String × Fault τ) :=
  match a.verdict with
  | .failed e => some (a.name, e)
  | _ => none

variable [Seconds τ]

/-- The span of an attempt. -/
def record : SpanRecord := (span a.name).close (span a.name).attributes a.ending

/-- The entry in the log that follows the span, by the verdict. -/
def entries (baseName : String) : List (LogEntry τ) :=
  match a.verdict with
  | .alreadyGone =>
    [⟨.info, "after_each.namespace_already_deleted",
      [("base_name", .text baseName), ("namespace", .text a.name)]⟩]
  | .failed e =>
    [⟨.error, "after_each.namespace_deletion_failed",
      [("base_name", .text baseName), ("namespace", .text a.name),
       ("kind", .text (Framework.kindLabel e)), ("error", .text e.message)]⟩]
  | .deleted | .cut _ => []

/-- What is told of an attempt: an entry that announces it, its span, and at most one more entry. -/
def told (baseName : String) (timeout : τ) : List (Event τ) :=
  .log (announcement baseName timeout a.name) :: .span a.record :: (a.entries baseName).map .log

theorem afterword_eq (baseName : String) :
    afterword baseName a.name a.ending = a.entries baseName := by
  unfold entries
  rcases a.verdict_cases with ⟨h, hv⟩ | ⟨e, h, hgone, _, hv⟩ | ⟨e, h, hgone, he, hv⟩ |
    ⟨e, h, _, he, hv⟩
  · simp only [h, hv]
    rfl
  · unfold Fault.tellsGone at hgone
    split at hgone
    · simp only [h, hv]
      rfl
    · cases hgone
  · simp only [h, hv]
    unfold afterword
    split
    · contradiction
    · rename_i heq
      cases heq
      cases hgone
    · rename_i heq
      cases heq
      simp [he]
  · simp only [h, hv]
    exact afterword_cut he

/-- The notices among the events of an attempt. -/
theorem notices_events {a : Attempt τ} (h : ∀ e ∈ a.during, e.isNotice = false) (k : Nat)
    (baseName : String) (timeout : τ) :
    notices (a.events k baseName timeout) = a.told baseName timeout := by
  have hentries : notices ((a.entries baseName).map .log) = (a.entries baseName).map .log := by
    apply List.filter_eq_self.2
    intro e he
    obtain ⟨entry, hentry, rfl⟩ := List.mem_map.1 he
    unfold entries at hentry
    split at hentry
    · rw [List.mem_singleton.1 hentry]
      simp [Event.isNotice, noticeNames]
    · rw [List.mem_singleton.1 hentry]
      simp [Event.isNotice, noticeNames]
    · cases hentry
    · cases hentry
  unfold events told
  rw [afterword_eq]
  simp only [notices_append, hentries, notices_eq_nil h]
  have hopens : notices [Event.log (announcement baseName timeout a.name)] =
      [.log (announcement baseName timeout a.name)] := by
    simp [notices, Event.isNotice, noticeNames, announcement]
  rw [hopens]
  rfl

/-- The span of an attempt is marked as ended well if and only if the namespace was deleted. -/
theorem record_ok_iff : a.record.status = .ok ↔ a.verdict = .deleted := by
  rw [record, (span_tells a.name a.ending).ok]
  rcases a.verdict_cases with ⟨h, hv⟩ | ⟨e, h, _, _, hv⟩ | ⟨e, h, _, _, hv⟩ | ⟨e, h, _, _, hv⟩ <;>
    simp [h, hv]

/-- The span of an attempt is marked with a fault if and only if the namespace was gone already or
could not be deleted. -/
theorem record_error_iff : (∃ label, a.record.status = .error label) ↔
    a.verdict = .alreadyGone ∨ ∃ e, a.verdict = .failed e := by
  simp only [record, (span_tells a.name a.ending).error]
  rcases a.verdict_cases with ⟨h, hv⟩ | ⟨e, h, _, he, hv⟩ | ⟨e, h, _, he, hv⟩ | ⟨e, h, _, he, hv⟩
  · simp [h, hv]
  · simp [h, hv, he]
  · simp [h, hv, he]
  · simp [h, hv, he]

end Attempt

theorem notices_attempts [Seconds τ] {attempts : List (Attempt τ)}
    (h : ∀ a ∈ attempts, ∀ e ∈ a.during, e.isNotice = false) (k : Nat) (baseName : String)
    (timeout : τ) : notices (attempts.flatMap (Attempt.events k baseName timeout)) =
      attempts.flatMap fun a => a.told baseName timeout := by
  induction attempts with
  | nil => rfl
  | cons a rest ih =>
    obtain ⟨ha, hrest⟩ := List.forall_mem_cons.1 h
    rw [List.flatMap_cons, notices_append, Attempt.notices_events ha, ih hrest, List.flatMap_cons]

namespace Framework

/-- The report of a teardown agrees with the spans of its attempts and with the verdicts on them. -/
structure Report.Agrees [Seconds τ] (report : Report τ) (attempts : List (Attempt τ)) : Prop where
  attempted : report.attempted = attempts.map Attempt.name
  deleted : report.deleted = (attempts.filter fun a => a.record.status = .ok).map Attempt.name
  alreadyGone : report.alreadyGone = attempts.filterMap Attempt.goneName?
  errors : report.errors = putEntries [] (attempts.filterMap Attempt.failure?)
  marked : ∀ a ∈ attempts, (∃ label, a.record.status = .error label) ↔
    a.verdict = .alreadyGone ∨ ∃ e, a.verdict = .failed e

namespace Report

variable [Seconds τ]

/-- The report of a series of attempts, none of which was cut. -/
theorem foldl_extend {attempts : List (Attempt τ)} (hcalm : ∀ a ∈ attempts, a.IsCalm)
    (report : Report τ) : attempts.foldl extend report =
      { report with
        attempted := report.attempted ++ attempts.map Attempt.name
        deleted := report.deleted ++
          (attempts.filter fun a => a.record.status = .ok).map Attempt.name
        alreadyGone := report.alreadyGone ++ attempts.filterMap Attempt.goneName?
        errors := putEntries report.errors (attempts.filterMap Attempt.failure?) } := by
  induction attempts generalizing report with
  | nil => simp [putEntries]
  | cons a rest ih =>
    obtain ⟨ha, hrest⟩ := List.forall_mem_cons.1 hcalm
    rw [List.foldl_cons, ih hrest]
    have hok := a.record_ok_iff
    rcases a.verdict_cases with ⟨h, hv⟩ | ⟨e, h, hgone, _, hv⟩ | ⟨e, h, hgone, _, hv⟩ |
      ⟨e, h, _, he, hv⟩
    · simp [hok, hv, h, extend, attempt, close, Attempt.goneName?, Attempt.failure?]
    · unfold Fault.tellsGone at hgone
      split at hgone
      · simp [hok, hv, h, extend, attempt, close, Attempt.goneName?, Attempt.failure?]
      · cases hgone
    · have hclose (r : Report τ) :
          r.close a.name (.error e) = { r with errors := putEntry r.errors a.name e } := by
        unfold close
        split
        · contradiction
        · rename_i heq
          cases heq
          cases hgone
        · rename_i heq
          cases heq
          rfl
      simp [hok, hv, h, extend, attempt, hclose, Attempt.goneName?, Attempt.failure?, putEntries]
    · rw [ha e h] at he
      cases he

/-- The report that a teardown settles from agrees with what is told of its attempts. -/
theorem agrees {attempts : List (Attempt τ)} {report : Report τ} (h : ReportsOn attempts report)
    (hcalm : ∀ a ∈ attempts, a.IsCalm) : report.Agrees attempts := by
  obtain ⟨skipped, rfl⟩ := h
  rw [foldl_extend hcalm]
  exact ⟨rfl, rfl, rfl, rfl, fun a _ => a.record_error_iff⟩

end Report

/-- What deleting a namespace does at the site leaves no notices. -/
theorem deletion_unnoticed [Seconds τ] [Host τ ω] (c : Cluster τ) (timeout : τ)
    (name client : String) (s : Site τ ω) :
    Ends (c.deleteNamespace name client timeout) s fun _ t =>
      ∃ new, t.events = s.events ++ new ∧ ∀ e ∈ new, e.isNotice = false := by
  have hwork : MadeOf (Site.Work fun _ => True) (fun _ => True)
      (c.deleteNamespace name client timeout : SiteM τ ω Unit) :=
    Cluster.madeOf_deleteNamespace (fun _ _ => trivial) c name client timeout fun _ _ _ => trivial
  apply (hwork.along Site.Work.leaves s).mono
  rintro _ t ⟨new, hnew, hleft⟩
  exact ⟨new, hnew, fun e he => (hleft e he).isNotice⟩

/-- What a setup tells: its span comes last, and tells how the setup ended. -/
structure ToldSetup [Seconds τ] (P : Event τ → Prop) (baseName : String) (b b' : Bench τ ω κ)
    (ending : Except (Fault τ) Unit) (stages : List (Event τ)) (record : SpanRecord) : Prop where
  events : b'.site.events = b.site.events ++ (stages ++ [.span record])
  stages : ∀ e ∈ stages, P e
  record : record.Tells "e2e.before_each" (setupAttributes baseName) ending

/-- What a teardown leaves once it has wound up: its attempts, what it does after them, and its
span. -/
def remains [Seconds τ] (k : Nat) (baseName : String) (timeout : τ) (attempts : List (Attempt τ))
    (parting : List (Event τ)) (record : SpanRecord) : List (Event τ) :=
  attempts.flatMap (Attempt.events k baseName timeout) ++ parting ++ [.span record]

/-- What a teardown tells of its attempts to delete namespaces, and how it ended itself. The winding
up has ended in the given way, with the framework `g`. -/
structure ToldTeardown [Seconds τ] (P : Event τ → Prop) (k : Nat) (baseName : String)
    (testFailed : Bool) (before : Except (Fault τ) Unit) (g : Framework τ κ) (b b' : Bench τ ω κ)
    (ending : Except (Fault τ) (Report τ)) (wound parting : List (Event τ))
    (attempts : List (Attempt τ)) (record : SpanRecord) : Prop where
  events : b'.site.events = b.site.events ++
    (wound ++ remains k baseName (deletionLimit g) attempts parting record)
  wound : ∀ e ∈ wound, P e
  notices : notices (remains k baseName (deletionLimit g) attempts parting record) =
    (attempts.flatMap fun a => a.told baseName (deletionLimit g)) ++ [.span record]
  attempted : attempts.map Attempt.name = (g.doomed testFailed).take attempts.length
  spans : ∀ a ∈ attempts,
    a.record.Tells "e2e.delete_namespace" (Attempt.attributes a.name) a.ending
  record : record.Tells "e2e.after_each" (teardownAttributes baseName testFailed) ending
  /-- If no attempt was cut, all were made, and the report from which the teardown settles agrees with
  them. It does not settle if the close of its client was cut. -/
  settled : (∀ a ∈ attempts, a.IsCalm) → attempts.map Attempt.name = g.doomed testFailed ∧
    ((∃ report : Report τ, report.Agrees attempts ∧ ending = settle before report) ∨
      ∃ e, ending = .error e ∧ e.isOrdinary = false)

section Told

variable [Seconds τ] [Host τ ω] {r : Runner τ ω κ} {k : Nat} {b : Bench τ ω κ} {f : Framework τ κ}
  {P : Event τ → Prop} (hf : b.frameworks[k]? = some f)
  (hP : ∀ e : Event τ, e.isNotice = false → P e)
  (hbodies : ∀ body, (r.perform (some k) body).Along (Upholds P (fun s => s.baseName) k))

include hf hP hbodies

/-- A setup leaves its span at last, which tells how it ended. -/
theorem setup_told (component : Option String) :
    Ends (beforeEach r k component) b fun ending b' =>
      ∃ stages record, ToldSetup P f.baseName b b' ending stages record := by
  have henrolls : Ends (enroll k : BenchM τ ω κ Unit) b fun ending b₁ =>
      ending = .ok () ∧ Upholds P (fun s => s.baseName) k b b₁ :=
    ⟨rfl, enroll_upholds (log_of_quiet hP) b⟩
  apply Ends.bind_ok henrolls
  intro b₁ h₁
  obtain ⟨f₁, hf₁, hname⟩ := h₁.found hf
  apply Ends.bind_ok (frameworkAt_ends hf₁)
  rintro b₁ rfl
  have hprepare : (prepare r k component).Along (Upholds P (fun s => s.baseName) k) :=
    (routine_prepare (fun _ h => h) component).upholds hP hbodies hP
  apply enclose_ends
  apply (hprepare b₁).mono
  intro ending b₂ h₂ b₃ h₃
  obtain ⟨stages, hstages, hheld⟩ := (trans_of (Upholds P (fun s => s.baseName) k) h₁ h₂).1
  refine ⟨stages, _, ?_, hheld, setupSpan_tells f.baseName ending⟩
  rw [h₃.2, hstages, List.append_assoc, ← hname]
  rfl

/-- A teardown winds up, and then tells of each of its attempts in their order. It leaves its span
at last, which tells how it ended. -/
theorem teardown_told (testFailed : Bool) :
    Ends (afterEach r k testFailed) b fun ending b' => ∃ g wound parting attempts record,
      (woundUp r k testFailed b).2.frameworks[k]? = some g ∧
      ToldTeardown P k f.baseName testFailed (woundUp r k testFailed b).1 g b b' ending wound parting
        attempts record := by
  have hwound : Upholds P (fun s => s.baseName) k b (woundUp r k testFailed b).2 :=
    woundUp_upholds hP hbodies
  obtain ⟨g, hg, hname⟩ := hwound.found hf
  obtain ⟨wound, hwinds, hheld⟩ := hwound.1
  apply afterEach_closes hf
  apply (clearAway_clears testFailed _ hg).mono
  rintro ending b₁ ⟨attempts, parting, hevents, htried, hparting, hclears⟩ b₂ h₂
  have hquiet : ∀ a ∈ attempts, ∀ e ∈ a.during, e.isNotice = false := by
    intro a ha
    obtain ⟨_, _, h⟩ := htried a ha
    exact h.during (fun client _ => deletion_unnoticed g.cluster _ a.name client) fun _ => by simp
  refine ⟨g, wound, parting, attempts, _, hg, ?_, hheld, ?_, hclears.attempted,
    fun a _ => Attempt.span_tells a.name a.ending, teardownSpan_tells f.baseName testFailed ending,
    ?_⟩
  · rw [h₂.2, hevents, hwinds, ← hname]
    simp [remains]
  · simp only [remains, notices_append, notices_attempts hquiet,
      notices_eq_nil fun e he => (hparting e he).isNotice, List.append_nil]
    rfl
  · intro hcalm
    obtain ⟨hall, hends⟩ := hclears.of_calm hcalm
    refine ⟨hall, hends.imp_left ?_⟩
    rintro ⟨report, hreports, hsettled⟩
    exact ⟨report, Report.agrees hreports hcalm, hsettled⟩

end Told

/-- A framework that tracks three namespaces, on a stub that deletes the first one only: the second
one is gone, and a deletion of the third one fails. -/
def threefold : Bench Rat (Scripted.World Rat) Unit :=
  let bench := lone .stub <| .start 0 [("op.delete_namespace", [⟨some 1, 0, .standard⟩,
    ⟨some 1, 0, .raise (.deletion "b" .notFound "no such namespace" none)⟩,
    ⟨some 1, 0, .raise (.plain .runtime [.text "refused"])⟩])] []
  { bench with frameworks := bench.frameworks.map fun f =>
      { f with tracked := [⟨"a", [], none⟩, ⟨"b", [], none⟩, ⟨"c", [], none⟩] } }

end Framework

end Testbed
