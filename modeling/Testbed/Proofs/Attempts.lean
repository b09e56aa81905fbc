import Testbed.Proofs.Requests
import Testbed.Proofs.Rules

/-!
# Attempts to delete namespaces

A teardown attempts to delete one namespace after the other. Each attempt leaves one block of
events: an entry in the log that announces it, what is done at the site meanwhile, its span, the
change of custody that it is, and an entry that tells how it failed, if it did. The report of the
teardown is folded from the attempts.
-/

set_option autoImplicit false

namespace Testbed

open Proc Bench

variable {τ ω κ α : Type}

/-- An attempt to delete a namespace: what was done at the site meanwhile, and how it ended. -/
structure Attempt (τ : Type) where
  name : String
  during : List (Event τ)
  ending : Except (Fault τ) Unit

namespace Attempt

/-- The namespace of an attempt, and how the attempt ended. -/
def outcome (a : Attempt τ) : String × Except (Fault τ) Unit := (a.name, a.ending)

/-- The span around the deletion of a namespace. -/
def span (name : String) : Span := { operation := "delete_namespace", ns := some name }

/-- The entry that announces an attempt. -/
def announcement (baseName : String) (timeout : τ) (name : String) : LogEntry τ :=
  ⟨.info, "after_each.destroying_namespace",
    [("base_name", .text baseName), ("namespace", .text name), ("timeout", .seconds timeout)]⟩

variable [Seconds τ]

/-- The entry that tells how an attempt failed: that the namespace was gone already, or which
ordinary fault left the attempt. -/
def afterword (baseName name : String) : Except (Fault τ) Unit → List (LogEntry τ)
  | .ok _ => []
  | .error (.deletion _ .notFound _ _) =>
    [⟨.info, "after_each.namespace_already_deleted",
      [("base_name", .text baseName), ("namespace", .text name)]⟩]
  | .error e =>
    if e.isOrdinary then
      [⟨.error, "after_each.namespace_deletion_failed",
        [("base_name", .text baseName), ("namespace", .text name),
         ("kind", .text (Framework.kindLabel e)), ("error", .text e.message)]⟩]
    else []

/-- Of an attempt that is cut nothing is told. -/
theorem afterword_cut {baseName name : String} {e : Fault τ} (he : e.isOrdinary = false) :
    afterword baseName name (.error e) = [] := by
  unfold afterword
  split
  · rfl
  · rename_i h
    cases h
    cases he
  · rename_i h
    cases h
    rw [he]
    rfl

/-- The events of an attempt on behalf of a framework. -/
def events (k : Nat) (baseName : String) (timeout : τ) (a : Attempt τ) : List (Event τ) :=
  [.log (announcement baseName timeout a.name)] ++ a.during ++
    [.span ((span a.name).close (span a.name).attributes a.ending),
     .custody k (.attempted a.name a.ending)] ++
    (afterword baseName a.name a.ending).map .log

/-- What is recorded of an attempt once it has ended. -/
def sequel (k : Nat) (baseName : String) (a : Attempt τ) : List (Event τ) :=
  [.span ((span a.name).close (span a.name).attributes a.ending),
   .custody k (.attempted a.name a.ending)] ++ (afterword baseName a.name a.ending).map .log

theorem events_eq (k : Nat) (baseName : String) (timeout : τ) (a : Attempt τ) :
    a.events k baseName timeout =
      [.log (announcement baseName timeout a.name)] ++ a.during ++ a.sequel k baseName := by
  simp [events, sequel]

end Attempt

/-- How a series of attempts goes: through all names while the attempts end well or with ordinary
faults, and no further than the first one that ends otherwise. -/
inductive Sweep : List String → List (String × Except (Fault τ) Unit) → Except (Fault τ) Unit → Prop
  | done : Sweep [] [] (.ok ())
  | next {name : String} {names : List String} {attempts : List (String × Except (Fault τ) Unit)}
      {one ending : Except (Fault τ) Unit} (ordinary : ∀ e, one = .error e → e.isOrdinary = true)
      (rest : Sweep names attempts ending) : Sweep (name :: names) ((name, one) :: attempts) ending
  | cut {name : String} {names : List String} {e : Fault τ} (passing : e.isOrdinary = false) :
      Sweep (name :: names) [(name, .error e)] (.error e)

namespace Sweep

variable {names : List String} {attempts : List (String × Except (Fault τ) Unit)}
  {ending : Except (Fault τ) Unit}

/-- What was attempted is a first part of the names, in their order. -/
theorem attempted (h : Sweep names attempts ending) :
    attempts.map Prod.fst = names.take attempts.length := by
  induction h with
  | done => rfl
  | next _ _ ih => simp [ih]
  | cut _ => simp

/-- There are no more attempts than names. -/
theorem length_le (h : Sweep names attempts ending) : attempts.length ≤ names.length := by
  have hlength := congrArg List.length h.attempted
  rw [List.length_map, List.length_take] at hlength
  omega

/-- A series that ends well has attempted all names. -/
theorem attempted_all (h : Sweep names attempts ending) (hok : ending = .ok ()) :
    attempts.map Prod.fst = names := by
  induction h with
  | done => rfl
  | next _ _ ih => rw [List.map_cons, ih hok]
  | cut _ => cases hok

/-- A series ends with a fault only if the fault is not ordinary and has left the last attempt. -/
theorem cut_last (h : Sweep names attempts ending) {e : Fault τ} (he : ending = .error e) :
    e.isOrdinary = false ∧ ∃ name, attempts.getLast? = some (name, .error e) := by
  induction h with
  | done => cases he
  | @next name names attempts one ending _ _ ih =>
    obtain ⟨hordinary, last, hlast⟩ := ih he
    refine ⟨hordinary, last, ?_⟩
    rw [List.getLast?_cons, hlast]
    rfl
  | @cut name names fault passing =>
    cases he
    exact ⟨passing, name, rfl⟩

/-- An attempt that a fault leaves which is not ordinary is the last one. -/
theorem length_of_passing (h : Sweep names attempts ending) {i : Nat} {name : String} {e : Fault τ}
    (hi : attempts[i]? = some (name, .error e)) (he : e.isOrdinary = false) :
    attempts.length = i + 1 ∧ ending = .error e := by
  induction h generalizing i with
  | done => simp at hi
  | @next first names attempts one ending ordinary _ ih =>
    cases i with
    | zero =>
      simp only [List.getElem?_cons_zero, Option.some.injEq, Prod.mk.injEq] at hi
      have hord := ordinary e hi.2
      rw [he] at hord
      cases hord
    | succ i =>
      obtain ⟨hlen, hend⟩ := ih (by simpa using hi)
      exact ⟨by rw [List.length_cons, hlen], hend⟩
  | cut _ =>
    cases i with
    | zero =>
      simp only [List.getElem?_cons_zero, Option.some.injEq, Prod.mk.injEq] at hi
      exact ⟨rfl, hi.2⟩
    | succ i => simp at hi

end Sweep

namespace Framework

variable [Seconds τ]

/-- The report after an attempt. -/
def Report.extend (report : Report τ) (a : Attempt τ) : Report τ :=
  (report.attempt a.name).close a.name a.ending

omit [Seconds τ] in
@[simp] theorem attempted_close (report : Report τ) (name : String) (one : Except (Fault τ) Unit) :
    (report.close name one).attempted = report.attempted := by
  unfold Report.close
  split <;> rfl

omit [Seconds τ] in
@[simp] theorem skipped_close (report : Report τ) (name : String) (one : Except (Fault τ) Unit) :
    (report.close name one).skipped = report.skipped := by
  unfold Report.close
  split <;> rfl

omit [Seconds τ] in
/-- A report lists the attempts that it was folded from. -/
theorem attempted_foldl (attempts : List (Attempt τ)) (report : Report τ) :
    (attempts.foldl Report.extend report).attempted =
      report.attempted ++ attempts.map Attempt.name := by
  induction attempts generalizing report with
  | nil => simp
  | cons a rest ih =>
    rw [List.foldl_cons, ih, Report.extend, attempted_close, Report.attempt]
    simp

omit [Seconds τ] in
/-- Attempts are no reason to skip. -/
theorem skipped_foldl (attempts : List (Attempt τ)) (report : Report τ) :
    (attempts.foldl Report.extend report).skipped = report.skipped := by
  induction attempts generalizing report with
  | nil => rfl
  | cons a rest ih =>
    rw [List.foldl_cons, ih, Report.extend, skipped_close, Report.attempt]

/-- What is logged of an attempt that has ended well or with an ordinary fault. -/
theorem noteDeletion_records (f : Framework τ κ) (name : String) {one : Except (Fault τ) Unit}
    (hone : ∀ e, one = .error e → e.isOrdinary = true) (b : Bench τ ω κ) :
    Ends (noteDeletion f name one) b fun r b' => r = .ok () ∧ SiteOnly b b' ∧
      b'.site = b.site.recorded ((Attempt.afterword f.baseName name one).map .log) := by
  unfold noteDeletion
  split
  · exact ⟨rfl, rfl, rfl⟩
  · exact record_ends _ b
  · rename_i e hgone
    have hlogged : Attempt.afterword f.baseName name (.error e) =
        [⟨.error, "after_each.namespace_deletion_failed",
          [("base_name", .text f.baseName), ("namespace", .text name),
           ("kind", .text (kindLabel e)), ("error", .text e.message)]⟩] := by
      simp [Attempt.afterword, hone e rfl]
    rw [hlogged]
    exact record_ends _ b

/-- Why a framework with this suite keeps its namespaces. -/
def skipReason (suite : Config.Suite τ) : SkipReason :=
  if suite.deleteNamespace then .keptOnFailure else .deletionDisabled

/-- The log entry with which a framework keeps its namespaces. -/
def skipEntry (f : Framework τ κ) : LogEntry τ :=
  ⟨.info, "after_each.namespace_deletion_skipped",
    [("base_name", .text f.baseName), ("reason", .text (skipReason f.suite).text),
      ("namespaces", .value (.ofTexts (f.tracked.map (·.name))))]⟩

variable [Host τ ω] {k : Nat} {f : Framework τ κ} {testFailed : Bool}

/-- A teardown that is to delete the tracked namespaces attempts them in order. -/
theorem deleteTracked_attempts {b : Bench τ ω κ} (hf : b.frameworks[k]? = some f)
    (hdeletes : f.suite.deletesAfter testFailed = true)
    {Q : Except (Fault τ) (Report τ) → Bench τ ω κ → Prop}
    (h : Ends (deleteEach k (deletionLimit f) .empty (f.tracked.map (·.name))) b Q) :
    Ends (deleteTracked k testFailed) b Q := by
  apply Ends.bind_ok (frameworkAt_ends hf)
  rintro b rfl
  rw [hdeletes]
  exact h

/-- What a framework leaves when it keeps its namespaces. -/
def keeping (k : Nat) (f : Framework τ κ) : List (Event τ) :=
  [.custody k (.kept (f.tracked.map (·.name))), .log (skipEntry f)]

/-- A teardown that is not to delete the tracked namespaces keeps them, and says why. -/
theorem deleteTracked_keeps {b : Bench τ ω κ} (hf : b.frameworks[k]? = some f)
    (hkeeps : f.suite.deletesAfter testFailed = false) :
    Ends (deleteTracked k testFailed) b fun r b' =>
      r = .ok { Report.empty with skipped := some (skipReason f.suite) } ∧
      SiteOnly b b' ∧ b'.site = b.site.recorded (f.keeping k) := by
  apply Ends.bind_ok (frameworkAt_ends hf)
  rintro b rfl
  rw [hkeeps]
  apply Ends.bind_ok (record_ends _ b)
  rintro b₁ ⟨h₁, hs₁⟩
  apply Ends.bind_ok (record_ends _ b₁)
  rintro b₂ ⟨h₂, hs₂⟩
  refine ⟨rfl, h₁.trans h₂, ?_⟩
  show b₂.site = _
  rw [hs₂, hs₁, Site.recorded_recorded]
  rfl

/-- What a framework does at the site to delete a namespace. Without a client it does nothing. -/
def disposal (f : Framework τ κ) (timeout : τ) (name : String) : SiteM τ ω Unit :=
  match f.client with
  | some client => f.cluster.deleteNamespace name client timeout
  | none => .fail (.framework ("Framework " ++ Text.quoted f.baseName ++ " has no client set"))

/-- The attempt leads from the first site to the second: it is announced, the framework does what it
does to delete the namespace, and what came of it is recorded. -/
def Tries (f : Framework τ κ) (k : Nat) (timeout : τ) (a : Attempt τ) (s t : Site τ ω) : Prop :=
  ∃ u, (f.disposal timeout a.name).run
      (s.recorded [.log (Attempt.announcement f.baseName timeout a.name)]) = (a.ending, u) ∧
    u.events = s.events ++ [.log (Attempt.announcement f.baseName timeout a.name)] ++ a.during ∧
    t = u.recorded (a.sequel k f.baseName)

theorem Tries.events {timeout : τ} {a : Attempt τ} {s t : Site τ ω} (h : f.Tries k timeout a s t) :
    t.events = s.events ++ a.events k f.baseName timeout := by
  obtain ⟨u, _, hduring, rfl⟩ := h
  rw [Site.events_recorded, hduring, Attempt.events_eq]
  simp

/-- The attempts lead from the first site to the second, one after the other: through all names while
they end well or with ordinary faults, and no further than the first one that ends otherwise. -/
inductive TriesEach (f : Framework τ κ) (k : Nat) (timeout : τ) :
    List String → List (Attempt τ) → Except (Fault τ) Unit → Site τ ω → Site τ ω → Prop
  | done (s : Site τ ω) : TriesEach f k timeout [] [] (.ok ()) s s
  | next {a : Attempt τ} {names : List String} {attempts : List (Attempt τ)}
      {swept : Except (Fault τ) Unit} {s t u : Site τ ω} (tried : f.Tries k timeout a s t)
      (ordinary : ∀ e, a.ending = .error e → e.isOrdinary = true)
      (rest : TriesEach f k timeout names attempts swept t u) :
      TriesEach f k timeout (a.name :: names) (a :: attempts) swept s u
  | cut {a : Attempt τ} {names : List String} {e : Fault τ} {s t : Site τ ω}
      (tried : f.Tries k timeout a s t) (ending : a.ending = .error e)
      (passing : e.isOrdinary = false) :
      TriesEach f k timeout (a.name :: names) [a] (.error e) s t

namespace TriesEach

variable {timeout : τ} {names : List String} {attempts : List (Attempt τ)}
  {swept : Except (Fault τ) Unit} {s t : Site τ ω}

theorem sweep (h : TriesEach f k timeout names attempts swept s t) :
    Sweep names (attempts.map Attempt.outcome) swept := by
  induction h with
  | done => exact .done
  | next _ ordinary _ ih => exact .next ordinary ih
  | @cut a names e s t _ ending passing =>
    show Sweep (a.name :: names) [(a.name, a.ending)] (.error e)
    rw [ending]
    exact .cut passing

/-- Each attempt of a series leads from one site to another. -/
theorem each (h : TriesEach f k timeout names attempts swept s t) :
    ∀ a ∈ attempts, ∃ u v : Site τ ω, f.Tries k timeout a u v := by
  induction h with
  | done => simp
  | next tried _ _ ih => exact List.forall_mem_cons.2 ⟨⟨_, _, tried⟩, ih⟩
  | cut tried _ _ => simpa using ⟨_, _, tried⟩

theorem events (h : TriesEach f k timeout names attempts swept s t) :
    t.events = s.events ++ attempts.flatMap (Attempt.events k f.baseName timeout) := by
  induction h with
  | done => simp
  | next tried _ _ ih => rw [ih, tried.events, List.flatMap_cons, List.append_assoc]
  | cut tried _ _ => simp [tried.events]

end TriesEach

/-- One deletion does what the framework does to delete a namespace, and leaves its span. -/
theorem deleteOne_ends (timeout : τ) (name : String) {b : Bench τ ω κ}
    (hf : b.frameworks[k]? = some f) :
    Ends (deleteOne k name timeout) b fun r b' => SiteOnly b b' ∧ ∃ u : Site τ ω,
      (f.disposal timeout name).run b.site = (r, u) ∧ b'.site = u.recorded
        [.span ((Attempt.span name).close (Attempt.span name).attributes r)] := by
  have hbody : Ends (do
      let f ← frameworkAt k
      let client ← clientOf f
      onSite (f.cluster.deleteNamespace name client timeout) : BenchM τ ω κ Unit) b fun r b' =>
        SiteOnly b b' ∧ (f.disposal timeout name).run b.site = (r, b'.site) := by
    apply Ends.bind_ok (frameworkAt_ends hf)
    rintro b rfl
    unfold disposal clientOf
    cases f.client with
    | some client => exact ⟨rfl, rfl⟩
    | none => exact ⟨rfl, rfl⟩
  apply Ends.bind_attempt hbody
  rintro r b₁ ⟨hsame, hran⟩
  apply Ends.bind_ok (record_ends _ b₁)
  rintro b₂ ⟨hsame', hsite⟩
  exact ⟨hsame.trans hsame', b₁.site, hran, hsite⟩

/-- What is done at a site to delete a namespace adds to its history. -/
theorem disposal_leaves (timeout : τ) (name : String) :
    (f.disposal timeout name : SiteM τ ω Unit).Along (Site.Leaves Event.IsWork) := by
  unfold disposal
  split
  · rename_i client _
    have hwork : MadeOf (Site.Work fun _ => True) (fun _ => True)
        (f.cluster.deleteNamespace name client timeout : SiteM τ ω Unit) :=
      Cluster.madeOf_deleteNamespace (fun _ _ => trivial) f.cluster name client timeout
        fun _ _ _ => trivial
    exact hwork.along Site.Work.leaves
  · exact along_fail _

/-- A series of deletions leads from site to site, and gives the report that is folded from its
attempts. -/
theorem deleteEach_tries (timeout : τ) (names : List String) (report : Report τ) {b : Bench τ ω κ}
    (hf : b.frameworks[k]? = some f) :
    Ends (deleteEach k timeout report names) b fun r b' => SiteOnly b b' ∧
      ∃ attempts : List (Attempt τ),
        TriesEach f k timeout names attempts (r.map fun _ => ()) b.site b'.site ∧
        ∀ full, r = .ok full → full = attempts.foldl Report.extend report := by
  induction names generalizing report b with
  | nil =>
    refine ⟨rfl, [], .done _, ?_⟩
    intro full hfull
    cases hfull
    rfl
  | cons name rest ih =>
    unfold deleteEach
    apply Ends.bind_ok (frameworkAt_ends hf)
    rintro b rfl
    apply Ends.bind_ok (record_ends _ b)
    rintro b₁ ⟨h₁, hs₁⟩
    have hf₁ : b₁.frameworks[k]? = some f := by rw [h₁.frameworks, hf]
    apply Ends.bind_attempt (deleteOne_ends timeout name hf₁)
    rintro one b₂ ⟨h₂, u, hran, hs₂⟩
    apply Ends.bind_ok (record_ends _ b₂)
    rintro b₃ ⟨h₃, hs₃⟩
    have h : SiteOnly b b₃ := (h₁.trans h₂).trans h₃
    obtain ⟨during, hduring, _⟩ := (disposal_leaves timeout name).of_run hran
    -- The attempt is over once it is told how it failed.
    have tried {t : Site τ ω}
        (ht : t = b₃.site.recorded ((Attempt.afterword f.baseName name one).map .log)) :
        f.Tries k timeout ⟨name, during, one⟩ b.site t := by
      refine ⟨u, ?_, ?_, ?_⟩
      · rw [← hran, hs₁]
        rfl
      · rw [hduring, hs₁, Site.events_recorded]
        rfl
      · rw [ht, hs₃, hs₂]
        simp [Attempt.sequel]
    -- Whatever the attempt has left at the site, the rest starts with the same frameworks.
    have onward {b₄ : Bench τ ω κ} (hone : ∀ e, one = .error e → e.isOrdinary = true)
        (h₄ : SiteOnly b₃ b₄)
        (hs₄ : b₄.site = b₃.site.recorded ((Attempt.afterword f.baseName name one).map .log)) :
        Ends (deleteEach k timeout ((report.attempt name).close name one) rest) b₄ fun r b' =>
          SiteOnly b b' ∧ ∃ attempts : List (Attempt τ),
            TriesEach f k timeout (name :: rest) attempts (r.map fun _ => ()) b.site b'.site ∧
            ∀ full, r = .ok full → full = attempts.foldl Report.extend report := by
      have hf₄ : b₄.frameworks[k]? = some f := by rw [h₄.frameworks, h.frameworks, hf]
      apply (ih ((report.attempt name).close name one) hf₄).mono
      rintro r b' ⟨h', attempts, hseries, hreport⟩
      exact ⟨(h.trans h₄).trans h', ⟨name, during, one⟩ :: attempts,
        .next (tried hs₄) hone hseries, hreport⟩
    cases one with
    | ok _ => exact onward (by simp) rfl rfl
    | error e =>
      apply Ends.ite
      · intro he
        have hone (e' : Fault τ) (h : Except.error (α := Unit) e = .error e') :
            e'.isOrdinary = true := by
          cases h
          exact he
        apply Ends.bind_ok (noteDeletion_records f name hone b₃)
        rintro b₄ ⟨h₄, hs₄⟩
        exact onward hone h₄ hs₄
      · intro he
        rw [Bool.not_eq_true] at he
        have htold : b₃.site =
            b₃.site.recorded ((Attempt.afterword f.baseName name (.error e)).map .log) := by
          rw [Attempt.afterword_cut he]
          rfl
        exact ⟨h, [⟨name, during, .error e⟩], .cut (tried htold) rfl he, by simp⟩

/-- What the cluster's deletions leave at a site, an attempt leaves; without a client it leaves
nothing. -/
theorem Tries.during {timeout : τ} {D : List (Event τ) → Prop} {a : Attempt τ} {s t : Site τ ω}
    (h : f.Tries k timeout a s t)
    (hdone : ∀ client, f.client = some client → ∀ s : Site τ ω,
      Ends (f.cluster.deleteNamespace a.name client timeout) s fun _ t =>
        ∃ new, t.events = s.events ++ new ∧ D new)
    (hnone : f.client = none → D []) : D a.during := by
  obtain ⟨u, hran, hduring, _⟩ := h
  unfold disposal at hran
  split at hran
  · rename_i client hclient
    obtain ⟨new, hnew, hd⟩ := (hdone client hclient _).of_run hran
    rw [Site.events_recorded] at hnew
    rwa [List.append_cancel_left (hduring.symm.trans hnew)]
  · rename_i hclient
    obtain ⟨-, rfl⟩ := Prod.mk.inj hran
    rw [Site.events_recorded] at hduring
    rw [List.self_eq_append_right.1 hduring]
    exact hnone hclient

/-- The requests that an attempt makes: the cluster is asked once, through the client. -/
def requests (f : Framework τ κ) (timeout : τ) (name : String) : List (Call τ) :=
  (f.client.map fun client => f.cluster.request client timeout name).toList

/-- An attempt asks the cluster once to delete its namespace, and for nothing else to be deleted. -/
theorem Tries.requests {timeout : τ} {a : Attempt τ} {s t : Site τ ω}
    (h : f.Tries k timeout a s t) : requestsIn a.during = f.requests timeout a.name := by
  apply h.during (D := fun new => requestsIn new = f.requests timeout a.name)
  · intro client hclient s
    rw [Framework.requests, hclient]
    exact f.cluster.deleteNamespace_requests a.name client timeout s
  · intro hclient
    rw [Framework.requests, hclient]
    rfl

/-- The requests of a series of attempts are those of its attempts, in order. -/
theorem requestsIn_attempts {timeout : τ} {attempts : List (Attempt τ)}
    (h : ∀ a ∈ attempts, ∃ s t : Site τ ω, f.Tries k timeout a s t) :
    requestsIn (attempts.flatMap (Attempt.events k f.baseName timeout)) =
      attempts.flatMap fun a => f.requests timeout a.name := by
  induction attempts with
  | nil => rfl
  | cons a rest ih =>
    obtain ⟨⟨_, _, htried⟩, hrest⟩ := List.forall_mem_cons.1 h
    have hafter : requestsIn ((Attempt.afterword f.baseName a.name a.ending).map .log) = [] := by
      refine @requestsIn_eq_nil τ (fun _ => False) (fun _ => False.elim) _ ?_
      simp [Event.Among]
    rw [List.flatMap_cons, List.flatMap_cons, requestsIn_append, ih hrest, Attempt.events,
      requestsIn_append, requestsIn_append, requestsIn_append, hafter, htried.requests]
    simp [requestsIn, Event.call?]

/-- A series of deletions adds the events of its attempts, and gives the report that is folded from
them. -/
theorem deleteEach_adds (timeout : τ) (names : List String) (report : Report τ) {b : Bench τ ω κ}
    (hf : b.frameworks[k]? = some f) :
    Ends (deleteEach k timeout report names) b fun r b' => ∃ attempts : List (Attempt τ),
      Adds (attempts.flatMap (Attempt.events k f.baseName timeout)) b b' ∧
      Sweep names (attempts.map Attempt.outcome) (r.map fun _ => ()) ∧
      (∀ a ∈ attempts, ∃ s t : Site τ ω, f.Tries k timeout a s t) ∧
      ∀ full, r = .ok full → full = attempts.foldl Report.extend report := by
  apply (deleteEach_tries timeout names report hf).mono
  rintro r b' ⟨hsame, attempts, htries, hreport⟩
  exact ⟨attempts, ⟨hsame, htries.events⟩, htries.sweep, htries.each, hreport⟩

end Framework

end Testbed
