import Mathlib.Data.List.Basic
import Testbed.Config.CommandLine
import Testbed.Proofs.Entries

/-!
# How a configuration is resolved

Each field of the suite configuration is read by itself. What it is read from is resolved in a fixed
order: an option that is given comes first, then the variable of the field if it is not blank, and
without both the field has its default. The configuration is accepted if and only if what each field
resolves to is acceptable for it, and otherwise the issues are those of the fields for which it is
not. No other variable matters but the home directory, and that only to a path that begins with a
tilde.
-/

set_option autoImplicit false

namespace Testbed.Config

variable {α β : Type}

namespace Checked

theorem ap_eq_ok {f : Checked (α → β)} {x : Checked α} {b : β} :
    ap f x = .ok b ↔ ∃ g a, f = .ok g ∧ x = .ok a ∧ g a = b := by
  cases f <;> cases x <;> simp [ap]

theorem closed_eq_ok {entries : Entries} {fields : List String} {x : Checked α} {a : α} :
    closed entries fields x = .ok a ↔ x = .ok a ∧ unknown entries fields = [] := by
  unfold closed
  split
  · rename_i a' h
    simp [h]
  · rename_i hother
    constructor
    · rintro ⟨⟩
    · rintro ⟨rfl, hnone⟩
      exact absurd hnone (hother a rfl)

end Checked

/-- What a field gives that is read from this value: its default if there is none. -/
def fieldValue (fallback : α) (read : Value → Except Problem α) : Option Value → Except Problem α
  | none => .ok fallback
  | some v => read v

/-- What is wrong with what was read. -/
def problem? : Except Problem α → Option Problem
  | .ok _ => none
  | .error p => some p

theorem field_eq_ok {entries : Entries} {name : String} {fallback : α}
    {read : Value → Except Problem α} {a : α} :
    Checked.field entries name fallback read = .ok a ↔
      fieldValue fallback read (lookupLast name entries) = .ok a := by
  unfold Checked.field fieldValue
  cases lookupLast name entries with
  | none => simp
  | some v => cases h : read v <;> simp [h]

theorem issues_field (entries : Entries) (name : String) (fallback : α)
    (read : Value → Except Problem α) :
    (Checked.field entries name fallback read).issues =
      (((lookupLast name entries).bind fun v => problem? (read v)).map (Issue.mk name)).toList := by
  unfold Checked.field
  cases lookupLast name entries with
  | none => rfl
  | some v => cases h : read v <;> simp [h, Checked.issues, problem?]

/-- What is read from a value is acceptable, or there is a problem with it. -/
theorem problem?_eq_none {x : Except Problem α} : problem? x = none ↔ ∃ a, x = .ok a := by
  cases x <;> simp [problem?]

/-- A field has a value if and only if there is no problem with what it is read from. -/
theorem exists_fieldValue {fallback : α} {read : Value → Except Problem α} {v : Option Value} :
    (∃ a, fieldValue fallback read v = .ok a) ↔ ∀ w, v = some w → problem? (read w) = none := by
  cases v with
  | none => simp [fieldValue]
  | some w => simp [fieldValue, problem?_eq_none]

namespace Suite

variable {τ : Type} [Seconds τ]

/-- Reads the timeout of a field. -/
def readTimeout (v : Value) : Except Problem τ := readNumber v >>= above 0.0 "0"

/-- The fields that are switches. -/
def flagFields : List String :=
  ["delete_namespace", "delete_namespace_on_failure", "dump_logs_on_failure",
   "verify_service_account"]

/-- The fields that are timeouts. -/
def timeoutFields : List String := ["service_account_timeout", "namespace_creation_timeout"]

variable (τ) in
/-- What is wrong with a value for a field. The fields that are neither switches nor timeouts are
texts. -/
def problemOf (field : String) (v : Value) : Option Problem :=
  if field ∈ flagFields then problem? (readFlag v)
  else if field ∈ timeoutFields then problem? (readTimeout (τ := τ) v)
  else problem? (readOptionalText v)

variable (τ) in
/-- The issue with the value of a field, if there is one. -/
def issue? (raw : String → Option Value) (field : String) : Option Issue :=
  ((raw field).bind (problemOf τ field)).map (Issue.mk field)

/-- Each field of the configuration is what is read from the value of that field, or its default. The
path to the cluster's configuration is given apart, as it was before it was brought into its plain
form. -/
structure Reads (raw : String → Option Value) (c : Suite τ) (given : Option String) : Prop where
  deleteNamespace : fieldValue true readFlag (raw "delete_namespace") = .ok c.deleteNamespace
  deleteNamespaceOnFailure :
    fieldValue true readFlag (raw "delete_namespace_on_failure") = .ok c.deleteNamespaceOnFailure
  dumpLogsOnFailure :
    fieldValue true readFlag (raw "dump_logs_on_failure") = .ok c.dumpLogsOnFailure
  verifyServiceAccount :
    fieldValue true readFlag (raw "verify_service_account") = .ok c.verifyServiceAccount
  serviceAccountTimeout :
    fieldValue 120.0 readTimeout (raw "service_account_timeout") = .ok c.serviceAccountTimeout
  namespaceCreationTimeout :
    fieldValue 30.0 readTimeout (raw "namespace_creation_timeout") = .ok c.namespaceCreationTimeout
  kubeconfig : fieldValue none readOptionalText (raw "kubeconfig") = .ok given
  kubeContext : fieldValue none readOptionalText (raw "kube_context") = .ok c.kubeContext

theorem unexpanded_eq_ok {entries : Entries} {c : Suite τ} :
    unexpanded entries = .ok c ↔
      Reads (fun field => lookupLast field entries) c c.kubeconfig ∧
        Checked.unknown entries fields = [] := by
  simp only [unexpanded, Checked.closed_eq_ok, Checked.ap_eq_ok, field_eq_ok, timeoutField]
  apply and_congr_left'
  constructor
  · -- One application is peeled off for each field, the last field first.
    rintro ⟨_, _, ⟨_, _, ⟨_, _, ⟨_, _, ⟨_, _, ⟨_, _, ⟨_, _, ⟨_, _, ⟨⟩, delete, rfl⟩, onFailure,
      rfl⟩, logs, rfl⟩, verify, rfl⟩, account, rfl⟩, creation, rfl⟩, path, rfl⟩, context, rfl⟩
    exact ⟨delete, onFailure, logs, verify, account, creation, path, context⟩
  · rintro ⟨delete, onFailure, logs, verify, account, creation, path, context⟩
    exact ⟨_, _, ⟨_, _, ⟨_, _, ⟨_, _, ⟨_, _, ⟨_, _, ⟨_, _, ⟨_, _, rfl, delete, rfl⟩, onFailure,
      rfl⟩, logs, rfl⟩, verify, rfl⟩, account, rfl⟩, creation, rfl⟩, path, rfl⟩, context, rfl⟩

/-- The issues with the values of the fields, in the order of the fields. -/
theorem issues_unexpanded (entries : Entries) :
    (unexpanded entries : Checked (Suite τ)).issues = Checked.ordered
      (fields.filterMap (issue? τ fun field => lookupLast field entries) ++
        Checked.unknown entries fields) := by
  have hcons : ∀ (f : String → Option Issue) (name : String) (names : List String),
      (name :: names).filterMap f = (f name).toList ++ names.filterMap f := by
    intro f name names
    cases h : f name <;> simp [h]
  simp only [unexpanded, Checked.issues_closed, Checked.issues_ap, issues_field, timeoutField,
    fields, hcons, List.append_assoc]
  rfl

variable {raw : String → Option Value}

/-- A configuration can be read if and only if every value is acceptable for its field. -/
theorem exists_reads (hraw : ∀ field, field ∉ fields → raw field = none) :
    (∃ (c : Suite τ) (given : Option String), Reads raw c given) ↔
      ∀ field v, raw field = some v → problemOf τ field v = none := by
  constructor
  · rintro ⟨c, given, h⟩ field v hv
    by_cases hfield : field ∈ fields
    · have hread : ∀ {γ : Type} {fallback : γ} {read : Value → Except Problem γ} {a : γ},
          fieldValue fallback read (raw field) = .ok a → problem? (read v) = none :=
        fun h => exists_fieldValue.1 ⟨_, h⟩ v hv
      simp only [fields, List.mem_cons, List.not_mem_nil, or_false] at hfield
      rcases hfield with rfl | rfl | rfl | rfl | rfl | rfl | rfl | rfl
      · exact hread h.deleteNamespace
      · exact hread h.deleteNamespaceOnFailure
      · exact hread h.dumpLogsOnFailure
      · exact hread h.verifyServiceAccount
      · exact hread h.serviceAccountTimeout
      · exact hread h.namespaceCreationTimeout
      · exact hread h.kubeconfig
      · exact hread h.kubeContext
    · rw [hraw field hfield] at hv
      cases hv
  · intro h
    have hflag : ∀ field ∈ flagFields, ∃ b, fieldValue true readFlag (raw field) = .ok b := by
      intro field hfield
      refine exists_fieldValue.2 fun v hv => ?_
      simpa [problemOf, hfield] using h field v hv
    have hdisjoint : ∀ field ∈ timeoutFields, field ∉ flagFields := by decide
    have htimeout : ∀ field ∈ timeoutFields, ∀ fallback : τ,
        ∃ t, fieldValue fallback readTimeout (raw field) = .ok t := by
      intro field hfield fallback
      refine exists_fieldValue.2 fun v hv => ?_
      simpa [problemOf, hfield, hdisjoint field hfield] using h field v hv
    have htext : ∀ field, field ∉ flagFields → field ∉ timeoutFields →
        ∃ t, fieldValue none readOptionalText (raw field) = .ok t := by
      intro field hflags htimeouts
      refine exists_fieldValue.2 fun v hv => ?_
      simpa [problemOf, hflags, htimeouts] using h field v hv
    obtain ⟨delete, hdelete⟩ := hflag "delete_namespace" (by decide)
    obtain ⟨onFailure, honFailure⟩ := hflag "delete_namespace_on_failure" (by decide)
    obtain ⟨logs, hlogs⟩ := hflag "dump_logs_on_failure" (by decide)
    obtain ⟨verify, hverify⟩ := hflag "verify_service_account" (by decide)
    obtain ⟨account, haccount⟩ := htimeout "service_account_timeout" (by decide) 120.0
    obtain ⟨creation, hcreation⟩ := htimeout "namespace_creation_timeout" (by decide) 30.0
    obtain ⟨given, hgiven⟩ := htext "kubeconfig" (by decide) (by decide)
    obtain ⟨context, hcontext⟩ := htext "kube_context" (by decide) (by decide)
    exact ⟨⟨delete, onFailure, logs, verify, account, creation, none, context⟩, given,
      hdelete, honFailure, hlogs, hverify, haccount, hcreation, hgiven, hcontext⟩

/-- The path that is given is the text of its field. -/
theorem Reads.given_eq {c : Suite τ} {given : Option String} (h : Reads raw c given) :
    given = ((raw "kubeconfig").getD .null).text? := by
  have hread := h.kubeconfig
  cases hraw : raw "kubeconfig" with
  | none =>
    rw [hraw] at hread
    simpa [fieldValue, Value.text?] using hread.symm
  | some v =>
    rw [hraw] at hread
    cases v <;> simp_all [fieldValue, readOptionalText, readText, Value.text?, Except.map]

/-- The path in its plain form does not matter to what is read from the fields. -/
theorem Reads.setKubeconfig {c : Suite τ} {given path : Option String} (h : Reads raw c given) :
    Reads raw { c with kubeconfig := path } given :=
  ⟨h.deleteNamespace, h.deleteNamespaceOnFailure, h.dumpLogsOnFailure, h.verifyServiceAccount,
    h.serviceAccountTimeout, h.namespaceCreationTimeout, h.kubeconfig, h.kubeContext⟩

/-- No entry is unknown if a lookup finds nothing but fields. -/
theorem unknown_eq_nil {entries : Entries}
    (h : ∀ field, field ∉ fields → lookupLast field entries = none) :
    Checked.unknown entries fields = [] := by
  unfold Checked.unknown
  rw [List.map_eq_nil_iff, List.filter_eq_nil_iff]
  intro e he hunknown
  exact lookupLast_eq_none.1 (h e.1 (by simpa using hunknown)) (List.mem_map_of_mem he)

/-- The outcome of making a configuration from these values of the fields. -/
structure Settled (homes : Homes) (raw : String → Option Value)
    (r : Except Refusal (Suite τ)) : Prop where
  /-- Each field is read by itself, and the path is brought into its plain form. -/
  made : ∀ c, r = .ok c ↔
    ∃ given, Reads raw c given ∧ kubeconfigPath homes given = .ok c.kubeconfig
  /-- The configuration is made if and only if all values are acceptable. -/
  accepted : (∃ c, r = .ok c) ↔ ∀ field v, raw field = some v → problemOf τ field v = none
  /-- Otherwise there are issues with exactly the fields that have unacceptable values. -/
  refused : ∀ why, r = .error why → ∃ all, why = .issues all ∧
    ∀ field, field ∈ all.map Issue.field ↔ ∃ v, raw field = some v ∧ (problemOf τ field v).isSome

/-- A path that can be brought into its plain form replaces the one that was given. -/
theorem ofEntries_of_path {homes : Homes} {entries : Entries} {path : Option String}
    (hpath : kubeconfigPath homes ((lookupLast "kubeconfig" entries).getD .null).text? = .ok path) :
    (ofEntries homes entries : Except Refusal (Suite τ)) =
      match (unexpanded entries : Checked (Suite τ)) with
      | .error all => .error (.issues all)
      | .ok c => .ok { c with kubeconfig := path } := by
  unfold ofEntries
  cases (unexpanded entries : Checked (Suite τ)) <;> simp only [hpath]

/-- A configuration that is made is read from the fields of its table. -/
theorem reads_of_ofEntries {homes : Homes} {entries : Entries} {c : Suite τ}
    (h : ofEntries homes entries = .ok c) :
    ∃ given, Reads (fun field => lookupLast field entries) c given ∧
      kubeconfigPath homes given = .ok c.kubeconfig := by
  cases hpath : kubeconfigPath homes ((lookupLast "kubeconfig" entries).getD .null).text? with
  | error trouble => cases trouble <;> simp [ofEntries, hpath] at h
  | ok path =>
    rw [ofEntries_of_path hpath] at h
    split at h
    · cases h
    · rename_i plain hplain
      rw [Except.ok.injEq] at h
      subst h
      have hreads := (unexpanded_eq_ok.1 hplain).1
      refine ⟨plain.kubeconfig, hreads.setKubeconfig, ?_⟩
      rw [hreads.given_eq, hpath]

/-- The configuration of a table without unknown entries is what is read from its fields. -/
theorem ofEntries_eq_ok {homes : Homes} {entries : Entries} {c : Suite τ}
    (hraw : ∀ field, field ∉ fields → lookupLast field entries = none) :
    ofEntries homes entries = .ok c ↔
      ∃ given, Reads (fun field => lookupLast field entries) c given ∧
        kubeconfigPath homes given = .ok c.kubeconfig := by
  constructor
  · exact reads_of_ofEntries
  · rintro ⟨given, hreads, hgiven⟩
    have hplain : unexpanded entries = .ok { c with kubeconfig := given } :=
      unexpanded_eq_ok.2 ⟨hreads.setKubeconfig, unknown_eq_nil hraw⟩
    rw [hreads.given_eq] at hgiven
    rw [ofEntries_of_path hgiven, hplain]

/-- The fields with issues are those with unacceptable values. -/
theorem field_mem_issues {entries : Entries} (field : String)
    (hraw : ∀ field, field ∉ fields → lookupLast field entries = none) :
    field ∈ (unexpanded entries : Checked (Suite τ)).issues.map Issue.field ↔
      ∃ v, lookupLast field entries = some v ∧ (problemOf τ field v).isSome := by
  rw [issues_unexpanded, unknown_eq_nil hraw, List.append_nil, Checked.ordered]
  simp only [List.mem_map, List.mem_mergeSort, List.mem_filterMap, issue?, Option.map_eq_some_iff,
    Option.bind_eq_some_iff, Option.isSome_iff_exists]
  constructor
  · rintro ⟨_, ⟨field, -, problem, ⟨v, hv, hproblem⟩, rfl⟩, rfl⟩
    exact ⟨v, hv, problem, hproblem⟩
  · rintro ⟨v, hv, problem, hproblem⟩
    have hfield : field ∈ fields := by
      by_contra hnone
      rw [hraw field hnone] at hv
      cases hv
    exact ⟨_, ⟨field, hfield, problem, ⟨v, hv, hproblem⟩, rfl⟩, rfl⟩

/-- What a table says of the fields settles the configuration, provided that the path can be brought
into its plain form. -/
theorem ofEntries_settled {homes : Homes} {entries : Entries} {path : Option String}
    (hraw : ∀ field, field ∉ fields → lookupLast field entries = none)
    (hpath : kubeconfigPath homes ((lookupLast "kubeconfig" entries).getD .null).text? = .ok path) :
    Settled homes (fun field => lookupLast field entries)
      (ofEntries homes entries : Except Refusal (Suite τ)) := by
  refine ⟨fun c => ofEntries_eq_ok hraw, ?_, ?_⟩
  · simp only [ofEntries_eq_ok hraw]
    rw [← exists_reads hraw]
    constructor
    · rintro ⟨c, given, h, -⟩
      exact ⟨c, given, h⟩
    · rintro ⟨c, given, h⟩
      refine ⟨{ c with kubeconfig := path }, given, h.setKubeconfig, ?_⟩
      rw [h.given_eq, hpath]
  · intro why hwhy
    rw [ofEntries_of_path hpath] at hwhy
    split at hwhy
    · rename_i all hall
      rw [Except.error.injEq] at hwhy
      refine ⟨all, hwhy.symm, fun field => ?_⟩
      rw [← field_mem_issues field hraw, hall, Checked.issues]
    · cases hwhy

end Suite

/-! ## What the options and the variables give -/

/-- A value that is there. -/
def nonNull? : Value → Option Value
  | .null => none
  | v => some v

/-- The switch off, if its flag is set. -/
def switchedOff? (flag : Bool) : Option Value := if flag then some (.flag false) else none

/-- What the options give a field. -/
def Options.given (o : Options) : String → Option Value
  | "kubeconfig" => nonNull? o.kubeconfig
  | "kube_context" => nonNull? o.kubeContext
  | "delete_namespace" => switchedOff? o.keepNamespaces
  | "delete_namespace_on_failure" => switchedOff? o.keepNamespacesOnFailure
  | "dump_logs_on_failure" => switchedOff? o.noDumpLogs
  | "verify_service_account" => switchedOff? o.skipServiceAccountWait
  | _ => none

/-- What a variable gives its field: its text without the blanks at its ends, unless that is empty. -/
def Environment.given (env : Environment) (name : String) : Option Value :=
  (((lookupLast name env).map Text.stripBlanks).filter fun s => !s.isEmpty).map .text

/-- What a field is read from: what the options give it, or else its variable. -/
def resolved (env : Environment) (o : Options) (field : String) : Option Value :=
  (o.given field).or ((lookupLast field settingVariables).bind env.given)

/-- Null entries are left out. -/
theorem resolved_eq_putEntries (env : Environment) (overrides : Entries) :
    env.resolved overrides =
      putEntries env.entries (overrides.filter fun e => (nonNull? e.2).isSome) := by
  have hkept : (fun e : String × Value => (nonNull? e.2).isSome) = fun e =>
      match e.2 with
      | .null => false
      | _ => true := by
    funext e
    cases e.2 <;> rfl
  exact congrArg (fun keep => putEntries env.entries (overrides.filter keep)) hkept.symm

theorem Options.given_eq_none {o : Options} {field : String} (h : field ∉ Suite.fields) :
    o.given field = none := by
  unfold Options.given
  split <;> simp_all [Suite.fields]

/-- The options put on top of the environment what they give. -/
theorem lookupLast_overrides (o : Options) (field : String) :
    lookupLast field (o.overrides.filter fun e => (nonNull? e.2).isSome) = o.given field := by
  have htext : ∀ (name : String) (v : Value),
      lookupLast field ([(name, v)].filter fun e => (nonNull? e.2).isSome) =
        if field = name then nonNull? v else none := by
    intro name v
    by_cases hname : field = name
    · cases v <;> simp [lookupLast, nonNull?, hname]
    · cases v <;> simp [lookupLast, nonNull?, hname, Ne.symm hname]
  have hflag : ∀ (name : String) (flag : Bool),
      lookupLast field ((if flag then [(name, Value.flag false)] else []).filter fun e =>
        (nonNull? e.2).isSome) = if field = name then switchedOff? flag else none := by
    intro name flag
    cases flag
    · simp [lookupLast, switchedOff?]
    · exact htext name (.flag false)
  have hpair : [("kubeconfig", o.kubeconfig), ("kube_context", o.kubeContext)] =
      [("kubeconfig", o.kubeconfig)] ++ [("kube_context", o.kubeContext)] := rfl
  unfold Options.overrides
  dsimp only
  simp only [hpair, List.filter_append, lookupLast_append, htext, hflag]
  by_cases hfield : field ∈ Suite.fields
  · simp only [Suite.fields, List.mem_cons, List.not_mem_nil, or_false] at hfield
    rcases hfield with rfl | rfl | rfl | rfl | rfl | rfl | rfl | rfl <;> simp [Options.given]
  · rw [Options.given_eq_none hfield]
    simp only [Suite.fields, List.mem_cons, List.not_mem_nil, or_false, not_or] at hfield
    simp [hfield]

/-- A variable gives the entry of its field. -/
theorem entry?_eq (env : Environment) (field name : String) :
    env.entry? field name = (env.given name).map fun v => (field, v) := by
  unfold Environment.entry? Environment.given
  cases lookupLast name env with
  | none => rfl
  | some raw => cases h : (Text.stripBlanks raw).isEmpty <;> simp [h, Option.filter]

/-- Each field is looked up in what it is resolved to. -/
theorem lookupLast_resolved (env : Environment) (o : Options) (field : String) :
    lookupLast field (env.resolved o.overrides) = resolved env o field := by
  have hkeys : (settingVariables.map Prod.fst).Nodup := by decide
  rw [resolved_eq_putEntries, lookupLast_putEntries, lookupLast_overrides, Environment.entries,
    resolved]
  simp only [entry?_eq]
  rw [lookupLast_filterMap env.given field hkeys]

/-- Only the fields are resolved to anything. -/
theorem resolved_eq_none {env : Environment} {o : Options} {field : String}
    (h : field ∉ Suite.fields) : resolved env o field = none := by
  have hvariable : lookupLast field settingVariables = none := lookupLast_eq_none.2 h
  rw [resolved, hvariable, Options.given_eq_none h]
  rfl

/-- The second text is the first with blanks added at its ends. -/
def Padded (plain padded : String) : Prop :=
  ∃ before after : List Char, (∀ c ∈ before, Text.isBlank c = true) ∧
    (∀ c ∈ after, Text.isBlank c = true) ∧ padded.toList = before ++ plain.toList ++ after

theorem Padded.stripBlanks_eq {plain padded : String} (h : Padded plain padded) :
    Text.stripBlanks padded = Text.stripBlanks plain := by
  obtain ⟨before, after, hbefore, hafter, hpadded⟩ := h
  rw [Text.stripBlanks, hpadded, Text.trimEnds_append _ hbefore hafter, Text.stripBlanks]

theorem map_stripBlanks_eq {plain padded : Option String} (h : Option.Rel Padded plain padded) :
    padded.map Text.stripBlanks = plain.map Text.stripBlanks := by
  cases h with
  | none => rfl
  | some hpadded => rw [Option.map_some, Option.map_some, hpadded.stripBlanks_eq]

/-- Two environments in which the variables of the settings agree but for blanks at their ends. -/
def Environment.SameSettings (env env' : Environment) : Prop :=
  ∀ v ∈ settingVariables, Option.Rel Padded (lookupLast v.2 env) (lookupLast v.2 env')

theorem Environment.SameSettings.entries_eq {env env' : Environment} (h : env.SameSettings env') :
    env'.entries = env.entries := by
  unfold Environment.entries
  apply List.filterMap_congr
  intro v hv
  rw [entry?_eq, entry?_eq, Environment.given, Environment.given, map_stripBlanks_eq (h v hv)]

/-- Whether a path begins with a home directory: a tilde is in front of its first component, with
no slash before it. -/
def Path.startsAtHome (p : Path) : Bool :=
  p.root.isEmpty && p.components.head?.bind List.head? == some '~'

/-- Only a path that begins with a home directory depends on where that is. -/
theorem Path.expanded_of_not_startsAtHome {p : Path} (homes : Homes) (h : p.startsAtHome = false) :
    p.expanded homes = .ok p := by
  unfold Path.expanded
  split
  · rename_i first rest hroot hcomponents
    rw [if_neg]
    simpa [Path.startsAtHome, hroot, hcomponents] using h
  · rfl

/-- Whether a path that is given, if any, begins with a home directory. -/
def startsAtHome? (given : Option String) : Bool :=
  given.any fun text => (Path.ofChars text.toList).startsAtHome

theorem Suite.kubeconfigPath_congr {homes homes' : Homes} {given : Option String}
    (h : startsAtHome? given = false) : kubeconfigPath homes' given = kubeconfigPath homes given := by
  cases given with
  | none => rfl
  | some text =>
    have hstart : (Path.ofChars text.toList).startsAtHome = false := by
      simpa [startsAtHome?] using h
    simp only [kubeconfigPath, expandedPath, Path.expanded_of_not_startsAtHome _ hstart]

/-- A configuration is resolved field by field: what an option gives comes first, then the variable
of the field unless it is blank, and then the default. It is accepted if and only if all values are
acceptable, and otherwise the issues are exactly those of the fields whose values are not. Blanks
at the ends of the variables and all other variables make no difference, except for the home
directory if the path begins with one; neither does the host then. -/
theorem Suite.ofOptions_resolved {τ : Type} [Seconds τ] (host : Homes) (env : Environment)
    (o : Options) :
    (∀ path,
      kubeconfigPath (env.homes host) ((resolved env o "kubeconfig").getD .null).text? = .ok path →
        Settled (env.homes host) (resolved env o)
          (Suite.ofOptions env o host : Except Refusal (Suite τ))) ∧
    ∀ (host' : Homes) (env' : Environment), env.SameSettings env' →
      (lookupLast "HOME" env' = lookupLast "HOME" env ∧ host' = host ∨
        startsAtHome? ((resolved env o "kubeconfig").getD .null).text? = false) →
      (Suite.ofOptions env' o host' : Except Refusal (Suite τ)) = Suite.ofOptions env o host := by
  constructor
  · intro path hpath
    have hraw : (fun field => lookupLast field (env.resolved o.overrides)) = resolved env o :=
      funext (lookupLast_resolved env o)
    rw [← lookupLast_resolved] at hpath
    have h := ofEntries_settled (τ := τ)
      (fun field hfield => (lookupLast_resolved env o field).trans (resolved_eq_none hfield)) hpath
    rwa [hraw] at h
  · intro host' env' hsame hhome
    unfold Suite.ofOptions Suite.ofEnvironment
    rw [Environment.resolved, hsame.entries_eq, ← Environment.resolved]
    rcases hhome with ⟨hhome, rfl⟩ | hhome
    · rw [Environment.homes, hhome, ← Environment.homes]
    · rw [← lookupLast_resolved] at hhome
      unfold Suite.ofEntries
      dsimp only
      rw [kubeconfigPath_congr hhome]

/-- Options that keep namespaces. -/
def keeping : Options := { keepNamespaces := true }

/-- An environment in which one switch is unreadable and one timeout is not positive. -/
def muddled : Environment :=
  [("E2E_DELETE_NAMESPACE", "maybe"), ("E2E_SERVICE_ACCOUNT_TIMEOUT", "0"), ("KUBECONFIG", "/k")]

/-- The same with blanks at the ends of values, and another home directory. -/
def muddledPadded : Environment :=
  [("HOME", "/home/other"), ("E2E_DELETE_NAMESPACE", "maybe "),
   ("E2E_SERVICE_ACCOUNT_TIMEOUT", " 0 "), ("KUBECONFIG", "/k")]

theorem muddled_sameSettings : muddled.SameSettings muddledPadded := by
  have hblank : ∀ c ∈ [' '], Text.isBlank c = true := List.forall_mem_singleton.2 (by decide)
  have hsame : ∀ s : String, Padded s s := fun s => ⟨[], [], by simp, by simp, by simp⟩
  intro v hv
  simp only [settingVariables, List.mem_cons, List.not_mem_nil, or_false] at hv
  rcases hv with rfl | rfl | rfl | rfl | rfl | rfl | rfl | rfl
  · exact .some ⟨[], [' '], by simp, hblank, by decide⟩
  · exact .none
  · exact .none
  · exact .none
  · exact .some ⟨[' '], [' '], hblank, hblank, by decide⟩
  · exact .none
  · exact .some (hsame "/k")
  · exact .none

/-- A host without accounts. -/
def deserted : Homes := ⟨none, fun _ => none⟩

/-- The unreadable switch is no issue, since a flag overrides it, while the timeout is one. The
blanks, the home directory and the host make no difference. -/
theorem Suite.ofOptions_resolved_flag :
    let given := ((resolved muddled keeping "kubeconfig").getD .null).text?
    kubeconfigPath muddled.homes given = .ok (some "/k") ∧
    (∃ all, Suite.ofOptions muddled keeping = (.error (.issues all) : Except Refusal (Suite Rat)) ∧
      "service_account_timeout" ∈ all.map Issue.field ∧
      "delete_namespace" ∉ all.map Issue.field) ∧
    muddled.SameSettings muddledPadded ∧ startsAtHome? given = false ∧
    (Suite.ofOptions muddledPadded keeping deserted : Except Refusal (Suite Rat)) =
      Suite.ofOptions muddled keeping := by
  intro given
  have hpath : kubeconfigPath muddled.homes given = .ok (some "/k") := by decide +kernel
  have hrooted : startsAtHome? given = false := by decide +kernel
  obtain ⟨hresolved, hsame⟩ := Suite.ofOptions_resolved (τ := Rat) .container muddled keeping
  refine ⟨hpath, ?_, muddled_sameSettings, hrooted,
    hsame deserted _ muddled_sameSettings (.inr hrooted)⟩
  have hsettled := hresolved _ hpath
  have hzero : (resolved muddled keeping "service_account_timeout").bind
      (problemOf Rat "service_account_timeout") = some (.notAbove "0") := by decide +kernel
  have hoff : (resolved muddled keeping "delete_namespace").bind
      (problemOf Rat "delete_namespace") = none := by decide +kernel
  obtain ⟨zero, hvalue, hproblem⟩ := Option.bind_eq_some_iff.1 hzero
  cases hmade : (Suite.ofOptions muddled keeping : Except Refusal (Suite Rat)) with
  | ok c =>
    rw [hsettled.accepted.1 ⟨c, hmade⟩ _ _ hvalue] at hproblem
    cases hproblem
  | error why =>
    obtain ⟨all, rfl, hall⟩ := hsettled.refused why hmade
    refine ⟨all, rfl, (hall _).2 ⟨zero, hvalue, by rw [hproblem]; rfl⟩, fun hmem => ?_⟩
    obtain ⟨off, hvalue, hproblem⟩ := (hall _).1 hmem
    rw [Option.bind_eq_none_iff.1 hoff off hvalue] at hproblem
    cases hproblem

/-- The home directory makes a difference to a path that begins with it, though it is no variable of
a setting. -/
theorem Suite.ofOptions_home :
    let o : Options := {}
    let env : Environment := [("HOME", "/elsewhere"), ("KUBECONFIG", "~/x")]
    let env' : Environment := [("HOME", "/home/tester"), ("KUBECONFIG", "~/x")]
    (∀ v ∈ settingVariables, lookupLast v.2 env = lookupLast v.2 env') ∧
    (Suite.ofOptions env o : Except Refusal (Suite Rat)).toOption.bind Suite.kubeconfig =
      some "/elsewhere/x" ∧
    (Suite.ofOptions env' o : Except Refusal (Suite Rat)).toOption.bind Suite.kubeconfig =
      some "/home/tester/x" := by
  decide +kernel

end Testbed.Config
