import Testbed.Proofs.Resolution

/-!
# Expanding a path twice

A path that was read has a root of at most two slashes and components without slashes. Written out
and read again it is the same path. A home directory that takes the place of a tilde brings its own
root along, so that no tilde is in front afterwards: a path that was expanded stays as it is, and so
does a configuration that is made of its own values.
-/

set_option autoImplicit false

namespace Testbed.Config

namespace Path

theorem splitSlashes_eq_splitOn (cs : List Char) : splitSlashes cs = cs.splitOn '/' := by
  induction cs with
  | nil => rfl
  | cons c rest ih =>
    rw [List.splitOn_cons_eq_if_modifyHead]
    by_cases h : c = '/'
    · subst h
      rw [splitSlashes, ih]
      rfl
    · obtain ⟨part, parts, hparts⟩ := List.exists_cons_of_ne_nil (List.splitOn_ne_nil '/' rest)
      rw [if_neg (by simpa using h), splitSlashes, ih, hparts]
      · rfl
      · exact h

theorem joined_eq_intercalate (parts : List (List Char)) : joined parts = ['/'].intercalate parts := by
  induction parts with
  | nil => rfl
  | cons part parts ih =>
    cases parts with
    | nil => simp [joined]
    | cons next parts => simp [joined, ih]

/-- No part of a text between slashes holds a slash. -/
theorem not_slash_mem_of_mem_splitOn {cs part : List Char} (h : part ∈ cs.splitOn '/') :
    '/' ∉ part := by
  induction cs generalizing part with
  | nil => simp_all
  | cons c rest ih =>
    obtain ⟨first, parts, hparts⟩ := List.exists_cons_of_ne_nil (List.splitOn_ne_nil '/' rest)
    rw [List.splitOn_cons_eq_if_modifyHead, hparts, List.modifyHead_cons] at h
    rw [hparts] at ih
    split at h
    · rcases List.mem_cons.1 h with rfl | h
      · exact List.not_mem_nil
      · exact ih h
    · rename_i hother
      rcases List.mem_cons.1 h with rfl | h
      · rw [List.mem_cons, not_or]
        exact ⟨fun hc => hother (beq_iff_eq.2 hc.symm), ih List.mem_cons_self⟩
      · exact ih (List.mem_cons_of_mem _ h)

/-- A path as it is read: a root of at most two slashes, and components that are neither empty nor
points and hold no slash. -/
structure Plain (p : Path) : Prop where
  root : p.root = [] ∨ p.root = ['/'] ∨ p.root = ['/', '/']
  component : ∀ part ∈ p.components, isComponent part = true ∧ '/' ∉ part

theorem plain_ofChars (cs : List Char) : (ofChars cs).Plain := by
  constructor
  · unfold ofChars rootOf
    dsimp only
    split <;> simp
  · intro part hpart
    rw [ofChars, List.mem_filter, splitSlashes_eq_splitOn] at hpart
    exact ⟨hpart.2, not_slash_mem_of_mem_splitOn hpart.1⟩

namespace Plain

variable {p : Path}

/-- Components with slashes between them do not start with one. -/
theorem head?_joined (h : p.Plain) : (joined p.components).head? ≠ some '/' := by
  cases hparts : p.components with
  | nil => simp [joined]
  | cons part parts =>
    have hpart := h.component part (hparts ▸ List.mem_cons_self)
    cases hchars : part with
    | nil => simp [isComponent, hchars] at hpart
    | cons c rest =>
      have hc : c ≠ '/' := by
        rintro rfl
        simp [hchars] at hpart
      cases parts <;> simpa [joined] using hc

/-- The slashes of the root are all that stand in front. -/
theorem rootOf_append (h : p.Plain) : rootOf (p.root ++ joined p.components) = p.root := by
  have htake : (joined p.components).takeWhile (· = '/') = [] := by
    cases hjoined : joined p.components with
    | nil => rfl
    | cons c rest =>
      have hc := h.head?_joined
      rw [hjoined] at hc
      simpa [List.takeWhile_cons] using hc
  rcases h.root with hroot | hroot | hroot <;> simp [rootOf, hroot, htake]

/-- The components are what stands between the slashes. -/
theorem components_append (h : p.Plain) :
    (splitSlashes (p.root ++ joined p.components)).filter isComponent = p.components := by
  have hjoined : (splitSlashes (joined p.components)).filter isComponent = p.components := by
    cases hparts : p.components with
    | nil => rfl
    | cons part parts =>
      rw [← hparts, splitSlashes_eq_splitOn, joined_eq_intercalate, List.splitOn_intercalate]
      · exact List.filter_eq_self.2 fun part hpart => (h.component part hpart).1
      · exact fun part hpart => (h.component part hpart).2
      · simp [hparts]
  rcases h.root with hroot | hroot | hroot <;> simpa [hroot, splitSlashes, isComponent] using hjoined

/-- A path that is written out and read again is the same. -/
theorem ofChars_toChars (h : p.Plain) : ofChars p.toChars = p := by
  unfold toChars
  split
  · rename_i hempty
    have hroot := (List.append_eq_nil_iff.1 hempty).1
    have hparts := h.components_append
    rw [hempty] at hparts
    obtain ⟨root, components⟩ := p
    subst hroot hparts
    rfl
  · rw [ofChars, h.rootOf_append, h.components_append]

end Plain

theorem root_ofChars_ne_nil {cs : List Char} (h : cs.head? = some '/') : (ofChars cs).root ≠ [] := by
  obtain ⟨rest, rfl⟩ := List.head?_eq_some_iff.1 h
  unfold ofChars rootOf
  dsimp only
  split
  · rename_i hnone
    simp at hnone
  · simp
  · simp

/-- A home directory is absolute without the slashes at its end, too. -/
theorem head?_homeText {home : List Char} (h : home.head? = some '/') :
    (homeText home).head? = some '/' := by
  have hprefix : (home.reverse.dropWhile (· = '/')).reverse <+: home := by
    have hsuffix := List.reverse_prefix.2 (List.dropWhile_suffix (l := home.reverse) (· = '/'))
    rwa [List.reverse_reverse] at hsuffix
  unfold homeText
  cases hcut : (home.reverse.dropWhile (· = '/')).reverse with
  | nil => rfl
  | cons c rest =>
    obtain ⟨slashes, hhome⟩ := hprefix
    rw [← hhome, hcut] at h
    exact h

end Path

/-- All home directories are absolute. -/
structure Homes.AreAbsolute (homes : Homes) : Prop where
  own : ∀ home, homes.own = some home → home.head? = some '/'
  ofUser : ∀ user home, homes.ofUser user = some home → home.head? = some '/'

/-- Those of a host are if those of its accounts are. -/
theorem Homes.ofAccounts_areAbsolute {own : String} {accounts : List (String × String)}
    (hown : own.toList.head? = some '/')
    (haccounts : ∀ account ∈ accounts, account.2.toList.head? = some '/') :
    (ofAccounts own accounts).AreAbsolute := by
  constructor
  · intro home hhome
    rwa [← Option.some.inj hhome]
  · intro user home huser
    obtain ⟨text, htext, rfl⟩ := Option.map_eq_some_iff.1 huser
    unfold lookupLast at htext
    obtain ⟨account, haccount, rfl⟩ := Option.map_eq_some_iff.1 htext
    exact haccounts account (List.mem_reverse.1 (List.mem_of_find?_eq_some haccount))

/-- Those in an environment are if the one that it names is. -/
theorem Environment.homes_areAbsolute {env : Environment} {host : Homes} (hhost : host.AreAbsolute)
    (hhome : ∀ home, lookupLast "HOME" env = some home → home.toList.head? = some '/') :
    (env.homes host).AreAbsolute := by
  constructor
  · intro home hown
    unfold Environment.homes at hown
    cases hnamed : lookupLast "HOME" env with
    | none =>
      rw [hnamed] at hown
      exact hhost.own home hown
    | some named =>
      rw [hnamed] at hown
      rw [← Option.some.inj hown]
      exact hhome named hnamed
  · exact hhost.ofUser

namespace Path

variable {homes : Homes} {p q : Path}

theorem head?_of_home? (habsolute : homes.AreAbsolute) {part home : List Char}
    (h : home? homes part = some home) : home.head? = some '/' := by
  unfold home? at h
  split at h
  · obtain ⟨own, hown, rfl⟩ := Option.map_eq_some_iff.1 h
    exact head?_homeText (habsolute.own _ hown)
  · obtain ⟨found, hfound, rfl⟩ := Option.map_eq_some_iff.1 h
    exact head?_homeText (habsolute.ofUser _ _ hfound)
  · cases h

/-- What an expansion does: a path that does not begin with a home directory stays, and otherwise
the home directory takes the place of the first component. -/
theorem expanded_cases (h : p.expanded homes = .ok q) :
    (p.startsAtHome = false ∧ q = p) ∨
      ∃ first rest home, p.components = first :: rest ∧ home? homes first = some home ∧
        q = ⟨(ofChars home).root, (ofChars home).components ++ rest⟩ := by
  unfold expanded at h
  split at h
  · rename_i first rest hroot hparts
    split at h
    · split at h
      · cases h
      · split at h
        · rename_i home hhome
          split at h
          · cases h
          · right
            exact ⟨first, rest, home, hparts, hhome, (Except.ok.inj h).symm⟩
        · cases h
    · rename_i htilde
      left
      refine ⟨?_, (Except.ok.inj h).symm⟩
      simpa [startsAtHome, hroot, hparts] using htilde
  · rename_i hother
    left
    refine ⟨?_, (Except.ok.inj h).symm⟩
    unfold startsAtHome
    cases hroot : p.root with
    | cons slash slashes => rfl
    | nil =>
      cases hparts : p.components with
      | nil => rfl
      | cons first rest => exact (hother first rest hroot hparts).elim

theorem Plain.expanded (hp : p.Plain) (h : p.expanded homes = .ok q) : q.Plain := by
  rcases expanded_cases h with ⟨-, rfl⟩ | ⟨first, rest, home, hparts, -, rfl⟩
  · exact hp
  · have hhome := plain_ofChars home
    constructor
    · exact hhome.root
    · intro part hpart
      rcases List.mem_append.1 hpart with hpart | hpart
      · exact hhome.component part hpart
      · exact hp.component part (hparts ▸ List.mem_cons_of_mem _ hpart)

/-- No path begins with a home directory once it is expanded. -/
theorem startsAtHome_expanded (habsolute : homes.AreAbsolute) (h : p.expanded homes = .ok q) :
    q.startsAtHome = false := by
  rcases expanded_cases h with ⟨hstart, rfl⟩ | ⟨first, rest, home, -, hhome, rfl⟩
  · exact hstart
  · have hroot := root_ofChars_ne_nil (head?_of_home? habsolute hhome)
    simp [startsAtHome, hroot]

end Path

variable {homes : Homes}

/-- A text that was expanded stays as it is when it is expanded again. -/
theorem expandedPath_expandedPath (habsolute : homes.AreAbsolute) {text path : String}
    (h : expandedPath homes text = .ok path) : expandedPath homes path = .ok path := by
  unfold expandedPath at h
  cases hexpanded : (Path.ofChars text.toList).expanded homes with
  | error trouble => simp [hexpanded, Except.map] at h
  | ok q =>
    rw [hexpanded] at h
    obtain rfl := Except.ok.inj h
    have hread : Path.ofChars q.toChars = q :=
      ((Path.plain_ofChars _).expanded hexpanded).ofChars_toChars
    have hstart := Path.startsAtHome_expanded habsolute hexpanded
    unfold expandedPath
    rw [String.toList_ofList, hread, Path.expanded_of_not_startsAtHome homes hstart]
    rfl

/-- No path is written as an empty text. -/
theorem isEmpty_expandedPath {text path : String} (h : expandedPath homes text = .ok path) :
    path.isEmpty = false := by
  unfold expandedPath at h
  cases hexpanded : (Path.ofChars text.toList).expanded homes with
  | error trouble => simp [hexpanded, Except.map] at h
  | ok q =>
    rw [hexpanded] at h
    obtain rfl := Except.ok.inj h
    have hchars : q.toChars ≠ [] := by
      unfold Path.toChars
      split
      · simp
      · assumption
    simpa using hchars

namespace Suite

theorem kubeconfigPath_kubeconfigPath (habsolute : homes.AreAbsolute) {given path : Option String}
    (h : kubeconfigPath homes given = .ok path) : kubeconfigPath homes path = .ok path := by
  cases given with
  | none =>
    obtain rfl := Except.ok.inj h
    rfl
  | some text =>
    unfold kubeconfigPath at h
    dsimp only at h
    split at h
    · obtain rfl := Except.ok.inj h
      rfl
    · cases hexpanded : expandedPath homes text with
      | error trouble => simp [hexpanded, Except.map] at h
      | ok expanded =>
        rw [hexpanded] at h
        obtain rfl := Except.ok.inj h
        unfold kubeconfigPath
        dsimp only
        rw [isEmpty_expandedPath hexpanded, expandedPath_expandedPath habsolute hexpanded]
        rfl

variable {τ : Type} [Seconds τ]

/-- A timeout is a number above zero. -/
theorem readTimeout_eq_ok {v : Value} {t : τ} :
    readTimeout v = .ok t ↔ readNumber v = .ok t ∧ (0.0 : τ) < t := by
  unfold readTimeout above
  cases hread : (readNumber v : Except Problem τ) with
  | error p => simp [Bind.bind, Except.bind]
  | ok s =>
    by_cases hs : (0.0 : τ) < s
    · simp only [Bind.bind, Except.bind, if_pos hs, Except.ok.injEq]
      constructor
      · rintro rfl
        exact ⟨rfl, hs⟩
      · exact And.left
    · simp only [Bind.bind, Except.bind, if_neg hs, Except.ok.injEq]
      constructor
      · rintro ⟨⟩
      · rintro ⟨rfl, hpos⟩
        exact absurd hpos hs

/-- A value that is a number, not one that is only read as a number. -/
def isNumber : Value → Bool
  | .int _ | .real _ => true
  | _ => false

/-- Whatever is read from a value is read from a number. -/
theorem exists_number {v : Value} {t : τ} (h : readNumber v = .ok t) :
    ∃ number, isNumber number = true ∧ readNumber number = .ok t := by
  cases v with
  | int n => exact ⟨.int n, rfl, h⟩
  | real x => exact ⟨.real x, rfl, h⟩
  | flag b =>
    refine ⟨.int (if b then 1 else 0), rfl, ?_⟩
    have hsmall : (if b then 1 else 0 : Int).natAbs < doubleBound := by
      cases b <;> decide +kernel
    unfold readNumber at h ⊢
    dsimp only at h ⊢
    rw [if_pos hsmall]
    exact h
  | text s =>
    unfold readNumber at h
    dsimp only at h
    split at h
    · rename_i t' ht'
      obtain ⟨x, -, hx⟩ := Option.bind_eq_some_iff.1 ht'
      refine ⟨.real x, rfl, ?_⟩
      unfold readNumber
      dsimp only
      rw [hx]
      exact h
    · cases h
  | null => cases h
  | list items => cases h
  | table entries => cases h

/-- A positive time that a number stands for. -/
def IsTimeout (t : τ) : Prop :=
  (0.0 : τ) < t ∧ ∃ number, isNumber number = true ∧ readNumber number = .ok t

/-- The value of a timeout field is a timeout if its default is. -/
theorem isTimeout_fieldValue {fallback t : τ} {raw : Option Value} (hfallback : IsTimeout fallback)
    (h : fieldValue fallback readTimeout raw = .ok t) : IsTimeout t := by
  cases raw with
  | none => exact Except.ok.inj h ▸ hfallback
  | some v =>
    obtain ⟨hread, hpos⟩ := readTimeout_eq_ok.1 h
    exact ⟨hpos, exists_number hread⟩

/-- The default timeouts are timeouts. -/
theorem isTimeout_defaults : IsTimeout (120.0 : Float) ∧ IsTimeout (30.0 : Float) := by
  constructor
  · exact ⟨by decide, .real (.finite false 1200 (-1)), rfl, rfl⟩
  · exact ⟨by decide, .real (.finite false 300 (-1)), rfl, rfl⟩

/-- The values of the fields of a configuration, with these for its timeouts. -/
def values (c : Suite τ) (account creation : Value) : Entries :=
  [("delete_namespace", .flag c.deleteNamespace),
   ("delete_namespace_on_failure", .flag c.deleteNamespaceOnFailure),
   ("dump_logs_on_failure", .flag c.dumpLogsOnFailure),
   ("verify_service_account", .flag c.verifyServiceAccount),
   ("service_account_timeout", account),
   ("namespace_creation_timeout", creation),
   ("kubeconfig", .ofText? c.kubeconfig),
   ("kube_context", .ofText? c.kubeContext)]

/-- These are the numbers of a configuration's own timeouts. -/
structure OwnTimeouts (c : Suite τ) (account creation : Value) : Prop where
  isNumber_account : isNumber account = true
  isNumber_creation : isNumber creation = true
  readNumber_account : readNumber account = .ok c.serviceAccountTimeout
  readNumber_creation : readNumber creation = .ok c.namespaceCreationTimeout

/-- A text that may be missing is read as it is. -/
theorem readOptionalText_ofText? (text : Option String) :
    readOptionalText (.ofText? text) = .ok text := by
  cases text <;> rfl

/-- The fields of a configuration are read from its own values. -/
theorem OwnTimeouts.reads {c : Suite τ} {account creation : Value}
    (h : c.OwnTimeouts account creation) (haccount : (0.0 : τ) < c.serviceAccountTimeout)
    (hcreation : (0.0 : τ) < c.namespaceCreationTimeout) :
    Reads (fun field => lookupLast field (c.values account creation)) c c.kubeconfig where
  deleteNamespace := rfl
  deleteNamespaceOnFailure := rfl
  dumpLogsOnFailure := rfl
  verifyServiceAccount := rfl
  serviceAccountTimeout := readTimeout_eq_ok.2 ⟨h.readNumber_account, haccount⟩
  namespaceCreationTimeout := readTimeout_eq_ok.2 ⟨h.readNumber_creation, hcreation⟩
  kubeconfig := readOptionalText_ofText? c.kubeconfig
  kubeContext := readOptionalText_ofText? c.kubeContext

/-- Expanding a path a second time changes nothing, and so a configuration that was made can be made
again of its own values: these are accepted, and the configuration they make is the same. The
accounts of the host may be any with absolute home directories. -/
theorem rebuilt_of_own_values (host : Homes) (hhost : host.AreAbsolute) (env : Environment)
    (habsolute : ∀ home, lookupLast "HOME" env = some home → home.toList.head? = some '/') :
    (∀ given path, kubeconfigPath (env.homes host) given = .ok path →
      kubeconfigPath (env.homes host) path = .ok path) ∧
    ∀ (entries : Entries) (c : Suite Float), ofEntries (env.homes host) entries = .ok c →
      (∃ account creation, c.OwnTimeouts account creation) ∧
      ∀ account creation, c.OwnTimeouts account creation →
        ofEntries (env.homes host) (c.values account creation) = .ok c := by
  have hhomes := Environment.homes_areAbsolute hhost habsolute
  constructor
  · exact fun given path => kubeconfigPath_kubeconfigPath hhomes
  · intro entries c hmade
    obtain ⟨given, hreads, hpath⟩ := reads_of_ofEntries hmade
    obtain ⟨haccount, account, haccount_isNumber, haccount_read⟩ :=
      isTimeout_fieldValue isTimeout_defaults.1 hreads.serviceAccountTimeout
    obtain ⟨hcreation, creation, hcreation_isNumber, hcreation_read⟩ :=
      isTimeout_fieldValue isTimeout_defaults.2 hreads.namespaceCreationTimeout
    constructor
    · exact ⟨account, creation, haccount_isNumber, hcreation_isNumber, haccount_read,
        hcreation_read⟩
    · intro account creation hown
      have hfields : ∀ field, field ∉ fields →
          lookupLast field (c.values account creation) = none :=
        fun field hfield => lookupLast_eq_none.2 hfield
      exact (ofEntries_eq_ok hfields).2 ⟨c.kubeconfig, hown.reads haccount hcreation,
        kubeconfigPath_kubeconfigPath hhomes hpath⟩

/-- A path with a tilde behind a point is expanded once, to the home directory that the environment
names. -/
theorem rebuilt_of_own_values_tilde :
    let env : Environment := [("HOME", "/home/other")]
    let path := "/home/other/x/y"
    let c : Suite Float := { standard with kubeconfig := some path }
    Homes.container.AreAbsolute ∧
    (∀ home, lookupLast "HOME" env = some home → home.toList.head? = some '/') ∧
    kubeconfigPath env.homes (some "./~//x/./y") = .ok (some path) ∧
    kubeconfigPath env.homes (some path) = .ok (some path) ∧
    ∃ account creation, c.OwnTimeouts account creation ∧
      ofEntries env.homes (c.values account creation) = .ok c := by
  intro env path c
  have hhost : Homes.container.AreAbsolute := by
    apply Homes.ofAccounts_areAbsolute
    · decide
    · decide +kernel
  have habsolute : ∀ home, lookupLast "HOME" env = some home → home.toList.head? = some '/' := by
    intro home hhome
    rw [← Option.some.inj hhome]
    decide
  have hgiven : kubeconfigPath env.homes (some "./~//x/./y") = .ok (some path) := by
    decide +kernel
  have hmade : ofEntries env.homes [("kubeconfig", .text "./~//x/./y")] = .ok c := by
    rw [ofEntries_of_path hgiven]
    rfl
  obtain ⟨hpath, hvalues⟩ := rebuilt_of_own_values .container hhost env habsolute
  obtain ⟨⟨account, creation, hown⟩, hsame⟩ := hvalues _ c hmade
  exact ⟨hhost, habsolute, hgiven, hpath _ _ hgiven, account, creation, hown,
    hsame account creation hown⟩

end Suite

end Testbed.Config
