import RecipeResolver.Profile.Compatibility
import RecipeResolver.Proofs.Report.First
import RecipeResolver.Proofs.Version.Precedence

/-!
# The rules of compatibility

A toolchain can break several rules at once. `Compatibility.Breaks` says of each rule on its own
when it is broken, and with which error it is reported, and `CompatibilityError.rule` gives the
order in which rules count. `Compatibility.check` reports the first broken one
(`check_eq_error_iff`) and accepts what breaks none (`check_eq_ok_iff`).
-/

namespace RecipeResolver

namespace MinimumVersions

/-- A table without an entry for a family. -/
def Omits (table : MinimumVersions) (family : CompilerFamily) : Prop :=
  ∀ entry ∈ table.entries, entry.1 ≠ family

instance (table : MinimumVersions) (family : CompilerFamily) : Decidable (table.Omits family) :=
  inferInstanceAs (Decidable (∀ entry ∈ table.entries, _))

/-- The first entry for a family asks for this version. -/
def AsksFor (table : MinimumVersions) (family : CompilerFamily) (minimum : Version) : Prop :=
  ∃ before after, table.entries = before ++ (family, minimum) :: after ∧
    ∀ entry ∈ before, entry.1 ≠ family

variable {table : MinimumVersions} {family : CompilerFamily}

theorem find?_eq_none_iff : table.find? family = none ↔ table.Omits family := by
  unfold find? Omits
  rw [Option.map_eq_none_iff, List.find?_eq_none]
  simp only [beq_iff_eq]

theorem find?_eq_some_iff {minimum : Version} :
    table.find? family = some minimum ↔ table.AsksFor family minimum := by
  unfold find? AsksFor
  rw [Option.map_eq_some_iff]
  constructor
  · rintro ⟨⟨f, v⟩, hfind, rfl⟩
    obtain ⟨hfamily, before, after, hentries, hbefore⟩ := List.find?_eq_some_iff_append.1 hfind
    obtain rfl : f = family := beq_iff_eq.1 hfamily
    exact ⟨before, after, hentries, fun entry hentry => by simpa using hbefore entry hentry⟩
  · rintro ⟨before, after, hentries, hbefore⟩
    refine ⟨(family, minimum), List.find?_eq_some_iff_append.2 ?_, rfl⟩
    exact ⟨beq_self_eq_true family, before, after, hentries, fun entry hentry => by
      simpa using hbefore entry hentry⟩

end MinimumVersions

/-- The place of a rule, by its error, in the order in which rules count. -/
def CompatibilityError.rule : CompatibilityError → ℕ
  | .standardTooLow _ _ => 0
  | .unknownCompiler _ => 1
  | .toolchainTooOld _ _ _ => 2
  | .unsupportedStandardLibrary _ _ => 3
  | .unsupportedRuntime _ => 4

namespace Compatibility

/-- A rule is broken, whatever else is, and this error says how. -/
inductive Breaks (table : MinimumVersions) (t : Toolchain) (requested : Option Standard)
    (policy : UnknownCompilerPolicy) : CompatibilityError → Prop
  | standard {standard : Standard} (hrequested : requested = some standard)
      (hold : standard.year < Standard.cpp17.year) :
      Breaks table t requested policy (.standardTooLow standard .cpp17)
  | unlisted (homits : table.Omits t.family) (hdeny : policy = .deny) :
      Breaks table t requested policy (.unknownCompiler t.family)
  | version {minimum : Version} (hasks : table.AsksFor t.family minimum)
      (hold : t.version < minimum) :
      Breaks table t requested policy (.toolchainTooOld t.family minimum t.version)
  | library (hfamily : t.family = .clang) (hstdlib : t.stdlib = some "libc++") :
      Breaks table t requested policy (.unsupportedStandardLibrary .clang "libc++")
  | runtime {runtime : Runtime} (hfamily : t.family = .msvc) (hruntime : t.runtime = some runtime)
      (hstatic : runtime = .staticDebug ∨ runtime = .staticRelease) :
      Breaks table t requested policy (.unsupportedRuntime runtime)

/-- The warnings about an accepted toolchain. -/
def warningsAbout (table : MinimumVersions) (family : CompilerFamily) : List Diagnostic :=
  if table.Omits family then [unknownWarning family] else []

variable {table : MinimumVersions} {t : Toolchain} {requested : Option Standard}
  {policy : UnknownCompilerPolicy}

/-! ## The rules one by one -/

theorem fault?_checkStandard_eq_some_iff {e : CompatibilityError} :
    fault? (checkStandard requested) = some e ↔
      ∃ standard, requested = some standard ∧ standard.year < Standard.cpp17.year ∧
        .standardTooLow standard .cpp17 = e := by
  unfold checkStandard
  cases requested with
  | none => simp
  | some standard =>
    by_cases hold : standard.year < Standard.cpp17.year
    · have hbefore : standard.isBefore .cpp17 = true := decide_eq_true hold
      simp [hbefore, hold, Standard.minimum]
    · have hbefore : standard.isBefore .cpp17 = false := decide_eq_false hold
      simp [hbefore, hold, Standard.minimum]

theorem fault?_checkVersion_eq_some_iff {e : CompatibilityError} :
    fault? (checkVersion table t policy) = some e ↔
      (table.Omits t.family ∧ policy = .deny ∧ .unknownCompiler t.family = e) ∨
        ∃ minimum, table.AsksFor t.family minimum ∧ t.version < minimum ∧
          .toolchainTooOld t.family minimum t.version = e := by
  rw [← MinimumVersions.find?_eq_none_iff]
  simp only [← MinimumVersions.find?_eq_some_iff, ← Version.isOlder_eq_true_iff]
  unfold checkVersion
  cases table.find? t.family with
  | none => cases policy <;> simp
  | some minimum =>
    by_cases hold : t.version.isOlder minimum = true
    · simp [hold]
    · simp [hold]

theorem fault?_checkLibrary_eq_some_iff {e : CompatibilityError} :
    fault? (checkLibrary t) = some e ↔ t.family = .clang ∧ t.stdlib = some "libc++" ∧
      .unsupportedStandardLibrary .clang "libc++" = e := by
  unfold checkLibrary
  by_cases h : t.family = .clang ∧ t.stdlib = some llvmLibrary
  · obtain ⟨hfamily, hstdlib⟩ := h
    simp [hfamily, hstdlib, llvmLibrary]
  · rw [if_neg h]
    simp only [fault?_ok, reduceCtorEq, false_iff]
    exact fun hbroken => h ⟨hbroken.1, hbroken.2.1⟩

theorem fault?_checkRuntime_eq_some_iff {e : CompatibilityError} :
    fault? (checkRuntime t) = some e ↔ ∃ runtime, t.family = .msvc ∧ t.runtime = some runtime ∧
      (runtime = .staticDebug ∨ runtime = .staticRelease) ∧ .unsupportedRuntime runtime = e := by
  have hstatic (runtime : Runtime) :
      runtime.isStatic = true ↔ runtime = .staticDebug ∨ runtime = .staticRelease := by
    cases runtime <;> decide
  unfold checkRuntime
  cases hfamily : t.family with
  | msvc =>
    cases t.runtime with
    | none => simp
    | some runtime =>
      by_cases h : runtime.isStatic = true
      · simp [h, ← hstatic]
      · simp [h, ← hstatic]
  | _ => simp

theorem fault?_check : fault? (check table t requested policy) =
    (fault? (checkStandard requested)).or ((fault? (checkVersion table t policy)).or
      ((fault? (checkLibrary t)).or (fault? (checkRuntime t)))) := by
  unfold check
  cases checkStandard requested with
  | error e => rfl
  | ok _ =>
    cases checkVersion table t policy with
    | error e => rfl
    | ok warnings =>
      cases checkLibrary t with
      | error e => rfl
      | ok _ => cases checkRuntime t <;> rfl

/-- The rules that are broken are those at which some step of the check fails, the other steps
aside. -/
theorem breaks_iff {e : CompatibilityError} : Breaks table t requested policy e ↔
    fault? (checkStandard requested) = some e ∨ fault? (checkVersion table t policy) = some e ∨
      fault? (checkLibrary t) = some e ∨ fault? (checkRuntime t) = some e := by
  rw [fault?_checkStandard_eq_some_iff, fault?_checkVersion_eq_some_iff,
    fault?_checkLibrary_eq_some_iff, fault?_checkRuntime_eq_some_iff]
  constructor
  · rintro (⟨hrequested, hold⟩ | ⟨homits, hdeny⟩ | ⟨hasks, hold⟩ | ⟨hfamily, hstdlib⟩ |
      ⟨hfamily, hruntime, hstatic⟩)
    · exact .inl ⟨_, hrequested, hold, rfl⟩
    · exact .inr (.inl (.inl ⟨homits, hdeny, rfl⟩))
    · exact .inr (.inl (.inr ⟨_, hasks, hold, rfl⟩))
    · exact .inr (.inr (.inl ⟨hfamily, hstdlib, rfl⟩))
    · exact .inr (.inr (.inr ⟨_, hfamily, hruntime, hstatic, rfl⟩))
  · rintro (⟨standard, hrequested, hold, rfl⟩ | (⟨homits, hdeny, rfl⟩ |
      ⟨minimum, hasks, hold, rfl⟩) | ⟨hfamily, hstdlib, rfl⟩ |
      ⟨runtime, hfamily, hruntime, hstatic, rfl⟩)
    · exact .standard hrequested hold
    · exact .unlisted homits hdeny
    · exact .version hasks hold
    · exact .library hfamily hstdlib
    · exact .runtime hfamily hruntime hstatic

/-- The check reports the first broken rule. -/
theorem picks_check : Picks CompatibilityError.rule id (Breaks table t requested policy)
    (fault? (check table t requested policy)) := by
  -- each step fails with errors of its own rules, and the steps are in the order of the rules
  have hstandard {e} (h : fault? (checkStandard requested) = some e) : e.rule = 0 := by
    obtain ⟨_, -, -, rfl⟩ := fault?_checkStandard_eq_some_iff.1 h
    rfl
  have hversion {e} (h : fault? (checkVersion table t policy) = some e) :
      e.rule = 1 ∨ e.rule = 2 := by
    obtain ⟨-, -, rfl⟩ | ⟨_, -, -, rfl⟩ := fault?_checkVersion_eq_some_iff.1 h
    · exact .inl rfl
    · exact .inr rfl
  have hlibrary {e} (h : fault? (checkLibrary t) = some e) : e.rule = 3 := by
    obtain ⟨-, -, rfl⟩ := fault?_checkLibrary_eq_some_iff.1 h
    rfl
  have hruntime {e} (h : fault? (checkRuntime t) = some e) : e.rule = 4 := by
    obtain ⟨_, -, -, -, rfl⟩ := fault?_checkRuntime_eq_some_iff.1 h
    rfl
  have hafterVersion {e} (h : fault? (checkLibrary t) = some e ∨
      fault? (checkRuntime t) = some e) : 3 ≤ e.rule := by
    rcases h with h | h
    · exact (hlibrary h).ge
    · exact Nat.le_of_succ_le (hruntime h).ge
  have hafterStandard {e} (h : fault? (checkVersion table t policy) = some e ∨
      fault? (checkLibrary t) = some e ∨ fault? (checkRuntime t) = some e) : 1 ≤ e.rule := by
    rcases h with h | h
    · have := hversion h
      omega
    · exact Nat.le_trans (by decide) (hafterVersion h)
  rw [fault?_check]
  refine Picks.congr ?_ fun e => breaks_iff.symm
  refine (Picks.self _).or ((Picks.self _).or ((Picks.self _).or (Picks.self _) ?_) ?_) ?_
  · intro e e' h h'
    have := hlibrary h
    have := hruntime h'
    omega
  · intro e e' h h'
    have := hversion h
    have := hafterVersion h'
    omega
  · intro e e' h h'
    have := hstandard h
    have := hafterStandard h'
    omega

theorem check_eq_error_iff {e : CompatibilityError} :
    check table t requested policy = .error e ↔
      IsFirst CompatibilityError.rule (Breaks table t requested policy) e := by
  rw [← fault?_eq_some_iff, picks_check e]
  simp

theorem warnings_of_checkVersion {warnings : List Diagnostic}
    (h : checkVersion table t policy = .ok warnings) :
    warnings = warningsAbout table t.family := by
  unfold checkVersion at h
  unfold warningsAbout
  cases hfind : table.find? t.family with
  | none =>
    rw [hfind] at h
    rw [if_pos (MinimumVersions.find?_eq_none_iff.1 hfind)]
    cases policy with
    | warn => exact (Except.ok.inj h).symm
    | deny => cases h
  | some minimum =>
    have hlisted : ¬ table.Omits t.family := by
      rw [← MinimumVersions.find?_eq_none_iff, hfind]
      exact Option.some_ne_none minimum
    rw [hfind] at h
    dsimp only at h
    rw [if_neg hlisted]
    by_cases hold : t.version.isOlder minimum = true
    · rw [if_pos hold] at h
      cases h
    · rw [if_neg hold] at h
      exact (Except.ok.inj h).symm

/-- An accepted toolchain comes with the warnings about its family: only the step that looks it up
in the table warns. -/
theorem warnings_of_check {warnings : List Diagnostic}
    (h : check table t requested policy = .ok warnings) :
    warnings = warningsAbout table t.family := by
  unfold check at h
  obtain ⟨-, -, h⟩ := bind_eq_ok_iff.1 h
  obtain ⟨warnings', hwarnings, h⟩ := bind_eq_ok_iff.1 h
  obtain ⟨-, -, h⟩ := bind_eq_ok_iff.1 h
  obtain ⟨-, -, h⟩ := bind_eq_ok_iff.1 h
  obtain rfl := Except.ok.inj h
  exact warnings_of_checkVersion hwarnings

theorem check_eq_ok_iff {warnings : List Diagnostic} :
    check table t requested policy = .ok warnings ↔
      (∀ e, ¬ Breaks table t requested policy e) ∧ warnings = warningsAbout table t.family := by
  constructor
  · intro h
    refine ⟨picks_check.eq_none_iff.1 ?_, warnings_of_check h⟩
    rw [h]
    rfl
  · rintro ⟨hkept, rfl⟩
    obtain ⟨warnings, h⟩ := fault?_eq_none_iff.1 (picks_check.eq_none_iff.2 hkept)
    rw [h, warnings_of_check h]

/-- The rules count in the order of their places: standard, table, version, standard library,
runtime. A toolchain is refused with the first one that it breaks, and with the version that the
first entry for its family asks for if this is the rule about versions. It is accepted if it breaks
none, with one warning if the table has no entry for its family and without warnings otherwise. In
the order of versions a pre-release comes before its release. -/
theorem check_reports_first_broken_rule (table : MinimumVersions) (t : Toolchain)
    (requested : Option Standard) (policy : UnknownCompilerPolicy) :
    (∀ e, check table t requested policy = .error e ↔ Breaks table t requested policy e ∧
      ∀ e', Breaks table t requested policy e' → e.rule ≤ e'.rule) ∧
    (∀ warnings, check table t requested policy = .ok warnings ↔
      (∀ e, ¬ Breaks table t requested policy e) ∧
        warnings = if table.Omits t.family then [unknownWarning t.family] else []) ∧
    (∀ a b : Version, a.major = b.major → a.minor = b.minor → a.patch = b.patch → a.pre ≠ "" →
      b.pre = "" → a < b) :=
  ⟨fun _ => check_eq_error_iff, fun _ => check_eq_ok_iff, fun _ _ => Version.lt_of_preRelease⟩

/-- A candidate of the oldest version is too old, and this counts before its standard library. -/
example :
    let candidate : Version := { Version.release 9 0 0 with pre := "rc.1", pre_valid := by decide }
    check ⟨[(.clang, .release 9 0 0), (.clang, .release 7 0 0)]⟩
      { family := .clang, version := candidate, stdlib := some "libc++" } (some .cpp20) .deny =
        .error (.toolchainTooOld .clang (.release 9 0 0) candidate) := by
  rfl

end Compatibility

end RecipeResolver
