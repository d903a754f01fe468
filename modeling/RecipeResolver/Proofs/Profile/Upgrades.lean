import RecipeResolver.Profile.Settings
import RecipeResolver.Proofs.Profile.BrokenRules

/-!
# Upgrades

A toolchain that is accepted stays accepted when its compiler gets newer, when a newer standard or
none is asked for, and when the policy gets milder. `Compatibility.Upgrade` puts these together.
Whatever an upgrade breaks was broken before (`Upgrade.breaks`), so what was accepted is accepted
again, with the same warnings (`Upgrade.check`).

A profile gives the version as a text. Raising it is such an upgrade, but for the compiler whose
versions are toolset numbers: there a higher number can be one that no release belongs to.
-/

namespace RecipeResolver

namespace Compatibility

/-- The second input of the rules is in no way behind the first one. -/
structure Upgrade (t : Toolchain) (requested : Option Standard) (policy : UnknownCompilerPolicy)
    (t' : Toolchain) (requested' : Option Standard) (policy' : UnknownCompilerPolicy) : Prop where
  family : t'.family = t.family
  version : t.version ≤ t'.version
  stdlib : t'.stdlib = t.stdlib
  runtime : t'.runtime = t.runtime
  standard : ∀ higher, requested' = some higher →
    ∃ standard, requested = some standard ∧ standard.year ≤ higher.year
  policy : policy' = .deny → policy = .deny

variable {table : MinimumVersions} {t t' : Toolchain} {requested requested' : Option Standard}
  {policy policy' : UnknownCompilerPolicy}

theorem Upgrade.of_version (hfamily : t'.family = t.family) (hversion : t.version ≤ t'.version)
    (hstdlib : t'.stdlib = t.stdlib) (hruntime : t'.runtime = t.runtime) :
    Upgrade t requested policy t' requested policy :=
  ⟨hfamily, hversion, hstdlib, hruntime, fun higher h => ⟨higher, h, Nat.le_refl _⟩, id⟩

theorem Upgrade.of_standard (h : ∀ higher, requested' = some higher →
    ∃ standard, requested = some standard ∧ standard.year ≤ higher.year) :
    Upgrade t requested policy t requested' policy :=
  ⟨rfl, le_rfl, rfl, rfl, h, id⟩

theorem Upgrade.to_warn : Upgrade t requested policy t requested .warn :=
  ⟨rfl, le_rfl, rfl, rfl, fun higher h => ⟨higher, h, Nat.le_refl _⟩, fun h => nomatch h⟩

/-- Where a rule is broken after an upgrade, one was broken before. -/
theorem Upgrade.breaks (h : Upgrade t requested policy t' requested' policy')
    {e : CompatibilityError} (hbroken : Breaks table t' requested' policy' e) :
    ∃ e', Breaks table t requested policy e' := by
  -- it is the same rule, but its error may name another standard or another version
  cases hbroken with
  | standard hrequested hold =>
    obtain ⟨standard, hstandard, hle⟩ := h.standard _ hrequested
    exact ⟨_, .standard hstandard (Nat.lt_of_le_of_lt hle hold)⟩
  | unlisted homits hdeny => exact ⟨_, .unlisted (h.family ▸ homits) (h.policy hdeny)⟩
  | version hasks hold => exact ⟨_, .version (h.family ▸ hasks) (lt_of_le_of_lt h.version hold)⟩
  | library hfamily hstdlib =>
    exact ⟨_, .library (h.family.symm.trans hfamily) (h.stdlib.symm.trans hstdlib)⟩
  | runtime hfamily hruntime hstatic =>
    exact ⟨_, .runtime (h.family.symm.trans hfamily) (h.runtime.symm.trans hruntime) hstatic⟩

/-- An upgrade of what is accepted is accepted with the same warnings. -/
theorem Upgrade.check (h : Upgrade t requested policy t' requested' policy')
    {warnings : List Diagnostic}
    (hcheck : Compatibility.check table t requested policy = .ok warnings) :
    Compatibility.check table t' requested' policy' = .ok warnings := by
  obtain ⟨hkept, hwarnings⟩ := check_eq_ok_iff.1 hcheck
  refine check_eq_ok_iff.2 ⟨fun e hbroken => ?_, ?_⟩
  · obtain ⟨e', hbefore⟩ := h.breaks hbroken
    exact hkept e' hbefore
  · rw [h.family]
    exact hwarnings

end Compatibility

namespace Settings

/-! ## Profiles with a newer compiler -/

/-- What a profile with a toolchain says. -/
theorem toolchain_eq_ok_iff {s : Settings} {t : Toolchain} :
    s.toolchain = .ok t ↔ ∃ compiler text version runtime,
      s.value? .compiler = some compiler ∧ s.value? .compilerVersion = some text ∧
        compilerVersion compiler text = .ok version ∧ s.runtime = .ok runtime ∧
          t = { family := .ofName compiler, version, stdlib := s.value? .compilerLibcxx,
                runtime } := by
  unfold toolchain
  cases s.value? .compiler with
  | none => simp
  | some compiler =>
    cases s.value? .compilerVersion with
    | none => simp
    | some text =>
      show (compilerVersion compiler text).bind _ = _ ↔ _
      rw [bind_eq_ok_iff]
      constructor
      · rintro ⟨version, hversion, h⟩
        obtain ⟨runtime, hruntime, h⟩ := bind_eq_ok_iff.1 h
        exact ⟨compiler, text, version, runtime, rfl, rfl, hversion, hruntime,
          (Except.ok.inj h).symm⟩
      · rintro ⟨_, _, version, runtime, hcompiler, htext, hversion, hruntime, rfl⟩
        cases hcompiler
        cases htext
        exact ⟨version, hversion, bind_eq_ok_iff.2 ⟨runtime, hruntime, rfl⟩⟩

/-- Two profiles that differ in the version of the compiler alone, which is not older in the second
one. The versions of the compiler are not toolset numbers. -/
structure RaisesVersion (s s' : Settings) : Prop where
  same : ∀ key, key ≠ .compilerVersion → s'.value? key = s.value? key
  compiler : s.value? .compiler ≠ some "msvc"
  version : ∃ text version text' version',
    s.value? .compilerVersion = some text ∧ Version.ofShort? text = some version ∧
      s'.value? .compilerVersion = some text' ∧ Version.ofShort? text' = some version' ∧
        version ≤ version'

variable {s s' : Settings}

/-- The version of a compiler is that of its text, unless it is a toolset number. -/
theorem compilerVersion_eq_ok_iff {compiler text : String} {version : Version}
    (h : compiler ≠ toolsetCompiler) :
    compilerVersion compiler text = .ok version ↔ Version.ofShort? text = some version := by
  unfold compilerVersion
  cases Version.ofShort? text with
  | none => simp
  | some v => simp [h]

/-- A profile whose version is raised has a toolchain if it had one before. -/
theorem RaisesVersion.exists_toolchain (h : s.RaisesVersion s') {t : Toolchain}
    (ht : s.toolchain = .ok t) : ∃ t', s'.toolchain = .ok t' ∧ t'.family = t.family ∧
      t.version ≤ t'.version ∧ t'.stdlib = t.stdlib ∧ t'.runtime = t.runtime := by
  obtain ⟨compiler, text, version, runtime, hcompiler, htext, hversion, hruntime, rfl⟩ :=
    toolchain_eq_ok_iff.1 ht
  obtain ⟨_, older, text', newer, htext₀, holder, htext', hnewer, hle⟩ := h.version
  -- the text that was read and the text that is raised are one
  obtain rfl : text = _ := Option.some.inj (htext.symm.trans htext₀)
  have hnumbers : compiler ≠ toolsetCompiler := fun heq =>
    h.compiler (hcompiler.trans (congrArg some heq))
  obtain rfl : older = version :=
    Option.some.inj (holder.symm.trans ((compilerVersion_eq_ok_iff hnumbers).1 hversion))
  have hruntime' : s'.runtime = .ok runtime := by
    unfold Settings.runtime at hruntime ⊢
    rw [h.same _ (by decide)]
    exact hruntime
  refine ⟨_, toolchain_eq_ok_iff.2 ⟨compiler, text', newer, runtime, ?_, htext',
    (compilerVersion_eq_ok_iff hnumbers).2 hnewer, hruntime', rfl⟩, rfl, hle, ?_, rfl⟩
  · rw [h.same _ (by decide), hcompiler]
  · exact h.same _ (by decide)

theorem RaisesVersion.standard_eq (h : s.RaisesVersion s') : s'.standard = s.standard := by
  unfold standard
  rw [h.same _ (by decide)]

end Settings

/-- An accepted toolchain is accepted with the same warnings at every version that is not older, if
no standard or a higher one is asked for, and if unknown compilers get by with a warning. So a
profile with an accepted toolchain keeps having one when the version of its compiler is raised. -/
theorem upgrades_are_accepted {table : MinimumVersions} {t : Toolchain}
    {requested : Option Standard} {policy : UnknownCompilerPolicy} {warnings : List Diagnostic}
    (h : Compatibility.check table t requested policy = .ok warnings) :
    (∀ version, t.version ≤ version →
      Compatibility.check table { t with version } requested policy = .ok warnings) ∧
    Compatibility.check table t none policy = .ok warnings ∧
    (∀ standard higher, requested = some standard → standard.year ≤ higher.year →
      Compatibility.check table t (some higher) policy = .ok warnings) ∧
    Compatibility.check table t requested .warn = .ok warnings ∧
    (∀ s s' : Settings, s.toolchain = .ok t → s.RaisesVersion s' →
      ∃ t', s'.toolchain = .ok t' ∧ s'.standard = s.standard ∧
        Compatibility.check table t' requested policy = .ok warnings) := by
  refine ⟨?_, ?_, ?_, ?_, ?_⟩
  · intro version hle
    have hnewer : Compatibility.Upgrade t requested policy { t with version } requested policy :=
      .of_version rfl hle rfl rfl
    exact hnewer.check h
  · have hnone : Compatibility.Upgrade t requested policy t none policy := by
      refine .of_standard fun _ h => ?_
      cases h
    exact hnone.check h
  · intro standard higher hrequested hle
    have hhigher : Compatibility.Upgrade t requested policy t (some higher) policy := by
      refine .of_standard fun _ h => ?_
      cases h
      exact ⟨standard, hrequested, hle⟩
    exact hhigher.check h
  · exact Compatibility.Upgrade.to_warn.check h
  · intro s s' ht hraises
    obtain ⟨t', ht', hfamily, hversion, hstdlib, hruntime⟩ := hraises.exists_toolchain ht
    refine ⟨t', ht', hraises.standard_eq, ?_⟩
    exact (Compatibility.Upgrade.of_version hfamily hversion hstdlib hruntime).check h

/-- The tenth candidate of a release is behind the second one, and the release behind both. -/
theorem upgrades_of_candidate_are_accepted :
    let second : Version := { Version.release 8 0 0 with pre := "rc.2", pre_valid := by decide }
    let tenth : Version := { Version.release 8 0 0 with pre := "rc.10", pre_valid := by decide }
    let table : MinimumVersions := ⟨[(.gcc, second)]⟩
    let t : Toolchain := { family := .gcc, version := tenth }
    let s := (Settings.empty.insert .compiler "gcc").insert .compilerVersion "8.0.0-rc.10"
    let s' := s.insert .compilerVersion "8"
    let accepts (t : Toolchain) (requested : Option Standard) (policy : UnknownCompilerPolicy) :=
      Compatibility.check table t requested policy = .ok []
    accepts t (some .cpp17) .deny ∧
      accepts { t with version := .release 8 0 0 } (some .cpp17) .deny ∧
      accepts t none .deny ∧ accepts t (some .cpp20) .deny ∧ accepts t (some .cpp17) .warn ∧
      s.toolchain = .ok t ∧ s.RaisesVersion s' ∧
      ∃ t', s'.toolchain = .ok t' ∧ s'.standard = s.standard ∧ accepts t' (some .cpp17) .deny := by
  intro second tenth table t s s' accepts
  have h : Compatibility.check table t (some .cpp17) .deny = .ok [] := by decide +kernel
  have ht : s.toolchain = .ok t := by decide +kernel
  have hraises : s.RaisesVersion s' := {
    same := fun key hkey => if_neg hkey
    compiler := by decide
    version := ⟨"8.0.0-rc.10", tenth, "8", .release 8 0 0, rfl, by decide +kernel, rfl,
      by decide +kernel, by decide +kernel⟩ }
  obtain ⟨hversion, hnone, hhigher, hwarn, hsettings⟩ := upgrades_are_accepted h
  exact ⟨h, hversion _ (by decide +kernel), hnone, hhigher .cpp17 .cpp20 rfl (by decide), hwarn,
    ht, hraises, hsettings s s' ht hraises⟩

end RecipeResolver
