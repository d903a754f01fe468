import RecipeResolver.Proofs.Recipe.Acceptance
import RecipeResolver.Proofs.Recipe.HandOver

/-!
# Validation, resolution and runs agree

A request can be validated, resolved or run. All three go through the same pass, and each adds
steps of its own behind it: a validation reads the toolchain a second time, a resolution decides,
and a run hands over. Behind the pass nothing can fail but a party of a run, so the three accept the
same requests and reject them with the same errors.
-/

namespace RecipeResolver

/-- What a report promises about the resolution of the same request: it has the same features, and
its toolchain is the one that the rules have accepted, with these warnings. -/
structure ValidationReport.Describes (report : ValidationReport) (r : Request) (c : Resolution) :
    Prop where
  revision : report.revision = c.revision
  features : report.features = c.features
  toolchain : r.settings.toolchain = .ok report.toolchain
  accepted : Compatibility.check r.revision.schema.minimumVersions report.toolchain c.standard
    r.policy = .ok report.warnings

namespace Request

variable (r : Request) (files : FileTree)

/-! ## Validations -/

/-- A validation reads the toolchain once more behind the pass. -/
theorem result_validate :
    (r.validate files).result = (r.validatedPass files).result.bind fun pass =>
      r.toolchainStep.result.map fun toolchain =>
        ⟨r.revision, toolchain, pass.flags, pass.warnings⟩ := by
  unfold validate
  rw [Logged.result_bind]
  refine congrArg (Except.bind _) (funext fun pass => ?_)
  rw [Logged.result_bind]
  cases r.toolchainStep.result <;> rfl

/-- Of the settings, a validation looks at the toolchain and the standard alone. -/
theorem result_validate_congr {settings : Settings}
    (htoolchain : settings.toolchain = r.settings.toolchain)
    (hstandard : settings.standard = r.settings.standard) :
    ({ r with settings }.validate files).result = (r.validate files).result := by
  simp only [result_validate, result_validatedPass, result_toolchainStep]
  rw [htoolchain, hstandard]
  rfl

variable {r files}

/-- The toolchain of an accepted pass is there when it is read again, and the report describes what
the pass is resolved to. -/
theorem exists_report_of_validatedPass {pass : ValidatedPass}
    (h : (r.validatedPass files).result = .ok pass) : ∃ report : ValidationReport,
      (r.validate files).result = .ok report ∧ report.Describes r pass.resolve := by
  obtain ⟨identity, toolchain, standard, warnings, -, htoolchain, -, hcheck, rfl⟩ :=
    validatedPass_eq_ok h
  have hagain : r.toolchainStep.result = .ok toolchain := by
    rw [result_toolchainStep, htoolchain]
    rfl
  refine ⟨{ revision := r.revision, toolchain, features := (r.normalizedPass identity).flags,
            warnings }, ?_, ?_⟩
  · rw [result_validate, h, hagain]
    rfl
  · refine ⟨?_, rfl, htoolchain, hcheck⟩
    show r.revision = r.revision.schema.revision
    cases r.revision <;> rfl

/-- A validation fails as the resolution of the same request does. -/
theorem fault?_validate : fault? (r.validate files).result = fault? (r.resolve files).result := by
  rw [result_resolve, fault?_map]
  cases hpass : (r.validatedPass files).result with
  | error f =>
    rw [result_validate, hpass]
    rfl
  | ok pass =>
    obtain ⟨report, hreport, -⟩ := exists_report_of_validatedPass hpass
    rw [hreport]
    rfl

theorem validate_describes_resolve {report : ValidationReport} {c : Resolution}
    (hreport : (r.validate files).result = .ok report) (hc : (r.resolve files).result = .ok c) :
    report.Describes r c := by
  rw [result_resolve, map_eq_ok_iff] at hc
  obtain ⟨pass, hpass, rfl⟩ := hc
  obtain ⟨report', hreport', hdescribes⟩ := exists_report_of_validatedPass hpass
  obtain rfl : report' = report := Except.ok.inj (hreport'.symm.trans hreport)
  exact hdescribes

/-! ## Runs -/

/-- A run with parties that accept what they are handed answers with the resolution. -/
theorem run_of_accepting {σ : Type} {driver : Recipient σ Plan}
    {registry : Recipient σ PackageMetadata} {state : σ} {c : Resolution}
    (hc : (r.resolve files).result = .ok c) (hdriver : (driver (r.plan c) state).2 = .ok ())
    (hregistry : (registry c.metadata (driver (r.plan c) state).1).2 = .ok ()) :
    (r.run files driver registry state).2.result = .ok c := by
  rw [run_of_resolved r files _ _ _ hc]
  show (handOver driver registry (r.plan c) c state).2 = .ok c
  unfold handOver
  rcases hbuilt : driver (r.plan c) state with ⟨built, answer⟩
  rw [hbuilt] at hdriver hregistry
  obtain rfl : answer = .ok () := hdriver
  dsimp only at hregistry ⊢
  rcases hpublished : registry c.metadata built with ⟨published, answer'⟩
  rw [hpublished] at hregistry
  obtain rfl : answer' = .ok () := hregistry
  rfl

variable (r files)

/-- Validation, resolution and run of a request agree. It is validated if and only if it is
resolved. Otherwise both fail with the same error, and so does a run, which calls nobody and leaves
the state as it is. The report describes the resolution, and a run with parties that accept what
they are handed answers with it. -/
theorem validate_resolve_run_agree :
    ((∃ report, (r.validate files).result = .ok report) ↔
      ∃ c, (r.resolve files).result = .ok c) ∧
    (∀ f, (r.validate files).result = .error f ↔ (r.resolve files).result = .error f) ∧
    (∀ f, (r.resolve files).result = .error f →
      ∀ (σ : Type) (driver : Recipient σ Plan) (registry : Recipient σ PackageMetadata) (state : σ),
        (r.run files driver registry state).2.result = .error f ∧
          (r.run files driver registry state).1 = state ∧
          r.calls files driver registry state = []) ∧
    (∀ report c, (r.validate files).result = .ok report → (r.resolve files).result = .ok c →
      report.Describes r c) ∧
    (∀ c, (r.resolve files).result = .ok c →
      ∀ (σ : Type) (driver : Recipient σ Plan) (registry : Recipient σ PackageMetadata) (state : σ),
        (driver (r.plan c) state).2 = .ok () →
        (registry c.metadata (driver (r.plan c) state).1).2 = .ok () →
          (r.run files driver registry state).2.result = .ok c) := by
  refine ⟨?_, ?_, ?_, ?_, ?_⟩
  · rw [← fault?_eq_none_iff, ← fault?_eq_none_iff, fault?_validate]
  · intro f
    rw [← fault?_eq_some_iff, ← fault?_eq_some_iff, fault?_validate]
  · intro f hf σ driver registry state
    refine ⟨?_, ?_, (r.run_course files driver registry state).calls_of_rejected hf⟩
    · rw [run_of_rejected r files _ _ _ hf, hf]
    · rw [run_of_rejected r files _ _ _ hf]
  · intro report c hreport hc
    exact validate_describes_resolve hreport hc
  · intro c hc σ driver registry state hdriver hregistry
    exact run_of_accepting hc hdriver hregistry

end Request

end RecipeResolver
