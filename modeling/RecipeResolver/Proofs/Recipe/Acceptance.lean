import RecipeResolver.Proofs.Recipe.Overrides
import RecipeResolver.Proofs.Report.Outcome

/-!
# Which requests are accepted

A request can be at fault in five ways: its version source, its toolchain, its standard, an option
that the revision does not declare, and a toolchain that is not compatible. `Request.faults` lists
all five, each on its own, in the order in which they count. A request fails with the first of them
and is accepted if there is none.

`result_validatedPass` is the one statement about the steps of a request from which the others
follow.
-/

namespace RecipeResolver

namespace Request

/-! ## The faults of a request -/

/-- The first option that was asked for and is not declared. -/
def undeclaredOption? (r : Request) : Option String :=
  (r.options.map Prod.fst).find? fun name => !r.revision.schema.declares name

/-- Why the toolchain of the settings is refused. Settings that name no toolchain or a standard that
there is not are at fault in another way. -/
def incompatibility? (r : Request) : Option CompatibilityError :=
  match r.settings.toolchain, r.settings.standard with
  | .ok toolchain, .ok standard =>
    fault? (Compatibility.check r.revision.schema.minimumVersions toolchain standard r.policy)
  | _, _ => none

/-- Every fault that a request can have, in the order in which they count: `none` stands for a fault
that this request does not have. -/
def faults (r : Request) (files : FileTree) : List (Option Failure) :=
  [fault? (r.revision.schema.identify files r.recipeFolder),
    (fault? r.settings.toolchain).map fun e => .of (.setting e),
    (fault? r.settings.standard).map fun e => .of (.setting e),
    r.undeclaredOption?.map fun name => .of (.option (r.revision.schema.refusal name)),
    r.incompatibility?.map fun e => .of (.compatibility e)]

/-! ## The steps of a request -/

theorem result_toolchainStep (r : Request) :
    r.toolchainStep.result = r.settings.toolchain.mapError fun e => .of (.setting e) := by
  unfold toolchainStep
  rw [Logged.result_bind, Logged.result_say, result_orFail]
  rfl

/-- The pass of a request whose options are declared, before the toolchain is looked at. -/
def normalizedPass (r : Request) (identity : Identity) : NormalizedPass :=
  (OpenPass.assigned r.revision.schema identity (r.defaults ++ r.options)).normalize

/-- What the steps of a request come to: the version, the toolchain and the standard are found, the
options are declared, and the toolchain is compatible. -/
theorem result_validatedPass (r : Request) (files : FileTree) :
    (r.validatedPass files).result =
      (r.revision.schema.identify files r.recipeFolder).bind fun identity =>
        (r.settings.toolchain.mapError fun e => .of (.setting e)).bind fun toolchain =>
          (r.settings.standard.mapError fun e => .of (.setting e)).bind fun standard =>
            match r.undeclaredOption? with
            | some name => .error (.of (.option (r.revision.schema.refusal name)))
            | none =>
              ((r.normalizedPass identity).validate toolchain standard r.policy).mapError
                fun e => .of (.compatibility e) := by
  have hdefaults (identity : Identity) :=
    result_applyDefaults r.revision.schema identity r.defaults []
  have hoptions (identity : Identity) :=
    result_applyOptions r.revision.schema identity r.options ([] ++ r.defaults)
  unfold validatedPass
  simp only [Logged.result_bind, Logged.result_lift, Logged.result_say, result_orFail,
    result_toolchainStep]
  refine congrArg (Except.bind _) (funext fun identity => ?_)
  refine congrArg (Except.bind _) (funext fun toolchain => ?_)
  refine congrArg (Except.bind _) (funext fun standard => ?_)
  -- a pass at its start is a pass after no assignments
  show (r.defaults.foldlM applyDefault
    (.assigned r.revision.schema identity [])).result.bind _ = _
  rw [hdefaults]
  show (r.options.foldlM applyOption
    (.assigned r.revision.schema identity ([] ++ r.defaults))).result.bind _ = _
  rw [hoptions]
  show Except.bind (match r.undeclaredOption? with | some _ => _ | none => _) _ = _
  cases r.undeclaredOption? with
  | some name => rfl
  | none => rfl

/-- A pass is validated by the rules alone; the rest of it stays as it is. -/
theorem validate_eq_map (p : NormalizedPass) (toolchain : Toolchain) (standard : Option Standard)
    (policy : UnknownCompilerPolicy) :
    p.validate toolchain standard policy =
      (Compatibility.check p.schema.minimumVersions toolchain standard policy).map fun warnings =>
        ⟨p.schema, p.identity, p.flags, standard, warnings⟩ := by
  unfold NormalizedPass.validate
  cases Compatibility.check p.schema.minimumVersions toolchain standard policy <;> rfl

/-- The steps of a request fail with its first fault. -/
theorem fault?_validatedPass (r : Request) (files : FileTree) :
    fault? (r.validatedPass files).result = (r.faults files).findSome? id := by
  rw [result_validatedPass]
  unfold faults incompatibility?
  cases r.revision.schema.identify files r.recipeFolder with
  | error f => rfl
  | ok identity =>
    cases r.settings.toolchain with
    | error e => rfl
    | ok toolchain =>
      cases r.settings.standard with
      | error e => rfl
      | ok standard =>
        cases r.undeclaredOption? with
        | some name => rfl
        | none =>
          show fault? (Except.mapError _ ((r.normalizedPass identity).validate _ _ _)) = _
          rw [fault?_mapError, validate_eq_map, fault?_map]
          show (fault? (Compatibility.check r.revision.schema.minimumVersions _ _ _)).map _ = _
          simp

/-- What stands behind the pass of a request that is accepted. -/
theorem validatedPass_eq_ok {r : Request} {files : FileTree} {pass : ValidatedPass}
    (h : (r.validatedPass files).result = .ok pass) :
    ∃ identity toolchain standard warnings,
      r.revision.schema.identify files r.recipeFolder = .ok identity ∧
      r.settings.toolchain = .ok toolchain ∧ r.settings.standard = .ok standard ∧
      Compatibility.check r.revision.schema.minimumVersions toolchain standard r.policy =
        .ok warnings ∧
      pass = ⟨r.revision.schema, identity, (r.normalizedPass identity).flags, standard,
        warnings⟩ := by
  rw [result_validatedPass, bind_eq_ok_iff] at h
  obtain ⟨identity, hidentity, h⟩ := h
  obtain ⟨toolchain, htoolchain, h⟩ := bind_eq_ok_iff.1 h
  obtain ⟨standard, hstandard, h⟩ := bind_eq_ok_iff.1 h
  cases hoption : r.undeclaredOption? with
  | some name => rw [hoption] at h; cases h
  | none =>
    rw [hoption] at h
    have hvalid := mapError_eq_ok_iff.1 h
    rw [validate_eq_map, map_eq_ok_iff] at hvalid
    obtain ⟨warnings, hcheck, hpass⟩ := hvalid
    exact ⟨identity, toolchain, standard, warnings, hidentity, mapError_eq_ok_iff.1 htoolchain,
      mapError_eq_ok_iff.1 hstandard, hcheck, hpass.symm⟩

/-! ## Resolutions -/

/-- A request that is accepted is resolved without further questions. -/
theorem result_resolve (r : Request) (files : FileTree) :
    (r.resolve files).result = (r.validatedPass files).result.map ValidatedPass.resolve := by
  unfold Request.resolve
  rw [Logged.result_bind]
  cases (r.validatedPass files).result <;> rfl

theorem fault?_resolve (r : Request) (files : FileTree) :
    fault? (r.resolve files).result = (r.faults files).findSome? id := by
  rw [result_resolve, fault?_map, fault?_validatedPass]

end Request

/-- The rules let no standard pass that is older than C++17. -/
theorem Compatibility.cpp17_le_of_check {table : MinimumVersions} {toolchain : Toolchain}
    {requested : Option Standard} {policy : UnknownCompilerPolicy} {warnings : List Diagnostic}
    (h : Compatibility.check table toolchain requested policy = .ok warnings) {standard : Standard}
    (hstandard : requested = some standard) : Standard.cpp17.year ≤ standard.year := by
  subst hstandard
  refine Nat.le_of_not_lt fun hlt => ?_
  have hbefore : standard.isBefore .minimum = true := by
    rw [Standard.isBefore, decide_eq_true_eq]
    exact hlt
  have hrefused : Compatibility.checkStandard (some standard) =
      .error (.standardTooLow standard .minimum) := if_pos hbefore
  unfold Compatibility.check at h
  rw [hrefused] at h
  cases h

namespace Request

/-- Neither the defaults nor the values of the options are at fault. -/
theorem faults_congr {r : Request} {files : FileTree} {defaults options : List (String × Bool)}
    (h : options.map Prod.fst = r.options.map Prod.fst) :
    ({ r with defaults, options } : Request).faults files = r.faults files := by
  have hoption : ({ r with defaults, options } : Request).undeclaredOption? =
      r.undeclaredOption? := by
    unfold undeclaredOption?
    rw [h]
  unfold faults
  rw [hoption]
  rfl

/-- A request fails with the first fault that it has and is accepted if it has none. Neither the
defaults nor the values of the options play a part in this. The standard of a resolution is the one
that was asked for, and it is at least C++17. -/
theorem resolve_fails_with_first_fault (r : Request) (files : FileTree) :
    (∀ f, (r.resolve files).result = .error f ↔ (r.faults files).findSome? id = some f) ∧
      ((∃ resolution, (r.resolve files).result = .ok resolution) ↔
        ∀ fault ∈ r.faults files, fault = none) ∧
      (∀ defaults options, options.map Prod.fst = r.options.map Prod.fst →
        fault? (({ r with defaults, options } : Request).resolve files).result =
          fault? (r.resolve files).result) ∧
      (∀ resolution, (r.resolve files).result = .ok resolution →
        r.settings.standard = .ok resolution.standard ∧
          ∀ standard, resolution.standard = some standard →
            Standard.cpp17.year ≤ standard.year) := by
  refine ⟨?_, ?_, ?_, ?_⟩
  · intro f
    rw [← fault?_eq_some_iff, fault?_resolve]
  · rw [← fault?_eq_none_iff, fault?_resolve, List.findSome?_eq_none_iff]
    rfl
  · intro defaults options hnames
    rw [fault?_resolve, fault?_resolve, faults_congr hnames]
  · intro resolution h
    rw [result_resolve, map_eq_ok_iff] at h
    obtain ⟨pass, hpass, rfl⟩ := h
    obtain ⟨identity, toolchain, standard, warnings, -, -, hstandard, hcheck, rfl⟩ :=
      validatedPass_eq_ok hpass
    refine ⟨hstandard, ?_⟩
    intro standard' hsome
    exact Compatibility.cpp17_le_of_check hcheck hsome

end Request

end RecipeResolver
