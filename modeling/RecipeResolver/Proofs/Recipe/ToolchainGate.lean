import RecipeResolver.Proofs.Recipe.Acceptance
import RecipeResolver.Proofs.Recipe.HandOver
import RecipeResolver.Proofs.Recipe.References

/-!
# What a toolchain can change

A toolchain decides whether a request is accepted. What an accepted request comes to is a function
of the revision, the version in the recipe's folder, the values of the options and the standard
(`Request.resolve_eq_ok`), so two accepted requests that agree on these have the same resolution.
The plan adds one thing to it that comes from the settings: the system decides whether tests run.
-/

namespace RecipeResolver

/-! ## Folders with the same files -/

/-- What can be read directly in one folder can be read in the other one. -/
def FileTree.SameFiles (files : FileTree) (folder : String) (files' : FileTree) (folder' : String) :
    Prop :=
  ∀ name content, '/' ∉ name.toList →
    (files.read (Paths.join folder name) = .ok content ↔
      files'.read (Paths.join folder' name) = .ok content)

namespace VersionSource

/-- A source that names no file below the folder gives the same version for the same files. -/
theorem load_congr {source : VersionSource} {files files' : FileTree} {folder folder' : String}
    (h : files.SameFiles folder files' folder')
    (hname : ∀ name, source = .file name → '/' ∉ name.toList) (version : String) :
    source.load files folder = .ok version ↔ source.load files' folder' = .ok version := by
  cases source with
  | literal v => exact Iff.rfl
  | file name =>
    have hread (content : ByteArray) := h name content (hname name rfl)
    show readFile files _ = _ ↔ readFile files' _ = _
    simp only [readFile_eq_ok_iff, FileTree.readText_eq_ok_iff, hread]

end VersionSource

/-- A revision finds the same package in folders with the same files. -/
theorem Revision.identify_congr {revision : Revision} {files files' : FileTree}
    {folder folder' : String} (h : files.SameFiles folder files' folder') (identity : Identity) :
    revision.schema.identify files folder = .ok identity ↔
      revision.schema.identify files' folder' = .ok identity := by
  have hname (name : String) (hfile : revision.schema.versionSource = .file name) :
      '/' ∉ name.toList := by
    cases revision <;> cases hfile
    decide
  simp only [Schema.identify_eq_ok_iff, VersionSource.load_congr h hname]

/-! ## Plans with and without tests -/

namespace Plan

/-- The same plan with one test step less. -/
def untested (p : Plan) : Plan :=
  { p with steps := p.steps.erase .test }

theorem stepsFor_erase_test (os : Option String) :
    (stepsFor os).erase .test = stepsFor (some untestedSystem) := by
  unfold stepsFor
  by_cases hos : os = some untestedSystem
  · rw [if_pos hos]
    decide
  · rw [if_neg hos]
    decide

theorem untested_ofResolution (schema : Schema) (c : Resolution) (os : Option String) :
    (ofResolution schema c os).untested = ofResolution schema c (some untestedSystem) := by
  show { ofResolution schema c os with steps := (stepsFor os).erase .test } = _
  rw [stepsFor_erase_test]
  rfl

theorem runsTests_ofResolution_iff {schema : Schema} {c : Resolution} {os : Option String} :
    (ofResolution schema c os).runsTests = true ↔ os ≠ some untestedSystem := by
  show (stepsFor os).contains .test = true ↔ _
  unfold stepsFor
  by_cases hos : os = some untestedSystem
  · rw [if_pos hos]
    exact iff_of_false (by decide) (not_not_intro hos)
  · rw [if_neg hos]
    exact iff_of_true (by decide) hos

/-- Of the system a plan knows only whether it is the one without tests. -/
theorem ofResolution_eq_iff {schema : Schema} {c : Resolution} {os os' : Option String} :
    ofResolution schema c os = ofResolution schema c os' ↔
      (os = some untestedSystem ↔ os' = some untestedSystem) := by
  constructor
  · intro h
    have hruns := congrArg (fun p => p.runsTests = true) h
    simp only [runsTests_ofResolution_iff, eq_iff_iff, Decidable.not_iff_not] at hruns
    exact hruns
  · intro h
    have hsteps : stepsFor os = stepsFor os' := by
      unfold stepsFor
      simp only [h]
    unfold ofResolution
    rw [hsteps]

/-- The plan for the system without tests is any other one without its test step. -/
theorem ofResolution_eq_untested {schema : Schema} {c : Resolution} {os os' : Option String}
    (hos : os = some untestedSystem) (hos' : os' ≠ some untestedSystem) :
    (ofResolution schema c os).runsTests = false ∧ (ofResolution schema c os').runsTests = true ∧
      ofResolution schema c os = (ofResolution schema c os').untested := by
  refine ⟨?_, runsTests_ofResolution_iff.2 hos', ?_⟩
  · rw [← Bool.not_eq_true, runsTests_ofResolution_iff, Decidable.not_not]
    exact hos
  · rw [untested_ofResolution, hos]

end Plan

/-! ## Two requests -/

/-- The plan that the driver is handed in a call. -/
def Call.plan? : Call → Option Plan
  | .drive plan _ => some plan
  | .publish _ _ => none

namespace Request

/-- Two requests that may differ in their settings, but for the standard, and in their policy. -/
structure AgreeBeyondToolchain (r : Request) (files : FileTree) (r' : Request)
    (files' : FileTree) : Prop where
  revision : r.revision = r'.revision
  folder : files.SameFiles r.recipeFolder files' r'.recipeFolder
  defaults : r.defaults = r'.defaults
  options : r.options = r'.options
  standard : r.settings.standard = r'.settings.standard

/-- The plans that the driver is handed in a run, in order. -/
def plansHandedOver {σ : Type} (r : Request) (files : FileTree) (driver : Recipient σ Plan)
    (registry : Recipient σ PackageMetadata) (state : σ) : List Plan :=
  (r.calls files driver registry state).filterMap Call.plan?

/-- On every course of a resolved request the driver is handed one plan, that for the resolution. -/
theorem Course.plans_of_resolved {r : Request} {files : FileTree} {calls : List Call}
    {answer : Except Failure Resolution} (h : Course r files calls answer) {c : Resolution}
    (hc : (r.resolve files).result = .ok c) : calls.filterMap Call.plan? = [r.plan c] := by
  cases h with
  | rejected hr => rw [hc] at hr; cases hr
  | unbuilt hr f => rw [hc] at hr; cases hr; rfl
  | unpublished hr f => rw [hc] at hr; cases hr; rfl
  | complete hr => rw [hc] at hr; cases hr; rfl

/-- What an accepted request comes to. Of the settings, only the standard is in it. -/
theorem resolve_eq_ok {r : Request} {files : FileTree} {c : Resolution}
    (hc : (r.resolve files).result = .ok c) : ∃ identity standard,
      r.revision.schema.identify files r.recipeFolder = .ok identity ∧
        r.settings.standard = .ok standard ∧
        c = RecipeResolver.resolve r.revision.schema identity (r.normalizedPass identity).flags
          standard := by
  rw [result_resolve, map_eq_ok_iff] at hc
  obtain ⟨pass, hpass, rfl⟩ := hc
  obtain ⟨identity, toolchain, standard, warnings, hidentity, -, hstandard, -, rfl⟩ :=
    validatedPass_eq_ok hpass
  exact ⟨identity, standard, hidentity, hstandard, rfl⟩

theorem AgreeBeyondToolchain.resolution_eq {r r' : Request} {files files' : FileTree}
    {c c' : Resolution} (h : r.AgreeBeyondToolchain files r' files')
    (hc : (r.resolve files).result = .ok c) (hc' : (r'.resolve files').result = .ok c') :
    c = c' := by
  obtain ⟨identity, standard, hidentity, hstandard, rfl⟩ := resolve_eq_ok hc
  obtain ⟨identity', standard', hidentity', hstandard', rfl⟩ := resolve_eq_ok hc'
  rw [h.revision, Revision.identify_congr h.folder, hidentity'] at hidentity
  rw [h.standard, hstandard'] at hstandard
  obtain rfl := Except.ok.inj hidentity
  obtain rfl := Except.ok.inj hstandard
  unfold normalizedPass
  rw [h.revision, h.defaults, h.options]

/-- The toolchain is only a gate. Two accepted requests that agree beyond it have the same
resolution. Each run hands its driver one plan: the same one if both or neither of the systems are
Windows, and otherwise plans of which the one for Windows has no test step and is the other one
without it. -/
theorem toolchain_is_only_gate {r r' : Request} {files files' : FileTree} {c c' : Resolution}
    (hagree : r.AgreeBeyondToolchain files r' files')
    (hc : (r.resolve files).result = .ok c) (hc' : (r'.resolve files').result = .ok c') :
    (c = c' ∧ c.fingerprint = c'.fingerprint ∧ c.metadata = c'.metadata) ∧
    ∀ (σ σ' : Type) (driver : Recipient σ Plan) (driver' : Recipient σ' Plan)
      (registry : Recipient σ PackageMetadata) (registry' : Recipient σ' PackageMetadata)
      (state : σ) (state' : σ'),
      ∃ p p', r.plansHandedOver files driver registry state = [p] ∧
        r'.plansHandedOver files' driver' registry' state' = [p'] ∧
        ((r.settings.os = some "Windows" ↔ r'.settings.os = some "Windows") →
          p = p' ∧ p.cacheKey = p'.cacheKey) ∧
        (r.settings.os = some "Windows" → r'.settings.os ≠ some "Windows" →
          p.runsTests = false ∧ p'.runsTests = true ∧ p = p'.untested) ∧
        (r.settings.os ≠ some "Windows" → r'.settings.os = some "Windows" →
          p'.runsTests = false ∧ p.runsTests = true ∧ p' = p.untested) := by
  obtain rfl := hagree.resolution_eq hc hc'
  refine ⟨⟨rfl, rfl, rfl⟩, ?_⟩
  intro σ σ' driver driver' registry registry' state state'
  have hplan : r'.plan c = .ofResolution r.revision.schema c r'.settings.os := by
    unfold plan
    rw [hagree.revision]
  refine ⟨r.plan c, r'.plan c,
    (r.run_course files driver registry state).plans_of_resolved hc,
    (r'.run_course files' driver' registry' state').plans_of_resolved hc', ?_, ?_, ?_⟩
  · intro hos
    have hplans : r.plan c = r'.plan c := by
      rw [hplan]
      exact Plan.ofResolution_eq_iff.2 hos
    exact ⟨hplans, congrArg Plan.cacheKey hplans⟩
  · intro hos hos'
    rw [hplan]
    exact Plan.ofResolution_eq_untested hos hos'
  · intro hos hos'
    rw [hplan]
    exact Plan.ofResolution_eq_untested hos' hos

/-- Two compilers on two systems, and a policy for each: the same resolution, and plans that differ
in the tests. -/
theorem toolchain_is_only_gate_on_windows_and_linux :
    let files := FileTree.empty.put ["VERSION"] (.file "1.2.3\n".toUTF8)
    let windows := (((Settings.empty.insert .os "Windows").insert .compiler "msvc").insert
      .compilerVersion "193").insert .compilerRuntime "MD"
    let linux := ((Settings.empty.insert .os "Linux").insert .compiler "gcc").insert
      .compilerVersion "12"
    let r : Request := { revision := .v3, recipeFolder := "/", settings := windows }
    let r' : Request := { r with settings := linux, policy := .deny }
    ∃ c, (r.resolve files).result = .ok c ∧ (r'.resolve files).result = .ok c ∧
      ∀ (driver : Recipient Unit Plan) (registry : Recipient Unit PackageMetadata),
        ∃ p p', r.plansHandedOver files driver registry () = [p] ∧
          r'.plansHandedOver files driver registry () = [p'] ∧
          p.runsTests = false ∧ p'.runsTests = true ∧ p = p'.untested := by
  intro files windows linux r r'
  have hagree : r.AgreeBeyondToolchain files r' files := {
    revision := rfl
    folder := fun _ _ _ => Iff.rfl
    defaults := rfl
    options := rfl
    standard := rfl }
  have hresolves (r : Request) (h : (r.resolve files).result.toOption.isSome = true) :
      ∃ c, (r.resolve files).result = .ok c := by
    cases hc : (r.resolve files).result with
    | error f => rw [hc] at h; cases h
    | ok c => exact ⟨c, rfl⟩
  obtain ⟨c, hc⟩ := hresolves r (by decide +kernel)
  obtain ⟨c', hc'⟩ := hresolves r' (by decide +kernel)
  obtain ⟨⟨heq, -, -⟩, hplans⟩ := toolchain_is_only_gate hagree hc hc'
  refine ⟨c, hc, heq ▸ hc', fun driver registry => ?_⟩
  obtain ⟨p, p', hp, hp', -, hwindows, -⟩ :=
    hplans Unit Unit driver driver registry registry () ()
  exact ⟨p, p', hp, hp', hwindows (by decide) (by decide)⟩

end Request

end RecipeResolver
