import RecipeResolver.Proofs.Profile.Edits
import RecipeResolver.Proofs.Profile.Upgrades
import RecipeResolver.Proofs.Recipe.Agreement
import RecipeResolver.Proofs.Version.ShortForm

/-!
# What a profile describes

A profile that came about by edits has no blanks around its values, so names are compared as they
are stored. `Settings.FailsAt` lists the reasons for which such a profile describes no toolchain,
each on its own and with the stage at which it counts, and `Settings.Describes` says which toolchain
a profile describes. One of the two is always there (`exists_describes_or_failsAt`), so what is read
from a profile follows from both (`toolchain_eq_iff`).

Microsoft's compiler goes by two names with two ways to count. Under the name `msvc` its versions
are toolset numbers, and the toolchain has the release that the toolset belongs to; so a profile
that gives the release under the other name describes the same toolchain.
-/

namespace RecipeResolver

/-! ## Names -/

/-- A compiler of this name belongs to the family. -/
inductive CompilerFamily.IsNamed : CompilerFamily → String → Prop
  | gcc : IsNamed .gcc "gcc"
  | clang : IsNamed .clang "clang"
  | appleClang : IsNamed .appleClang "apple-clang"
  | visualStudio : IsNamed .msvc "Visual Studio"
  | msvc : IsNamed .msvc "msvc"
  | unknown {name : String}
      (h : name ∉ ["gcc", "clang", "apple-clang", "Visual Studio", "msvc"]) :
      IsNamed (.unknown name) name

/-- A linkage goes by its flag and by its words. -/
inductive Runtime.IsNamed : Runtime → String → Prop
  | flag (runtime : Runtime) : IsNamed runtime runtime.flag
  | words (runtime : Runtime) : IsNamed runtime runtime.words

theorem CompilerFamily.ofName_eq_iff {family : CompilerFamily} {name : String}
    (h : Text.Trimmed name) : ofName name = family ↔ family.IsNamed name := by
  unfold ofName
  rw [Text.trim_eq_self h]
  dsimp only
  constructor
  · rintro rfl
    split
    · next hname => exact hname ▸ .gcc
    split
    · next hname => exact hname ▸ .clang
    split
    · next hname => exact hname ▸ .appleClang
    split
    · next hname =>
      rcases hname with rfl | rfl
      · exact .visualStudio
      · exact .msvc
    · next hgcc hclang happle hmicrosoft =>
      rw [not_or] at hmicrosoft
      refine .unknown ?_
      simp only [List.mem_cons, List.not_mem_nil, or_false, not_or]
      exact ⟨hgcc, hclang, happle, hmicrosoft⟩
  · intro h
    cases h with
    | unknown hname =>
      simp only [List.mem_cons, List.not_mem_nil, or_false, not_or] at hname
      obtain ⟨hgcc, hclang, happle, hmicrosoft⟩ := hname
      rw [if_neg hgcc, if_neg hclang, if_neg happle, if_neg (not_or.2 hmicrosoft)]
    | _ => decide

theorem Runtime.parse?_eq_some_iff {runtime : Runtime} {name : String} (h : Text.Trimmed name) :
    parse? name = some runtime ↔ runtime.IsNamed name := by
  constructor
  · intro hparse
    have hname := List.find?_some hparse
    rw [Bool.or_eq_true, beq_iff_eq, beq_iff_eq, Text.trim_eq_self h] at hname
    rcases hname with rfl | rfl
    · exact .flag runtime
    · exact .words runtime
  · rintro (_ | _)
    · cases runtime <;> decide
    · cases runtime <;> decide

/-! ## Toolset numbers -/

namespace Version

/-- Each toolset with the release of Visual Studio that it belongs to. -/
def toolsetReleases : List (UInt64 × UInt64) :=
  [(190, 14), (191, 15), (192, 16), (193, 17), (194, 17)]

theorem visualStudio?_eq_some_iff {toolset version : Version} :
    toolset.visualStudio? = some version ↔
      ∃ release, (toolset.major, release) ∈ toolsetReleases ∧ .release release 0 0 = version := by
  unfold visualStudio?
  constructor
  · intro h
    split at h
    · next hmajor => exact ⟨14, by rw [hmajor]; decide, Option.some.inj h⟩
    split at h
    · next hmajor => exact ⟨15, by rw [hmajor]; decide, Option.some.inj h⟩
    split at h
    · next hmajor => exact ⟨16, by rw [hmajor]; decide, Option.some.inj h⟩
    split at h
    · next hmajor =>
      refine ⟨17, ?_, Option.some.inj h⟩
      rcases hmajor with hmajor | hmajor
      · rw [hmajor]
        decide
      · rw [hmajor]
        decide
    · cases h
  · rintro ⟨release, hrelease, rfl⟩
    simp only [toolsetReleases, List.mem_cons, List.not_mem_nil, or_false, Prod.mk.injEq]
      at hrelease
    rcases hrelease with ⟨hmajor, rfl⟩ | ⟨hmajor, rfl⟩ | ⟨hmajor, rfl⟩ | ⟨hmajor, rfl⟩ |
      ⟨hmajor, rfl⟩ <;> rw [hmajor] <;> rfl

theorem visualStudio?_eq_none_iff {toolset : Version} :
    toolset.visualStudio? = none ↔ toolset.major < 190 ∨ 194 < toolset.major := by
  unfold visualStudio?
  grind

end Version

namespace Settings

/-! ## The version of the compiler -/

/-- The text of a compiler's version stands for this version: under the name `msvc` for the release
that the toolset of this number belongs to, and under other names for what it spells. -/
inductive CountsAs (compiler text : String) : Version → Prop
  | release {toolset : Version} {release : UInt64} (hcompiler : compiler = "msvc")
      (htext : Version.ofShort? text = some toolset)
      (hrelease : (toolset.major, release) ∈ Version.toolsetReleases) :
      CountsAs compiler text (.release release 0 0)
  | spelled {version : Version} (hcompiler : compiler ≠ "msvc")
      (htext : Version.ofShort? text = some version) : CountsAs compiler text version

/-- Why the text of a compiler's version stands for none. -/
inductive Miscounts (compiler text : String) : SettingsError → Prop
  | unreadable (htext : Version.ofShort? text = none) :
      Miscounts compiler text (.invalidValue "compiler.version" text "not a version number")
  | unreleased {toolset : Version} (hcompiler : compiler = "msvc")
      (htext : Version.ofShort? text = some toolset)
      (hmajor : toolset.major < 190 ∨ 194 < toolset.major) :
      Miscounts compiler text (.invalidValue "compiler.version" text
        "not an msvc toolset version (190 to 194)")

variable {compiler text : String}

theorem compilerVersion_of_unreadable (htext : Version.ofShort? text = none) :
    compilerVersion compiler text =
      .error (.invalidValue "compiler.version" text "not a version number") := by
  unfold compilerVersion
  rw [htext]
  rfl

theorem compilerVersion_of_readable {version : Version}
    (htext : Version.ofShort? text = some version) :
    compilerVersion compiler text =
      if compiler = "msvc" then
        version.visualStudio?.elim
          (.error (.invalidValue "compiler.version" text
            "not an msvc toolset version (190 to 194)")) .ok
      else .ok version := by
  unfold compilerVersion
  rw [htext]
  show (if compiler = "msvc" then _ else _) = _
  cases version.visualStudio? <;> rfl

theorem compilerVersion_of_countsAs {version : Version} (h : CountsAs compiler text version) :
    compilerVersion compiler text = .ok version := by
  cases h with
  | release hcompiler htext hrelease =>
    have hreleased := Version.visualStudio?_eq_some_iff.2 ⟨_, hrelease, rfl⟩
    rw [compilerVersion_of_readable htext, if_pos hcompiler, hreleased]
    rfl
  | spelled hcompiler htext => rw [compilerVersion_of_readable htext, if_neg hcompiler]

theorem compilerVersion_of_miscounts {error : SettingsError} (h : Miscounts compiler text error) :
    compilerVersion compiler text = .error error := by
  cases h with
  | unreadable htext => exact compilerVersion_of_unreadable htext
  | unreleased hcompiler htext hmajor =>
    rw [compilerVersion_of_readable htext, if_pos hcompiler,
      Version.visualStudio?_eq_none_iff.2 hmajor]
    rfl

/-- Every text stands for a version or is refused for some reason. -/
theorem exists_countsAs_or_miscounts (compiler text : String) :
    (∃ version, CountsAs compiler text version) ∨ ∃ error, Miscounts compiler text error := by
  cases htext : Version.ofShort? text with
  | none => exact .inr ⟨_, .unreadable htext⟩
  | some version =>
    by_cases hcompiler : compiler = "msvc"
    · cases hrelease : version.visualStudio? with
      | none =>
        have hmajor := Version.visualStudio?_eq_none_iff.1 hrelease
        exact .inr ⟨_, .unreleased hcompiler htext hmajor⟩
      | some released =>
        obtain ⟨release, hmajor, -⟩ := Version.visualStudio?_eq_some_iff.1 hrelease
        exact .inl ⟨_, .release hcompiler htext hmajor⟩
    · exact .inl ⟨_, .spelled hcompiler htext⟩

/-! ## The runtime -/

/-- A profile asks for this runtime or for none. -/
inductive LinksWith (s : Settings) : Option Runtime → Prop
  | unset (h : s.value? .compilerRuntime = none) : LinksWith s none
  | named {name : String} {runtime : Runtime} (h : s.value? .compilerRuntime = some name)
      (hname : runtime.IsNamed name) : LinksWith s (some runtime)

/-- A profile asks for a runtime that there is not. -/
inductive Mislinks (s : Settings) : SettingsError → Prop
  | unnamed {name : String} (h : s.value? .compilerRuntime = some name)
      (hname : ∀ runtime : Runtime, ¬ runtime.IsNamed name) :
      Mislinks s (.invalidValue "compiler.runtime" name
        s!"invalid runtime '{name}'; expected MT, MTd, MD or MDd")

variable {s : Settings}

theorem runtime_of_linksWith (hs : s.Trimmed) {runtime : Option Runtime}
    (h : s.LinksWith runtime) : s.runtime = .ok runtime := by
  unfold Settings.runtime
  cases h with
  | unset h => rw [h]
  | named h hname =>
    rw [h]
    dsimp only
    rw [(Runtime.parse?_eq_some_iff (hs _ _ h)).2 hname]

theorem runtime_of_mislinks (hs : s.Trimmed) {error : SettingsError} (h : s.Mislinks error) :
    s.runtime = .error error := by
  unfold Settings.runtime
  cases h with
  | unnamed h hname =>
    have htrimmed := hs _ _ h
    have hparse : Runtime.parse? _ = none := Option.eq_none_iff_forall_ne_some.2 fun runtime hr =>
      hname runtime ((Runtime.parse?_eq_some_iff htrimmed).1 hr)
    rw [h]
    dsimp only
    rw [hparse]
    dsimp only
    unfold Runtime.refusal
    rw [Text.trim_eq_self htrimmed]
    rfl

theorem exists_linksWith_or_mislinks (s : Settings) :
    (∃ runtime, s.LinksWith runtime) ∨ ∃ error, s.Mislinks error := by
  cases h : s.value? .compilerRuntime with
  | none => exact .inl ⟨none, .unset h⟩
  | some name =>
    by_cases hname : ∃ runtime : Runtime, runtime.IsNamed name
    · obtain ⟨runtime, hname⟩ := hname
      exact .inl ⟨some runtime, .named h hname⟩
    · exact .inr ⟨_, .unnamed h (not_exists.1 hname)⟩

/-! ## The toolchain -/

/-- A profile describes no toolchain, for a reason that counts at this stage. -/
inductive FailsAt (s : Settings) : (stage : ℕ) → SettingsError → Prop
  | unnamed (hcompiler : s.value? .compiler = none) : FailsAt s 0 .missingCompiler
  | unversioned {compiler : String} (hcompiler : s.value? .compiler = some compiler)
      (htext : s.value? .compilerVersion = none) : FailsAt s 1 (.missingVersion compiler)
  | miscounts {compiler text : String} {error : SettingsError}
      (hcompiler : s.value? .compiler = some compiler)
      (htext : s.value? .compilerVersion = some text) (h : Miscounts compiler text error) :
      FailsAt s 2 error
  | mislinks {error : SettingsError} (h : s.Mislinks error) : FailsAt s 3 error

/-- A profile describes a toolchain by the name of its compiler and the text of its version. -/
structure Describes (s : Settings) (compiler text : String) (t : Toolchain) : Prop where
  compiler_eq : s.value? .compiler = some compiler
  text_eq : s.value? .compilerVersion = some text
  family : t.family.IsNamed compiler
  version : CountsAs compiler text t.version
  stdlib : t.stdlib = s.value? .compilerLibcxx
  runtime : s.LinksWith t.runtime

theorem toolchain_of_describes (hs : s.Trimmed) {t : Toolchain} (h : s.Describes compiler text t) :
    s.toolchain = .ok t := by
  have hfamily := (CompilerFamily.ofName_eq_iff (hs _ _ h.compiler_eq)).2 h.family
  refine toolchain_eq_ok_iff.2 ⟨compiler, text, t.version, t.runtime, h.compiler_eq, h.text_eq,
    compilerVersion_of_countsAs h.version, runtime_of_linksWith hs h.runtime, ?_⟩
  rw [hfamily, ← h.stdlib]

/-- The reason that counts first is the one that is given. -/
theorem toolchain_of_failsAt (hs : s.Trimmed) {stage : ℕ} {error : SettingsError}
    (h : s.FailsAt stage error)
    (hfirst : ∀ stage' error', s.FailsAt stage' error' → stage ≤ stage') :
    s.toolchain = .error error := by
  unfold toolchain
  cases h with
  | unnamed hcompiler =>
    rw [hcompiler]
    rfl
  | unversioned hcompiler htext =>
    rw [hcompiler, htext]
    rfl
  | miscounts hcompiler htext h =>
    rw [hcompiler, htext]
    dsimp only
    rw [compilerVersion_of_miscounts h]
    rfl
  | mislinks h =>
    -- everything before the runtime is in order
    have hlate {stage error} (hfails : s.FailsAt stage error) (hstage : stage < 3) : False :=
      absurd (hfirst stage error hfails) (by omega)
    cases hcompiler : s.value? .compiler with
    | none => exact (hlate (.unnamed hcompiler) (by decide)).elim
    | some compiler =>
      cases htext : s.value? .compilerVersion with
      | none => exact (hlate (.unversioned hcompiler htext) (by decide)).elim
      | some text =>
        obtain ⟨version, hversion⟩ | ⟨error, hversion⟩ :=
          exists_countsAs_or_miscounts compiler text
        · dsimp only
          rw [compilerVersion_of_countsAs hversion, runtime_of_mislinks hs h]
          rfl
        · exact (hlate (.miscounts hcompiler htext hversion) (by decide)).elim

theorem exists_describes_or_failsAt (hs : s.Trimmed) :
    (∃ t compiler text, s.Describes compiler text t) ∨ ∃ stage error, s.FailsAt stage error := by
  cases hcompiler : s.value? .compiler with
  | none => exact .inr ⟨0, _, .unnamed hcompiler⟩
  | some compiler =>
    cases htext : s.value? .compilerVersion with
    | none => exact .inr ⟨1, _, .unversioned hcompiler htext⟩
    | some text =>
      obtain ⟨version, hversion⟩ | ⟨error, hversion⟩ := exists_countsAs_or_miscounts compiler text
      · obtain ⟨runtime, hruntime⟩ | ⟨error, hruntime⟩ := s.exists_linksWith_or_mislinks
        · obtain ⟨family, hfamily⟩ : ∃ family, CompilerFamily.IsNamed family compiler :=
            ⟨_, (CompilerFamily.ofName_eq_iff (hs _ _ hcompiler)).1 rfl⟩
          have hdescribes : s.Describes compiler text
              ⟨family, version, s.value? .compilerLibcxx, runtime⟩ :=
            ⟨hcompiler, htext, hfamily, hversion, rfl, hruntime⟩
          exact .inl ⟨_, compiler, text, hdescribes⟩
        · exact .inr ⟨3, _, .mislinks hruntime⟩
      · exact .inr ⟨2, _, .miscounts hcompiler htext hversion⟩

/-- Where there is a reason there is one that counts first. -/
theorem FailsAt.exists_first {stage : ℕ} {error : SettingsError} (h : s.FailsAt stage error) :
    ∃ error' stage', s.FailsAt stage' error' ∧
      ∀ stage'' error'', s.FailsAt stage'' error'' → stage' ≤ stage'' := by
  obtain ⟨⟨stage', error'⟩, h', hfirst⟩ :
      ∃ i, IsFirst Prod.fst (fun i : ℕ × SettingsError => s.FailsAt i.1 i.2) i :=
    exists_isFirst ⟨(stage, error), h⟩
  exact ⟨error', stage', h', fun stage'' error'' h'' => hfirst (stage'', error'') h''⟩

/-- What a profile comes to: the toolchain that it describes, or the first reason why it describes
none. -/
theorem toolchain_eq_iff (hs : s.Trimmed) :
    (∀ t, s.toolchain = .ok t ↔ ∃ compiler text, s.Describes compiler text t) ∧
      ∀ error, s.toolchain = .error error ↔ ∃ stage, s.FailsAt stage error ∧
        ∀ stage' error', s.FailsAt stage' error' → stage ≤ stage' := by
  refine outcome_iff ?_ ?_ ?_
  · rintro t ⟨compiler, text, h⟩
    exact toolchain_of_describes hs h
  · rintro error ⟨stage, h, hfirst⟩
    exact toolchain_of_failsAt hs h hfirst
  · exact (exists_describes_or_failsAt hs).imp_right fun ⟨_, _, h⟩ => h.exists_first

/-- Of a profile, the name, the version, the standard library and the runtime of the compiler count,
and nothing else. -/
theorem toolchain_congr {s' : Settings} (h : ∀ key ∈ [SettingKey.compiler, .compilerVersion,
    .compilerLibcxx, .compilerRuntime], s'.value? key = s.value? key) :
    s'.toolchain = s.toolchain := by
  have hruntime : s'.runtime = s.runtime := by
    unfold Settings.runtime
    rw [h .compilerRuntime (by decide)]
  unfold toolchain
  rw [h .compiler (by decide), h .compilerVersion (by decide), h .compilerLibcxx (by decide),
    hruntime]

/-! ## Two names of one compiler -/

/-- The edits that turn a profile into one for this release of Visual Studio. -/
def toVisualStudio (release : UInt64) : List Edit :=
  [.set "compiler" "Visual Studio", .set "compiler.version" (toString release.toNat)]

theorem run_toVisualStudio (edits : List Edit) (release : UInt64) :
    run (edits ++ toVisualStudio release) empty =
      ((run edits empty).insert .compiler "Visual Studio").insert .compilerVersion
        (toString release.toNat) := by
  have hname : Text.Trimmed "Visual Studio" := Text.trimmed_of_trim_eq (by decide)
  have hnumber : Text.Trimmed (toString release.toNat) := Text.trimmed_of_not_blank
    fun _ hc => (Version.isNumber_toString release).isBlank_of_mem hc
  rw [run_append]
  unfold toVisualStudio
  rw [run_cons, run_cons, run, ← Edit.next_set (run edits empty) .compiler hname,
    ← Edit.next_set _ .compilerVersion hnumber]
  rfl

/-- Under its other name the compiler counts its releases. -/
theorem Describes.toVisualStudio {t : Toolchain} (h : s.Describes "msvc" text t) :
    ∃ release : UInt64, t.version = .release release 0 0 ∧
      ((s.insert .compiler "Visual Studio").insert .compilerVersion
        (toString release.toNat)).Describes "Visual Studio" (toString release.toNat) t := by
  obtain ⟨family, version, stdlib, runtime⟩ := t
  have hfamily : family.IsNamed "msvc" := h.family
  have hversion : CountsAs "msvc" text version := h.version
  have hruntime : s.LinksWith runtime := h.runtime
  have hmsvc : Text.Trimmed "msvc" := Text.trimmed_of_trim_eq (by decide)
  cases hversion with
  | spelled hcompiler _ => exact absurd rfl hcompiler
  | @release _ release _ _ _ =>
    have hnumber := Version.isNumber_toString release
    refine ⟨release, rfl, rfl, rfl, ?_, ?_, h.stdlib, ?_⟩
    · rw [← (CompilerFamily.ofName_eq_iff hmsvc).2 hfamily]
      exact .visualStudio
    · exact .spelled (by decide) (Version.IsShort.major hnumber).ofShort?_eq
    · cases hruntime with
      | unset hunset => exact .unset hunset
      | named hset hname => exact .named hset hname

end Settings

/-! ## Profiles and verdicts -/

/-- A profile that came about by edits fails for the first reason there is: it names no compiler, it
gives no version for it, the version is not a number or not that of a toolset, or the runtime is not
one of the four. If there is no reason, it describes a toolchain. A profile for `msvc` with a
toolchain describes the same one as for `Visual Studio` at the release of the toolset, and a request
with it is validated in the same way. Only four keys count for all of this. -/
theorem Settings.run_describes_toolchain (edits : List Edit) :
    let s := run edits empty
    (∀ error, s.toolchain = .error error ↔ ∃ stage, s.FailsAt stage error ∧
      ∀ stage' error', s.FailsAt stage' error' → stage ≤ stage') ∧
    (∀ t, s.toolchain = .ok t ↔ ∃ compiler text, s.Describes compiler text t) ∧
    ((∃ t, s.toolchain = .ok t) ↔ ∀ stage error, ¬ s.FailsAt stage error) ∧
    (∀ t, s.value? .compiler = some "msvc" → s.toolchain = .ok t →
      ∃ release : UInt64, t.version = .release release 0 0 ∧
        let s' := run (edits ++ toVisualStudio release) empty
        s'.toolchain = .ok t ∧
          ∀ (r : Request) (files : FileTree), r.settings = s →
            ({ r with settings := s' }.validate files).result = (r.validate files).result) ∧
    (∀ edits', let s' := run edits' empty
      (∀ key ∈ [SettingKey.compiler, .compilerVersion, .compilerLibcxx, .compilerRuntime],
        s'.value? key = s.value? key) → s'.toolchain = s.toolchain) := by
  intro s
  have hs : s.Trimmed := trimmed_run edits trimmed_empty
  obtain ⟨hok, herror⟩ := toolchain_eq_iff hs
  refine ⟨herror, hok, ?_, ?_, fun _ => toolchain_congr⟩
  · constructor
    · rintro ⟨t, ht⟩ stage error h
      obtain ⟨first, hfirst⟩ := h.exists_first
      rw [(herror first).2 hfirst] at ht
      cases ht
    · intro hnone
      obtain ⟨t, hdescribes⟩ | ⟨stage, error, h⟩ := exists_describes_or_failsAt hs
      · exact ⟨t, (hok t).2 hdescribes⟩
      · exact absurd h (hnone stage error)
  · intro t hcompiler ht
    obtain ⟨compiler, text, h⟩ := (hok t).1 ht
    obtain rfl : compiler = "msvc" := Option.some.inj (h.compiler_eq.symm.trans hcompiler)
    obtain ⟨release, hversion, h'⟩ := h.toVisualStudio
    have hs' : (run (edits ++ toVisualStudio release) empty).Trimmed :=
      trimmed_run _ trimmed_empty
    rw [← run_toVisualStudio] at h'
    have ht' := toolchain_of_describes hs' h'
    refine ⟨release, hversion, ht', fun r files hr => ?_⟩
    refine r.result_validate_congr files ?_ ?_
    · rw [hr, ht, ht']
    · rw [hr, run_toVisualStudio]
      rfl

-- the toolset of a release counts, and not its number
example :
    let profile := Settings.run [.set "compiler" " msvc", .set "compiler.version" "192.5"] .empty
    profile.toolchain = .ok { family := .msvc, version := .release 16 0 0 } := by
  rfl

end RecipeResolver
