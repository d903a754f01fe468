import RecipeResolver.CommandLine.Commands
import RecipeResolver.Proofs.Profile.Writes
import RecipeResolver.Proofs.Recipe.Acceptance
import RecipeResolver.Proofs.Resolution.OverrideOrder

/-!
# Four layers of a request

A request is made of a command line, of the configuration of the project, of the global one, and of
what holds by default. Revision and policy are replaced layer by layer, the profile is written over,
and option values are kept as a list in which later entries count. `ByPrecedence` says that all of
this comes to one rule: the first layer that says anything about a thing decides it.

`requestOf_eq_ok_iff` takes the steps of a request apart; the rest is about the values of flags.
-/

namespace RecipeResolver

/-! ## The last value of a flag -/

/-- The last value given to a flag is the last value of the list of calls. -/
theorem lastGiven?_eq_lastValue? (calls : List (String × Bool)) (name : String) :
    lastGiven? calls name = lastValue? some name calls := by
  unfold lastGiven? lastValue?
  induction calls.reverse with
  | nil => rfl
  | cons call rest ih =>
    by_cases h : call.1 = name
    · rw [List.find?_cons_of_pos (by simp [h]), List.findSome?_cons, Option.bind_some, if_pos h]
      rfl
    · rw [List.find?_cons_of_neg (by simp [h]), List.findSome?_cons, Option.bind_some, if_neg h]
      exact ih

/-- In a map each key has one value, so the last one is the one that is found. -/
theorem lastGiven?_entries (m : OrderedMap String Bool) (name : String) :
    lastGiven? m.entries name = m.find? name := by
  rw [lastGiven?_eq_lastValue?]
  cases hlast : lastValue? some name m.entries with
  | none =>
    rw [lastValue?_eq_none_iff] at hlast
    refine (Option.eq_none_iff_forall_ne_some.2 fun value hvalue => ?_).symm
    exact hlast (name, value) (OrderedMap.mem_entries_iff.2 hvalue) value rfl
  | some value =>
    unfold lastValue? at hlast
    obtain ⟨e, he, hvalue⟩ := List.exists_of_findSome?_eq_some hlast
    rw [Option.bind_some, Option.ite_none_right_eq_some] at hvalue
    obtain ⟨rfl, hvalue⟩ := hvalue
    rw [← Option.some.inj hvalue]
    exact (OrderedMap.mem_entries_iff.1 (List.mem_reverse.1 he)).symm

/-! ## The open pass of a request -/

namespace Request

/-- The pass of a request before the implications are applied: the defaults and then the options,
each in turn. -/
def openPass (r : Request) (identity : Identity) : Step OpenPass := do
  let pass ← r.defaults.foldlM applyDefault (.start r.revision.schema identity)
  r.options.foldlM applyOption pass

/-- The open pass fails with the first option that is not declared. -/
theorem result_openPass (r : Request) (identity : Identity) :
    (r.openPass identity).result =
      match (r.options.map Prod.fst).find? fun name => !r.revision.schema.declares name with
      | some name => .error (.of (.option (r.revision.schema.refusal name)))
      | none => .ok (.assigned r.revision.schema identity (r.defaults ++ r.options)) := by
  unfold openPass
  rw [Logged.result_bind]
  show (r.defaults.foldlM applyDefault
    (.assigned r.revision.schema identity [])).result.bind _ = _
  rw [result_applyDefaults]
  exact result_applyOptions r.revision.schema identity r.options r.defaults

/-- The open pass is the one that is normalized and validated. -/
theorem result_validatedPass_eq_bind (r : Request) (files : FileTree) :
    (r.validatedPass files).result =
      (r.revision.schema.identify files r.recipeFolder).bind fun identity =>
        r.toolchainStep.result.bind fun toolchain =>
          (orFail .setting r.settings.standard).result.bind fun standard =>
            (r.openPass identity).result.bind fun pass =>
              (orFail .compatibility
                (pass.normalize.validate toolchain standard r.policy)).result := by
  unfold validatedPass openPass
  simp only [Logged.result_bind, Logged.result_lift, Logged.result_say]
  refine congrArg (Except.bind _) (funext fun identity => ?_)
  refine congrArg (Except.bind _) (funext fun toolchain => ?_)
  refine congrArg (Except.bind _) (funext fun standard => ?_)
  cases (r.defaults.foldlM applyDefault
    (OpenPass.start r.revision.schema identity)).result <;> rfl

/-- There is an open pass if every option is declared. -/
theorem exists_openPass_iff (r : Request) (identity : Identity) :
    (∃ pass, (r.openPass identity).result = .ok pass) ↔
      ∀ entry ∈ r.options, r.revision.schema.declares entry.1 = true := by
  have hfind : ((r.options.map Prod.fst).find? fun name => !r.revision.schema.declares name) =
      none ↔ ∀ entry ∈ r.options, r.revision.schema.declares entry.1 = true := by
    rw [List.find?_eq_none, List.forall_mem_map]
    simp only [Bool.not_eq_true', Bool.not_eq_false]
  rw [result_openPass, ← hfind]
  cases (r.options.map Prod.fst).find? fun name => !r.revision.schema.declares name with
  | some name => simp
  | none => simp

/-- An accepted pass has the flags of the open one after the implications. -/
theorem flags_validatedPass {r : Request} {files : FileTree} {pass : ValidatedPass}
    (h : (r.validatedPass files).result = .ok pass) : ∃ identity opened,
      r.revision.schema.identify files r.recipeFolder = .ok identity ∧
        (r.openPass identity).result = .ok opened ∧ pass.flags = opened.normalize.flags := by
  rw [result_validatedPass_eq_bind, bind_eq_ok_iff] at h
  obtain ⟨identity, hidentity, h⟩ := h
  obtain ⟨toolchain, -, h⟩ := bind_eq_ok_iff.1 h
  obtain ⟨standard, -, h⟩ := bind_eq_ok_iff.1 h
  obtain ⟨opened, hopened, h⟩ := bind_eq_ok_iff.1 h
  rw [result_orFail, mapError_eq_ok_iff, validate_eq_map, map_eq_ok_iff] at h
  obtain ⟨warnings, -, rfl⟩ := h
  exact ⟨identity, opened, hidentity, hopened, rfl⟩

end Request

namespace CommandLine

/-! ## The steps of a request -/

/-- Each option of the command line is read and added to the list. -/
theorem foldlM_addOption_eq_ok_iff {inputs : List String} {r r' : Request} :
    inputs.foldlM addOption r = .ok r' ↔ ∃ entries, inputs.map parseAssignment = entries.map .ok ∧
      r' = { r with options := r.options ++ entries } := by
  induction inputs generalizing r with
  | nil =>
    show Except.ok r = .ok r' ↔ _
    constructor
    · intro h
      cases h
      exact ⟨[], rfl, by rw [List.append_nil]⟩
    · rintro ⟨entries, hentries, rfl⟩
      cases List.map_eq_nil_iff.1 hentries.symm
      rw [List.append_nil]
  | cons input rest ih =>
    rw [List.foldlM_cons]
    show (addOption r input).bind _ = _ ↔ _
    unfold addOption
    cases hinput : parseAssignment input with
    | error e =>
      constructor
      · intro h
        cases h
      · rintro ⟨entries, hentries, -⟩
        rw [List.map_cons, hinput] at hentries
        cases entries <;> simp at hentries
    | ok entry =>
      show rest.foldlM addOption { r with options := r.options ++ [entry] } = .ok r' ↔ _
      rw [ih]
      constructor
      · rintro ⟨entries, hentries, rfl⟩
        refine ⟨entry :: entries, ?_, ?_⟩
        · rw [List.map_cons, List.map_cons, hinput, hentries]
        · rw [List.append_assoc, List.singleton_append]
      · rintro ⟨entries, hentries, rfl⟩
        rw [List.map_cons, hinput] at hentries
        cases entries with
        | nil => simp at hentries
        | cons first entries =>
          rw [List.map_cons, List.cons.injEq, Except.ok.injEq] at hentries
          obtain ⟨rfl, hentries⟩ := hentries
          exact ⟨entries, hentries, by rw [List.append_assoc, List.singleton_append]⟩

/-- Each setting of the command line is written into the profile. -/
theorem foldlM_addSetting_eq_ok_iff {inputs : List String} {r r' : Request} :
    inputs.foldlM addSetting r = .ok r' ↔
      ∃ settings, inputs.foldlM Settings.assign r.settings = .ok settings ∧
        r' = { r with settings } := by
  induction inputs generalizing r with
  | nil =>
    show Except.ok r = .ok r' ↔ ∃ settings, Except.ok r.settings = .ok settings ∧ _
    constructor
    · intro h
      cases h
      exact ⟨_, rfl, rfl⟩
    · rintro ⟨settings, hsettings, rfl⟩
      cases hsettings
      rfl
  | cons input rest ih =>
    rw [List.foldlM_cons, List.foldlM_cons]
    show (addSetting r input).bind _ = _ ↔ ∃ settings, (r.settings.assign input).bind _ = _ ∧ _
    unfold addSetting
    cases r.settings.assign input with
    | error e =>
      constructor
      · intro h
        cases h
      · rintro ⟨settings, hsettings, -⟩
        cases hsettings
    | ok settings =>
      show rest.foldlM addSetting { r with settings } = .ok r' ↔ _
      rw [ih]
      exact Iff.rfl

/-- A command line makes a request if the configuration has a profile and if all its options and
settings can be read. The request holds what they say, and of the rest what the configuration says
or else the default. -/
theorem requestOf_eq_ok_iff {config : Config} {c : Common} {a : RecipeArguments} {r : Request} :
    requestOf config c a = .ok r ↔ ∃ profile entries settings, config.profile = .ok profile ∧
      a.options.map parseAssignment = entries.map .ok ∧
      a.settings.foldlM Settings.assign profile = .ok settings ∧
      r = { revision := c.revision.getD (config.revision.getD .latest)
            recipeFolder := c.recipeFolder
            defaults := config.options.entries
            options := entries
            settings
            policy := c.unknownCompiler.getD (config.unknownCompiler.getD .warn) } := by
  unfold requestOf Request.ofConfig
  cases config.profile with
  | error f =>
    constructor
    · intro h
      cases h
    · rintro ⟨profile, entries, settings, hprofile, -⟩
      cases hprofile
  | ok profile =>
    show (a.options.foldlM addOption _).bind _ = _ ↔ _
    rw [bind_eq_ok_iff]
    constructor
    · rintro ⟨r₁, hoptions, hsettings⟩
      obtain ⟨entries, hentries, rfl⟩ := foldlM_addOption_eq_ok_iff.1 hoptions
      obtain ⟨settings, hassigned, rfl⟩ := foldlM_addSetting_eq_ok_iff.1 hsettings
      exact ⟨profile, entries, settings, rfl, hentries, hassigned, rfl⟩
    · rintro ⟨profile', entries, settings, hprofile, hentries, hassigned, rfl⟩
      cases hprofile
      exact ⟨_, foldlM_addOption_eq_ok_iff.2 ⟨entries, hentries, rfl⟩,
        foldlM_addSetting_eq_ok_iff.2 ⟨settings, hassigned, rfl⟩⟩

/-! ## Layers -/

/-- The configuration of a command line: the project's over the global one, over nothing. -/
def layers (g p : Config) : Config :=
  (Config.empty.merge g).merge p

/-- The value that the last of these options gives to a flag; what is no option gives none. -/
def lastOption? (inputs : List String) (name : String) : Option Bool :=
  lastValue? (fun input => (parseAssignment input).toOption) name inputs

/-- The last option about a flag is the last entry about it. -/
theorem lastOption?_eq_lastGiven? {inputs : List String} {entries : List (String × Bool)}
    (h : inputs.map parseAssignment = entries.map .ok) (name : String) :
    lastOption? inputs name = lastGiven? entries name := by
  rw [lastGiven?_eq_lastValue?]
  refine lastValue?_congr name ?_
  have hread := congrArg (List.map Except.toOption) h
  rw [List.map_map, List.map_map] at hread
  exact hread

/-- The value of a declared flag in a request before the implications are applied: that of the last
option about it, or else that of the project, or else the global one, or else its default. -/
def flagValue (g p : Config) (inputs : List String) (d : FlagDeclaration) : Bool :=
  ((lastOption? inputs d.name).or ((p.options.find? d.name).or (g.options.find? d.name))).getD
    d.byDefault

/-- A request in which the first layer that says anything about a thing decides it: the command
line, then the project, then the global configuration, then the default. -/
structure ByPrecedence (g p : Config) (c : Common) (a : RecipeArguments) (r : Request) : Prop where
  revision : r.revision = (c.revision.or (p.revision.or g.revision)).getD .latest
  policy : r.policy =
    (c.unknownCompiler.or (p.unknownCompiler.or g.unknownCompiler)).getD .warn
  /-- The arguments write over the profile of the configuration. -/
  settings : ∃ profile, (layers g p).profile = .ok profile ∧ ∀ key, r.settings.value? key =
    (lastValue? Settings.argument? key a.settings).or (profile.value? key)
  /-- Whether the options are accepted is not up to the configurations. -/
  accepted : ∀ identity, (∃ pass, (r.openPass identity).result = .ok pass) ↔
    ∀ input ∈ a.options, ∀ entry, parseAssignment input = .ok entry →
      r.revision.schema.declares entry.1 = true
  flags : ∀ identity pass, (r.openPass identity).result = .ok pass →
    pass.flags.flags = r.revision.schema.features.map fun d =>
      { name := d.name, value := flagValue g p a.options d, byDefault := d.byDefault }
  /-- The flags of an accepted request are these ones after the implications. -/
  closed : ∀ files pass, (r.validatedPass files).result = .ok pass → ∃ identity opened,
    r.revision.schema.identify files r.recipeFolder = .ok identity ∧
      (r.openPass identity).result = .ok opened ∧ pass.flags = opened.normalize.flags

section

variable {g p : Config} {c : Common} {a : RecipeArguments} {r : Request}

theorem revision_layers : (layers g p).revision = p.revision.or g.revision := by
  show p.revision.or (g.revision.or none) = _
  rw [Option.or_none]

theorem unknownCompiler_layers :
    (layers g p).unknownCompiler = p.unknownCompiler.or g.unknownCompiler := by
  show p.unknownCompiler.or (g.unknownCompiler.or none) = _
  rw [Option.or_none]

/-- In both configurations together a flag has the value of the project, or else the global one. -/
theorem lastGiven?_layers (name : String) : lastGiven? (layers g p).options.entries name =
    (p.options.find? name).or (g.options.find? name) := by
  rw [lastGiven?_entries]
  show ((Config.empty.options.merge g.options).merge p.options).find? name = _
  rw [OrderedMap.find?_merge, OrderedMap.find?_merge]
  show (p.options.find? name).or ((g.options.find? name).or none) = _
  rw [Option.or_none]

/-- The flags of an open pass. -/
theorem flags_openPass (h : requestOf (layers g p) c a = .ok r) {identity : Identity}
    {pass : OpenPass} (hpass : (r.openPass identity).result = .ok pass) :
    pass.flags.flags = r.revision.schema.features.map fun d =>
      { name := d.name, value := flagValue g p a.options d, byDefault := d.byDefault } := by
  obtain ⟨profile, entries, settings, -, hentries, -, hr⟩ := requestOf_eq_ok_iff.1 h
  have hconsistent := (Schema.check_eq_ok_iff r.revision.schema).1 r.revision.check_schema
  have hafter : pass =
      .assigned r.revision.schema identity ((layers g p).options.entries ++ entries) := by
    rw [Request.result_openPass] at hpass
    split at hpass
    · cases hpass
    · rw [← Except.ok.inj hpass, hr]
  rw [hafter]
  show assignEach _ r.revision.schema.defaultFlags.flags = _
  rw [assignEach_defaultFlags hconsistent]
  refine List.map_congr_left fun d _ => ?_
  show Flag.mk d.name _ d.byDefault = Flag.mk d.name _ d.byDefault
  unfold flagValue
  rw [lastGiven?_eq_lastValue?, lastValue?_append, ← lastGiven?_eq_lastValue?,
    ← lastGiven?_eq_lastValue?, lastGiven?_layers, lastOption?_eq_lastGiven? hentries]

/-- Whether there is an open pass is up to the options of the command line. -/
theorem exists_openPass_iff_options (h : requestOf (layers g p) c a = .ok r) (identity : Identity) :
    (∃ pass, (r.openPass identity).result = .ok pass) ↔
      ∀ input ∈ a.options, ∀ entry, parseAssignment input = .ok entry →
        r.revision.schema.declares entry.1 = true := by
  obtain ⟨profile, entries, settings, -, hentries, -, hr⟩ := requestOf_eq_ok_iff.1 h
  have hmem (entry : String × Bool) :
      entry ∈ entries ↔ ∃ input ∈ a.options, parseAssignment input = .ok entry := by
    rw [← List.mem_map, hentries, List.mem_map]
    simp only [Except.ok.injEq, exists_eq_right]
  have hoptions : r.options = entries := congrArg Request.options hr
  rw [Request.exists_openPass_iff, hoptions]
  constructor
  · intro hdeclared input hinput entry hentry
    exact hdeclared entry ((hmem entry).2 ⟨input, hinput, hentry⟩)
  · intro hdeclared entry hentry
    obtain ⟨input, hinput, hparsed⟩ := (hmem entry).1 hentry
    exact hdeclared input hinput entry hparsed

/-- Command line, project, global configuration and defaults decide in this order. A request that a
command line makes has each thing from the first layer that says anything about it. The revision
that is shown is the one that is resolved, also where both configurations are read from files. -/
theorem requestOf_byPrecedence (h : requestOf (layers g p) c a = .ok r) :
    ByPrecedence g p c a r ∧ CommandLine.revision (layers g p) c = r.revision ∧
      ∀ e : Environment, Config.loadOrEmpty e.files (globalConfig e) = g →
        Config.loadOrEmpty e.files (projectConfig c) = p →
          (request e c a).result = .ok r ∧
            (optionsCommand e c).stdout = optionsText r.revision.schema := by
  obtain ⟨profile, entries, settings, hprofile, -, hassigned, hr⟩ := requestOf_eq_ok_iff.1 h
  have hrevision : r.revision = c.revision.getD ((layers g p).revision.getD .latest) :=
    congrArg Request.revision hr
  have hpolicy : r.policy = c.unknownCompiler.getD ((layers g p).unknownCompiler.getD .warn) :=
    congrArg Request.policy hr
  have hsettings : r.settings = settings := congrArg Request.settings hr
  have hshown : CommandLine.revision (layers g p) c = r.revision := by
    rw [CommandLine.revision, Option.getD_or, hrevision]
  refine ⟨⟨?_, ?_, ⟨profile, hprofile, ?_⟩, exists_openPass_iff_options h,
    fun identity pass => flags_openPass h, fun files pass => Request.flags_validatedPass⟩,
    hshown, ?_⟩
  · rw [hrevision, revision_layers, ← Option.getD_or]
  · rw [hpolicy, unknownCompiler_layers, ← Option.getD_or]
  · rw [hsettings]
    exact (Settings.foldlM_assign_eq_ok_iff.1 hassigned).2
  · rintro e rfl rfl
    -- the two files are read as the two layers
    have hconfig : config e c = layers (Config.loadOrEmpty e.files (globalConfig e))
        (Config.loadOrEmpty e.files (projectConfig c)) := rfl
    constructor
    · unfold request
      simp only [Logged.result_bind, Logged.result_say, Logged.result_lift, hconfig, h]
      rfl
    · unfold optionsCommand
      rw [hconfig, hshown]

/-- All four layers speak about the options, and each of the others about what the ones before it
leave open. -/
theorem requestOf_byPrecedence_of_four_layers :
    let g : Config :=
      { revision := some .v1, unknownCompiler := some .deny
        options := .ofList [("with_aws", true), ("with_json_formatting", true), ("with_gcp", true)]
        settings := .ofList [("os", "Linux"), ("compiler", "clang")] }
    let p : Config :=
      { revision := some .v3, options := .ofList [("with_aws", false)]
        settings := .ofList [("compiler", "gcc"), ("compiler.version", "9")] }
    let c : Common :=
      { verbose := false, revision := none, recipeFolder := ".", unknownCompiler := some .warn }
    let a : RecipeArguments :=
      { options := ["with_json_formatting=on", " with_json_formatting = no "]
        settings := ["compiler.version=10", " compiler.version = 12 "] }
    ∃ r, requestOf (layers g p) c a = .ok r ∧ r.revision = .v3 ∧ r.policy = .warn ∧
      r.settings.value? .os = some "Linux" ∧ r.settings.value? .compiler = some "gcc" ∧
      r.settings.value? .compilerVersion = some "12" ∧
      ∀ identity, ∃ pass, (r.openPass identity).result = .ok pass ∧
        pass.flags.flags =
          [⟨"with_aws", false, false⟩, ⟨"with_json_formatting", false, false⟩] := by
  intro g p c a
  have hok : (requestOf (layers g p) c a).toOption.isSome = true := by decide +kernel
  have hprofile : (layers g p).profile = .ok
      (((Settings.empty.insert .compiler "gcc").insert .compilerVersion "9").insert .os "Linux") :=
    rfl
  have hdeclared : ∀ input ∈ a.options, ((parseAssignment input).toOption.all fun entry =>
      Revision.v3.schema.declares entry.1) = true := by decide +kernel
  cases hr : requestOf (layers g p) c a with
  | error f =>
    rw [hr] at hok
    cases hok
  | ok r =>
    obtain ⟨hby, -, -⟩ := requestOf_byPrecedence hr
    obtain ⟨profile, hprofile', hvalue⟩ := hby.settings
    rw [hprofile] at hprofile'
    cases hprofile'
    have hrevision : r.revision = .v3 := hby.revision
    refine ⟨r, rfl, hrevision, hby.policy, ?_, ?_, ?_, fun identity => ?_⟩
    · rw [hvalue]
      decide +kernel
    · rw [hvalue]
      decide +kernel
    · rw [hvalue]
      decide +kernel
    · obtain ⟨pass, hpass⟩ := (hby.accepted identity).2 fun input hinput entry hentry => by
        have hall := hdeclared input hinput
        rw [hentry] at hall
        rw [hrevision]
        exact hall
      refine ⟨pass, hpass, ?_⟩
      rw [hby.flags identity pass hpass, hrevision]
      decide +kernel

end

end CommandLine

end RecipeResolver
