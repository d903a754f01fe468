import Mathlib.Data.List.Induction
import RecipeResolver.Interchange.Resolution
import RecipeResolver.Proofs.Feature.Reachability
import RecipeResolver.Proofs.Recipe.Consistency
import RecipeResolver.Proofs.Recipe.Overrides

/-!
# The order of overrides

The flags of a pass are set one at a time, in any order, some of them again and again, and some
calls are refused. `OpenPass.afterCalls` is the pass after all of that. Where every flag is declared
once, two facts make the calls forget their order:

* each flag stands at the last value it was given, or else at its default (`flags_afterCalls`);
* the flags after the implications are determined by the names that are reached
  (`closure_flags_eq_of_reached`), so assignments with the same closure are one pass from then on.
-/

namespace RecipeResolver

/-! ## The last value of a flag -/

/-- The last value that these calls give to a name. -/
def lastGiven? (calls : List (String × Bool)) (name : String) : Option Bool :=
  (calls.reverse.find? fun call => call.1 == name).map Prod.snd

/-- The last call counts if it is about this name. -/
theorem lastGiven?_concat (calls : List (String × Bool)) (name name' : String) (value : Bool) :
    lastGiven? (calls ++ [(name, value)]) name' =
      if name = name' then some value else lastGiven? calls name' := by
  unfold lastGiven?
  rw [List.reverse_append, List.reverse_singleton, List.singleton_append]
  by_cases h : name = name'
  · rw [if_pos h, List.find?_cons_of_pos (by simp [h])]
    rfl
  · rw [if_neg h, List.find?_cons_of_neg (by simp [h])]

/-- A declared flag after these calls: at the last value it was given, or else at its default. -/
def FlagDeclaration.after (d : FlagDeclaration) (calls : List (String × Bool)) : Flag where
  name := d.name
  value := (lastGiven? calls d.name).getD d.byDefault
  byDefault := d.byDefault

/-- A call about another name leaves a flag as it is. -/
theorem FlagDeclaration.after_concat_of_ne {d : FlagDeclaration} {name : String}
    (h : d.name ≠ name) (calls : List (String × Bool)) (value : Bool) :
    d.after (calls ++ [(name, value)]) = d.after calls := by
  unfold FlagDeclaration.after
  rw [lastGiven?_concat, if_neg (Ne.symm h)]

/-- Among flags that are declared once, an assignment is one more call. -/
theorem assignFirst_after {declarations : List FlagDeclaration}
    (hnodup : (declarations.map (·.name)).Nodup) (calls : List (String × Bool)) (name : String)
    (value : Bool) : assignFirst name value (declarations.map (·.after calls)) =
      declarations.map (·.after (calls ++ [(name, value)])) := by
  induction declarations with
  | nil => rfl
  | cons d rest ih =>
    rw [List.map_cons, List.nodup_cons] at hnodup
    rw [List.map_cons, List.map_cons, assignFirst]
    by_cases h : (d.after calls).name = name
    · rw [if_pos h]
      have hhead : { d.after calls with value := value } = d.after (calls ++ [(name, value)]) := by
        unfold FlagDeclaration.after at h ⊢
        rw [lastGiven?_concat, if_pos h.symm]
        rfl
      -- the name is declared once, so the call is not about any of the others
      have hrest : rest.map (·.after calls) = rest.map (·.after (calls ++ [(name, value)])) := by
        refine List.map_congr_left fun d' hd' => ?_
        refine (FlagDeclaration.after_concat_of_ne ?_ calls value).symm
        intro hd'name
        have hmem : d'.name ∈ rest.map (·.name) := List.mem_map_of_mem hd'
        rw [hd'name, ← h] at hmem
        exact hnodup.1 hmem
      rw [hhead, hrest]
    · rw [if_neg h, ih hnodup.2, FlagDeclaration.after_concat_of_ne h]

/-- After any assignments each flag stands at the last value it was given, or else at its
default. -/
theorem assignEach_defaultFlags {schema : Schema} (h : schema.Consistent)
    (calls : List (String × Bool)) : assignEach calls schema.defaultFlags.flags =
      schema.features.map (·.after calls) := by
  induction calls using List.reverseRecOn with
  | nil => rfl
  | append_singleton calls call ih =>
    rw [assignEach_concat, ih, assignFirst_after h.features_nodup]

/-! ## Calls of a pass -/

namespace OpenPass

/-- The pass after a call of `set`; a call that is refused leaves it as it is. -/
def afterCall (p : OpenPass) (call : String × Bool) : OpenPass :=
  match p.set call.1 call.2 with
  | .ok changed => changed
  | .error _ => p

/-- The pass after these calls in turn. -/
def afterCalls (p : OpenPass) (calls : List (String × Bool)) : OpenPass :=
  calls.foldl afterCall p

variable (schema : Schema) (identity : Identity)

/-- One call is one assignment, also where it is refused. -/
theorem afterCall_assigned (entries : List (String × Bool)) (call : String × Bool) :
    (assigned schema identity entries).afterCall call =
      assigned schema identity (entries ++ [call]) := by
  unfold afterCall
  by_cases h : schema.declares call.1 = true
  · rw [set_assigned_of_declares schema identity entries h]
  · rw [Bool.not_eq_true] at h
    rw [set_assigned_of_not_declares schema identity entries h]
    exact (assigned_concat_of_not_declares schema identity entries h call.2).symm

theorem afterCalls_assigned (entries calls : List (String × Bool)) :
    (assigned schema identity entries).afterCalls calls =
      assigned schema identity (entries ++ calls) := by
  induction calls generalizing entries with
  | nil => rw [List.append_nil]; rfl
  | cons call rest ih =>
    show ((assigned schema identity entries).afterCall call).afterCalls rest = _
    rw [afterCall_assigned, ih, List.append_assoc, List.singleton_append]

/-- The calls on a new pass are assignments to the defaults. -/
theorem afterCalls_start (calls : List (String × Bool)) :
    (start schema identity).afterCalls calls = assigned schema identity calls :=
  afterCalls_assigned schema identity [] calls

/-- The flags of a pass before the implications. -/
theorem flags_afterCalls {schema : Schema} (h : schema.Consistent) (identity : Identity)
    (calls : List (String × Bool)) :
    ((start schema identity).afterCalls calls).flags.flags =
      schema.features.map (·.after calls) := by
  rw [afterCalls_start]
  exact assignEach_defaultFlags h calls

/-- A call on a name that is not declared is refused and changes nothing. -/
theorem afterCalls_refused {name : String} (h : schema.declares name = false)
    (calls : List (String × Bool)) (value : Bool) :
    ((start schema identity).afterCalls calls).set name value = .error (schema.refusal name) ∧
      (start schema identity).afterCalls (calls ++ [(name, value)]) =
        (start schema identity).afterCalls calls := by
  rw [afterCalls_start, afterCalls_start]
  exact ⟨set_assigned_of_not_declares schema identity calls h value,
    assigned_concat_of_not_declares schema identity calls h value⟩

/-- What comes of a pass when its toolchain is checked and it is resolved. -/
def outcome (p : OpenPass) (toolchain : Toolchain) (standard : Option Standard)
    (policy : UnknownCompilerPolicy) : Except CompatibilityError Resolution :=
  (p.normalize.validate toolchain standard policy).map ValidatedPass.resolve

end OpenPass

/-! ## Flags with the same closure -/

/-- Turning flags on changes neither names nor defaults. -/
theorem map_declared_turnOn (names : List String) (flags : List Flag) :
    (turnOn names flags).map (fun flag => (flag.name, flag.byDefault)) =
      flags.map fun flag => (flag.name, flag.byDefault) := by
  induction flags generalizing names with
  | nil => rfl
  | cons flag rest ih => rw [turnOn, List.map_cons, ih, List.map_cons]

/-- A name that no flag has is off. -/
theorem isEnabled_of_not_mem {flags : List Flag} {name : String}
    (h : name ∉ flags.map Flag.name) : isEnabled flags name = false := by
  rw [Bool.eq_false_iff]
  intro hon
  have hd := isDeclared_of_isEnabled hon
  rw [isDeclared_eq_contains, List.contains_iff_mem] at hd
  exact h hd

/-- The same flags, each declared once, of which the same ones are on, are equal. -/
theorem flags_eq_of_isEnabled {a b : List Flag} (hnodup : (a.map Flag.name).Nodup)
    (hsame : a.map (fun flag => (flag.name, flag.byDefault)) =
      b.map fun flag => (flag.name, flag.byDefault))
    (hon : ∀ name, isEnabled a name = isEnabled b name) : a = b := by
  induction a generalizing b with
  | nil => exact (List.map_eq_nil_iff.1 hsame.symm).symm
  | cons x a ih =>
    cases b with
    | nil => cases hsame
    | cons y b =>
      rw [List.map_cons, List.map_cons, List.cons.injEq, Prod.mk.injEq] at hsame
      obtain ⟨⟨hname, hdefault⟩, hrest⟩ := hsame
      rw [List.map_cons, List.nodup_cons] at hnodup
      have hnames : a.map Flag.name = b.map Flag.name := by
        have := congrArg (List.map Prod.fst) hrest
        rw [List.map_map, List.map_map] at this
        exact this
      have hx := isEnabled_of_not_mem hnodup.1
      have hy : isEnabled b x.name = false := isEnabled_of_not_mem (hnames ▸ hnodup.1)
      have hvalue : x.value = y.value := by
        have := hon x.name
        rw [isEnabled_cons, isEnabled_cons, hx, hy, hname] at this
        simpa using this
      have hhead : x = y := by
        cases x
        cases y
        simp_all
      subst hhead
      refine congrArg (x :: ·) (ih hnodup.2 hrest fun name => ?_)
      have := hon name
      by_cases h : x.name = name
      · subst h
        rw [hx, hy]
      · rw [isEnabled_cons, isEnabled_cons, beq_false_of_ne h] at this
        simpa using this

/-- Flags that are declared alike, each once, come out of the implications alike if the same names
are reached from them. -/
theorem closure_flags_eq_of_reached {rules : List Implication} {a b : List Flag}
    (hnodup : (a.map Flag.name).Nodup)
    (hsame : a.map (fun flag => (flag.name, flag.byDefault)) =
      b.map fun flag => (flag.name, flag.byDefault))
    (h : ∀ name, Reached rules a name ↔ Reached rules b name) :
    (closure rules a).flags = (closure rules b).flags := by
  have hdeclared (flags : List Flag) : (closure rules flags).flags.map
      (fun flag => (flag.name, flag.byDefault)) =
        flags.map fun flag => (flag.name, flag.byDefault) := by
    rw [(closure_propagation rules flags).1.after_eq, map_declared_turnOn]
  have hnames : (closure rules a).flags.map Flag.name = a.map Flag.name := by
    have := congrArg (List.map Prod.fst) (hdeclared a)
    rw [List.map_map, List.map_map] at this
    exact this
  refine flags_eq_of_isEnabled (hnames ▸ hnodup) ?_ ?_
  · rw [hdeclared, hdeclared, hsame]
  · intro name
    rw [Bool.eq_iff_iff, isEnabled_closure_iff, isEnabled_closure_iff, h]

namespace OpenPass

variable {schema : Schema} (identity : Identity) {a b : List (String × Bool)}

/-- The names that are on in a pass once the implications are applied. -/
def Closes (p : OpenPass) (name : String) : Prop :=
  Reached p.schema.implications p.flags.flags name

/-- Calls after which the same names are on, once the implications are applied, leave the same
normalized pass. -/
theorem normalize_afterCalls_eq (h : schema.Consistent)
    (hclosure : ∀ name, ((start schema identity).afterCalls a).Closes name ↔
      ((start schema identity).afterCalls b).Closes name) :
    ((start schema identity).afterCalls a).normalize =
      ((start schema identity).afterCalls b).normalize := by
  unfold Closes at hclosure
  rw [afterCalls_start, afterCalls_start] at hclosure ⊢
  have hnodup : ((assigned schema identity a).flags.flags.map Flag.name).Nodup := by
    rw [map_name_assigned]
    exact h.features_nodup
  have hdeclared (calls : List (String × Bool)) :
      (assigned schema identity calls).flags.flags.map (fun flag => (flag.name, flag.byDefault)) =
        schema.features.map fun d => (d.name, d.byDefault) := by
    show (assignEach calls schema.defaultFlags.flags).map _ = _
    rw [assignEach_defaultFlags h, List.map_map]
    rfl
  have hflags : (closure schema.implications (assigned schema identity a).flags.flags).flags =
      (closure schema.implications (assigned schema identity b).flags.flags).flags :=
    closure_flags_eq_of_reached hnodup ((hdeclared a).trans (hdeclared b).symm) hclosure
  exact congrArg (fun flags => NormalizedPass.mk schema identity ⟨flags⟩) hflags

/-- The order of overrides does not matter. In a schema that passes its check each flag stands
before the implications at the last value it was given, or else at its default; calls on names that
are not declared are refused and change nothing. Calls that leave the flags at the same values, or
that only reach the same names, come to the same outcome with every toolchain: both passes are
rejected with the same error, or both resolve alike and have the same fingerprint. -/
theorem outcome_eq_of_same_closure (hcheck : schema.check = .ok ())
    (h : (∀ d ∈ schema.features, (d.after a).value = (d.after b).value) ∨
      ∀ name, ((start schema identity).afterCalls a).Closes name ↔
        ((start schema identity).afterCalls b).Closes name) :
    (∀ calls name value, schema.declares name = false →
      ((start schema identity).afterCalls calls).set name value =
          .error (.unknown name schema.revision.name (schema.features.map (·.name))) ∧
        (start schema identity).afterCalls (calls ++ [(name, value)]) =
          (start schema identity).afterCalls calls) ∧
    (∀ calls, ((start schema identity).afterCalls calls).flags.flags =
      schema.features.map (·.after calls)) ∧
    ∀ toolchain standard policy,
      (∃ e,
        ((start schema identity).afterCalls a).outcome toolchain standard policy = .error e ∧
        ((start schema identity).afterCalls b).outcome toolchain standard policy = .error e) ∨
      ∃ c c',
        ((start schema identity).afterCalls a).outcome toolchain standard policy = .ok c ∧
        ((start schema identity).afterCalls b).outcome toolchain standard policy = .ok c' ∧
        c = c' ∧ c.fingerprint = c'.fingerprint := by
  have hconsistent := (Schema.check_eq_ok_iff schema).1 hcheck
  have hclosure : ∀ name, ((start schema identity).afterCalls a).Closes name ↔
      ((start schema identity).afterCalls b).Closes name := by
    rcases h with hvalues | hclosure
    · -- the same values are the same flags, so nothing is left to compare
      have hflags : schema.features.map (·.after a) = schema.features.map (·.after b) := by
        refine List.map_congr_left fun d hd => ?_
        exact congrArg (Flag.mk d.name · d.byDefault) (hvalues d hd)
      intro name
      unfold Closes
      rw [flags_afterCalls hconsistent, flags_afterCalls hconsistent, hflags, afterCalls_start,
        afterCalls_start]
      rfl
    · exact hclosure
  refine ⟨?_, ?_, ?_⟩
  · intro calls name value hname
    exact afterCalls_refused schema identity hname calls value
  · intro calls
    exact flags_afterCalls hconsistent identity calls
  · intro toolchain standard policy
    have hpass := normalize_afterCalls_eq identity hconsistent hclosure
    unfold outcome
    rw [hpass]
    cases (((start schema identity).afterCalls b).normalize.validate toolchain standard policy).map
        ValidatedPass.resolve with
    | error e => exact .inl ⟨e, rfl, rfl⟩
    | ok c => exact .inr ⟨c, c, rfl, rfl, rfl, rfl⟩

/-- The calls leave the second flag at different values, but the first one implies it. One of them
is refused. -/
theorem outcome_eq_of_implied_flag :
    let new := start Revision.v3.schema (.ofVersion "1.0.0")
    let p := new.afterCalls [("with_aws", true)]
    let q := new.afterCalls [("with_json_formatting", false), ("with_aws", false),
      ("with_cloud", true), ("with_json_formatting", true), ("with_aws", true)]
    Revision.v3.schema.check = .ok () ∧ p.flags ≠ q.flags ∧
      (∀ name, p.Closes name ↔ q.Closes name) ∧
      ∀ toolchain standard policy,
        (∃ e, p.outcome toolchain standard policy = .error e ∧
          q.outcome toolchain standard policy = .error e) ∨
        ∃ c c', p.outcome toolchain standard policy = .ok c ∧
          q.outcome toolchain standard policy = .ok c' ∧
          c = c' ∧ c.fingerprint = c'.fingerprint := by
  intro new p q
  have hclosure (name : String) : p.Closes name ↔ q.Closes name := by
    have hflags : (closure p.schema.implications p.flags.flags).flags =
        (closure q.schema.implications q.flags.flags).flags := by
      decide +kernel
    unfold Closes
    rw [← isEnabled_closure_iff, ← isEnabled_closure_iff, hflags]
  have hsame := outcome_eq_of_same_closure (.ofVersion "1.0.0") Revision.v3.check_schema
    (.inr hclosure)
  exact ⟨Revision.v3.check_schema, by decide, hclosure, hsame.2.2⟩

end OpenPass

end RecipeResolver
