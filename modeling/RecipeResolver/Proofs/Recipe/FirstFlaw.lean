import Mathlib.Data.Prod.Lex
import RecipeResolver.Proofs.Recipe.Consistency
import RecipeResolver.Proofs.Report.First

/-!
# The flaw that is reported

A schema may have several flaws. `Schema.FlawAt` lists them, each with the clause that it breaks and
the entry at which it does. `Schema.check` reports the first one: what `flaw?` finds in a clause is
the first flaw of that clause (`Schema.picks_flaw?`), and clauses are tried in order.
-/

namespace RecipeResolver

/-- The flag that a condition speaks about. -/
def Condition.feature? : Condition → Option String
  | .always => none
  | .feature name => some name

namespace Schema

/-- A flag of this name is declared. -/
def Declares (s : Schema) (name : String) : Prop :=
  ∃ d ∈ s.features, d.name = name

theorem declares_eq_true_iff {s : Schema} {name : String} :
    s.declares name = true ↔ s.Declares name := by
  unfold declares feature? Declares
  rw [List.find?_isSome]
  simp only [beq_iff_eq]

theorem not_declares_iff (s : Schema) (name : String) :
    (!s.declares name) = true ↔ ¬ s.Declares name := by
  rw [Bool.not_eq_true', ← Bool.not_eq_true, declares_eq_true_iff]

theorem not_declares_both_iff (s : Schema) (name name' : String) :
    (!(s.declares name && s.declares name')) = true ↔ ¬ (s.Declares name ∧ s.Declares name') := by
  rw [Bool.not_eq_true', ← Bool.not_eq_true, Bool.and_eq_true, declares_eq_true_iff,
    declares_eq_true_iff]

/-- The conditions of the declarations: of the requirements, of the overrides, of the component and
of the defines. -/
def conditions (s : Schema) : List Condition :=
  s.requirements.map (·.condition) ++ s.overrides.map (·.condition) ++
    s.componentRequires.map (·.condition) ++ s.defines.map (·.condition)

theorem conditionFeatures_eq (s : Schema) :
    s.conditionFeatures = s.conditions.filterMap Condition.feature? := rfl

/-- The flaw of an entry, whatever other flaws there are. Clauses are numbered in the order in which
they are tried, and entries in the order in which they are declared. -/
inductive FlawAt (s : Schema) : (clause entry : ℕ) → Flaw → Prop
  /-- The name of the entry is the name of an earlier one. -/
  | repeatedFeature {entry : ℕ} {name : String}
      (hentry : (s.features.map (·.name))[entry]? = some name)
      (hearlier : name ∈ (s.features.map (·.name)).take entry) :
      FlawAt s 0 entry (.repeatedFeature name)
  /-- The package of the entry is the package of an earlier one. -/
  | repeatedRequirement {entry : ℕ} {package : String}
      (hentry : (s.requirements.map (·.value.name))[entry]? = some package)
      (hearlier : package ∈ (s.requirements.map (·.value.name)).take entry) :
      FlawAt s 1 entry (.repeatedRequirement package)
  | undeclaredCondition {entry : ℕ} {name : String}
      (hentry : s.conditions[entry]? = some (.feature name)) (hname : ¬ s.Declares name) :
      FlawAt s 2 entry (.undeclaredCondition name)
  | undeclaredImplication {entry : ℕ} {rule : Implication}
      (hentry : s.implications[entry]? = some rule)
      (hrule : ¬ (s.Declares rule.trigger ∧ s.Declares rule.forced)) :
      FlawAt s 3 entry (.undeclaredImplication rule)
  | undeclaredVariable {entry : ℕ} {v : CacheVariable}
      (hentry : s.cacheVariables[entry]? = some v) (hfeature : ¬ s.Declares v.feature) :
      FlawAt s 4 entry (.undeclaredVariable v.name v.feature)

theorem FlawAt.clause_le {s : Schema} {clause entry : ℕ} {flaw : Flaw}
    (h : s.FlawAt clause entry flaw) : clause ≤ 4 := by
  cases h <;> decide

/-! ## The first entry of a list -/

/-- The first text that stands a second time was seen before, or stands earlier in the list, and no
text before it does. -/
theorem firstRepeated?_eq_some_iff {seen texts : List String} {s : String} :
    firstRepeated? seen texts = some s ↔ ∃ n, (texts[n]? = some s ∧
      (s ∈ seen ∨ s ∈ texts.take n)) ∧
        ∀ m < n, ∀ t, ¬ (texts[m]? = some t ∧ (t ∈ seen ∨ t ∈ texts.take m)) := by
  induction texts generalizing seen with
  | nil => simp [firstRepeated?]
  | cons t rest ih =>
    unfold firstRepeated?
    by_cases ht : t ∈ seen
    · rw [if_pos (List.contains_iff_mem.2 ht)]
      constructor
      · intro h
        obtain rfl := Option.some.inj h
        exact ⟨0, ⟨rfl, .inl ht⟩, fun m hm => absurd hm (Nat.not_lt_zero m)⟩
      · rintro ⟨n, ⟨hn, -⟩, hfirst⟩
        cases n with
        | zero => exact hn
        | succ n => exact absurd ⟨rfl, .inl ht⟩ (hfirst 0 (Nat.succ_pos n) t)
    · rw [if_neg fun h => ht (List.contains_iff_mem.1 h), ih]
      -- seen before an entry of the rest is what was seen before the list, and its head
      have hseen (n : ℕ) (u : String) :
          (u ∈ t :: seen ∨ u ∈ rest.take n) ↔ (u ∈ seen ∨ u ∈ (t :: rest).take (n + 1)) := by
        rw [List.take_succ_cons, List.mem_cons, List.mem_cons, or_assoc, or_left_comm]
      simp only [hseen]
      constructor
      · rintro ⟨n, hs, hfirst⟩
        refine ⟨n + 1, hs, fun m hm u hu => ?_⟩
        cases m with
        | zero =>
          obtain rfl := Option.some.inj hu.1
          exact hu.2.elim ht List.not_mem_nil
        | succ m => exact hfirst m (Nat.lt_of_succ_lt_succ hm) u hu
      · rintro ⟨n, hs, hfirst⟩
        cases n with
        | zero =>
          obtain rfl := Option.some.inj hs.1
          exact (hs.2.elim ht List.not_mem_nil).elim
        | succ n => exact ⟨n, hs, fun m hm u hu => hfirst (m + 1) (Nat.succ_lt_succ hm) u hu⟩

/-- What is said about the first text that stands a second time. -/
theorem map_firstRepeated?_eq_some_iff {β : Type} {tells : String → β} {texts : List String}
    {b : β} :
    (firstRepeated? [] texts).map tells = some b ↔
      ∃ n : ℕ, (∃ t, (texts[n]? = some t ∧ t ∈ texts.take n) ∧ tells t = b) ∧
        ∀ m < n, ∀ b', ¬ ∃ t, (texts[m]? = some t ∧ t ∈ texts.take m) ∧ tells t = b' := by
  simp only [Option.map_eq_some_iff, firstRepeated?_eq_some_iff, List.not_mem_nil, false_or]
  constructor
  · rintro ⟨t, ⟨n, ht, hfirst⟩, hb⟩
    exact ⟨n, ⟨t, ht, hb⟩, fun m hm b' ⟨u, hu, _⟩ => hfirst m hm u hu⟩
  · rintro ⟨n, ⟨t, ht, hb⟩, hfirst⟩
    exact ⟨t, ⟨n, ht, fun m hm u hu => hfirst m hm (tells u) ⟨u, hu, rfl⟩⟩, hb⟩

/-- What is said about the first entry with a property, if something is said about each such
entry. -/
theorem bind_find?_eq_some_iff {α β : Type} {l : List α} {p : α → Bool} {tells : α → Option β}
    (htells : ∀ a, p a = true → ∃ b, tells a = some b) {b : β} :
    (l.find? p).bind tells = some b ↔
      ∃ n : ℕ, (∃ a, l[n]? = some a ∧ p a = true ∧ tells a = some b) ∧
        ∀ m < n, ∀ b', ¬ ∃ a, l[m]? = some a ∧ p a = true ∧ tells a = some b' := by
  rw [Option.bind_eq_some_iff]
  constructor
  · rintro ⟨a, ha, hb⟩
    obtain ⟨hp, n, hlt, rfl, hfirst⟩ := List.find?_eq_some_iff_getElem.1 ha
    refine ⟨n, ⟨l[n], List.getElem?_eq_getElem hlt, hp, hb⟩, ?_⟩
    rintro m hm b' ⟨a', ha', hp', -⟩
    obtain ⟨hmlt, rfl⟩ := List.getElem?_eq_some_iff.1 ha'
    have := hfirst m hm
    rw [hp'] at this
    cases this
  · rintro ⟨n, ⟨a, ha, hp, hb⟩, hfirst⟩
    obtain ⟨hlt, rfl⟩ := List.getElem?_eq_some_iff.1 ha
    refine ⟨l[n], List.find?_eq_some_iff_getElem.2 ⟨hp, n, hlt, rfl, fun m hm => ?_⟩, hb⟩
    rw [Bool.not_eq_true', Bool.eq_false_iff]
    intro hp'
    -- something would be said about this earlier entry
    obtain ⟨b', hb'⟩ := htells _ hp'
    exact hfirst m hm b' ⟨_, List.getElem?_eq_getElem _, hp', hb'⟩

/-! ## Clause by clause -/

/-- What a schema's flaws of one clause are, each with its place. -/
abbrev FlawsOf (s : Schema) (clause : ℕ) (i : (ℕ ×ₗ ℕ) × Flaw) : Prop :=
  ∃ entry, i.1 = toLex (clause, entry) ∧ s.FlawAt clause entry i.2

variable {s : Schema} {clause : ℕ} {report : Option Flaw}

/-- In one clause, the first flaw is the one at the least entry. -/
theorem picks_clause (h : ∀ flaw, report = some flaw ↔
      ∃ n, s.FlawAt clause n flaw ∧ ∀ m < n, ∀ flaw', ¬ s.FlawAt clause m flaw') :
    Picks Prod.fst Prod.snd (s.FlawsOf clause) report := by
  intro flaw
  rw [h]
  constructor
  · rintro ⟨n, hflaw, hfirst⟩
    refine ⟨(toLex (clause, n), flaw), ⟨⟨n, rfl, hflaw⟩, ?_⟩, rfl⟩
    rintro ⟨_, flaw'⟩ ⟨m, rfl, hflaw'⟩
    refine Prod.Lex.toLex_le_toLex.2 (.inr ⟨rfl, not_lt.1 fun hm => ?_⟩)
    exact hfirst m hm flaw' hflaw'
  · rintro ⟨⟨_, flaw⟩, ⟨⟨n, rfl, hflaw⟩, hfirst⟩, rfl⟩
    refine ⟨n, hflaw, fun m hm flaw' hflaw' => ?_⟩
    have hle := hfirst (toLex (clause, m), flaw') ⟨m, rfl, hflaw'⟩
    rcases Prod.Lex.toLex_le_toLex.1 hle with hlt | ⟨-, hnm⟩
    · exact lt_irrefl _ hlt
    · exact absurd hm (not_lt.2 hnm)

/-- A clause against repetitions is about the first text that stands a second time. -/
theorem picks_repeated {texts : List String} {tells : String → Flaw}
    (hflawAt : ∀ n flaw, s.FlawAt clause n flaw ↔
      ∃ t, (texts[n]? = some t ∧ t ∈ texts.take n) ∧ tells t = flaw) :
    Picks Prod.fst Prod.snd (s.FlawsOf clause) ((firstRepeated? [] texts).map tells) := by
  refine picks_clause fun flaw => ?_
  simp only [hflawAt]
  exact map_firstRepeated?_eq_some_iff

/-- A clause about each entry of a list is about the first one that breaks it. -/
theorem picks_found {α : Type} {l : List α} {p : α → Bool} {tells : α → Option Flaw}
    (htells : ∀ a, p a = true → ∃ flaw, tells a = some flaw)
    (hflawAt : ∀ n flaw, s.FlawAt clause n flaw ↔
      ∃ a, l[n]? = some a ∧ p a = true ∧ tells a = some flaw) :
    Picks Prod.fst Prod.snd (s.FlawsOf clause) ((l.find? p).bind tells) := by
  refine picks_clause fun flaw => ?_
  simp only [hflawAt]
  exact bind_find?_eq_some_iff htells

theorem picks_repeatedFeature (s : Schema) : Picks Prod.fst Prod.snd (s.FlawsOf 0)
    ((firstRepeated? [] (s.features.map (·.name))).map .repeatedFeature) := by
  refine picks_repeated fun n flaw => ⟨fun h => ?_, ?_⟩
  · cases h with
    | repeatedFeature hentry hearlier => exact ⟨_, ⟨hentry, hearlier⟩, rfl⟩
  · rintro ⟨name, ⟨hentry, hearlier⟩, rfl⟩
    exact .repeatedFeature hentry hearlier

theorem picks_repeatedRequirement (s : Schema) : Picks Prod.fst Prod.snd (s.FlawsOf 1)
    ((firstRepeated? [] (s.requirements.map (·.value.name))).map .repeatedRequirement) := by
  refine picks_repeated fun n flaw => ⟨fun h => ?_, ?_⟩
  · cases h with
    | repeatedRequirement hentry hearlier => exact ⟨_, ⟨hentry, hearlier⟩, rfl⟩
  · rintro ⟨package, ⟨hentry, hearlier⟩, rfl⟩
    exact .repeatedRequirement hentry hearlier

theorem picks_undeclaredCondition (s : Schema) : Picks Prod.fst Prod.snd (s.FlawsOf 2)
    ((s.conditionFeatures.find? fun name => !s.declares name).map .undeclaredCondition) := by
  -- the entries are the conditions, those that always hold among them, and not the flags
  rw [conditionFeatures_eq, List.find?_filterMap, Option.map_bind]
  refine picks_found (fun c hc => ?_) fun n flaw => ⟨fun h => ?_, ?_⟩
  · cases c with
    | always => cases hc
    | feature name => exact ⟨_, rfl⟩
  · cases h with
    | undeclaredCondition hentry hname => exact ⟨_, hentry, (s.not_declares_iff _).2 hname, rfl⟩
  · rintro ⟨c, hentry, hname, hflaw⟩
    cases c with
    | always => cases hflaw
    | feature name =>
      obtain rfl := Option.some.inj hflaw
      exact .undeclaredCondition hentry ((s.not_declares_iff name).1 hname)

theorem picks_undeclaredImplication (s : Schema) : Picks Prod.fst Prod.snd (s.FlawsOf 3)
    ((s.implications.find? fun rule =>
      !(s.declares rule.trigger && s.declares rule.forced)).map .undeclaredImplication) := by
  rw [Option.map_eq_bind]
  refine picks_found (fun _ _ => ⟨_, rfl⟩) fun n flaw => ⟨fun h => ?_, ?_⟩
  · cases h with
    | undeclaredImplication hentry hrule =>
      exact ⟨_, hentry, (s.not_declares_both_iff _ _).2 hrule, rfl⟩
  · rintro ⟨rule, hentry, hrule, hflaw⟩
    obtain rfl := Option.some.inj hflaw
    exact .undeclaredImplication hentry ((s.not_declares_both_iff _ _).1 hrule)

theorem picks_undeclaredVariable (s : Schema) : Picks Prod.fst Prod.snd (s.FlawsOf 4)
    ((s.cacheVariables.find? fun v => !s.declares v.feature).map fun v =>
      .undeclaredVariable v.name v.feature) := by
  rw [Option.map_eq_bind]
  refine picks_found (fun _ _ => ⟨_, rfl⟩) fun n flaw => ⟨fun h => ?_, ?_⟩
  · cases h with
    | undeclaredVariable hentry hfeature =>
      exact ⟨_, hentry, (s.not_declares_iff _).2 hfeature, rfl⟩
  · rintro ⟨v, hentry, hfeature, hflaw⟩
    obtain rfl := Option.some.inj hflaw
    exact .undeclaredVariable hentry ((s.not_declares_iff _).1 hfeature)

/-! ## All clauses -/

/-- The flaws of a clause and of the clauses after it, each with its place. -/
def FlawsFrom (s : Schema) (clause : ℕ) (i : (ℕ ×ₗ ℕ) × Flaw) : Prop :=
  ∃ clause' entry, clause ≤ clause' ∧ i.1 = toLex (clause', entry) ∧ s.FlawAt clause' entry i.2

/-- The flaws of a clause come before those of the clauses after it. -/
theorem picks_flawsFrom {report' : Option Flaw}
    (h : Picks Prod.fst Prod.snd (s.FlawsOf clause) report)
    (h' : Picks Prod.fst Prod.snd (s.FlawsFrom (clause + 1)) report') :
    Picks Prod.fst Prod.snd (s.FlawsFrom clause) (report.or report') := by
  refine (h.or h' ?_).congr fun i => ?_
  · rintro ⟨_, _⟩ ⟨_, _⟩ ⟨entry, rfl, -⟩ ⟨clause', entry', hclause, rfl, -⟩
    exact Prod.Lex.toLex_lt_toLex.2 (.inl hclause)
  · constructor
    · rintro (⟨entry, hplace, hflaw⟩ | ⟨clause', entry, hclause, hplace, hflaw⟩)
      · exact ⟨clause, entry, le_rfl, hplace, hflaw⟩
      · exact ⟨clause', entry, Nat.le_of_succ_le hclause, hplace, hflaw⟩
    · rintro ⟨clause', entry, hclause, hplace, hflaw⟩
      obtain rfl | hclause := Nat.eq_or_lt_of_le hclause
      · exact .inl ⟨entry, hplace, hflaw⟩
      · exact .inr ⟨clause', entry, hclause, hplace, hflaw⟩

/-- What is found is the first of all flaws. -/
theorem picks_flaw? (s : Schema) : Picks Prod.fst Prod.snd (s.FlawsFrom 0) s.flaw? := by
  -- no clause comes after the one about variables
  have hlast : Picks Prod.fst Prod.snd (s.FlawsFrom 4) _ :=
    s.picks_undeclaredVariable.congr fun ⟨place, flaw⟩ => by
      constructor
      · rintro ⟨entry, hplace, hflaw⟩
        exact ⟨4, entry, le_rfl, hplace, hflaw⟩
      · rintro ⟨clause, entry, hclause, hplace, hflaw⟩
        obtain rfl : clause = 4 := hflaw.clause_le.antisymm hclause
        exact ⟨entry, hplace, hflaw⟩
  exact picks_flawsFrom s.picks_repeatedFeature <|
    picks_flawsFrom s.picks_repeatedRequirement <|
      picks_flawsFrom s.picks_undeclaredCondition <|
        picks_flawsFrom s.picks_undeclaredImplication hlast

/-- Which flaw is found, with its place spelled out. -/
theorem flaw?_eq_some_iff {flaw : Flaw} : s.flaw? = some flaw ↔
    ∃ clause entry, s.FlawAt clause entry flaw ∧ ∀ clause' entry' flaw',
      s.FlawAt clause' entry' flaw' → clause < clause' ∨ clause = clause' ∧ entry ≤ entry' := by
  rw [s.picks_flaw? flaw]
  constructor
  · rintro ⟨⟨_, flaw⟩, ⟨⟨clause, entry, -, rfl, hat⟩, hfirst⟩, rfl⟩
    refine ⟨clause, entry, hat, fun clause' entry' flaw' hat' => ?_⟩
    have hle := hfirst (toLex (clause', entry'), flaw')
      ⟨clause', entry', Nat.zero_le _, rfl, hat'⟩
    exact Prod.Lex.toLex_le_toLex.1 hle
  · rintro ⟨clause, entry, hat, hfirst⟩
    refine ⟨(toLex (clause, entry), flaw), ⟨⟨clause, entry, Nat.zero_le _, rfl, hat⟩, ?_⟩, rfl⟩
    rintro ⟨_, flaw'⟩ ⟨clause', entry', -, rfl, hat'⟩
    exact Prod.Lex.toLex_le_toLex.2 (hfirst clause' entry' flaw' hat')

theorem check_eq_error_iff {message : String} :
    s.check = .error message ↔ ∃ flaw, s.flaw? = some flaw ∧ flaw.message s.revision = message := by
  unfold check
  cases s.flaw? <;> simp

/-- The conditions of all declarations are about declared flags if those of each list are. -/
theorem conditionFeatures_declared_iff (s : Schema) :
    (∀ name ∈ s.conditionFeatures, s.declares name = true) ↔
      (∀ d ∈ s.requirements, ∀ name, d.condition = .feature name → s.Declares name) ∧
        (∀ d ∈ s.overrides, ∀ name, d.condition = .feature name → s.Declares name) ∧
        (∀ d ∈ s.componentRequires, ∀ name, d.condition = .feature name → s.Declares name) ∧
        (∀ d ∈ s.defines, ∀ name, d.condition = .feature name → s.Declares name) := by
  have hfeature (c : Condition) (name : String) : c.feature? = some name ↔ c = .feature name := by
    cases c <;> simp [Condition.feature?]
  have hlist {α : Type} (l : List (Conditional α)) :
      (∀ name, .feature name ∈ l.map (·.condition) → s.Declares name) ↔
        ∀ d ∈ l, ∀ name, d.condition = .feature name → s.Declares name := by
    constructor
    · exact fun h d hd name hname => h name (List.mem_map.2 ⟨d, hd, hname⟩)
    · intro h name hname
      obtain ⟨d, hd, hname⟩ := List.mem_map.1 hname
      exact h d hd name hname
  simp only [conditionFeatures_eq, conditions, List.mem_filterMap, hfeature, exists_eq_right,
    declares_eq_true_iff, List.mem_append, or_imp, forall_and, and_assoc, hlist]

end Schema

end RecipeResolver
