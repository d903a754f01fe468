import Mathlib.Data.List.Nodup
import Mathlib.Logic.Relation
import RecipeResolver.Feature.Closure
import RecipeResolver.Proofs.Feature.TurnOn

/-!
# The closure is reachability

`Reached rules flags name` says that a chain of rules leads from a flag that is on to `name`, over
declared flags only. `normalize` turns on what is reached and nothing else.

A pass over the rules, and a whole run of passes, are `Propagation`s: the flags afterwards are those
before with the names of the fired rules turned on, and each of these names was off and is reached.
Single firings compose to passes and passes to runs, so the loop is opened in two short inductions
and nowhere else.
-/

namespace RecipeResolver

/-- Some rule turns the declared flag `n` on when `m` is on. -/
def Forces (rules : List Implication) (flags : List Flag) (m n : String) : Prop :=
  ∃ r ∈ rules, r.trigger = m ∧ r.forced = n ∧ isDeclared flags n = true

/-- A chain of rules leads from a flag that is on to this name. -/
def Reached (rules : List Implication) (flags : List Flag) (name : String) : Prop :=
  ∃ first, isEnabled flags first = true ∧ Relation.ReflTransGen (Forces rules flags) first name

variable {rules : List Implication} {flags : List Flag}

/-! ## Chains of rules -/

/-- A flag that is on is reached by the chain without rules. -/
theorem Reached.of_isEnabled {name : String} (h : isEnabled flags name = true) :
    Reached rules flags name :=
  ⟨name, h, Relation.ReflTransGen.refl⟩

/-- A chain goes on with every rule whose trigger it has reached. -/
theorem Reached.force {r : Implication} (hr : r ∈ rules) (h : Reached rules flags r.trigger)
    (hd : isDeclared flags r.forced = true) : Reached rules flags r.forced := by
  obtain ⟨first, hfirst, hchain⟩ := h
  exact ⟨first, hfirst, hchain.tail ⟨r, hr, rfl, rfl, hd⟩⟩

/-- What holds of the flags that are on and is handed on by the rules holds of all that is reached:
reachability is the least property of this kind. -/
theorem Reached.of_closed {P : String → Prop} (hon : ∀ name, isEnabled flags name = true → P name)
    (hrule : ∀ r ∈ rules, isDeclared flags r.forced = true → P r.trigger → P r.forced)
    {name : String} (h : Reached rules flags name) : P name := by
  obtain ⟨first, hfirst, hchain⟩ := h
  induction hchain with
  | refl => exact hon first hfirst
  | tail _ hforces ih =>
    obtain ⟨r, hr, rfl, rfl, hd⟩ := hforces
    exact hrule r hr hd ih

/-- Only declared flags are reached. -/
theorem Reached.isDeclared {name : String} (h : Reached rules flags name) :
    isDeclared flags name = true := by
  refine h.of_closed (fun _ hon => isDeclared_of_isEnabled hon) ?_
  intro r _ hd _
  exact hd

/-- The order of the rules and their repetition do not matter. -/
theorem reached_congr {rules' : List Implication} (h : ∀ r, r ∈ rules' ↔ r ∈ rules)
    (name : String) : Reached rules' flags name ↔ Reached rules flags name := by
  have hforces : Forces rules' flags = Forces rules flags := by
    funext m n
    simp only [Forces, h]
  simp only [Reached, hforces]

/-- Turning on names that are reached anyway reaches no new ones. -/
theorem reached_turnOn {names : List String} (hnames : ∀ n ∈ names, Reached rules flags n)
    (name : String) : Reached rules (turnOn names flags) name ↔ Reached rules flags name := by
  constructor
  · intro h
    refine h.of_closed ?_ ?_
    · intro n hon
      -- what is on now was on before or is one of the names, which are reached by assumption
      rw [isEnabled_turnOn, Bool.or_eq_true, Bool.and_eq_true, List.contains_iff_mem] at hon
      rcases hon with hon | ⟨hmem, -⟩
      · exact .of_isEnabled hon
      · exact hnames n hmem
    · intro r hr hd ht
      rw [isDeclared_turnOn] at hd
      exact ht.force hr hd
  · intro h
    refine h.of_closed ?_ ?_
    · intro n hon
      refine .of_isEnabled ?_
      rw [isEnabled_turnOn, hon, Bool.true_or]
    · intro r hr hd ht
      refine ht.force hr ?_
      rw [isDeclared_turnOn, hd]

/-! ## Propagation -/

/-- A stretch of a run that goes from the flags `before` to the flags `after` by firing `fired`. -/
structure Propagation (rules : List Implication) (before : List Flag) (fired : List Implication)
    (after : List Flag) : Prop where
  after_eq : after = turnOn (fired.map Implication.forced) before
  reached : ∀ r ∈ fired, Reached rules before r.forced
  was_off : ∀ r ∈ fired, isEnabled before r.forced = false
  /-- No name is forced twice. -/
  distinct : (fired.map Implication.forced).Nodup

theorem Propagation.refl (rules : List Implication) (flags : List Flag) :
    Propagation rules flags [] flags where
  after_eq := (turnOn_nil flags).symm
  reached := by simp
  was_off := by simp
  distinct := by simp

/-- What a rule that fires finds. -/
theorem fires_iff {r : Implication} :
    r.fires flags = true ↔ isEnabled flags r.trigger = true ∧ isEnabled flags r.forced = false ∧
      isDeclared flags r.forced = true := by
  unfold Implication.fires
  rw [Bool.and_eq_true, Bool.and_eq_true, Bool.not_eq_true', and_assoc]

/-- One rule that fires. -/
theorem Propagation.single {r : Implication} (hr : r ∈ rules) (hf : r.fires flags = true) :
    Propagation rules flags [r] (assignFirst r.forced true flags) := by
  obtain ⟨htrigger, hoff, hd⟩ := fires_iff.1 hf
  refine ⟨assignFirst_true r.forced flags, ?_, ?_, List.nodup_singleton _⟩
  · intro r' hr'
    rw [List.mem_singleton.1 hr']
    exact (Reached.of_isEnabled htrigger).force hr hd
  · intro r' hr'
    rw [List.mem_singleton.1 hr']
    exact hoff

namespace Propagation

variable {before middle after : List Flag} {fired fired' : List Implication}

theorem isDeclared_eq (p : Propagation rules before fired after) (name : String) :
    isDeclared after name = isDeclared before name := by
  rw [p.after_eq, isDeclared_turnOn]

/-- Afterwards those names are on that were on before and those that were forced. -/
theorem isEnabled_iff (p : Propagation rules before fired after) (name : String) :
    isEnabled after name = true ↔
      isEnabled before name = true ∨ name ∈ fired.map Implication.forced := by
  rw [p.after_eq, isEnabled_turnOn, Bool.or_eq_true, Bool.and_eq_true, List.contains_iff_mem]
  refine or_congr_right ⟨And.left, fun hmem => ⟨hmem, ?_⟩⟩
  obtain ⟨r, hr, rfl⟩ := List.mem_map.1 hmem
  exact (p.reached r hr).isDeclared

theorem reached_iff (p : Propagation rules before fired after) (name : String) :
    Reached rules after name ↔ Reached rules before name := by
  rw [p.after_eq]
  refine reached_turnOn ?_ name
  intro n hn
  obtain ⟨r, hr, rfl⟩ := List.mem_map.1 hn
  exact p.reached r hr

/-- What is off afterwards was off before. -/
theorem off_of_off (p : Propagation rules before fired after) {name : String}
    (h : isEnabled after name = false) : isEnabled before name = false := by
  rw [Bool.eq_false_iff] at h ⊢
  exact fun hon => h ((p.isEnabled_iff name).2 (.inl hon))

theorem trans (p : Propagation rules before fired middle)
    (q : Propagation rules middle fired' after) :
    Propagation rules before (fired ++ fired') after where
  after_eq := by
    rw [q.after_eq, p.after_eq, turnOn_turnOn, List.map_append]
    refine turnOn_congr ?_ before
    intro name
    rw [List.mem_append, List.mem_append, or_comm]
  reached := by
    intro r hr
    rcases List.mem_append.1 hr with hr | hr
    · exact p.reached r hr
    · exact (p.reached_iff r.forced).1 (q.reached r hr)
  was_off := by
    intro r hr
    rcases List.mem_append.1 hr with hr | hr
    · exact p.was_off r hr
    · exact p.off_of_off (q.was_off r hr)
  distinct := by
    rw [List.map_append, List.nodup_append']
    refine ⟨p.distinct, q.distinct, ?_⟩
    -- a name of the first stretch is on in the middle, a name of the second one is off there
    intro name hmem hmem'
    have hon := (p.isEnabled_iff name).2 (.inr hmem)
    obtain ⟨r, hr, rfl⟩ := List.mem_map.1 hmem'
    rw [q.was_off r hr] at hon
    exact Bool.false_ne_true hon

end Propagation

/-- A pass over some of the rules propagates. -/
theorem sweep_propagation (rules : List Implication) {part : List Implication}
    (hpart : ∀ r ∈ part, r ∈ rules) (flags : List Flag) :
    Propagation rules flags (sweep part flags).2 (sweep part flags).1 := by
  induction part generalizing flags with
  | nil => exact .refl rules flags
  | cons r part ih =>
    have htail : ∀ r' ∈ part, r' ∈ rules := fun r' h => hpart r' (List.mem_cons_of_mem r h)
    by_cases hf : r.fires flags = true
    · have hfirst := Propagation.single (hpart r List.mem_cons_self) hf
      have hrest := ih htail (assignFirst r.forced true flags)
      simp only [sweep, hf, if_true]
      exact hfirst.trans hrest
    · simp only [sweep, hf, Bool.false_eq_true, if_false]
      exact ih htail flags

/-- A pass that fires nothing leaves nothing to fire. -/
theorem fires_of_sweep_idle {part : List Implication} (hidle : (sweep part flags).2 = []) :
    ∀ r ∈ part, r.fires flags = false := by
  induction part with
  | nil => simp
  | cons r part ih =>
    intro r' hr'
    by_cases hf : r.fires flags = true
    · simp [sweep, hf] at hidle
    · simp only [sweep, hf, Bool.false_eq_true, if_false] at hidle
      rcases List.mem_cons.1 hr' with rfl | hr'
      · exact Bool.eq_false_iff.2 hf
      · exact ih hidle r' hr'

/-! ## Whole runs -/

/-- What a run of passes ends with: it propagates, and no rule fires any more. -/
theorem closure_propagation (rules : List Implication) (flags : List Flag) :
    Propagation rules flags (closure rules flags).fired (closure rules flags).flags ∧
      ∀ r ∈ rules, r.fires (closure rules flags).flags = false := by
  induction flags using closure.induct rules with
  | case1 flags hidle =>
    -- the last pass: it fires nothing, so it has not touched the flags either
    rw [List.isEmpty_iff] at hidle
    have hpass := sweep_propagation rules (fun _ h => h) flags
    rw [hidle] at hpass
    have hsame : (sweep rules flags).1 = flags := by
      rw [hpass.after_eq]
      exact turnOn_nil flags
    rw [closure, if_pos (by rw [hidle]; rfl), hsame]
    exact ⟨.refl rules flags, fires_of_sweep_idle hidle⟩
  | case2 flags hbusy ih =>
    have hpass := sweep_propagation rules (fun _ h => h) flags
    rw [closure, if_neg hbusy]
    exact ⟨hpass.trans ih.1, ih.2⟩

/-- A run ends closed under every rule that forces a declared flag. -/
theorem closure_closed {r : Implication} (hr : r ∈ rules) (hd : isDeclared flags r.forced = true)
    (ht : isEnabled (closure rules flags).flags r.trigger = true) :
    isEnabled (closure rules flags).flags r.forced = true := by
  obtain ⟨hrun, hidle⟩ := closure_propagation rules flags
  have hf := hidle r hr
  by_contra hoff
  rw [Bool.not_eq_true] at hoff
  rw [← hrun.isDeclared_eq] at hd
  rw [fires_iff.2 ⟨ht, hoff, hd⟩] at hf
  exact Bool.false_ne_true hf.symm

/-- A run turns on what is reached. -/
theorem isEnabled_closure_iff (rules : List Implication) (flags : List Flag) (name : String) :
    isEnabled (closure rules flags).flags name = true ↔ Reached rules flags name := by
  have hrun := (closure_propagation rules flags).1
  constructor
  · intro hon
    exact (hrun.reached_iff name).1 (.of_isEnabled hon)
  · intro h
    refine h.of_closed (P := fun n => isEnabled (closure rules flags).flags n = true) ?_ ?_
    · intro n hon
      exact (hrun.isEnabled_iff n).2 (.inl hon)
    · intro r hr hd ht
      exact closure_closed hr hd ht

/-- The names that a run forces are those that are reached and were off. -/
theorem mem_fired_iff (rules : List Implication) (flags : List Flag) (name : String) :
    name ∈ (closure rules flags).fired.map Implication.forced ↔
      isEnabled flags name = false ∧ Reached rules flags name := by
  have hrun := (closure_propagation rules flags).1
  constructor
  · intro hmem
    obtain ⟨r, hr, rfl⟩ := List.mem_map.1 hmem
    exact ⟨hrun.was_off r hr, hrun.reached r hr⟩
  · rintro ⟨hoff, h⟩
    have hon := (hrun.isEnabled_iff name).1 ((isEnabled_closure_iff rules flags name).2 h)
    rw [hoff] at hon
    exact hon.resolve_left Bool.false_ne_true

/-- Where a flag stands after a run: it is turned on if it is the first one of a name that is
reached and was off, and it is left alone otherwise. -/
theorem getElem?_closure {i : Nat} {flag : Flag} (h : flags[i]? = some flag) :
    ∃ result, (closure rules flags).flags[i]? = some result ∧ result.name = flag.name ∧
      result.byDefault = flag.byDefault ∧
      (result.value = true ↔ flag.value = true ∨
        (isEnabled flags flag.name = false ∧ Reached rules flags flag.name) ∧
          isDeclared (flags.take i) flag.name = false) := by
  rw [(closure_propagation rules flags).1.after_eq, getElem?_turnOn, h]
  refine ⟨_, rfl, rfl, rfl, ?_⟩
  rw [Bool.or_eq_true, Bool.and_eq_true, Bool.not_eq_true', List.contains_iff_mem, mem_fired_iff]

/-- The outcome of a run depends on the set of the rules alone. -/
theorem closure_flags_congr {rules' : List Implication} (h : ∀ r, r ∈ rules' ↔ r ∈ rules)
    (flags : List Flag) : (closure rules' flags).flags = (closure rules flags).flags := by
  rw [(closure_propagation rules' flags).1.after_eq, (closure_propagation rules flags).1.after_eq]
  refine turnOn_congr ?_ flags
  intro name
  rw [mem_fired_iff, mem_fired_iff, reached_congr h]

/-- Normalizing turns on exactly what the rules reach from the flags that are on. It keeps the
flags, their order, names and defaults, turns none off, and of a name that comes on it changes the
first flag alone. The outcome is closed under the rules for declared flags, and depends neither on
their order nor on their repetition. -/
theorem normalize_least_fixed_point (s : FlagSet) (rules : List Implication) :
    (∀ name, (s.normalize rules).isEnabled name = true ↔ Reached rules s.flags name) ∧
      (s.normalize rules).flags.length = s.flags.length ∧
      (∀ i flag, s.flags[i]? = some flag → ∃ result, (s.normalize rules).flags[i]? = some result ∧
        result.name = flag.name ∧ result.byDefault = flag.byDefault ∧
        (result.value = true ↔ flag.value = true ∨
          (isEnabled s.flags flag.name = false ∧ Reached rules s.flags flag.name) ∧
            isDeclared (s.flags.take i) flag.name = false)) ∧
      (∀ r ∈ rules, isDeclared s.flags r.forced = true →
        (s.normalize rules).isEnabled r.trigger = true →
          (s.normalize rules).isEnabled r.forced = true) ∧
      (∀ rules', (∀ r, r ∈ rules' ↔ r ∈ rules) → s.normalize rules' = s.normalize rules) := by
  refine ⟨isEnabled_closure_iff rules s.flags, ?_, ?_, ?_, ?_⟩
  · show (closure rules s.flags).flags.length = s.flags.length
    rw [(closure_propagation rules s.flags).1.after_eq, length_turnOn]
  · intro i flag h
    exact getElem?_closure h
  · intro r hr hd ht
    exact closure_closed hr hd ht
  · intro rules' h
    exact congrArg NormalizedFlags.mk (closure_flags_congr h s.flags)

end RecipeResolver
