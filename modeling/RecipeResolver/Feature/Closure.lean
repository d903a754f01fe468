import RecipeResolver.Feature.Flag

/-!
# Closing flags under implications

An implication turns a flag on when another one is on. `closure` goes through the rules again and
again until a pass turns nothing on. Each rule that fires turns one flag from off to on, so the
number of flags that are off bounds the passes.
-/

namespace RecipeResolver

/-- A rule: when `trigger` is on, `forced` is turned on. -/
structure Implication where
  trigger : String
  forced : String
  deriving DecidableEq, Repr

namespace Implication

/-- The rule in one line. -/
def text (r : Implication) : String :=
  s!"{r.trigger} => {r.forced}"

/-- Whether the rule has something to do: its trigger is on, and it names a declared flag that is
off. -/
def fires (r : Implication) (flags : List Flag) : Bool :=
  isEnabled flags r.trigger && !isEnabled flags r.forced && isDeclared flags r.forced

end Implication

/-- The number of flags that are off. -/
def disabledCount (flags : List Flag) : Nat :=
  flags.countP fun flag => !flag.value

/-- One pass over the rules: the flags after it and the rules that fired, in order. -/
def sweep : List Implication → List Flag → List Flag × List Implication
  | [], flags => (flags, [])
  | r :: rules, flags =>
    if r.fires flags then
      let (flags, fired) := sweep rules (assignFirst r.forced true flags)
      (flags, r :: fired)
    else sweep rules flags

/-! ## A pass that fires turns flags on -/

/-- Turning on a declared flag that is off leaves one flag fewer off. -/
theorem disabledCount_assignFirst {flags : List Flag} {name : String}
    (hd : isDeclared flags name = true) (he : isEnabled flags name = false) :
    disabledCount (assignFirst name true flags) + 1 = disabledCount flags := by
  induction flags with
  | nil => simp [isDeclared] at hd
  | cons flag rest ih =>
    simp only [isEnabled, List.any_cons, Bool.or_eq_false_iff, Bool.and_eq_false_iff,
      beq_eq_false_iff_ne] at he
    by_cases h : flag.name = name
    · have hv : flag.value = false := by
        rcases he.1 with h' | h'
        · exact absurd h h'
        · exact h'
      simp [assignFirst, h, disabledCount, hv]
    · have hd' : isDeclared rest name = true := by simpa [isDeclared, h] using hd
      have he' : isEnabled rest name = false := by simpa [isEnabled] using he.2
      have := ih hd' he'
      simp only [disabledCount] at this ⊢
      simp only [assignFirst, h, if_false, List.countP_cons]
      omega

/-- Each rule that fires in a pass leaves one flag fewer off. -/
theorem disabledCount_sweep (rules : List Implication) (flags : List Flag) :
    disabledCount (sweep rules flags).1 + (sweep rules flags).2.length = disabledCount flags := by
  induction rules generalizing flags with
  | nil => simp [sweep]
  | cons r rules ih =>
    by_cases h : r.fires flags
    · have hf := h
      simp only [Implication.fires, Bool.and_eq_true, Bool.not_eq_true'] at hf
      have hc := disabledCount_assignFirst hf.2 hf.1.2
      have := ih (assignFirst r.forced true flags)
      simp only [sweep, h, if_true, List.length_cons]
      omega
    · simpa [sweep, h] using ih flags

/-- The flags after all passes, and for each pass the rules that fired in it. The last pass fires
none. -/
structure Closure where
  flags : List Flag
  passes : List (List Implication)
  deriving DecidableEq, Repr

/-- Goes through the rules until a pass fires none. -/
def closure (rules : List Implication) (flags : List Flag) : Closure :=
  if (sweep rules flags).2.isEmpty then
    { flags := (sweep rules flags).1, passes := [[]] }
  else
    let rest := closure rules (sweep rules flags).1
    { rest with passes := (sweep rules flags).2 :: rest.passes }
  termination_by disabledCount flags
  decreasing_by
    rename_i h
    have hs := disabledCount_sweep rules flags
    have hp : 0 < (sweep rules flags).2.length := by
      cases hq : (sweep rules flags).2 with
      | nil => simp [hq] at h
      | cons _ _ => simp
    omega

/-- The rules that fired, in order. -/
def Closure.fired (c : Closure) : List Implication :=
  c.passes.flatten

/-- The flags of a revision after its implications have been applied. -/
structure NormalizedFlags where
  flags : List Flag
  deriving DecidableEq, Repr

namespace NormalizedFlags

/-- Whether a flag is on; a name that is not declared is off. -/
def isEnabled (s : NormalizedFlags) (name : String) : Bool :=
  RecipeResolver.isEnabled s.flags name

/-- The names of the flags that are on, in the order of declaration. -/
def enabled (s : NormalizedFlags) : List String :=
  (s.flags.filter Flag.value).map Flag.name

end NormalizedFlags

namespace FlagSet

/-- Applies the implications. -/
def normalize (s : FlagSet) (rules : List Implication) : NormalizedFlags :=
  ⟨(closure rules s.flags).flags⟩

end FlagSet

end RecipeResolver
