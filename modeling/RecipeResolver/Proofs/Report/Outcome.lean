/-!
# Outcomes

`fault?` is the other half of `Except.toOption`: the error of an outcome that failed. The lemmas
take steps that follow one another apart, from the outcome of the last one back to the first.
-/

namespace RecipeResolver

variable {ε ε' α β : Type}

/-- The error of an outcome, if it is one. -/
def fault? : Except ε α → Option ε
  | .error e => some e
  | .ok _ => none

@[simp] theorem fault?_error (e : ε) : fault? (.error e : Except ε α) = some e := rfl

@[simp] theorem fault?_ok (a : α) : fault? (.ok a : Except ε α) = none := rfl

theorem fault?_eq_some_iff {x : Except ε α} {e : ε} : fault? x = some e ↔ x = .error e := by
  cases x <;> simp

theorem fault?_eq_none_iff {x : Except ε α} : fault? x = none ↔ ∃ a, x = .ok a := by
  cases x <;> simp

/-- Conditions for each value and for each error describe an outcome exactly if they are right about
it and one of them is met. -/
theorem outcome_iff {x : Except ε α} {accepts : α → Prop} {refuses : ε → Prop}
    (hok : ∀ a, accepts a → x = .ok a) (herror : ∀ e, refuses e → x = .error e)
    (hmet : (∃ a, accepts a) ∨ ∃ e, refuses e) :
    (∀ a, x = .ok a ↔ accepts a) ∧ ∀ e, x = .error e ↔ refuses e := by
  obtain ⟨a, ha⟩ | ⟨e, he⟩ := hmet
  · have hx := hok a ha
    refine ⟨fun b => ⟨fun hb => ?_, hok b⟩, fun e => ⟨fun he => ?_, herror e⟩⟩
    · rw [hx] at hb
      exact Except.ok.inj hb ▸ ha
    · rw [hx] at he
      cases he
  · have hx := herror e he
    refine ⟨fun a => ⟨fun ha => ?_, hok a⟩, fun e' => ⟨fun he' => ?_, herror e'⟩⟩
    · rw [hx] at ha
      cases ha
    · rw [hx] at he'
      exact Except.error.inj he' ▸ he

@[simp] theorem fault?_mapError (f : ε → ε') (x : Except ε α) :
    fault? (x.mapError f) = (fault? x).map f := by
  cases x <;> rfl

@[simp] theorem fault?_map (f : α → β) (x : Except ε α) : fault? (x.map f) = fault? x := by
  cases x <;> rfl

theorem mapError_eq_ok_iff {f : ε → ε'} {x : Except ε α} {a : α} :
    x.mapError f = .ok a ↔ x = .ok a := by
  cases x with
  | error e => constructor <;> intro h <;> cases h
  | ok b =>
    constructor
    · intro h
      cases h
      rfl
    · intro h
      cases h
      rfl

theorem map_eq_ok_iff {f : α → β} {x : Except ε α} {b : β} :
    x.map f = .ok b ↔ ∃ a, x = .ok a ∧ f a = b := by
  cases x with
  | error e =>
    constructor
    · intro h
      cases h
    · rintro ⟨a, h, -⟩
      cases h
  | ok a =>
    constructor
    · intro h
      cases h
      exact ⟨a, rfl, rfl⟩
    · rintro ⟨a', h, rfl⟩
      cases h
      rfl

/-- Two steps succeed if the first one does and the second one does on its value. -/
theorem bind_eq_ok_iff {x : Except ε α} {f : α → Except ε β} {b : β} :
    x.bind f = .ok b ↔ ∃ a, x = .ok a ∧ f a = .ok b := by
  cases x with
  | error e =>
    constructor
    · intro h
      cases h
    · rintro ⟨a, h, -⟩
      cases h
  | ok a =>
    constructor
    · intro h
      exact ⟨a, rfl, h⟩
    · rintro ⟨a', h, hb⟩
      cases h
      exact hb

end RecipeResolver
