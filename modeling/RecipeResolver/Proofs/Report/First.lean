import Mathlib.Order.WellFounded
import RecipeResolver.Proofs.Report.Outcome

/-!
# The first of several faults

A check of something with several faults reports one of them, the first. `IsFirst` says which one
that is by the places at which the faults stand, and `Picks` that a report is about it. Reports of
which one comes before the other are joined by `Option.or` (`Picks.or`), so a check of several rules
is understood rule by rule.
-/

namespace RecipeResolver

variable {α β κ : Type} [LinearOrder κ]

/-- Of all items with a property, none stands before this one. -/
def IsFirst (place : α → κ) (P : α → Prop) (a : α) : Prop :=
  P a ∧ ∀ b, P b → place a ≤ place b

/-- The report is what the first item with a property says. Without such an item there is none. -/
def Picks (place : α → κ) (tells : α → β) (P : α → Prop) (report : Option β) : Prop :=
  ∀ b, report = some b ↔ ∃ a, IsFirst place P a ∧ tells a = b

/-- Where places are well-founded there is a first item as soon as there is any. -/
theorem exists_isFirst [WellFoundedLT κ] {place : α → κ} {P : α → Prop} (h : ∃ a, P a) :
    ∃ a, IsFirst place P a := by
  obtain ⟨a, ha, hleast⟩ := (InvImage.wf place wellFounded_lt).has_min {a | P a} h
  exact ⟨a, ha, fun b hb => not_lt.1 (hleast b hb)⟩

namespace Picks

variable {place : α → κ} {tells : α → β} {P Q : α → Prop} {report report' : Option β}

/-- A report picks the only item that it can be about. -/
theorem self {place : α → κ} (report : Option α) :
    Picks place id (fun a => report = some a) report := by
  intro b
  constructor
  · intro hb
    refine ⟨b, ⟨hb, fun c hc => ?_⟩, rfl⟩
    obtain rfl : b = c := Option.some.inj (hb.symm.trans hc)
    exact le_rfl
  · rintro ⟨a, ha, rfl⟩
    exact ha.1

theorem congr (h : Picks place tells P report) (hPQ : ∀ a, P a ↔ Q a) :
    Picks place tells Q report := by
  obtain rfl : P = Q := funext fun a => propext (hPQ a)
  exact h

theorem eq_none_iff [WellFoundedLT κ] (h : Picks place tells P report) :
    report = none ↔ ∀ a, ¬ P a := by
  constructor
  · intro hnone a ha
    obtain ⟨first, hfirst⟩ : ∃ first, IsFirst place P first := exists_isFirst ⟨a, ha⟩
    have hreport := (h (tells first)).2 ⟨first, hfirst, rfl⟩
    rw [hnone] at hreport
    cases hreport
  · intro hP
    rw [Option.eq_none_iff_forall_ne_some]
    intro b hb
    obtain ⟨a, ha, -⟩ := (h b).1 hb
    exact hP a ha.1

/-- A second report counts where there is no first one, if all that it can be about stands behind
what the first one can be about. -/
theorem or [WellFoundedLT κ] (h : Picks place tells P report) (h' : Picks place tells Q report')
    (hPQ : ∀ a b, P a → Q b → place a < place b) :
    Picks place tells (fun a => P a ∨ Q a) (report.or report') := by
  intro b
  rw [Option.or_eq_some_iff]
  constructor
  · rintro (hreport | ⟨hnone, hreport⟩)
    · obtain ⟨a, ⟨ha, hfirst⟩, htells⟩ := (h b).1 hreport
      refine ⟨a, ⟨.inl ha, fun c hc => ?_⟩, htells⟩
      exact hc.elim (hfirst c) fun hc => (hPQ a c ha hc).le
    · obtain ⟨a, ⟨ha, hfirst⟩, htells⟩ := (h' b).1 hreport
      refine ⟨a, ⟨.inr ha, fun c hc => ?_⟩, htells⟩
      exact hc.elim (fun hc => absurd hc (h.eq_none_iff.1 hnone c)) (hfirst c)
  · rintro ⟨a, ⟨ha | ha, hfirst⟩, htells⟩
    · exact .inl ((h b).2 ⟨a, ⟨ha, fun c hc => hfirst c (.inl hc)⟩, htells⟩)
    · -- what is first is behind every item of the first report, so there is none
      have hnone (c : α) : ¬ P c := fun hc =>
        not_lt.2 (hfirst c (.inl hc)) (hPQ c a hc ha)
      refine .inr ⟨h.eq_none_iff.2 hnone, (h' b).2 ?_⟩
      exact ⟨a, ⟨ha, fun c hc => hfirst c (.inr hc)⟩, htells⟩

end Picks

end RecipeResolver
