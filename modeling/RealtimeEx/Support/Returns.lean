import Mathlib.Algebra.Order.Ring.Int
import Mathlib.Logic.Relation
import Mathlib.Order.WellFounded

/-!
# Loops that return

A loop is given by the relation between the states before and after a round,
and by the states in which it has returned.  It returns if every execution of
it comes to such a state; an execution may neither go on for ever nor get stuck.
-/

namespace RealtimeEx

variable {S W : Type*} {r : S → S → Prop} {final I T : S → Prop} {s t : S}

/-- Every execution from the state returns. -/
inductive AlwaysReturns (r : S → S → Prop) (final : S → Prop) : S → Prop
  | final {s : S} : final s → AlwaysReturns r final s
  | round {s : S} : (∃ t, r s t) → (∀ t, r s t → AlwaysReturns r final t) →
      AlwaysReturns r final s

/-- A loop whose rounds make a measure smaller returns. -/
theorem AlwaysReturns.of_decreasing [LT W] [WellFoundedLT W] {μ : S → W}
    (hI : ∀ s t, I s → r s t → I t)
    (hprogress : ∀ s, I s → ¬ final s → ∃ t, r s t)
    (hdec : ∀ s t, I s → r s t → final t ∨ μ t < μ s) (hs : I s) :
    AlwaysReturns r final s := by
  induction s using (InvImage.wf μ (wellFounded_lt (α := W))).induction with
  | _ s ih =>
      by_cases hfinal : final s
      · exact .final hfinal
      · refine .round (hprogress s hs hfinal) fun t hround => ?_
        rcases hdec s t hs hround with hreturned | hlt
        · exact .final hreturned
        · exact ih t hlt (hI s t hs hround)

/-- A loop does not return from a set of states that it does not leave. -/
theorem not_alwaysReturns_of_trapped (htrap : ∀ s, T s → ¬ final s)
    (hT : ∀ s t, T s → r s t → T t) (hs : T s) : ¬ AlwaysReturns r final s := by
  intro h
  induction h with
  | final hfinal => exact htrap _ hs hfinal
  | round hprogress _ ih =>
      obtain ⟨t, hround⟩ := hprogress
      exact ih t hround (hT _ t hs hround)

theorem invariant_of_reflTransGen (hI : ∀ s t, I s → r s t → I t)
    (hrounds : Relation.ReflTransGen r s t) (hs : I s) : I t := by
  induction hrounds with
  | refl => exact hs
  | tail _ hround ih => exact hI _ _ ih hround

/-- A loop that returns does so from every state it comes to. -/
theorem AlwaysReturns.of_reflTransGen (hI : ∀ s t, I s → r s t → I t)
    (hstop : ∀ s t, I s → final s → ¬ r s t) (hs : I s)
    (h : AlwaysReturns r final s) (hrounds : Relation.ReflTransGen r s t) :
    AlwaysReturns r final t := by
  induction hrounds with
  | refl => exact h
  | tail hbefore hround ih =>
      cases ih with
      | final hfinal =>
          have hinv := invariant_of_reflTransGen hI hbefore hs
          exact absurd hround (hstop _ _ hinv hfinal)
      | round _ hall => exact hall _ hround

/-- A loop whose rounds make a measure smaller outside of a trap returns exactly
if it does not come into the trap. -/
theorem alwaysReturns_iff_not_trapped [LT W] [WellFoundedLT W] {μ : S → W}
    (hI : ∀ s t, I s → r s t → I t)
    (hprogress : ∀ s, I s → ¬ final s → ∃ t, r s t)
    (hstop : ∀ s t, I s → final s → ¬ r s t)
    (hdec : ∀ s t, I s → ¬ T s → r s t → final t ∨ μ t < μ s)
    (htrap : ∀ s, T s → ¬ final s)
    (hT : ∀ s t, I s → T s → r s t → T t) (hs : I s) :
    AlwaysReturns r final s ↔ ∀ t, Relation.ReflTransGen r s t → ¬ T t := by
  constructor
  · intro h t hrounds htrapped
    have ht : I t := invariant_of_reflTransGen hI hrounds hs
    refine not_alwaysReturns_of_trapped (T := fun u => I u ∧ T u) ?_ ?_ ⟨ht, htrapped⟩
      (h.of_reflTransGen hI hstop hs hrounds)
    · exact fun u hu => htrap u hu.2
    · exact fun u v hu hround => ⟨hI u v hu.1 hround, hT u v hu.1 hu.2 hround⟩
  · intro h
    refine AlwaysReturns.of_decreasing (μ := μ)
      (I := fun u => I u ∧ Relation.ReflTransGen r s u) ?_ ?_ ?_ ⟨hs, .refl⟩
    · rintro u v ⟨hu, hrounds⟩ hround
      exact ⟨hI u v hu hround, hrounds.tail hround⟩
    · rintro u ⟨hu, -⟩ hfinal
      exact hprogress u hu hfinal
    · rintro u v ⟨hu, hrounds⟩ hround
      exact hdec u v hu (h u hrounds) hround

end RealtimeEx
