import Mathlib.Algebra.Order.Ring.Int
import Mathlib.Data.List.Induction

/-!
# Histories of a step function

A component that is driven by calls is a function of its state and of the call.  The
rules here speak about the states after the prefixes of a list of calls.
-/

namespace RealtimeEx

variable {S E : Type*} {step : S → E → S} {I P : S → Prop} {C : S → E → Prop}

/-- What every call preserves holds after every history. -/
theorem foldl_invariant (hI : ∀ s e, I s → I (step s e)) {s : S} (hs : I s)
    (es : List E) : I (es.foldl step s) := by
  induction es generalizing s with
  | nil => exact hs
  | cons e es ih => exact ih (hI s e hs)

/-- If a call keeps a property exactly when it meets a condition, then the property
holds throughout a history exactly when every call of the history meets it. -/
theorem throughout_iff (hI : ∀ s e, I s → I (step s e))
    (hP : ∀ s e, I s → P s → (P (step s e) ↔ C s e)) {s : S} (hs : I s) (hp : P s)
    (es : List E) :
    (∀ ks, ks <+: es → P (ks.foldl step s)) ↔
      ∀ ks e, ks ++ [e] <+: es → C (ks.foldl step s) e := by
  constructor
  · intro h ks e hks
    have hbefore := h ks ((List.prefix_append ks [e]).trans hks)
    have hafter := h (ks ++ [e]) hks
    rw [List.foldl_append] at hafter
    exact (hP _ e (foldl_invariant hI hs ks) hbefore).mp hafter
  · intro h ks hks
    induction ks using List.reverseRecOn with
    | nil => exact hp
    | append_singleton ks e ih =>
        have hbefore := ih ((List.prefix_append ks [e]).trans hks)
        rw [List.foldl_append]
        exact (hP _ e (foldl_invariant hI hs ks) hbefore).mpr (h ks e hks)

/-- A value does not change any more, once a state is reached that no call leaves, if and
only if no call changes it there. -/
theorem unchanged_iff {α : Type*} (hI : ∀ s e, I s → I (step s e)) (f : S → α) {s : S}
    (es : List E) :
    (∀ ks ms, ks ++ ms <+: es → I (ks.foldl step s) →
        f ((ks ++ ms).foldl step s) = f (ks.foldl step s)) ↔
      ∀ ks e, ks ++ [e] <+: es → I (ks.foldl step s) →
        f (step (ks.foldl step s) e) = f (ks.foldl step s) := by
  constructor
  · intro h ks e hks hstays
    have hone := h ks [e] hks hstays
    rw [List.foldl_append] at hone
    exact hone
  · intro h ks ms hks hstays
    induction ms using List.reverseRecOn with
    | nil => rw [List.append_nil]
    | append_singleton ms e ih =>
        rw [← List.append_assoc] at hks ⊢
        have hbefore := ih ((List.prefix_append _ [e]).trans hks)
        have hthere : I ((ks ++ ms).foldl step s) := by
          rw [List.foldl_append]
          exact foldl_invariant hI hstays ms
        rw [List.foldl_append, List.foldl_cons, List.foldl_nil]
        exact (h (ks ++ ms) e hks hthere).trans hbefore

/-- Every call of a history meets a condition in the state before it. -/
def Meets (step : S → E → S) (C : S → E → Prop) : S → List E → Prop
  | _, [] => True
  | s, e :: es => C s e ∧ Meets step C (step s e) es

instance Meets.decidable [∀ s e, Decidable (C s e)] :
    ∀ (s : S) (es : List E), Decidable (Meets step C s es)
  | _, [] => inferInstanceAs (Decidable True)
  | s, e :: es =>
      let _ := Meets.decidable (step s e) es
      inferInstanceAs (Decidable (C s e ∧ Meets step C (step s e) es))

theorem meets_iff {s : S} {es : List E} :
    Meets step C s es ↔ ∀ ks e, ks ++ [e] <+: es → C (ks.foldl step s) e := by
  induction es generalizing s with
  | nil =>
      refine iff_of_true trivial fun ks e hks => ?_
      simp at hks
  | cons e es ih =>
      rw [Meets, ih]
      constructor
      · rintro ⟨hhead, htail⟩ ks e' hks
        cases ks with
        | nil =>
            obtain rfl := (List.cons_prefix_cons.mp hks).1
            exact hhead
        | cons k ks =>
            have hcons : k = e ∧ ks ++ [e'] <+: es := List.cons_prefix_cons.mp hks
            rw [List.foldl_cons, hcons.1]
            exact htail ks e' hcons.2
      · intro h
        refine ⟨h [] e (by simp), fun ks e' hks => ?_⟩
        exact h (e :: ks) e' (List.cons_prefix_cons.mpr ⟨rfl, hks⟩)

theorem meets_append {s : S} {es fs : List E} :
    Meets step C s (es ++ fs) ↔ Meets step C s es ∧ Meets step C (es.foldl step s) fs := by
  induction es generalizing s with
  | nil => exact ⟨fun h => ⟨trivial, h⟩, And.right⟩
  | cons e es ih => rw [List.cons_append, Meets, Meets, ih, List.foldl_cons, and_assoc]

/-- Two conditions that agree where an invariant holds, and the first of which keeps it, are
met by the same histories. -/
theorem meets_congr {D : S → E → Prop} (hI : ∀ s e, I s → C s e → I (step s e))
    (hiff : ∀ s e, I s → (C s e ↔ D s e)) {s : S} (hs : I s) (es : List E) :
    Meets step C s es ↔ Meets step D s es := by
  induction es generalizing s with
  | nil => exact Iff.rfl
  | cons e es ih =>
      rw [Meets, Meets, ← hiff s e hs]
      exact and_congr_right fun hc => ih (hI s e hs hc)

/-- The rule for an invariant that is kept only as long as the property holds. -/
theorem throughout_iff_of_kept (hI : ∀ s e, I s → P s → C s e → I (step s e))
    (hP : ∀ s e, I s → P s → (P (step s e) ↔ C s e)) {s : S} (hs : I s) (hp : P s)
    (es : List E) :
    (∀ ks, ks <+: es → P (ks.foldl step s)) ↔ Meets step C s es := by
  induction es generalizing s with
  | nil =>
      refine iff_of_true (fun ks hks => ?_) trivial
      rw [List.prefix_nil.mp hks]
      exact hp
  | cons e es ih =>
      rw [Meets]
      constructor
      · intro h
        have hafter : P (step s e) := h [e] (by simp)
        have hmeets : C s e := (hP s e hs hp).mp hafter
        refine ⟨hmeets, (ih (hI s e hs hp hmeets) hafter).mp fun ks hks => ?_⟩
        exact h (e :: ks) (List.cons_prefix_cons.mpr ⟨rfl, hks⟩)
      · rintro ⟨hmeets, hrest⟩ ks hks
        have hafter : P (step s e) := (hP s e hs hp).mpr hmeets
        cases ks with
        | nil => exact hp
        | cons k ks =>
            have hcons : k = e ∧ ks <+: es := List.cons_prefix_cons.mp hks
            rw [List.foldl_cons, hcons.1]
            exact (ih (hI s e hs hp hmeets) hafter).mpr hrest ks hcons.2

/-- What every call keeps that meets a condition holds throughout a history whose calls all
meet it. -/
theorem throughout_of_meets (hI : ∀ s e, I s → I (step s e))
    (hP : ∀ s e, I s → P s → C s e → P (step s e)) {s : S} (hs : I s) (hp : P s)
    {es : List E} (hmeets : Meets step C s es) : ∀ ks, ks <+: es → P (ks.foldl step s) := by
  intro ks hks
  induction ks using List.reverseRecOn with
  | nil => exact hp
  | append_singleton ks e ih =>
      have hbefore := ih ((List.prefix_append ks [e]).trans hks)
      rw [List.foldl_append]
      exact hP _ e (foldl_invariant hI hs ks) hbefore (meets_iff.mp hmeets ks e hks)

end RealtimeEx
