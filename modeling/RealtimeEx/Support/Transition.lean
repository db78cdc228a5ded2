import Mathlib.Algebra.BigOperators.Group.Finset.Basic
import Mathlib.Algebra.Order.Ring.Int
import Mathlib.Data.Fintype.Basic
import Mathlib.Data.List.Induction

/-!
# Labelled transition systems

This file contains the part of the theory of labelled transition systems that
the component models below rely on.  A system is given by its initial states
and by a labelled step relation.  A run records the labels of its steps, so
that statements about what happened along the run can be made about a list.

Three rules are proved here once and used by name afterwards: invariants of
reachable states, the same rule for runs all of whose steps satisfy a guard,
and the accounting rule that bounds the number of steps of a run by a measure
of its first state.
-/

namespace RealtimeEx

universe u v

/-- A labelled transition system. -/
structure TransitionSystem (S : Type u) (L : Type v) where
  init : S → Prop
  step : S → L → S → Prop

namespace TransitionSystem

variable {S : Type u} {L : Type v}

/-! ## Runs -/

/-- `M.Run s ls t` means that the steps labelled `ls` lead from `s` to `t`. -/
inductive Run (M : TransitionSystem S L) : S → List L → S → Prop
  | nil (s : S) : Run M s [] s
  | snoc {s t u : S} {ls : List L} {l : L} :
      Run M s ls t → M.step t l u → Run M s (ls ++ [l]) u

/-- A state that some run from an initial state ends in. -/
def Reachable (M : TransitionSystem S L) (t : S) : Prop :=
  ∃ s ls, M.init s ∧ M.Run s ls t

/-- The system `M` restricted to the steps that satisfy `G`. -/
def guard (M : TransitionSystem S L) (G : S → L → Prop) :
    TransitionSystem S L where
  init := M.init
  step s l t := M.step s l t ∧ G s l

/-- The system `M` restricted to the steps that end in a state with `P`. -/
def within (M : TransitionSystem S L) (P : S → Prop) :
    TransitionSystem S L where
  init := M.init
  step s l t := M.step s l t ∧ P t

theorem Run.single {M : TransitionSystem S L} {s t : S} {l : L}
    (h : M.step s l t) : M.Run s [l] t := by
  simpa using Run.snoc (Run.nil s) h

theorem Run.trans {M : TransitionSystem S L} {s t u : S} {ks ls : List L}
    (h₁ : M.Run s ks t) (h₂ : M.Run t ls u) : M.Run s (ks ++ ls) u := by
  induction h₂ with
  | nil => simpa using h₁
  | snoc _ hstep ih =>
      rw [← List.append_assoc]
      exact Run.snoc ih hstep

theorem Run.cons {M : TransitionSystem S L} {s t u : S} {l : L} {ls : List L}
    (h₁ : M.step s l t) (h₂ : M.Run t ls u) : M.Run s (l :: ls) u :=
  Run.trans (Run.single h₁) h₂

theorem Run.nil_inv {M : TransitionSystem S L} {s t : S}
    (h : M.Run s [] t) : t = s := by
  generalize hnil : ([] : List L) = ls at h
  cases h with
  | nil => rfl
  | snoc => simp at hnil

theorem Run.snoc_inv {M : TransitionSystem S L} {s u : S} {ls : List L}
    {l : L} (h : M.Run s (ls ++ [l]) u) :
    ∃ t, M.Run s ls t ∧ M.step t l u := by
  generalize hsnoc : ls ++ [l] = ms at h
  cases h with
  | nil => simp at hsnoc
  | snoc hprev hstep =>
      obtain ⟨rfl, hlast⟩ := List.append_inj' hsnoc rfl
      cases hlast
      exact ⟨_, hprev, hstep⟩

/-- A run can be cut anywhere. -/
theorem Run.append_inv {M : TransitionSystem S L} {s u : S} {ks ls : List L}
    (h : M.Run s (ks ++ ls) u) : ∃ t, M.Run s ks t ∧ M.Run t ls u := by
  induction ls using List.reverseRecOn generalizing u with
  | nil => exact ⟨u, by simpa using h, Run.nil u⟩
  | append_singleton ls l ih =>
      rw [← List.append_assoc] at h
      obtain ⟨v, hprev, hstep⟩ := h.snoc_inv
      obtain ⟨t, hks, hls⟩ := ih hprev
      exact ⟨t, hks, Run.snoc hls hstep⟩

theorem Run.cons_inv {M : TransitionSystem S L} {s u : S} {l : L} {ls : List L}
    (h : M.Run s (l :: ls) u) : ∃ t, M.step s l t ∧ M.Run t ls u := by
  obtain ⟨t, hl, hls⟩ := Run.append_inv (show M.Run s ([l] ++ ls) u from h)
  obtain ⟨r, hnil, hstep⟩ := Run.snoc_inv (show M.Run s ([] ++ [l]) t from hl)
  rw [hnil.nil_inv] at hstep
  exact ⟨t, hstep, hls⟩

/-- A run of the restricted system is a run of the system. -/
theorem Run.of_guard {M : TransitionSystem S L} {G : S → L → Prop}
    {s t : S} {ls : List L}
    (h : (M.guard G).Run s ls t) : M.Run s ls t := by
  induction h with
  | nil => exact Run.nil _
  | snoc _ hstep ih => exact Run.snoc ih hstep.1

theorem Reachable.of_init {M : TransitionSystem S L} {s : S}
    (h : M.init s) : M.Reachable s :=
  ⟨s, [], h, Run.nil s⟩

theorem Reachable.step {M : TransitionSystem S L} {s t : S} {l : L}
    (h : M.Reachable s) (hstep : M.step s l t) : M.Reachable t := by
  obtain ⟨s₀, ls, hinit, hrun⟩ := h
  exact ⟨s₀, ls ++ [l], hinit, Run.snoc hrun hstep⟩

/-! ## Invariants -/

/-- What every step preserves, every run preserves. -/
theorem Run.invariant {M : TransitionSystem S L} {I : S → Prop}
    (hstep : ∀ s l t, I s → M.step s l t → I t)
    {s t : S} {ls : List L}
    (hrun : M.Run s ls t) (hs : I s) : I t := by
  induction hrun with
  | nil => exact hs
  | snoc _ h ih => exact hstep _ _ _ ih h

/-- The invariant rule for reachable states. -/
theorem Reachable.invariant {M : TransitionSystem S L} {I : S → Prop}
    (hinit : ∀ s, M.init s → I s)
    (hstep : ∀ s l t, I s → M.step s l t → I t)
    {s : S}
    (h : M.Reachable s) : I s := by
  obtain ⟨s₀, ls, hs₀, hrun⟩ := h
  exact hrun.invariant hstep (hinit s₀ hs₀)

/-- If a step keeps a property exactly when it satisfies a guard, the runs
that keep the property throughout are those all of whose steps satisfy the
guard. -/
theorem run_guard_iff_run_within {M : TransitionSystem S L} {I P : S → Prop}
    {G : S → L → Prop} (hI : ∀ s l t, I s → M.step s l t → I t)
    (hP : ∀ s l t, I s → P s → M.step s l t → (P t ↔ G s l))
    {s t : S} {ls : List L} (hs : I s) (hp : P s) :
    (M.guard G).Run s ls t ↔ (M.within P).Run s ls t := by
  constructor
  · intro hrun
    suffices h : (M.within P).Run s ls t ∧ I t ∧ P t from h.1
    induction hrun with
    | nil => exact ⟨Run.nil _, hs, hp⟩
    | snoc _ hstep ih =>
        obtain ⟨hrun, hi, hkept⟩ := ih
        have hafter := (hP _ _ _ hi hkept hstep.1).mpr hstep.2
        exact ⟨hrun.snoc ⟨hstep.1, hafter⟩, hI _ _ _ hi hstep.1, hafter⟩
  · intro hrun
    suffices h : (M.guard G).Run s ls t ∧ I t ∧ P t from h.1
    induction hrun with
    | nil => exact ⟨Run.nil _, hs, hp⟩
    | snoc _ hstep ih =>
        obtain ⟨hrun, hi, hkept⟩ := ih
        have hmeets := (hP _ _ _ hi hkept hstep.1).mp hstep.2
        exact ⟨hrun.snoc ⟨hstep.1, hmeets⟩, hI _ _ _ hi hstep.1, hstep.2⟩

/-! ## Simulation -/

/-- If every step of `M` is matched by the steps `f l` of `N`, every run of
`M` is matched by a run of `N`. -/
theorem Run.simulate {T : Type*} {K : Type*} {M : TransitionSystem S L}
    {N : TransitionSystem T K} {R : S → T → Prop} {f : L → List K}
    (hstep : ∀ s l s' t, R s t → M.step s l s' →
      ∃ t', N.Run t (f l) t' ∧ R s' t')
    {s s' : S} {ls : List L} {t : T}
    (hrun : M.Run s ls s') (h : R s t) :
    ∃ t', N.Run t (ls.flatMap f) t' ∧ R s' t' := by
  induction hrun with
  | nil => exact ⟨t, Run.nil t, h⟩
  | snoc _ hlast ih =>
      obtain ⟨u, hu, hR⟩ := ih
      obtain ⟨u', hu', hR'⟩ := hstep _ _ _ _ hR hlast
      refine ⟨u', ?_, hR'⟩
      rw [List.flatMap_append, List.flatMap_singleton]
      exact hu.trans hu'

/-! ## Accounting -/

/-- Changing one component of a family changes a sum over it accordingly. -/
theorem sum_update_add {ι α : Type*} [Fintype ι] [DecidableEq ι]
    (f : α → ℕ) (g : ι → α) (i : ι) (a : α) :
    (∑ j, f (Function.update g i a j)) + f (g i) = (∑ j, f (g j)) + f a := by
  rw [← Finset.add_sum_erase _ _ (Finset.mem_univ i),
    ← Finset.add_sum_erase Finset.univ (fun j => f (g j)) (Finset.mem_univ i)]
  have hrest : ∑ j ∈ Finset.univ.erase i, f (Function.update g i a j) =
      ∑ j ∈ Finset.univ.erase i, f (g j) := by
    refine Finset.sum_congr rfl fun j hj => ?_
    rw [Function.update_of_ne (Finset.ne_of_mem_erase hj)]
  rw [hrest, Function.update_self]
  omega

/-- If every step pays its `gain` out of the measure `μ` and the `cost` it is
granted, then a whole run does. -/
theorem Run.measure_add_sum_le {M : TransitionSystem S L} {I : S → Prop}
    {μ : S → ℕ} {gain cost : L → ℕ}
    (hinv : ∀ s l t, I s → M.step s l t → I t)
    (hstep : ∀ s l t, I s → M.step s l t → μ t + gain l ≤ μ s + cost l)
    {s t : S} {ls : List L}
    (hrun : M.Run s ls t) (hs : I s) :
    μ t + (ls.map gain).sum ≤ μ s + (ls.map cost).sum := by
  induction hrun with
  | nil => simp
  | snoc hprev h ih =>
      have hlast := hstep _ _ _ (hprev.invariant hinv hs) h
      simp only [List.map_append, List.map_cons, List.map_nil,
        List.sum_append, List.sum_cons, List.sum_nil]
      omega

end TransitionSystem

end RealtimeEx
