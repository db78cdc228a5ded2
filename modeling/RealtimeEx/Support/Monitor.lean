import Mathlib.Algebra.Order.BigOperators.Group.Finset
import RealtimeEx.Support.Transition

/-!
# Monitors

Any number of threads that share a state behind a mutex and wait on condition variables.
An operation runs from the locking of the mutex to its release in one step, except that it
waits in between for as long as its predicate does not hold; it signals at its end.  A
thread that waits is woken by a signal or by itself, and tests its predicate again.

Two rules say that no wakeup is lost: if all waiters of a condition are woken whenever
their predicate becomes true, nobody sleeps while it is true; and if one of them is, then
somebody who sleeps while it is true has company that does not.
-/

namespace RealtimeEx

universe u v w x y

/-- What an operation does to those that wait on a condition. -/
inductive Signal (κ : Type w)
  | one (cond : κ)
  | all (cond : κ)
  deriving DecidableEq

/-- Where a thread is: outside the monitor with what it remembers, asleep in the wait of an
operation, or woken and about to lock the mutex again. -/
inductive ThreadState (Λ : Type x) (ο : Type y)
  | outside (l : Λ)
  | waiting (o : ο)
  | woken (o : ο)
  deriving DecidableEq

/-- The operations of a monitor: where a thread may begin one and is behind it, what the
operation does before its wait, what it waits for, and what it does and signals behind
it.  An operation that does not wait is always ready. -/
structure Monitor (σ : Type v) (κ : Type w) (Λ : Type x) (ο : Type y) where
  before : ο → Λ
  behind : ο → Λ
  enter : ο → σ → σ
  cond : ο → κ
  ready : ο → σ → Bool
  finish : ο → σ → σ × List (Signal κ)

/-- The shared state and the threads. -/
structure MonitorState (σ : Type v) (Λ : Type x) (ο : Type y) (ι : Type u) where
  shared : σ
  thread : ι → ThreadState Λ ο

/-- A thread begins an operation, has been woken and locks the mutex, or wakes without a
signal. -/
inductive MonitorLabel (ο : Type y) (ι : Type u)
  | enter (i : ι) (o : ο)
  | wake (i : ι)
  | spurious (i : ι)

namespace Monitor

variable {ι : Type u} {σ : Type v} {κ : Type w} {Λ : Type x} {ο : Type y}
variable [DecidableEq ι] [DecidableEq κ] (M : Monitor σ κ Λ ο)

/-- Everybody who waits on a condition is woken. -/
def wakeAll (cond : κ) (t : ι → ThreadState Λ ο) (i : ι) : ThreadState Λ ο :=
  match t i with
  | .waiting o => if M.cond o = cond then .woken o else .waiting o
  | .outside l => .outside l
  | .woken o => .woken o

/-- Signals wake the threads that they reach; `one` wakes any of them, if there is one. -/
inductive Delivers :
    List (Signal κ) → (ι → ThreadState Λ ο) → (ι → ThreadState Λ ο) → Prop
  | nil (t : ι → ThreadState Λ ο) : Delivers [] t t
  | one {cond : κ} {signals : List (Signal κ)} {t t' : ι → ThreadState Λ ο} {i : ι} {o : ο} :
      t i = .waiting o → M.cond o = cond →
        Delivers signals (Function.update t i (.woken o)) t' →
          Delivers (.one cond :: signals) t t'
  | nobody {cond : κ} {signals : List (Signal κ)} {t t' : ι → ThreadState Λ ο} :
      (∀ i o, t i = .waiting o → M.cond o ≠ cond) → Delivers signals t t' →
        Delivers (.one cond :: signals) t t'
  | all {cond : κ} {signals : List (Signal κ)} {t t' : ι → ThreadState Λ ο} :
      Delivers signals (M.wakeAll cond t) t' → Delivers (.all cond :: signals) t t'

/-- The test of an operation's predicate, with what follows it. -/
inductive Attempts (i : ι) (o : ο) (s : MonitorState σ Λ ο ι) : MonitorState σ Λ ο ι → Prop
  | blocks : M.ready o s.shared = false →
      Attempts i o s { s with thread := Function.update s.thread i (.waiting o) }
  | finishes {t : ι → ThreadState Λ ο} : M.ready o s.shared = true →
      M.Delivers (M.finish o s.shared).2
          (Function.update s.thread i (.outside (M.behind o))) t →
        Attempts i o s ⟨(M.finish o s.shared).1, t⟩

/-- One step of one thread. -/
def Steps (s : MonitorState σ Λ ο ι) (label : MonitorLabel ο ι)
    (s' : MonitorState σ Λ ο ι) : Prop :=
  match label with
  | .enter i o =>
      s.thread i = .outside (M.before o) ∧
        M.Attempts i o { s with shared := M.enter o s.shared } s'
  | .wake i => ∃ o, s.thread i = .woken o ∧ M.Attempts i o s s'
  | .spurious i =>
      ∃ o, s.thread i = .waiting o ∧
        s' = { s with thread := Function.update s.thread i (.woken o) }

/-- The threads in any order. -/
def system (init : MonitorState σ Λ ο ι → Prop) :
    TransitionSystem (MonitorState σ Λ ο ι) (MonitorLabel ο ι) where
  init := init
  step := M.Steps

variable {M} {t t' : ι → ThreadState Λ ο} {s s' : MonitorState σ Λ ο ι}
variable {signals : List (Signal κ)} {i : ι} {o : ο} {c : κ}

/-! ## Signals -/

omit [DecidableEq ι] in
theorem wakeAll_cases (cond : κ) (t : ι → ThreadState Λ ο) (i : ι) :
    M.wakeAll cond t i = t i ∨
      ∃ o, t i = .waiting o ∧ M.wakeAll cond t i = .woken o := by
  rw [wakeAll]
  cases h : t i with
  | outside l => exact .inl rfl
  | woken o => exact .inl rfl
  | waiting o =>
      dsimp only
      split
      · exact .inr ⟨o, rfl, rfl⟩
      · exact .inl rfl

/-- Signals do nothing to a thread but wake it. -/
theorem Delivers.cases (h : M.Delivers signals t t') (i : ι) :
    t' i = t i ∨ ∃ o, t i = .waiting o ∧ t' i = .woken o := by
  induction h with
  | nil t => exact .inl rfl
  | @one cond signals t t' j o hj hcond _ ih =>
      by_cases hi : i = j
      · subst hi
        rw [Function.update_self] at ih
        rcases ih with hsame | ⟨o', hwaiting, -⟩
        · exact .inr ⟨o, hj, hsame⟩
        · cases hwaiting
      · rwa [Function.update_of_ne hi] at ih
  | nobody _ _ ih => exact ih
  | @all cond signals t t' _ ih =>
      rcases M.wakeAll_cases cond t i with hsame | ⟨o, hwaiting, hwoken⟩
      · rwa [hsame] at ih
      · rw [hwoken] at ih
        rcases ih with hsame | ⟨o', hwaiting', -⟩
        · exact .inr ⟨o, hwaiting, hsame⟩
        · cases hwaiting'

/-- Signals can always be delivered. -/
theorem exists_delivers (signals : List (Signal κ)) (t : ι → ThreadState Λ ο) :
    ∃ t', M.Delivers signals t t' := by
  induction signals generalizing t with
  | nil => exact ⟨t, .nil t⟩
  | cons signal signals ih =>
      cases signal with
      | one cond =>
          by_cases hsome : ∃ i o, t i = .waiting o ∧ M.cond o = cond
          · obtain ⟨i, o, hi, hcond⟩ := hsome
            obtain ⟨t', h⟩ := ih (Function.update t i (.woken o))
            exact ⟨t', .one hi hcond h⟩
          · obtain ⟨t', h⟩ := ih t
            exact ⟨t', .nobody (fun i o hi hcond => hsome ⟨i, o, hi, hcond⟩) h⟩
      | all cond =>
          obtain ⟨t', h⟩ := ih (M.wakeAll cond t)
          exact ⟨t', .all h⟩

theorem Delivers.waiting (h : M.Delivers signals t t') (hi : t' i = .waiting o) :
    t i = .waiting o := by
  rcases h.cases i with hsame | ⟨o', -, hwoken⟩
  · rw [← hsame]
    exact hi
  · rw [hi] at hwoken
    cases hwoken

theorem Delivers.woken (h : M.Delivers signals t t') (hi : t i = .woken o) :
    t' i = .woken o := by
  rcases h.cases i with hsame | ⟨o', hwaiting, -⟩
  · rw [hsame]
    exact hi
  · rw [hi] at hwaiting
    cases hwaiting

/-- Behind a signal to all that wait on a condition, nobody does. -/
theorem Delivers.all_awake (h : M.Delivers signals t t') (hall : .all c ∈ signals) :
    ∀ i o, t' i = .waiting o → M.cond o ≠ c := by
  induction h with
  | nil t => cases hall
  | one _ _ _ ih => exact ih (by simpa using hall)
  | nobody _ _ ih => exact ih (by simpa using hall)
  | @all cond signals t t' hrest ih =>
      rcases List.mem_cons.mp hall with heq | hlater
      · cases heq
        intro i o hi hcond
        have hwaiting := hrest.waiting hi
        rw [wakeAll] at hwaiting
        cases hti : t i with
        | outside l =>
            rw [hti] at hwaiting
            cases hwaiting
        | woken o' =>
            rw [hti] at hwaiting
            cases hwaiting
        | waiting o' =>
            rw [hti] at hwaiting
            dsimp only at hwaiting
            split at hwaiting
            · cases hwaiting
            · rename_i hne
              cases hwaiting
              exact hne hcond
      · exact ih hlater

/-- Behind a signal to one that waits on a condition, nobody does or somebody is awake. -/
theorem Delivers.one_awake (h : M.Delivers signals t t') (hone : .one c ∈ signals) :
    (∀ i o, t' i = .waiting o → M.cond o ≠ c) ∨
      ∃ i o, t' i = .woken o ∧ M.cond o = c := by
  induction h with
  | nil t => cases hone
  | @one cond signals t t' i o hi hcond hrest ih =>
      rcases List.mem_cons.mp hone with heq | hlater
      · cases heq
        exact .inr ⟨i, o, hrest.woken (Function.update_self i _ t), hcond⟩
      · exact ih hlater
  | @nobody cond signals t t' hnobody hrest ih =>
      rcases List.mem_cons.mp hone with heq | hlater
      · cases heq
        exact .inl fun i o hi => hnobody i o (hrest.waiting hi)
      · exact ih hlater
  | all _ ih => exact ih (by simpa using hone)

/-! ## Steps -/

/-- A test of a predicate is always possible. -/
theorem exists_attempts (i : ι) (o : ο) (s : MonitorState σ Λ ο ι) :
    ∃ s', M.Attempts i o s s' := by
  cases hready : M.ready o s.shared with
  | false => exact ⟨_, .blocks hready⟩
  | true =>
      obtain ⟨t, h⟩ := exists_delivers (M := M) (M.finish o s.shared).2
        (Function.update s.thread i (.outside (M.behind o)))
      exact ⟨_, .finishes hready h⟩

/-- A thread is about to test the predicate of an operation, on the shared state `x`. -/
def Attempting (M : Monitor σ κ Λ ο) (s : MonitorState σ Λ ο ι) (i : ι) (o : ο) (x : σ) :
    Prop :=
  (s.thread i = .outside (M.before o) ∧ x = M.enter o s.shared) ∨
    (s.thread i = .woken o ∧ x = s.shared)

/-- A step is a test of a predicate, or a thread wakes by itself. -/
theorem Steps.cases {label : MonitorLabel ο ι} (h : M.Steps s label s') :
    (∃ i o x, M.Attempting s i o x ∧ M.Attempts i o { s with shared := x } s') ∨
      ∃ i o, s.thread i = .waiting o ∧
        s' = { s with thread := Function.update s.thread i (.woken o) } := by
  cases label with
  | enter i o =>
      obtain ⟨hi, hattempt⟩ := h
      exact .inl ⟨i, o, _, .inl ⟨hi, rfl⟩, hattempt⟩
  | wake i =>
      obtain ⟨o, hi, hattempt⟩ := h
      exact .inl ⟨i, o, _, .inr ⟨hi, rfl⟩, hattempt⟩
  | spurious i =>
      obtain ⟨o, hi, hs'⟩ := h
      exact .inr ⟨i, o, hi, hs'⟩

/-- A thread is asleep or woken only in an operation whose predicate may fail. -/
theorem Steps.blocked {B : ο → Prop} {label : MonitorLabel ο ι} (h : M.Steps s label s')
    (hs : ∀ i o, s.thread i = .waiting o ∨ s.thread i = .woken o → B o)
    (hB : ∀ o x, M.ready o x = false → B o) :
    ∀ i o, s'.thread i = .waiting o ∨ s'.thread i = .woken o → B o := by
  intro j p hj
  rcases h.cases with ⟨i, o, x, -, hattempt⟩ | ⟨i, o, hi, rfl⟩
  · cases hattempt with
    | blocks hblocked =>
        dsimp only at hj
        by_cases hne : j = i
        · rw [hne, Function.update_self] at hj
          rcases hj with hj | hj
          · cases hj
            exact hB _ x hblocked
          · cases hj
        · rw [Function.update_of_ne hne] at hj
          exact hs j p hj
    | finishes hdone hdelivers =>
        have hbefore : Function.update s.thread i (.outside (M.behind o)) j = .waiting p ∨
            Function.update s.thread i (.outside (M.behind o)) j = .woken p := by
          rcases hdelivers.cases j with hsame | ⟨q, hwaiting, hwoken⟩
          · rwa [← hsame]
          · dsimp only at hj
            rw [hwoken] at hj
            rcases hj with hj | hj
            · cases hj
            · cases hj
              exact .inl hwaiting
        by_cases hne : j = i
        · rw [hne, Function.update_self] at hbefore
          rcases hbefore with hbefore | hbefore
          · cases hbefore
          · cases hbefore
        · rw [Function.update_of_ne hne] at hbefore
          exact hs j p hbefore
  · dsimp only at hj
    by_cases hne : j = i
    · rw [hne, Function.update_self] at hj
      rcases hj with hj | hj
      · cases hj
      · cases hj
        exact hs i _ (.inl hi)
    · rw [Function.update_of_ne hne] at hj
      exact hs j p hj

/-! ## Wakeups -/

/-- Somebody sleeps on a condition. -/
def Asleep (M : Monitor σ κ Λ ο) (c : κ) (t : ι → ThreadState Λ ο) : Prop :=
  ∃ i o, t i = .waiting o ∧ M.cond o = c

/-- Somebody has been woken who waited on a condition. -/
def Awake (M : Monitor σ κ Λ ο) (c : κ) (t : ι → ThreadState Λ ο) : Prop :=
  ∃ i o, t i = .woken o ∧ M.cond o = c

omit [DecidableEq κ] in
theorem Asleep.of_update {state : ThreadState Λ ο}
    (h : M.Asleep c (Function.update t i state))
    (hstate : ∀ o, state = .waiting o → M.cond o ≠ c) : M.Asleep c t := by
  obtain ⟨j, o, hj, hcond⟩ := h
  by_cases hi : j = i
  · rw [hi, Function.update_self] at hj
    exact absurd hcond (hstate o hj)
  · rw [Function.update_of_ne hi] at hj
    exact ⟨j, o, hj, hcond⟩

theorem Asleep.of_delivers (h : M.Delivers signals t t') (hasleep : M.Asleep c t') :
    M.Asleep c t := by
  obtain ⟨j, o, hj, hcond⟩ := hasleep
  exact ⟨j, o, h.waiting hj, hcond⟩

theorem Awake.delivers (h : M.Delivers signals t t') (hawake : M.Awake c t) :
    M.Awake c t' := by
  obtain ⟨j, o, hj, hcond⟩ := hawake
  exact ⟨j, o, h.woken hj, hcond⟩

/-- If whoever makes a property true wakes all that wait for it, nobody sleeps while it
holds. -/
theorem Steps.not_asleep {P : σ → Prop} {label : MonitorLabel ο ι}
    (h : M.Steps s label s') (hs : P s.shared → ¬ M.Asleep c s.thread)
    (henter : ∀ o x, P (M.enter o x) → P x)
    (hready : ∀ o x, M.cond o = c → P x → M.ready o x = true)
    (hfinish : ∀ o x, M.ready o x = true → P (M.finish o x).1 →
      P x ∨ .all c ∈ (M.finish o x).2) :
    P s'.shared → ¬ M.Asleep c s'.thread := by
  intro hP hasleep
  rcases h.cases with ⟨i, o, x, hat, hattempt⟩ | ⟨i, o, -, rfl⟩
  · have hbefore : P x → P s.shared := by
      intro hx
      rcases hat with ⟨-, rfl⟩ | ⟨-, rfl⟩
      · exact henter o _ hx
      · exact hx
    cases hattempt with
    | blocks hblocked =>
        refine hs (hbefore hP) (hasleep.of_update ?_)
        rintro o' ⟨⟩ hcond
        rw [hready o x hcond hP] at hblocked
        cases hblocked
    | finishes hdone hdelivers =>
        rcases hfinish o x hdone hP with hx | hall
        · exact hs (hbefore hx) ((Asleep.of_delivers hdelivers hasleep).of_update nofun)
        · obtain ⟨j, o', hj, hcond⟩ := hasleep
          exact hdelivers.all_awake hall j o' hj hcond
  · exact hs hP (hasleep.of_update nofun)

/-- If whoever makes a property true wakes one of those that wait for it, or nobody does,
then somebody is awake if somebody sleeps while it holds. -/
theorem Steps.awake {P : σ → Prop} {label : MonitorLabel ο ι}
    (h : M.Steps s label s') (hs : P s.shared → M.Asleep c s.thread → M.Awake c s.thread)
    (henter : ∀ o x, P (M.enter o x) → P x)
    (hready : ∀ o x, M.cond o = c → P x → M.ready o x = true)
    (hfinish : ∀ i o x, M.Attempting s i o x → M.ready o x = true → P (M.finish o x).1 →
      (P x ∧ M.cond o ≠ c) ∨ .one c ∈ (M.finish o x).2 ∨ ¬ M.Asleep c s.thread) :
    P s'.shared → M.Asleep c s'.thread → M.Awake c s'.thread := by
  intro hP hasleep
  rcases h.cases with ⟨i, o, x, hat, hattempt⟩ | ⟨i, o, hi, rfl⟩
  · have hbefore : P x → P s.shared := by
      intro hx
      rcases hat with ⟨-, rfl⟩ | ⟨-, rfl⟩
      · exact henter o _ hx
      · exact hx
    -- Somebody who was awake is so still if he is not the one that takes the step.
    have hkept (state : ThreadState Λ ο) (hx : P x) (hcond : M.cond o ≠ c)
        (hbefore' : M.Asleep c s.thread) : M.Awake c (Function.update s.thread i state) := by
      obtain ⟨j, o', hj, hcond'⟩ := hs (hbefore hx) hbefore'
      refine ⟨j, o', ?_, hcond'⟩
      rw [Function.update_of_ne]
      · exact hj
      · rintro rfl
        rcases hat with ⟨hi, -⟩ | ⟨hi, -⟩
        · rw [hj] at hi
          cases hi
        · rw [hj] at hi
          cases hi
          exact hcond hcond'
    cases hattempt with
    | blocks hblocked =>
        have hcond : M.cond o ≠ c := by
          intro hcond
          rw [hready o x hcond hP] at hblocked
          cases hblocked
        refine hkept _ hP hcond (hasleep.of_update ?_)
        rintro o' ⟨⟩
        exact hcond
    | finishes hdone hdelivers =>
        have hslept : M.Asleep c s.thread :=
          (Asleep.of_delivers hdelivers hasleep).of_update nofun
        rcases hfinish i o x hat hdone hP with ⟨hx, hcond⟩ | hone | hnobody
        · exact (hkept _ hx hcond hslept).delivers hdelivers
        · rcases hdelivers.one_awake hone with hnobody | hawake
          · obtain ⟨j, o', hj, hcond⟩ := hasleep
            exact absurd hcond (hnobody j o' hj)
          · exact hawake
        · exact absurd hslept hnobody
  · obtain ⟨j, o', hj, hcond⟩ := hs hP (hasleep.of_update nofun)
    have hne : j ≠ i := by
      rintro rfl
      rw [hi] at hj
      cases hj
    exact ⟨j, o', (Function.update_of_ne hne _ _).trans hj, hcond⟩

/-! ## Counting threads -/

section

variable [Fintype ι] {f : ThreadState Λ ο → ℕ}

/-- What the threads amount to, by where they are. -/
def weight (f : ThreadState Λ ο → ℕ) (t : ι → ThreadState Λ ο) : ℕ :=
  ∑ i, f (t i)

omit [DecidableEq ι] in
theorem le_weight (f : ThreadState Λ ο → ℕ) (t : ι → ThreadState Λ ο) (i : ι) :
    f (t i) ≤ weight f t :=
  Finset.single_le_sum (f := fun i => f (t i)) (fun _ _ => Nat.zero_le _) (Finset.mem_univ i)

theorem add_le_weight (f : ThreadState Λ ο → ℕ) (t : ι → ThreadState Λ ο) {i j : ι}
    (h : i ≠ j) : f (t i) + f (t j) ≤ weight f t := by
  rw [weight, ← Finset.add_sum_erase _ _ (Finset.mem_univ i)]
  have hmem : j ∈ Finset.univ.erase i := Finset.mem_erase.mpr ⟨h.symm, Finset.mem_univ j⟩
  have hle : f (t j) ≤ ∑ k ∈ Finset.univ.erase i, f (t k) :=
    Finset.single_le_sum (f := fun k => f (t k)) (fun _ _ => Nat.zero_le _) hmem
  exact Nat.add_le_add_left hle _

theorem weight_update (f : ThreadState Λ ο → ℕ) (t : ι → ThreadState Λ ο) (i : ι)
    (state : ThreadState Λ ο) :
    weight f (Function.update t i state) + f (t i) = weight f t + f state :=
  TransitionSystem.sum_update_add f t i state

omit [DecidableEq ι] in
theorem exists_of_weight_pos (h : 0 < weight f t) : ∃ i, 0 < f (t i) := by
  by_contra hnone
  push Not at hnone
  have hzero : weight f t = 0 :=
    Finset.sum_eq_zero fun i _ => Nat.le_zero.mp (hnone i)
  omega

/-- Signals do not change a count that does not look whether a thread is asleep. -/
theorem Delivers.weight_eq (h : M.Delivers signals t t')
    (hf : ∀ o, f (.woken o) = f (.waiting o)) : weight f t' = weight f t := by
  refine Finset.sum_congr rfl fun i _ => ?_
  rcases h.cases i with hsame | ⟨o, hwaiting, hwoken⟩
  · rw [hsame]
  · rw [hwaiting, hwoken, hf]

/-- What a test does to the shared state and to such counts. -/
theorem Attempts.weight_add (h : M.Attempts i o s s') :
    (M.ready o s.shared = false ∧ s'.shared = s.shared ∧
        ∀ f : ThreadState Λ ο → ℕ, (∀ o, f (.woken o) = f (.waiting o)) →
          weight f s'.thread + f (s.thread i) = weight f s.thread + f (.waiting o)) ∨
      (M.ready o s.shared = true ∧ s'.shared = (M.finish o s.shared).1 ∧
        ∀ f : ThreadState Λ ο → ℕ, (∀ o, f (.woken o) = f (.waiting o)) →
          weight f s'.thread + f (s.thread i) =
            weight f s.thread + f (.outside (M.behind o))) := by
  cases h with
  | blocks hblocked =>
      exact .inl ⟨hblocked, rfl, fun f _ => weight_update f s.thread i _⟩
  | finishes hdone hdelivers =>
      refine .inr ⟨hdone, rfl, fun f hf => ?_⟩
      dsimp only
      rw [hdelivers.weight_eq hf]
      exact weight_update f s.thread i _

end

end Monitor

end RealtimeEx
