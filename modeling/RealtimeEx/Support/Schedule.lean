import RealtimeEx.Support.Transition

/-!
# Timers on a discrete clock

This file says what timers are for, without saying how they are found when
they are due.  A timer has a first due time and an interval; it may only fire
when the clock stands at its due time, the clock may only go on when no live
timer is due, and a timer with interval zero fires once.

Along every run the firings of a timer are therefore exactly the multiples of
its interval after the first due time that the clock has reached, until the
timer is cancelled.
-/

set_option linter.unusedSectionVars false

namespace RealtimeEx

/-- A timer that was registered at some time. -/
structure Timer where
  first : ℕ
  interval : ℕ
  fired : ℕ
  live : Bool
  deriving DecidableEq, Repr

/-- The next time the timer has to fire. -/
def Timer.due (t : Timer) : ℕ := t.first + t.fired * t.interval

/-- The clock and the timers, by the name they were registered under. -/
structure Schedule (ι : Type*) where
  now : ℕ
  timer : ι → Option Timer

/-- The interval and the next due time of a timer that is still to fire. -/
def Timer.pending (t : Timer) : Option (ℕ × ℕ) :=
  if t.live then some (t.interval, t.due) else none

/-- What happens to a schedule. -/
inductive ScheduleEvent (ι : Type*)
  | register (name : ι) (first interval : ℕ)
  | cancel (name : ι)
  | fire (name : ι) (time : ℕ)
  | advance
  deriving DecidableEq

namespace Schedule

variable {ι : Type*} [DecidableEq ι]

def setTimer (s : Schedule ι) (i : ι) (t : Timer) : Schedule ι :=
  { s with timer := Function.update s.timer i (some t) }

@[simp] theorem now_setTimer (s : Schedule ι) (i : ι) (t : Timer) :
    (s.setTimer i t).now = s.now := rfl

@[simp] theorem timer_setTimer_self (s : Schedule ι) (i : ι) (t : Timer) :
    (s.setTimer i t).timer i = some t := by
  simp [setTimer]

theorem timer_setTimer_of_ne (s : Schedule ι) {i j : ι} (t : Timer)
    (h : j ≠ i) : (s.setTimer i t).timer j = s.timer j := by
  simp [setTimer, h]

/-- The timers that are still to fire. -/
def pending (s : Schedule ι) (i : ι) : Option (ℕ × ℕ) :=
  (s.timer i).bind Timer.pending

theorem pending_setTimer (s : Schedule ι) (i : ι) (t : Timer) :
    (s.setTimer i t).pending = Function.update s.pending i t.pending := by
  funext j
  by_cases h : j = i
  · subst h
    simp [pending]
  · simp [pending, timer_setTimer_of_ne s t h, h]

theorem exists_of_pending {s : Schedule ι} {i : ι} {interval due : ℕ}
    (h : s.pending i = some (interval, due)) :
    ∃ t, s.timer i = some t ∧ t.live ∧ t.interval = interval ∧
      t.due = due := by
  obtain ⟨t, ht, hpending⟩ := Option.bind_eq_some_iff.mp h
  unfold Timer.pending at hpending
  split at hpending
  · rename_i hlive
    cases hpending
    exact ⟨t, ht, hlive, rfl, rfl⟩
  · cases hpending

theorem pending_of_live {s : Schedule ι} {i : ι} {t : Timer}
    (ht : s.timer i = some t) (hlive : t.live) :
    s.pending i = some (t.interval, t.due) := by
  simp [pending, ht, Timer.pending, hlive]

/-- The rules of the clock and the timers. -/
inductive Step : Schedule ι → ScheduleEvent ι → Schedule ι → Prop
  | register {s : Schedule ι} {i : ι} {first interval : ℕ}
      (hnew : s.timer i = none) (hfirst : s.now ≤ first) :
      Step s (.register i first interval)
        (s.setTimer i ⟨first, interval, 0, true⟩)
  | cancel {s : Schedule ι} {i : ι} {t : Timer}
      (ht : s.timer i = some t) :
      Step s (.cancel i) (s.setTimer i { t with live := false })
  | fire {s : Schedule ι} {i : ι} {t : Timer}
      (ht : s.timer i = some t) (hlive : t.live) (hdue : t.due = s.now) :
      Step s (.fire i s.now)
        (s.setTimer i
          { t with fired := t.fired + 1, live := t.interval ≠ 0 })
  | advance {s : Schedule ι}
      (hdone : ∀ i t, s.timer i = some t → t.live → s.now < t.due) :
      Step s .advance { s with now := s.now + 1 }

/-- A schedule that starts without timers. -/
def system (ι : Type*) [DecidableEq ι] :
    TransitionSystem (Schedule ι) (ScheduleEvent ι) where
  init s := ∀ i, s.timer i = none
  step := Step

/-! ## What happened to one timer -/

/-- The times at which the timer fired, in order. -/
def firings (i : ι) (es : List (ScheduleEvent ι)) : List ℕ :=
  es.filterMap fun e =>
    match e with
    | .fire j time => if j = i then some time else none
    | _ => none

@[simp] theorem firings_nil (i : ι) : firings i [] = [] := rfl

theorem firings_append (i : ι) (es fs : List (ScheduleEvent ι)) :
    firings i (es ++ fs) = firings i es ++ firings i fs :=
  List.filterMap_append

theorem firings_fire_self (i : ι) (time : ℕ) :
    firings i [.fire i time] = [time] := by
  simp [firings]

theorem firings_singleton_of_ne {i : ι} {e : ScheduleEvent ι}
    (h : ∀ time, e ≠ .fire i time) : firings i [e] = [] := by
  cases e with
  | fire j time =>
      have hne : j ≠ i := by
        rintro rfl
        exact h time rfl
      simp [firings, hne]
  | _ => rfl

/-- What the state knows about a timer agrees with what happened to it. -/
structure Recorded (es : List (ScheduleEvent ι)) (now : ℕ) (i : ι)
    (t : Timer) : Prop where
  registered : ∀ first interval, ScheduleEvent.register i first interval ∈ es ↔
    first = t.first ∧ interval = t.interval
  firings_eq : firings i es =
    (List.range t.fired).map fun j => t.first + j * t.interval
  reached : ∀ time ∈ firings i es, time ≤ now
  once : t.interval = 0 → t.fired ≤ 1
  fresh : t.interval = 0 → t.live → t.fired = 0
  due_of_live : t.live → now ≤ t.due
  ended : t.live = false →
    ScheduleEvent.cancel i ∈ es ∨ (t.interval = 0 ∧ t.fired = 1)

/-- Nothing happened to a timer that was never registered. -/
structure Unknown (es : List (ScheduleEvent ι)) (i : ι) : Prop where
  not_registered : ∀ first interval,
    ScheduleEvent.register i first interval ∉ es
  firings_eq : firings i es = []
  not_cancelled : ScheduleEvent.cancel i ∉ es

/-- The history of a timer along a run that ends in `s`. -/
structure History (es : List (ScheduleEvent ι)) (s : Schedule ι) (i : ι) :
    Prop where
  of_none : s.timer i = none → Unknown es i
  of_some : ∀ t, s.timer i = some t → Recorded es s.now i t

/-- An event that is not about the timer `i`. -/
def Foreign (i : ι) (e : ScheduleEvent ι) : Prop :=
  (∀ first interval, e ≠ .register i first interval) ∧ e ≠ .cancel i ∧
    ∀ time, e ≠ .fire i time

theorem Recorded.append {es : List (ScheduleEvent ι)}
    {e : ScheduleEvent ι} {now : ℕ} {i : ι} {t : Timer}
    (h : Recorded es now i t) (he : Foreign i e) :
    Recorded (es ++ [e]) now i t where
  registered first interval := by
    rw [List.mem_append, ← h.registered first interval, List.mem_singleton]
    exact or_iff_left fun heq => he.1 first interval heq.symm
  firings_eq := by
    rw [firings_append, firings_singleton_of_ne he.2.2, List.append_nil,
      h.firings_eq]
  reached := by
    rw [firings_append, firings_singleton_of_ne he.2.2, List.append_nil]
    exact h.reached
  once := h.once
  fresh := h.fresh
  due_of_live := h.due_of_live
  ended hdead := (h.ended hdead).imp_left (List.mem_append_left _)

theorem Unknown.append {es : List (ScheduleEvent ι)}
    {e : ScheduleEvent ι} {i : ι}
    (h : Unknown es i) (he : Foreign i e) : Unknown (es ++ [e]) i where
  not_registered first interval hmem := by
    rcases List.mem_append.mp hmem with hold | hnew
    · exact h.not_registered first interval hold
    · exact he.1 first interval (List.mem_singleton.mp hnew).symm
  firings_eq := by
    rw [firings_append, firings_singleton_of_ne he.2.2, List.append_nil,
      h.firings_eq]
  not_cancelled hmem := by
    rcases List.mem_append.mp hmem with hold | hnew
    · exact h.not_cancelled hold
    · exact he.2.1 (List.mem_singleton.mp hnew).symm

/-- An event about one timer leaves the history of the others alone. -/
theorem History.append_of_ne {es : List (ScheduleEvent ι)}
    {e : ScheduleEvent ι} {s : Schedule ι} {i j : ι} {t : Timer}
    (h : History es s i) (hij : i ≠ j) (he : Foreign i e) :
    History (es ++ [e]) (s.setTimer j t) i where
  of_none hnone := by
    rw [timer_setTimer_of_ne s t hij] at hnone
    exact (h.of_none hnone).append he
  of_some u hu := by
    rw [timer_setTimer_of_ne s t hij] at hu
    exact (h.of_some u hu).append he

theorem History.of_recorded {es : List (ScheduleEvent ι)} {s : Schedule ι}
    {i : ι} {t : Timer}
    (h : Recorded es s.now i t) : History es (s.setTimer i t) i where
  of_none hnone := by simp at hnone
  of_some u hu := by
    rw [timer_setTimer_self] at hu
    cases hu
    exact h

theorem History.step {es : List (ScheduleEvent ι)} {e : ScheduleEvent ι}
    {s s' : Schedule ι}
    (h : ∀ i, History es s i) (hstep : Step s e s') (i : ι) :
    History (es ++ [e]) s' i := by
  cases hstep with
  | @register j first interval hnew hfirst =>
      by_cases hij : i = j
      · subst hij
        have hold := (h i).of_none hnew
        have hnil : firings i (es ++ [.register i first interval]) = [] := by
          rw [firings_append, hold.firings_eq,
            firings_singleton_of_ne (by simp)]
          rfl
        refine History.of_recorded
          ⟨?_, hnil, ?_, by simp, by simp, ?_, by simp⟩
        · intro first' interval'
          rw [List.mem_append]
          constructor
          · rintro (hmem | hmem)
            · exact absurd hmem (hold.not_registered first' interval')
            · cases List.mem_singleton.mp hmem
              exact ⟨rfl, rfl⟩
          · rintro ⟨rfl, rfl⟩
            exact Or.inr List.mem_cons_self
        · simp [hnil]
        · intro _
          simpa [Timer.due] using hfirst
      · refine (h i).append_of_ne hij ⟨?_, by simp, by simp⟩
        intro first' interval' heq
        cases heq
        exact hij rfl
  | @cancel j t ht =>
      by_cases hij : i = j
      · subst hij
        have hold := (h i).of_some t ht
        have hsame : firings i (es ++ [.cancel i]) = firings i es := by
          rw [firings_append, firings_singleton_of_ne (by simp),
            List.append_nil]
        refine History.of_recorded
          ⟨?_, ?_, ?_, hold.once, by simp, by simp, by simp⟩
        · intro first interval
          rw [← hold.registered first interval]
          simp
        · rw [hsame]
          exact hold.firings_eq
        · rw [hsame]
          exact hold.reached
      · refine (h i).append_of_ne hij ⟨by simp, ?_, by simp⟩
        intro heq
        cases heq
        exact hij rfl
  | @fire j t ht hlive hdue =>
      by_cases hij : i = j
      · subst hij
        have hold := (h i).of_some t ht
        -- a live timer with interval zero has not fired yet
        have hfresh : t.interval = 0 → t.fired = 0 :=
          fun hzero => hold.fresh hzero hlive
        refine History.of_recorded ⟨?_, ?_, ?_, ?_, ?_, ?_, ?_⟩
        · intro first interval
          rw [← hold.registered first interval]
          simp
        · rw [firings_append, hold.firings_eq, firings_fire_self,
            List.range_succ, List.map_append, List.map_singleton, ← hdue]
          rfl
        · rw [firings_append, firings_fire_self]
          intro time hmem
          rcases List.mem_append.mp hmem with hold' | hnew
          · exact hold.reached time hold'
          · exact (List.mem_singleton.mp hnew).le
        · intro hzero
          simp [hfresh hzero]
        · intro hzero hlive'
          exact absurd hzero (by simpa using hlive')
        · intro _
          simp only [Timer.due, Nat.add_mul, Nat.one_mul] at hdue ⊢
          omega
        · intro hzero
          have hzero' : t.interval = 0 := by simpa using hzero
          exact Or.inr ⟨hzero', by simp [hfresh hzero']⟩
      · refine (h i).append_of_ne hij ⟨by simp, by simp, ?_⟩
        intro time heq
        cases heq
        exact hij rfl
  | advance hdone =>
      have hforeign : Foreign i (.advance : ScheduleEvent ι) := by
        simp [Foreign]
      refine ⟨fun hnone => ((h i).of_none hnone).append hforeign, ?_⟩
      intro t ht
      have hnext := ((h i).of_some t ht).append hforeign
      exact { hnext with
        reached := fun time hmem => (hnext.reached time hmem).trans s.now.le_succ
        due_of_live := fun hlive => hdone i t ht hlive }

/-! ## Whole runs -/

/-- Along every run the firings of a timer are exactly the due times that the
clock has reached, up to its cancellation. -/
theorem history_of_run {s₀ s : Schedule ι} {es : List (ScheduleEvent ι)}
    (hinit : (system ι).init s₀) (hrun : (system ι).Run s₀ es s) (i : ι) :
    History es s i := by
  induction hrun generalizing i with
  | nil =>
      refine ⟨fun _ => ⟨by simp, rfl, by simp⟩, fun t ht => ?_⟩
      rw [hinit i] at ht
      cases ht
  | snoc _ hstep ih => exact History.step ih hstep i

/-- A timer that is not live never fires again. -/
theorem firings_eq_nil_of_dead {s s' : Schedule ι}
    {es : List (ScheduleEvent ι)} {i : ι} {t : Timer}
    (hrun : (system ι).Run s es s')
    (ht : s.timer i = some t) (hdead : t.live = false) :
    firings i es = [] ∧ ∃ t', s'.timer i = some t' ∧ t'.live = false := by
  induction hrun with
  | nil => exact ⟨rfl, t, ht, hdead⟩
  | snoc _ hstep ih =>
      obtain ⟨hnil, t', ht', hdead'⟩ := ih
      have hkeep : ∀ (r : Schedule ι) (j : ι) (u : Timer),
          r.timer i = some t' → i ≠ j →
            ∃ t'', (r.setTimer j u).timer i = some t'' ∧ t''.live = false := by
        intro r j u hr hij
        exact ⟨t', by rw [timer_setTimer_of_ne r u hij, hr], hdead'⟩
      rw [firings_append, hnil, List.nil_append]
      cases hstep with
      | @register j first interval hnew _ =>
          have hij : i ≠ j := by
            rintro rfl
            rw [ht'] at hnew
            cases hnew
          exact ⟨rfl, hkeep _ j _ ht' hij⟩
      | @cancel j u hu =>
          refine ⟨rfl, ?_⟩
          by_cases hij : i = j
          · subst hij
            exact ⟨_, timer_setTimer_self _ _ _, rfl⟩
          · exact hkeep _ j _ ht' hij
      | @fire j u hu hlive _ =>
          have hij : i ≠ j := by
            rintro rfl
            rw [ht'] at hu
            cases hu
            rw [hdead'] at hlive
            cases hlive
          refine ⟨firings_singleton_of_ne ?_, hkeep _ j _ ht' hij⟩
          intro time heq
          cases heq
          exact hij rfl
      | advance _ => exact ⟨rfl, t', ht', hdead'⟩

/-- A cancelled timer never fires again. -/
theorem firings_after_cancel {s₀ s : Schedule ι}
    {es fs : List (ScheduleEvent ι)} {i : ι}
    (hrun : (system ι).Run s₀ (es ++ .cancel i :: fs) s) :
    firings i fs = [] := by
  obtain ⟨r, -, hrest⟩ := hrun.append_inv
  obtain ⟨r', hstep, htail⟩ := hrest.cons_inv
  cases hstep with
  | cancel ht =>
      exact (firings_eq_nil_of_dead htail (timer_setTimer_self _ _ _) rfl).1

end Schedule

end RealtimeEx
