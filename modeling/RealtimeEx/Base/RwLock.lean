import RealtimeEx.Support.Monitor

/-!
# `CRWLock`

The lock of `rw_lock.h`: any number of threads that lock and unlock it, for reading or for
writing, in any order, with wakeups that nobody has signalled.
-/

namespace RealtimeEx.Base

/-- `ELockType`. -/
inductive ELockType
  | eLT_Read
  | eLT_Write
  deriving DecidableEq

open ELockType

/-- `CRWLock`, without its mutex and its conditions. -/
structure CRWLock where
  m_nReadCount : ℕ := 0
  m_nWriteCount : ℕ := 0
  m_bWrite : Bool := false
  deriving DecidableEq

/-- The conditions. -/
inductive LockCond
  | m_condWrite
  | m_condRead
  deriving DecidableEq

open LockCond

/-- `lock` and `unlock`. -/
inductive LockCall
  | lock (eType : ELockType)
  | unlock (eType : ELockType)
  deriving DecidableEq

namespace CRWLock

/-- What `lock` does before it waits. -/
def enter : LockCall → CRWLock → CRWLock
  | .lock eLT_Write, l => { l with m_nWriteCount := l.m_nWriteCount + 1 }
  | _, l => l

/-- The predicates of the waits; `unlock` does not wait. -/
def ready : LockCall → CRWLock → Bool
  | .lock eLT_Write, l => l.m_nReadCount = 0 ∧ l.m_bWrite = false
  | .lock eLT_Read, l => l.m_nWriteCount = 0
  | .unlock _, _ => true

/-- What `lock` does behind its wait, and `unlock`. -/
def finish : LockCall → CRWLock → CRWLock × List (Signal LockCond)
  | .lock eLT_Write, l => ({ l with m_bWrite := true }, [])
  | .lock eLT_Read, l => ({ l with m_nReadCount := l.m_nReadCount + 1 }, [])
  | .unlock eLT_Write, l =>
      let nWriteCount := l.m_nWriteCount - 1
      ({ l with m_nWriteCount := nWriteCount, m_bWrite := false },
        if nWriteCount = 0 then [.all m_condRead] else [.one m_condWrite])
  | .unlock eLT_Read, l =>
      let nReadCount := l.m_nReadCount - 1
      ({ l with m_nReadCount := nReadCount },
        if nReadCount = 0 ∧ 0 < l.m_nWriteCount then [.one m_condWrite] else [])

/-- The lock with its users, each of which remembers what it holds. -/
def monitor : Monitor CRWLock LockCond (Option ELockType) LockCall where
  before
    | .lock _ => none
    | .unlock eType => some eType
  behind
    | .lock eType => some eType
    | .unlock _ => none
  enter := enter
  cond
    | .lock eLT_Read => m_condRead
    | _ => m_condWrite
  ready := ready
  finish := finish

/-- A lock and its users. -/
abbrev Users (ι : Type*) := MonitorState CRWLock (Option ELockType) LockCall ι

variable {ι : Type*} [DecidableEq ι]

/-- Nobody uses the lock. -/
def unused : Users ι where
  shared := {}
  thread _ := .outside none

/-- The users of a lock, in any order. -/
def users (ι : Type*) [DecidableEq ι] :
    TransitionSystem (Users ι) (MonitorLabel LockCall ι) :=
  monitor.system fun s => s = unused

/-! ## Counts -/

/-- Whether a thread holds the lock for reading. -/
def reading : ThreadState (Option ELockType) LockCall → ℕ
  | .outside (some eLT_Read) => 1
  | _ => 0

/-- Whether a thread holds the lock for writing. -/
def writing : ThreadState (Option ELockType) LockCall → ℕ
  | .outside (some eLT_Write) => 1
  | _ => 0

/-- Whether a thread holds the lock for writing or waits to. -/
def wantsWrite : ThreadState (Option ELockType) LockCall → ℕ
  | .outside (some eLT_Write) => 1
  | .waiting (.lock eLT_Write) => 1
  | .woken (.lock eLT_Write) => 1
  | _ => 0

theorem eq_of_reading_pos {state : ThreadState (Option ELockType) LockCall}
    (h : 0 < reading state) : state = .outside (some eLT_Read) := by
  unfold reading at h
  split at h
  · rfl
  · cases h

theorem eq_of_writing_pos {state : ThreadState (Option ELockType) LockCall}
    (h : 0 < writing state) : state = .outside (some eLT_Write) := by
  unfold writing at h
  split at h
  · rfl
  · cases h

theorem eq_of_wantsWrite_pos {state : ThreadState (Option ELockType) LockCall}
    (h : 0 < wantsWrite state) :
    state = .outside (some eLT_Write) ∨ state = .waiting (.lock eLT_Write) ∨
      state = .woken (.lock eLT_Write) := by
  unfold wantsWrite at h
  split at h
  · exact .inl rfl
  · exact .inr (.inl rfl)
  · exact .inr (.inr rfl)
  · cases h

section

variable [Fintype ι]

/-- The counters are exact, a writer is alone, and nobody sleeps who would not be woken. -/
structure Inv (s : Users ι) : Prop where
  reads : s.shared.m_nReadCount = Monitor.weight reading s.thread
  writes : s.shared.m_nWriteCount = Monitor.weight wantsWrite s.thread
  write : (if s.shared.m_bWrite = true then 1 else 0) = Monitor.weight writing s.thread
  alone : s.shared.m_bWrite = true → s.shared.m_nReadCount = 0
  sleeper : ∀ i o, s.thread i = .waiting o ∨ s.thread i = .woken o → ∃ eType, o = .lock eType
  readers : s.shared.m_nWriteCount = 0 → ¬ monitor.Asleep m_condRead s.thread
  writers : s.shared.m_nReadCount = 0 ∧ s.shared.m_bWrite = false →
    monitor.Asleep m_condWrite s.thread → monitor.Awake m_condWrite s.thread

omit [DecidableEq ι] in
theorem inv_unused : Inv (unused : Users ι) where
  reads := (Finset.sum_eq_zero fun _ _ => rfl).symm
  writes := (Finset.sum_eq_zero fun _ _ => rfl).symm
  write := (Finset.sum_eq_zero fun _ _ => rfl).symm
  alone := nofun
  sleeper := by
    rintro i o (h | h)
    · cases h
    · cases h
  readers := by
    rintro - ⟨i, o, h, -⟩
    cases h
  writers := by
    rintro - ⟨i, o, h, -⟩
    cases h

variable {s s' : Users ι} {label : MonitorLabel LockCall ι}

/-- Only `lock` waits. -/
theorem Inv.sleeper_step (h : Inv s) (hstep : monitor.Steps s label s') :
    ∀ i o, s'.thread i = .waiting o ∨ s'.thread i = .woken o → ∃ eType, o = .lock eType := by
  refine hstep.blocked h.sleeper ?_
  intro o x hblocked
  cases o with
  | lock eType => exact ⟨eType, rfl⟩
  | unlock eType => cases hblocked

omit [DecidableEq ι] in
/-- Who unlocks does not come out of a wait. -/
theorem Inv.unlocking (h : Inv s) {i : ι} {eType : ELockType} {x : CRWLock}
    (hat : monitor.Attempting s i (.unlock eType) x) :
    s.thread i = .outside (some eType) ∧ x = s.shared := by
  rcases hat with hat | ⟨hi, -⟩
  · exact hat
  · obtain ⟨eType', heq⟩ := h.sleeper i _ (.inr hi)
    cases heq

omit [DecidableEq ι] in
theorem Inv.asleep_write (h : Inv s) (hasleep : monitor.Asleep m_condWrite s.thread) :
    ∃ i, s.thread i = .waiting (.lock eLT_Write) := by
  obtain ⟨i, o, hi, hcond⟩ := hasleep
  obtain ⟨eType, rfl⟩ := h.sleeper i o (.inl hi)
  cases eType with
  | eLT_Read => cases hcond
  | eLT_Write => exact ⟨i, hi⟩

omit [DecidableEq ι] in
/-- A thread that sleeps until it may write is counted. -/
theorem Inv.writeCount_pos (h : Inv s) (hasleep : monitor.Asleep m_condWrite s.thread) :
    0 < s.shared.m_nWriteCount := by
  obtain ⟨i, hi⟩ := h.asleep_write hasleep
  have hle := Monitor.le_weight wantsWrite s.thread i
  rw [← h.writes, hi] at hle
  exact hle

/-- No reader sleeps while nobody wants to write. -/
theorem Inv.readers_step (h : Inv s) (hstep : monitor.Steps s label s') :
    s'.shared.m_nWriteCount = 0 → ¬ monitor.Asleep m_condRead s'.thread := by
  refine hstep.not_asleep (P := fun l => l.m_nWriteCount = 0) h.readers ?_ ?_ ?_
  · rintro (_ | _) x hx
    · cases ‹ELockType› with
      | eLT_Read => exact hx
      | eLT_Write => cases hx
    · exact hx
  · rintro (_ | _) x hcond hx
    · cases ‹ELockType› with
      | eLT_Read => exact decide_eq_true hx
      | eLT_Write => cases hcond
    · cases hcond
  · rintro (_ | _) x - hx
    · cases ‹ELockType› with
      | eLT_Read => exact .inl hx
      | eLT_Write => exact .inl hx
    · cases ‹ELockType› with
      | eLT_Read => exact .inl hx
      | eLT_Write =>
          refine .inr ?_
          have hzero : x.m_nWriteCount - 1 = 0 := hx
          show _ ∈ if x.m_nWriteCount - 1 = 0 then _ else _
          rw [if_pos hzero]
          exact List.mem_singleton.mpr rfl

/-- Whoever leaves the lock free to writers wakes one of them. -/
theorem Inv.writers_step (h : Inv s) (hstep : monitor.Steps s label s') :
    s'.shared.m_nReadCount = 0 ∧ s'.shared.m_bWrite = false →
      monitor.Asleep m_condWrite s'.thread → monitor.Awake m_condWrite s'.thread := by
  refine hstep.awake (P := fun l => l.m_nReadCount = 0 ∧ l.m_bWrite = false) h.writers
    ?_ ?_ ?_
  · rintro (_ | _) x hx
    · cases ‹ELockType› with
      | eLT_Read => exact hx
      | eLT_Write => exact hx
    · exact hx
  · rintro (_ | _) x hcond hx
    · cases ‹ELockType› with
      | eLT_Read => cases hcond
      | eLT_Write => exact decide_eq_true hx
    · rfl
  · rintro i (eType | eType) x hat - ⟨hread, hwrite⟩
    · cases eType with
      | eLT_Read => cases hread
      | eLT_Write => cases hwrite
    · obtain ⟨hi, rfl⟩ := h.unlocking hat
      cases eType with
      | eLT_Write =>
          by_cases hlast : s.shared.m_nWriteCount - 1 = 0
          · -- It is the only one that is counted, so nobody sleeps.
            refine .inr (.inr fun hasleep => ?_)
            obtain ⟨j, hj⟩ := h.asleep_write hasleep
            have hne : i ≠ j := by
              rintro rfl
              rw [hi] at hj
              cases hj
            have hle := Monitor.add_le_weight wantsWrite s.thread hne
            rw [← h.writes, hi, hj] at hle
            have htwo : 2 ≤ s.shared.m_nWriteCount := hle
            omega
          · refine .inr (.inl ?_)
            show _ ∈ if s.shared.m_nWriteCount - 1 = 0 then _ else _
            rw [if_neg hlast]
            exact List.mem_singleton.mpr rfl
      | eLT_Read =>
          have hlast : s.shared.m_nReadCount - 1 = 0 := hread
          by_cases hwriters : 0 < s.shared.m_nWriteCount
          · refine .inr (.inl ?_)
            show _ ∈ if s.shared.m_nReadCount - 1 = 0 ∧ 0 < s.shared.m_nWriteCount then _
              else _
            rw [if_pos ⟨hlast, hwriters⟩]
            exact List.mem_singleton.mpr rfl
          · exact .inr (.inr fun hasleep => hwriters (h.writeCount_pos hasleep))

omit [DecidableEq ι] in
/-- Who writes wants to. -/
theorem weight_writing_le (t : ι → ThreadState (Option ELockType) LockCall) :
    Monitor.weight writing t ≤ Monitor.weight wantsWrite t := by
  refine Finset.sum_le_sum fun i _ => ?_
  cases t i with
  | outside l =>
      cases l with
      | none => exact le_rfl
      | some eType => cases eType <;> exact le_rfl
  | waiting o => exact Nat.zero_le _
  | woken o => exact Nat.zero_le _

/-- What a test of a predicate does to the counts, by the operation. -/
theorem Inv.counts_attempt (h : Inv s) {i : ι} {o : LockCall} {x : CRWLock}
    (hat : monitor.Attempting s i o x)
    (hattempt : monitor.Attempts i o { s with shared := x } s') :
    s'.shared.m_nReadCount = Monitor.weight reading s'.thread ∧
      s'.shared.m_nWriteCount = Monitor.weight wantsWrite s'.thread ∧
      (if s'.shared.m_bWrite = true then 1 else 0) = Monitor.weight writing s'.thread ∧
      (s'.shared.m_bWrite = true → s'.shared.m_nReadCount = 0) := by
  have hwoken : ∀ o, wantsWrite (.woken o) = wantsWrite (.waiting o) := by
    rintro ((_ | _) | _)
    · rfl
    · rfl
    · rfl
  have hreads := h.reads
  have hwrites := h.writes
  have hwrite := h.write
  have halone := h.alone
  have hle := weight_writing_le s.thread
  cases o with
  | lock eType =>
      have hi : reading (s.thread i) = 0 ∧ writing (s.thread i) = 0 := by
        rcases hat with ⟨hi, -⟩ | ⟨hi, -⟩
        · rw [hi]
          exact ⟨rfl, rfl⟩
        · rw [hi]
          exact ⟨rfl, rfl⟩
      cases eType with
      | eLT_Read =>
          have hx : x = s.shared := by
            rcases hat with ⟨-, hx⟩ | ⟨-, hx⟩
            · exact hx
            · exact hx
          have hi' : wantsWrite (s.thread i) = 0 := by
            rcases hat with ⟨hi, -⟩ | ⟨hi, -⟩
            · rw [hi]
              rfl
            · rw [hi]
              rfl
          rw [hx] at hattempt
          rcases hattempt.weight_add with ⟨-, hshared, hweight⟩ | ⟨hready, hshared, hweight⟩
          · have hR : Monitor.weight reading s'.thread + reading (s.thread i) =
                Monitor.weight reading s.thread + 0 := hweight reading fun _ => rfl
            have hW : Monitor.weight wantsWrite s'.thread + wantsWrite (s.thread i) =
                Monitor.weight wantsWrite s.thread + 0 := hweight wantsWrite hwoken
            have hT : Monitor.weight writing s'.thread + writing (s.thread i) =
                Monitor.weight writing s.thread + 0 := hweight writing fun _ => rfl
            rw [hshared]
            dsimp only
            exact ⟨by omega, by omega, by omega, halone⟩
          · have hR : Monitor.weight reading s'.thread + reading (s.thread i) =
                Monitor.weight reading s.thread + 1 := hweight reading fun _ => rfl
            have hW : Monitor.weight wantsWrite s'.thread + wantsWrite (s.thread i) =
                Monitor.weight wantsWrite s.thread + 0 := hweight wantsWrite hwoken
            have hT : Monitor.weight writing s'.thread + writing (s.thread i) =
                Monitor.weight writing s.thread + 0 := hweight writing fun _ => rfl
            have hnone : s.shared.m_nWriteCount = 0 := of_decide_eq_true hready
            have hfree : s.shared.m_bWrite = false := by
              cases hb : s.shared.m_bWrite with
              | false => rfl
              | true =>
                  rw [hb, if_pos rfl] at hwrite
                  omega
            rw [hshared]
            show s.shared.m_nReadCount + 1 = _ ∧ s.shared.m_nWriteCount = _ ∧
              (if s.shared.m_bWrite = true then 1 else 0) = _ ∧
              (s.shared.m_bWrite = true → s.shared.m_nReadCount + 1 = 0)
            refine ⟨by omega, by omega, by omega, ?_⟩
            rw [hfree]
            nofun
      | eLT_Write =>
          -- Who begins is counted now, who was woken has been.
          have hx : x.m_nReadCount = s.shared.m_nReadCount ∧
              x.m_bWrite = s.shared.m_bWrite ∧
              x.m_nWriteCount + wantsWrite (s.thread i) = s.shared.m_nWriteCount + 1 := by
            rcases hat with ⟨hi, rfl⟩ | ⟨hi, rfl⟩
            · rw [hi]
              exact ⟨rfl, rfl, rfl⟩
            · rw [hi]
              exact ⟨rfl, rfl, rfl⟩
          rcases hattempt.weight_add with ⟨-, hshared, hweight⟩ | ⟨hready, hshared, hweight⟩
          · have hR : Monitor.weight reading s'.thread + reading (s.thread i) =
                Monitor.weight reading s.thread + 0 := hweight reading fun _ => rfl
            have hW : Monitor.weight wantsWrite s'.thread + wantsWrite (s.thread i) =
                Monitor.weight wantsWrite s.thread + 1 := hweight wantsWrite hwoken
            have hT : Monitor.weight writing s'.thread + writing (s.thread i) =
                Monitor.weight writing s.thread + 0 := hweight writing fun _ => rfl
            rw [hshared]
            dsimp only
            rw [hx.1, hx.2.1]
            exact ⟨by omega, by omega, by omega, halone⟩
          · have hR : Monitor.weight reading s'.thread + reading (s.thread i) =
                Monitor.weight reading s.thread + 0 := hweight reading fun _ => rfl
            have hW : Monitor.weight wantsWrite s'.thread + wantsWrite (s.thread i) =
                Monitor.weight wantsWrite s.thread + 1 := hweight wantsWrite hwoken
            have hT : Monitor.weight writing s'.thread + writing (s.thread i) =
                Monitor.weight writing s.thread + 1 := hweight writing fun _ => rfl
            obtain ⟨hnone, hfree⟩ : x.m_nReadCount = 0 ∧ x.m_bWrite = false :=
              of_decide_eq_true hready
            rw [← hx.2.1, hfree, if_neg (by decide)] at hwrite
            rw [hshared]
            show x.m_nReadCount = _ ∧ x.m_nWriteCount = _ ∧ 1 = _ ∧
              (true = true → x.m_nReadCount = 0)
            exact ⟨by omega, by omega, by omega, fun _ => hnone⟩
  | unlock eType =>
      obtain ⟨hi, hx⟩ := h.unlocking hat
      rw [hx] at hattempt
      rcases hattempt.weight_add with ⟨hblocked, -⟩ | ⟨-, hshared, hweight⟩
      · cases hblocked
      · have hR : Monitor.weight reading s'.thread + reading (s.thread i) =
            Monitor.weight reading s.thread + 0 := hweight reading fun _ => rfl
        have hW : Monitor.weight wantsWrite s'.thread + wantsWrite (s.thread i) =
            Monitor.weight wantsWrite s.thread + 0 := hweight wantsWrite hwoken
        have hT : Monitor.weight writing s'.thread + writing (s.thread i) =
            Monitor.weight writing s.thread + 0 := hweight writing fun _ => rfl
        have hlast := Monitor.le_weight writing s.thread i
        rw [hshared]
        cases eType with
        | eLT_Read =>
            rw [hi] at hR hW hT
            simp only [reading, writing, wantsWrite] at hR hW hT
            show s.shared.m_nReadCount - 1 = _ ∧ s.shared.m_nWriteCount = _ ∧
              (if s.shared.m_bWrite = true then 1 else 0) = _ ∧
              (s.shared.m_bWrite = true → s.shared.m_nReadCount - 1 = 0)
            refine ⟨by omega, by omega, by omega, fun hb => ?_⟩
            rw [halone hb]
        | eLT_Write =>
            rw [hi] at hR hW hT hlast
            simp only [reading, writing, wantsWrite] at hR hW hT hlast
            have hone : (if s.shared.m_bWrite = true then 1 else 0) ≤ 1 := by
              split
              · exact le_rfl
              · exact Nat.zero_le 1
            show s.shared.m_nReadCount = _ ∧ s.shared.m_nWriteCount - 1 = _ ∧ 0 = _ ∧
              (false = true → s.shared.m_nReadCount = 0)
            exact ⟨by omega, by omega, by omega, nofun⟩

theorem Inv.step (h : Inv s) (hstep : monitor.Steps s label s') : Inv s' := by
  have hcounts : s'.shared.m_nReadCount = Monitor.weight reading s'.thread ∧
      s'.shared.m_nWriteCount = Monitor.weight wantsWrite s'.thread ∧
      (if s'.shared.m_bWrite = true then 1 else 0) = Monitor.weight writing s'.thread ∧
      (s'.shared.m_bWrite = true → s'.shared.m_nReadCount = 0) := by
    rcases hstep.cases with ⟨i, o, x, hat, hattempt⟩ | ⟨i, o, hi, rfl⟩
    · exact h.counts_attempt hat hattempt
    · -- To wake by oneself counts nothing.
      obtain ⟨eType, rfl⟩ := h.sleeper i o (.inl hi)
      have hsame (f : ThreadState (Option ELockType) LockCall → ℕ)
          (hf : f (.woken (.lock eType)) = f (.waiting (.lock eType))) :
          Monitor.weight f (Function.update s.thread i (.woken (.lock eType))) =
            Monitor.weight f s.thread := by
        have hupdate := Monitor.weight_update f s.thread i (.woken (.lock eType))
        rw [hi, hf] at hupdate
        omega
      dsimp only
      rw [hsame reading rfl, hsame wantsWrite (by cases eType <;> rfl), hsame writing rfl]
      exact ⟨h.reads, h.writes, h.write, h.alone⟩
  obtain ⟨hreads, hwrites, hwrite, halone⟩ := hcounts
  exact ⟨hreads, hwrites, hwrite, halone, h.sleeper_step hstep, h.readers_step hstep,
    h.writers_step hstep⟩

theorem inv_of_reachable (h : (users ι).Reachable s) : Inv s := by
  refine h.invariant ?_ ?_
  · rintro s rfl
    exact inv_unused
  · intro s label s' hs hstep
    exact hs.step hstep

/-! ## What the lock is for -/

/-- Who writes is alone. -/
theorem Inv.exclusive (h : Inv s) {i j : ι} (hne : i ≠ j)
    (hi : s.thread i = .outside (some eLT_Write)) (eType : ELockType) :
    s.thread j ≠ .outside (some eType) := by
  intro hj
  have hwrite := h.write
  have hone : (if s.shared.m_bWrite = true then 1 else 0) ≤ 1 := by
    split
    · exact le_rfl
    · exact Nat.zero_le 1
  cases eType with
  | eLT_Write =>
      have hle := Monitor.add_le_weight writing s.thread hne
      rw [hi, hj] at hle
      simp only [writing] at hle
      omega
  | eLT_Read =>
      have hle := Monitor.le_weight writing s.thread i
      have hread := Monitor.le_weight reading s.thread j
      rw [hi] at hle
      rw [hj] at hread
      simp only [writing, reading] at hle hread
      rw [← h.reads] at hread
      cases hb : s.shared.m_bWrite with
      | false =>
          rw [hb, if_neg (by decide)] at hwrite
          omega
      | true =>
          have hnone := h.alone hb
          omega

omit [DecidableEq ι] in
/-- If nobody holds the lock but somebody waits for it, somebody is awake who gets it. -/
theorem Inv.progress (h : Inv s) (hfree : ∀ i eType, s.thread i ≠ .outside (some eType))
    {i : ι} (hi : s.thread i ≠ .outside none) :
    ∃ j eType, s.thread j = .woken (.lock eType) ∧ ready (.lock eType) s.shared = true := by
  have hread : s.shared.m_nReadCount = 0 := by
    rw [h.reads]
    refine Nat.eq_zero_of_not_pos fun hpos => ?_
    obtain ⟨j, hj⟩ := Monitor.exists_of_weight_pos hpos
    exact hfree j _ (eq_of_reading_pos hj)
  have hwrite : s.shared.m_bWrite = false := by
    cases hb : s.shared.m_bWrite with
    | false => rfl
    | true =>
        have hpos : 0 < Monitor.weight writing s.thread := by
          rw [← h.write, hb, if_pos rfl]
          exact Nat.one_pos
        obtain ⟨j, hj⟩ := Monitor.exists_of_weight_pos hpos
        exact absurd (eq_of_writing_pos hj) (hfree j _)
  by_cases hwriter : ∃ j, s.thread j = .waiting (.lock eLT_Write) ∨
      s.thread j = .woken (.lock eLT_Write)
  · obtain ⟨j, hj | hj⟩ := hwriter
    · obtain ⟨k, o, hk, hcond⟩ := h.writers ⟨hread, hwrite⟩ ⟨j, _, hj, rfl⟩
      obtain ⟨eType, rfl⟩ := h.sleeper k o (.inr hk)
      cases eType with
      | eLT_Read => cases hcond
      | eLT_Write => exact ⟨k, _, hk, decide_eq_true ⟨hread, hwrite⟩⟩
    · exact ⟨j, _, hj, decide_eq_true ⟨hread, hwrite⟩⟩
  · -- Nobody wants to write, so no reader sleeps.
    have hnone : s.shared.m_nWriteCount = 0 := by
      rw [h.writes]
      refine Nat.eq_zero_of_not_pos fun hpos => ?_
      obtain ⟨j, hj⟩ := Monitor.exists_of_weight_pos hpos
      rcases eq_of_wantsWrite_pos hj with hholds | hwants
      · exact hfree j _ hholds
      · exact hwriter ⟨j, hwants⟩
    cases hstate : s.thread i with
    | outside l =>
        cases l with
        | none => exact absurd hstate hi
        | some eType => exact absurd hstate (hfree i eType)
    | waiting o =>
        obtain ⟨eType, rfl⟩ := h.sleeper i o (.inl hstate)
        cases eType with
        | eLT_Read => exact absurd ⟨i, _, hstate, rfl⟩ (h.readers hnone)
        | eLT_Write => exact absurd ⟨i, .inl hstate⟩ hwriter
    | woken o =>
        obtain ⟨eType, rfl⟩ := h.sleeper i o (.inr hstate)
        cases eType with
        | eLT_Read => exact ⟨i, _, hstate, decide_eq_true hnone⟩
        | eLT_Write => exact absurd ⟨i, .inr hstate⟩ hwriter

/-- A step with which the threads come to an end: one that was woken goes on, or one that
holds the lock unlocks it. -/
def Draining : MonitorLabel LockCall ι → Prop
  | .wake _ => True
  | .enter _ (.unlock _) => True
  | _ => False

/-- Whether a thread uses the lock. -/
def busy : ThreadState (Option ELockType) LockCall → ℕ
  | .outside none => 0
  | _ => 1

/-- Whether a thread has been woken. -/
def awake : ThreadState (Option ELockType) LockCall → ℕ
  | .woken _ => 1
  | _ => 0

/-- What is left to do: every thread that uses the lock may wake all others once. -/
def remaining (s : Users ι) : ℕ :=
  Monitor.weight busy s.thread * (Fintype.card ι + 1) + Monitor.weight awake s.thread

omit [DecidableEq ι] in
theorem weight_le_card {f : ThreadState (Option ELockType) LockCall → ℕ}
    (hf : ∀ state, f state ≤ 1) (t : ι → ThreadState (Option ELockType) LockCall) :
    Monitor.weight f t ≤ Fintype.card ι := by
  have hle : Monitor.weight f t ≤ ∑ _i : ι, 1 := Finset.sum_le_sum fun i _ => hf (t i)
  rwa [← Finset.card_eq_sum_ones, Finset.card_univ] at hle

theorem busy_le_one (state : ThreadState (Option ELockType) LockCall) : busy state ≤ 1 := by
  unfold busy
  split
  · exact Nat.zero_le 1
  · exact le_rfl

theorem awake_le_one (state : ThreadState (Option ELockType) LockCall) : awake state ≤ 1 := by
  unfold awake
  split
  · exact le_rfl
  · exact Nat.zero_le 1

/-- Each step towards the end leaves less to do. -/
theorem Inv.remaining_lt (h : Inv s) (hstep : monitor.Steps s label s')
    (hdraining : Draining label) : remaining s' + 1 ≤ remaining s := by
  cases label with
  | spurious i => cases hdraining
  | enter i o =>
      cases o with
      | lock eType => cases hdraining
      | unlock eType =>
          obtain ⟨hi, hattempt⟩ := hstep
          rcases hattempt.weight_add with ⟨hblocked, -⟩ | ⟨-, -, hweight⟩
          · cases hblocked
          · have hbusy : Monitor.weight busy s'.thread + busy (s.thread i) =
                Monitor.weight busy s.thread + 0 := hweight busy fun _ => rfl
            have hone : busy (s.thread i) = 1 := by
              rw [hi]
              rfl
            have hawake := weight_le_card awake_le_one s'.thread
            have hless : Monitor.weight busy s.thread = Monitor.weight busy s'.thread + 1 := by
              omega
            rw [remaining, remaining, hless, Nat.add_mul]
            omega
  | wake i =>
      obtain ⟨o, hi, hattempt⟩ := hstep
      obtain ⟨eType, rfl⟩ := h.sleeper i o (.inr hi)
      have hsame : Monitor.weight busy s'.thread = Monitor.weight busy s.thread := by
        rcases hattempt.weight_add with ⟨-, -, hweight⟩ | ⟨-, -, hweight⟩
        · have hbusy : Monitor.weight busy s'.thread + busy (s.thread i) =
              Monitor.weight busy s.thread + 1 := hweight busy fun _ => rfl
          rw [hi] at hbusy
          exact Nat.add_right_cancel hbusy
        · have hbusy : Monitor.weight busy s'.thread + busy (s.thread i) =
              Monitor.weight busy s.thread + 1 := hweight busy fun _ => rfl
          rw [hi] at hbusy
          exact Nat.add_right_cancel hbusy
      have hless : Monitor.weight awake s'.thread + 1 = Monitor.weight awake s.thread := by
        have hone : awake (s.thread i) = 1 := by
          rw [hi]
          rfl
        -- `lock` signals nobody.
        have hsleeps (state : ThreadState (Option ELockType) LockCall)
            (hstate : awake state = 0)
            (hthread : s'.thread = Function.update s.thread i state) :
            Monitor.weight awake s'.thread + 1 = Monitor.weight awake s.thread := by
          have hupdate := Monitor.weight_update awake s.thread i state
          rw [hone, hstate, ← hthread] at hupdate
          exact hupdate
        cases hattempt with
        | blocks hblocked => exact hsleeps _ rfl rfl
        | finishes hdone hdelivers =>
            have hnothing : (monitor.finish (.lock eType) s.shared).2 = [] := by
              cases eType <;> rfl
            rw [hnothing] at hdelivers
            cases hdelivers
            exact hsleeps _ rfl rfl
      rw [remaining, remaining, hsame]
      omega

/-- While somebody uses the lock, there is a step towards the end. -/
theorem Inv.exists_draining (h : Inv s) {i : ι} (hi : s.thread i ≠ .outside none) :
    ∃ label s', Draining label ∧ monitor.Steps s label s' := by
  by_cases hfree : ∀ i eType, s.thread i ≠ .outside (some eType)
  · obtain ⟨j, eType, hj, -⟩ := h.progress hfree hi
    obtain ⟨s', hattempt⟩ := Monitor.exists_attempts (M := monitor) j (.lock eType) s
    exact ⟨.wake j, s', trivial, _, hj, hattempt⟩
  · push Not at hfree
    obtain ⟨j, eType, hj⟩ := hfree
    obtain ⟨s', hattempt⟩ := Monitor.exists_attempts (M := monitor) j (.unlock eType) s
    exact ⟨.enter j (.unlock eType), s', trivial, hj, hattempt⟩

end

/-! ## Two threads -/

/-- One thread writes, the other one does nothing. -/
def oneWriter : Users Bool where
  shared := { m_nWriteCount := 1, m_bWrite := true }
  thread := Function.update (fun _ => .outside none) true (.outside (some eLT_Write))

theorem reachable_oneWriter : (users Bool).Reachable oneWriter := by
  have hstart : (users Bool).Reachable unused := .of_init rfl
  exact hstart.step (l := .enter true (.lock eLT_Write)) ⟨rfl, .finishes rfl (.nil _)⟩

end CRWLock

end RealtimeEx.Base
