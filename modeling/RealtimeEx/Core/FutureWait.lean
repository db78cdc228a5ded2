import Mathlib.Algebra.Order.Ring.Int
import RealtimeEx.Core.Future
import RealtimeEx.Support.History

/-!
# Coroutines that wait for a future

`CFuture::wait` stores the number of the coroutine in the context and suspends it, whether
the future is ready or not.  `setValue` returns at once if a number is stored, and nothing
else looks at it, so a coroutine comes back only if some client resumes it by its number.

A continuation may run on a coroutine that is suspended within it.  The continuations that
are running need not return in the reverse order of their calls, then.
-/

namespace RealtimeEx.Core

/-- The contexts, and the coroutines that are suspended in `wait` with the contexts that they
wait for. -/
structure Waiting (V : Type) where
  futures : Futures V := {}
  suspended : List (UInt64 × ℕ) := []

/-- What happens: something that a client does with promises and futures, the return of one
of the continuations that are running, a call of `wait` on a coroutine, and a call of
`coroutine::resume`. -/
inductive WaitOp (V : Type)
  | client (op : Futures.Op V)
  | returnOf (i : ℕ) (sNewFuture : Option ℕ)
  | wait (nCoroutineID : UInt64) (pContext : Option ℕ)
  | resume (nCoroutineID : UInt64)

namespace Futures

variable {V : Type}

/-- The return of the `i`th of the continuations that are running. -/
def returnOf (s : Futures V) (i : ℕ) (sNewFuture : Option ℕ) : Futures V :=
  match s.running[i]? with
  | none => s
  | some (.fn _) => { s with running := s.running.eraseIdx i }
  | some (.callback0 _) => { s with running := s.running.eraseIdx i }.returned0 sNewFuture
  | some (.callback1 _ pContext) =>
      { s with running := s.running.eraseIdx i }.returned1 pContext sNewFuture

theorem return_eq_returnOf (s : Futures V) (sNewFuture : Option ℕ) :
    s.return sNewFuture = s.returnOf 0 sNewFuture := by
  rw [«return», returnOf]
  cases hrunning : s.running with
  | nil => rfl
  | cons callback running => cases callback <;> rfl

end Futures

namespace Waiting

variable {V : Type}

/-- `wait`.  The warning for the root coroutine is left out.  A coroutine that is suspended
does not call it. -/
def wait (s : Waiting V) (nCoroutineID : UInt64) : Option ℕ → Waiting V
  | none => s
  | some c =>
      if (s.futures.context c).nCoroutineID ≠ 0 then
        s
      else if nCoroutineID = 0 then
        s
      else
        { futures := s.futures.setContext c { s.futures.context c with nCoroutineID }
          suspended := (nCoroutineID, c) :: s.suspended }

/-- A call of `wait` that can be made: the future exists, and the coroutine is running. -/
def CanCall (s : Waiting V) (nCoroutineID : UInt64) (pContext : Option ℕ) : Prop :=
  (∀ c ∈ pContext, c < s.futures.nContexts) ∧ nCoroutineID ∉ s.suspended.map Prod.fst

instance (s : Waiting V) (nCoroutineID : UInt64) :
    ∀ pContext, Decidable (s.CanCall nCoroutineID pContext)
  | none => decidable_of_iff (nCoroutineID ∉ s.suspended.map Prod.fst) (by simp [CanCall])
  | some c =>
      decidable_of_iff
        (c < s.futures.nContexts ∧ nCoroutineID ∉ s.suspended.map Prod.fst)
        (by simp [CanCall])

def step (s : Waiting V) : WaitOp V → Waiting V
  | .client op => { s with futures := s.futures.act op }
  | .returnOf i sNewFuture => { s with futures := s.futures.returnOf i sNewFuture }
  | .wait nCoroutineID pContext =>
      if s.CanCall nCoroutineID pContext then s.wait nCoroutineID pContext else s
  | .resume nCoroutineID =>
      { s with suspended := s.suspended.filter fun waiter => waiter.1 ≠ nCoroutineID }

/-- No coroutine is suspended for a future that is ready. -/
def Safe (s : Waiting V) : Prop :=
  ∀ waiter ∈ s.suspended, (s.futures.context waiter.2).bReady = false

end Waiting

namespace Futures

variable {V : Type} {s : Futures V}

/-- The context of the future that a `then_r` has returned. -/
def thenContext : FutureCallback → Option ℕ
  | .callback1 _ pContext => some pContext
  | _ => none

/-- The context that the return of a continuation makes ready. -/
def returnReadies (s : Futures V) (i : ℕ) (sNewFuture : Option ℕ) : Option ℕ :=
  if sNewFuture.any fun c => (s.context c).bReady then s.running[i]?.bind thenContext else none

/-- The context that an operation makes ready, unless it is already. -/
def readies (s : Futures V) : Op V → Option ℕ
  | .setValue c _ _ => some c
  | .return sNewFuture => s.returnReadies 0 sNewFuture
  | _ => none

/-- A new context changes no other. -/
theorem context_makeShared {d : ℕ} (hlt : d < s.nContexts) (pContext : SFutureContext V) :
    (s.makeShared pContext).context d = s.context d :=
  Function.update_of_ne (Nat.ne_of_lt hlt) _ _

theorem bReady_setValue {d : ℕ} (hnot : (s.context d).bReady = false) (c : ℕ)
    (val : Option V) (nErrorCode : UInt32) :
    ((s.setValue c val nErrorCode).context d).bReady = true ↔ c = d := by
  rw [setValue]
  by_cases hready : (s.context c).bReady = true
  · rw [if_pos hready, hnot]
    refine iff_of_false (by decide) ?_
    rintro rfl
    rw [hready] at hnot
    cases hnot
  · rw [if_neg hready]
    have hset : ((s.setContext c { s.context c with
        val, nErrorCode, bReady := true }).context d).bReady = true ↔ c = d := by
      simp only [setContext, Function.update_apply]
      by_cases heq : d = c
      · simp [heq]
      · simp [heq, hnot, Ne.symm heq]
    dsimp only
    split
    · exact hset
    · rw [context_runCallback]
      exact hset

theorem bReady_returned1 {d : ℕ} (hnot : (s.context d).bReady = false) (pContext c : ℕ) :
    ((s.returned1 pContext (some c)).context d).bReady = true ↔
      pContext = d ∧ (s.context c).bReady = true := by
  have hcopied : (((s.handOn pContext c).copyValue pContext c).context d).bReady = true ↔
      pContext = d ∧ (s.context c).bReady = true := by
    simp only [handOn, copyValue, setContext, setHeld, Function.update_apply]
    grind
  rw [returned1]
  split
  · rw [context_runCallback]
    exact hcopied
  · exact hcopied

/-- What the return of a continuation does to a context that is not ready. -/
theorem bReady_returnOf {d : ℕ} (hlt : d < s.nContexts)
    (hnot : (s.context d).bReady = false) (i : ℕ) (sNewFuture : Option ℕ) :
    ((s.returnOf i sNewFuture).context d).bReady = true ↔
      s.returnReadies i sNewFuture = some d := by
  rw [returnOf, returnReadies]
  cases s.running[i]? with
  | none => simp [hnot]
  | some callback =>
      cases callback with
      | fn k => simp [hnot, thenContext]
      | callback0 k =>
          cases sNewFuture with
          | none =>
              have hnew := context_makeShared
                (s := { s with running := s.running.eraseIdx i }) hlt {}
              dsimp only [returned0, setHeld]
              rw [hnew, hnot]
              simp
          | some c =>
              simp only [returned0, setContext, Function.update_apply]
              grind [thenContext]
      | callback1 k pContext =>
          cases sNewFuture with
          | none => simp [returned1, hnot]
          | some c =>
              have hreturned := bReady_returned1
                (s := { s with running := s.running.eraseIdx i }) hnot pContext c
              dsimp only at hreturned ⊢
              rw [hreturned]
              by_cases hready : (s.context c).bReady = true
              · simp [hready, thenContext]
              · simp [hready]

/-- What an operation does to a context that is not ready. -/
theorem bReady_act {d : ℕ} (hlt : d < s.nContexts) (hnot : (s.context d).bReady = false)
    (op : Op V) : ((s.act op).context d).bReady = true ↔ s.readies op = some d := by
  cases op with
  | newPromise =>
      simp only [act, newPromise, readies]
      rw [context_makeShared hlt]
      simp [hnot]
  | getFuture c =>
      simp only [act, getFuture, readies]
      split
      · simp [hnot]
      · simp [setHeld, hnot]
  | setValue c val nErrorCode =>
      rw [act, bReady_setValue hnot, readies, Option.some.injEq]
  | createFuture val =>
      simp only [act, createFuture, setHeld, readies]
      rw [context_makeShared hlt]
      simp [hnot]
  | «then» c =>
      simp only [act, «then», readies]
      split
      · rw [context_runCallback, bReady_attach]
        simp [hnot]
      · rw [bReady_attach]
        simp [hnot]
  | thenR c =>
      simp only [act, thenR, readies]
      split
      · rw [context_runCallback, bReady_attach]
        simp [hnot]
      · simp only [setHeld]
        rw [bReady_attach, context_makeShared hlt]
        simp [hnot]
  | «return» sNewFuture =>
      rw [act, return_eq_returnOf, bReady_returnOf hlt hnot, readies]

theorem nContexts_runCallback (s : Futures V) (c : ℕ) :
    (s.runCallback c).nContexts = s.nContexts := by
  rw [runCallback]
  cases (s.context c).callback with
  | none => rfl
  | some callback => rfl

/-- Contexts are only added. -/
theorem nContexts_le_returnOf (s : Futures V) (i : ℕ) (sNewFuture : Option ℕ) :
    s.nContexts ≤ (s.returnOf i sNewFuture).nContexts := by
  rw [returnOf]
  cases s.running[i]? with
  | none => exact Nat.le_refl _
  | some callback =>
      cases callback with
      | fn k => exact Nat.le_refl _
      | callback0 k =>
          cases sNewFuture with
          | none => exact Nat.le_succ _
          | some c => exact Nat.le_refl _
      | callback1 k pContext =>
          cases sNewFuture with
          | none => exact Nat.le_refl _
          | some c =>
              simp only [returned1]
              split
              · rw [nContexts_runCallback]
                exact Nat.le_refl _
              · exact Nat.le_refl _

theorem nContexts_le_act (s : Futures V) (op : Op V) : s.nContexts ≤ (s.act op).nContexts := by
  cases op with
  | newPromise => exact Nat.le_succ _
  | getFuture c =>
      rw [act, getFuture]
      split <;> exact Nat.le_refl _
  | setValue c val nErrorCode =>
      rw [act, setValue]
      split
      · exact Nat.le_refl _
      · dsimp only
        split
        · exact Nat.le_refl _
        · rw [nContexts_runCallback]
          exact Nat.le_refl _
  | createFuture val => exact Nat.le_succ _
  | «then» c =>
      simp only [act, «then»]
      split
      · rw [nContexts_runCallback]
        exact Nat.le_refl _
      · exact Nat.le_refl _
  | thenR c =>
      simp only [act, thenR]
      split
      · rw [nContexts_runCallback]
        exact Nat.le_refl _
      · exact Nat.le_succ _
  | «return» sNewFuture =>
      rw [act, return_eq_returnOf]
      exact nContexts_le_returnOf s 0 sNewFuture

end Futures

namespace Waiting

variable {V : Type}

/-- Every suspended coroutine waits for a context that exists. -/
def Known (s : Waiting V) : Prop := ∀ waiter ∈ s.suspended, waiter.2 < s.futures.nContexts

/-- Nobody waits for the context, if there is one. -/
def NobodyWaits (s : Waiting V) (pContext : Option ℕ) : Prop :=
  ∀ c ∈ pContext, ∀ waiter ∈ s.suspended, waiter.2 ≠ c

/-- Nothing is made ready that a coroutine is suspended for, and no coroutine is suspended
for what is ready. -/
def Resumes (s : Waiting V) : WaitOp V → Prop
  | .client op => s.NobodyWaits (s.futures.readies op)
  | .returnOf i sNewFuture => s.NobodyWaits (s.futures.returnReadies i sNewFuture)
  | .wait nCoroutineID pContext =>
      s.CanCall nCoroutineID pContext → nCoroutineID ≠ 0 →
        ∀ c ∈ pContext, (s.futures.context c).nCoroutineID = 0 →
          (s.futures.context c).bReady = false
  | .resume _ => True

/-- The two outcomes of `wait`. -/
theorem wait_cases (s : Waiting V) (nCoroutineID : UInt64) (pContext : Option ℕ) :
    (s.wait nCoroutineID pContext = s ∧
        ∀ c ∈ pContext, nCoroutineID ≠ 0 → (s.futures.context c).nCoroutineID ≠ 0) ∨
      ∃ c, pContext = some c ∧ nCoroutineID ≠ 0 ∧ (s.futures.context c).nCoroutineID = 0 ∧
        s.wait nCoroutineID pContext =
          { futures := s.futures.setContext c { s.futures.context c with nCoroutineID }
            suspended := (nCoroutineID, c) :: s.suspended } := by
  cases pContext with
  | none => exact .inl ⟨rfl, by rintro c ⟨⟩⟩
  | some c =>
      rw [wait]
      by_cases hset : (s.futures.context c).nCoroutineID ≠ 0
      · rw [if_pos hset]
        refine .inl ⟨rfl, ?_⟩
        rintro d ⟨⟩ -
        exact hset
      · rw [if_neg hset]
        by_cases hroot : nCoroutineID = 0
        · rw [if_pos hroot]
          exact .inl ⟨rfl, fun d _ hne => absurd hroot hne⟩
        · rw [if_neg hroot]
          exact .inr ⟨c, rfl, hroot, not_not.mp hset, rfl⟩

theorem known_step {s : Waiting V} (h : s.Known) (op : WaitOp V) : (s.step op).Known := by
  cases op with
  | client op =>
      intro waiter hwaiter
      exact Nat.lt_of_lt_of_le (h waiter hwaiter) (Futures.nContexts_le_act s.futures op)
  | returnOf i sNewFuture =>
      intro waiter hwaiter
      exact Nat.lt_of_lt_of_le (h waiter hwaiter)
        (Futures.nContexts_le_returnOf s.futures i sNewFuture)
  | wait nCoroutineID pContext =>
      rw [step]
      by_cases hcan : s.CanCall nCoroutineID pContext
      · rw [if_pos hcan]
        obtain ⟨hwait, -⟩ | ⟨c, rfl, -, -, hwait⟩ := s.wait_cases nCoroutineID pContext
        · rw [hwait]
          exact h
        · rw [hwait]
          intro waiter hwaiter
          obtain rfl | hbefore := List.mem_cons.mp hwaiter
          · exact hcan.1 c rfl
          · exact h waiter hbefore
      · rw [if_neg hcan]
        exact h
  | resume nCoroutineID =>
      intro waiter hwaiter
      exact h waiter (List.mem_filter.mp hwaiter).1

/-- Storing the number of a coroutine makes nothing ready. -/
theorem bReady_setCoroutineID (futures : Futures V) (c : ℕ) (nCoroutineID : UInt64) (d : ℕ) :
    ((futures.setContext c { futures.context c with nCoroutineID }).context d).bReady =
      (futures.context d).bReady := by
  simp only [Futures.setContext, Function.update_apply]
  split
  · rename_i heq
    rw [heq]
  · rfl

theorem safe_step_iff {s : Waiting V} (hknown : s.Known) (hsafe : s.Safe) (op : WaitOp V) :
    (s.step op).Safe ↔ s.Resumes op := by
  have hmade : ∀ (futures : Futures V) (pContext : Option ℕ),
      (∀ d < s.futures.nContexts, (s.futures.context d).bReady = false →
        ((futures.context d).bReady = true ↔ pContext = some d)) →
      (({ s with futures } : Waiting V).Safe ↔ s.NobodyWaits pContext) := by
    intro futures pContext hreadies
    constructor
    · rintro h c rfl waiter hwaiter rfl
      have hready := (hreadies _ (hknown waiter hwaiter) (hsafe waiter hwaiter)).mpr rfl
      rw [h waiter hwaiter] at hready
      cases hready
    · intro h waiter hwaiter
      have hiff := hreadies _ (hknown waiter hwaiter) (hsafe waiter hwaiter)
      rw [← Bool.not_eq_true, hiff]
      exact fun hsome => h _ hsome waiter hwaiter rfl
  cases op with
  | client op =>
      exact hmade _ _ fun d hlt hnot => Futures.bReady_act hlt hnot op
  | returnOf i sNewFuture =>
      exact hmade _ _ fun d hlt hnot => Futures.bReady_returnOf hlt hnot i sNewFuture
  | wait nCoroutineID pContext =>
      rw [step, Resumes]
      by_cases hcan : s.CanCall nCoroutineID pContext
      · rw [if_pos hcan]
        obtain ⟨hwait, hset⟩ | ⟨c, rfl, hroot, hunset, hwait⟩ :=
          s.wait_cases nCoroutineID pContext
        · rw [hwait]
          exact iff_of_true hsafe fun _ hroot c hc hunset => absurd hunset (hset c hc hroot)
        · rw [hwait]
          constructor
          · rintro h - - d ⟨⟩ -
            have hnew := h (nCoroutineID, c) List.mem_cons_self
            rwa [bReady_setCoroutineID] at hnew
          · intro h waiter hwaiter
            dsimp only
            rw [bReady_setCoroutineID]
            obtain rfl | hbefore := List.mem_cons.mp hwaiter
            · exact h hcan hroot c rfl hunset
            · exact hsafe waiter hbefore
      · rw [if_neg hcan]
        exact iff_of_true hsafe fun h => absurd h hcan
  | resume nCoroutineID =>
      refine iff_of_true (fun waiter hwaiter => ?_) trivial
      exact hsafe waiter (List.mem_filter.mp hwaiter).1

/-- In every history, no coroutine is left suspended for a future that is ready if and only
if nothing is made ready that a coroutine waits for, and none waits for what is ready. -/
theorem safe_iff_resumes (ops : List (WaitOp V)) :
    (∀ done, done <+: ops → (done.foldl step {}).Safe) ↔ Meets step Resumes {} ops := by
  have hknown : ({} : Waiting V).Known := by
    rintro waiter ⟨⟩
  have hsafe : ({} : Waiting V).Safe := by
    rintro waiter ⟨⟩
  exact throughout_iff_of_kept (I := Known) (P := Safe) (fun s op h _ _ => known_step h op)
    (fun s op hknown hsafe => safe_step_iff hknown hsafe op) hknown hsafe ops

instance (s : Waiting V) : Decidable s.Safe :=
  inferInstanceAs
    (Decidable (∀ waiter ∈ s.suspended, (s.futures.context waiter.2).bReady = false))

/-- A coroutine waits for the future of a promise, and the promise is fulfilled. -/
theorem not_safe_waited_future :
    ¬ ((([.client .newPromise, .client (.getFuture 0), .wait 1 (some 0),
      .client (.setValue 0 (some ()) 0)] : List (WaitOp Unit)).foldl step {}).Safe) := by
  decide

/-- A future is ready, and a coroutine waits for it. -/
example :
    ¬ ((([.client (.createFuture (some ())), .wait 1 (some 0)] :
      List (WaitOp Unit)).foldl step {}).Safe) := by
  decide

end Waiting

end RealtimeEx.Core
