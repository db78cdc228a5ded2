import Mathlib.Algebra.Order.Ring.Int
import RealtimeEx.Core.Future

/-!
# The contexts of a client that builds chains

Where the callbacks of the continuations are, and what each of the functions that `Future`
is made of does to that.
-/

namespace RealtimeEx.Core.Futures

variable {V : Type} {s : Futures V}

/-- The calls of a continuation, with what it is called with. -/
def runsOf (s : Futures V) (k : ℕ) : List (Option V × UInt32) :=
  (s.started.filter fun call => call.1 = k).map Prod.snd

/-- What holds of the contexts whatever has been fulfilled.  A future that can still be used
has no callback, and a callback is with the future it has been attached to, or has been handed
on from there. -/
structure Inv (s : Futures V) : Prop where
  fresh : ∀ c, s.nContexts ≤ c → s.context c = {} ∧ s.promise c = false ∧ s.bFuture c = false ∧
    s.held c = false ∧ s.made c = none ∧ s.inner c = none
  freshContinuation : ∀ k, s.nContinuations ≤ k → s.predecessor k = none
  nobodyWaits : ∀ c, (s.context c).nCoroutineID = 0
  unused : ∀ c, s.held c = true ∨ (s.promise c = true ∧ s.bFuture c = false) →
    (s.context c).callback = none ∧ (∀ k, s.predecessor k ≠ some c) ∧ ∀ o, s.inner o ≠ some c
  gotten : ∀ c, s.held c = true → s.promise c = true → s.bFuture c = true
  attached : ∀ k c, s.predecessor k = some c →
    ∃ callback, (s.context c).callback = some callback ∧ callback.continuation = k
  stored : ∀ c callback, (s.context c).callback = some callback →
    s.predecessor callback.continuation = some c ∨ ∃ o, s.inner o = some c
  target : ∀ o c, s.inner o = some c → c < s.nContexts
  called : ∀ k, s.runsOf k ≠ [] → s.predecessor k ≠ none
  nodup : (s.running.map FutureCallback.continuation).Nodup
  running : ∀ callback ∈ s.running, s.runsOf callback.continuation ≠ []
  outerRunning : ∀ k p, .callback1 k p ∈ s.running → s.made p = some k
  outerStored : ∀ c k p, (s.context c).callback = some (.callback1 k p) → s.made p = some k
  finished : ∀ p c, s.inner p = some c →
    ∃ k, s.made p = some k ∧ s.runsOf k ≠ [] ∧ k ∉ s.running.map FutureCallback.continuation
  own : ∀ c, s.promise c = true → s.made c = none

theorem runsOf_run (callback : FutureCallback) (val : Option V) (nErrorCode : UInt32) (k : ℕ) :
    (s.run callback val nErrorCode).runsOf k =
      if callback.continuation = k then s.runsOf k ++ [(val, nErrorCode)] else s.runsOf k := by
  by_cases h : callback.continuation = k
  · simp [runsOf, run, h]
  · simp [runsOf, run, h]

theorem runsOf_eq_nil (h : Inv s) {k : ℕ} (hpred : s.predecessor k = none) : s.runsOf k = [] := by
  by_contra hne
  exact h.called k hne hpred

theorem Inv.lt_of_held (h : Inv s) {c : ℕ} (hheld : s.held c = true) :
    c < s.nContexts := by
  by_contra hle
  have := h.fresh c (by omega)
  grind

theorem Inv.lt_of_promise (h : Inv s) {c : ℕ} (hpromise : s.promise c = true) :
    c < s.nContexts := by
  by_contra hle
  have := h.fresh c (by omega)
  grind

theorem Inv.lt_of_predecessor (h : Inv s) (k c : ℕ) (hpred : s.predecessor k = some c) :
    c < s.nContexts := by
  by_contra hle
  obtain ⟨callback, hcallback, _⟩ := h.attached k c hpred
  have := h.fresh c (by omega)
  grind

theorem inv_makeShared (h : Inv s) {pContext : SFutureContext V}
    (hcallback : pContext.callback = none) (hwait : pContext.nCoroutineID = 0) :
    Inv (s.makeShared pContext) where
  fresh := by
    have := h.fresh
    simp only [makeShared, setContext]
    grind
  freshContinuation := h.freshContinuation
  nobodyWaits := by
    have := h.nobodyWaits
    simp only [makeShared, setContext]
    grind
  unused := by
    have := h.unused
    simp only [makeShared, setContext]
    grind
  gotten := h.gotten
  attached := by
    have := h.attached
    have := h.fresh s.nContexts
    simp only [makeShared, setContext]
    grind
  stored := by
    have := h.stored
    simp only [makeShared, setContext]
    grind
  target o c hinner := Nat.lt_succ_of_lt (h.target o c hinner)
  called := h.called
  nodup := h.nodup
  running := h.running
  outerRunning := h.outerRunning
  outerStored := by
    have := h.outerStored
    simp only [makeShared, setContext]
    grind
  finished := h.finished
  own := h.own

/-- A promise with a new context. -/
theorem inv_newPromise (h : Inv s) : Inv s.newPromise where
  __ := inv_makeShared h (show ({} : SFutureContext V).callback = none from rfl) rfl
  fresh := by
    have := h.fresh
    simp only [newPromise, makeShared, setContext]
    grind
  unused := by
    have := h.unused
    have := h.lt_of_predecessor
    have := h.target
    simp only [newPromise, makeShared, setContext]
    grind
  gotten := by
    have := h.gotten
    have := h.fresh s.nContexts
    simp only [newPromise, makeShared, setContext]
    grind
  own := by
    have := h.own
    have := h.fresh s.nContexts
    simp only [newPromise, makeShared, setContext]
    grind

/-- The client is given a future that is of no use yet. -/
theorem inv_setHeld (h : Inv s) {c : ℕ} (hlt : c < s.nContexts)
    (hcallback : (s.context c).callback = none) (hpred : ∀ k, s.predecessor k ≠ some c)
    (hinner : ∀ o, s.inner o ≠ some c) (hgotten : s.promise c = true → s.bFuture c = true) :
    Inv (s.setHeld c true) where
  __ := h
  fresh := by
    have := h.fresh
    simp only [setHeld]
    grind
  unused := by
    have := h.unused
    simp only [setHeld]
    grind
  gotten := by
    have := h.gotten
    simp only [setHeld]
    grind

theorem inv_getFuture (h : Inv s) {c : ℕ} (hpromise : s.promise c = true) :
    Inv (s.getFuture c) := by
  rw [getFuture]
  split
  · exact h
  · rename_i hgot
    have hunused := h.unused c (.inr ⟨hpromise, by simpa using hgot⟩)
    have hlt := h.lt_of_promise hpromise
    exact
      { __ := h
        fresh := by
          have := h.fresh
          simp only [setHeld]
          grind
        unused := by
          have := h.unused
          simp only [setHeld]
          grind
        gotten := by
          have := h.gotten
          simp only [setHeld]
          grind }

/-- The next continuation. -/
theorem inv_attach (h : Inv s) {c : ℕ} (hheld : s.held c = true)
    {callback : FutureCallback} (hnext : callback.continuation = s.nContinuations)
    (hmade : ∀ k p, callback = .callback1 k p → s.made p = some k) :
    Inv (s.attach c callback) where
  fresh := by
    have := h.fresh
    have := h.lt_of_held hheld
    simp only [attach, setContext, setHeld]
    grind
  freshContinuation := by
    have := h.freshContinuation
    simp only [attach, setContext, setHeld]
    grind
  nobodyWaits := by
    have := h.nobodyWaits
    simp only [attach, setContext, setHeld]
    grind
  unused := by
    have := h.unused
    have := h.gotten c hheld
    simp only [attach, setContext, setHeld]
    grind
  gotten := by
    have := h.gotten
    simp only [attach, setContext, setHeld]
    grind
  attached := by
    have := h.attached
    have := h.unused c (.inl hheld)
    simp only [attach, setContext, setHeld]
    grind
  stored := by
    have := h.stored
    have := h.freshContinuation s.nContinuations
    simp only [attach, setContext, setHeld]
    grind
  target := h.target
  called k hk := by
    have := h.called k hk
    simp only [attach, setContext, setHeld]
    grind
  nodup := h.nodup
  running := h.running
  outerRunning := h.outerRunning
  outerStored := by
    have := h.outerStored
    simp only [attach, setContext, setHeld]
    grind
  finished := h.finished
  own := h.own

/-- The first call of a continuation. -/
theorem inv_run (h : Inv s) {callback : FutureCallback} {val : Option V} {nErrorCode : UInt32}
    (hpred : s.predecessor callback.continuation ≠ none)
    (hfirst : s.runsOf callback.continuation = [])
    (hmade : ∀ k p, callback = .callback1 k p → s.made p = some k) :
    Inv (s.run callback val nErrorCode) where
  fresh := h.fresh
  freshContinuation := h.freshContinuation
  nobodyWaits := h.nobodyWaits
  unused := h.unused
  gotten := h.gotten
  attached := h.attached
  stored := h.stored
  target := h.target
  called := by
    have := h.called
    intro k
    rw [runsOf_run]
    simp only [run]
    grind
  nodup := by
    have hnot : callback.continuation ∉ s.running.map FutureCallback.continuation := by
      intro hmem
      obtain ⟨callback', hmem', heq⟩ := List.mem_map.mp hmem
      exact h.running callback' hmem' (by rw [heq, hfirst])
    exact List.nodup_cons.mpr ⟨hnot, h.nodup⟩
  running := by
    have := h.running
    intro callback' hmem
    rw [runsOf_run]
    rcases List.mem_cons.mp hmem with rfl | hmem
    · simp
    · grind
  outerRunning := by
    have := h.outerRunning
    simp only [run]
    grind
  outerStored := h.outerStored
  finished := by
    intro p c hinner
    obtain ⟨k, hmade', hruns, hnot⟩ := h.finished p c hinner
    refine ⟨k, hmade', ?_, ?_⟩
    · rw [runsOf_run]
      grind
    · grind [run]
  own := h.own

/-- A context becomes ready. -/
theorem inv_setContext (h : Inv s) {c : ℕ} (hlt : c < s.nContexts) {bReady : Bool}
    {val : Option V} {nErrorCode : UInt32} :
    Inv (s.setContext c { s.context c with bReady, val, nErrorCode }) where
  __ := h
  fresh := by
    have := h.fresh
    simp only [setContext]
    grind
  nobodyWaits := by
    have := h.nobodyWaits
    simp only [setContext]
    grind
  unused := by
    have := h.unused
    simp only [setContext]
    grind
  attached := by
    have := h.attached
    simp only [setContext]
    grind
  stored := by
    have := h.stored
    simp only [setContext]
    grind
  outerStored := by
    have := h.outerStored
    simp only [setContext]
    grind

/-- A running continuation returns. -/
theorem inv_pop (h : Inv s) {callback : FutureCallback} {running : List FutureCallback}
    (hrunning : s.running = callback :: running) : Inv { s with running } where
  __ := h
  nodup := by
    have := h.nodup
    rw [hrunning] at this
    exact (List.nodup_cons.mp this).2
  running callback' hmem := h.running callback' (hrunning ▸ List.mem_cons_of_mem _ hmem)
  outerRunning k p hmem := h.outerRunning k p (hrunning ▸ List.mem_cons_of_mem _ hmem)
  finished p c hinner := by
    obtain ⟨k, hmade, hruns, hnot⟩ := h.finished p c hinner
    rw [hrunning] at hnot
    exact ⟨k, hmade, hruns, fun hmem => hnot (List.mem_cons_of_mem _ hmem)⟩

/-- A continuation that is not running any more hands its callback on. -/
theorem inv_handOn (h : Inv s) {k p c : ℕ} (hheld : s.held c = true)
    (hinner : s.inner p = none) (hmade : s.made p = some k) (hruns : s.runsOf k ≠ [])
    (hnot : k ∉ s.running.map FutureCallback.continuation) :
    Inv (s.handOn p c) where
  fresh := by
    have := h.fresh
    have := h.lt_of_held hheld
    simp only [handOn, setContext, setHeld]
    grind
  freshContinuation := h.freshContinuation
  nobodyWaits := by
    have := h.nobodyWaits
    simp only [handOn, setContext, setHeld]
    grind
  unused := by
    have := h.unused
    have := h.gotten c hheld
    simp only [handOn, setContext, setHeld]
    grind
  gotten := by
    have := h.gotten
    simp only [handOn, setContext, setHeld]
    grind
  attached := by
    have := h.attached
    have := h.unused c (.inl hheld)
    simp only [handOn, setContext, setHeld]
    grind
  stored c' callback hcallback := by
    by_cases hc : c' = c
    · exact .inr ⟨p, by rw [hc]; exact Function.update_self _ _ _⟩
    · have hcallback' : (s.context c').callback = some callback :=
        (congrArg SFutureContext.callback (Function.update_of_ne hc _ _)).symm.trans hcallback
      rcases h.stored c' callback hcallback' with hpred | ⟨o, ho⟩
      · exact .inl hpred
      · have hne : o ≠ p := by
          rintro rfl
          rw [hinner] at ho
          cases ho
        exact .inr ⟨o, (Function.update_of_ne hne _ _).trans ho⟩
  target := by
    have := h.target
    have := h.lt_of_held hheld
    simp only [handOn, setContext, setHeld]
    grind
  called := h.called
  nodup := h.nodup
  running := h.running
  outerRunning := h.outerRunning
  outerStored := by
    have := h.outerStored
    simp only [handOn, setContext, setHeld]
    grind
  finished := by
    intro p' c' hinner'
    by_cases hp : p' = p
    · exact ⟨k, hp ▸ hmade, hruns, hnot⟩
    · exact h.finished p' c' ((Function.update_of_ne hp _ _).symm.trans hinner')
  own := h.own

/-- A new context is made for a continuation. -/
theorem inv_made (h : Inv s) {p : ℕ} (k : ℕ) (hlt : p < s.nContexts)
    (hpromise : s.promise p = false) (hmade : s.made p = none) (hinner : s.inner p = none) :
    Inv { s with made := Function.update s.made p (some k) } where
  __ := h
  fresh := by
    have := h.fresh
    grind
  outerRunning := by
    have := h.outerRunning
    grind
  outerStored := by
    have := h.outerStored
    grind
  finished p' c' hinner' := by
    have hne : p' ≠ p := by
      rintro rfl
      rw [hinner] at hinner'
      cases hinner'
    obtain ⟨k', hmade', hrest⟩ := h.finished p' c' hinner'
    exact ⟨k', (Function.update_of_ne hne _ _).trans hmade', hrest⟩
  own := by
    have := h.own
    grind

theorem inv_init : Inv ({} : Futures V) where
  fresh _ _ := ⟨rfl, rfl, rfl, rfl, rfl, rfl⟩
  freshContinuation _ _ := rfl
  nobodyWaits _ := rfl
  unused c hc := by simp at hc
  gotten c hc := by simp at hc
  attached k c hpred := by simp at hpred
  stored c callback hcallback := by simp at hcallback
  target o c hinner := by simp at hinner
  called k hk := absurd rfl hk
  nodup := List.nodup_nil
  running _ hmem := by simp at hmem
  outerRunning _ _ hmem := by simp at hmem
  outerStored c k p hcallback := by simp at hcallback
  finished p c hinner := by simp at hinner
  own _ _ := rfl

end RealtimeEx.Core.Futures
