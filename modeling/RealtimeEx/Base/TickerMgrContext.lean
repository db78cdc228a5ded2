import RealtimeEx.Base.TickerMgr

/-!
# Contexts of tickers

The interval and the context of a registration stay what they were when the
ticker was registered.  What a callback sees of the context depends on how the
manager dispatches: the manager's own callback asks the ticker, and a ticker
that fires once has been unregistered by then.
-/

set_option linter.unusedSectionVars false

namespace RealtimeEx.Base

namespace TickerMgr

variable {τ : Type*} [DecidableEq τ]

/-! ## What a callback sees -/

/-- A manager's own callback is told nothing about a ticker that fires
once. -/
theorem dispatchContext_of_once {s : TickerMgr τ} {id : ℕ}
    {n : TickerNode τ} {ticker : τ}
    (hcallback : s.callback = true) (honce : n.intervalTime = 0) :
    (s.beginDispatch id n ticker).dispatchContext n ticker = 0 := by
  simp [beginDispatch, honce, dispatchContext, getContext, setNode,
    setContext, hcallback]

theorem callback_beginDispatch (s : TickerMgr τ) (id : ℕ) (n : TickerNode τ)
    (ticker : τ) : (s.beginDispatch id n ticker).callback = s.callback := by
  unfold beginDispatch
  split <;> rfl

/-- The callback of a ticker itself is given the context of its node. -/
theorem dispatchContext_of_not_callback {s : TickerMgr τ} {id : ℕ}
    {n : TickerNode τ} {ticker : τ} (hcallback : s.callback = false) :
    (s.beginDispatch id n ticker).dispatchContext n ticker = n.context := by
  simp [dispatchContext, callback_beginDispatch, hcallback]

/-! ## Registrations keep their interval and context -/

/-- Every registration in force satisfies `P`. -/
def Registered (P : τ → ℕ → UInt64 → Prop) (s : TickerMgr τ) : Prop :=
  ∀ id n ticker, s.node id = some n → n.pTicker = some ticker →
    P ticker n.intervalTime n.context

section

variable {P : τ → ℕ → UInt64 → Prop} {s : TickerMgr τ}

theorem Registered.of_node_eq (h : Registered P s) {s' : TickerMgr τ}
    (hnode : s'.node = s.node) : Registered P s' := by
  unfold Registered
  rw [hnode]
  exact h

theorem Registered.setNode (h : Registered P s) {id : ℕ}
    {n : Option (TickerNode τ)}
    (hn : ∀ m ticker, n = some m → m.pTicker = some ticker →
      P ticker m.intervalTime m.context) :
    Registered P (s.setNode id n) := by
  intro i m ticker hm hticker
  by_cases hi : i = id
  · subst hi
    have hnm : n = some m := by simpa [TickerMgr.setNode] using hm
    exact hn m ticker hnm hticker
  · have hm' : s.node i = some m := by
      simpa [TickerMgr.setNode, hi] using hm
    exact h i m ticker hm' hticker

theorem Registered.registerTicker (h : Registered P s) {ticker : τ}
    {startTime intervalTime : ℕ} {context : UInt64}
    (hP : P ticker intervalTime context) :
    Registered P (s.registerTicker ticker startTime intervalTime context) := by
  have hset : Registered P (s.setNode s.nextNode
      (some ⟨some ticker, s.logicTime + startTime, intervalTime, context⟩)) :=
    h.setNode (by
      intro m ticker' hm hticker
      cases hm
      cases hticker
      exact hP)
  exact hset.of_node_eq (by simp [TickerMgr.registerTicker, setContext,
    TickerMgr.setNode])

theorem Registered.unregisterTicker (h : Registered P s) (ticker : τ) :
    Registered P (s.unregisterTicker ticker) := by
  unfold TickerMgr.unregisterTicker
  split
  · exact h
  · rename_i id hcontext
    dsimp only
    split
    · exact Registered.setNode (h.of_node_eq rfl) (by simp)
    · apply Registered.setNode (h.of_node_eq rfl)
      intro m ticker' hm hticker
      obtain ⟨n, -, rfl⟩ := Option.map_eq_some_iff.mp hm
      cases hticker

/-- A step keeps a property of all registrations if the registrations it makes
have it. -/
theorem Registered.step (h : Registered P s) {s' : TickerMgr τ} {l : Label τ}
    (hstep : Step s l s')
    (hregister : ∀ id ticker time startTime intervalTime context,
      l = .register id ticker time startTime intervalTime context →
        P ticker intervalTime context) : Registered P s' := by
  cases hstep with
  | register => exact h.registerTicker (hregister _ _ _ _ _ _ rfl)
  | unregister => exact h.unregisterTicker _
  | update => exact h.of_node_eq rfl
  | finish => exact h.of_node_eq rfl
  | enter => exact h.of_node_eq (by split <;> rfl)
  | cascadeMove => exact h.of_node_eq (by simp [moveTicker])
  | cascadeEnd => exact h.of_node_eq (by split <;> rfl)
  | @dispatch now id rest n ticker hphase hlist hnode hticker =>
      unfold beginDispatch
      split
      · refine Registered.of_node_eq (s := s.setNode id _) ?_ rfl
        apply h.setNode
        intro m ticker' hm hticker'
        cases hm
        cases hticker'
      · exact h.of_node_eq rfl
  | @returned now id n hphase hnode =>
      unfold endDispatch
      split
      · exact Registered.setNode (h.of_node_eq rfl) (by simp)
      · apply Registered.setNode (h.of_node_eq rfl)
        intro m ticker hm hticker
        cases hm
        exact h id n ticker hnode hticker
  | drained => exact h.of_node_eq rfl
  | @reinsert now id rest n hphase htemp hnode =>
      unfold TickerMgr.reinsert
      split
      · exact Registered.setNode (h.of_node_eq rfl) (by simp)
      · exact h.of_node_eq (by simp)
  | advance => exact h.of_node_eq rfl

end

theorem registered_initial (P : τ → ℕ → UInt64 → Prop) (callback : Bool)
    (time : ℕ) : Registered P (initial callback time : TickerMgr τ) := by
  intro id n ticker hnode
  cases hnode

/-! ## The manager's own callback is fixed -/

theorem callback_registerTicker (s : TickerMgr τ) (ticker : τ)
    (startTime intervalTime : ℕ) (context : UInt64) :
    (s.registerTicker ticker startTime intervalTime context).callback =
      s.callback := by
  obtain ⟨links, h⟩ := exists_insertTicker_eq
    { (s.setNode s.nextNode (some ⟨some ticker, s.logicTime + startTime,
        intervalTime, context⟩)).setContext ticker (some s.nextNode) with
      nextNode := s.nextNode + 1 } s.nextNode (s.logicTime + startTime)
  simp only [registerTicker]
  rw [h]
  rfl

theorem callback_unregisterTicker (s : TickerMgr τ) (ticker : τ) :
    (s.unregisterTicker ticker).callback = s.callback := by
  unfold unregisterTicker
  split
  · rfl
  · dsimp only
    split <;> rfl

theorem callback_insertTicker (s : TickerMgr τ) (id nextTime : ℕ) :
    (s.insertTicker id nextTime).callback = s.callback := by
  obtain ⟨links, h⟩ := s.exists_insertTicker_eq id nextTime
  rw [h]

theorem callback_step {s s' : TickerMgr τ} {l : Label τ}
    (hstep : Step s l s') : s'.callback = s.callback := by
  cases hstep with
  | register => exact callback_registerTicker ..
  | unregister => exact callback_unregisterTicker ..
  | update => rfl
  | finish => rfl
  | enter => split <;> rfl
  | cascadeMove => exact callback_insertTicker ..
  | cascadeEnd => split <;> rfl
  | dispatch => exact callback_beginDispatch ..
  | returned =>
      unfold endDispatch
      split <;> rfl
  | drained => rfl
  | reinsert =>
      unfold reinsert
      split
      · rfl
      · exact callback_insertTicker ..
  | advance => rfl

/-- The node a dispatch is about, and the context its callback sees. -/
theorem exists_node_of_dispatch {s s' : TickerMgr τ} {id time : ℕ}
    {ticker : τ} {context : UInt64}
    (hstep : Step s (.dispatch id ticker context time) s') :
    ∃ n, s.node id = some n ∧ n.pTicker = some ticker ∧
      context = (s.beginDispatch id n ticker).dispatchContext n ticker := by
  cases hstep with
  | dispatch hphase hlist hnode hticker => exact ⟨_, hnode, hticker, rfl⟩

/-! ## Which tickers are registered -/

/-- The label does not register, unregister or dispatch the ticker. -/
def Label.Spares (ticker : τ) : Label τ → Prop
  | .register _ other _ _ _ _ => other ≠ ticker
  | .unregister other _ => other ≠ ticker
  | .dispatch _ other _ _ => other ≠ ticker
  | _ => True

theorem coreContext_insertTicker (s : TickerMgr τ) (id nextTime : ℕ) :
    (s.insertTicker id nextTime).coreContext = s.coreContext := by
  obtain ⟨links, h⟩ := s.exists_insertTicker_eq id nextTime
  rw [h]

theorem coreContext_registerTicker (s : TickerMgr τ) (ticker : τ)
    (startTime intervalTime : ℕ) (context : UInt64) :
    (s.registerTicker ticker startTime intervalTime context).coreContext =
      Function.update s.coreContext ticker (some s.nextNode) :=
  coreContext_insertTicker _ _ _

theorem coreContext_unregisterTicker (s : TickerMgr τ) (ticker : τ) :
    (s.unregisterTicker ticker).coreContext =
      Function.update s.coreContext ticker none := by
  unfold unregisterTicker
  split
  · rename_i hfree
    rw [← hfree, Function.update_eq_self]
  · dsimp only
    split <;> rfl

theorem coreContext_beginDispatch_of_ne {s : TickerMgr τ} {id : ℕ} {n : TickerNode τ}
    {ticker other : τ} (hne : other ≠ ticker) :
    (s.beginDispatch id n ticker).coreContext other = s.coreContext other := by
  unfold beginDispatch
  split
  · exact Function.update_of_ne hne _ _
  · rfl

/-- A ticker that fires once is not registered any more when its callback runs. -/
theorem coreContext_dispatch_of_once {s s' : TickerMgr τ} {id time : ℕ} {ticker : τ}
    {context : UInt64} (hstep : Step s (.dispatch id ticker context time) s')
    (honce : ∀ n, s.node id = some n → n.intervalTime = 0) :
    s'.coreContext ticker = none := by
  cases hstep with
  | @dispatch now id rest n ticker hphase hlist hnode hticker =>
      have hbegin : (s.beginDispatch id n ticker).coreContext ticker = none := by
        unfold beginDispatch
        rw [if_pos (honce n hnode)]
        exact Function.update_self ticker none s.coreContext
      exact hbegin

/-- A ticker stays registered or not as long as it is spared. -/
theorem coreContext_step {s s' : TickerMgr τ} {l : Label τ} (hstep : Step s l s')
    {ticker : τ} (hspares : l.Spares ticker) :
    s'.coreContext ticker = s.coreContext ticker := by
  cases hstep with
  | register =>
      rw [coreContext_registerTicker]
      exact Function.update_of_ne (Ne.symm hspares) _ _
  | unregister =>
      rw [coreContext_unregisterTicker]
      exact Function.update_of_ne (Ne.symm hspares) _ _
  | update => rfl
  | finish => rfl
  | enter => split <;> rfl
  | cascadeMove => exact congrFun (coreContext_insertTicker _ _ _) ticker
  | cascadeEnd => split <;> rfl
  | dispatch => exact coreContext_beginDispatch_of_ne (Ne.symm hspares)
  | returned =>
      unfold endDispatch
      split <;> rfl
  | drained => rfl
  | reinsert =>
      unfold reinsert
      split
      · rfl
      · exact congrFun (coreContext_insertTicker _ _ _) ticker
  | advance => rfl

end TickerMgr

end RealtimeEx.Base
