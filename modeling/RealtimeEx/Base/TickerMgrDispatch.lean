import RealtimeEx.Base.TickerMgrContext
import RealtimeEx.Base.TickerMgrSound

/-!
# What callbacks are told

A manager that calls the callbacks of its tickers tells every ticker the context
it was registered with.  A manager with a callback of its own does so for the
tickers that fire again: its callback asks the ticker for the context, and a
ticker that fires once has been taken off its node before.
-/

set_option linter.unusedSectionVars false

namespace RealtimeEx.Base

namespace TickerMgr

variable {τ : Type*} [DecidableEq τ] {s s' : TickerMgr τ} {l : Label τ}
  {ls : List (Label τ)}

/-! ## Nodes and registrations -/

/-- The new node of a registration is the only one that changes. -/
theorem node_registerTicker (s : TickerMgr τ) (ticker : τ)
    (startTime intervalTime : ℕ) (context : UInt64) (id : ℕ) :
    (s.registerTicker ticker startTime intervalTime context).node id =
      if id = s.nextNode then
        some ⟨some ticker, s.logicTime + startTime, intervalTime, context⟩
      else s.node id := by
  rw [registerTicker_eq, node_insertTicker]
  exact Function.update_apply ..

/-- A node of a ticker was there before the step, with the interval and the
context it has, or the step registers the ticker. -/
theorem node_step (hstep : Step s l s') {id : ℕ} {m : TickerNode τ} {ticker : τ}
    (hnode : s'.node id = some m) (hticker : m.pTicker = some ticker) :
    (∃ n, s.node id = some n ∧ n.pTicker = some ticker ∧
        n.intervalTime = m.intervalTime ∧ n.context = m.context) ∨
      ∃ time startTime,
        l = .register id ticker time startTime m.intervalTime m.context := by
  have hsame : s'.node = s.node → ∃ n, s.node id = some n ∧
      n.pTicker = some ticker ∧ n.intervalTime = m.intervalTime ∧
        n.context = m.context := by
    intro heq
    rw [heq] at hnode
    exact ⟨m, hnode, hticker, rfl, rfl⟩
  cases hstep with
  | register =>
      rw [node_registerTicker] at hnode
      split at hnode
      · rename_i hid
        obtain rfl := Option.some.inj hnode
        obtain rfl := Option.some.inj hticker
        exact Or.inr ⟨_, _, by rw [hid]⟩
      · exact Or.inl ⟨m, hnode, hticker, rfl, rfl⟩
  | @unregister other =>
      left
      unfold unregisterTicker at hnode
      cases hcontext : s.coreContext other with
      | none =>
          rw [hcontext] at hnode
          exact ⟨m, hnode, hticker, rfl, rfl⟩
      | some i =>
          rw [hcontext] at hnode
          dsimp only at hnode
          split at hnode
          · simp only [setNode, setContext, Function.update_apply] at hnode
            split at hnode
            · cases hnode
            · exact ⟨m, hnode, hticker, rfl, rfl⟩
          · simp only [setNode, setContext, Function.update_apply] at hnode
            split at hnode
            · obtain ⟨n, -, rfl⟩ := Option.map_eq_some_iff.mp hnode
              cases hticker
            · exact ⟨m, hnode, hticker, rfl, rfl⟩
  | update => exact Or.inl (hsame rfl)
  | finish => exact Or.inl (hsame rfl)
  | enter => exact Or.inl (hsame (by split <;> rfl))
  | cascadeMove => exact Or.inl (hsame (node_insertTicker ..))
  | cascadeEnd => exact Or.inl (hsame (by split <;> rfl))
  | @dispatch now i rest n other hphase hlist hi hother =>
      left
      unfold beginDispatch at hnode
      split at hnode
      · simp only [setPhase, setNode, setContext, Function.update_apply] at hnode
        split at hnode
        · obtain rfl := Option.some.inj hnode
          cases hticker
        · exact ⟨m, hnode, hticker, rfl, rfl⟩
      · exact ⟨m, hnode, hticker, rfl, rfl⟩
  | @returned now i n hphase hi =>
      left
      unfold endDispatch at hnode
      split at hnode
      · simp only [setPhase, setNode, Function.update_apply] at hnode
        split at hnode
        · cases hnode
        · exact ⟨m, hnode, hticker, rfl, rfl⟩
      · simp only [setPhase, setNode, Function.update_apply] at hnode
        split at hnode
        · rename_i hid
          subst hid
          obtain rfl := Option.some.inj hnode
          exact ⟨n, hi, hticker, rfl, rfl⟩
        · exact ⟨m, hnode, hticker, rfl, rfl⟩
  | drained => exact Or.inl (hsame rfl)
  | @reinsert now i rest n hphase htemp hi =>
      left
      unfold TickerMgr.reinsert at hnode
      split at hnode
      · simp only [setNode, Function.update_apply] at hnode
        split at hnode
        · cases hnode
        · exact ⟨m, hnode, hticker, rfl, rfl⟩
      · rw [node_insertTicker] at hnode
        exact ⟨m, hnode, hticker, rfl, rfl⟩
  | advance => exact Or.inl (hsame rfl)

/-- A registration makes the next node, and no step takes a number back. -/
theorem nextNode_step (hstep : Step s l s') :
    s.nextNode ≤ s'.nextNode ∧
      ∀ id ticker time startTime intervalTime context,
        l = .register id ticker time startTime intervalTime context →
          id = s.nextNode ∧ id < s'.nextNode := by
  have hother : s'.nextNode = s.nextNode →
      (∀ id ticker time startTime intervalTime context,
        l ≠ .register id ticker time startTime intervalTime context) →
      s.nextNode ≤ s'.nextNode ∧
        ∀ id ticker time startTime intervalTime context,
          l = .register id ticker time startTime intervalTime context →
            id = s.nextNode ∧ id < s'.nextNode :=
    fun heq hne => ⟨heq.ge, fun _ _ _ _ _ _ hl => absurd hl (hne _ _ _ _ _ _)⟩
  cases hstep with
  | register =>
      rw [registerTicker_eq, nextNode_insertTicker]
      refine ⟨Nat.le_succ _, ?_⟩
      rintro id ticker time startTime intervalTime context hl
      cases hl
      exact ⟨rfl, Nat.lt_succ_self _⟩
  | unregister =>
      refine hother ?_ (by simp)
      unfold unregisterTicker
      split
      · rfl
      · dsimp only
        split <;> rfl
  | update => exact hother rfl (by simp)
  | finish => exact hother rfl (by simp)
  | enter => exact hother (by split <;> rfl) (by simp)
  | cascadeMove => exact hother (nextNode_insertTicker ..) (by simp)
  | cascadeEnd => exact hother (by split <;> rfl) (by simp)
  | dispatch =>
      refine hother ?_ (by simp)
      unfold beginDispatch
      split <;> rfl
  | returned =>
      refine hother ?_ (by simp)
      unfold endDispatch
      split <;> rfl
  | drained => exact hother rfl (by simp)
  | reinsert =>
      refine hother ?_ (by simp)
      unfold TickerMgr.reinsert
      split
      · rfl
      · exact nextNode_insertTicker ..
  | advance => exact hother rfl (by simp)

/-- What a run has recorded about the nodes. -/
structure Recorded (ls : List (Label τ)) (s : TickerMgr τ) : Prop where
  id_lt : ∀ id ticker time startTime intervalTime context,
    .register id ticker time startTime intervalTime context ∈ ls →
      id < s.nextNode
  unique : ∀ id ticker ticker' time time' startTime startTime' intervalTime
    intervalTime' context context',
    .register id ticker time startTime intervalTime context ∈ ls →
      .register id ticker' time' startTime' intervalTime' context' ∈ ls →
        intervalTime = intervalTime' ∧ context = context'
  node : ∀ id n ticker, s.node id = some n → n.pTicker = some ticker →
    ∃ time startTime,
      .register id ticker time startTime n.intervalTime n.context ∈ ls

theorem Recorded.step (h : Recorded ls s) (hstep : Step s l s') :
    Recorded (ls ++ [l]) s' := by
  obtain ⟨hle, hnew⟩ := nextNode_step hstep
  have hold : ∀ {id : ℕ} {ticker : τ} {time startTime intervalTime : ℕ}
      {context : UInt64},
      .register id ticker time startTime intervalTime context ∈ ls →
        l ≠ .register id ticker time startTime intervalTime context ∧
          id ≠ s.nextNode := by
    intro id ticker time startTime intervalTime context hmem
    have hlt := h.id_lt _ _ _ _ _ _ hmem
    refine ⟨fun hl => ?_, hlt.ne⟩
    exact hlt.ne (hnew _ _ _ _ _ _ hl).1
  constructor
  case id_lt =>
    intro id ticker time startTime intervalTime context hmem
    rcases List.mem_append.mp hmem with hbefore | hlast
    · exact (h.id_lt _ _ _ _ _ _ hbefore).trans_le hle
    · exact (hnew _ _ _ _ _ _ (List.mem_singleton.mp hlast).symm).2
  case unique =>
    intro id ticker ticker' time time' startTime startTime' intervalTime
      intervalTime' context context' hmem hmem'
    rcases List.mem_append.mp hmem with hbefore | hlast
    · rcases List.mem_append.mp hmem' with hbefore' | hlast'
      · exact h.unique _ _ _ _ _ _ _ _ _ _ _ hbefore hbefore'
      · have hid := (hnew _ _ _ _ _ _ (List.mem_singleton.mp hlast').symm).1
        exact absurd hid (hold hbefore).2
    · have hid := (hnew _ _ _ _ _ _ (List.mem_singleton.mp hlast).symm).1
      rcases List.mem_append.mp hmem' with hbefore' | hlast'
      · exact absurd hid (hold hbefore').2
      · have hsame := (List.mem_singleton.mp hlast).trans
          (List.mem_singleton.mp hlast').symm
        injection hsame with _ _ _ _ hinterval hcontext
        exact ⟨hinterval, hcontext⟩
  case node =>
    intro id m ticker hm hticker
    rcases node_step hstep hm hticker with ⟨n, hn, hn_ticker, hinterval, hcontext⟩ | hl
    · obtain ⟨time, startTime, hmem⟩ := h.node id n ticker hn hn_ticker
      rw [hinterval, hcontext] at hmem
      exact ⟨time, startTime, List.mem_append_left _ hmem⟩
    · obtain ⟨time, startTime, rfl⟩ := hl
      exact ⟨time, startTime, List.mem_append_right _ (List.mem_singleton.mpr rfl)⟩

theorem recorded_initial (callback : Bool) (time : ℕ) :
    Recorded [] (initial callback time : TickerMgr τ) where
  id_lt _ _ _ _ _ _ hmem := by cases hmem
  unique _ _ _ _ _ _ _ _ _ _ _ hmem := by cases hmem
  node _ _ _ hnode := by cases hnode

/-! ## Contexts -/

/-- The context a callback is told of a node with a ticker. -/
theorem dispatchContext_eq (h : s.Sound) {id : ℕ} {n : TickerNode τ} {ticker : τ}
    (hnode : s.node id = some n) (hticker : n.pTicker = some ticker) :
    (s.beginDispatch id n ticker).dispatchContext n ticker =
      if s.callback = true ∧ n.intervalTime = 0 then 0 else n.context := by
  by_cases hcallback : s.callback = true
  · by_cases honce : n.intervalTime = 0
    · rw [dispatchContext_of_once hcallback honce, if_pos ⟨hcallback, honce⟩]
    · have hself := (h.context_iff ticker id).mpr ⟨n, hnode, hticker⟩
      rw [if_neg fun hboth => honce hboth.2]
      unfold beginDispatch dispatchContext getContext
      dsimp only
      rw [if_neg honce]
      dsimp only
      rw [if_pos hcallback, hself]
      dsimp only
      rw [hnode]
      rfl
  · rw [dispatchContext_of_not_callback (Bool.eq_false_iff.mpr hcallback),
      if_neg fun hboth => hcallback hboth.1]

/-- Every callback is told the context its ticker was registered with. -/
def ContextsKept (ls : List (Label τ)) : Prop :=
  ∀ id ticker context time, .dispatch id ticker context time ∈ ls →
    ∀ ticker' time' startTime intervalTime registered,
      .register id ticker' time' startTime intervalTime registered ∈ ls →
        context = registered

section

variable {callback : Bool} {time : ℕ}

theorem recorded_of_run
    (hrun : (tickerSystem τ callback time).Run (initial callback time) ls s) :
    s.Sound ∧ Recorded ls s ∧ s.callback = callback := by
  induction hrun with
  | nil => exact ⟨sound_initial callback time, recorded_initial callback time, rfl⟩
  | snoc _ hstep ih =>
      obtain ⟨hsound, hrecorded, hcallback⟩ := ih
      exact ⟨hsound.step hstep, hrecorded.step hstep,
        (callback_step hstep).trans hcallback⟩

/-- What the callback of a dispatch was told. -/
theorem dispatch_of_run
    (hrun : (tickerSystem τ callback time).Run (initial callback time) ls s)
    {id : ℕ} {ticker : τ} {context : UInt64} {time' : ℕ}
    (hmem : .dispatch id ticker context time' ∈ ls) :
    ∃ registeredAt startTime intervalTime registered,
      .register id ticker registeredAt startTime intervalTime registered ∈ ls ∧
        context = if callback = true ∧ intervalTime = 0 then 0 else registered := by
  induction hrun with
  | nil => cases hmem
  | snoc hprev hstep ih =>
      obtain ⟨hsound, hrecorded, hcallback⟩ := recorded_of_run hprev
      rcases List.mem_append.mp hmem with hbefore | hlast
      · obtain ⟨registeredAt, startTime, intervalTime, registered, hregister, heq⟩ :=
          ih hbefore
        exact ⟨_, _, _, _, List.mem_append_left _ hregister, heq⟩
      · obtain rfl := List.mem_singleton.mp hlast
        obtain ⟨n, hnode, hticker, heq⟩ := exists_node_of_dispatch hstep
        obtain ⟨registeredAt, startTime, hregister⟩ :=
          hrecorded.node id n ticker hnode hticker
        refine ⟨_, _, _, _, List.mem_append_left _ hregister, ?_⟩
        rw [heq, dispatchContext_eq hsound hnode hticker, hcallback]

/-- Along a run every callback is told the context its ticker was registered
with, if and only if the manager has no callback of its own or every ticker that
fired once was registered with the context zero. -/
theorem contextsKept_iff
    (hrun : (tickerSystem τ callback time).Run (initial callback time) ls s) :
    ContextsKept ls ↔
      callback = true → ∀ id ticker context time', .dispatch id ticker context time' ∈ ls →
        ∀ ticker' registeredAt startTime registered,
          .register id ticker' registeredAt startTime 0 registered ∈ ls →
            registered = 0 := by
  have hunique := (recorded_of_run hrun).2.1.unique
  constructor
  · intro h hcallback id ticker context time' hdispatch ticker' registeredAt startTime
      registered hregister
    obtain ⟨_, _, intervalTime, registered', hregister', heq⟩ :=
      dispatch_of_run hrun hdispatch
    obtain ⟨rfl, rfl⟩ := hunique _ _ _ _ _ _ _ _ _ _ _ hregister hregister'
    rw [if_pos ⟨hcallback, rfl⟩] at heq
    exact (h id ticker context time' hdispatch _ _ _ _ _ hregister).symm.trans heq
  · intro h id ticker context time' hdispatch ticker' registeredAt startTime intervalTime
      registered hregister
    obtain ⟨_, _, _, registered', hregister', heq⟩ := dispatch_of_run hrun hdispatch
    obtain ⟨rfl, rfl⟩ := hunique _ _ _ _ _ _ _ _ _ _ _ hregister hregister'
    split at heq
    · rename_i hboth
      obtain ⟨hcallback, rfl⟩ := hboth
      exact heq.trans (h hcallback _ _ _ _ hdispatch _ _ _ _ hregister).symm
    · exact heq

end

/-! ## A ticker that fires once -/

/-- A manager in which a ticker with the context five is due. -/
def dueTicker (callback : Bool) : TickerMgr Unit :=
  (initial callback 1).registerTicker () 0 0 5

theorem run_dueTicker (callback : Bool) :
    (tickerSystem Unit callback 1).Run (initial callback 1)
      [.register 0 () 1 0 0 5, .update 1, .internal]
      ((dueTicker callback).setPhase (.draining 1)) := by
  have hregister : (tickerSystem Unit callback 1).Run (initial callback 1)
      [.register 0 () 1 0 0 5] (dueTicker callback) :=
    .single (.register rfl rfl)
  have hstart : Step (dueTicker callback) (.update 1)
      ((dueTicker callback).setPhase (.loop 1)) := .update rfl
  have henter : Step ((dueTicker callback).setPhase (.loop 1)) .internal
      ((dueTicker callback).setPhase (.draining 1)) := .enter rfl (Nat.le_refl 1)
  exact (hregister.snoc hstart).snoc henter

/-- A manager without a callback tells the ticker five. -/
theorem contextsKept_iff_direct :
    ContextsKept ([.register 0 () 1 0 0 5, .update 1, .internal,
      .dispatch 0 () 5 1] : List (Label Unit)) := by
  have hfire : Step ((dueTicker false).setPhase (.draining 1)) (.dispatch 0 () 5 1) _ :=
    .dispatch (n := ⟨some (), 1, 0, 5⟩) rfl rfl rfl rfl
  exact (contextsKept_iff ((run_dueTicker false).snoc hfire)).mpr
    fun hcallback => absurd hcallback Bool.false_ne_true

/-- A manager with a callback of its own tells it zero. -/
theorem not_contextsKept_callback :
    ∃ s, (tickerSystem Unit true 1).Run (initial true 1)
        [.register 0 () 1 0 0 5, .update 1, .internal, .dispatch 0 () 0 1] s ∧
      ¬ ContextsKept ([.register 0 () 1 0 0 5, .update 1, .internal,
        .dispatch 0 () 0 1] : List (Label Unit)) := by
  have hfire : Step ((dueTicker true).setPhase (.draining 1)) (.dispatch 0 () 0 1) _ :=
    .dispatch (n := ⟨some (), 1, 0, 5⟩) rfl rfl rfl rfl
  refine ⟨_, (run_dueTicker true).snoc hfire, fun hkept => ?_⟩
  have hzero := hkept 0 () 0 1 (by simp) () 1 0 0 5 (by simp)
  exact absurd hzero (by decide)

end TickerMgr

end RealtimeEx.Base
