import RealtimeEx.Base.TickerMgrInvariant
import RealtimeEx.Support.Schedule

/-!
# The ticker manager keeps a schedule

This file proves that the wheels of the ticker manager implement timers: a
registration is a timer named by its node and its ticker, a dispatch is its
firing, and a tick of the manager is a tick of the clock.  What is known of
every schedule therefore holds of the tickers.
-/

set_option linter.unusedSectionVars false

namespace RealtimeEx.Base

namespace TickerMgr

variable {τ : Type*} [DecidableEq τ]

/-! ## The simulation -/

/-- When the node has to be dispatched next.  The due time of a node is moved
on after its callback has returned. -/
def dueTime (s : TickerMgr τ) (id : ℕ) (n : TickerNode τ) : ℕ :=
  match s.phase with
  | .calling _ current =>
      if id = current then n.nextTime + n.intervalTime else n.nextTime
  | _ => n.nextTime

/-- The interval and the due time of a registration that is still in force. -/
def pending (s : TickerMgr τ) (i : ℕ × τ) : Option (ℕ × ℕ) :=
  match s.node i.1 with
  | none => none
  | some n =>
      if n.pTicker = some i.2 then
        some (n.intervalTime, s.dueTime i.1 n)
      else
        none

/-- What a step of the manager is to the schedule. -/
def Label.events : Label τ → List (ScheduleEvent (ℕ × τ))
  | .register id ticker time startTime intervalTime _ =>
      [.register (id, ticker) (time + startTime) intervalTime]
  | .unregister ticker (some id) => [.cancel (id, ticker)]
  | .dispatch id ticker _ time => [.fire (id, ticker) time]
  | .advance => [.advance]
  | _ => []

/-- The schedule a state of the manager stands for. -/
structure Sim (s : TickerMgr τ) (a : Schedule (ℕ × τ)) : Prop where
  inv : s.Inv
  now_eq : a.now = s.logicTime
  fresh : ∀ id ticker, s.nextNode ≤ id → a.timer (id, ticker) = none
  pending_eq : a.pending = s.pending

theorem pending_of_node {s : TickerMgr τ} {id : ℕ} {n : TickerNode τ}
    {ticker : τ} (hnode : s.node id = some n)
    (hticker : n.pTicker = some ticker) :
    s.pending (id, ticker) = some (n.intervalTime, s.dueTime id n) := by
  simp [pending, hnode, hticker]

theorem exists_node_of_pending {s : TickerMgr τ} {id interval due : ℕ}
    {ticker : τ} (h : s.pending (id, ticker) = some (interval, due)) :
    ∃ n, s.node id = some n ∧ n.pTicker = some ticker ∧
      n.intervalTime = interval ∧ s.dueTime id n = due := by
  unfold pending at h
  split at h
  · cases h
  · rename_i n hnode
    split at h
    · rename_i hticker
      cases h
      exact ⟨n, hnode, hticker, rfl, rfl⟩
    · cases h

/-- The states of the nodes and the due times determine what is pending. -/
theorem pending_congr {s s' : TickerMgr τ} (hnode : s'.node = s.node)
    (hdue : ∀ id n, s'.dueTime id n = s.dueTime id n) :
    s'.pending = s.pending := by
  funext i
  simp only [pending, hnode, hdue]

/-- Steps that the schedule does not see. -/
theorem Sim.silent {s s' : TickerMgr τ} {a : Schedule (ℕ × τ)}
    (h : Sim s a) (hinv : s'.Inv)
    (htime : s'.logicTime = s.logicTime) (hnext : s'.nextNode = s.nextNode)
    (hpending : s'.pending = s.pending) :
    ∃ a', (Schedule.system (ℕ × τ)).Run a [] a' ∧ Sim s' a' := by
  refine ⟨a, .nil a, hinv, ?_, ?_, ?_⟩
  · rw [htime, h.now_eq]
  · rw [hnext]
    exact h.fresh
  · rw [hpending, h.pending_eq]

/-- While no callback runs the due times are those of the nodes. -/
theorem dueTime_of_not_calling {s : TickerMgr τ}
    (h : ∀ now id, s.phase ≠ .calling now id) (id : ℕ) (n : TickerNode τ) :
    s.dueTime id n = n.nextTime := by
  unfold dueTime
  split
  · rename_i now current hphase
    exact absurd hphase (h now current)
  · rfl

/-- Outside the callbacks only the nodes of registered tickers matter. -/
theorem pending_setNode_of_none {s : TickerMgr τ} {id : ℕ} {n : TickerNode τ}
    (hnode : s.node id = some n) (hticker : n.pTicker = none) :
    (s.setNode id none).pending = s.pending := by
  funext i
  by_cases hi : i.1 = id
  · subst hi
    simp [pending, setNode, hnode, hticker]
  · simp [pending, setNode, hi, dueTime]

/-! ## Steps -/

section

variable {s : TickerMgr τ} {a : Schedule (ℕ × τ)}

theorem sim_registerTicker (h : Sim s a) {ticker : τ}
    {startTime intervalTime : ℕ} {context : UInt64}
    (hphase : s.phase.external) (hfree : s.coreContext ticker = none)
    (hstart : startTime < cascadeUnit timeCascadeCount)
    (hinterval : intervalTime < cascadeUnit timeCascadeCount) :
    ∃ a', (Schedule.system (ℕ × τ)).Run a
        [.register (s.nextNode, ticker) (s.logicTime + startTime)
          intervalTime] a' ∧
      Sim (s.registerTicker ticker startTime intervalTime context) a' := by
  have hinv : (s.registerTicker ticker startTime intervalTime context).Inv :=
    inv_registerTicker h.inv hphase hfree hstart hinterval
  have hnew := h.fresh s.nextNode ticker (Nat.le_refl _)
  have hstep : Schedule.Step a
      (.register (s.nextNode, ticker) (s.logicTime + startTime)
        intervalTime) _ :=
    .register hnew (by rw [h.now_eq]; omega)
  -- the node whose callback runs is an older one
  have hcalling : ∀ now id, s.phase = .calling now id → s.nextNode ≠ id := by
    intro now id hcalling heq
    obtain ⟨-, -, n, hnode, -⟩ := h.inv.calling now id hcalling
    have hlt := h.inv.node_lt id n hnode
    omega
  have hunused : s.node s.nextNode = none := by
    cases hnode : s.node s.nextNode with
    | none => rfl
    | some n => exact absurd (h.inv.node_lt _ n hnode) (Nat.lt_irrefl _)
  refine ⟨_, .single hstep, hinv, ?_, ?_, ?_⟩
  · simpa [registerTicker, setNode, setContext] using h.now_eq
  · intro id other hle
    have hle' : s.nextNode + 1 ≤ id := by
      simpa [registerTicker, setNode, setContext] using hle
    rw [Schedule.timer_setTimer_of_ne]
    · exact h.fresh id other (by omega)
    · intro heq
      cases heq
      omega
  · rw [Schedule.pending_setTimer, h.pending_eq]
    funext i
    obtain ⟨id, other⟩ := i
    by_cases hid : id = s.nextNode
    · subst hid
      have hdue : ∀ n, dueTime (s.registerTicker ticker startTime intervalTime
          context) s.nextNode n = n.nextTime := by
        intro n
        simp only [dueTime, registerTicker, setNode, setContext,
          phase_insertTicker]
        split
        · rename_i now current hcall
          exact if_neg (hcalling now current hcall)
        · rfl
      by_cases hother : other = ticker
      · subst hother
        rw [Function.update_self]
        simp [pending, hdue]
        simp [registerTicker, setNode, setContext, Timer.pending, Timer.due]
      · have hne : (s.nextNode, other) ≠ (s.nextNode, ticker) :=
          fun heq => hother (Prod.mk.inj heq).2
        rw [Function.update_of_ne hne]
        simp [pending, registerTicker, setNode, setContext, hunused,
          Ne.symm hother]
    · have hne : (id, other) ≠ (s.nextNode, ticker) :=
        fun heq => hid (Prod.mk.inj heq).1
      rw [Function.update_of_ne hne]
      simp [pending, registerTicker, setNode, setContext, hid, dueTime]

theorem sim_unregisterTicker (h : Sim s a) (ticker : τ) :
    ∃ a', (Schedule.system (ℕ × τ)).Run a
        (Label.unregister ticker (s.coreContext ticker)).events a' ∧
      Sim (s.unregisterTicker ticker) a' := by
  have hinv : (s.unregisterTicker ticker).Inv := inv_unregisterTicker h.inv
  cases hcontext : s.coreContext ticker with
  | none =>
      have heq : s.unregisterTicker ticker = s := by
        simp [unregisterTicker, hcontext]
      rw [heq]
      exact ⟨a, .nil a, h⟩
  | some id =>
      obtain ⟨n, hnode, hticker⟩ := (h.inv.context_iff ticker id).mp hcontext
      have hpending := pending_of_node hnode hticker
      rw [← h.pending_eq] at hpending
      obtain ⟨t, ht, -⟩ := Schedule.exists_of_pending hpending
      refine ⟨_, .single (.cancel ht), hinv, ?_, ?_, ?_⟩
      · have htime : (s.unregisterTicker ticker).logicTime = s.logicTime := by
          simp only [unregisterTicker, hcontext]
          split <;> rfl
        rw [htime]
        exact h.now_eq
      · have hnext : (s.unregisterTicker ticker).nextNode = s.nextNode := by
          simp only [unregisterTicker, hcontext]
          split <;> rfl
        rw [hnext]
        intro j other hle
        have hlt := h.inv.node_lt id n hnode
        rw [Schedule.timer_setTimer_of_ne]
        · exact h.fresh j other hle
        · intro heq
          cases heq
          omega
      · rw [Schedule.pending_setTimer, h.pending_eq]
        have hphase : (s.unregisterTicker ticker).phase = s.phase := by
          simp only [unregisterTicker, hcontext]
          split <;> rfl
        have hnodes : ∀ j, j ≠ id →
            (s.unregisterTicker ticker).node j = s.node j := by
          intro j hj
          simp only [unregisterTicker, hcontext]
          split <;> simp [setNode, setContext, hj]
        have hself : ∀ m, (s.unregisterTicker ticker).node id = some m →
            m.pTicker = none := by
          intro m hm
          simp only [unregisterTicker, hcontext] at hm
          split at hm
          · simp [setNode, setContext] at hm
          · simp only [setNode, setContext, hnode, Option.map_some,
              Function.update_self, Option.some.injEq] at hm
            rw [← hm]
        funext i
        obtain ⟨j, other⟩ := i
        by_cases hj : j = id
        · subst hj
          have hgone : (s.unregisterTicker ticker).pending (j, other) =
              none := by
            unfold pending
            split
            · rfl
            · rename_i m hm
              simp [hself m hm]
          rw [hgone]
          by_cases hother : other = ticker
          · subst hother
            simp [Timer.pending]
          · have hne : (j, other) ≠ (j, ticker) :=
              fun heq => hother (Prod.mk.inj heq).2
            rw [Function.update_of_ne hne]
            simp [pending, hnode, hticker, Ne.symm hother]
        · have hne : (j, other) ≠ (id, ticker) :=
            fun heq => hj (Prod.mk.inj heq).1
          rw [Function.update_of_ne hne]
          simp [pending, hnodes j hj, dueTime, hphase]

theorem sim_dispatch (h : Sim s a) {now id : ℕ} {rest : List ℕ}
    {n : TickerNode τ} {ticker : τ}
    (hphase : s.phase = .draining now)
    (hlist : s.links.list s.nearSlot = id :: rest)
    (hnode : s.node id = some n) (hticker : n.pTicker = some ticker) :
    ∃ a', (Schedule.system (ℕ × τ)).Run a
        [.fire (id, ticker) s.logicTime] a' ∧
      Sim ((s.beginDispatch id n ticker).setPhase (.calling now id)) a' := by
  have hinv := inv_dispatch h.inv hphase hlist hnode hticker
  obtain ⟨m, hm, -, hok⟩ := h.inv.linked id _ (LinkLists.link_of_head hlist)
  rw [hnode] at hm
  cases hm
  have hnow := nextTime_eq_of_nearSlot hphase hok
  have hcalling : ∀ now id, s.phase ≠ .calling now id := by simp [hphase]
  have hpending := pending_of_node hnode hticker
  rw [dueTime_of_not_calling hcalling, ← h.pending_eq] at hpending
  obtain ⟨t, ht, hlive, hinterval, hdue⟩ :=
    Schedule.exists_of_pending hpending
  have hstep := Schedule.Step.fire ht hlive
    (by rw [hdue, hnow, h.now_eq])
  rw [h.now_eq] at hstep
  have hnodes : ∀ j, j ≠ id →
      (s.beginDispatch id n ticker).node j = s.node j := by
    intro j hj
    unfold beginDispatch
    split <;> simp [setNode, setContext, hj]
  have htime : (s.beginDispatch id n ticker).logicTime = s.logicTime := by
    unfold beginDispatch
    split <;> rfl
  have hnext : (s.beginDispatch id n ticker).nextNode = s.nextNode := by
    unfold beginDispatch
    split <;> rfl
  refine ⟨_, .single hstep, hinv, ?_, ?_, ?_⟩
  · exact h.now_eq.trans htime.symm
  · intro j other hle
    have hlt := h.inv.node_lt id n hnode
    have hle' : s.nextNode ≤ j := hnext ▸ hle
    rw [Schedule.timer_setTimer_of_ne]
    · exact h.fresh j other hle'
    · intro heq
      cases heq
      omega
  · rw [Schedule.pending_setTimer, h.pending_eq]
    funext i
    obtain ⟨j, other⟩ := i
    by_cases hj : j = id
    · subst hj
      by_cases hzero : n.intervalTime = 0
      · -- a ticker that fires once is unregistered before its callback
        have hgone : ((s.beginDispatch j n ticker).setPhase
            (.calling now j)).pending (j, other) = none := by
          simp [pending, beginDispatch, hzero, setNode, setContext, setPhase]
        rw [hgone]
        by_cases hother : other = ticker
        · subst hother
          simp [Timer.pending, hinterval, hzero]
        · have hne : (j, other) ≠ (j, ticker) :=
            fun heq => hother (Prod.mk.inj heq).2
          rw [Function.update_of_ne hne]
          simp [pending, hnode, hticker, Ne.symm hother]
      · by_cases hother : other = ticker
        · subst hother
          have hlater : t.first + (t.fired + 1) * n.intervalTime =
              n.nextTime + n.intervalTime := by
            rw [← hdue, Timer.due, hinterval, Nat.add_mul]
            omega
          simp [pending, beginDispatch, hzero, setPhase, hnode, hticker,
            dueTime, Timer.pending, Timer.due, hinterval, hlater]
        · have hne : (j, other) ≠ (j, ticker) :=
            fun heq => hother (Prod.mk.inj heq).2
          rw [Function.update_of_ne hne]
          simp [pending, beginDispatch, hzero, setPhase, hnode, hticker,
            Ne.symm hother]
    · have hne : (j, other) ≠ (id, ticker) :=
        fun heq => hj (Prod.mk.inj heq).1
      rw [Function.update_of_ne hne]
      simp only [pending, setPhase, hnodes j hj, dueTime, hphase, if_neg hj]

theorem sim_returned (h : Sim s a) {now id : ℕ} {n : TickerNode τ}
    (hphase : s.phase = .calling now id) (hnode : s.node id = some n) :
    ∃ a', (Schedule.system (ℕ × τ)).Run a [] a' ∧
      Sim ((s.endDispatch id n).setPhase (.draining now)) a' := by
  have hinv := inv_returned h.inv hphase hnode
  apply h.silent hinv
  · unfold endDispatch
    split <;> rfl
  · unfold endDispatch
    split <;> rfl
  · funext i
    by_cases hi : i.1 = id
    · subst hi
      unfold endDispatch
      split
      · rename_i hnone
        have hticker : n.pTicker = none := by simpa using hnone
        simp [pending, setNode, setPhase, hnode, hticker]
      · simp [pending, setNode, setPhase, hnode, dueTime, hphase]
    · have hnodes : (s.endDispatch id n).node i.1 = s.node i.1 := by
        unfold endDispatch
        split <;> simp [setNode, hi]
      simp only [pending, setPhase, hnodes, dueTime, hphase, if_neg hi]

theorem sim_reinsert (h : Sim s a) {now id : ℕ} {rest : List ℕ}
    {n : TickerNode τ}
    (hphase : s.phase = .reinserting now)
    (htemp : s.vecTempTickerNode = id :: rest)
    (hnode : s.node id = some n) :
    ∃ a', (Schedule.system (ℕ × τ)).Run a [] a' ∧
      Sim (s.reinsert id n rest) a' := by
  have hinv := inv_reinsert h.inv hphase htemp hnode
  apply h.silent hinv
  · unfold reinsert
    split
    · rfl
    · simp
  · unfold reinsert
    split
    · rfl
    · simp
  · unfold reinsert
    split
    · rename_i hnone
      have hticker : n.pTicker = none := by simpa using hnone
      exact pending_setNode_of_none (s := { s with vecTempTickerNode := rest })
        hnode hticker
    · exact pending_congr (by simp) (by simp [dueTime])

/-- When the tick is over nothing that is due at it waits any more. -/
theorem lt_dueTime_of_reinserting (h : s.Inv) {now id : ℕ}
    {n : TickerNode τ}
    (hphase : s.phase = .reinserting now)
    (htemp : s.vecTempTickerNode = []) (hnode : s.node id = some n) :
    s.logicTime < n.nextTime := by
  cases hlink : s.links.link id with
  | none =>
      obtain ⟨now', hcalling⟩ := h.located id n hnode hlink (by simp [htemp])
      rw [hphase] at hcalling
      cases hcalling
  | some slot =>
      obtain ⟨m, hm, -, hok⟩ := h.linked id slot hlink
      rw [hnode] at hm
      cases hm
      rw [hphase] at hok
      cases slot with
      | near pos => exact hok.2.1
      | cascade level pos =>
          have hstart : s.logicTime + 1 ≤ unitStart level n.nextTime :=
            hok.2.2.1
          have hle := unitStart_le level n.nextTime
          omega
      | far => exact hok.elim

theorem sim_advance (h : Sim s a) {now : ℕ}
    (hphase : s.phase = .reinserting now)
    (htemp : s.vecTempTickerNode = []) :
    ∃ a', (Schedule.system (ℕ × τ)).Run a [.advance] a' ∧
      Sim { s.setPhase (.loop now) with logicTime := s.logicTime + 1 } a' := by
  have hinv := inv_advance h.inv hphase htemp
  have hcalling : ∀ now id, s.phase ≠ .calling now id := by simp [hphase]
  have hdone : ∀ i t, a.timer i = some t → t.live → a.now < t.due := by
    intro i t ht hlive
    obtain ⟨id, ticker⟩ := i
    have hpending := Schedule.pending_of_live ht hlive
    rw [h.pending_eq] at hpending
    obtain ⟨n, hnode, -, -, hdue⟩ := exists_node_of_pending hpending
    rw [dueTime_of_not_calling hcalling] at hdue
    rw [h.now_eq, ← hdue]
    exact lt_dueTime_of_reinserting h.inv hphase htemp hnode
  refine ⟨_, .single (.advance hdone), hinv, ?_, h.fresh, ?_⟩
  · change a.now + 1 = s.logicTime + 1
    rw [h.now_eq]
  · change a.pending = _
    rw [h.pending_eq]
    symm
    exact pending_congr rfl
      (by simp [dueTime, setPhase, hphase])

/-- Every step of the manager is a step of the schedule or invisible to it. -/
theorem Sim.step (h : Sim s a) {s' : TickerMgr τ} {l : Label τ}
    (hstep : Step s l s') (hrange : s.InRange l) :
    ∃ a', (Schedule.system (ℕ × τ)).Run a l.events a' ∧ Sim s' a' := by
  have hinv := h.inv.step hstep hrange
  cases hstep with
  | register hphase hfree =>
      exact sim_registerTicker h hphase hfree hrange.1 hrange.2
  | unregister => exact sim_unregisterTicker h _
  | update hphase =>
      exact h.silent hinv rfl rfl
        (pending_congr rfl (by simp [dueTime, setPhase, hphase]))
  | finish hphase =>
      exact h.silent hinv rfl rfl
        (pending_congr rfl (by simp [dueTime, setPhase, hphase]))
  | enter hphase =>
      apply h.silent hinv
      · split <;> rfl
      · split <;> rfl
      · split <;>
          exact pending_congr rfl (by simp [dueTime, setPhase, hphase])
  | cascadeMove hphase hlist hnode =>
      exact h.silent hinv (by simp [moveTicker]) (by simp [moveTicker])
        (pending_congr (by simp [moveTicker])
          (by simp [dueTime, moveTicker]))
  | cascadeEnd hphase hlist =>
      apply h.silent hinv
      · split <;> rfl
      · split <;> rfl
      · split <;>
          exact pending_congr rfl (by simp [dueTime, setPhase, hphase])
  | dispatch hphase hlist hnode hticker =>
      exact sim_dispatch h hphase hlist hnode hticker
  | returned hphase hnode => exact sim_returned h hphase hnode
  | drained hphase =>
      exact h.silent hinv rfl rfl
        (pending_congr rfl (by simp [dueTime, setPhase, hphase]))
  | reinsert hphase htemp hnode => exact sim_reinsert h hphase htemp hnode
  | advance hphase htemp => exact sim_advance h hphase htemp

end

/-! ## Whole runs -/

/-- The times at which a registration was dispatched, in order. -/
def dispatchTimes (i : ℕ × τ) (ls : List (Label τ)) : List ℕ :=
  ls.filterMap fun l =>
    match l with
    | .dispatch id ticker _ time => if (id, ticker) = i then some time else none
    | _ => none

theorem firings_events (i : ℕ × τ) (ls : List (Label τ)) :
    Schedule.firings i (ls.flatMap Label.events) = dispatchTimes i ls := by
  induction ls with
  | nil => rfl
  | cons l ls ih =>
      rw [List.flatMap_cons, Schedule.firings_append, ih]
      match l with
      | .register .. => rfl
      | .unregister _ none => rfl
      | .unregister _ (some _) => rfl
      | .update _ => rfl
      | .internal => rfl
      | .advance => rfl
      | .dispatch id ticker context time =>
          by_cases h : (id, ticker) = i
          · simp [Label.events, dispatchTimes, Schedule.firings, h]
          · simp [Label.events, dispatchTimes, Schedule.firings, h]

theorem register_mem_events {i : ℕ × τ} {first interval : ℕ}
    {ls : List (Label τ)} :
    ScheduleEvent.register i first interval ∈ ls.flatMap Label.events ↔
      ∃ time startTime context,
        Label.register i.1 i.2 time startTime interval context ∈ ls ∧
          first = time + startTime := by
  rw [List.mem_flatMap]
  constructor
  · rintro ⟨l, hmem, hevent⟩
    match l with
    | .register id ticker time startTime intervalTime context =>
        cases List.mem_singleton.mp hevent
        exact ⟨time, startTime, context, hmem, rfl⟩
    | .unregister _ (some _) => simp [Label.events] at hevent
    | .dispatch .. => simp [Label.events] at hevent
    | .advance => simp [Label.events] at hevent
  · rintro ⟨time, startTime, context, hmem, rfl⟩
    exact ⟨_, hmem, List.mem_cons_self⟩

theorem cancel_mem_events {i : ℕ × τ} {ls : List (Label τ)} :
    ScheduleEvent.cancel i ∈ ls.flatMap Label.events ↔
      Label.unregister i.2 (some i.1) ∈ ls := by
  rw [List.mem_flatMap]
  constructor
  · rintro ⟨l, hmem, hevent⟩
    match l with
    | .register .. => simp [Label.events] at hevent
    | .unregister ticker (some id) =>
        cases List.mem_singleton.mp hevent
        exact hmem
    | .dispatch .. => simp [Label.events] at hevent
    | .advance => simp [Label.events] at hevent
  · intro hmem
    exact ⟨_, hmem, List.mem_cons_self⟩

/-- A manager without nodes stands for a schedule without timers. -/
theorem sim_initial (callback : Bool) (time : ℕ) :
    Sim (initial callback time : TickerMgr τ) ⟨time, fun _ => none⟩ where
  inv := inv_initial callback time
  now_eq := rfl
  fresh _ _ _ := rfl
  pending_eq := rfl

theorem exists_schedule {callback : Bool} {time : ℕ} {s₀ s : TickerMgr τ}
    {ls : List (Label τ)}
    (hinit : (tickerSystem τ callback time).init s₀)
    (hrun : ((tickerSystem τ callback time).guard InRange).Run s₀ ls s) :
    ∃ a, (Schedule.system (ℕ × τ)).Run ⟨time, fun _ => none⟩
      (ls.flatMap Label.events) a ∧ Sim s a := by
  cases hinit
  exact hrun.simulate (fun _ _ _ _ h hstep => h.step hstep.1 hstep.2)
    (sim_initial callback time)

/-- The registration `i`, due first at `first`, was dispatched exactly at the
ticks `first + j * interval` that have been reached while it was in force. -/
structure FiresExactly (ls : List (Label τ)) (s : TickerMgr τ) (i : ℕ × τ)
    (first interval : ℕ) : Prop where
  reached : ∀ time ∈ dispatchTimes i ls, time ≤ s.logicTime
  exactly : ∃ k,
    dispatchTimes i ls = (List.range k).map (fun j => first + j * interval) ∧
      (interval = 0 → k ≤ 1) ∧
      (Label.unregister i.2 (some i.1) ∉ ls →
        (interval = 0 ∧ k = 1) ∨
          (s.logicTime ≤ first + k * interval ∧
            s.coreContext i.2 = some i.1))
  unregistered : ∀ pre post,
    ls = pre ++ .unregister i.2 (some i.1) :: post → dispatchTimes i post = []

theorem FiresExactly.of_recorded {ls : List (Label τ)} {s : TickerMgr τ}
    {a₀ a : Schedule (ℕ × τ)} {i : ℕ × τ} {t : Timer}
    (hrun : (Schedule.system (ℕ × τ)).Run a₀ (ls.flatMap Label.events) a)
    (hsim : Sim s a) (ht : a.timer i = some t)
    (h : Schedule.Recorded (ls.flatMap Label.events) a.now i t) :
    FiresExactly ls s i t.first t.interval where
  reached := by
    rw [← firings_events, ← hsim.now_eq]
    exact h.reached
  exactly := by
    refine ⟨t.fired, ?_, h.once, fun hkept => ?_⟩
    · rw [← firings_events]
      exact h.firings_eq
    · cases hlive : t.live with
      | false =>
          rcases h.ended hlive with hcancel | hdone
          · exact absurd (cancel_mem_events.mp hcancel) hkept
          · exact Or.inl hdone
      | true =>
          right
          have hpending := Schedule.pending_of_live ht hlive
          rw [hsim.pending_eq] at hpending
          obtain ⟨n, hnode, hticker, -⟩ := exists_node_of_pending hpending
          constructor
          · rw [← hsim.now_eq]
            exact h.due_of_live hlive
          · exact (hsim.inv.context_iff _ _).mpr ⟨n, hnode, hticker⟩
  unregistered := by
    rintro pre post rfl
    rw [List.flatMap_append, List.flatMap_cons] at hrun
    rw [← firings_events]
    exact Schedule.firings_after_cancel hrun

/-- Every registered ticker is dispatched exactly at its due times, and
nothing else is dispatched. -/
theorem firesExactly_of_run {callback : Bool} {time : ℕ} {s₀ s : TickerMgr τ}
    {ls : List (Label τ)}
    (hinit : (tickerSystem τ callback time).init s₀)
    (hrun : ((tickerSystem τ callback time).guard InRange).Run s₀ ls s) :
    (∀ id ticker time startTime intervalTime context,
      Label.register id ticker time startTime intervalTime context ∈ ls →
        FiresExactly ls s (id, ticker) (time + startTime) intervalTime) ∧
    (∀ id ticker context time, Label.dispatch id ticker context time ∈ ls →
      ∃ time startTime intervalTime context,
        Label.register id ticker time startTime intervalTime context ∈ ls) := by
  obtain ⟨a, hsched, hsim⟩ := exists_schedule hinit hrun
  have hhistory := Schedule.history_of_run (fun _ => rfl) hsched
  constructor
  · intro id ticker time startTime intervalTime context hmem
    have hevent : ScheduleEvent.register (id, ticker) (time + startTime)
        intervalTime ∈ ls.flatMap Label.events :=
      register_mem_events.mpr ⟨time, startTime, context, hmem, rfl⟩
    cases ht : a.timer (id, ticker) with
    | none =>
        exact absurd hevent
          (((hhistory _).of_none ht).not_registered _ _)
    | some t =>
        have hrecorded := (hhistory _).of_some t ht
        obtain ⟨hfirst, hinterval⟩ := (hrecorded.registered _ _).mp hevent
        rw [hfirst, hinterval]
        exact .of_recorded hsched hsim ht hrecorded
  · intro id ticker context time hmem
    have hfired : time ∈
        Schedule.firings (id, ticker) (ls.flatMap Label.events) := by
      rw [firings_events]
      exact List.mem_filterMap.mpr ⟨_, hmem, by simp⟩
    cases ht : a.timer (id, ticker) with
    | none =>
        rw [((hhistory _).of_none ht).firings_eq] at hfired
        cases hfired
    | some t =>
        have hrecorded := (hhistory _).of_some t ht
        obtain ⟨time', startTime, context', hregister, -⟩ :=
          register_mem_events.mp ((hrecorded.registered _ _).mpr ⟨rfl, rfl⟩)
        exact ⟨time', startTime, t.interval, context', hregister⟩

/-- A manager at time one registers a ticker that fires once, and updates. -/
theorem firesExactly_of_run_once :
    ∃ s : TickerMgr Unit, FiresExactly
      [.register 0 () 1 0 0 5, .update 1, .internal, .dispatch 0 () 5 1]
      s (0, ()) 1 0 := by
  have hrange : (0 : ℕ) < cascadeUnit timeCascadeCount := cascadeUnit_pos _
  have hregister : ((tickerSystem Unit false 1).guard InRange).Run
      (initial false 1) [.register 0 () 1 0 0 5]
      ((initial false 1).registerTicker () 0 0 5) :=
    .single ⟨.register rfl rfl, hrange, hrange⟩
  have hstart : Step ((initial false 1).registerTicker () 0 0 5)
      (.update 1) _ := .update rfl
  have hupdate := hregister.snoc ⟨hstart, trivial⟩
  have henter := hupdate.snoc ⟨.enter rfl (by decide), trivial⟩
  have hfire : Step _ (.dispatch 0 () 5 1) _ :=
    .dispatch (s := ((initial false 1).registerTicker () 0 0 5).setPhase
      (.draining 1)) (n := ⟨some (), 1, 0, 5⟩) rfl rfl rfl rfl
  have hdispatch := henter.snoc ⟨hfire, trivial⟩
  exact ⟨_, (firesExactly_of_run rfl hdispatch).1 0 () 1 0 0 5
    List.mem_cons_self⟩

/-! ## Progress -/

/-- An update is never stuck: until it has finished, and while no callback
runs, it has a next step. -/
theorem exists_step_of_update {s : TickerMgr τ} (h : s.Inv)
    (hphase : s.phase ≠ .idle) : ∃ l s', Step s l s' := by
  have hhead : ∀ slot id rest, s.links.list slot = id :: rest →
      ∃ n ticker, s.node id = some n ∧ n.pTicker = some ticker := by
    intro slot id rest hlist
    obtain ⟨n, hnode, hticker, -⟩ :=
      h.linked id slot (LinkLists.link_of_head hlist)
    obtain ⟨ticker, hsome⟩ := Option.ne_none_iff_exists'.mp hticker
    exact ⟨n, ticker, hnode, hsome⟩
  match hp : s.phase with
  | .idle => exact absurd hp hphase
  | .loop now =>
      by_cases htime : now < s.logicTime
      · exact ⟨_, _, .finish hp htime⟩
      · exact ⟨_, _, .enter hp (Nat.not_lt.mp htime)⟩
  | .cascading now level =>
      match hlist : s.links.list (s.cascadeSlot level) with
      | [] => exact ⟨_, _, .cascadeEnd hp hlist⟩
      | id :: rest =>
          obtain ⟨n, -, hnode, -⟩ := hhead _ id rest hlist
          exact ⟨_, _, .cascadeMove hp hlist hnode⟩
  | .draining now =>
      match hlist : s.links.list s.nearSlot with
      | [] => exact ⟨_, _, .drained hp hlist⟩
      | id :: rest =>
          obtain ⟨n, ticker, hnode, hticker⟩ := hhead _ id rest hlist
          exact ⟨_, _, .dispatch hp hlist hnode hticker⟩
  | .calling now id =>
      obtain ⟨-, -, n, hnode, -⟩ := h.calling now id hp
      exact ⟨_, _, .returned hp hnode⟩
  | .reinserting now =>
      match htemp : s.vecTempTickerNode with
      | [] => exact ⟨_, _, .advance hp htemp⟩
      | id :: rest =>
          obtain ⟨-, n, hnode, -⟩ := h.temp id (by simp [htemp])
          exact ⟨_, _, .reinsert hp htemp hnode⟩

end TickerMgr

end RealtimeEx.Base
