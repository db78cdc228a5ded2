import RealtimeEx.Base.TickerMgrInvariant

/-!
# Nodes and lists of the ticker manager

Whatever the delays and intervals are, the lists contain nodes that exist and
belong to a ticker, a node is either linked, or in the callback, or waits to be
inserted again, and the wheels are cascaded at the ticks they start at.
-/

set_option linter.unusedSectionVars false

namespace RealtimeEx.Base

/-- The update a program point belongs to, while a tick is handled. -/
def Phase.inTick : Phase → Option ℕ
  | .cascading now _ => some now
  | .draining now => some now
  | .calling now _ => some now
  | .reinserting now => some now
  | _ => none

namespace TickerMgr

variable {τ : Type*} [DecidableEq τ]

/-- The part of the invariant that does not need the delays to be in the range
of the wheels. -/
structure Sound (s : TickerMgr τ) : Prop where
  node_lt : ∀ id n, s.node id = some n → id < s.nextNode
  context_iff : ∀ ticker id, s.coreContext ticker = some id ↔
    ∃ n, s.node id = some n ∧ n.pTicker = some ticker
  linked : ∀ id slot, s.links.link id = some slot →
    ∃ n, s.node id = some n ∧ n.pTicker ≠ none
  temp_nodup : s.vecTempTickerNode.Nodup
  temp : ∀ id, id ∈ s.vecTempTickerNode →
    s.links.link id = none ∧ ∃ n, s.node id = some n
  calling : ∀ now id, s.phase = .calling now id →
    s.links.link id = none ∧ id ∉ s.vecTempTickerNode ∧
      ∃ n, s.node id = some n
  aligned : ∀ now level, s.phase = .cascading now level →
    level ≤ timeCascadeCount ∧ cascadeUnit level ∣ s.logicTime
  inTick : ∀ now, s.phase.inTick = some now → s.logicTime ≤ now

theorem sound_initial (callback : Bool) (time : ℕ) :
    (initial callback time : TickerMgr τ).Sound where
  node_lt := by simp [initial]
  context_iff := by simp [initial]
  linked := by simp [initial, LinkLists.empty]
  temp_nodup := List.nodup_nil
  temp := by simp [initial]
  calling := by simp [initial]
  aligned := by simp [initial]
  inTick := by simp [initial, Phase.inTick]

section

variable {s : TickerMgr τ}

/-! ## Lists -/

/-- A node that is not linked is inserted into the list chosen for it, or into
none. -/
theorem link_insertTicker {id next : ℕ} (hlink : s.links.link id = none)
    (i : ℕ) :
    (s.insertTicker id next).links.link i =
      if i = id then slotOf s.logicTime next else s.links.link i := by
  unfold insertTicker
  cases hslot : slotOf s.logicTime next with
  | none =>
      dsimp only
      split
      · rename_i hi
        rw [hi, hlink]
      · rfl
  | some slot => exact LinkLists.link_pushTail hlink i

/-- A list that is not chosen does not change. -/
theorem list_insertTicker {id next : ℕ} (hlink : s.links.link id = none)
    {slot : Slot} (hslot : slotOf s.logicTime next ≠ some slot) :
    (s.insertTicker id next).links.list slot = s.links.list slot := by
  unfold insertTicker
  cases hchosen : slotOf s.logicTime next with
  | none => rfl
  | some chosen =>
      have hne : slot ≠ chosen := by
        rintro rfl
        exact hslot hchosen
      show (s.links.pushTail chosen id).list slot = _
      rw [LinkLists.list_pushTail hlink, Function.update_of_ne hne]

/-! ## What keeps the nodes and the lists in order -/

/-- A step that changes no node and no list. -/
theorem Sound.setPhase (h : s.Sound) {phase : Phase}
    (hcalling : ∀ now id, phase ≠ .calling now id)
    (haligned : ∀ now level, phase = .cascading now level →
      level ≤ timeCascadeCount ∧ cascadeUnit level ∣ s.logicTime)
    (hinTick : ∀ now, phase.inTick = some now → s.logicTime ≤ now) :
    (s.setPhase phase).Sound where
  node_lt := h.node_lt
  context_iff := h.context_iff
  linked := h.linked
  temp_nodup := h.temp_nodup
  temp := h.temp
  calling now id hphase := absurd hphase (hcalling now id)
  aligned := haligned
  inTick := hinTick

/-- A node with a ticker is put into a list, or is lost. -/
theorem Sound.insertTicker (h : s.Sound) {id next : ℕ} {n : TickerNode τ}
    (hlink : s.links.link id = none) (hnode : s.node id = some n)
    (hticker : n.pTicker ≠ none) (htemp : id ∉ s.vecTempTickerNode)
    (hphase : ∀ now, s.phase ≠ .calling now id) :
    (s.insertTicker id next).Sound := by
  have hlinks : ∀ i, (s.insertTicker id next).links.link i =
      if i = id then slotOf s.logicTime next else s.links.link i := link_insertTicker hlink
  obtain ⟨links, heq⟩ := s.exists_insertTicker_eq id next
  rw [heq] at hlinks ⊢
  constructor
  case node_lt => exact h.node_lt
  case context_iff => exact h.context_iff
  case linked =>
    intro i slot hi
    have hold := h.linked i slot
    by_cases heq : i = id
    · subst heq
      exact ⟨n, hnode, hticker⟩
    · rw [hlinks, if_neg heq] at hi
      exact hold hi
  case temp_nodup => exact h.temp_nodup
  case temp =>
    intro i hi
    have hne : i ≠ id := by
      rintro rfl
      exact htemp hi
    rw [hlinks, if_neg hne]
    exact h.temp i hi
  case calling =>
    intro now i hi
    have hne : i ≠ id := by
      rintro rfl
      exact hphase now hi
    rw [hlinks, if_neg hne]
    exact h.calling now i hi
  case aligned => exact h.aligned
  case inTick => exact h.inTick

theorem Sound.node_nextNode (h : s.Sound) : s.node s.nextNode = none := by
  cases hnode : s.node s.nextNode with
  | none => rfl
  | some n => exact absurd (h.node_lt _ n hnode) (Nat.lt_irrefl _)

theorem Sound.link_nextNode (h : s.Sound) : s.links.link s.nextNode = none := by
  cases hlink : s.links.link s.nextNode with
  | none => rfl
  | some slot =>
      obtain ⟨n, hnode, -⟩ := h.linked _ slot hlink
      rw [h.node_nextNode] at hnode
      cases hnode

/-- A registration as it is before the new node is inserted. -/
def withNode (s : TickerMgr τ) (ticker : τ) (startTime intervalTime : ℕ)
    (context : UInt64) : TickerMgr τ :=
  { s with
    node := Function.update s.node s.nextNode
      (some ⟨some ticker, s.logicTime + startTime, intervalTime, context⟩)
    coreContext := Function.update s.coreContext ticker (some s.nextNode)
    nextNode := s.nextNode + 1 }

theorem registerTicker_eq (ticker : τ) (startTime intervalTime : ℕ)
    (context : UInt64) :
    s.registerTicker ticker startTime intervalTime context =
      (s.withNode ticker startTime intervalTime context).insertTicker
        s.nextNode (s.logicTime + startTime) := rfl

theorem Sound.withNode (h : s.Sound) {ticker : τ}
    {startTime intervalTime : ℕ} {context : UInt64}
    (hfree : s.coreContext ticker = none) :
    (s.withNode ticker startTime intervalTime context).Sound := by
  have hnew := h.node_nextNode
  have hunlinked := h.link_nextNode
  unfold TickerMgr.withNode
  constructor
  case node_lt =>
    have hold := h.node_lt
    grind [Function.update_apply]
  case context_iff =>
    intro other id
    have hother := h.context_iff other id
    by_cases hid : id = s.nextNode
    · subst hid
      by_cases hticker : other = ticker
      · simp [hticker]
      · have hne : ticker ≠ other := fun heq => hticker heq.symm
        simp [hticker, hne, hother, hnew]
    · by_cases hticker : other = ticker
      · subst hticker
        rw [hfree] at hother
        simpa [hid, Ne.symm hid] using hother
      · simpa [hid, hticker] using hother
  case linked =>
    intro id slot hid
    have hold := h.linked id slot hid
    grind [Function.update_apply]
  case temp_nodup => exact h.temp_nodup
  case temp =>
    intro id hid
    have hold := h.temp id hid
    grind [Function.update_apply]
  case calling =>
    intro now id hid
    have hold := h.calling now id hid
    grind [Function.update_apply]
  case aligned => exact h.aligned
  case inTick => exact h.inTick

theorem Sound.registerTicker (h : s.Sound) {ticker : τ}
    {startTime intervalTime : ℕ} {context : UInt64}
    (hfree : s.coreContext ticker = none) :
    (s.registerTicker ticker startTime intervalTime context).Sound := by
  rw [registerTicker_eq]
  have hself : (s.withNode ticker startTime intervalTime context).node
      s.nextNode = some ⟨some ticker, s.logicTime + startTime, intervalTime,
        context⟩ := Function.update_self ..
  refine (h.withNode hfree).insertTicker h.link_nextNode hself
    (Option.some_ne_none ticker) ?_ ?_
  · intro hmem
    obtain ⟨-, n, hnode⟩ := h.temp _ hmem
    rw [h.node_nextNode] at hnode
    cases hnode
  · intro now hphase
    obtain ⟨-, -, n, hnode⟩ := h.calling now _ hphase
    rw [h.node_nextNode] at hnode
    cases hnode

/-- The ticker of a node is no other node's. -/
theorem Sound.ticker_unique (h : s.Sound) {id : ℕ} {n : TickerNode τ}
    {ticker other : τ} (hnode : s.node id = some n)
    (hticker : n.pTicker = some ticker) (hother : s.coreContext other = some id) :
    other = ticker := by
  obtain ⟨m, hm, hm'⟩ := (h.context_iff other id).mp hother
  rw [hnode] at hm
  obtain rfl := Option.some.inj hm
  exact Option.some.inj (hm'.symm.trans hticker)

/-- A linked node is deleted. -/
theorem Sound.unregisterLinked (h : s.Sound) {id : ℕ} {ticker : τ} {slot : Slot}
    (hcontext : s.coreContext ticker = some id)
    (hlink : s.links.link id = some slot) :
    ({ s.setContext ticker none with links := s.links.remove id }.setNode id
      none).Sound := by
  obtain ⟨n, hnode, hticker⟩ := (h.context_iff ticker id).mp hcontext
  have hunique : ∀ other, s.coreContext other = some id → other = ticker :=
    fun _ => h.ticker_unique hnode hticker
  have hremove : ∀ i, (s.links.remove id).link i =
      if i = id then none else s.links.link i := LinkLists.link_remove
  have htemp : id ∉ s.vecTempTickerNode := by
    intro hmem
    rw [(h.temp id hmem).1] at hlink
    cases hlink
  simp only [setContext, setNode]
  constructor
  case node_lt =>
    have hold := h.node_lt
    grind [Function.update_apply]
  case context_iff =>
    have hold := h.context_iff
    grind [Function.update_apply]
  case linked =>
    have hold := h.linked
    grind [Function.update_apply]
  case temp_nodup => exact h.temp_nodup
  case temp =>
    intro other hother
    have hold := h.temp other hother
    grind [Function.update_apply]
  case calling =>
    intro now other hother
    have hold := h.calling now other hother
    grind [Function.update_apply]
  case aligned => exact h.aligned
  case inTick => exact h.inTick

/-- A node that is not linked forgets its ticker. -/
theorem Sound.forgetTicker (h : s.Sound) {id : ℕ} {n : TickerNode τ}
    {ticker : τ} (hnode : s.node id = some n)
    (hticker : n.pTicker = some ticker) (hlink : s.links.link id = none) :
    ((s.setNode id (some { n with pTicker := none })).setContext ticker
      none).Sound := by
  have hunique : ∀ other, s.coreContext other = some id → other = ticker :=
    fun _ => h.ticker_unique hnode hticker
  simp only [setContext, setNode]
  constructor
  case node_lt =>
    have hold := h.node_lt
    grind [Function.update_apply]
  case context_iff =>
    intro other i
    have hold := h.context_iff other i
    have hself := (h.context_iff ticker id).mpr ⟨n, hnode, hticker⟩
    have hone := hunique other
    by_cases hi : i = id
    · subst hi
      by_cases hother : other = ticker
      · simp [hother]
      · have hne : s.coreContext other ≠ some i := fun heq => hother (hone heq)
        simp [hother, hne]
    · by_cases hother : other = ticker
      · subst hother
        have hne : s.coreContext other ≠ some i := by
          rw [hself]
          exact fun heq => hi (Option.some.inj heq).symm
        simpa [hi, hne] using hold
      · simpa [hi, hother] using hold
  case linked =>
    intro i slot hi
    have hold := h.linked i slot hi
    grind [Function.update_apply]
  case temp_nodup => exact h.temp_nodup
  case temp =>
    intro other hother
    have hold := h.temp other hother
    grind [Function.update_apply]
  case calling =>
    intro now other hother
    have hold := h.calling now other hother
    grind [Function.update_apply]
  case aligned => exact h.aligned
  case inTick => exact h.inTick

theorem Sound.unregisterTicker (h : s.Sound) (ticker : τ) :
    (s.unregisterTicker ticker).Sound := by
  unfold TickerMgr.unregisterTicker
  cases hcontext : s.coreContext ticker with
  | none => exact h
  | some id =>
      obtain ⟨n, hnode, hticker⟩ := (h.context_iff ticker id).mp hcontext
      cases hlink : s.links.link id with
      | some slot =>
          have hlinked : ((s.setContext ticker none).links.link id).isSome :=
            Option.isSome_iff_exists.mpr ⟨slot, hlink⟩
          dsimp only
          rw [if_pos hlinked]
          exact h.unregisterLinked hcontext hlink
      | none =>
          have hunlinked : ¬ ((s.setContext ticker none).links.link id).isSome := by
            rw [show (s.setContext ticker none).links.link id = none from hlink]
            exact Bool.noConfusion
          have hsame : (s.setContext ticker none).node id = some n := hnode
          dsimp only
          rw [if_neg hunlinked, hsame]
          exact h.forgetTicker hnode hticker hlink

/-- A node is taken out of its list. -/
theorem Sound.remove (h : s.Sound) (id : ℕ) :
    { s with links := s.links.remove id }.Sound := by
  have hremove : ∀ i, (s.links.remove id).link i =
      if i = id then none else s.links.link i := LinkLists.link_remove
  constructor
  case node_lt => exact h.node_lt
  case context_iff => exact h.context_iff
  case linked =>
    intro i slot hi
    have hold := h.linked i slot
    grind
  case temp_nodup => exact h.temp_nodup
  case temp =>
    intro other hother
    have hold := h.temp other hother
    grind
  case calling =>
    intro now other hother
    have hold := h.calling now other hother
    grind
  case aligned => exact h.aligned
  case inTick => exact h.inTick

/-! ## The loop -/

theorem Sound.moveTicker (h : s.Sound) {now level id : ℕ} {rest : List ℕ}
    {n : TickerNode τ} (hphase : s.phase = .cascading now level)
    (hlist : s.links.list (s.cascadeSlot level) = id :: rest)
    (hnode : s.node id = some n) : (s.moveTicker id n).Sound := by
  have hlink := LinkLists.link_of_head hlist
  obtain ⟨m, hm, hticker⟩ := h.linked id _ hlink
  rw [hnode] at hm
  obtain rfl := Option.some.inj hm
  refine (h.remove id).insertTicker (by simp) hnode hticker ?_ ?_
  · intro hmem
    rw [(h.temp id hmem).1] at hlink
    cases hlink
  · intro now' hcalling
    have hother : s.phase = .calling now' id := hcalling
    rw [hphase] at hother
    cases hother

/-- The callback of a node begins: it is neither linked nor to be inserted
again. -/
theorem Sound.beginCalling (h : s.Sound) {now id : ℕ} {n : TickerNode τ}
    (hphase : s.phase = .draining now) (hnode : s.node id = some n)
    (hlink : s.links.link id = none) (htemp : id ∉ s.vecTempTickerNode) :
    (s.setPhase (.calling now id)).Sound where
  node_lt := h.node_lt
  context_iff := h.context_iff
  linked := h.linked
  temp_nodup := h.temp_nodup
  temp := h.temp
  calling now' i hi := by
    cases hi
    exact ⟨hlink, htemp, n, hnode⟩
  aligned _ _ hi := by cases hi
  inTick now' hi := by
    cases hi
    exact h.inTick now (by rw [hphase]; rfl)

theorem Sound.beginDispatch (h : s.Sound) {now id : ℕ} {rest : List ℕ}
    {n : TickerNode τ} {ticker : τ} (hphase : s.phase = .draining now)
    (hlist : s.links.list s.nearSlot = id :: rest)
    (hnode : s.node id = some n) (hticker : n.pTicker = some ticker) :
    ((s.beginDispatch id n ticker).setPhase (.calling now id)).Sound := by
  have hlink := LinkLists.link_of_head hlist
  have hremoved : (s.links.remove id).link id = none := by simp
  have htemp : id ∉ s.vecTempTickerNode := by
    intro hmem
    rw [(h.temp id hmem).1] at hlink
    cases hlink
  unfold TickerMgr.beginDispatch
  dsimp only
  split
  · have hforget := (h.remove id).forgetTicker hnode hticker hremoved
    exact hforget.beginCalling hphase (Function.update_self ..) hremoved htemp
  · exact (h.remove id).beginCalling hphase hnode hremoved htemp

theorem Sound.endDispatch (h : s.Sound) {now id : ℕ} {n : TickerNode τ}
    (hphase : s.phase = .calling now id) (hnode : s.node id = some n) :
    ((s.endDispatch id n).setPhase (.draining now)).Sound := by
  obtain ⟨hlink, hmem, -⟩ := h.calling now id hphase
  have htick := h.inTick now (by rw [hphase]; rfl)
  unfold TickerMgr.endDispatch
  split
  · rename_i hnone
    simp only [TickerMgr.setPhase, setNode]
    constructor
    case node_lt =>
      have hold := h.node_lt
      grind [Function.update_apply]
    case context_iff =>
      have hold := h.context_iff
      grind [Function.update_apply]
    case linked =>
      intro i slot hi
      have hold := h.linked i slot hi
      grind [Function.update_apply]
    case temp_nodup => exact h.temp_nodup
    case temp =>
      intro i hi
      have hold := h.temp i hi
      grind [Function.update_apply]
    case calling => simp
    case aligned => simp
    case inTick => simpa [Phase.inTick] using htick
  · simp only [TickerMgr.setPhase, setNode]
    constructor
    case node_lt =>
      have hold := h.node_lt
      grind [Function.update_apply]
    case context_iff =>
      have hold := h.context_iff
      grind [Function.update_apply]
    case linked =>
      intro i slot hi
      have hold := h.linked i slot hi
      grind [Function.update_apply]
    case temp_nodup =>
      exact List.Nodup.append h.temp_nodup (List.nodup_singleton id)
        (by simpa using hmem)
    case temp =>
      intro i hi
      have hold := h.temp i
      grind [Function.update_apply]
    case calling => simp
    case aligned => simp
    case inTick => simpa [Phase.inTick] using htick

/-- The first node that is to be inserted again is taken out of the vector. -/
theorem Sound.popTemp (h : s.Sound) {id : ℕ} {rest : List ℕ}
    (htemp : s.vecTempTickerNode = id :: rest) :
    { s with vecTempTickerNode := rest }.Sound := by
  have hnodup := h.temp_nodup
  rw [htemp, List.nodup_cons] at hnodup
  constructor
  case node_lt => exact h.node_lt
  case context_iff => exact h.context_iff
  case linked => exact h.linked
  case temp_nodup => exact hnodup.2
  case temp =>
    intro i hi
    have hold : i ∈ s.vecTempTickerNode := by
      rw [htemp]
      exact List.mem_cons_of_mem id hi
    exact h.temp i hold
  case calling =>
    intro now i hi
    obtain ⟨hlink, hmem, hnode⟩ := h.calling now i hi
    rw [htemp] at hmem
    exact ⟨hlink, fun hrest => hmem (List.mem_cons_of_mem id hrest), hnode⟩
  case aligned => exact h.aligned
  case inTick => exact h.inTick

theorem Sound.reinsert (h : s.Sound) {now id : ℕ} {rest : List ℕ}
    {n : TickerNode τ} (hphase : s.phase = .reinserting now)
    (htemp : s.vecTempTickerNode = id :: rest)
    (hnode : s.node id = some n) : (s.reinsert id n rest).Sound := by
  have hmem : id ∈ s.vecTempTickerNode := by
    rw [htemp]
    exact List.mem_cons_self
  have hlink := (h.temp id hmem).1
  have hnodup := h.temp_nodup
  rw [htemp, List.nodup_cons] at hnodup
  have hpop := h.popTemp htemp
  have hcalling : ∀ now' i, s.phase ≠ .calling now' i := by
    intro now' i hi
    rw [hphase] at hi
    cases hi
  unfold TickerMgr.reinsert
  split
  · rename_i hnone
    simp only [setNode]
    constructor
    case node_lt =>
      have hold := hpop.node_lt
      grind [Function.update_apply]
    case context_iff =>
      have hold := hpop.context_iff
      grind [Function.update_apply]
    case linked =>
      intro i slot hi
      have hold := hpop.linked i slot hi
      grind [Function.update_apply]
    case temp_nodup => exact hnodup.2
    case temp =>
      intro i hi
      have hold := hpop.temp i hi
      grind [Function.update_apply]
    case calling => exact fun now' i hi => absurd hi (hcalling now' i)
    case aligned => exact h.aligned
    case inTick => exact h.inTick
  · rename_i hsome
    have hticker : n.pTicker ≠ none := by simpa using hsome
    exact hpop.insertTicker hlink hnode hticker hnodup.1
      fun now' => hcalling now' id

/-- What a tick ends with. -/
theorem Sound.advance (h : s.Sound) {now : ℕ} :
    Sound { s.setPhase (.loop now) with logicTime := s.logicTime + 1 } where
  node_lt := h.node_lt
  context_iff := h.context_iff
  linked := h.linked
  temp_nodup := h.temp_nodup
  temp := h.temp
  calling := by simp [TickerMgr.setPhase]
  aligned := by simp [TickerMgr.setPhase]
  inTick := by simp [TickerMgr.setPhase, Phase.inTick]

theorem Sound.enter (h : s.Sound) {now : ℕ} (htime : s.logicTime ≤ now) :
    (if s.logicTime % 2 ^ timeNearBits = 0 then
      s.setPhase (.cascading now 0)
    else
      s.setPhase (.draining now)).Sound := by
  split
  · rename_i hzero
    refine h.setPhase (by simp) ?_ (by simpa [Phase.inTick] using htime)
    intro now' level hi
    cases hi
    exact ⟨Nat.zero_le _, Nat.dvd_of_mod_eq_zero hzero⟩
  · exact h.setPhase (by simp) (by simp) (by simpa [Phase.inTick] using htime)

/-- The next level starts where a unit of it starts. -/
theorem cascadeUnit_succ_dvd {level time : ℕ} (hdvd : cascadeUnit level ∣ time)
    (hpos : time / cascadeUnit level % 2 ^ timeCascadeBits = 0) :
    cascadeUnit (level + 1) ∣ time := by
  obtain ⟨k, rfl⟩ := hdvd
  rw [Nat.mul_div_cancel_left _ (cascadeUnit_pos level)] at hpos
  rw [cascadeUnit_succ, Nat.mul_comm]
  exact Nat.mul_dvd_mul_left _ (Nat.dvd_of_mod_eq_zero hpos)

theorem Sound.cascadeEnd (h : s.Sound) {now level : ℕ}
    (hphase : s.phase = .cascading now level) :
    (if level < timeCascadeCount ∧ s.cascadePos level = 0 then
      s.setPhase (.cascading now (level + 1))
    else
      s.setPhase (.draining now)).Sound := by
  have htick := h.inTick now (by rw [hphase]; rfl)
  split
  · rename_i hnext
    refine h.setPhase (by simp) ?_ (by simpa [Phase.inTick] using htick)
    intro now' level' hi
    cases hi
    have hdvd := (h.aligned now level hphase).2
    exact ⟨hnext.1, cascadeUnit_succ_dvd hdvd hnext.2⟩
  · exact h.setPhase (by simp) (by simp) (by simpa [Phase.inTick] using htick)

/-- Every step keeps the nodes and the lists in order. -/
theorem Sound.step {s' : TickerMgr τ} {l : Label τ} (h : s.Sound)
    (hstep : Step s l s') : s'.Sound := by
  cases hstep with
  | register hphase hfree => exact h.registerTicker hfree
  | unregister => exact h.unregisterTicker _
  | update hphase =>
      exact h.setPhase (by simp) (by simp) (by simp [Phase.inTick])
  | finish hphase =>
      exact h.setPhase (by simp) (by simp) (by simp [Phase.inTick])
  | enter hphase htime => exact h.enter htime
  | cascadeMove hphase hlist hnode => exact h.moveTicker hphase hlist hnode
  | cascadeEnd hphase hlist => exact h.cascadeEnd hphase
  | dispatch hphase hlist hnode hticker =>
      exact h.beginDispatch hphase hlist hnode hticker
  | returned hphase hnode => exact h.endDispatch hphase hnode
  | @drained now hphase =>
      have htick := h.inTick now (by rw [hphase]; rfl)
      exact h.setPhase (by simp) (by simp) (by simpa [Phase.inTick] using htick)
  | reinsert hphase htemp hnode => exact h.reinsert hphase htemp hnode
  | advance _ _ => exact h.advance

theorem sound_of_reachable {callback : Bool} {time : ℕ}
    (hreach : (tickerSystem τ callback time).Reachable s) : s.Sound := by
  refine hreach.invariant ?_ fun _ _ _ h hstep => h.step hstep
  rintro s₀ rfl
  exact sound_initial callback time

end

end TickerMgr

end RealtimeEx.Base
