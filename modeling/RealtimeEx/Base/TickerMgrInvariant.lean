import RealtimeEx.Base.TickerMgr

/-!
# The invariant of the ticker manager

The position of a node is determined by its due time and by which cascades
have already run.  A node of cascade level `l` waits for the tick at which the
list it is in is emptied, and that tick is the first multiple of the level's
unit that is still to come and has the position of the list; the near lists
hold exactly the due times of the next `2 ^ 16` ticks.

The cascade of a level at the current tick may have run already or not, so
the bounds depend on the program point of `update`.
-/

set_option linter.unusedSectionVars false

namespace RealtimeEx.Base

/-! ## Units of the levels -/

theorem cascadeUnit_pos (level : ℕ) : 0 < cascadeUnit level :=
  Nat.two_pow_pos _

theorem cascadeUnit_zero : cascadeUnit 0 = 2 ^ timeNearBits := rfl

theorem cascadeUnit_succ (level : ℕ) :
    cascadeUnit (level + 1) = 2 ^ timeCascadeBits * cascadeUnit level := by
  simp only [cascadeUnit, timeNearBits, timeCascadeBits]
  rw [← Nat.pow_add]
  congr 1
  omega

theorem cascadeUnit_dvd {l m : ℕ} (h : l ≤ m) :
    cascadeUnit l ∣ cascadeUnit m :=
  Nat.pow_dvd_pow 2 (by simp only [timeNearBits, timeCascadeBits]; omega)

/-- The start of the unit a time lies in. -/
def unitStart (level time : ℕ) : ℕ :=
  time / cascadeUnit level * cascadeUnit level

theorem unitStart_le (level time : ℕ) : unitStart level time ≤ time :=
  Nat.div_mul_le_self time _

theorem lt_unitStart_add (level time : ℕ) :
    time < unitStart level time + cascadeUnit level := by
  have h := Nat.div_add_mod' time (cascadeUnit level)
  have hlt := Nat.mod_lt time (cascadeUnit_pos level)
  simp only [unitStart]
  omega

/-- Among the next units of a level there is only one with the position of
the current one, the current one. -/
theorem unitStart_eq_of_pos {level time next : ℕ}
    (hdvd : cascadeUnit level ∣ time)
    (hle : time ≤ unitStart level next)
    (hlt : unitStart level next < time + cascadeUnit (level + 1))
    (hpos : next / cascadeUnit level % 2 ^ timeCascadeBits =
      time / cascadeUnit level % 2 ^ timeCascadeBits) :
    unitStart level next = time := by
  obtain ⟨k, rfl⟩ := hdvd
  have hunit := cascadeUnit_pos level
  rw [Nat.mul_div_cancel_left k hunit] at hpos
  rw [cascadeUnit_succ] at hlt
  simp only [unitStart] at *
  generalize next / cascadeUnit level = m at *
  generalize cascadeUnit level = unit at *
  have hkm : k ≤ m := by
    refine Nat.le_of_mul_le_mul_left ?_ hunit
    rw [Nat.mul_comm unit m]
    exact hle
  have hmk : m < k + 2 ^ timeCascadeBits := by
    refine Nat.lt_of_mul_lt_mul_left (a := unit) ?_
    rw [Nat.mul_add, Nat.mul_comm unit m,
      Nat.mul_comm unit (2 ^ timeCascadeBits)]
    exact hlt
  have heq : m = k := by
    simp only [timeCascadeBits] at *
    omega
  rw [heq, Nat.mul_comm]

theorem pos_eq_of_unitStart {level time next : ℕ}
    (h : unitStart level next = time) :
    next / cascadeUnit level = time / cascadeUnit level := by
  rw [← h, unitStart, Nat.mul_div_cancel _ (cascadeUnit_pos level)]

/-! ## Where a node may be -/

/-- The first tick at which the cascade of the level is still to come. -/
def Phase.cascadeFrom (time level : ℕ) : Phase → ℕ
  | .idle | .loop _ => time
  | .cascading _ current => if level < current then time + 1 else time
  | _ => time + 1

/-- The first due time that is still to be dispatched from the near lists. -/
def Phase.nearFrom (time : ℕ) : Phase → ℕ
  | .reinserting _ => time + 1
  | _ => time

theorem Phase.le_cascadeFrom (phase : Phase) (time level : ℕ) :
    time ≤ phase.cascadeFrom time level := by
  unfold cascadeFrom
  split
  · exact Nat.le_refl _
  · exact Nat.le_refl _
  · split <;> omega
  · omega

theorem Phase.cascadeFrom_le (phase : Phase) (time level : ℕ) :
    phase.cascadeFrom time level ≤ time + 1 := by
  unfold cascadeFrom
  split
  · omega
  · omega
  · split <;> omega
  · omega

/-- A node that is due at `next` may be in the given list. -/
def SlotOk (phase : Phase) (time next : ℕ) : Slot → Prop
  | .near pos =>
      next % 2 ^ timeNearBits = pos ∧ phase.nearFrom time ≤ next ∧
        next < time + 2 ^ timeNearBits
  | .cascade level pos =>
      level < timeCascadeCount ∧
        next / cascadeUnit level % 2 ^ timeCascadeBits = pos ∧
        phase.cascadeFrom time level ≤ unitStart level next ∧
        unitStart level next <
          phase.cascadeFrom time level + cascadeUnit (level + 1)
  | .far => False

theorem cascadeLevel_spec (deltaTime : ℕ)
    (hnear : 2 ^ timeNearBits ≤ deltaTime)
    (hfar : deltaTime < cascadeUnit timeCascadeCount) :
    cascadeLevel deltaTime < timeCascadeCount ∧
      cascadeUnit (cascadeLevel deltaTime) ≤ deltaTime ∧
      deltaTime < cascadeUnit (cascadeLevel deltaTime + 1) := by
  unfold cascadeLevel
  simp only [timeCascadeCount] at *
  rw [← cascadeUnit_zero] at hnear
  split
  · exact ⟨by decide, hnear, by assumption⟩
  · split
    · exact ⟨by decide, by omega, by assumption⟩
    · exact ⟨by decide, by omega, hfar⟩

/-- `insertTicker` puts a node where it may be. -/
theorem exists_slotOf {phase : Phase} {time next : ℕ}
    (hnear : phase.nearFrom time ≤ next)
    (hfar : next < time + cascadeUnit timeCascadeCount) :
    ∃ slot, slotOf time next = some slot ∧ SlotOk phase time next slot := by
  have hle : time ≤ next := by
    refine Nat.le_trans ?_ hnear
    unfold Phase.nearFrom
    split <;> omega
  rw [slotOf, if_pos hle]
  dsimp only
  split
  · rename_i hlt
    exact ⟨_, rfl, rfl, hnear, by omega⟩
  · rename_i hge
    obtain ⟨hlevel, hunit, hnext⟩ :=
      cascadeLevel_spec (next - time) (by omega) (by omega)
    rw [if_pos hlevel]
    generalize cascadeLevel (next - time) = level at *
    have hstart := unitStart_le level next
    have hend := lt_unitStart_add level next
    have hfrom := phase.le_cascadeFrom time level
    have hto := phase.cascadeFrom_le time level
    exact ⟨_, rfl, hlevel, rfl, by omega, by omega⟩

/-- A node may stay where it is while the bounds move past nothing it waits
for. -/
theorem SlotOk.mono {phase phase' : Phase} {time next : ℕ} {slot : Slot}
    (h : SlotOk phase time next slot)
    (hnear : ∀ pos, slot = .near pos → phase'.nearFrom time ≤ next)
    (hcascade : ∀ level pos, slot = .cascade level pos →
      phase'.cascadeFrom time level ≤ unitStart level next ∧
        phase.cascadeFrom time level ≤ phase'.cascadeFrom time level) :
    SlotOk phase' time next slot := by
  cases slot with
  | near pos => exact ⟨h.1, hnear pos rfl, h.2.2⟩
  | cascade level pos =>
      obtain ⟨hlevel, hpos, -, hlt⟩ := h
      obtain ⟨hle, hmono⟩ := hcascade level pos rfl
      exact ⟨hlevel, hpos, hle, by omega⟩
  | far => exact h

theorem SlotOk.of_eq {phase phase' : Phase} {time next : ℕ} {slot : Slot}
    (h : SlotOk phase time next slot)
    (hnear : phase'.nearFrom time = phase.nearFrom time)
    (hcascade : ∀ level, phase'.cascadeFrom time level =
      phase.cascadeFrom time level) : SlotOk phase' time next slot := by
  refine h.mono ?_ ?_
  · rintro pos rfl
    rw [hnear]
    exact h.2.1
  · rintro level pos rfl
    rw [hcascade]
    exact ⟨h.2.2.1, Nat.le_refl _⟩

/-! ## The invariant -/

namespace TickerMgr

variable {τ : Type*} [DecidableEq τ]

/-- The invariant of the manager. -/
structure Inv (s : TickerMgr τ) : Prop where
  node_lt : ∀ id n, s.node id = some n → id < s.nextNode
  context_iff : ∀ ticker id, s.coreContext ticker = some id ↔
    ∃ n, s.node id = some n ∧ n.pTicker = some ticker
  interval_lt : ∀ id n, s.node id = some n →
    n.intervalTime < cascadeUnit timeCascadeCount
  linked : ∀ id slot, s.links.link id = some slot →
    ∃ n, s.node id = some n ∧ n.pTicker ≠ none ∧
      SlotOk s.phase s.logicTime n.nextTime slot
  temp_nodup : s.vecTempTickerNode.Nodup
  temp : ∀ id, id ∈ s.vecTempTickerNode → s.links.link id = none ∧
    ∃ n, s.node id = some n ∧ (n.pTicker ≠ none →
      0 < n.intervalTime ∧ n.nextTime = s.logicTime + n.intervalTime)
  calling : ∀ now id, s.phase = .calling now id →
    s.links.link id = none ∧ id ∉ s.vecTempTickerNode ∧
      ∃ n, s.node id = some n ∧ (n.pTicker ≠ none →
        0 < n.intervalTime ∧ n.nextTime = s.logicTime)
  located : ∀ id n, s.node id = some n → s.links.link id = none →
    id ∉ s.vecTempTickerNode → ∃ now, s.phase = .calling now id
  temp_phase : s.vecTempTickerNode ≠ [] →
    s.phase.cascadeFrom s.logicTime 0 = s.logicTime + 1
  aligned : ∀ now level, s.phase = .cascading now level →
    cascadeUnit level ∣ s.logicTime ∧ s.vecTempTickerNode = []

theorem inv_initial (callback : Bool) (time : ℕ) :
    (initial callback time : TickerMgr τ).Inv where
  node_lt := by simp [initial]
  context_iff := by simp [initial]
  interval_lt := by simp [initial]
  linked := by simp [initial, LinkLists.empty]
  temp_nodup := List.nodup_nil
  temp := by simp [initial]
  calling := by simp [initial]
  located := by simp [initial]
  temp_phase := by simp [initial]
  aligned := by simp [initial]

section

variable {s : TickerMgr τ}

theorem inv_registerTicker (h : s.Inv) {ticker : τ}
    {startTime intervalTime : ℕ} {context : UInt64}
    (hphase : s.phase.external) (hfree : s.coreContext ticker = none)
    (hstart : startTime < cascadeUnit timeCascadeCount)
    (hinterval : intervalTime < cascadeUnit timeCascadeCount) :
    (s.registerTicker ticker startTime intervalTime context).Inv := by
  have hnew : s.node s.nextNode = none := by
    cases hnode : s.node s.nextNode with
    | none => rfl
    | some n => exact absurd (h.node_lt _ n hnode) (Nat.lt_irrefl _)
  have hunlinked : s.links.link s.nextNode = none := by
    cases hlink : s.links.link s.nextNode with
    | none => rfl
    | some slot =>
        obtain ⟨n, hnode, -⟩ := h.linked _ slot hlink
        rw [hnew] at hnode
        cases hnode
  have hnear : s.phase.nearFrom s.logicTime ≤ s.logicTime + startTime := by
    cases hp : s.phase with
    | reinserting now => simp [hp, Phase.external] at hphase
    | _ => exact Nat.le_add_right _ _
  obtain ⟨slot, hslot, hok⟩ := exists_slotOf hnear
    (Nat.add_lt_add_left hstart s.logicTime)
  have heq : s.registerTicker ticker startTime intervalTime context =
      { s with
        links := s.links.pushTail slot s.nextNode
        node := Function.update s.node s.nextNode
          (some ⟨some ticker, s.logicTime + startTime, intervalTime, context⟩)
        nextNode := s.nextNode + 1
        coreContext :=
          Function.update s.coreContext ticker (some s.nextNode) } := by
    simp [registerTicker, insertTicker, setNode, setContext, hslot]
  rw [heq]
  have hlink := LinkLists.link_pushTail (k := slot) hunlinked
  constructor
  case node_lt =>
    have hold := h.node_lt
    grind [Function.update_apply]
  case context_iff =>
    intro other id
    have hother := h.context_iff other id
    by_cases hid : id = s.nextNode
    · subst hid
      by_cases hticker : other = ticker
      · simp [hticker]
      · have hne : ticker ≠ other := fun heq => hticker heq.symm
        simp [hticker, hne, hother, hnew]
    · by_cases hticker : other = ticker
      · subst hticker
        rw [hfree] at hother
        simpa [hid, Ne.symm hid] using hother
      · simpa [hid, hticker] using hother
  case interval_lt =>
    have hold := h.interval_lt
    grind [Function.update_apply]
  case linked =>
    intro id other hother
    by_cases hid : id = s.nextNode
    · subst hid
      rw [hlink, if_pos rfl] at hother
      cases hother
      exact ⟨_, Function.update_self .., by simp, hok⟩
    · rw [hlink, if_neg hid] at hother
      obtain ⟨n, hnode, hn⟩ := h.linked id other hother
      exact ⟨n, (Function.update_of_ne hid _ _).trans hnode, hn⟩
  case temp_nodup => exact h.temp_nodup
  case temp =>
    intro other hother
    have hold := h.temp other hother
    grind [Function.update_apply]
  case calling =>
    intro now other hother
    have hold := h.calling now other hother
    grind [Function.update_apply]
  case located =>
    have hold := h.located
    grind [Function.update_apply]
  case temp_phase => exact h.temp_phase
  case aligned => exact h.aligned

theorem inv_unregisterTicker (h : s.Inv) {ticker : τ} :
    (s.unregisterTicker ticker).Inv := by
  unfold unregisterTicker
  cases hcontext : s.coreContext ticker with
  | none => exact h
  | some id =>
      obtain ⟨n, hnode, hticker⟩ := (h.context_iff ticker id).mp hcontext
      have hunique : ∀ other, s.coreContext other = some id →
          other = ticker := by
        intro other hother
        obtain ⟨m, hm, hm'⟩ := (h.context_iff other id).mp hother
        rw [hnode] at hm
        cases hm
        exact Option.some.inj (hm'.symm.trans hticker)
      cases hlink : s.links.link id with
      | some slot =>
          -- the node waits in a list and is deleted
          have hremove : ∀ i, (s.links.remove id).link i =
              if i = id then none else s.links.link i :=
            LinkLists.link_remove
          have htemp : id ∉ s.vecTempTickerNode := by
            intro hmem
            rw [(h.temp id hmem).1] at hlink
            cases hlink
          simp only [setContext, setNode, hlink, Option.isSome_some, if_true]
          constructor
          case node_lt =>
            have hold := h.node_lt
            grind [Function.update_apply]
          case context_iff =>
            have hold := h.context_iff
            grind [Function.update_apply]
          case interval_lt =>
            have hold := h.interval_lt
            grind [Function.update_apply]
          case linked =>
            have hold := h.linked
            grind [Function.update_apply]
          case temp_nodup => exact h.temp_nodup
          case temp =>
            intro other hother
            have hold := h.temp other hother
            grind [Function.update_apply]
          case calling =>
            intro now other hother
            have hold := h.calling now other hother
            grind [Function.update_apply]
          case located =>
            have hold := h.located
            grind [Function.update_apply]
          case temp_phase => exact h.temp_phase
          case aligned => exact h.aligned
      | none =>
          -- the node is being dispatched and only forgets its ticker
          simp only [setContext, setNode, hlink, Option.isSome_none,
            Bool.false_eq_true, if_false, hnode, Option.map_some]
          constructor
          case node_lt =>
            have hold := h.node_lt
            grind [Function.update_apply]
          case context_iff =>
            have hold := h.context_iff
            grind [Function.update_apply]
          case interval_lt =>
            have hold := h.interval_lt
            grind [Function.update_apply]
          case linked =>
            have hold := h.linked
            grind [Function.update_apply]
          case temp_nodup => exact h.temp_nodup
          case temp =>
            intro other hother
            have hold := h.temp other hother
            grind [Function.update_apply]
          case calling =>
            intro now other hother
            have hold := h.calling now other hother
            grind [Function.update_apply]
          case located =>
            have hold := h.located
            grind [Function.update_apply]
          case temp_phase => exact h.temp_phase
          case aligned => exact h.aligned

/-- The steps that only move the program point on. -/
theorem Inv.setPhase (h : s.Inv) {phase : Phase}
    (hcalling : ∀ now id, s.phase ≠ .calling now id)
    (hcalling' : ∀ now id, phase ≠ .calling now id)
    (hslot : ∀ id slot next, s.links.link id = some slot →
      SlotOk s.phase s.logicTime next slot →
        SlotOk phase s.logicTime next slot)
    (htemp : s.vecTempTickerNode ≠ [] →
      phase.cascadeFrom s.logicTime 0 = s.logicTime + 1)
    (haligned : ∀ now level, phase = .cascading now level →
      cascadeUnit level ∣ s.logicTime ∧ s.vecTempTickerNode = []) :
    (s.setPhase phase).Inv where
  node_lt := h.node_lt
  context_iff := h.context_iff
  interval_lt := h.interval_lt
  linked id slot hlink := by
    obtain ⟨n, hnode, hticker, hok⟩ := h.linked id slot hlink
    exact ⟨n, hnode, hticker, hslot id slot _ hlink hok⟩
  temp_nodup := h.temp_nodup
  temp := h.temp
  calling now id hphase := absurd hphase (hcalling' now id)
  located id n hnode hlink hmem := by
    obtain ⟨now, hphase⟩ := h.located id n hnode hlink hmem
    exact absurd hphase (hcalling now id)
  temp_phase := htemp
  aligned := haligned

theorem inv_update (h : s.Inv) {now : ℕ} (hphase : s.phase = .idle) :
    (s.setPhase (.loop now)).Inv := by
  refine h.setPhase (by simp [hphase]) (by simp) ?_ ?_ (by simp)
  · intro id slot next _ hok
    rw [hphase] at hok
    exact hok.of_eq rfl fun _ => rfl
  · intro hne
    have htemp := h.temp_phase hne
    simp [hphase, Phase.cascadeFrom] at htemp

theorem inv_finish (h : s.Inv) {now : ℕ} (hphase : s.phase = .loop now) :
    (s.setPhase .idle).Inv := by
  refine h.setPhase (by simp [hphase]) (by simp) ?_ ?_ (by simp)
  · intro id slot next _ hok
    rw [hphase] at hok
    exact hok.of_eq rfl fun _ => rfl
  · intro hne
    have htemp := h.temp_phase hne
    simp [hphase, Phase.cascadeFrom] at htemp

/-- The cascades of the current tick may be passed over for the levels whose
unit does not start there. -/
theorem slotOk_draining {now time next level pos : ℕ} {phase : Phase}
    (hok : SlotOk phase time next (.cascade level pos))
    (hne : unitStart level next ≠ time) :
    SlotOk (.draining now) time next (.cascade level pos) := by
  have hfrom := phase.le_cascadeFrom time level
  have hto := phase.cascadeFrom_le time level
  refine hok.mono (by simp) ?_
  intro l p heq
  cases heq
  have hge := hok.2.2.1
  exact ⟨show time + 1 ≤ unitStart level next by omega, hto⟩

theorem unitStart_ne_of_not_dvd {level time next : ℕ}
    (h : ¬ cascadeUnit level ∣ time) : unitStart level next ≠ time := by
  rintro rfl
  exact h (Nat.dvd_mul_left _ _)

theorem inv_enter (h : s.Inv) {now : ℕ} (hphase : s.phase = .loop now) :
    (if s.logicTime % 2 ^ timeNearBits = 0 then
      s.setPhase (.cascading now 0)
    else
      s.setPhase (.draining now)).Inv := by
  have htemp : s.vecTempTickerNode = [] := by
    by_contra hne
    have hfrom := h.temp_phase hne
    simp [hphase, Phase.cascadeFrom] at hfrom
  split
  · rename_i hzero
    refine h.setPhase (by simp [hphase]) (by simp) ?_ (by simp [htemp]) ?_
    · intro id slot next _ hok
      rw [hphase] at hok
      exact hok.of_eq rfl fun _ => rfl
    · intro now' level heq
      cases heq
      exact ⟨Nat.dvd_of_mod_eq_zero hzero, htemp⟩
  · rename_i hne
    refine h.setPhase (by simp [hphase]) (by simp) ?_ (by simp [htemp])
      (by simp)
    intro id slot next _ hok
    rw [hphase] at hok
    cases slot with
    | near pos => exact ⟨hok.1, hok.2.1, hok.2.2⟩
    | cascade level pos =>
        refine slotOk_draining hok (unitStart_ne_of_not_dvd fun hdvd => ?_)
        have hunit := (cascadeUnit_dvd (Nat.zero_le level)).trans hdvd
        exact hne (Nat.mod_eq_zero_of_dvd hunit)
    | far => exact hok

/-- Once the list of a level is empty, no node waits for the current tick on
that level. -/
theorem unitStart_ne_of_nil {level id pos next : ℕ}
    (hlevel : level < timeCascadeCount)
    (hlist : s.links.list (s.cascadeSlot level) = [])
    (hlink : s.links.link id = some (.cascade level pos))
    (hok : SlotOk s.phase s.logicTime next (.cascade level pos)) :
    unitStart level next ≠ s.logicTime := by
  intro hstart
  refine LinkLists.list_eq_nil_iff.mp hlist id ?_
  rw [hlink, cascadeSlot, if_pos hlevel, cascadePos, ← hok.2.1,
    pos_eq_of_unitStart hstart]

theorem inv_cascadeEnd (h : s.Inv) {now level : ℕ}
    (hphase : s.phase = .cascading now level)
    (hlist : s.links.list (s.cascadeSlot level) = []) :
    (if level < timeCascadeCount ∧ s.cascadePos level = 0 then
      s.setPhase (.cascading now (level + 1))
    else
      s.setPhase (.draining now)).Inv := by
  obtain ⟨haligned, htemp⟩ := h.aligned now level hphase
  split
  · rename_i hcond
    obtain ⟨hlevel, hpos⟩ := hcond
    refine h.setPhase (by simp [hphase]) (by simp) ?_ (by simp [htemp]) ?_
    · intro id slot next hlink hok
      have hok' := hok
      rw [hphase] at hok'
      refine hok'.mono ?_ ?_
      · rintro pos rfl
        exact hok'.2.1
      · rintro l pos rfl
        have hge := hok'.2.2.1
        have hne : l = level → unitStart l next ≠ s.logicTime := by
          rintro rfl
          exact unitStart_ne_of_nil hlevel hlist hlink hok
        simp only [Phase.cascadeFrom] at hge ⊢
        constructor
        · split at hge <;> split <;> omega
        · split <;> split <;> omega
    · intro now' l heq
      cases heq
      refine ⟨?_, htemp⟩
      obtain ⟨k, hk⟩ := haligned
      rw [cascadePos, hk, Nat.mul_div_cancel_left k (cascadeUnit_pos level)]
        at hpos
      obtain ⟨m, rfl⟩ := Nat.dvd_of_mod_eq_zero hpos
      exact ⟨m, by rw [hk, cascadeUnit_succ]; ac_rfl⟩
  · rename_i hcond
    refine h.setPhase (by simp [hphase]) (by simp) ?_ (by simp [htemp])
      (by simp)
    intro id slot next hlink hok
    cases slot with
    | near pos =>
        rw [hphase] at hok
        exact ⟨hok.1, hok.2.1, hok.2.2⟩
    | cascade l pos =>
        refine slotOk_draining hok ?_
        intro hstart
        have hge := hok.2.2.1
        rw [hphase] at hge
        simp only [Phase.cascadeFrom] at hge
        split at hge
        · omega
        · rename_i hl
          have hl' := hok.1
          by_cases heq : l = level
          · subst heq
            exact unitStart_ne_of_nil hl' hlist hlink hok hstart
          · -- the current level is not at the start of its wheel
            have hlevel : level < timeCascadeCount := by omega
            refine hcond ⟨hlevel, ?_⟩
            have hdvd : cascadeUnit (level + 1) ∣ s.logicTime := by
              rw [← hstart]
              exact (cascadeUnit_dvd (by omega)).trans (Nat.dvd_mul_left _ _)
            obtain ⟨m, hm⟩ := hdvd
            rw [cascadePos, hm, cascadeUnit_succ, Nat.mul_comm (2 ^ _),
              Nat.mul_assoc, Nat.mul_div_cancel_left _ (cascadeUnit_pos level),
              Nat.mul_mod_right]
    | far => exact hok

theorem inv_drained (h : s.Inv) {now : ℕ} (hphase : s.phase = .draining now)
    (hlist : s.links.list s.nearSlot = []) :
    (s.setPhase (.reinserting now)).Inv := by
  refine h.setPhase (by simp [hphase]) (by simp) ?_ (fun _ => rfl) (by simp)
  intro id slot next hlink hok
  rw [hphase] at hok
  cases slot with
  | near pos =>
      refine ⟨hok.1, ?_, hok.2.2⟩
      have hge := hok.2.1
      simp only [Phase.nearFrom] at hge ⊢
      have hne : next ≠ s.logicTime := by
        rintro rfl
        refine LinkLists.list_eq_nil_iff.mp hlist id ?_
        rw [hlink, nearSlot, ← hok.1]
      omega
  | cascade level pos => exact ⟨hok.1, hok.2.1, hok.2.2.1, hok.2.2.2⟩
  | far => exact hok

/-! ### Steps that move a node -/

theorem insertTicker_eq {id next : ℕ} {slot : Slot}
    (h : slotOf s.logicTime next = some slot) :
    s.insertTicker id next =
      { s with links := s.links.pushTail slot id } := by
  simp [insertTicker, h]

theorem inv_cascadeMove (h : s.Inv) {now level id : ℕ} {rest : List ℕ}
    {n : TickerNode τ}
    (hphase : s.phase = .cascading now level)
    (hlist : s.links.list (s.cascadeSlot level) = id :: rest)
    (hnode : s.node id = some n) :
    (s.moveTicker id n).Inv := by
  have hlink := LinkLists.link_of_head hlist
  obtain ⟨m, hm, hticker, hok⟩ := h.linked id _ hlink
  rw [hnode] at hm
  cases hm
  have hok' := hok
  rw [cascadeSlot] at hok'
  split at hok'
  · -- the node's unit starts now, so its due time lies within the unit
    rename_i hlevel
    obtain ⟨-, hpos, hge, hlt⟩ := hok'
    simp only [hphase, Phase.cascadeFrom, Nat.lt_irrefl, if_false]
      at hge hlt
    have hstart := unitStart_eq_of_pos (h.aligned now level hphase).1 hge hlt
      hpos
    have hle := unitStart_le level n.nextTime
    have hend := lt_unitStart_add level n.nextTime
    have hunit : cascadeUnit level ≤ cascadeUnit timeCascadeCount :=
      Nat.le_of_dvd (cascadeUnit_pos _) (cascadeUnit_dvd (by omega))
    have hnear : s.phase.nearFrom s.logicTime ≤ n.nextTime := by
      rw [hphase]
      change s.logicTime ≤ n.nextTime
      omega
    obtain ⟨slot, hslot, hnew⟩ := exists_slotOf hnear
      (show n.nextTime < s.logicTime + cascadeUnit timeCascadeCount by omega)
    rw [moveTicker,
      insertTicker_eq (s := { s with links := s.links.remove id }) hslot]
    have hremoved : (s.links.remove id).link id = none := by simp
    have hlinks := LinkLists.link_pushTail (k := slot) hremoved
    have hother : ∀ i, (s.links.remove id).link i =
        if i = id then none else s.links.link i :=
      LinkLists.link_remove
    constructor
    case node_lt => exact h.node_lt
    case context_iff => exact h.context_iff
    case interval_lt => exact h.interval_lt
    case linked =>
      intro i other hi
      have hold := h.linked i
      grind
    case temp_nodup => exact h.temp_nodup
    case temp =>
      intro i hi
      have hold := h.temp i hi
      grind
    case calling =>
      intro now' i hi
      have hold := h.calling now' i hi
      grind
    case located =>
      intro i m hm hi hmem
      have hold := h.located i m hm
      grind
    case temp_phase => exact h.temp_phase
    case aligned => exact h.aligned
  · exact hok'.elim

/-- A node in the near list of the current tick is due now. -/
theorem nextTime_eq_of_nearSlot {now next : ℕ}
    (hphase : s.phase = .draining now)
    (hok : SlotOk s.phase s.logicTime next s.nearSlot) :
    next = s.logicTime := by
  obtain ⟨hpos, hge, hlt⟩ := hok
  rw [hphase] at hge
  simp only [Phase.nearFrom, timeNearBits] at *
  omega

theorem inv_dispatch (h : s.Inv) {now id : ℕ} {rest : List ℕ}
    {n : TickerNode τ} {ticker : τ}
    (hphase : s.phase = .draining now)
    (hlist : s.links.list s.nearSlot = id :: rest)
    (hnode : s.node id = some n) (hticker : n.pTicker = some ticker) :
    ((s.beginDispatch id n ticker).setPhase (.calling now id)).Inv := by
  have hlink := LinkLists.link_of_head hlist
  obtain ⟨m, hm, -, hok⟩ := h.linked id _ hlink
  rw [hnode] at hm
  cases hm
  have hdue := nextTime_eq_of_nearSlot hphase hok
  have hremove : ∀ i, (s.links.remove id).link i =
      if i = id then none else s.links.link i :=
    LinkLists.link_remove
  have htemp : id ∉ s.vecTempTickerNode := by
    intro hmem
    rw [(h.temp id hmem).1] at hlink
    cases hlink
  have hslots : ∀ slot next, SlotOk s.phase s.logicTime next slot →
      SlotOk (.calling now id) s.logicTime next slot := by
    intro slot next hok
    rw [hphase] at hok
    exact hok.of_eq rfl fun _ => rfl
  have hlocated : ∀ i m, s.node i = some m → i ≠ id →
      s.links.link i = none → i ∉ s.vecTempTickerNode → False := by
    intro i m hm _ hi hmem
    obtain ⟨now', hcalling⟩ := h.located i m hm hi hmem
    rw [hphase] at hcalling
    cases hcalling
  have hunique : ∀ other, s.coreContext other = some id → other = ticker := by
    intro other hother
    obtain ⟨m, hm, hm'⟩ := (h.context_iff other id).mp hother
    rw [hnode] at hm
    cases hm
    exact Option.some.inj (hm'.symm.trans hticker)
  unfold beginDispatch
  split
  · rename_i hzero
    simp only [setPhase, setNode, setContext]
    constructor
    case node_lt =>
      have hold := h.node_lt
      grind [Function.update_apply]
    case context_iff =>
      intro other i
      have hold := h.context_iff other i
      by_cases hi : i = id
      · subst hi
        by_cases hother : other = ticker
        · simp [hother]
        · have hne : s.coreContext other ≠ some i :=
            fun heq => hother (hunique other heq)
          simp [hother, hne]
      · by_cases hother : other = ticker
        · subst hother
          have hself := (h.context_iff other id).mpr ⟨n, hnode, hticker⟩
          have hne : s.coreContext other ≠ some i := by
            rw [hself]
            exact fun heq => hi (Option.some.inj heq).symm
          simpa [hi, hne] using hold
        · simpa [hi, hother] using hold
    case interval_lt =>
      have hold := h.interval_lt
      grind [Function.update_apply]
    case linked =>
      intro i slot hi
      have hold := h.linked i slot
      grind [Function.update_apply]
    case temp_nodup => exact h.temp_nodup
    case temp =>
      intro i hi
      have hold := h.temp i hi
      grind [Function.update_apply]
    case calling =>
      intro now' i hi
      cases hi
      refine ⟨by simp, htemp, ?_⟩
      exact ⟨_, Function.update_self .., by simp⟩
    case located =>
      intro i m hm hi hmem
      have hold := hlocated i
      by_cases heq : i = id
      · subst heq
        exact ⟨now, rfl⟩
      · grind [Function.update_apply]
    case temp_phase => exact fun _ => rfl
    case aligned => simp
  · rename_i hpos
    simp only [setPhase]
    constructor
    case node_lt => exact h.node_lt
    case context_iff => exact h.context_iff
    case interval_lt => exact h.interval_lt
    case linked =>
      intro i slot hi
      have hold := h.linked i slot
      grind
    case temp_nodup => exact h.temp_nodup
    case temp =>
      intro i hi
      have hold := h.temp i hi
      grind
    case calling =>
      intro now' i hi
      cases hi
      refine ⟨by simp, htemp, n, hnode, fun _ => ⟨?_, hdue⟩⟩
      exact Nat.pos_of_ne_zero hpos
    case located =>
      intro i m hm hi hmem
      have hold := hlocated i m hm
      by_cases heq : i = id
      · subst heq
        exact ⟨now, rfl⟩
      · grind
    case temp_phase => exact fun _ => rfl
    case aligned => simp

theorem inv_returned (h : s.Inv) {now id : ℕ} {n : TickerNode τ}
    (hphase : s.phase = .calling now id) (hnode : s.node id = some n) :
    ((s.endDispatch id n).setPhase (.draining now)).Inv := by
  obtain ⟨hlink, hmem, m, hm, hlive⟩ := h.calling now id hphase
  rw [hnode] at hm
  cases hm
  have hslots : ∀ slot next, SlotOk s.phase s.logicTime next slot →
      SlotOk (.draining now) s.logicTime next slot := by
    intro slot next hok
    rw [hphase] at hok
    exact hok.of_eq rfl fun _ => rfl
  have hlocated : ∀ i m, s.node i = some m → i ≠ id →
      s.links.link i = none → i ∉ s.vecTempTickerNode → False := by
    intro i m hm hne hi hi'
    obtain ⟨now', hcalling⟩ := h.located i m hm hi hi'
    rw [hphase] at hcalling
    cases hcalling
    exact hne rfl
  unfold endDispatch
  split
  · rename_i hnone
    simp only [setPhase, setNode]
    constructor
    case node_lt =>
      have hold := h.node_lt
      grind [Function.update_apply]
    case context_iff =>
      have hold := h.context_iff
      grind [Function.update_apply]
    case interval_lt =>
      have hold := h.interval_lt
      grind [Function.update_apply]
    case linked =>
      intro i slot hi
      have hold := h.linked i slot hi
      grind [Function.update_apply]
    case temp_nodup => exact h.temp_nodup
    case temp =>
      intro i hi
      have hold := h.temp i hi
      grind [Function.update_apply]
    case calling => simp
    case located =>
      intro i m hm hi hi'
      have hold := hlocated i
      grind [Function.update_apply]
    case temp_phase => exact fun _ => rfl
    case aligned => simp
  · rename_i hsome
    have hticker : n.pTicker ≠ none := by simpa using hsome
    obtain ⟨hpos, hdue⟩ := hlive hticker
    simp only [setPhase, setNode]
    constructor
    case node_lt =>
      have hold := h.node_lt
      grind [Function.update_apply]
    case context_iff =>
      have hold := h.context_iff
      grind [Function.update_apply]
    case interval_lt =>
      have hold := h.interval_lt
      grind [Function.update_apply]
    case linked =>
      intro i slot hi
      have hold := h.linked i slot hi
      grind [Function.update_apply]
    case temp_nodup =>
      exact List.Nodup.append h.temp_nodup (List.nodup_singleton id)
        (by simpa using hmem)
    case temp =>
      intro i hi
      have hold := h.temp i
      grind [Function.update_apply]
    case calling => simp
    case located =>
      intro i m hm hi hi'
      have hold := hlocated i
      grind [Function.update_apply]
    case temp_phase => exact fun _ => rfl
    case aligned => simp

theorem inv_reinsert (h : s.Inv) {now id : ℕ} {rest : List ℕ}
    {n : TickerNode τ}
    (hphase : s.phase = .reinserting now)
    (htemp : s.vecTempTickerNode = id :: rest)
    (hnode : s.node id = some n) : (s.reinsert id n rest).Inv := by
  obtain ⟨hlink, m, hm, hlive⟩ := h.temp id (by simp [htemp])
  rw [hnode] at hm
  cases hm
  have hnodup := h.temp_nodup
  rw [htemp, List.nodup_cons] at hnodup
  have hlocated : ∀ i m, s.node i = some m → i ≠ id →
      s.links.link i = none → i ∉ rest → False := by
    intro i m hm hne hi hmem
    obtain ⟨now', hcalling⟩ := h.located i m hm hi (by simp [htemp, hne, hmem])
    rw [hphase] at hcalling
    cases hcalling
  unfold reinsert
  split
  · rename_i hnone
    simp only [setNode]
    constructor
    case node_lt =>
      have hold := h.node_lt
      grind [Function.update_apply]
    case context_iff =>
      have hold := h.context_iff
      grind [Function.update_apply]
    case interval_lt =>
      have hold := h.interval_lt
      grind [Function.update_apply]
    case linked =>
      intro i slot hi
      have hold := h.linked i slot hi
      grind [Function.update_apply]
    case temp_nodup => exact hnodup.2
    case temp =>
      intro i hi
      have hold := h.temp i (by simp [htemp, hi])
      grind [Function.update_apply]
    case calling => simp [hphase]
    case located =>
      intro i m hm hi hi'
      have hold := hlocated i
      grind [Function.update_apply]
    case temp_phase => simp [hphase, Phase.cascadeFrom]
    case aligned => simp [hphase]
  · rename_i hsome
    have hticker : n.pTicker ≠ none := by simpa using hsome
    obtain ⟨hpos, hdue⟩ := hlive hticker
    have hnear : s.phase.nearFrom s.logicTime ≤ n.nextTime := by
      simp only [hphase, Phase.nearFrom]
      omega
    have hfar : n.nextTime < s.logicTime + cascadeUnit timeCascadeCount := by
      have hinterval := h.interval_lt id n hnode
      omega
    obtain ⟨slot, hslot, hok⟩ := exists_slotOf hnear hfar
    have hpush := LinkLists.link_pushTail (k := slot) hlink
    simp only [insertTicker, hslot]
    constructor
    case node_lt => exact h.node_lt
    case context_iff => exact h.context_iff
    case interval_lt => exact h.interval_lt
    case linked =>
      intro i other hi
      have hold := h.linked i other
      grind
    case temp_nodup => exact hnodup.2
    case temp =>
      intro i hi
      have hold := h.temp i (by simp [htemp, hi])
      grind
    case calling => simp [hphase]
    case located =>
      intro i m hm hi hi'
      have hold := hlocated i m hm
      grind
    case temp_phase => simp [hphase, Phase.cascadeFrom]
    case aligned => simp [hphase]

theorem inv_advance (h : s.Inv) {now : ℕ}
    (hphase : s.phase = .reinserting now)
    (htemp : s.vecTempTickerNode = []) :
    Inv { s.setPhase (.loop now) with logicTime := s.logicTime + 1 } where
  node_lt := h.node_lt
  context_iff := h.context_iff
  interval_lt := h.interval_lt
  linked := by
    intro id slot hlink
    obtain ⟨n, hnode, hticker, hok⟩ := h.linked id slot hlink
    refine ⟨n, hnode, hticker, ?_⟩
    rw [hphase] at hok
    cases slot with
    | near pos =>
        obtain ⟨hpos, hge, hlt⟩ := hok
        have hlt' : n.nextTime < s.logicTime + 1 + 2 ^ timeNearBits := by omega
        exact ⟨hpos, hge, hlt'⟩
    | cascade level pos => exact hok
    | far => exact hok
  temp_nodup := h.temp_nodup
  temp := by simp [setPhase, htemp]
  calling := by simp [setPhase]
  located := by
    intro id n hnode hlink hmem
    obtain ⟨now', hcalling⟩ := h.located id n hnode hlink hmem
    rw [hphase] at hcalling
    cases hcalling
  temp_phase := by simp [setPhase, htemp]
  aligned := by simp [setPhase]

end

/-- The start delay and the interval of a registration are below the range of
the wheels. -/
def InRange (_ : TickerMgr τ) : Label τ → Prop
  | .register _ _ _ startTime intervalTime _ =>
      startTime < cascadeUnit timeCascadeCount ∧
        intervalTime < cascadeUnit timeCascadeCount
  | _ => True

theorem Inv.step {s s' : TickerMgr τ} {l : Label τ}
    (h : s.Inv) (hstep : Step s l s') (hrange : s.InRange l) : s'.Inv := by
  cases hstep with
  | register hphase hfree =>
      exact inv_registerTicker h hphase hfree hrange.1 hrange.2
  | unregister => exact inv_unregisterTicker h
  | update hphase => exact inv_update h hphase
  | finish hphase => exact inv_finish h hphase
  | enter hphase => exact inv_enter h hphase
  | cascadeMove hphase hlist hnode => exact inv_cascadeMove h hphase hlist hnode
  | cascadeEnd hphase hlist => exact inv_cascadeEnd h hphase hlist
  | dispatch hphase hlist hnode hticker =>
      exact inv_dispatch h hphase hlist hnode hticker
  | returned hphase hnode => exact inv_returned h hphase hnode
  | drained hphase hlist => exact inv_drained h hphase hlist
  | reinsert hphase htemp hnode => exact inv_reinsert h hphase htemp hnode
  | advance hphase htemp => exact inv_advance h hphase htemp

end TickerMgr

end RealtimeEx.Base
