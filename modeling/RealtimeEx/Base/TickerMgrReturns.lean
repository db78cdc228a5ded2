import Mathlib.Data.Prod.Lex
import RealtimeEx.Base.TickerMgrSound
import RealtimeEx.Support.Returns

/-!
# `update` returns

Every loop of `update` takes a node out of the list it empties, and puts it back
only if the list is chosen for it again.  That happens to nodes of the far list:
they are put back if they are still due `2 ^ 40` ticks or more later, and then
the list never becomes empty.
-/

set_option linter.unusedSectionVars false

namespace RealtimeEx.Base

/-! ## Which list is chosen -/

/-- A node of a list that is cascaded goes to another list. -/
theorem slotOf_ne_cascade {time next level : ℕ}
    (hdvd : cascadeUnit level ∣ time) :
    slotOf time next ≠
      some (.cascade level (time / cascadeUnit level % 2 ^ timeCascadeBits)) := by
  intro h
  unfold slotOf at h
  split at h
  · dsimp only at h
    split at h
    · cases h
    · rename_i hnear
      split at h
      · rename_i hchosen
        obtain ⟨hsame, hpos⟩ := Slot.cascade.inj (Option.some.inj h)
        have hfar : next - time < cascadeUnit timeCascadeCount := by
          unfold cascadeLevel at hchosen
          split at hchosen
          · rename_i hlt
            exact hlt.trans (by decide)
          · split at hchosen
            · rename_i hlt
              exact hlt.trans (by decide)
            · split at hchosen
              · assumption
              · exact absurd hchosen (Nat.lt_irrefl _)
        obtain ⟨-, hunit, hnext⟩ := cascadeLevel_spec (next - time) (by omega) hfar
        rw [hsame] at hpos hunit hnext
        obtain ⟨k, rfl⟩ := hdvd
        have hsum : next = cascadeUnit level * k + (next - cascadeUnit level * k) := by
          omega
        rw [cascadeUnit_succ] at hnext
        rw [hsum, Nat.mul_add_div (cascadeUnit_pos level),
          Nat.mul_div_cancel_left _ (cascadeUnit_pos level)] at hpos
        have hone : 1 ≤ (next - cascadeUnit level * k) / cascadeUnit level :=
          (Nat.one_le_div_iff (cascadeUnit_pos level)).mpr hunit
        have hlt : (next - cascadeUnit level * k) / cascadeUnit level <
            2 ^ timeCascadeBits :=
          (Nat.div_lt_iff_lt_mul (cascadeUnit_pos level)).mpr hnext
        simp only [timeCascadeBits] at hpos hlt
        omega
      · cases h
  · cases h

/-- A node goes to the far list if it is due later than the wheels reach. -/
theorem slotOf_eq_far_iff {time next : ℕ} :
    slotOf time next = some .far ↔ time + cascadeUnit timeCascadeCount ≤ next := by
  unfold slotOf cascadeLevel
  simp only [cascadeUnit, timeCascadeCount, timeNearBits, timeCascadeBits]
  constructor
  · intro h
    grind
  · intro h
    grind

/-- A delay that is not zero leads away from the list of the current tick. -/
theorem slotOf_ne_near {time startTime : ℕ} (hstart : startTime ≠ 0) :
    slotOf time (time + startTime) ≠ some (.near (time % 2 ^ timeNearBits)) := by
  unfold slotOf
  simp only [timeNearBits]
  grind

/-- The time the update goes on to. -/
def Phase.target : Phase → Option ℕ
  | .idle => none
  | .loop now | .cascading now _ | .draining now | .calling now _
  | .reinserting now => some now

namespace TickerMgr

variable {τ : Type*} [DecidableEq τ] {s t u : TickerMgr τ}

/-! ## Rounds -/

/-- What a callback may do: it registers tickers, with a delay that is not
zero, and unregisters them. -/
def isCall : Label τ → Prop
  | .register _ _ _ startTime _ _ => startTime ≠ 0
  | .unregister _ _ => True
  | _ => False

/-- The steps of `update` itself. -/
def isLoopStep : Label τ → Prop
  | .dispatch _ _ _ _ => True
  | .internal => True
  | .advance => True
  | _ => False

/-- Any number of calls. -/
def Calls : TickerMgr τ → TickerMgr τ → Prop :=
  Relation.ReflTransGen fun s t => ∃ l, isCall l ∧ Step s l t

/-- A step of `update`, behind the calls of a callback that is running. -/
def Round (s t : TickerMgr τ) : Prop :=
  ∃ u, Calls s u ∧ ∃ l, isLoopStep l ∧ Step u l t

/-- `update` has returned. -/
def Idle (s : TickerMgr τ) : Prop := s.phase = .idle

/-- `update` returns, whatever the callbacks do. -/
def UpdateReturns (s : TickerMgr τ) : Prop := AlwaysReturns Round Idle s

/-- A ticker is left in the far list that is still due later than the wheels
reach, while the list is being emptied. -/
def FarTickerLeft (s : TickerMgr τ) : Prop :=
  ∃ now, s.phase = .cascading now timeCascadeCount ∧
    ∃ id n, id ∈ s.links.list .far ∧ s.node id = some n ∧
      s.logicTime + cascadeUnit timeCascadeCount ≤ n.nextTime

/-! ## Calls -/

/-- What calls leave alone. -/
structure Unaffected (s u : TickerMgr τ) : Prop where
  phase : u.phase = s.phase
  logicTime : u.logicTime = s.logicTime
  temp : u.vecTempTickerNode = s.vecTempTickerNode
  near : (u.links.list s.nearSlot).length ≤ (s.links.list s.nearSlot).length

theorem nearSlot_eq (htime : t.logicTime = s.logicTime) : t.nearSlot = s.nearSlot := by
  unfold nearSlot
  rw [htime]

theorem Unaffected.trans (h : Unaffected s t) (h' : Unaffected t u) : Unaffected s u where
  phase := h'.phase.trans h.phase
  logicTime := h'.logicTime.trans h.logicTime
  temp := h'.temp.trans h.temp
  near := by
    have hnear := h'.near
    rw [nearSlot_eq h.logicTime] at hnear
    exact hnear.trans h.near

theorem unaffected_registerTicker (h : s.Sound) (ticker : τ)
    {startTime : ℕ} (intervalTime : ℕ) (context : UInt64)
    (hstart : startTime ≠ 0) :
    Unaffected s (s.registerTicker ticker startTime intervalTime context) := by
  rw [registerTicker_eq]
  have hlist : ((s.withNode ticker startTime intervalTime context).insertTicker s.nextNode
      (s.logicTime + startTime)).links.list s.nearSlot =
        (s.withNode ticker startTime intervalTime context).links.list s.nearSlot :=
    list_insertTicker (s := s.withNode ticker startTime intervalTime context)
      h.link_nextNode (slotOf_ne_near hstart)
  obtain ⟨links, heq⟩ := (s.withNode ticker startTime intervalTime
    context).exists_insertTicker_eq s.nextNode (s.logicTime + startTime)
  rw [heq] at hlist ⊢
  exact ⟨rfl, rfl, rfl, (congrArg List.length hlist).le⟩

theorem unaffected_unregisterTicker (s : TickerMgr τ) (ticker : τ) :
    Unaffected s (s.unregisterTicker ticker) := by
  unfold unregisterTicker
  split
  · exact ⟨rfl, rfl, rfl, Nat.le_refl _⟩
  · dsimp only
    split
    · exact ⟨rfl, rfl, rfl, LinkLists.length_list_remove_le ..⟩
    · exact ⟨rfl, rfl, rfl, Nat.le_refl _⟩

theorem Calls.unaffected (h : s.Sound) (hcalls : Calls s u) :
    u.Sound ∧ Unaffected s u := by
  induction hcalls with
  | refl => exact ⟨h, rfl, rfl, rfl, Nat.le_refl _⟩
  | tail _ hcall ih =>
      obtain ⟨hsound, hsame⟩ := ih
      obtain ⟨l, hl, hstep⟩ := hcall
      refine ⟨hsound.step hstep, hsame.trans ?_⟩
      cases hstep with
      | register => exact unaffected_registerTicker hsound _ _ _ hl
      | unregister => exact unaffected_unregisterTicker _ _
      | _ => exact hl.elim

/-- Only a callback makes calls. -/
theorem Calls.eq_of_not_external (hcalls : Calls s u)
    (hphase : s.phase.external = false) : u = s := by
  induction hcalls with
  | refl => rfl
  | tail _ hcall ih =>
      obtain ⟨l, hl, hstep⟩ := hcall
      rw [ih] at hstep
      cases hstep with
      | register hexternal =>
          rw [hphase] at hexternal
          cases hexternal
      | unregister hexternal =>
          rw [hphase] at hexternal
          cases hexternal
      | _ => exact hl.elim

/-! ## The measure -/

/-- Three numbers in the order of importance. -/
def rank (ticks stage size : ℕ) : ℕ ×ₗ ℕ ×ₗ ℕ := toLex (ticks, toLex (stage, size))

theorem rank_lt_iff {a b c a' b' c' : ℕ} :
    rank a b c < rank a' b' c' ↔
      a < a' ∨ a = a' ∧ (b < b' ∨ b = b' ∧ c < c') := by
  unfold rank
  rw [Prod.Lex.toLex_lt_toLex, Prod.Lex.toLex_lt_toLex]

/-- What every step of an update makes smaller: the ticks that are left, the
stages of the tick that are left, and the list that is being emptied. -/
def measure (s : TickerMgr τ) : ℕ ×ₗ ℕ ×ₗ ℕ :=
  match s.phase with
  | .idle => rank 0 0 0
  | .loop now => rank (now + 1 - s.logicTime) 7 0
  | .cascading now level =>
      rank (now + 1 - s.logicTime) (6 - level)
        (s.links.list (s.cascadeSlot level)).length
  | .draining now =>
      rank (now + 1 - s.logicTime) 2 (2 * (s.links.list s.nearSlot).length)
  | .calling now _ =>
      rank (now + 1 - s.logicTime) 2 (2 * (s.links.list s.nearSlot).length + 1)
  | .reinserting now => rank (now + 1 - s.logicTime) 1 s.vecTempTickerNode.length

theorem measure_loop {now : ℕ} (h : s.phase = .loop now) :
    s.measure = rank (now + 1 - s.logicTime) 7 0 := by
  unfold measure
  rw [h]

theorem measure_cascading {now level : ℕ} (h : s.phase = .cascading now level) :
    s.measure = rank (now + 1 - s.logicTime) (6 - level)
      (s.links.list (s.cascadeSlot level)).length := by
  unfold measure
  rw [h]

theorem measure_draining {now : ℕ} (h : s.phase = .draining now) :
    s.measure =
      rank (now + 1 - s.logicTime) 2 (2 * (s.links.list s.nearSlot).length) := by
  unfold measure
  rw [h]

theorem measure_calling {now id : ℕ} (h : s.phase = .calling now id) :
    s.measure =
      rank (now + 1 - s.logicTime) 2 (2 * (s.links.list s.nearSlot).length + 1) := by
  unfold measure
  rw [h]

theorem measure_reinserting {now : ℕ} (h : s.phase = .reinserting now) :
    s.measure = rank (now + 1 - s.logicTime) 1 s.vecTempTickerNode.length := by
  unfold measure
  rw [h]

/-- A list that is cascaded becomes shorter, unless its first node goes back to
the far list. -/
theorem list_moveTicker {now level id : ℕ} {rest : List ℕ} {n : TickerNode τ}
    (h : s.Sound) (hphase : s.phase = .cascading now level)
    (hlist : s.links.list (s.cascadeSlot level) = id :: rest)
    (hfar : level = timeCascadeCount →
      n.nextTime < s.logicTime + cascadeUnit timeCascadeCount) :
    (s.moveTicker id n).links.list (s.cascadeSlot level) = rest := by
  obtain ⟨hlevel, hdvd⟩ := h.aligned now level hphase
  have hother : slotOf s.logicTime n.nextTime ≠ some (s.cascadeSlot level) := by
    unfold cascadeSlot
    split
    · exact slotOf_ne_cascade hdvd
    · rename_i hge
      intro hchosen
      have hlate := slotOf_eq_far_iff.mp hchosen
      have hsoon := hfar (by omega)
      omega
  have hremoved : (s.links.remove id).link id = none := by simp
  have hkept : (insertTicker { s with links := s.links.remove id } id
      n.nextTime).links.list (s.cascadeSlot level) =
        (s.links.remove id).list (s.cascadeSlot level) :=
    list_insertTicker hremoved hother
  unfold moveTicker
  rw [hkept]
  show (s.links.remove id).list (s.cascadeSlot level) = rest
  rw [LinkLists.list_remove_of_head hlist, Function.update_self]

/-- A node of a list that is cascaded leaves it. -/
theorem measure_moveTicker {now level id : ℕ} {rest : List ℕ} {n : TickerNode τ}
    (h : s.Sound) (hphase : s.phase = .cascading now level)
    (hlist : s.links.list (s.cascadeSlot level) = id :: rest)
    (hfar : level = timeCascadeCount →
      n.nextTime < s.logicTime + cascadeUnit timeCascadeCount) :
    (s.moveTicker id n).measure < s.measure := by
  have hrest := list_moveTicker h hphase hlist hfar
  obtain ⟨links, heq⟩ := exists_insertTicker_eq
    { s with links := s.links.remove id } id n.nextTime
  have hmove : s.moveTicker id n = { s with links := links } := heq
  rw [hmove] at hrest ⊢
  have hphase' : { s with links := links }.phase = .cascading now level := hphase
  rw [measure_cascading hphase, measure_cascading hphase', rank_lt_iff]
  have hlength : (links.list (s.cascadeSlot level)).length = rest.length :=
    congrArg List.length hrest
  refine Or.inr ⟨rfl, Or.inr ⟨rfl, ?_⟩⟩
  rw [hlist, List.length_cons]
  exact Nat.lt_succ_of_le hlength.le

theorem measure_beginDispatch {now id : ℕ} {rest : List ℕ} {n : TickerNode τ}
    {ticker : τ} (hphase : s.phase = .draining now)
    (hlist : s.links.list s.nearSlot = id :: rest) :
    ((s.beginDispatch id n ticker).setPhase (.calling now id)).measure <
      s.measure := by
  have htime : (s.beginDispatch id n ticker).logicTime = s.logicTime := by
    unfold beginDispatch
    split
    · rfl
    · rfl
  have hlinks : (s.beginDispatch id n ticker).links = s.links.remove id := by
    unfold beginDispatch
    split
    · rfl
    · rfl
  have hrest : ((s.beginDispatch id n ticker).links.list
      (s.beginDispatch id n ticker).nearSlot) = rest := by
    rw [nearSlot_eq htime, hlinks, LinkLists.list_remove_of_head hlist,
      Function.update_self]
  have hcalling : ((s.beginDispatch id n ticker).setPhase
      (.calling now id)).measure =
        rank (now + 1 - s.logicTime) 2 (2 * rest.length + 1) := by
    rw [← hrest, ← htime]
    exact measure_calling rfl
  rw [hcalling, measure_draining hphase, rank_lt_iff, hlist, List.length_cons]
  exact Or.inr ⟨rfl, Or.inr ⟨rfl, by omega⟩⟩

theorem measure_endDispatch {now id : ℕ} {n : TickerNode τ}
    (hphase : s.phase = .calling now id) :
    ((s.endDispatch id n).setPhase (.draining now)).measure < s.measure := by
  have htime : (s.endDispatch id n).logicTime = s.logicTime := by
    unfold endDispatch
    split
    · rfl
    · rfl
  have hlinks : (s.endDispatch id n).links = s.links := by
    unfold endDispatch
    split
    · rfl
    · rfl
  have hdraining : ((s.endDispatch id n).setPhase (.draining now)).measure =
      rank (now + 1 - s.logicTime) 2 (2 * (s.links.list s.nearSlot).length) := by
    rw [← hlinks, ← htime, ← nearSlot_eq htime]
    exact measure_draining rfl
  rw [hdraining, measure_calling hphase, rank_lt_iff]
  exact Or.inr ⟨rfl, Or.inr ⟨rfl, Nat.lt_succ_self _⟩⟩

theorem measure_reinsert {now id : ℕ} {rest : List ℕ} {n : TickerNode τ}
    (hphase : s.phase = .reinserting now)
    (htemp : s.vecTempTickerNode = id :: rest) :
    (s.reinsert id n rest).measure < s.measure := by
  have hsame : (s.reinsert id n rest).phase = s.phase ∧
      (s.reinsert id n rest).logicTime = s.logicTime ∧
        (s.reinsert id n rest).vecTempTickerNode = rest := by
    unfold TickerMgr.reinsert
    split
    · exact ⟨rfl, rfl, rfl⟩
    · obtain ⟨links, heq⟩ := exists_insertTicker_eq
        { s with vecTempTickerNode := rest } id n.nextTime
      dsimp only
      rw [heq]
      exact ⟨rfl, rfl, rfl⟩
  obtain ⟨hphase', htime, hrest⟩ := hsame
  rw [measure_reinserting hphase, measure_reinserting (hphase'.trans hphase),
    rank_lt_iff, htime, hrest, htemp, List.length_cons]
  exact Or.inr ⟨rfl, Or.inr ⟨rfl, Nat.lt_succ_self _⟩⟩

/-- A step of the loop makes the measure smaller, unless it puts a node back
into the far list. -/
theorem measure_lt_of_loopStep {l : Label τ} (h : s.Sound)
    (hfar : ¬ FarTickerLeft s) (hl : isLoopStep l) (hstep : Step s l t) :
    Idle t ∨ t.measure < s.measure := by
  cases hstep with
  | register => exact hl.elim
  | unregister => exact hl.elim
  | update => exact hl.elim
  | finish => exact Or.inl rfl
  | @enter now hphase htime =>
      right
      rw [measure_loop hphase]
      split
      · have hnext : (s.setPhase (.cascading now 0)).measure = _ :=
          measure_cascading rfl
        rw [hnext, rank_lt_iff]
        exact Or.inr ⟨rfl, Or.inl (by decide)⟩
      · have hnext : (s.setPhase (.draining now)).measure = _ := measure_draining rfl
        rw [hnext, rank_lt_iff]
        exact Or.inr ⟨rfl, Or.inl (by decide)⟩
  | @cascadeMove now level id rest n hphase hlist hnode =>
      right
      refine measure_moveTicker h hphase hlist ?_
      rintro rfl
      by_contra hge
      refine hfar ⟨now, hphase, id, n, ?_, hnode, Nat.not_lt.mp hge⟩
      have hslot : s.cascadeSlot timeCascadeCount = .far := rfl
      rw [← hslot, hlist]
      exact List.mem_cons_self
  | @cascadeEnd now level hphase hlist =>
      right
      have hlevel := (h.aligned now level hphase).1
      rw [measure_cascading hphase]
      simp only [timeCascadeCount] at hlevel
      split
      · have hnext : (s.setPhase (.cascading now (level + 1))).measure = _ :=
          measure_cascading rfl
        rw [hnext, rank_lt_iff]
        exact Or.inr ⟨rfl, Or.inl (by omega)⟩
      · have hnext : (s.setPhase (.draining now)).measure = _ := measure_draining rfl
        rw [hnext, rank_lt_iff]
        exact Or.inr ⟨rfl, Or.inl (by omega)⟩
  | dispatch hphase hlist => exact Or.inr (measure_beginDispatch hphase hlist)
  | returned hphase => exact Or.inr (measure_endDispatch hphase)
  | @drained now hphase =>
      right
      have hnext : (s.setPhase (.reinserting now)).measure = _ :=
        measure_reinserting rfl
      rw [hnext, measure_draining hphase, rank_lt_iff]
      exact Or.inr ⟨rfl, Or.inl (by decide)⟩
  | reinsert hphase htemp => exact Or.inr (measure_reinsert hphase htemp)
  | @advance now hphase =>
      right
      have htick := h.inTick now (by rw [hphase]; rfl)
      have hnext : measure { s.setPhase (.loop now) with
          logicTime := s.logicTime + 1 } = rank (now + 1 - (s.logicTime + 1)) 7 0 :=
        measure_loop rfl
      rw [hnext, measure_reinserting hphase, rank_lt_iff]
      exact Or.inl (by omega)

/-- Calls do not make the measure greater. -/
theorem Unaffected.measure_le (h : Unaffected s u) {now id : ℕ}
    (hphase : s.phase = .calling now id) : u.measure ≤ s.measure := by
  rw [measure_calling hphase, measure_calling (h.phase.trans hphase), h.logicTime,
    nearSlot_eq h.logicTime, ← not_lt, rank_lt_iff]
  have hnear := h.near
  omega

/-! ## Executions of `update` -/

/-- An update that has not returned has a next step. -/
theorem exists_loopStep (h : s.Sound) (hidle : ¬ Idle s) :
    ∃ l t, isLoopStep l ∧ Step s l t := by
  have hhead : ∀ slot id rest, s.links.list slot = id :: rest →
      ∃ n ticker, s.node id = some n ∧ n.pTicker = some ticker := by
    intro slot id rest hlist
    obtain ⟨n, hnode, hticker⟩ := h.linked id slot (LinkLists.link_of_head hlist)
    obtain ⟨ticker, hsome⟩ := Option.ne_none_iff_exists'.mp hticker
    exact ⟨n, ticker, hnode, hsome⟩
  cases hp : s.phase with
  | idle => exact absurd hp hidle
  | loop now =>
      by_cases htime : now < s.logicTime
      · exact ⟨.internal, _, trivial, .finish hp htime⟩
      · exact ⟨.internal, _, trivial, .enter hp (Nat.not_lt.mp htime)⟩
  | cascading now level =>
      cases hlist : s.links.list (s.cascadeSlot level) with
      | nil => exact ⟨.internal, _, trivial, .cascadeEnd hp hlist⟩
      | cons id rest =>
          obtain ⟨n, -, hnode, -⟩ := hhead _ id rest hlist
          exact ⟨.internal, _, trivial, .cascadeMove hp hlist hnode⟩
  | draining now =>
      cases hlist : s.links.list s.nearSlot with
      | nil => exact ⟨.internal, _, trivial, .drained hp hlist⟩
      | cons id rest =>
          obtain ⟨n, ticker, hnode, hticker⟩ := hhead _ id rest hlist
          exact ⟨.dispatch id ticker _ _, _, trivial, .dispatch hp hlist hnode hticker⟩
  | calling now id =>
      obtain ⟨-, -, n, hnode⟩ := h.calling now id hp
      exact ⟨.internal, _, trivial, .returned hp hnode⟩
  | reinserting now =>
      cases htemp : s.vecTempTickerNode with
      | nil => exact ⟨.advance, _, trivial, .advance hp htemp⟩
      | cons id rest =>
          have hmem : id ∈ s.vecTempTickerNode := by
            rw [htemp]
            exact List.mem_cons_self
          obtain ⟨-, n, hnode⟩ := h.temp id hmem
          exact ⟨.internal, _, trivial, .reinsert hp htemp hnode⟩

theorem exists_round (h : s.Sound) (hidle : ¬ Idle s) : ∃ t, Round s t := by
  obtain ⟨l, t, hl, hstep⟩ := exists_loopStep h hidle
  exact ⟨t, s, .refl, l, hl, hstep⟩

theorem not_loopStep_of_idle {l : Label τ} (hidle : Idle s) (hl : isLoopStep l) :
    ¬ Step s l t := by
  unfold Idle at hidle
  intro hstep
  cases hstep with
  | register => exact hl
  | unregister => exact hl
  | update => exact hl
  | finish hphase => exact absurd (hidle.symm.trans hphase) (by simp)
  | enter hphase => exact absurd (hidle.symm.trans hphase) (by simp)
  | cascadeMove hphase => exact absurd (hidle.symm.trans hphase) (by simp)
  | cascadeEnd hphase => exact absurd (hidle.symm.trans hphase) (by simp)
  | dispatch hphase => exact absurd (hidle.symm.trans hphase) (by simp)
  | returned hphase => exact absurd (hidle.symm.trans hphase) (by simp)
  | drained hphase => exact absurd (hidle.symm.trans hphase) (by simp)
  | reinsert hphase => exact absurd (hidle.symm.trans hphase) (by simp)
  | advance hphase => exact absurd (hidle.symm.trans hphase) (by simp)

theorem Round.sound (h : s.Sound) (hround : Round s t) : t.Sound := by
  obtain ⟨u, hcalls, l, -, hstep⟩ := hround
  exact (hcalls.unaffected h).1.step hstep

theorem not_round_of_idle (h : s.Sound) (hidle : Idle s) : ¬ Round s t := by
  rintro ⟨u, hcalls, l, hl, hstep⟩
  have hsame := (hcalls.unaffected h).2
  exact not_loopStep_of_idle (hsame.phase.trans hidle) hl hstep

/-- A round makes the measure smaller, unless it puts a node back into the far
list. -/
theorem Round.measure_lt (h : s.Sound) (hfar : ¬ FarTickerLeft s)
    (hround : Round s t) : Idle t ∨ t.measure < s.measure := by
  have hbusy : ¬ Idle s := fun hidle => not_round_of_idle h hidle hround
  obtain ⟨u, hcalls, l, hl, hstep⟩ := hround
  obtain ⟨hsound, hsame⟩ := hcalls.unaffected h
  by_cases hcalling : ∃ now id, s.phase = .calling now id
  · obtain ⟨now, id, hphase⟩ := hcalling
    have hclose : ¬ FarTickerLeft u := by
      rintro ⟨now', hcascading, -⟩
      exact absurd (hcascading.symm.trans (hsame.phase.trans hphase)) (by simp)
    refine (measure_lt_of_loopStep hsound hclose hl hstep).imp_right fun hlt => ?_
    exact hlt.trans_le (hsame.measure_le hphase)
  · have hquiet : s.phase.external = false := by
      cases hphase : s.phase with
      | idle => exact absurd hphase hbusy
      | calling now id => exact absurd ⟨now, id, hphase⟩ hcalling
      | _ => rfl
    obtain rfl := hcalls.eq_of_not_external hquiet
    exact measure_lt_of_loopStep h hfar hl hstep

/-- The far list does not become empty while such a ticker is in it. -/
theorem FarTickerLeft.round (h : s.Sound) (hfar : FarTickerLeft s)
    (hround : Round s t) : FarTickerLeft t := by
  obtain ⟨now, hphase, id, n, hmem, hnode, hlate⟩ := hfar
  obtain ⟨u, hcalls, l, hl, hstep⟩ := hround
  have hquiet : s.phase.external = false := by
    rw [hphase]
    rfl
  obtain rfl := hcalls.eq_of_not_external hquiet
  have hlink : u.links.link id = some .far := (u.links.mem_list _ _).mp hmem
  cases hstep with
  | register => exact hl.elim
  | unregister => exact hl.elim
  | update => exact hl.elim
  | @cascadeMove now' level first rest m hcascading hlist hfirst =>
      obtain ⟨rfl, rfl⟩ := Phase.cascading.inj (hphase.symm.trans hcascading)
      have hremoved : (u.links.remove first).link first = none := by simp
      have hlinks : (insertTicker { u with links := u.links.remove first } first
          m.nextTime).links.link id =
            if id = first then slotOf u.logicTime m.nextTime else (u.links.remove first).link id :=
        link_insertTicker hremoved id
      obtain ⟨links, heq⟩ := exists_insertTicker_eq
        { u with links := u.links.remove first } first m.nextTime
      have hmove : u.moveTicker first m = { u with links := links } := heq
      rw [heq] at hlinks
      rw [hmove]
      refine ⟨now, hphase, id, n, (links.mem_list _ _).mpr ?_, hnode, hlate⟩
      refine hlinks.trans ?_
      split
      · rename_i hsame
        subst hsame
        rw [hnode] at hfirst
        obtain rfl := Option.some.inj hfirst
        exact slotOf_eq_far_iff.mpr hlate
      · rename_i hne
        exact (LinkLists.link_remove id).trans ((if_neg hne).trans hlink)
  | @cascadeEnd now' level hcascading hlist =>
      obtain ⟨rfl, rfl⟩ := Phase.cascading.inj (hphase.symm.trans hcascading)
      have hslot : u.cascadeSlot timeCascadeCount = .far := rfl
      rw [hslot] at hlist
      rw [hlist] at hmem
      cases hmem
  | finish hother => exact absurd (hphase.symm.trans hother) (by simp)
  | enter hother => exact absurd (hphase.symm.trans hother) (by simp)
  | dispatch hother => exact absurd (hphase.symm.trans hother) (by simp)
  | returned hother => exact absurd (hphase.symm.trans hother) (by simp)
  | drained hother => exact absurd (hphase.symm.trans hother) (by simp)
  | reinsert hother => exact absurd (hphase.symm.trans hother) (by simp)
  | advance hother => exact absurd (hphase.symm.trans hother) (by simp)

/-- The rounds come to an end unless they come to empty the far list while a
ticker is in it that is due `2 ^ 40` ticks or more later. -/
theorem alwaysReturns_iff_not_farTickerLeft (hsound : s.Sound) :
    UpdateReturns s ↔ ∀ t, Relation.ReflTransGen Round s t → ¬ FarTickerLeft t := by
  refine alwaysReturns_iff_not_trapped (I := Sound) (T := FarTickerLeft) (μ := measure)
    ?_ ?_ ?_ ?_ ?_ ?_ hsound
  · exact fun _ _ h hround => hround.sound h
  · exact fun _ h hbusy => exists_round h hbusy
  · exact fun _ _ h hidle => not_round_of_idle h hidle
  · exact fun _ _ h hfar hround => hround.measure_lt h hfar
  · rintro u ⟨now', hphase, -⟩ hidle
    exact absurd (hphase.symm.trans hidle) (by simp)
  · exact fun _ _ h hfar hround => hfar.round h hround

/-- An update of a manager in use starts in order. -/
theorem sound_update {callback : Bool} {time : ℕ}
    (hreach : (tickerSystem τ callback time).Reachable s) (hidle : s.phase = .idle)
    (now : ℕ) : (s.setPhase (.loop now)).Sound :=
  sound_of_reachable (hreach.step (.update hidle))

/-- Whatever is registered and whatever the callbacks do, an update returns if
and only if it never comes to empty the far list while a ticker is in it that is
due `2 ^ 40` ticks or more later. -/
theorem updateReturns_iff {callback : Bool} {time : ℕ}
    (hreach : (tickerSystem τ callback time).Reachable s) (hidle : s.phase = .idle)
    (now : ℕ) :
    UpdateReturns (s.setPhase (.loop now)) ↔
      ∀ t, Relation.ReflTransGen Round (s.setPhase (.loop now)) t →
        ¬ FarTickerLeft t :=
  alwaysReturns_iff_not_farTickerLeft (sound_update hreach hidle now)

/-- A round does not go back in time, and belongs to the same update. -/
theorem Round.target (h : s.Sound) (hround : Round s t) :
    s.logicTime ≤ t.logicTime ∧
      ∀ now, t.phase.target = some now → s.phase.target = some now := by
  obtain ⟨u, hcalls, l, hl, hstep⟩ := hround
  obtain ⟨-, hsame⟩ := hcalls.unaffected h
  rw [← hsame.logicTime, ← hsame.phase]
  cases hstep with
  | register => exact hl.elim
  | unregister => exact hl.elim
  | update => exact hl.elim
  | finish => exact ⟨Nat.le_refl _, fun now hnow => by cases hnow⟩
  | enter hphase =>
      rw [hphase]
      split
      · exact ⟨Nat.le_refl _, fun now hnow => hnow⟩
      · exact ⟨Nat.le_refl _, fun now hnow => hnow⟩
  | cascadeMove =>
      rw [moveTicker, logicTime_insertTicker, phase_insertTicker]
      exact ⟨Nat.le_refl _, fun now hnow => hnow⟩
  | cascadeEnd hphase =>
      rw [hphase]
      split
      · exact ⟨Nat.le_refl _, fun now hnow => hnow⟩
      · exact ⟨Nat.le_refl _, fun now hnow => hnow⟩
  | dispatch hphase =>
      rw [hphase]
      refine ⟨?_, fun now hnow => hnow⟩
      unfold beginDispatch
      split
      · exact Nat.le_refl _
      · exact Nat.le_refl _
  | returned hphase =>
      rw [hphase]
      refine ⟨?_, fun now hnow => hnow⟩
      unfold endDispatch
      split
      · exact Nat.le_refl _
      · exact Nat.le_refl _
  | drained hphase =>
      rw [hphase]
      exact ⟨Nat.le_refl _, fun now hnow => hnow⟩
  | reinsert =>
      unfold TickerMgr.reinsert
      split
      · exact ⟨Nat.le_refl _, fun now hnow => hnow⟩
      · rw [logicTime_insertTicker, phase_insertTicker]
        exact ⟨Nat.le_refl _, fun now hnow => hnow⟩
  | advance hphase =>
      rw [hphase]
      exact ⟨Nat.le_succ _, fun now hnow => hnow⟩

/-- An update that handles no tick at which the far list is emptied returns. -/
theorem updateReturns_of_no_lap {callback : Bool} {time : ℕ}
    (hreach : (tickerSystem τ callback time).Reachable s) (hidle : s.phase = .idle)
    {now : ℕ} (hlap : ∀ tick, s.logicTime ≤ tick → tick ≤ now →
      ¬ cascadeUnit timeCascadeCount ∣ tick) :
    UpdateReturns (s.setPhase (.loop now)) := by
  have hsound : (s.setPhase (.loop now)).Sound := sound_update hreach hidle now
  refine (alwaysReturns_iff_not_farTickerLeft hsound).mpr ?_
  rintro t hrounds ⟨now', hphase, -⟩
  have hinv : t.Sound ∧ s.logicTime ≤ t.logicTime ∧
      ∀ later, t.phase.target = some later → later = now := by
    refine invariant_of_reflTransGen
      (I := fun u => u.Sound ∧ s.logicTime ≤ u.logicTime ∧
        ∀ later, u.phase.target = some later → later = now) ?_ hrounds
        ⟨hsound, Nat.le_refl _, fun _ hlater => (Option.some.inj hlater).symm⟩
    rintro u v ⟨hu, hle, hlater⟩ hround
    obtain ⟨hmono, hsame⟩ := hround.target hu
    exact ⟨hround.sound hu, hle.trans hmono,
      fun later hnext => hlater later (hsame later hnext)⟩
  obtain ⟨ht, hle, htarget⟩ := hinv
  have hnow : now' = now := htarget now' (by rw [hphase]; rfl)
  have htick := ht.inTick now' (by rw [hphase]; rfl)
  exact hlap t.logicTime hle (hnow ▸ htick) (ht.aligned now' _ hphase).2

/-- A ticker that is due far in the next lap of the wheels. -/
def farTicker : TickerMgr Unit :=
  (initial false 0).registerTicker () (cascadeUnit timeCascadeCount) 0 5

theorem reachable_farTicker : (tickerSystem Unit false 0).Reachable farTicker :=
  (TransitionSystem.Reachable.of_init rfl).step (.register rfl rfl)

theorem updateReturns_iff_farTicker :
    UpdateReturns (farTicker.setPhase (.loop 3)) ↔
      ∀ t, Relation.ReflTransGen Round (farTicker.setPhase (.loop 3)) t →
        ¬ FarTickerLeft t :=
  updateReturns_iff reachable_farTicker rfl 3

/-- At a tick that is a multiple of the unit, the next level is cascaded. -/
theorem round_cascadeEnd {now level : ℕ} (hphase : s.phase = .cascading now level)
    (hlist : s.links.list (s.cascadeSlot level) = [])
    (hnext : level < timeCascadeCount ∧ s.cascadePos level = 0) :
    Round s (s.setPhase (.cascading now (level + 1))) := by
  have hstep := Step.cascadeEnd hphase hlist
  rw [if_pos hnext] at hstep
  exact ⟨s, .refl, .internal, trivial, hstep⟩

/-- The update of the very tick at which the ticker is registered does not
return. -/
theorem not_updateReturns_farTicker :
    ∃ s : TickerMgr Unit, (tickerSystem Unit false 0).Reachable s ∧
      s.phase = .idle ∧ s.logicTime = 0 ∧ ¬ UpdateReturns (s.setPhase (.loop 0)) := by
  refine ⟨farTicker, reachable_farTicker, rfl, rfl, fun hreturns => ?_⟩
  have hcascading : ∀ level, level ≤ timeCascadeCount →
      Relation.ReflTransGen Round (farTicker.setPhase (.loop 0))
        (farTicker.setPhase (.cascading 0 level)) := by
    intro level
    induction level with
    | zero =>
        intro _
        have henter : Step (farTicker.setPhase (.loop 0)) .internal
            (farTicker.setPhase (.cascading 0 0)) := .enter rfl (Nat.le_refl 0)
        exact .single ⟨_, .refl, .internal, trivial, henter⟩
    | succ level ih =>
        intro hlevel
        have hpos : (farTicker.setPhase (.cascading 0 level)).cascadePos level = 0 := by
          have htime : (farTicker.setPhase (.cascading 0 level)).logicTime = 0 := rfl
          rw [cascadePos, htime, Nat.zero_div, Nat.zero_mod]
        have hslot : (farTicker.setPhase (.cascading 0 level)).cascadeSlot level =
            .cascade level 0 := by
          rw [cascadeSlot, if_pos (Nat.lt_of_succ_le hlevel), hpos]
        have hempty : (farTicker.setPhase (.cascading 0 level)).links.list
            (.cascade level 0) = [] := rfl
        exact (ih (by omega)).tail
          (round_cascadeEnd rfl (hslot ▸ hempty) ⟨hlevel, hpos⟩)
  have hsound : (farTicker.setPhase (.loop 0)).Sound :=
    sound_update reachable_farTicker rfl 0
  refine (alwaysReturns_iff_not_farTickerLeft hsound).mp hreturns _
    (hcascading timeCascadeCount (Nat.le_refl _)) ?_
  exact ⟨0, rfl, 0, ⟨some (), cascadeUnit timeCascadeCount, 0, 5⟩, by decide, rfl,
    Nat.le_refl _⟩

end TickerMgr

end RealtimeEx.Base
