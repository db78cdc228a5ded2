import RealtimeEx.Base.TickerMgrContext
import RealtimeEx.Core.PendingResponse

/-!
# The invariant of the pending responses

The table of sessions and the lists of the holders describe the same entries,
every entry has a session of its own, and no session is zero.  The tickers of
the entries fire once.
-/

set_option linter.unusedSectionVars false

namespace RealtimeEx.Core

open Base (TickerMgr)

namespace ServiceState

theorem genSessionID_ne_zero (s : ServiceState) : s.genSessionID ≠ 0 := by
  unfold genSessionID
  split
  · decide
  · assumption

/-! ## What the operations do to the tables -/

section

variable (s : ServiceState)

theorem mapPendingResponseInfo_delPendingSession (nSessionID : UInt64) :
    (s.delPendingSession nSessionID).mapPendingResponseInfo =
      Function.update s.mapPendingResponseInfo nSessionID none := by
  unfold delPendingSession
  split
  · rename_i hnone
    exact (Function.update_eq_self_iff.mpr hnone.symm).symm
  · rfl

theorem mapHolderSessionIDList_delPendingSession (nSessionID : UInt64) :
    (s.delPendingSession nSessionID).mapHolderSessionIDList =
      s.mapHolderSessionIDList := by
  unfold delPendingSession
  split <;> rfl

theorem nextEntry_delPendingSession (nSessionID : UInt64) :
    (s.delPendingSession nSessionID).nextEntry = s.nextEntry := by
  unfold delPendingSession
  split <;> rfl

/-- The sessions of a list are forgotten, and nothing else. -/
theorem foldl_delPendingSession (sids : List UInt64) :
    (∀ sid, (sids.foldl delPendingSession s).mapPendingResponseInfo sid =
      if sid ∈ sids then none else s.mapPendingResponseInfo sid) ∧
    (sids.foldl delPendingSession s).mapHolderSessionIDList =
      s.mapHolderSessionIDList ∧
    (sids.foldl delPendingSession s).nextEntry = s.nextEntry := by
  induction sids generalizing s with
  | nil => simp
  | cons sid sids ih =>
      obtain ⟨hpending, hholder, hentry⟩ := ih (s.delPendingSession sid)
      refine ⟨fun other => ?_, ?_, ?_⟩
      · rw [List.foldl_cons, hpending,
          mapPendingResponseInfo_delPendingSession]
        by_cases hmem : other ∈ sids
        · simp [hmem]
        · by_cases heq : other = sid
          · simp [heq]
          · simp [hmem, heq]
      · rw [List.foldl_cons, hholder, mapHolderSessionIDList_delPendingSession]
      · rw [List.foldl_cons, hentry, nextEntry_delPendingSession]

end

/-! ## The tables -/

/-- The invariant of the two tables. -/
structure Tables (s : ServiceState) : Prop where
  entry_lt : ∀ sid p, s.mapPendingResponseInfo sid = some p →
    p.entry < s.nextEntry
  session : ∀ sid p, s.mapPendingResponseInfo sid = some p →
    p.nSessionID = sid ∧ sid ≠ 0
  entry_inj : ∀ sid sid' p p', s.mapPendingResponseInfo sid = some p →
    s.mapPendingResponseInfo sid' = some p' → p.entry = p'.entry → sid = sid'
  holder_ne : ∀ holder l, s.mapHolderSessionIDList holder = some l →
    holder ≠ 0
  holder_isSome : ∀ sid p, s.mapPendingResponseInfo sid = some p →
    p.nHolderID ≠ 0 → ∃ l, s.mapHolderSessionIDList p.nHolderID = some l
  mem_holder : ∀ holder l, s.mapHolderSessionIDList holder = some l →
    ∀ entry sid, (entry, sid) ∈ l ↔
      ∃ p, s.mapPendingResponseInfo sid = some p ∧ p.entry = entry ∧
        p.nHolderID = holder

theorem tables_initial (time : ℕ) : (initial time).Tables := by
  constructor <;> simp [initial]

section

variable {s s' : ServiceState}

theorem Tables.of_eq (h : s.Tables)
    (hpending : s'.mapPendingResponseInfo = s.mapPendingResponseInfo)
    (hholder : s'.mapHolderSessionIDList = s.mapHolderSessionIDList)
    (hentry : s'.nextEntry = s.nextEntry) : s'.Tables := by
  constructor
  · rw [hpending, hentry]
    exact h.entry_lt
  · rw [hpending]
    exact h.session
  · rw [hpending]
    exact h.entry_inj
  · rw [hholder]
    exact h.holder_ne
  · rw [hpending, hholder]
    exact h.holder_isSome
  · rw [hpending, hholder]
    exact h.mem_holder

/-- The entry an invocation adds. -/
def Invocation.info (i : Invocation) (entry : ℕ) (nSessionID : UInt64) :
    PendingResponseInfo where
  entry := entry
  nSessionID := nSessionID
  nCoroutineID := i.nCoroutineID
  nHolderID := i.nHolderID
  nToServiceID := i.nToServiceID
  callback := i.callback

/-- Everything an added entry changes. -/
theorem addPendingResponseInfo_spec {nDefaultTimeout : UInt32}
    {nSessionID : UInt64} {i : Invocation}
    (hadd : s.addPendingResponseInfo nDefaultTimeout nSessionID i = some s') :
    s.mapPendingResponseInfo nSessionID = none ∧
      (∀ sid, s'.mapPendingResponseInfo sid =
        if sid = nSessionID then some (i.info s.nextEntry nSessionID)
        else s.mapPendingResponseInfo sid) ∧
      (∀ holder, s'.mapHolderSessionIDList holder =
        if i.nHolderID ≠ 0 ∧ holder = i.nHolderID then
          some ((s.mapHolderSessionIDList holder).getD [] ++
            [(s.nextEntry, nSessionID)])
        else s.mapHolderSessionIDList holder) ∧
      s'.nextEntry = s.nextEntry + 1 ∧
      ∃ nTimeout, s'.tickerMgr = s.tickerMgr.registerTicker
        (.timeout s.nextEntry) nTimeout 0 nSessionID := by
  unfold addPendingResponseInfo at hadd
  split at hadd
  · cases hadd
  · rename_i hnone
    cases hadd
    refine ⟨by simpa using hnone, ?_, ?_, rfl, _, rfl⟩
    · intro sid
      exact Function.update_apply ..
    · intro holder
      by_cases hzero : i.nHolderID = 0
      · simp [hzero]
      · by_cases heq : holder = i.nHolderID
        · simp [hzero, heq]
        · simp [hzero, heq]

theorem Tables.addPendingResponseInfo (h : s.Tables)
    {nDefaultTimeout : UInt32} {nSessionID : UInt64} {i : Invocation}
    (hne : nSessionID ≠ 0)
    (hadd : s.addPendingResponseInfo nDefaultTimeout nSessionID i = some s') :
    s'.Tables := by
  obtain ⟨hfree, hpending, hholder, hentry, -⟩ :=
    addPendingResponseInfo_spec hadd
  have hinfo : i.info s.nextEntry nSessionID =
    ⟨s.nextEntry, nSessionID, i.nCoroutineID, i.nHolderID, i.nToServiceID,
      i.callback⟩ := rfl
  have hlt := h.entry_lt
  constructor
  case entry_lt => grind
  case session =>
    have hold := h.session
    grind
  case entry_inj =>
    have hold := h.entry_inj
    grind
  case holder_ne =>
    have hold := h.holder_ne
    grind
  case holder_isSome =>
    intro sid p hp hne
    rw [hholder]
    split
    · exact ⟨_, rfl⟩
    · rename_i hcond
      rw [hpending] at hp
      split at hp
      · cases hp
        exact absurd ⟨hne, rfl⟩ hcond
      · exact h.holder_isSome sid p hp hne
  case mem_holder =>
    intro holder l hl entry sid
    rw [hholder] at hl
    rw [hpending]
    split at hl
    · -- the list of the new entry's holder
      rename_i hcond
      cases hl
      have hold : (entry, sid) ∈ (s.mapHolderSessionIDList holder).getD [] ↔
          ∃ p, s.mapPendingResponseInfo sid = some p ∧ p.entry = entry ∧
            p.nHolderID = holder := by
        cases hlist : s.mapHolderSessionIDList holder with
        | some l => exact h.mem_holder holder l hlist entry sid
        | none =>
            have hsome := h.holder_isSome sid
            grind
      rw [List.mem_append, hold]
      grind
    · have hold := h.mem_holder holder l hl entry sid
      have hsome := h.holder_ne holder l hl
      grind

/-- Everything that taking an entry changes. -/
theorem getPendingResponseInfo_spec (s : ServiceState)
    (p : PendingResponseInfo) :
    (∀ sid, (s.getPendingResponseInfo p).mapPendingResponseInfo sid =
      if sid = p.nSessionID then none else s.mapPendingResponseInfo sid) ∧
    (∀ holder, (s.getPendingResponseInfo p).mapHolderSessionIDList holder =
      if p.nHolderID ≠ 0 ∧ holder = p.nHolderID then
        (s.mapHolderSessionIDList holder).map
          (List.filter fun node => node.1 ≠ p.entry)
      else s.mapHolderSessionIDList holder) := by
  constructor
  · intro sid
    exact Function.update_apply ..
  · intro holder
    unfold getPendingResponseInfo
    split
    · rename_i hnone
      split
      · rename_i hcond
        rw [hcond.2, hnone]
        rfl
      · rfl
    · rename_i l hl
      by_cases hzero : p.nHolderID = 0
      · simp [hzero]
      · by_cases heq : holder = p.nHolderID
        · simp [hzero, heq, hl]
        · simp [hzero, heq]

theorem Tables.getPendingResponseInfo (h : s.Tables) {sid : UInt64}
    {p : PendingResponseInfo} (hp : s.mapPendingResponseInfo sid = some p) :
    (s.getPendingResponseInfo p).Tables := by
  obtain ⟨hpending, hholder⟩ := getPendingResponseInfo_spec s p
  obtain ⟨rfl, hne⟩ := h.session sid p hp
  constructor
  case entry_lt =>
    have hold := h.entry_lt
    intro other q hq
    rw [hpending] at hq
    split at hq
    · cases hq
    · exact hold other q hq
  case session =>
    have hold := h.session
    grind
  case entry_inj =>
    have hold := h.entry_inj
    grind
  case holder_ne =>
    have hold := h.holder_ne
    grind
  case holder_isSome =>
    have hold := h.holder_isSome
    grind
  case mem_holder =>
    intro holder l hl entry other
    have hinj := h.entry_inj p.nSessionID other p
    rw [hholder] at hl
    rw [hpending]
    split at hl
    · obtain ⟨l', hl', rfl⟩ := Option.map_eq_some_iff.mp hl
      have hold := h.mem_holder holder l' hl' entry other
      rw [List.mem_filter, hold]
      grind
    · have hold := h.mem_holder holder l hl entry other
      have hsome := h.holder_ne holder l hl
      grind

/-- A cancellation forgets the entries of the holder, and nothing else. -/
theorem Tables.delPendingResponseInfo_spec (h : s.Tables)
    {nHolderID : UInt64} (hne : nHolderID ≠ 0) :
    (∀ sid p, (s.delPendingResponseInfo nHolderID).mapPendingResponseInfo sid =
      some p ↔ s.mapPendingResponseInfo sid = some p ∧
        p.nHolderID ≠ nHolderID) ∧
    (∀ holder, (s.delPendingResponseInfo nHolderID).mapHolderSessionIDList
        holder =
      if holder = nHolderID then none else s.mapHolderSessionIDList holder) ∧
    (s.delPendingResponseInfo nHolderID).nextEntry = s.nextEntry := by
  unfold ServiceState.delPendingResponseInfo
  split
  · rename_i hnone
    refine ⟨fun sid p => ?_, fun holder => ?_, rfl⟩
    · rw [iff_self_and]
      rintro hp rfl
      obtain ⟨l, hl⟩ := h.holder_isSome sid p hp hne
      rw [hnone] at hl
      cases hl
    · split
      · rename_i heq
        rw [heq, hnone]
      · rfl
  · rename_i l hl
    obtain ⟨hpending, hholder, hentry⟩ :=
      foldl_delPendingSession s (l.map Prod.snd)
    refine ⟨fun sid p => ?_, fun holder => ?_, hentry⟩
    · have hmem : sid ∈ l.map Prod.snd ↔ ∃ q,
          s.mapPendingResponseInfo sid = some q ∧
            q.nHolderID = nHolderID := by
        have hold := h.mem_holder nHolderID l hl
        constructor
        · intro hsid
          obtain ⟨node, hnode, rfl⟩ := List.mem_map.mp hsid
          obtain ⟨q, hq, -, hholder⟩ := (hold node.1 node.2).mp hnode
          exact ⟨q, hq, hholder⟩
        · rintro ⟨q, hq, hholder⟩
          exact List.mem_map.mpr
            ⟨_, (hold q.entry sid).mpr ⟨q, hq, rfl, hholder⟩, rfl⟩
      rw [hpending]
      grind
    · dsimp only
      rw [Function.update_apply, hholder]

theorem delPendingResponseInfo_zero (h : s.Tables) :
    s.delPendingResponseInfo 0 = s := by
  unfold delPendingResponseInfo
  split
  · rfl
  · rename_i l hl
    exact absurd rfl (h.holder_ne 0 l hl)

theorem Tables.delPendingResponseInfo (h : s.Tables) (nHolderID : UInt64) :
    (s.delPendingResponseInfo nHolderID).Tables := by
  by_cases hne : nHolderID = 0
  · subst hne
    rw [delPendingResponseInfo_zero h]
    exact h
  · obtain ⟨hpending, hholder, hentry⟩ := h.delPendingResponseInfo_spec hne
    constructor
    case entry_lt =>
      intro sid p hp
      rw [hentry]
      exact h.entry_lt sid p ((hpending sid p).mp hp).1
    case session =>
      intro sid p hp
      exact h.session sid p ((hpending sid p).mp hp).1
    case entry_inj =>
      intro sid sid' p p' hp hp'
      exact h.entry_inj sid sid' p p' ((hpending sid p).mp hp).1
        ((hpending sid' p').mp hp').1
    case holder_ne =>
      have hold := h.holder_ne
      grind
    case holder_isSome =>
      have hold := h.holder_isSome
      grind
    case mem_holder =>
      have hold := h.mem_holder
      grind

/-! ## The tickers -/

/-- What unregistering tickers preserves, deleting entries preserves. -/
theorem tickerMgr_foldl_delPendingSession
    {P : TickerMgr ServiceTicker → Prop}
    (hP : ∀ t ticker, P t → P (t.unregisterTicker ticker))
    (sids : List UInt64) (s : ServiceState) (h : P s.tickerMgr) :
    P (sids.foldl delPendingSession s).tickerMgr := by
  induction sids generalizing s with
  | nil => exact h
  | cons sid sids ih =>
      apply ih
      unfold delPendingSession
      split
      · exact h
      · exact hP _ _ h

theorem tickerMgr_delPendingResponseInfo
    {P : TickerMgr ServiceTicker → Prop}
    (hP : ∀ t ticker, P t → P (t.unregisterTicker ticker))
    (h : P s.tickerMgr) (nHolderID : UInt64) :
    P (s.delPendingResponseInfo nHolderID).tickerMgr := by
  unfold delPendingResponseInfo
  split
  · exact h
  · exact tickerMgr_foldl_delPendingSession hP _ s h

/-- The tickers of a service: the manager has a callback of its own, and the
timeout tickers fire once. -/
structure TimeoutsOnce (t : TickerMgr ServiceTicker) : Prop where
  callback : t.callback = true
  once : t.Registered fun ticker intervalTime _ =>
    ∀ entry, ticker = .timeout entry → intervalTime = 0

theorem TimeoutsOnce.unregisterTicker {t : TickerMgr ServiceTicker}
    (h : TimeoutsOnce t) (ticker : ServiceTicker) :
    TimeoutsOnce (t.unregisterTicker ticker) where
  callback := (TickerMgr.callback_unregisterTicker t ticker).trans h.callback
  once := h.once.unregisterTicker ticker

theorem TimeoutsOnce.step {t t' : TickerMgr ServiceTicker}
    {l : TickerMgr.Label ServiceTicker}
    (h : TimeoutsOnce t) (hstep : TickerMgr.Step t l t')
    (hregister : ∀ id entry time startTime intervalTime context,
      l ≠ .register id (.timeout entry) time startTime intervalTime context) :
    TimeoutsOnce t' where
  callback := (TickerMgr.callback_step hstep).trans h.callback
  once := h.once.step hstep (by
    rintro id ticker time startTime intervalTime context rfl entry rfl
    exact absurd rfl (hregister _ _ _ _ _ _))

/-! ## The whole state -/

/-- The invariant of the pending responses. -/
structure Inv (s : ServiceState) : Prop where
  tables : s.Tables
  tickers : TimeoutsOnce s.tickerMgr

theorem inv_initial (time : ℕ) : (initial time).Inv where
  tables := tables_initial time
  tickers := ⟨rfl, TickerMgr.registered_initial _ _ _⟩

variable {μ : Type*} {nDefaultTimeout : UInt32}
  {unserialize : UInt8 → List UInt8 → List UInt8 → Option μ}
  {l : Label μ}

theorem pending_of_findResponse {context : ResponseContext}
    {p : PendingResponseInfo} {message : Option μ}
    (hfind : s.findResponse unserialize context = some (p, message)) :
    s.mapPendingResponseInfo context.nSessionID = some p := by
  unfold findResponse at hfind
  split at hfind
  · cases hfind
  · split at hfind
    · cases hfind
    · obtain ⟨q, hq, heq⟩ := Option.map_eq_some_iff.mp hfind
      cases heq
      exact hq

theorem Inv.step (h : s.Inv)
    (hstep : Step nDefaultTimeout unserialize s l s') : s'.Inv := by
  cases hstep with
  | invoke hrunning hadd =>
      obtain ⟨-, -, -, -, nTimeout, htickers⟩ := addPendingResponseInfo_spec hadd
      constructor
      · refine Tables.addPendingResponseInfo ?_ (genSessionID_ne_zero s) hadd
        exact h.tables.of_eq rfl rfl rfl
      · rw [htickers]
        refine ⟨(TickerMgr.callback_registerTicker ..).trans
          h.tickers.callback, ?_⟩
        exact h.tickers.once.registerTicker fun _ _ => rfl
  | invokeFailed => exact ⟨h.tables.of_eq rfl rfl rfl, h.tickers⟩
  | @cancel nHolderID =>
      exact ⟨h.tables.delPendingResponseInfo nHolderID,
        tickerMgr_delPendingResponseInfo (P := TimeoutsOnce)
          (fun _ ticker ht => ht.unregisterTicker ticker) h.tickers nHolderID⟩
  | arrive => exact ⟨h.tables.of_eq rfl rfl rfl, h.tickers⟩
  | dispatchOther => exact ⟨h.tables.of_eq rfl rfl rfl, h.tickers⟩
  | dispatchUnknown => exact ⟨h.tables.of_eq rfl rfl rfl, h.tickers⟩
  | dispatch hphase hidle hqueue hfind =>
      have hp := pending_of_findResponse hfind
      exact ⟨(h.tables.getPendingResponseInfo hp).of_eq rfl rfl rfl, h.tickers⟩
  | @dispatched p hphase hcurrent =>
      exact ⟨h.tables.of_eq rfl rfl rfl, h.tickers.unregisterTicker _⟩
  | tick htick hquiet =>
      refine ⟨h.tables.of_eq rfl rfl rfl, h.tickers.step htick ?_⟩
      rintro id entry time startTime intervalTime context rfl
      cases hquiet
  | timeout htick =>
      refine ⟨h.tables.of_eq rfl rfl rfl, h.tickers.step htick ?_⟩
      rintro id entry time startTime intervalTime context heq
      cases heq

theorem inv_of_run {time : ℕ} {s₀ : ServiceState} {ls : List (Label μ)}
    (hinit : (serviceSystem nDefaultTimeout unserialize time).init s₀)
    (hrun : (serviceSystem nDefaultTimeout unserialize time).Run s₀ ls s) :
    s.Inv := by
  cases hinit
  exact hrun.invariant (fun _ _ _ h hstep => h.step hstep) (inv_initial time)

end

end ServiceState

end RealtimeEx.Core
