import RealtimeEx.Core.PendingResponseDiscipline
import RealtimeEx.Core.SyncInvoke

/-!
# Suspended invocations

A coroutine that is suspended in `sync_invoke` can be resumed as long as its
entry is in the table.  Responses, timeouts and everything else the service
does leave the entry there until the coroutine is resumed.  The destruction of
a holder does not: it deletes the entry of a coroutine that waits in it, and
no later step resumes that coroutine.
-/

namespace RealtimeEx.Core

namespace SyncState

variable {μ : Type*} {nDefaultTimeout : UInt32}
  {unserialize : UInt8 → List UInt8 → List UInt8 → Option μ}
  {s t : SyncState} {l : Label}

/-! ## The invariant -/

/-- The coroutine of an entry waits for that entry.  The root never waits, and
neither does the coroutine that runs. -/
structure Inv (s : SyncState) : Prop where
  service : s.service.Inv
  waits : ∀ sid p, s.service.mapPendingResponseInfo sid = some p →
    p.nCoroutineID ≠ 0 →
      p.callback = true ∧ s.waiting p.nCoroutineID = some p.entry
  root : s.waiting 0 = none
  current : s.waiting s.nCurrent = none

theorem inv_initial (time : ℕ) : (initial time).Inv where
  service := ServiceState.inv_initial time
  waits sid p hp := by
    have hnone : (initial time).service.mapPendingResponseInfo sid = none := rfl
    rw [hnone] at hp
    cases hp
  root := rfl
  current := rfl

theorem Inv.service_step (h : s.Inv)
    (hstep : Step nDefaultTimeout unserialize s l t) : t.service.Inv := by
  rcases hstep.service with heq | ⟨k, hservice⟩
  · rw [heq]
    exact h.service
  · exact h.service.step hservice

/-- No two entries are waited for by one coroutine. -/
theorem Inv.session_unique (h : s.Inv) {sid sid' : UInt64}
    {p q : PendingResponseInfo}
    (hp : s.service.mapPendingResponseInfo sid = some p)
    (hq : s.service.mapPendingResponseInfo sid' = some q)
    (hne : p.nCoroutineID ≠ 0) (heq : q.nCoroutineID = p.nCoroutineID) :
    sid = sid' := by
  have hwaits := (h.waits sid p hp hne).2
  have hwaits' := (h.waits sid' q hq (heq ▸ hne)).2
  rw [heq, hwaits] at hwaits'
  exact h.service.tables.entry_inj sid sid' p q hp hq
    (Option.some.inj hwaits')

/-- The entry a `sync_invoke` adds is the one its coroutine waits for. -/
theorem Inv.yield (h : s.Inv) {nSessionID : UInt64}
    {i : ServiceState.Invocation} {service : ServiceState}
    (hservice : service.Inv) (hinside : s.nCurrent ≠ 0)
    (hpending : ∀ sid, service.mapPendingResponseInfo sid =
      if sid = nSessionID then
        some ((syncInvocation i s.nCurrent).info s.service.nextEntry nSessionID)
      else s.service.mapPendingResponseInfo sid) :
    (s.yield service).Inv where
  service := hservice
  waits sid p hp hne := by
    have hp' : service.mapPendingResponseInfo sid = some p := hp
    rw [hpending] at hp'
    by_cases hsid : sid = nSessionID
    · rw [if_pos hsid] at hp'
      obtain rfl := Option.some.inj hp'
      exact ⟨rfl, (waiting_yield ..).trans (if_pos rfl)⟩
    · rw [if_neg hsid] at hp'
      obtain ⟨hcallback, hwaits⟩ := h.waits sid p hp' hne
      have hother : p.nCoroutineID ≠ s.nCurrent := by
        intro heq
        rw [heq, h.current] at hwaits
        cases hwaits
      refine ⟨hcallback, ?_⟩
      rw [waiting_yield, if_neg hother]
      exact hwaits
  root := by
    rw [waiting_yield, if_neg hinside.symm]
    exact h.root
  current := by
    have hroot : (s.yield service).nCurrent = 0 := rfl
    rw [hroot, waiting_yield, if_neg hinside.symm]
    exact h.root

/-- An entry leaves the table when its coroutine is resumed. -/
theorem Inv.resume (h : s.Inv) {sid : UInt64} {p : PendingResponseInfo}
    {service : ServiceState} (hroot : s.nCurrent = 0)
    (hp : s.service.mapPendingResponseInfo sid = some p)
    (hservice : service.Inv)
    (hpending : ∀ other, service.mapPendingResponseInfo other =
      if other = sid then none else s.service.mapPendingResponseInfo other) :
    (resume { s with service := service } p).Inv := by
  constructor
  case service =>
    rw [service_resume]
    exact hservice
  case waits =>
    intro other q hq hne
    rw [service_resume] at hq
    have hq' : service.mapPendingResponseInfo other = some q := hq
    rw [hpending] at hq'
    by_cases hother : other = sid
    · rw [if_pos hother] at hq'
      cases hq'
    · rw [if_neg hother] at hq'
      obtain ⟨hcallback, hwaits⟩ := h.waits other q hq' hne
      refine ⟨hcallback, ?_⟩
      rw [waiting_resume, if_neg]
      · exact hwaits
      · rintro ⟨-, -, heq⟩
        exact hother (h.session_unique hq' hp hne heq.symm)
  case root =>
    rw [waiting_resume, if_neg]
    · exact h.root
    · rintro ⟨-, hne, hzero⟩
      exact hne hzero.symm
  case current =>
    rw [waiting_resume]
    split
    · rfl
    · rename_i hother
      unfold SyncState.resume at hother ⊢
      split
      · rename_i hsync
        rw [if_pos hsync] at hother
        exact absurd ⟨hsync.1, hsync.2, rfl⟩ hother
      · rw [show s.nCurrent = 0 from hroot]
        exact h.root

theorem Inv.step (h : s.Inv)
    (hstep : Step nDefaultTimeout unserialize s l t) : t.Inv := by
  have hservice := h.service_step hstep
  cases hstep with
  | enter hroot hrunning hne hfree => exact ⟨hservice, h.waits, h.root, hfree⟩
  | leave => exact ⟨hservice, h.waits, h.root, h.root⟩
  | syncInvoke hinside hrunning hadd =>
      obtain ⟨-, hpending, -⟩ := ServiceState.addPendingResponseInfo_spec hadd
      exact h.yield hservice hinside hpending
  | @asyncInvoke i _ hrunning hasync hadd =>
      obtain ⟨-, hpending, -⟩ := ServiceState.addPendingResponseInfo_spec hadd
      refine ⟨hservice, fun sid p hp hne => ?_, h.root, h.current⟩
      rw [hpending] at hp
      split at hp
      · obtain rfl := Option.some.inj hp
        exact absurd hasync hne
      · exact h.waits sid p hp hne
  | @cancel nHolderID hrunning =>
      refine ⟨hservice, fun sid p hp hne => ?_, h.root, h.current⟩
      by_cases hzero : nHolderID = 0
      · subst hzero
        rw [ServiceState.delPendingResponseInfo_zero h.service.tables] at hp
        exact h.waits sid p hp hne
      · obtain ⟨hpending, -⟩ :=
          h.service.tables.delPendingResponseInfo_spec hzero
        exact h.waits sid p ((hpending sid p).mp hp).1 hne
  | response hroot hphase hidle hqueue hfind =>
      have hp := ServiceState.pending_of_findResponse hfind
      obtain ⟨hsid, -⟩ := h.service.tables.session _ _ hp
      rw [service_resume] at hservice
      refine h.resume hroot hp hservice fun other => ?_
      rw [← hsid]
      exact (ServiceState.getPendingResponseInfo_spec s.service _).1 other
  | quiet hstep htable =>
      refine ⟨hservice, fun sid p hp => ?_, h.root, h.current⟩
      rw [htable] at hp
      exact h.waits sid p hp

theorem inv_of_run {time : ℕ} {ls : List Label}
    (hrun : (syncSystem nDefaultTimeout unserialize time).Run (initial time)
      ls s) : s.Inv :=
  hrun.invariant (fun _ _ _ h hstep => h.step hstep) (inv_initial time)

/-! ## What can resume a coroutine -/

/-- The response would resume the coroutine if it were dispatched now. -/
def WillResume (unserialize : UInt8 → List UInt8 → List UInt8 → Option μ)
    (s : SyncState) (nCoroutineID : UInt64) (context : ResponseContext) :
    Prop :=
  ∃ p message, s.service.findResponse unserialize context = some (p, message) ∧
    p.nCoroutineID = nCoroutineID ∧ p.callback = true

/-- The entry is in the table, and its callback resumes the coroutine. -/
def Live (s : SyncState) (nCoroutineID : UInt64) (entry : ℕ) : Prop :=
  ∃ sid p, s.service.mapPendingResponseInfo sid = some p ∧ p.entry = entry ∧
    p.nCoroutineID = nCoroutineID ∧ p.callback = true

/-- Every coroutine that is suspended in `sync_invoke` has a live entry, or a
response in the queue (a timeout is one too) that will resume it. -/
def Resumable (unserialize : UInt8 → List UInt8 → List UInt8 → Option μ)
    (s : SyncState) : Prop :=
  ∀ nCoroutineID entry, s.waiting nCoroutineID = some entry →
    s.Live nCoroutineID entry ∨
      ∃ context, .response context ∈ s.service.messageQueue ∧
        WillResume unserialize s nCoroutineID context

/-- A response needs the entry, so it is the entry that matters. -/
theorem resumable_iff_live (h : s.Inv) :
    Resumable unserialize s ↔ ∀ nCoroutineID entry,
      s.waiting nCoroutineID = some entry → s.Live nCoroutineID entry := by
  constructor
  · intro hresumable c entry hwaits
    rcases hresumable c entry hwaits with hlive | ⟨context, -, hresume⟩
    · exact hlive
    · obtain ⟨p, message, hfind, rfl, hcallback⟩ := hresume
      have hp := ServiceState.pending_of_findResponse hfind
      have hne : p.nCoroutineID ≠ 0 := by
        intro hzero
        rw [hzero, h.root] at hwaits
        cases hwaits
      have hentry := (h.waits _ p hp hne).2
      rw [hwaits] at hentry
      exact ⟨_, p, hp, (Option.some.inj hentry).symm, rfl, hcallback⟩
  · intro hlive c entry hwaits
    exact Or.inl (hlive c entry hwaits)

/-- A response to the session of a live entry will resume the coroutine. -/
theorem exists_willResume (h : s.Inv) {nCoroutineID : UInt64} {entry : ℕ}
    (hlive : s.Live nCoroutineID entry) :
    ∃ context, WillResume unserialize s nCoroutineID context := by
  obtain ⟨sid, p, hp, -, hcoroutine, hcallback⟩ := hlive
  obtain ⟨hsid, hne⟩ := h.service.tables.session sid p hp
  refine ⟨ServiceState.timeoutResponse p, p, none, ?_, hcoroutine, hcallback⟩
  have hsession : (ServiceState.timeoutResponse p).nSessionID = sid := hsid
  have hname : (ServiceState.timeoutResponse p).messageName = [] := rfl
  unfold ServiceState.findResponse ServiceState.responseMessage
  rw [hsession, if_neg hne, if_pos hname, hp]
  rfl

/-- Once it is at the head of the queue and the root is idle, it does. -/
theorem exists_response_of_willResume {nCoroutineID : UInt64}
    {context : ResponseContext} {rest : List ServicePacket}
    (hne : nCoroutineID ≠ 0) (hroot : s.nCurrent = 0)
    (hphase : s.service.tickerMgr.phase = .idle)
    (hidle : s.service.dispatching = none)
    (hqueue : s.service.messageQueue = .response context :: rest)
    (hresume : WillResume unserialize s nCoroutineID context) :
    ∃ t, Step nDefaultTimeout unserialize s .response t ∧
      t.nCurrent = nCoroutineID ∧ t.waiting nCoroutineID = none := by
  obtain ⟨p, message, hfind, rfl, hcallback⟩ := hresume
  refine ⟨_, .response hroot hphase hidle hqueue hfind, ?_, ?_⟩
  · unfold SyncState.resume
    rw [if_pos ⟨hcallback, hne⟩]
  · rw [waiting_resume, if_pos ⟨hcallback, hne, rfl⟩]

/-! ## What a step leaves resumable -/

/-- A holder that is destroyed has no entry a coroutine waits for. -/
def KeepsSuspended (s : SyncState) : Label → Prop
  | .cancel nHolderID => nHolderID ≠ 0 →
      ∀ sid p, s.service.mapPendingResponseInfo sid = some p →
        p.nHolderID = nHolderID → p.nCoroutineID = 0
  | _ => True

/-- A step that keeps the entries of those who still wait leaves them
resumable. -/
theorem resumable_of_live (h : s.Inv) (h' : t.Inv)
    (hresumable : Resumable unserialize s)
    (hlive : ∀ nCoroutineID entry, t.waiting nCoroutineID = some entry →
      (s.waiting nCoroutineID = some entry → s.Live nCoroutineID entry) →
        t.Live nCoroutineID entry) :
    Resumable unserialize t :=
  (resumable_iff_live h').mpr fun c entry hwaits =>
    hlive c entry hwaits ((resumable_iff_live h).mp hresumable c entry)

theorem Live.of_table {nCoroutineID : UInt64} {entry : ℕ}
    (hlive : s.Live nCoroutineID entry)
    (hkeep : ∀ sid p, s.service.mapPendingResponseInfo sid = some p →
      p.nCoroutineID = nCoroutineID →
        t.service.mapPendingResponseInfo sid = some p) :
    t.Live nCoroutineID entry := by
  obtain ⟨sid, p, hp, hentry, hcoroutine, hcallback⟩ := hlive
  exact ⟨sid, p, hkeep sid p hp hcoroutine, hentry, hcoroutine, hcallback⟩

/-- The coroutine that yields has a live entry, and the others keep theirs. -/
theorem live_yield {nSessionID : UInt64} {i : ServiceState.Invocation}
    {service : ServiceState}
    (hfree : s.service.mapPendingResponseInfo nSessionID = none)
    (hpending : ∀ sid, service.mapPendingResponseInfo sid =
      if sid = nSessionID then
        some ((syncInvocation i s.nCurrent).info s.service.nextEntry nSessionID)
      else s.service.mapPendingResponseInfo sid)
    {nCoroutineID : UInt64} {entry : ℕ}
    (hwaits : (s.yield service).waiting nCoroutineID = some entry)
    (hlive : s.waiting nCoroutineID = some entry →
      s.Live nCoroutineID entry) :
    (s.yield service).Live nCoroutineID entry := by
  rw [waiting_yield] at hwaits
  split at hwaits
  · rename_i hself
    have hentry : s.service.nextEntry = entry := Option.some.inj hwaits
    have hnew := (hpending nSessionID).trans (if_pos rfl)
    exact ⟨nSessionID, _, hnew, hentry, hself.symm, rfl⟩
  · refine (hlive hwaits).of_table fun sid p hp _ => ?_
    have hne : sid ≠ nSessionID := by
      rintro rfl
      rw [hfree] at hp
      cases hp
    exact ((hpending sid).trans (if_neg hne)).trans hp

/-- A response takes the entry of no other coroutine. -/
theorem live_resume (h : s.Inv) {sid : UInt64} {p : PendingResponseInfo}
    {service : ServiceState}
    (hp : s.service.mapPendingResponseInfo sid = some p)
    (hpending : ∀ other, service.mapPendingResponseInfo other =
      if other = sid then none else s.service.mapPendingResponseInfo other)
    {nCoroutineID : UInt64} {entry : ℕ}
    (hwaits : (SyncState.resume { s with service := service } p).waiting
      nCoroutineID = some entry)
    (hlive : s.waiting nCoroutineID = some entry →
      s.Live nCoroutineID entry) :
    (SyncState.resume { s with service := service } p).Live
      nCoroutineID entry := by
  rw [waiting_resume] at hwaits
  split at hwaits
  · cases hwaits
  · rename_i hother
    have hbefore : s.waiting nCoroutineID = some entry := hwaits
    refine (hlive hbefore).of_table fun other q hq hcoroutine => ?_
    rw [service_resume]
    refine (hpending other).trans ((if_neg ?_).trans hq)
    rintro rfl
    rw [hp] at hq
    obtain rfl := Option.some.inj hq
    have hne : p.nCoroutineID ≠ 0 := by
      rintro hzero
      rw [← hcoroutine, hzero, h.root] at hbefore
      cases hbefore
    exact hother ⟨(h.waits other p hp hne).1, hne, hcoroutine.symm⟩

/-- The destruction of a holder strands exactly those who wait in it. -/
theorem resumable_cancel_iff (h : s.Inv) (hresumable : Resumable unserialize s)
    (nHolderID : UInt64)
    (h' : Inv
      { s with service := s.service.delPendingResponseInfo nHolderID }) :
    Resumable unserialize
        { s with service := s.service.delPendingResponseInfo nHolderID } ↔
      KeepsSuspended s (.cancel nHolderID) := by
  have hlive := (resumable_iff_live h).mp hresumable
  rw [resumable_iff_live h']
  by_cases hzero : nHolderID = 0
  · subst hzero
    rw [ServiceState.delPendingResponseInfo_zero h.service.tables]
    exact iff_of_true hlive fun hne => absurd rfl hne
  · obtain ⟨hpending, -⟩ := h.service.tables.delPendingResponseInfo_spec hzero
    constructor
    · intro hafter _ sid p hp hholder
      by_contra hne
      have hwaits := (h.waits sid p hp hne).2
      obtain ⟨sid', q, hq, hentry, -⟩ := hafter _ _ hwaits
      obtain ⟨hq', hq_holder⟩ := (hpending sid' q).mp hq
      obtain rfl := h.service.tables.entry_inj sid' sid q p hq' hp hentry
      rw [hp] at hq'
      obtain rfl := Option.some.inj hq'
      exact hq_holder hholder
    · intro hkeeps c entry hwaits
      refine (hlive c entry hwaits).of_table fun sid p hp hcoroutine => ?_
      refine (hpending sid p).mpr ⟨hp, fun hholder => ?_⟩
      have hroot := hkeeps hzero sid p hp hholder
      rw [← hcoroutine, hroot, h.root] at hwaits
      cases hwaits

/-- A step strands a coroutine exactly when it destroys the holder the
coroutine waits in. -/
theorem resumable_step_iff (h : s.Inv) (hresumable : Resumable unserialize s)
    (hstep : Step nDefaultTimeout unserialize s l t) :
    Resumable unserialize t ↔ KeepsSuspended s l := by
  have h' := h.step hstep
  cases hstep with
  | enter | leave =>
      refine iff_of_true (resumable_of_live h h' hresumable ?_) trivial
      exact fun c entry hwaits hlive => hlive hwaits
  | syncInvoke hinside hrunning hadd =>
      obtain ⟨hfree, hpending, -⟩ := ServiceState.addPendingResponseInfo_spec hadd
      refine iff_of_true (resumable_of_live h h' hresumable ?_) trivial
      exact fun c entry hwaits hlive => live_yield hfree hpending hwaits hlive
  | asyncInvoke hrunning hasync hadd =>
      obtain ⟨hfree, hpending, -⟩ := ServiceState.addPendingResponseInfo_spec hadd
      refine iff_of_true (resumable_of_live h h' hresumable ?_) trivial
      refine fun c entry hwaits hlive => (hlive hwaits).of_table ?_
      intro sid p hp _
      refine (hpending sid).trans ((if_neg ?_).trans hp)
      rintro rfl
      rw [show s.service.mapPendingResponseInfo s.service.genSessionID = none
        from hfree] at hp
      cases hp
  | cancel hrunning => exact resumable_cancel_iff h hresumable _ h'
  | response hroot hphase hidle hqueue hfind =>
      have hp := ServiceState.pending_of_findResponse hfind
      obtain ⟨hsid, -⟩ := h.service.tables.session _ _ hp
      refine iff_of_true (resumable_of_live h h' hresumable ?_) trivial
      refine fun c entry hwaits hlive => live_resume h hp ?_ hwaits hlive
      intro other
      rw [← hsid]
      exact (ServiceState.getPendingResponseInfo_spec s.service _).1 other
  | quiet hstep htable =>
      refine iff_of_true (resumable_of_live h h' hresumable ?_) trivial
      refine fun c entry hwaits hlive => (hlive hwaits).of_table ?_
      intro sid p hp _
      exact (congrFun htable sid).trans hp

/-- In a run every suspended coroutine stays resumable, in every state, exactly
when no holder is destroyed in which a coroutine waits. -/
theorem resumable_run_iff (time : ℕ) (ls : List Label) (s : SyncState) :
    ((syncSystem nDefaultTimeout unserialize time).guard KeepsSuspended).Run
        (initial time) ls s ↔
      ((syncSystem nDefaultTimeout unserialize time).within
        (Resumable unserialize)).Run (initial time) ls s := by
  apply TransitionSystem.run_guard_iff_run_within (I := Inv)
  · exact fun _ _ _ h hstep => h.step hstep
  · exact fun _ _ _ h hresumable hstep => resumable_step_iff h hresumable hstep
  · exact inv_initial time
  · intro c entry hwaits
    cases hwaits

/-! ## Stranded coroutines -/

/-- A coroutine whose entry is gone is never resumed. -/
theorem Inv.stranded_step (h : s.Inv) {nCoroutineID : UInt64} {entry : ℕ}
    (hwaits : s.waiting nCoroutineID = some entry)
    (hdead : s.service.Dead entry)
    (hstep : Step nDefaultTimeout unserialize s l t) :
    t.waiting nCoroutineID = some entry ∧ t.service.Dead entry := by
  constructor
  · cases hstep with
    | syncInvoke hinside hrunning hadd =>
        rw [waiting_yield, if_neg]
        · exact hwaits
        · rintro rfl
          rw [h.current] at hwaits
          cases hwaits
    | response hroot hphase hidle hqueue hfind =>
        have hp := ServiceState.pending_of_findResponse hfind
        rw [waiting_resume, if_neg]
        · exact hwaits
        · rintro ⟨-, hne, rfl⟩
          rw [(h.waits _ _ hp hne).2] at hwaits
          exact hdead.2 _ _ hp (Option.some.inj hwaits)
    | _ => exact hwaits
  · rcases hstep.service with heq | ⟨k, hservice⟩
    · rw [heq]
      exact hdead
    · exact (hdead.step (h.service.effect hservice)).1

/-- The coroutine stays suspended in every state of every later run. -/
theorem Inv.stranded_run (h : s.Inv) {nCoroutineID : UInt64} {entry : ℕ}
    {time : ℕ} {ls : List Label}
    (hwaits : s.waiting nCoroutineID = some entry)
    (hdead : s.service.Dead entry)
    (hrun : (syncSystem nDefaultTimeout unserialize time).Run s ls t) :
    t.waiting nCoroutineID = some entry := by
  suffices hall : t.Inv ∧ t.waiting nCoroutineID = some entry ∧
      t.service.Dead entry from hall.2.1
  refine hrun.invariant (I := fun u => u.Inv ∧
    u.waiting nCoroutineID = some entry ∧ u.service.Dead entry) ?_
      ⟨h, hwaits, hdead⟩
  rintro u k v ⟨hu, huwaits, hudead⟩ hstep
  exact ⟨hu.step hstep, hu.stranded_step huwaits hudead hstep⟩

/-! ## A holder that is destroyed -/

/-- The arguments of a synchronous call through a holder. -/
def heldInvocation : ServiceState.Invocation where
  nToServiceID := 7
  nCoroutineID := 0
  callback := true
  nTimeout := 0
  nHolderID := 5

/-- The holder is destroyed while a coroutine waits in it: the coroutine is
suspended, no entry and no message is left of it. -/
theorem not_resumable_destroyedHolder :
    ∃ s : SyncState,
      (syncSystem 10 ServiceState.unserializeNothing 1).Run (initial 1)
        [.enter 1, .syncInvoke, .cancel 5] s ∧
      s.waiting 1 = some 0 ∧ s.service.mapPendingResponseInfo 1 = none ∧
      s.service.messageQueue = [] ∧
      ¬ Resumable ServiceState.unserializeNothing s := by
  have henter : (syncSystem 10 ServiceState.unserializeNothing 1).Run
      (initial 1) [.enter 1] _ :=
    .single (.enter rfl rfl (by decide) rfl)
  have hadd := Eq.refl (ServiceState.addPendingResponseInfo 10
    { ServiceState.initial 1 with nNextSessionID := 1 } 1
      (syncInvocation heldInvocation 1))
  have hinvoke := henter.snoc (.syncInvoke (by decide) rfl hadd)
  have hdestroy : ∀ u : SyncState, u.service.Running →
      Step 10 ServiceState.unserializeNothing u (.cancel 5)
        { u with service := u.service.delPendingResponseInfo 5 } :=
    fun _ hrunning => .cancel hrunning
  have hcancel := hinvoke.snoc (hdestroy _ rfl)
  refine ⟨_, hcancel, rfl, rfl, rfl, fun hresumable => ?_⟩
  have hlive := (resumable_iff_live (inv_of_run hcancel)).mp hresumable 1 0 rfl
  obtain ⟨sid, p, hp, -⟩ := hlive
  have hholder : (5 : UInt64) ≠ 0 := by decide
  obtain ⟨hdeleted, -⟩ := (inv_of_run
    hinvoke).service.tables.delPendingResponseInfo_spec hholder
  obtain ⟨hbefore, hother⟩ := (hdeleted sid p).mp hp
  obtain ⟨-, hpending, -⟩ := ServiceState.addPendingResponseInfo_spec hadd
  have hnew := (hpending sid).symm.trans hbefore
  split at hnew
  · obtain rfl := Option.some.inj hnew
    exact hother rfl
  · cases hnew

end SyncState

end RealtimeEx.Core
