import RealtimeEx.Core.PendingResponseInvariant

/-!
# Answers to requests

Along every run the callback of a request runs at most once, and never after
its holder was cancelled.  A timeout is another matter: its ticker fires once,
so it has been unregistered when the manager's callback asks it for its
context, and the session it is told is zero.  No timeout is ever answered.
-/

set_option linter.unusedSectionVars false

namespace RealtimeEx.Core

open Base (TickerMgr)

namespace ServiceState

variable {μ : Type*} {nDefaultTimeout : UInt32}
  {unserialize : UInt8 → List UInt8 → List UInt8 → Option μ}
  {s s' : ServiceState} {l : Label μ} {ls : List (Label μ)}

/-! ## What a step may do -/

/-- An entry that exists no more. -/
def Dead (s : ServiceState) (entry : ℕ) : Prop :=
  entry < s.nextEntry ∧
    ∀ sid p, s.mapPendingResponseInfo sid = some p → p.entry ≠ entry

/-- What the label of a step says about the entries. -/
structure Effect (s : ServiceState) (l : Label μ) (s' : ServiceState) :
    Prop where
  nextEntry_le : s.nextEntry ≤ s'.nextEntry
  pending : ∀ sid p, s'.mapPendingResponseInfo sid = some p →
    s.mapPendingResponseInfo sid = some p ∨
      (l = .request p.entry sid p.nHolderID ∧ p.entry = s.nextEntry)
  request : ∀ entry sid holder, l = .request entry sid holder →
    entry = s.nextEntry ∧ entry < s'.nextEntry
  response : ∀ entry message nResult, l = .response entry message nResult →
    (∃ sid p, s.mapPendingResponseInfo sid = some p ∧ p.entry = entry) ∧
      s'.Dead entry
  cancel : ∀ holder, l = .cancel holder → holder ≠ 0 →
    ∀ sid p, s'.mapPendingResponseInfo sid = some p → p.nHolderID ≠ holder

theorem Effect.of_eq
    (hpending : s'.mapPendingResponseInfo = s.mapPendingResponseInfo)
    (hentry : s'.nextEntry = s.nextEntry)
    (hl : l = .other ∨ ∃ entry sent, l = .timeout entry sent) :
    Effect s l s' where
  nextEntry_le := hentry.ge
  pending sid p hp := Or.inl (by rw [← hpending]; exact hp)
  request := by
    rintro entry sid holder rfl
    rcases hl with hl | ⟨_, _, hl⟩ <;> cases hl
  response := by
    rintro entry message nResult rfl
    rcases hl with hl | ⟨_, _, hl⟩ <;> cases hl
  cancel := by
    rintro holder rfl
    rcases hl with hl | ⟨_, _, hl⟩ <;> cases hl

theorem effect_invoke {i : Invocation}
    (hadd : { s with nNextSessionID := s.genSessionID
      }.addPendingResponseInfo nDefaultTimeout s.genSessionID i = some s') :
    Effect s (.request s.nextEntry s.genSessionID i.nHolderID : Label μ)
      s' := by
  obtain ⟨-, hpending, -, hentry, -⟩ := addPendingResponseInfo_spec hadd
  constructor
  · rw [hentry]
    exact Nat.le_succ _
  · intro sid p hp
    rw [hpending] at hp
    split at hp
    · rename_i heq
      cases hp
      exact Or.inr ⟨by rw [heq]; rfl, rfl⟩
    · exact Or.inl hp
  · rintro entry sid holder heq
    cases heq
    exact ⟨rfl, by rw [hentry]; exact Nat.lt_succ_self _⟩
  · intro entry message nResult heq
    cases heq
  · intro holder heq
    cases heq

theorem effect_cancel (h : s.Inv) (nHolderID : UInt64) :
    Effect s (.cancel nHolderID : Label μ)
      (s.delPendingResponseInfo nHolderID) := by
  by_cases hne : nHolderID = 0
  · subst hne
    rw [delPendingResponseInfo_zero h.tables]
    constructor
    · exact Nat.le_refl _
    · exact fun sid p hp => Or.inl hp
    · intro entry sid holder heq
      cases heq
    · intro entry message nResult heq
      cases heq
    · intro holder heq hzero
      cases heq
      exact absurd rfl hzero
  · obtain ⟨hpending, -, hentry⟩ := h.tables.delPendingResponseInfo_spec hne
    constructor
    · exact hentry.ge
    · exact fun sid p hp => Or.inl ((hpending sid p).mp hp).1
    · intro entry sid holder heq
      cases heq
    · intro entry message nResult heq
      cases heq
    · intro holder heq _ sid p hp
      cases heq
      exact ((hpending sid p).mp hp).2

/-- The entry whose callback runs has been taken out of the table. -/
theorem effect_dispatch (h : s.Inv) {context : ResponseContext}
    {rest : List ServicePacket} {p : PendingResponseInfo}
    {message : Option μ}
    (hfind : s.findResponse unserialize context = some (p, message)) :
    Effect s
      (if p.callback then .response p.entry message context.nResult
        else .other)
      { s.getPendingResponseInfo p with
        messageQueue := rest
        dispatching := some p } := by
  have hp := pending_of_findResponse hfind
  obtain ⟨hsid, -⟩ := h.tables.session _ p hp
  have hkeep : ∀ sid q, (s.getPendingResponseInfo p).mapPendingResponseInfo
      sid = some q →
        sid ≠ p.nSessionID ∧ s.mapPendingResponseInfo sid = some q := by
    intro sid q hq
    rw [(getPendingResponseInfo_spec s p).1] at hq
    split at hq
    · cases hq
    · rename_i hne
      exact ⟨hne, hq⟩
  constructor
  · exact Nat.le_refl _
  · exact fun sid q hq => Or.inl (hkeep sid q hq).2
  · intro entry sid holder heq
    split at heq <;> cases heq
  · intro entry message' nResult heq
    split at heq
    · cases heq
      refine ⟨⟨_, p, hp, rfl⟩, h.tables.entry_lt _ p hp, ?_⟩
      intro sid q hq hentry
      obtain ⟨hne, hq'⟩ := hkeep sid q hq
      have heq := h.tables.entry_inj sid _ q p hq' hp hentry
      exact hne (heq.trans hsid.symm)
    · cases heq
  · intro holder heq
    split at heq <;> cases heq

theorem Inv.effect (h : s.Inv)
    (hstep : Step nDefaultTimeout unserialize s l s') : Effect s l s' := by
  cases hstep with
  | invoke hrunning hadd => exact effect_invoke hadd
  | invokeFailed => exact .of_eq rfl rfl (.inl rfl)
  | cancel => exact effect_cancel h _
  | arrive => exact .of_eq rfl rfl (.inl rfl)
  | dispatchOther => exact .of_eq rfl rfl (.inl rfl)
  | dispatchUnknown => exact .of_eq rfl rfl (.inl rfl)
  | dispatch hphase hidle hqueue hfind => exact effect_dispatch h hfind
  | dispatched => exact .of_eq rfl rfl (.inl rfl)
  | tick => exact .of_eq rfl rfl (.inl rfl)
  | timeout => exact .of_eq rfl rfl (.inr ⟨_, _, rfl⟩)

/-- The ticker of a timeout tells the service nothing. -/
theorem timeoutSent_eq_none (h : s.Inv) {id entry time : ℕ}
    {nContext : UInt64} {t : TickerMgr ServiceTicker}
    (htick : TickerMgr.Step s.tickerMgr
      (.dispatch id (.timeout entry) nContext time) t) :
    s.timeoutSent nContext = none := by
  obtain ⟨n, hnode, hticker, rfl⟩ := TickerMgr.exists_node_of_dispatch htick
  have honce := h.tickers.once id n _ hnode hticker entry rfl
  rw [TickerMgr.dispatchContext_of_once h.tickers.callback honce]
  unfold timeoutSent
  cases hp : s.mapPendingResponseInfo 0 with
  | none => rfl
  | some p => exact absurd rfl (h.tables.session 0 p hp).2

theorem Inv.sent_eq_none (h : s.Inv)
    (hstep : Step nDefaultTimeout unserialize s l s')
    {entry : ℕ} {sent : Option ResponseContext}
    (hl : l = .timeout entry sent) : sent = none := by
  cases hstep with
  | timeout htick =>
      cases hl
      exact timeoutSent_eq_none h htick
  | dispatch => split at hl <;> cases hl
  | _ => cases hl

/-! ## Dead entries stay dead -/

/-- The results an entry's callback was given, in order. -/
def responses (entry : ℕ) (ls : List (Label μ)) : List UInt32 :=
  ls.filterMap fun l =>
    match l with
    | .response other _ nResult => if other = entry then some nResult else none
    | _ => none

theorem responses_append (entry : ℕ) (ls ks : List (Label μ)) :
    responses entry (ls ++ ks) = responses entry ls ++ responses entry ks :=
  List.filterMap_append

theorem responses_singleton (entry : ℕ) (l : Label μ) :
    responses entry [l] = [] ∨
      ∃ message nResult, l = .response entry message nResult ∧
        responses entry [l] = [nResult] := by
  match l with
  | .response other message nResult =>
      by_cases heq : other = entry
      · subst heq
        exact Or.inr ⟨message, nResult, rfl, by simp [responses]⟩
      · exact Or.inl (by simp [responses, heq])
  | .request .. => exact Or.inl rfl
  | .cancel _ => exact Or.inl rfl
  | .timeout .. => exact Or.inl rfl
  | .other => exact Or.inl rfl

theorem Dead.step {entry : ℕ} (h : s.Dead entry) (heffect : Effect s l s') :
    s'.Dead entry ∧ responses entry [l] = [] := by
  constructor
  · refine ⟨h.1.trans_le heffect.nextEntry_le, ?_⟩
    intro sid p hp
    rcases heffect.pending sid p hp with hold | ⟨-, hnew⟩
    · exact h.2 sid p hold
    · rw [hnew]
      exact h.1.ne'
  · rcases responses_singleton entry l with hnil | ⟨message, nResult, hl, -⟩
    · exact hnil
    · obtain ⟨⟨sid, p, hp, hentry⟩, -⟩ := heffect.response _ _ _ hl
      exact absurd hentry (h.2 sid p hp)

/-- No callback of a dead entry runs. -/
theorem Dead.responses_eq_nil {time : ℕ} {entry : ℕ}
    (hs : s.Inv) (h : s.Dead entry)
    (hrun : (serviceSystem nDefaultTimeout unserialize time).Run s ls s') :
    s'.Dead entry ∧ responses entry ls = [] := by
  have hinv : ∀ {t : ServiceState} {ks : List (Label μ)},
      (serviceSystem nDefaultTimeout unserialize time).Run s ks t → t.Inv :=
    fun hprev => hprev.invariant (fun _ _ _ h hstep => h.step hstep) hs
  induction hrun with
  | nil => exact ⟨h, rfl⟩
  | snoc hprev hstep ih =>
      obtain ⟨hdead, hnil⟩ := ih
      obtain ⟨hdead', hnil'⟩ := hdead.step ((hinv hprev).effect hstep)
      refine ⟨hdead', ?_⟩
      rw [responses_append, hnil, hnil', List.nil_append]

/-! ## Runs of the service -/

section

variable {time : ℕ} {s₀ : ServiceState}

/-- A callback runs at most once, and its entry is gone afterwards. -/
theorem responses_of_run
    (hinit : (serviceSystem nDefaultTimeout unserialize time).init s₀)
    (hrun : (serviceSystem nDefaultTimeout unserialize time).Run s₀ ls s)
    (entry : ℕ) :
    (responses entry ls).length ≤ 1 ∧
      (responses entry ls ≠ [] → s.Dead entry) := by
  induction hrun with
  | nil => exact ⟨by simp [responses], fun hne => absurd rfl hne⟩
  | @snoc _ _ ks _ hprev hstep ih =>
      obtain ⟨hone, hdead⟩ := ih
      have heffect := (inv_of_run hinit hprev).effect hstep
      rw [responses_append]
      rcases responses_singleton entry _ with hnil | ⟨message, r, hl, hself⟩
      · rw [hnil, List.append_nil]
        exact ⟨hone, fun hne => ((hdead hne).step heffect).1⟩
      · obtain ⟨⟨sid, p, hp, hentry⟩, hdead'⟩ := heffect.response _ _ _ hl
        have hfresh : responses entry ks = [] := by
          by_contra hne
          exact (hdead hne).2 sid p hp hentry
        rw [hfresh, hself]
        exact ⟨Nat.le_refl _, fun _ => hdead'⟩

/-- Requests are made with a fresh entry, which keeps its holder. -/
theorem request_of_run
    (hinit : (serviceSystem nDefaultTimeout unserialize time).init s₀)
    (hrun : (serviceSystem nDefaultTimeout unserialize time).Run s₀ ls s)
    {entry : ℕ} {sid holder : UInt64}
    (hmem : .request entry sid holder ∈ ls) :
    entry < s.nextEntry ∧ ∀ sid' p, s.mapPendingResponseInfo sid' = some p →
      p.entry = entry → p.nHolderID = holder := by
  induction hrun with
  | nil => cases hmem
  | snoc hprev hstep ih =>
      have heffect := (inv_of_run hinit hprev).effect hstep
      rcases List.mem_append.mp hmem with hold | hnew
      · obtain ⟨hlt, hholder⟩ := ih hold
        refine ⟨hlt.trans_le heffect.nextEntry_le, fun sid' p hp hentry => ?_⟩
        rcases heffect.pending sid' p hp with hp' | ⟨-, hfresh⟩
        · exact hholder sid' p hp' hentry
        · omega
      · have hl := (List.mem_singleton.mp hnew).symm
        obtain ⟨hentry, hlt⟩ := heffect.request _ _ _ hl
        refine ⟨hlt, fun sid' p hp heq => ?_⟩
        rcases heffect.pending sid' p hp with hp' | ⟨hl', -⟩
        · have hlt' := (inv_of_run hinit hprev).tables.entry_lt sid' p hp'
          omega
        · rw [hl] at hl'
          cases hl'
          rfl

/-- After its holder was cancelled no callback of a request runs. -/
theorem responses_after_cancel {pre post : List (Label μ)}
    {entry : ℕ} {sid holder : UInt64}
    (hinit : (serviceSystem nDefaultTimeout unserialize time).init s₀)
    (hrun : (serviceSystem nDefaultTimeout unserialize time).Run s₀
      (pre ++ .cancel holder :: post) s)
    (hne : holder ≠ 0) (hmem : .request entry sid holder ∈ pre) :
    responses entry post = [] := by
  obtain ⟨r, hpre, hrest⟩ := hrun.append_inv
  obtain ⟨r', hstep, hpost⟩ := hrest.cons_inv
  have hr := inv_of_run hinit hpre
  have heffect := hr.effect hstep
  obtain ⟨hlt, hholder⟩ := request_of_run hinit hpre hmem
  have hdead : r'.Dead entry := by
    refine ⟨hlt.trans_le heffect.nextEntry_le, fun sid' p hp hentry => ?_⟩
    have hp' : r.mapPendingResponseInfo sid' = some p := by
      rcases heffect.pending sid' p hp with hp' | ⟨hl, -⟩
      · exact hp'
      · cases hl
    exact heffect.cancel holder rfl hne sid' p hp (hholder sid' p hp' hentry)
  exact (hdead.responses_eq_nil (hr.step hstep) hpost).2

/-- A timeout never sends anything. -/
theorem sent_eq_none_of_run {entry : ℕ} {sent : Option ResponseContext}
    (hinit : (serviceSystem nDefaultTimeout unserialize time).init s₀)
    (hrun : (serviceSystem nDefaultTimeout unserialize time).Run s₀ ls s)
    (hmem : .timeout entry sent ∈ ls) : sent = none := by
  induction hrun with
  | nil => cases hmem
  | snoc hprev hstep ih =>
      rcases List.mem_append.mp hmem with hold | hnew
      · exact ih hold
      · exact (inv_of_run hinit hprev).sent_eq_none hstep
          (List.mem_singleton.mp hnew).symm

/-- The discipline of requests: a callback runs at most once and its entry is
gone then; it does not run after its holder was cancelled; a timeout posts the
response that stands for it, which waits in the queue as long as the entry is
there. -/
structure Discipline (ls : List (Label μ)) (s : ServiceState) : Prop where
  once : ∀ entry, (responses entry ls).length ≤ 1
  gone : ∀ entry, responses entry ls ≠ [] →
    ∀ sid p, s.mapPendingResponseInfo sid = some p → p.entry ≠ entry
  cancelled : ∀ pre post entry sid holder,
    ls = pre ++ .cancel holder :: post → holder ≠ 0 →
      .request entry sid holder ∈ pre → responses entry post = []
  timedOut : ∀ entry sent, .timeout entry sent ∈ ls →
    ∃ context holder, sent = some context ∧
      context.nResult = eRRT_TIME_OUT ∧
      .request entry context.nSessionID holder ∈ ls
  answered : ∀ entry context, .timeout entry (some context) ∈ ls →
    ∀ sid p, s.mapPendingResponseInfo sid = some p → p.entry = entry →
      .response context ∈ s.messageQueue

/-- The requests of a run are answered as they should be exactly when no
timeout has fired. -/
theorem discipline_iff
    (hinit : (serviceSystem nDefaultTimeout unserialize time).init s₀)
    (hrun : (serviceSystem nDefaultTimeout unserialize time).Run s₀ ls s) :
    Discipline ls s ↔ ∀ entry sent, .timeout entry sent ∉ ls := by
  constructor
  · intro h entry sent hmem
    obtain ⟨context, holder, hsent, -⟩ := h.timedOut entry sent hmem
    rw [sent_eq_none_of_run hinit hrun hmem] at hsent
    cases hsent
  · intro hnone
    constructor
    · exact fun entry => (responses_of_run hinit hrun entry).1
    · exact fun entry hne => ((responses_of_run hinit hrun entry).2 hne).2
    · rintro pre post entry sid holder rfl hne hmem
      exact responses_after_cancel hinit hrun hne hmem
    · exact fun entry sent hmem => absurd hmem (hnone entry sent)
    · exact fun entry context hmem => absurd hmem (hnone entry _)

end

/-! ## A request that is answered, and one that times out -/

/-- A request without a holder that times out after one tick. -/
def plainInvocation : Invocation where
  nToServiceID := 7
  nCoroutineID := 0
  callback := true
  nTimeout := 1
  nHolderID := 0

/-- The answer to the first request of a service. -/
def plainResponse : ResponseContext where
  nSessionID := 1
  nFromServiceID := 7
  nMessageSerializerType := 0
  nResult := 1
  messageName := []
  messageData := []

/-- No message can be read. -/
def unserializeNothing : UInt8 → List UInt8 → List UInt8 → Option Unit :=
  fun _ _ _ => none

theorem discipline_iff_answered :
    ∃ s, Discipline
      ([.request 0 1 0, .other, .response 0 none 1, .other] :
        List (Label Unit)) s := by
  have hinvoke : (serviceSystem 10 unserializeNothing 1).Run (initial 1)
      [.request 0 1 0] _ :=
    .single (.invoke (i := plainInvocation) rfl rfl)
  have harrive := hinvoke.snoc (.arrive (.response plainResponse))
  have hdispatch := harrive.snoc
    (.dispatch rfl rfl rfl rfl)
  have hdone := hdispatch.snoc (.dispatched rfl rfl)
  exact ⟨_, (discipline_iff rfl hdone).mpr (by simp [plainInvocation])⟩

/-- The timeout of the first request fires: nothing is sent, the request stays
in the table, and its ticker will not fire again. -/
theorem not_discipline_timedOut :
    ∃ s : ServiceState, (serviceSystem 10 unserializeNothing 1).Run (initial 1)
        [.request 0 1 0, .other, .other, .other, .other, .other,
          .timeout 0 none] s ∧
      ¬ Discipline ([.request 0 1 0, .other, .other, .other, .other, .other,
          .timeout 0 none] : List (Label Unit)) s ∧
      (s.mapPendingResponseInfo 1).isSome ∧ s.messageQueue = [] ∧
      s.tickerMgr.coreContext (.timeout 0) = none := by
  have hinvoke : (serviceSystem 10 unserializeNothing 1).Run (initial 1)
      [.request 0 1 0] _ :=
    .single (.invoke (i := plainInvocation) rfl rfl)
  have hupdate := hinvoke.snoc
    (.tick (l := .update 2) (.update rfl) rfl fun _ _ => rfl)
  have henter := hupdate.snoc
    (.tick (.enter rfl (by decide)) rfl fun _ h => by cases h)
  have hdrained := henter.snoc
    (.tick (.drained rfl rfl) rfl fun _ h => by cases h)
  have hadvance := hdrained.snoc
    (.tick (.advance rfl rfl) rfl fun _ h => by cases h)
  have henter' := hadvance.snoc
    (.tick (.enter rfl (by decide)) rfl fun _ h => by cases h)
  have htimeout := henter'.snoc
    (.timeout (.dispatch (n := ⟨some (ServiceTicker.timeout 0), 2, 0, 1⟩)
      rfl rfl rfl rfl))
  refine ⟨_, htimeout, fun h => ?_, rfl, rfl, rfl⟩
  obtain ⟨context, holder, hsent, -⟩ := h.timedOut 0 none (by simp)
  cases hsent

end ServiceState

end RealtimeEx.Core
