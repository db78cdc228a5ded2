import Mathlib.Algebra.Order.Ring.Int
import RealtimeEx.Core.FutureInvariant
import RealtimeEx.Support.History

/-!
# Chains of continuations

A future that a continuation returns before it is ready takes over the callback that the
future of the continuation has then.  Nothing is handed on later, neither a continuation that
is attached to the future of the continuation nor the value of the one it has returned.
-/

namespace RealtimeEx.Core.Futures

variable {V : Type} {s : Futures V}

/-- A future is complete: it has a value of its own, or it is the one of a continuation that
has returned a complete future. -/
inductive Complete (s : Futures V) : ℕ → Option V × UInt32 → Prop
  | self {c : ℕ} {x : Option V × UInt32} :
      s.made c = none → (s.context c).outcome = some x → Complete s c x
  | inner {c c' : ℕ} {x : Option V × UInt32} :
      s.inner c = some c' → Complete s c' x → Complete s c x

/-- Every continuation has been called once if the future it is attached to is complete, with
what that future is complete with, and not if it is not; and the futures that are complete
are ready. -/
structure Chained (s : Futures V) : Prop where
  called : ∀ k c, s.predecessor k = some c → ∀ x, s.Complete c x → s.runsOf k = [x]
  waiting : ∀ k c, s.predecessor k = some c → (∀ x, ¬ s.Complete c x) → s.runsOf k = []
  ready : ∀ c x, (s.context c).outcome = some x ↔ s.Complete c x

theorem Complete.mono {t : Futures V}
    (hself : ∀ c x, s.made c = none → (s.context c).outcome = some x →
      t.made c = none ∧ (t.context c).outcome = some x)
    (hinner : ∀ c c', s.inner c = some c' → t.inner c = some c') {c : ℕ}
    {x : Option V × UInt32} (h : s.Complete c x) : t.Complete c x := by
  induction h with
  | self hmade houtcome =>
      obtain ⟨hmade', houtcome'⟩ := hself _ _ hmade houtcome
      exact .self hmade' houtcome'
  | inner hinn _ ih => exact .inner (hinner _ _ hinn) ih

theorem Complete.outcome (hforward : ∀ c c' x, s.inner c = some c' →
      (s.context c').outcome = some x → (s.context c).outcome = some x) {c : ℕ}
    {x : Option V × UInt32} (h : s.Complete c x) : (s.context c).outcome = some x := by
  induction h with
  | self _ houtcome => exact houtcome
  | inner hinn _ ih => exact hforward _ _ _ hinn ih

theorem chained_of (hforward : ∀ c c' x, s.inner c = some c' →
      (s.context c').outcome = some x → (s.context c).outcome = some x)
    (hcomplete : ∀ c x, (s.context c).outcome = some x → s.Complete c x)
    (hruns : ∀ k c, s.predecessor k = some c → s.runsOf k = (s.context c).outcome.toList) :
    s.Chained where
  called k c hpred x hx := by
    rw [hruns k c hpred, hx.outcome hforward]
    rfl
  waiting k c hpred hnot := by
    rw [hruns k c hpred]
    cases houtcome : (s.context c).outcome with
    | none => rfl
    | some x => exact absurd (hcomplete c x houtcome) (hnot x)
  ready c x := ⟨hcomplete c x, Complete.outcome hforward⟩

theorem Chained.runsOf_eq (h : s.Chained) {k : ℕ} {c : ℕ}
    (hpred : s.predecessor k = some c) : s.runsOf k = (s.context c).outcome.toList := by
  cases houtcome : (s.context c).outcome with
  | none =>
    apply h.waiting k c hpred
    intro x hx
    rw [← h.ready, houtcome] at hx
    cases hx
  | some x => exact h.called k c hpred x ((h.ready c x).mp houtcome)

theorem Chained.forward (h : s.Chained) {c d : ℕ} {x : Option V × UInt32}
    (hinner : s.inner c = some d) (houtcome : (s.context d).outcome = some x) :
    (s.context c).outcome = some x :=
  (h.ready c x).mpr (.inner hinner ((h.ready d x).mp houtcome))

/-- The future of a continuation is not ready before the continuation has returned. -/
theorem Chained.outcome_eq_none (h : s.Chained) {p : ℕ} (hmade : s.made p ≠ none)
    (hinner : s.inner p = none) : (s.context p).outcome = none := by
  cases houtcome : (s.context p).outcome with
  | none => rfl
  | some x =>
    cases (h.ready p x).mp houtcome with
    | self hnone _ => exact absurd hnone hmade
    | inner hsome _ => grind

/-- Nothing has happened that a future or a continuation notices. -/
theorem Chained.congr {t : Futures V} (h : s.Chained)
    (houtcome : ∀ c, (t.context c).outcome = (s.context c).outcome)
    (hmade : t.made = s.made) (hinner : t.inner = s.inner)
    (hpredecessor : t.predecessor = s.predecessor) (hstarted : t.started = s.started) :
    t.Chained := by
  apply chained_of
  · intro c c' x hinn hout
    rw [houtcome] at hout ⊢
    rw [hinner] at hinn
    exact h.forward hinn hout
  · intro c x hout
    rw [houtcome] at hout
    refine ((h.ready c x).mp hout).mono ?_ ?_
    · intro c x hmad hout
      rw [hmade, houtcome]
      exact ⟨hmad, hout⟩
    · intro c c' hinn
      rw [hinner]
      exact hinn
  · intro k c hpred
    rw [hpredecessor] at hpred
    rw [houtcome, runsOf, hstarted]
    exact h.runsOf_eq hpred

theorem outcome_makeShared (h : Inv s) (c : ℕ) :
    ((s.makeShared {}).context c).outcome = (s.context c).outcome := by
  by_cases hc : c = s.nContexts
  · have := (h.fresh c hc.ge).1
    rw [this, hc]
    exact congrArg SFutureContext.outcome (Function.update_self _ _ _)
  · exact congrArg SFutureContext.outcome (Function.update_of_ne hc _ _)

theorem context_attach (c : ℕ) (callback : FutureCallback) (c' : ℕ) :
    (s.attach c callback).context c' =
      if c' = c then { s.context c with callback := some callback } else s.context c' :=
  Function.update_apply _ _ _ _

theorem outcome_attach (c : ℕ) (callback : FutureCallback) (c' : ℕ) :
    ((s.attach c callback).context c').outcome = (s.context c').outcome := by
  rw [context_attach]
  split
  · rename_i hc
    rw [hc]
    rfl
  · rfl

theorem context_handOn (p c c' : ℕ) :
    (s.handOn p c).context c' =
      if c' = c then { s.context c with callback := (s.context p).callback }
      else s.context c' :=
  Function.update_apply _ _ _ _

theorem outcome_handOn (p c c' : ℕ) :
    ((s.handOn p c).context c').outcome = (s.context c').outcome := by
  rw [context_handOn]
  split
  · rename_i hc
    rw [hc]
    rfl
  · rfl

theorem chained_newPromise (h : Inv s) (hchained : s.Chained) : s.newPromise.Chained :=
  hchained.congr (outcome_makeShared h) rfl rfl rfl rfl

theorem chained_getFuture (hchained : s.Chained) (c : ℕ) : (s.getFuture c).Chained := by
  rw [getFuture]
  split
  · exact hchained
  · exact hchained.congr (fun _ => rfl) rfl rfl rfl rfl

theorem chained_createFuture (h : Inv s) (hchained : s.Chained) (val : Option V) :
    (s.createFuture val).Chained := by
  have hold : ∀ c, c ≠ s.nContexts → (s.createFuture val).context c = s.context c :=
    fun c hc => Function.update_of_ne hc _ _
  have hfresh := h.fresh s.nContexts le_rfl
  apply chained_of
  · intro c c' x hinner houtcome
    have hc : c ≠ s.nContexts := by
      rintro rfl
      exact absurd (hfresh.2.2.2.2.2.symm.trans hinner) (by simp)
    have hc' : c' ≠ s.nContexts := (h.target c c' hinner).ne
    rw [hold c' hc'] at houtcome
    rw [hold c hc]
    exact hchained.forward hinner houtcome
  · intro c x houtcome
    by_cases hc : c = s.nContexts
    · subst hc
      exact .self hfresh.2.2.2.2.1 houtcome
    · rw [hold c hc] at houtcome
      refine Complete.mono (s := s) (t := s.createFuture val) ?_ (fun _ _ hinner => hinner)
        ((hchained.ready c x).mp houtcome)
      intro c x hmade houtcome
      refine ⟨hmade, ?_⟩
      rw [hold c]
      · exact houtcome
      · rintro rfl
        rw [hfresh.1] at houtcome
        cases houtcome
  · intro k c hpred
    rw [hold c (h.lt_of_predecessor k c hpred).ne]
    exact hchained.runsOf_eq hpred

theorem runCallback_attach (c : ℕ) (callback : FutureCallback) :
    (s.attach c callback).runCallback c =
      (s.attach c callback).run callback (s.context c).val (s.context c).nErrorCode := by
  simp [runCallback, attach, setContext, setHeld]

theorem outcome_of_bReady {pContext : SFutureContext V} (h : pContext.bReady = true) :
    pContext.outcome = some (pContext.val, pContext.nErrorCode) := if_pos h

theorem outcome_of_not_bReady {pContext : SFutureContext V} (h : pContext.bReady = false) :
    pContext.outcome = none := if_neg (by simp [h])

/-- A continuation is attached, and it has been called if the future is ready. -/
theorem chained_attached {t : Futures V} (hchained : s.Chained) {c : ℕ}
    (houtcome : ∀ c', (t.context c').outcome = (s.context c').outcome)
    (hmade : t.made = s.made) (hinner : t.inner = s.inner)
    (hpredecessor : t.predecessor = Function.update s.predecessor s.nContinuations (some c))
    (hruns : ∀ k, t.runsOf k =
      if k = s.nContinuations then (s.context c).outcome.toList else s.runsOf k) :
    t.Chained := by
  apply chained_of
  · intro c₁ c₂ x hinn hout
    rw [houtcome] at hout ⊢
    rw [hinner] at hinn
    exact hchained.forward hinn hout
  · intro c₁ x hout
    rw [houtcome] at hout
    refine ((hchained.ready c₁ x).mp hout).mono ?_ ?_
    · intro c x hmad hout
      rw [hmade, houtcome]
      exact ⟨hmad, hout⟩
    · intro c c' hinn
      rw [hinner]
      exact hinn
  · intro k c₁ hpred
    rw [hruns, houtcome]
    by_cases hk : k = s.nContinuations
    · rw [hpredecessor, hk, Function.update_self, Option.some_inj] at hpred
      rw [if_pos hk, hpred]
    · rw [hpredecessor, Function.update_of_ne hk] at hpred
      rw [if_neg hk]
      exact hchained.runsOf_eq hpred

theorem chained_attach_run (h : Inv s) (hchained : s.Chained) {c : ℕ}
    {callback : FutureCallback} (hnext : callback.continuation = s.nContinuations)
    (hready : (s.context c).bReady = true) : ((s.attach c callback).runCallback c).Chained := by
  rw [runCallback_attach]
  refine chained_attached (c := c) hchained (outcome_attach c callback) rfl rfl rfl ?_
  intro k
  have hfresh := runsOf_eq_nil h (h.freshContinuation s.nContinuations le_rfl)
  rw [runsOf_run, outcome_of_bReady hready, hnext]
  have hattach : (s.attach c callback).runsOf k = s.runsOf k := rfl
  grind

theorem chained_attach (h : Inv s) (hchained : s.Chained) {c : ℕ}
    {callback : FutureCallback} (hready : (s.context c).bReady = false) :
    (s.attach c callback).Chained := by
  refine chained_attached (c := c) hchained (outcome_attach c callback) rfl rfl rfl ?_
  intro k
  have hfresh := runsOf_eq_nil h (h.freshContinuation s.nContinuations le_rfl)
  rw [outcome_of_not_bReady hready]
  have hattach : (s.attach c callback).runsOf k = s.runsOf k := rfl
  grind

theorem inv_attach_run (h : Inv s) {c : ℕ} (hheld : s.held c = true) {callback : FutureCallback}
    (hnext : callback.continuation = s.nContinuations)
    (hmade : ∀ k p, callback = .callback1 k p → s.made p = some k) :
    Inv ((s.attach c callback).runCallback c) := by
  rw [runCallback_attach]
  apply inv_run (inv_attach h hheld hnext hmade)
  · rw [hnext]
    intro hnone
    have hsome : (s.attach c callback).predecessor s.nContinuations = some c :=
      Function.update_self _ _ _
    rw [hsome] at hnone
    cases hnone
  · rw [hnext]
    exact runsOf_eq_nil h (h.freshContinuation s.nContinuations le_rfl)
  · exact hmade

theorem inv_then (h : Inv s) {c : ℕ} (hheld : s.held c = true) : Inv (s.then c) := by
  simp only [«then»]
  have hmade : ∀ k p, FutureCallback.fn s.nContinuations = .callback1 k p → s.made p = some k :=
    fun _ _ heq => by cases heq
  split
  · exact inv_attach_run h hheld rfl hmade
  · exact inv_attach h hheld rfl hmade

theorem chained_then (h : Inv s) (hchained : s.Chained) (c : ℕ) : (s.then c).Chained := by
  simp only [«then», bReady_attach]
  split
  · rename_i hready
    exact chained_attach_run h hchained rfl hready
  · rename_i hready
    exact chained_attach h hchained (by simpa using hready)

/-- What `then_r` makes before it attaches `callback_1`. -/
def outer (s : Futures V) : Futures V :=
  { s.makeShared {} with made := Function.update s.made s.nContexts (some s.nContinuations) }

theorem inv_outer (h : Inv s) : Inv s.outer := by
  obtain ⟨_, hpromise, _, _, hmade, hinner⟩ := h.fresh s.nContexts le_rfl
  exact inv_made (inv_makeShared h rfl rfl) _ (Nat.lt_succ_self _) hpromise hmade hinner

theorem chained_outer (h : Inv s) (hchained : s.Chained) : s.outer.Chained := by
  have houtcome : ∀ c, (s.outer.context c).outcome = (s.context c).outcome :=
    outcome_makeShared h
  apply chained_of
  · intro c c' x hinn hout
    rw [houtcome] at hout ⊢
    exact hchained.forward hinn hout
  · intro c x hout
    rw [houtcome] at hout
    refine Complete.mono (s := s) (t := s.outer) ?_ (fun _ _ hinner => hinner)
      ((hchained.ready c x).mp hout)
    intro c x hmade hout
    rw [houtcome]
    have hne : c ≠ s.nContexts := by
      rintro rfl
      rw [(h.fresh _ le_rfl).1] at hout
      cases hout
    exact ⟨(Function.update_of_ne hne _ _).trans hmade, hout⟩
  · intro k c hpred
    rw [houtcome]
    exact hchained.runsOf_eq hpred

theorem thenR_of_not_bReady {c : ℕ} (hready : (s.context c).bReady = false) :
    s.thenR c =
      (s.outer.attach c (.callback1 s.nContinuations s.nContexts)).setHeld s.nContexts true := by
  rw [thenR, hready]
  rfl

theorem inv_thenR (h : Inv s) {c : ℕ} (hheld : s.held c = true) : Inv (s.thenR c) := by
  cases hready : (s.context c).bReady with
  | true =>
    rw [thenR, if_pos hready]
    exact inv_attach_run h hheld rfl fun _ _ heq => by cases heq
  | false =>
    have hlt := h.lt_of_held hheld
    have hfresh := h.fresh s.nContexts le_rfl
    have hattached : Inv (s.outer.attach c (.callback1 s.nContinuations s.nContexts)) := by
      apply inv_attach (inv_outer h) hheld rfl
      intro k p heq
      cases heq
      exact Function.update_self _ _ _
    have hcontext : (s.outer.attach c (.callback1 s.nContinuations s.nContexts)).context
        s.nContexts = {} := by
      rw [context_attach, if_neg hlt.ne']
      exact Function.update_self _ _ _
    rw [thenR_of_not_bReady hready]
    apply inv_setHeld hattached
    · exact Nat.lt_succ_self _
    · rw [hcontext]
    · intro k hpred
      obtain ⟨callback, hcallback, _⟩ := hattached.attached k _ hpred
      rw [hcontext] at hcallback
      cases hcallback
    · intro o hinner
      exact absurd (h.target o _ hinner) (lt_irrefl _)
    · intro hpromise
      exact absurd (hfresh.2.1.symm.trans hpromise) Bool.false_ne_true

theorem chained_thenR (h : Inv s) (hchained : s.Chained) {c : ℕ} (hlt : c < s.nContexts) :
    (s.thenR c).Chained := by
  cases hready : (s.context c).bReady with
  | true =>
    rw [thenR, if_pos hready]
    exact chained_attach_run h hchained rfl hready
  | false =>
    rw [thenR_of_not_bReady hready]
    have hready' : (s.outer.context c).bReady = false :=
      (congrArg SFutureContext.bReady (Function.update_of_ne hlt.ne _ _)).trans hready
    exact (chained_attach (inv_outer h) (chained_outer h hchained) hready').congr
      (fun _ => rfl) rfl rfl rfl rfl

/-! ## Futures that become ready -/

theorem Inv.made_ne_none (h : Inv s) {o c : ℕ} (hinner : s.inner o = some c) :
    s.made o ≠ none := by
  obtain ⟨k, hmade, _⟩ := h.finished o c hinner
  rw [hmade]
  exact Option.some_ne_none k

/-- The future of a continuation is ready when the one that it has returned is. -/
theorem Chained.outcome_inner (hchained : s.Chained) (h : Inv s) {o c : ℕ}
    (hinner : s.inner o = some c) : (s.context o).outcome = (s.context c).outcome := by
  cases houtcome : (s.context c).outcome with
  | some x => exact hchained.forward hinner houtcome
  | none =>
    cases houter : (s.context o).outcome with
    | none => rfl
    | some x =>
      cases (hchained.ready o x).mp houter with
      | self hmade _ => exact absurd hmade (h.made_ne_none hinner)
      | inner hinner' hcomplete =>
        obtain rfl := Option.some_inj.mp (hinner.symm.trans hinner')
        rw [(hchained.ready c x).mpr hcomplete] at houtcome
        cases houtcome

/-- The callback of a future that no other is forwarded to is the one of the continuation
attached to it. -/
theorem runsOf_runCallback (h : Inv s) {t : Futures V} {c d : ℕ}
    (hcallback : (t.context d).callback = (s.context c).callback)
    (hstarted : t.started = s.started) (htarget : ∀ o, s.inner o ≠ some c) (k : ℕ) :
    (t.runCallback d).runsOf k =
      if s.predecessor k = some c then
        s.runsOf k ++ [((t.context d).val, (t.context d).nErrorCode)]
      else s.runsOf k := by
  have hruns : t.runsOf k = s.runsOf k := by rw [runsOf, hstarted, runsOf]
  rw [runCallback, hcallback]
  cases hsome : (s.context c).callback with
  | none =>
    have hpred : s.predecessor k ≠ some c := by
      intro hpred
      obtain ⟨callback, hattached, _⟩ := h.attached k c hpred
      rw [hsome] at hattached
      cases hattached
    rw [if_neg hpred]
    exact hruns
  | some callback =>
    have hpred := (h.stored c callback hsome).resolve_right fun hinner => hinner.elim htarget
    have hiff : callback.continuation = k ↔ s.predecessor k = some c := by
      constructor
      · rintro rfl
        exact hpred
      · intro hk
        obtain ⟨callback', hattached, hcontinuation⟩ := h.attached k c hk
        rw [hsome, Option.some_inj] at hattached
        rw [hattached, hcontinuation]
    simp only [runsOf_run, hiff, hruns]

theorem inv_runCallback (h : Inv s) {c : ℕ}
    (hfirst : ∀ callback, (s.context c).callback = some callback →
      s.predecessor callback.continuation ≠ none ∧ s.runsOf callback.continuation = []) :
    Inv (s.runCallback c) := by
  rw [runCallback]
  split
  · exact h
  · rename_i callback hcallback
    obtain ⟨hpred, hruns⟩ := hfirst callback hcallback
    exact inv_run h hpred hruns fun k p heq => h.outerStored c k p (heq ▸ hcallback)

/-- A future that no other is forwarded to becomes ready. -/
theorem chained_becameReady {t : Futures V} (hchained : s.Chained) {c : ℕ}
    {x : Option V × UInt32} (hpending : (s.context c).outcome = none)
    (htarget : ∀ o, s.inner o ≠ some c)
    (houtcome : ∀ c', (t.context c').outcome =
      if c' = c then some x else (s.context c').outcome)
    (hmade : t.made = s.made) (hinner : ∀ c', c' ≠ c → t.inner c' = s.inner c')
    (hbefore : ∀ c', s.inner c = some c' → t.inner c = some c')
    (hforward : ∀ c' y, t.inner c = some c' → (t.context c').outcome = some y → y = x)
    (hcomplete : t.Complete c x) (hpredecessor : t.predecessor = s.predecessor)
    (hruns : ∀ k, t.runsOf k =
      if s.predecessor k = some c then s.runsOf k ++ [x] else s.runsOf k) :
    t.Chained := by
  apply chained_of
  · intro c₁ c₂ y hinn hout
    by_cases hc₁ : c₁ = c
    · subst hc₁
      rw [houtcome, if_pos rfl, hforward c₂ y hinn hout]
    · rw [hinner c₁ hc₁] at hinn
      have hc₂ : c₂ ≠ c := by
        rintro rfl
        exact htarget c₁ hinn
      rw [houtcome, if_neg hc₂] at hout
      rw [houtcome, if_neg hc₁]
      exact hchained.forward hinn hout
  · intro c₁ y hout
    rw [houtcome] at hout
    split at hout
    · rename_i hc₁
      obtain rfl := Option.some_inj.mp hout
      rw [hc₁]
      exact hcomplete
    · refine Complete.mono (s := s) ?_ ?_ ((hchained.ready c₁ y).mp hout)
      · intro c₂ z hmad hout₂
        have hc₂ : c₂ ≠ c := by
          rintro rfl
          rw [hpending] at hout₂
          cases hout₂
        rw [hmade, houtcome, if_neg hc₂]
        exact ⟨hmad, hout₂⟩
      · intro c₂ c₃ hinn
        by_cases hc₂ : c₂ = c
        · rw [hc₂] at hinn ⊢
          exact hbefore c₃ hinn
        · rw [hinner c₂ hc₂]
          exact hinn
  · intro k c₁ hpred
    rw [hpredecessor] at hpred
    have hold := hchained.runsOf_eq hpred
    rw [hruns, houtcome, hpred]
    by_cases hc₁ : c₁ = c
    · rw [hc₁, hpending] at hold
      rw [if_pos (congrArg some hc₁), if_pos hc₁, hold]
      rfl
    · rw [if_neg (fun heq => hc₁ (Option.some_inj.mp heq)), if_neg hc₁, hold]

/-- The state in which `setValue` calls the callback. -/
def fulfilled (s : Futures V) (c : ℕ) (val : Option V) (nErrorCode : UInt32) : Futures V :=
  s.setContext c { s.context c with val, nErrorCode, bReady := true }

theorem context_setContext (c : ℕ) (pContext : SFutureContext V) (c' : ℕ) :
    (s.setContext c pContext).context c' = if c' = c then pContext else s.context c' :=
  Function.update_apply _ _ _ _

section

variable {c : ℕ} {val : Option V} {nErrorCode : UInt32}

theorem setValue_of_not_bReady (h : Inv s) (hready : (s.context c).bReady = false) :
    s.setValue c val nErrorCode = (s.fulfilled c val nErrorCode).runCallback c := by
  have hwait : ((s.fulfilled c val nErrorCode).context c).nCoroutineID = 0 := by
    rw [fulfilled, context_setContext, if_pos rfl]
    exact h.nobodyWaits c
  rw [setValue, if_neg (by simp [hready])]
  exact if_neg (not_not.mpr hwait)

@[simp] theorem made_runCallback (c : ℕ) : (s.runCallback c).made = s.made := by
  rw [runCallback]
  split
  · rfl
  · rfl

@[simp] theorem inner_runCallback (c : ℕ) : (s.runCallback c).inner = s.inner := by
  rw [runCallback]
  split
  · rfl
  · rfl

@[simp] theorem predecessor_runCallback (c : ℕ) :
    (s.runCallback c).predecessor = s.predecessor := by
  rw [runCallback]
  split
  · rfl
  · rfl

theorem outcome_fulfilled (c' : ℕ) :
    ((s.fulfilled c val nErrorCode).context c').outcome =
      if c' = c then some (val, nErrorCode) else (s.context c').outcome := by
  rw [fulfilled, context_setContext]
  split
  · rfl
  · rfl

theorem inv_setValue (h : Inv s) (hchained : s.Chained) (hpromise : s.promise c = true)
    (htarget : (s.context c).bReady = false → ∀ o, s.inner o ≠ some c) :
    Inv (s.setValue c val nErrorCode) := by
  cases hready : (s.context c).bReady with
  | true =>
    rw [setValue, if_pos hready]
    exact h
  | false =>
    rw [setValue_of_not_bReady h hready]
    apply inv_runCallback (inv_setContext h (h.lt_of_promise hpromise))
    intro callback hcallback
    have hstored : (s.context c).callback = some callback := by
      rwa [context_setContext, if_pos rfl] at hcallback
    have hpred := (h.stored c callback hstored).resolve_right fun ⟨o, ho⟩ => htarget hready o ho
    have hruns := hchained.runsOf_eq hpred
    rw [outcome_of_not_bReady hready] at hruns
    refine ⟨?_, hruns⟩
    intro hnone
    rw [show s.predecessor _ = none from hnone] at hpred
    cases hpred

theorem chained_setValue (h : Inv s) (hchained : s.Chained) (hpromise : s.promise c = true)
    (htarget : (s.context c).bReady = false → ∀ o, s.inner o ≠ some c) :
    (s.setValue c val nErrorCode).Chained := by
  cases hready : (s.context c).bReady with
  | true =>
    rw [setValue, if_pos hready]
    exact hchained
  | false =>
    have hown := h.own c hpromise
    have hnone : ∀ c', s.inner c ≠ some c' := fun c' hinner => h.made_ne_none hinner hown
    rw [setValue_of_not_bReady h hready]
    refine chained_becameReady (c := c) (x := (val, nErrorCode)) hchained
      (outcome_of_not_bReady hready) (htarget hready) ?_ ?_ ?_ ?_ ?_ ?_ ?_ ?_
    · intro c'
      rw [context_runCallback, outcome_fulfilled]
    · exact made_runCallback c
    · intro c' _
      rw [inner_runCallback]
      rfl
    · intro c' hinner
      exact absurd hinner (hnone c')
    · intro c' y hinner _
      rw [inner_runCallback] at hinner
      exact absurd hinner (hnone c')
    · apply Complete.self
      · rw [made_runCallback]
        exact hown
      · rw [context_runCallback, outcome_fulfilled, if_pos rfl]
    · exact predecessor_runCallback c
    · intro k
      have hcontext : (s.fulfilled c val nErrorCode).context c =
          { s.context c with val, nErrorCode, bReady := true } := by
        rw [fulfilled, context_setContext, if_pos rfl]
      have hruns := runsOf_runCallback h (t := s.fulfilled c val nErrorCode) (c := c) (d := c)
        (by rw [hcontext]) rfl (htarget hready) k
      rwa [hcontext] at hruns

/-- The future of a continuation does not follow the one that it has returned. -/
theorem not_chained_setValue (h : Inv s) (hchained : s.Chained) (hpromise : s.promise c = true)
    (hready : (s.context c).bReady = false) {o : ℕ} (htarget : s.inner o = some c) :
    ¬ (s.setValue c val nErrorCode).Chained := by
  intro hafter
  have hne : o ≠ c := by
    rintro rfl
    exact h.made_ne_none htarget (h.own o hpromise)
  have hpending := hchained.outcome_inner h htarget
  rw [outcome_of_not_bReady hready] at hpending
  have hforward := hafter.forward (c := o) (d := c) (x := (val, nErrorCode))
  rw [setValue_of_not_bReady h hready, context_runCallback, inner_runCallback,
    outcome_fulfilled, outcome_fulfilled, if_pos rfl, if_neg hne, hpending] at hforward
  cases hforward htarget rfl

end

section

variable {k p c : ℕ}

theorem context_handOn_copyValue (c' : ℕ) :
    ((s.handOn p c).copyValue p c).context c' =
      if c' = p then
        { (s.handOn p c).context p with
          bReady := ((s.handOn p c).context c).bReady
          val := ((s.handOn p c).context c).val
          nErrorCode := ((s.handOn p c).context c).nErrorCode }
      else (s.handOn p c).context c' :=
  Function.update_apply _ _ _ _

theorem outcome_handOn_copyValue (c' : ℕ) :
    (((s.handOn p c).copyValue p c).context c').outcome =
      if c' = p then (s.context c).outcome else (s.context c').outcome := by
  rw [context_handOn_copyValue]
  split
  · exact outcome_handOn p c c
  · exact outcome_handOn p c c'

/-- What is called when the future that is returned is ready. -/
theorem context_handOn_copyValue_of_ne (hne : c ≠ p) :
    ((s.handOn p c).copyValue p c).context c =
      { s.context c with callback := (s.context p).callback } := by
  rw [context_handOn_copyValue, if_neg hne, context_handOn, if_pos rfl]

theorem bReady_handOn_copyValue :
    (((s.handOn p c).copyValue p c).context c).bReady = (s.context c).bReady := by
  have hcopied : ((s.handOn p c).context c).bReady = (s.context c).bReady := by
    rw [context_handOn, if_pos rfl]
  rw [context_handOn_copyValue]
  split
  · exact hcopied
  · exact hcopied

theorem returned1_some :
    s.returned1 p (some c) =
      if (s.context c).bReady then ((s.handOn p c).copyValue p c).runCallback c
      else (s.handOn p c).copyValue p c := by
  rw [← bReady_handOn_copyValue (p := p)]
  rfl

variable (h : Inv s) (hchained : s.Chained) (hheld : s.held c = true)
  (hinner : s.inner p = none) (hmade : s.made p = some k) (hruns : s.runsOf k ≠ [])
  (hnot : k ∉ s.running.map FutureCallback.continuation)

include hchained hinner hmade in
theorem outcome_outer : (s.context p).outcome = none :=
  hchained.outcome_eq_none (by rw [hmade]; exact Option.some_ne_none k) hinner

include h hheld hinner hmade hruns hnot in
theorem inv_handOn_copyValue : Inv ((s.handOn p c).copyValue p c) := by
  apply inv_setContext (inv_handOn h hheld hinner hmade hruns hnot)
  by_contra hle
  have hfresh := h.fresh p (Nat.le_of_not_lt hle)
  rw [hfresh.2.2.2.2.1] at hmade
  cases hmade

include h hchained hheld hinner hmade hruns hnot in
theorem inv_returned1 (htarget : (s.context c).bReady = true → ∀ o, s.inner o ≠ some p) :
    Inv (s.returned1 p (some c)) := by
  have hcopied := inv_handOn_copyValue h hheld hinner hmade hruns hnot
  rw [returned1_some]
  split
  · rename_i hready
    have hpending := outcome_outer hchained hinner hmade
    have hne : c ≠ p := by
      rintro rfl
      rw [outcome_of_bReady hready] at hpending
      cases hpending
    apply inv_runCallback hcopied
    intro callback hcallback
    rw [context_handOn_copyValue_of_ne hne] at hcallback
    have hpred :=
      (h.stored p callback hcallback).resolve_right fun ⟨o, ho⟩ => htarget hready o ho
    have hfirst := hchained.runsOf_eq hpred
    rw [hpending] at hfirst
    refine ⟨?_, hfirst⟩
    intro hnone
    rw [show s.predecessor _ = none from hnone] at hpred
    cases hpred
  · exact hcopied

include h hchained hinner hmade in
theorem chained_returned1 (htarget : (s.context c).bReady = true → ∀ o, s.inner o ≠ some p) :
    (s.returned1 p (some c)).Chained := by
  have hpending := outcome_outer hchained hinner hmade
  have hself : ((s.handOn p c).copyValue p c).inner p = some c := Function.update_self _ _ _
  have hother : ∀ c', c' ≠ p → ((s.handOn p c).copyValue p c).inner c' = s.inner c' :=
    fun c' hne => Function.update_of_ne hne _ _
  have hbefore : ∀ c', s.inner p ≠ some c' := by
    intro c' hsome
    rw [hinner] at hsome
    cases hsome
  rw [returned1_some]
  split
  · rename_i hready
    have hne : c ≠ p := by
      rintro rfl
      rw [outcome_of_bReady hready] at hpending
      cases hpending
    have houtcome := outcome_of_bReady hready
    refine chained_becameReady (c := p) (x := ((s.context c).val, (s.context c).nErrorCode))
      hchained hpending (htarget hready) ?_ ?_ ?_ ?_ ?_ ?_ ?_ ?_
    · intro c'
      rw [context_runCallback, outcome_handOn_copyValue, houtcome]
    · exact made_runCallback c
    · intro c' hc'
      rw [inner_runCallback, hother c' hc']
    · intro c' hsome
      exact absurd hsome (hbefore c')
    · intro c' y hsome hy
      rw [inner_runCallback, hself, Option.some_inj] at hsome
      rw [context_runCallback, outcome_handOn_copyValue, ← hsome, if_neg hne, houtcome,
        Option.some_inj] at hy
      exact hy.symm
    · apply Complete.inner
      · rw [inner_runCallback]
        exact hself
      · refine Complete.mono (s := s) ?_ ?_ ((hchained.ready c _).mp houtcome)
        · intro c' y hnone hy
          have hc' : c' ≠ p := by
            rintro rfl
            rw [hpending] at hy
            cases hy
          rw [made_runCallback, context_runCallback, outcome_handOn_copyValue, if_neg hc']
          exact ⟨hnone, hy⟩
        · intro c₁ c₂ hsome
          have hc₁ : c₁ ≠ p := by
            rintro rfl
            exact hbefore c₂ hsome
          rw [inner_runCallback, hother c₁ hc₁]
          exact hsome
    · exact predecessor_runCallback c
    · intro k'
      have hcontext := context_handOn_copyValue_of_ne (s := s) hne
      have hrun := runsOf_runCallback h (t := (s.handOn p c).copyValue p c) (c := p) (d := c)
        (by rw [hcontext]) rfl (htarget hready) k'
      rwa [hcontext] at hrun
  · rename_i hready
    have hnone : (s.context c).outcome = none := outcome_of_not_bReady (by simpa using hready)
    have hsame : ∀ c', (((s.handOn p c).copyValue p c).context c').outcome =
        (s.context c').outcome := by
      intro c'
      rw [outcome_handOn_copyValue]
      split
      · rename_i hc'
        rw [hc', hpending, hnone]
      · rfl
    apply chained_of
    · intro c₁ c₂ y hsome hy
      rw [hsame] at hy ⊢
      by_cases hc₁ : c₁ = p
      · rw [hc₁, hself, Option.some_inj] at hsome
        rw [← hsome, hnone] at hy
        cases hy
      · rw [hother c₁ hc₁] at hsome
        exact hchained.forward hsome hy
    · intro c₁ y hy
      rw [hsame] at hy
      refine Complete.mono (s := s) ?_ ?_ ((hchained.ready c₁ y).mp hy)
      · intro c₂ z hmad hz
        rw [hsame]
        exact ⟨hmad, hz⟩
      · intro c₂ c₃ hsome
        have hc₂ : c₂ ≠ p := by
          rintro rfl
          exact hbefore c₃ hsome
        rw [hother c₂ hc₂]
        exact hsome
    · intro k' c₁ hpred
      rw [hsame]
      exact hchained.runsOf_eq hpred

include h hchained hinner hmade in
/-- Nor does one that it has been returned to. -/
theorem not_chained_returned1 (hready : (s.context c).bReady = true) {o : ℕ}
    (htarget : s.inner o = some p) : ¬ (s.returned1 p (some c)).Chained := by
  intro hafter
  have hpending := outcome_outer hchained hinner hmade
  have hne : o ≠ p := by
    rintro rfl
    rw [hinner] at htarget
    cases htarget
  have houter := hchained.outcome_inner h htarget
  have hinn : ((s.handOn p c).copyValue p c).inner o = some p :=
    (Function.update_of_ne hne _ _).trans htarget
  have hforward := hafter.forward (c := o) (d := p)
    (x := ((s.context c).val, (s.context c).nErrorCode))
  rw [returned1_some, if_pos hready, context_runCallback, inner_runCallback,
    outcome_handOn_copyValue, outcome_handOn_copyValue, if_pos rfl, if_neg hne, houter,
    hpending] at hforward
  cases hforward hinn (outcome_of_bReady hready)

end

/-! ## Steps -/

/-- No future becomes ready that a continuation has returned to `callback_1` before. -/
def Unforwarded (s : Futures V) : Op V → Prop
  | .setValue c _ _ =>
      s.promise c = true → (s.context c).bReady = false → ∀ o, s.inner o ≠ some c
  | .return (some c) =>
      s.held c = true → (s.context c).bReady = true → ∀ k p,
        s.running.head? = some (.callback1 k p) → ∀ o, s.inner o ≠ some p
  | _ => True

theorem chained_pop (hchained : s.Chained) (running : List FutureCallback) :
    Chained { s with running } :=
  hchained.congr (fun _ => rfl) rfl rfl rfl rfl

/-- A future of a new context. -/
theorem inv_makeShared_setHeld (h : Inv s) {pContext : SFutureContext V}
    (hcallback : pContext.callback = none) (hwait : pContext.nCoroutineID = 0) :
    Inv ((s.makeShared pContext).setHeld s.nContexts true) := by
  have hcontext : (s.makeShared pContext).context s.nContexts = pContext :=
    Function.update_self _ _ _
  apply inv_setHeld (inv_makeShared h hcallback hwait) (Nat.lt_succ_self _)
  · rw [hcontext]
    exact hcallback
  · intro k hpred
    exact absurd (h.lt_of_predecessor k _ hpred) (lt_irrefl _)
  · intro o hinner
    exact absurd (h.target o _ hinner) (lt_irrefl _)
  · intro hpromise
    exact absurd ((h.fresh _ le_rfl).2.1.symm.trans hpromise) Bool.false_ne_true

theorem returned0_some (h : Inv s) {c : ℕ} (hheld : s.held c = true) :
    s.returned0 (some c) = s := by
  have hsame : ({ s.context c with callback := none } : SFutureContext V) = s.context c := by
    rw [← (h.unused c (.inl hheld)).1]
  rw [returned0, hsame, setContext, Function.update_eq_self]

section

variable {k p : ℕ} {running : List FutureCallback}

/-- A `callback_1` that is running has not returned a future yet. -/
theorem Inv.inner_of_running (h : Inv s) (hrunning : s.running = .callback1 k p :: running) :
    s.made p = some k ∧ s.inner p = none ∧ s.runsOf k ≠ [] ∧
      k ∉ running.map FutureCallback.continuation := by
  have hmem : FutureCallback.callback1 k p ∈ s.running := by
    rw [hrunning]
    exact List.mem_cons_self
  have hmade := h.outerRunning k p hmem
  have hnodup := h.nodup
  rw [hrunning] at hnodup
  refine ⟨hmade, ?_, h.running _ hmem, (List.nodup_cons.mp hnodup).1⟩
  by_contra hsome
  obtain ⟨c, hinner⟩ := Option.ne_none_iff_exists'.mp hsome
  obtain ⟨k', hmade', _, hnot⟩ := h.finished p c hinner
  obtain rfl := Option.some_inj.mp (hmade.symm.trans hmade')
  exact hnot (List.mem_map_of_mem hmem)

end

theorem inv_return (h : Inv s) (hchained : s.Chained) {sNewFuture : Option ℕ}
    (hheld : ∀ c ∈ sNewFuture, s.held c = true)
    (hmeets : s.Unforwarded (.return sNewFuture)) : Inv (s.return sNewFuture) := by
  rw [«return»]
  split
  · exact h
  · rename_i hrunning
    exact inv_pop h hrunning
  · rename_i hrunning
    have hpop := inv_pop h hrunning
    cases sNewFuture with
    | none => exact inv_makeShared_setHeld hpop rfl rfl
    | some c =>
      rw [returned0_some hpop (hheld c rfl)]
      exact hpop
  · rename_i k p running hrunning
    have hpop := inv_pop h hrunning
    obtain ⟨hmade, hinner, hruns, hnot⟩ := h.inner_of_running hrunning
    cases sNewFuture with
    | none => exact hpop
    | some c =>
      refine inv_returned1 hpop (chained_pop hchained running) (hheld c rfl) hinner hmade hruns
        hnot fun hready => ?_
      exact hmeets (hheld c rfl) hready k p (by rw [hrunning]; rfl)

theorem unforwarded_return_of_ne {sNewFuture : Option ℕ}
    (hne : ∀ k p, s.running.head? ≠ some (.callback1 k p)) :
    s.Unforwarded (.return sNewFuture) := by
  cases sNewFuture with
  | none => trivial
  | some c => exact fun _ _ k p hhead => absurd hhead (hne k p)

theorem chained_return_iff (h : Inv s) (hchained : s.Chained) {sNewFuture : Option ℕ}
    (hheld : ∀ c ∈ sNewFuture, s.held c = true) :
    (s.return sNewFuture).Chained ↔ s.Unforwarded (.return sNewFuture) := by
  rw [«return»]
  split
  · rename_i hrunning
    exact iff_of_true hchained (unforwarded_return_of_ne fun k p => by simp [hrunning])
  · rename_i hrunning
    exact iff_of_true (chained_pop hchained _)
      (unforwarded_return_of_ne fun k p => by simp [hrunning])
  · rename_i running hrunning
    have hpop := inv_pop h hrunning
    refine iff_of_true ?_ (unforwarded_return_of_ne fun k p => by simp [hrunning])
    cases sNewFuture with
    | none => exact (chained_pop hchained running).congr (outcome_makeShared hpop) rfl rfl rfl rfl
    | some c =>
      rw [returned0_some hpop (hheld c rfl)]
      exact chained_pop hchained running
  · rename_i k p running hrunning
    have hpop := inv_pop h hrunning
    have hchained' := chained_pop hchained running
    obtain ⟨hmade, hinner, hruns, hnot⟩ := h.inner_of_running hrunning
    cases sNewFuture with
    | none => exact iff_of_true hchained' trivial
    | some c =>
      constructor
      · intro hafter _ hready k' p' hhead o htarget
        rw [hrunning, List.head?_cons, Option.some_inj] at hhead
        cases hhead
        exact not_chained_returned1 hpop hchained' hinner hmade hready htarget hafter
      · intro hmeets
        refine chained_returned1 hpop hchained' hinner hmade fun hready => ?_
        exact hmeets (hheld c rfl) hready k p (by rw [hrunning]; rfl)

theorem inv_step (h : Inv s) (hchained : s.Chained) {op : Op V} (hmeets : s.Unforwarded op) :
    Inv (s.step op) := by
  rw [step]
  split
  · rename_i hallowed
    cases op with
    | newPromise => exact inv_newPromise h
    | getFuture c => exact inv_getFuture h hallowed
    | setValue c val nErrorCode => exact inv_setValue h hchained hallowed (hmeets hallowed)
    | createFuture val => exact inv_makeShared_setHeld h rfl rfl
    | «then» c => exact inv_then h hallowed
    | thenR c => exact inv_thenR h hallowed
    | «return» sNewFuture => exact inv_return h hchained hallowed hmeets
  · exact h

theorem unforwarded_of_not_allowed {op : Op V} (hallowed : ¬ s.Allowed op) :
    s.Unforwarded op := by
  cases op with
  | setValue c val nErrorCode => exact fun hpromise => absurd hpromise hallowed
  | «return» sNewFuture =>
    cases sNewFuture with
    | none => trivial
    | some c =>
      intro hheld
      refine absurd ?_ hallowed
      rintro c' ⟨⟩
      exact hheld
  | newPromise => trivial
  | getFuture c => trivial
  | createFuture val => trivial
  | «then» c => trivial
  | thenR c => trivial

/-- A step keeps the property if and only if it makes no future ready that has been
forwarded to another. -/
theorem chained_step_iff (h : Inv s) (hchained : s.Chained) {op : Op V} :
    (s.step op).Chained ↔ s.Unforwarded op := by
  rw [step]
  split
  · rename_i hallowed
    cases op with
    | newPromise => exact iff_of_true (chained_newPromise h hchained) trivial
    | getFuture c => exact iff_of_true (chained_getFuture hchained c) trivial
    | setValue c val nErrorCode =>
      constructor
      · intro hafter _ hready o htarget
        exact not_chained_setValue h hchained hallowed hready htarget hafter
      · intro hmeets
        exact chained_setValue h hchained hallowed (hmeets hallowed)
    | createFuture val => exact iff_of_true (chained_createFuture h hchained val) trivial
    | «then» c => exact iff_of_true (chained_then h hchained c) trivial
    | thenR c => exact iff_of_true (chained_thenR h hchained (h.lt_of_held hallowed)) trivial
    | «return» sNewFuture => exact chained_return_iff h hchained hallowed
  · rename_i hallowed
    exact iff_of_true hchained (unforwarded_of_not_allowed hallowed)

theorem chained_init : ({} : Futures V).Chained := by
  apply chained_of
  · intro c c' x hinner
    cases hinner
  · intro c x houtcome
    cases houtcome
  · intro k c hpred
    cases hpred

/-- The chains of a client are kept throughout if and only if no step makes a future ready
that a continuation has returned to `callback_1` before. -/
theorem chained_throughout_iff (ops : List (Op V)) :
    (∀ ks, ks <+: ops → Chained (ks.foldl step ({} : Futures V))) ↔
      Meets step Unforwarded {} ops := by
  apply throughout_iff_of_kept (I := Inv) (P := Chained)
  · intro s op h hchained hmeets
    exact inv_step h hchained hmeets
  · intro s op h hchained
    exact chained_step_iff h hchained
  · exact inv_init
  · exact chained_init

/-- A continuation returns the future of a promise, the next one is attached to its own future,
and the promise is fulfilled. -/
def lateThen : List (Op ℕ) :=
  [.newPromise, .getFuture 0, .thenR 0, .newPromise, .getFuture 2, .setValue 0 (some 100) 0,
    .return (some 2), .then 1, .setValue 2 (some 800) 0]

/-- The next continuation is not called. -/
theorem not_chained_lateThen :
    ¬ ∀ ks, ks <+: lateThen → Chained (ks.foldl step ({} : Futures ℕ)) := by
  intro h
  have hchained := h lateThen (List.prefix_refl _)
  have hcomplete : Complete (lateThen.foldl step {}) 1 (some 800, 0) :=
    .inner (show (lateThen.foldl step {}).inner 1 = some 2 from rfl) (.self rfl rfl)
  have hcalled := hchained.called 1 1 rfl _ hcomplete
  cases hcalled

end RealtimeEx.Core.Futures
