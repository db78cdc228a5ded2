import Mathlib.Algebra.Order.Ring.Int
import RealtimeEx.Core.CallbackLifetime

/-!
# Callbacks that outlive their suspension

Every object has one owner: a ticker, the service, the table of pending responses or the
function that is going to destroy it.  What that function has deferred is used by the current
coroutine alone.
-/

namespace RealtimeEx.Core.CallbackThread

variable {s : CallbackThread}

/-- Who owns what, whatever has been destroyed. -/
structure Inv (s : CallbackThread) : Prop where
  fresh : ∀ o, s.destroyed o = true → o.number < s.nObjects
  ticker : ∀ nTicker o, s.tickerObject nTicker = some o →
    ∃ n < s.nObjects, o = .ticker nTicker n ∧ s.destroyed o = false
  service : ∀ notice o, s.fnService notice = some o →
    ∃ n < s.nObjects, o = .service notice n ∧ s.destroyed o = false
  pending : ∀ sid p, s.mapPendingResponseInfo sid = some p →
    ∃ n < s.nObjects, p.object = .pendingResponseInfo n ∧ s.destroyed p.object = false ∧
      s.Unused p.object ∧ p.object ∉ s.deferred
  session : ∀ sid sid' p p', s.mapPendingResponseInfo sid = some p →
    s.mapPendingResponseInfo sid' = some p' → p.object = p'.object → sid = sid'
  used : ∀ c x, s.unfinished c = some x → c ≤ s.nCoroutines ∧
    ∀ o ∈ x.objects, o.number < s.nObjects
  deferred : ∀ o ∈ s.deferred, o.number < s.nObjects ∧ s.destroyed o = false ∧
    ((∃ n, o = .pendingResponseInfo n) ∨ ∃ n, o = .serviceContext n) ∧
      ∀ c x, s.unfinished c = some x → o ∈ x.objects → s.current = some c
  idle : s.current = none → s.deferred = []

theorem inv_init : Inv {} where
  fresh o h := by simp at h
  ticker nTicker o h := by simp [tickerObject] at h
  service notice o h := by simp at h
  pending sid p h := by simp at h
  session sid sid' p p' h := by simp at h
  used c x h := by simp at h
  deferred o h := by simp at h
  idle _ := rfl

theorem outlives_init : Outlives {} := by
  intro c x h
  cases h

/-! ## Destroying -/

theorem destroyed_destroy_eq_false {objects : List CallbackObject} {o : CallbackObject} :
    (s.destroy objects).destroyed o = false ↔ s.destroyed o = false ∧ o ∉ objects := by
  simp [destroy]

theorem outlives_destroy_iff (objects : List CallbackObject) :
    (s.destroy objects).Outlives ↔ s.Outlives ∧ ∀ o ∈ objects, s.Unused o := by
  simp only [Outlives, Unused, destroy, Bool.or_eq_false_iff, decide_eq_false_iff_not]
  grind

/-- The owner of some objects destroys them. -/
theorem inv_destroy (h : Inv s) {objects : List CallbackObject}
    (hnumber : ∀ o ∈ objects, o.number < s.nObjects)
    (hticker : ∀ o ∈ objects, ∀ nTicker, s.tickerObject nTicker ≠ some o)
    (hservice : ∀ o ∈ objects, ∀ notice, s.fnService notice ≠ some o)
    (hpending : ∀ o ∈ objects, ∀ sid p, s.mapPendingResponseInfo sid = some p → p.object ≠ o)
    (hdeferred : ∀ o ∈ objects, o ∉ s.deferred) : Inv (s.destroy objects) where
  fresh o ho := by
    by_cases hmem : o ∈ objects
    · exact hnumber o hmem
    · apply h.fresh o
      by_contra hd
      have hnot := destroyed_destroy_eq_false.mpr ⟨Bool.not_eq_true _ ▸ hd, hmem⟩
      rw [hnot] at ho
      cases ho
  ticker nTicker o ho := by
    obtain ⟨n, hn, hobject, hd⟩ := h.ticker nTicker o ho
    exact ⟨n, hn, hobject, destroyed_destroy_eq_false.mpr
      ⟨hd, fun hmem => hticker o hmem nTicker ho⟩⟩
  service notice o ho := by
    obtain ⟨n, hn, hobject, hd⟩ := h.service notice o ho
    exact ⟨n, hn, hobject, destroyed_destroy_eq_false.mpr
      ⟨hd, fun hmem => hservice o hmem notice ho⟩⟩
  pending sid p hp := by
    obtain ⟨n, hn, hobject, hd, hrest⟩ := h.pending sid p hp
    exact ⟨n, hn, hobject, destroyed_destroy_eq_false.mpr
      ⟨hd, fun hmem => hpending _ hmem sid p hp rfl⟩, hrest⟩
  session := h.session
  used := h.used
  deferred o ho := by
    obtain ⟨hn, hd, hrest⟩ := h.deferred o ho
    exact ⟨hn, destroyed_destroy_eq_false.mpr ⟨hd, fun hmem => hdeferred o hmem ho⟩, hrest⟩
  idle := h.idle

theorem Inv.not_destroyed (h : Inv s) {o : CallbackObject} (hnumber : s.nObjects ≤ o.number) :
    s.destroyed o = false := by
  cases hd : s.destroyed o with
  | false => rfl
  | true => exact absurd (h.fresh o hd) (Nat.not_lt.mpr hnumber)

theorem Inv.unused (h : Inv s) {o : CallbackObject} (hnumber : s.nObjects ≤ o.number) :
    s.Unused o :=
  fun c x hx ho => absurd ((h.used c x hx).2 o ho) (Nat.not_lt.mpr hnumber)

/-! ## Owners -/

section

variable {o : CallbackObject}

/-- A ticker, a service, an entry and the deferred destruction each own objects of their
own kinds only. -/
theorem Inv.tickerObject_ne (h : Inv s) (ho : ∀ nTicker n, o ≠ .ticker nTicker n)
    (nTicker : ℕ) : s.tickerObject nTicker ≠ some o := by
  intro heq
  obtain ⟨n, -, hobject, -⟩ := h.ticker nTicker o heq
  exact ho nTicker n hobject

theorem Inv.fnService_ne (h : Inv s) (ho : ∀ notice n, o ≠ .service notice n)
    (notice : NoticeCommand) : s.fnService notice ≠ some o := by
  intro heq
  obtain ⟨n, -, hobject, -⟩ := h.service notice o heq
  exact ho notice n hobject

theorem Inv.object_ne (h : Inv s) (ho : ∀ n, o ≠ .pendingResponseInfo n) {sid : UInt64}
    {p : PendingCallback} (hp : s.mapPendingResponseInfo sid = some p) : p.object ≠ o := by
  rintro rfl
  obtain ⟨n, -, hobject, -⟩ := h.pending sid p hp
  exact ho n hobject

theorem Inv.not_mem_deferred (h : Inv s) (hpending : ∀ n, o ≠ .pendingResponseInfo n)
    (hcontext : ∀ n, o ≠ .serviceContext n) : o ∉ s.deferred := by
  intro hmem
  obtain ⟨-, -, ⟨n, hobject⟩ | ⟨n, hobject⟩, -⟩ := h.deferred o hmem
  · exact hpending n hobject
  · exact hcontext n hobject

end

/-- There is a new object. -/
theorem inv_nObjects (h : Inv s) : Inv { s with nObjects := s.nObjects + 1 } where
  fresh o ho := Nat.lt_succ_of_lt (h.fresh o ho)
  ticker nTicker o ho := by
    obtain ⟨n, hn, hrest⟩ := h.ticker nTicker o ho
    exact ⟨n, Nat.lt_succ_of_lt hn, hrest⟩
  service notice o ho := by
    obtain ⟨n, hn, hrest⟩ := h.service notice o ho
    exact ⟨n, Nat.lt_succ_of_lt hn, hrest⟩
  pending sid p hp := by
    obtain ⟨n, hn, hrest⟩ := h.pending sid p hp
    exact ⟨n, Nat.lt_succ_of_lt hn, hrest⟩
  session := h.session
  used c x hx := by
    obtain ⟨hc, hnumber⟩ := h.used c x hx
    exact ⟨hc, fun o ho => Nat.lt_succ_of_lt (hnumber o ho)⟩
  deferred o ho := by
    obtain ⟨hn, hrest⟩ := h.deferred o ho
    exact ⟨Nat.lt_succ_of_lt hn, hrest⟩
  idle := h.idle

theorem tickerObject_update (nTicker : ℕ) (pTicker : Option TickerCallback) (nTicker' : ℕ) :
    tickerObject { s with ticker := Function.update s.ticker nTicker pTicker } nTicker' =
      if nTicker' = nTicker then pTicker.bind TickerCallback.callback
      else s.tickerObject nTicker' := by
  simp only [tickerObject, Function.update_apply]
  split
  · rfl
  · rfl

/-- A ticker has another function, or none any more. -/
theorem inv_ticker (h : Inv s) {nTicker : ℕ} {pTicker : Option TickerCallback}
    (hnew : ∀ o, pTicker.bind TickerCallback.callback = some o →
      ∃ n < s.nObjects, o = .ticker nTicker n ∧ s.destroyed o = false) :
    Inv { s with ticker := Function.update s.ticker nTicker pTicker } where
  __ := h
  ticker nTicker' o ho := by
    rw [tickerObject_update] at ho
    split at ho
    · rename_i heq
      rw [heq]
      exact hnew o ho
    · exact h.ticker nTicker' o ho

theorem inv_service (h : Inv s) {notice : NoticeCommand} {fn : Option CallbackObject}
    (hnew : ∀ o, fn = some o →
      ∃ n < s.nObjects, o = .service notice n ∧ s.destroyed o = false) :
    Inv { s with fnService := Function.update s.fnService notice fn } where
  __ := h
  service notice' o ho := by
    simp only [Function.update_apply] at ho
    split at ho
    · rename_i heq
      rw [heq]
      exact hnew o ho
    · exact h.service notice' o ho

/-- A function that its ticker has no more is owned by nobody. -/
theorem inv_destroy_ticker (h : Inv s) {nTicker n : ℕ} (hn : n < s.nObjects)
    (hnot : s.tickerObject nTicker ≠ some (.ticker nTicker n)) :
    Inv (s.destroy [.ticker nTicker n]) := by
  apply inv_destroy h <;> intro o ho <;> rw [List.mem_singleton] at ho <;> subst ho
  · exact hn
  · intro nTicker' heq
    obtain ⟨n', _, hobject, _⟩ := h.ticker nTicker' _ heq
    cases hobject
    exact hnot heq
  · exact h.fnService_ne (by simp)
  · exact fun _ _ => h.object_ne (by simp)
  · exact h.not_mem_deferred (by simp) (by simp)

theorem inv_destroy_service (h : Inv s) {notice : NoticeCommand} {n : ℕ} (hn : n < s.nObjects)
    (hnot : s.fnService notice ≠ some (.service notice n)) :
    Inv (s.destroy [.service notice n]) := by
  apply inv_destroy h <;> intro o ho <;> rw [List.mem_singleton] at ho <;> subst ho
  · exact hn
  · exact h.tickerObject_ne (by simp)
  · intro notice' heq
    obtain ⟨n', _, hobject, _⟩ := h.service notice' _ heq
    cases hobject
    exact hnot heq
  · exact fun _ _ => h.object_ne (by simp)
  · exact h.not_mem_deferred (by simp) (by simp)

theorem inv_destroy_nil (h : Inv s) : Inv (s.destroy []) := by
  apply inv_destroy h <;> intro o ho <;> cases ho

/-- The old function of a ticker is destroyed when it has another one. -/
theorem inv_replaceTicker (h : Inv s) {nTicker : ℕ} {pTicker : Option TickerCallback}
    {o : Option CallbackObject}
    (hold : ∀ o' ∈ o, ∃ n < s.nObjects, o' = .ticker nTicker n)
    (hother : ∀ o' ∈ o, pTicker.bind TickerCallback.callback ≠ some o')
    (hnew : ∀ o', pTicker.bind TickerCallback.callback = some o' →
      ∃ n < s.nObjects, o' = .ticker nTicker n ∧ s.destroyed o' = false) :
    Inv ({ s with ticker := Function.update s.ticker nTicker pTicker }.destroy o.toList) := by
  have hafter := inv_ticker h hnew
  cases o with
  | none => exact inv_destroy_nil hafter
  | some o =>
    obtain ⟨n, hn, rfl⟩ := hold o rfl
    apply inv_destroy_ticker hafter hn
    rw [tickerObject_update, if_pos rfl]
    exact hother _ rfl

theorem inv_setCallback (h : Inv s) (nTicker : ℕ) (callback bCoroutine : Bool) :
    Inv (s.setCallback nTicker callback bCoroutine) := by
  apply inv_replaceTicker (inv_nObjects h)
  · intro o ho
    obtain ⟨n, hn, hobject, _⟩ := h.ticker nTicker o ho
    exact ⟨n, Nat.lt_succ_of_lt hn, hobject⟩
  · intro o ho heq
    obtain ⟨n, hn, rfl, _⟩ := h.ticker nTicker o ho
    cases callback with
    | false => cases heq
    | true =>
      cases heq
      exact absurd hn (lt_irrefl _)
  · intro o heq
    cases callback with
    | false => cases heq
    | true =>
      cases heq
      exact ⟨s.nObjects, Nat.lt_succ_self _, rfl, h.not_destroyed le_rfl⟩

theorem inv_deleteTicker (h : Inv s) (nTicker : ℕ) : Inv (s.deleteTicker nTicker) := by
  apply inv_replaceTicker h
  · intro o ho
    obtain ⟨n, hn, hobject, _⟩ := h.ticker nTicker o ho
    exact ⟨n, hn, hobject⟩
  · intro o _ heq
    cases heq
  · intro o heq
    cases heq

theorem inv_setServiceCallback (h : Inv s) (notice : NoticeCommand) (callback : Bool) :
    Inv (s.setServiceCallback notice callback) := by
  have hafter : Inv { s with
      nObjects := s.nObjects + 1
      fnService := Function.update s.fnService notice
        (if callback then some (.service notice s.nObjects) else none) } := by
    apply inv_service (inv_nObjects h)
    intro o heq
    cases callback with
    | false => cases heq
    | true =>
      cases heq
      exact ⟨s.nObjects, Nat.lt_succ_self _, rfl, h.not_destroyed le_rfl⟩
  cases hold : s.fnService notice with
  | none =>
    rw [setServiceCallback, hold]
    exact inv_destroy_nil hafter
  | some o =>
    obtain ⟨n, hn, rfl, _⟩ := h.service notice o hold
    rw [setServiceCallback, hold]
    apply inv_destroy_service hafter (Nat.lt_succ_of_lt hn)
    intro heq
    simp only [Function.update_self] at heq
    cases callback with
    | false => cases heq
    | true =>
      cases heq
      exact absurd hn (lt_irrefl _)

/-! ## Pending responses -/

theorem inv_addPendingResponseInfo (h : Inv s) (nSessionID : UInt64) (nCoroutineID : ℕ)
    (callback : Bool) : Inv (s.addPendingResponseInfo nSessionID nCoroutineID callback) := by
  rw [addPendingResponseInfo]
  split
  · exact h
  · have hold : ∀ sid p, s.mapPendingResponseInfo sid = some p →
        p.object ≠ .pendingResponseInfo s.nObjects := by
      intro sid p hp heq
      obtain ⟨n, hn, hobject, _⟩ := h.pending sid p hp
      rw [hobject] at heq
      cases heq
      exact absurd hn (lt_irrefl _)
    exact
      { __ := inv_nObjects h
        pending := by
          intro sid p hp
          simp only [Function.update_apply] at hp
          split at hp
          · cases hp
            refine ⟨s.nObjects, Nat.lt_succ_self _, rfl, h.not_destroyed le_rfl,
              h.unused le_rfl, fun hmem => ?_⟩
            exact absurd (h.deferred _ hmem).1 (lt_irrefl _)
          · exact (inv_nObjects h).pending sid p hp
        session := by
          intro sid sid' p p' hp hp' heq
          simp only [Function.update_apply] at hp hp'
          have := h.session sid sid' p p'
          have := hold sid p
          have := hold sid' p'
          grind }

/-- An entry is taken out of the table. -/
theorem inv_erasePending (h : Inv s) (nSessionID : UInt64) : Inv (s.erasePending nSessionID) where
  __ := h
  pending sid p hp := by
    simp only [erasePending, Function.update_apply] at hp
    split at hp
    · cases hp
    · exact h.pending sid p hp
  session sid sid' p p' hp hp' heq := by
    simp only [erasePending, Function.update_apply] at hp hp'
    have := h.session sid sid' p p'
    grind

/-- An entry that is in no table any more is destroyed. -/
theorem inv_destroy_pending (h : Inv s) {n : ℕ} (hn : n < s.nObjects)
    (hnot : ∀ sid p, s.mapPendingResponseInfo sid = some p →
      p.object ≠ .pendingResponseInfo n)
    (hdeferred : .pendingResponseInfo n ∉ s.deferred) :
    Inv (s.destroy [.pendingResponseInfo n]) := by
  apply inv_destroy h <;> intro o ho <;> rw [List.mem_singleton] at ho <;> subst ho
  · exact hn
  · exact h.tickerObject_ne (by simp)
  · exact h.fnService_ne (by simp)
  · exact hnot
  · exact hdeferred

/-- What is known of an entry that has been taken out of the table. -/
theorem erased_of_pending (h : Inv s) {sid : UInt64} {p : PendingCallback}
    (hp : s.mapPendingResponseInfo sid = some p) :
    ∃ n < s.nObjects, p.object = .pendingResponseInfo n ∧ s.destroyed p.object = false ∧
      s.Unused p.object ∧ p.object ∉ s.deferred ∧
        ∀ sid' p', (s.erasePending sid).mapPendingResponseInfo sid' = some p' →
          p'.object ≠ p.object := by
  obtain ⟨n, hn, hobject, hd, hunused, hnot⟩ := h.pending sid p hp
  refine ⟨n, hn, hobject, hd, hunused, hnot, ?_⟩
  intro sid' p' hp' heq
  simp only [erasePending, Function.update_apply] at hp'
  split at hp'
  · cases hp'
  · rename_i hne
    exact hne (h.session sid' sid p' p hp' hp heq)

theorem inv_delPendingSession (h : Inv s) (nSessionID : UInt64) :
    Inv (s.delPendingSession nSessionID) := by
  rw [delPendingSession]
  split
  · exact h
  · rename_i p hp
    obtain ⟨n, hn, hobject, _, _, hnot, hother⟩ := erased_of_pending h hp
    rw [hobject] at hnot hother ⊢
    exact inv_destroy_pending (inv_erasePending h nSessionID) hn hother hnot

/-! ## Coroutines -/

/-- A callback is called in a new coroutine. -/
theorem inv_start (h : Inv s) {x : Execution} {deferred : List CallbackObject}
    (hobjects : ∀ o ∈ x.objects, o.number < s.nObjects)
    (hpending : ∀ sid p, s.mapPendingResponseInfo sid = some p →
      p.object ∉ x.objects ∧ p.object ∉ deferred)
    (hdeferred : ∀ o ∈ deferred, o.number < s.nObjects ∧ s.destroyed o = false ∧
      ((∃ n, o = .pendingResponseInfo n) ∨ ∃ n, o = .serviceContext n) ∧ s.Unused o) :
    Inv (s.start x deferred) where
  fresh := h.fresh
  ticker := h.ticker
  service := h.service
  pending sid p hp := by
    obtain ⟨n, hn, hobject, hd, hunused, _⟩ := h.pending sid p hp
    obtain ⟨hnot, hnot'⟩ := hpending sid p hp
    refine ⟨n, hn, hobject, hd, ?_, hnot'⟩
    intro c y hy
    simp only [start, Function.update_apply] at hy
    split at hy
    · cases hy
      exact hnot
    · exact hunused c y hy
  session := h.session
  used c y hy := by
    simp only [start, Function.update_apply] at hy
    split at hy
    · rename_i hc
      cases hy
      exact ⟨hc.le, hobjects⟩
    · obtain ⟨hc, hnumber⟩ := h.used c y hy
      exact ⟨Nat.le_succ_of_le hc, hnumber⟩
  deferred o ho := by
    obtain ⟨hn, hd, hkind, hunused⟩ := hdeferred o ho
    refine ⟨hn, hd, hkind, ?_⟩
    intro c y hy hmem
    simp only [start, Function.update_apply] at hy
    split at hy
    · rename_i hc
      rw [hc]
      rfl
    · exact absurd hmem (hunused c y hy)
  idle hcurrent := by cases hcurrent

/-- The function that has resumed the current coroutine is left. -/
theorem inv_leave (h : Inv s) : Inv s.leave := by
  have hidle : Inv { s with current := none, deferred := [] } :=
    { __ := h
      pending := by
        intro sid p hp
        obtain ⟨n, hn, hobject, hd, hunused, _⟩ := h.pending sid p hp
        exact ⟨n, hn, hobject, hd, hunused, List.not_mem_nil⟩
      deferred := by
        intro o ho
        cases ho
      idle := fun _ => rfl }
  apply inv_destroy hidle
  · exact fun o ho => (h.deferred o ho).1
  · intro o ho
    obtain ⟨-, -, ⟨_, rfl⟩ | ⟨_, rfl⟩, -⟩ := h.deferred o ho
    · exact h.tickerObject_ne (by simp)
    · exact h.tickerObject_ne (by simp)
  · intro o ho
    obtain ⟨-, -, ⟨_, rfl⟩ | ⟨_, rfl⟩, -⟩ := h.deferred o ho
    · exact h.fnService_ne (by simp)
    · exact h.fnService_ne (by simp)
  · intro o ho sid p hp heq
    obtain ⟨_, _, _, _, _, hnot⟩ := h.pending sid p hp
    exact hnot (heq ▸ ho)
  · intro o _ ho
    cases ho

/-- A coroutine has finished. -/
theorem inv_unfinished (h : Inv s) (c : ℕ) :
    Inv { s with unfinished := Function.update s.unfinished c none } := by
  have hold : ∀ c' x, Function.update s.unfinished c none c' = some x →
      s.unfinished c' = some x := by
    intro c' x hx
    rw [Function.update_apply] at hx
    split at hx
    · cases hx
    · exact hx
  exact
    { __ := h
      pending := by
        intro sid p hp
        obtain ⟨n, hn, hobject, hd, hunused, hnot⟩ := h.pending sid p hp
        exact ⟨n, hn, hobject, hd, fun c' x hx => hunused c' x (hold c' x hx), hnot⟩
      used := fun c' x hx => h.used c' x (hold c' x hx)
      deferred := by
        intro o ho
        obtain ⟨hn, hd, hkind, honly⟩ := h.deferred o ho
        exact ⟨hn, hd, hkind, fun c' x hx => honly c' x (hold c' x hx)⟩ }

theorem inv_finish (h : Inv s) : Inv s.finish := by
  rw [finish]
  split
  · exact h
  · exact inv_leave (inv_unfinished h _)

/-- A coroutine goes on. -/
theorem inv_resume (h : Inv s) (c : ℕ) :
    Inv { s with current := some c, deferred := [] } where
  __ := h
  pending sid p hp := by
    obtain ⟨n, hn, hobject, hd, hunused, _⟩ := h.pending sid p hp
    exact ⟨n, hn, hobject, hd, hunused, List.not_mem_nil⟩
  deferred o ho := by cases ho
  idle hcurrent := by cases hcurrent

theorem inv_tickerCallback (h : Inv s) (nTicker : ℕ) : Inv (s.tickerCallback nTicker) := by
  rw [tickerCallback]
  split
  · exact h
  · rename_i pTicker hticker
    split
    · exact h
    · rename_i callback hcallback
      split
      · have hobject : s.tickerObject nTicker = some callback := by
          rw [tickerObject, hticker]
          exact hcallback
        obtain ⟨n, hn, rfl, _⟩ := h.ticker nTicker callback hobject
        apply inv_start h
        · intro o ho
          rw [Execution.objects, Option.toList_none, List.mem_singleton] at ho
          rw [ho]
          exact hn
        · intro sid p hp
          obtain ⟨n', _, hpending, _⟩ := h.pending sid p hp
          simp [Execution.objects, hpending]
        · intro o ho
          cases ho
      · exact h

/-- A context that nobody has been given. -/
theorem inv_destroy_context (h : Inv s) {n : ℕ} (hn : n < s.nObjects)
    (hdeferred : .serviceContext n ∉ s.deferred) : Inv (s.destroy [.serviceContext n]) := by
  apply inv_destroy h <;> intro o ho <;> rw [List.mem_singleton] at ho <;> subst ho
  · exact hn
  · exact h.tickerObject_ne (by simp)
  · exact h.fnService_ne (by simp)
  · exact fun _ _ => h.object_ne (by simp)
  · exact hdeferred

theorem inv_onServiceNotice (h : Inv s) (notice : NoticeCommand) :
    Inv (s.onServiceNotice notice) := by
  have hlast : s.nObjects < s.nObjects + 1 := Nat.lt_succ_self _
  rw [onServiceNotice]
  split
  · apply inv_destroy_context (inv_nObjects h) hlast
    intro hmem
    exact absurd (h.deferred _ hmem).1 (lt_irrefl _)
  · rename_i callback hcallback
    obtain ⟨n, hn, rfl, _⟩ := h.service notice callback hcallback
    apply inv_start (inv_nObjects h)
    · intro o ho
      rcases List.mem_cons.mp ho with rfl | ho
      · exact Nat.lt_succ_of_lt hn
      · rw [List.mem_singleton.mp ho]
        exact hlast
    · intro sid p hp
      obtain ⟨n', _, hpending, _⟩ := h.pending sid p hp
      simp [Execution.objects, hpending]
    · intro o ho
      rw [List.mem_singleton] at ho
      subst ho
      exact ⟨hlast, h.not_destroyed le_rfl, .inr ⟨_, rfl⟩, h.unused le_rfl⟩

/-- What is destroyed when the waiting coroutine suspends again. -/
theorem inv_resumeDeferred (h : Inv s) {n : ℕ} (hn : n < s.nObjects)
    (hd : s.destroyed (.pendingResponseInfo n) = false)
    (hunused : s.Unused (.pendingResponseInfo n))
    (hother : ∀ sid p, s.mapPendingResponseInfo sid = some p →
      p.object ≠ .pendingResponseInfo n)
    (hdeferred : .pendingResponseInfo n ∉ s.deferred) (c : ℕ) :
    Inv (s.resumeDeferred c [.pendingResponseInfo n]) := by
  rw [resumeDeferred]
  split
  · exact
      { __ := h
        pending := by
          intro sid p hp
          obtain ⟨n', hn', hobject, hd', hunused', _⟩ := h.pending sid p hp
          refine ⟨n', hn', hobject, hd', hunused', fun hmem => ?_⟩
          exact hother sid p hp (List.mem_singleton.mp hmem)
        deferred := by
          intro o ho
          rw [List.mem_singleton] at ho
          subst ho
          refine ⟨hn, hd, .inl ⟨n, rfl⟩, fun c' x hx hmem => ?_⟩
          exact absurd hmem (hunused c' x hx)
        idle := by
          intro hcurrent
          cases hcurrent }
  · exact inv_destroy_pending h hn hother hdeferred

theorem inv_dispatchResponse (h : Inv s) (nSessionID : UInt64) (bMessage : Bool) :
    Inv (s.dispatchResponse nSessionID bMessage) := by
  rw [dispatchResponse]
  split
  · exact h
  · split
    · exact h
    · split
      · exact h
      · rename_i p hp
        obtain ⟨n, hn, hobject, hd, hunused, hnot, hother⟩ := erased_of_pending h hp
        have herased := inv_erasePending h nSessionID
        rw [hobject] at hd hunused hnot hother ⊢
        split
        · exact inv_destroy_pending herased hn hother hnot
        · split
          · apply inv_start herased
            · intro o ho
              rw [Execution.objects, Option.toList_none, List.mem_singleton] at ho
              rw [ho]
              exact hn
            · intro sid p' hp'
              have hne := hother sid p' hp'
              simp [Execution.objects, hne]
            · intro o ho
              rw [List.mem_singleton] at ho
              subst ho
              exact ⟨hn, hd, .inl ⟨n, rfl⟩, hunused⟩
          · exact inv_resumeDeferred herased hn hd hunused hother hnot p.nCoroutineID

theorem inv_step (h : Inv s) (op : Op) : Inv (s.step op) := by
  rw [step]
  split
  · cases op with
    | setCallback nTicker callback bCoroutine => exact inv_setCallback h nTicker callback bCoroutine
    | deleteTicker nTicker => exact inv_deleteTicker h nTicker
    | setServiceCallback notice callback => exact inv_setServiceCallback h notice callback
    | addPendingResponseInfo nSessionID nCoroutineID callback =>
      exact inv_addPendingResponseInfo h nSessionID nCoroutineID callback
    | delPendingSession nSessionID => exact inv_delPendingSession h nSessionID
    | tickerCallback nTicker => exact inv_tickerCallback h nTicker
    | dispatchResponse nSessionID bMessage => exact inv_dispatchResponse h nSessionID bMessage
    | onServiceNotice notice => exact inv_onServiceNotice h notice
    | yield => exact inv_leave h
    | finish => exact inv_finish h
    | resume nCoroutineID => exact inv_resume h nCoroutineID
  · exact h

/-! ## The property -/

/-- A callback is called that has not been destroyed. -/
theorem outlives_start (houtlives : s.Outlives) {x : Execution} {deferred : List CallbackObject}
    (hobjects : ∀ o ∈ x.objects, s.destroyed o = false) : (s.start x deferred).Outlives := by
  intro c y hy o ho
  simp only [start, Function.update_apply] at hy
  split at hy
  · cases hy
    exact hobjects o ho
  · exact houtlives c y hy o ho

theorem outlives_destroy_unused (houtlives : s.Outlives) {o : CallbackObject}
    (hunused : s.Unused o) : (s.destroy [o]).Outlives := by
  refine (outlives_destroy_iff [o]).mpr ⟨houtlives, fun o' ho' => ?_⟩
  rw [List.mem_singleton.mp ho']
  exact hunused

theorem outlives_setCallback_iff (houtlives : s.Outlives) (nTicker : ℕ)
    (callback bCoroutine : Bool) :
    (s.setCallback nTicker callback bCoroutine).Outlives ↔
      ∀ o ∈ s.tickerObject nTicker, s.Unused o := by
  have hiff := outlives_destroy_iff (s := s) (s.tickerObject nTicker).toList
  simp only [Option.mem_toList] at hiff
  exact hiff.trans (and_iff_right houtlives)

theorem outlives_deleteTicker_iff (houtlives : s.Outlives) (nTicker : ℕ) :
    (s.deleteTicker nTicker).Outlives ↔ ∀ o ∈ s.tickerObject nTicker, s.Unused o := by
  have hiff := outlives_destroy_iff (s := s) (s.tickerObject nTicker).toList
  simp only [Option.mem_toList] at hiff
  exact hiff.trans (and_iff_right houtlives)

theorem outlives_setServiceCallback_iff (houtlives : s.Outlives) (notice : NoticeCommand)
    (callback : Bool) :
    (s.setServiceCallback notice callback).Outlives ↔
      ∀ o ∈ s.fnService notice, s.Unused o := by
  have hiff := outlives_destroy_iff (s := s) (s.fnService notice).toList
  simp only [Option.mem_toList] at hiff
  exact hiff.trans (and_iff_right houtlives)

/-- `resume` returns while the callback is suspended. -/
theorem outlives_leave_iff (houtlives : s.Outlives) :
    s.leave.Outlives ↔ ∀ o ∈ s.deferred, s.Unused o :=
  (outlives_destroy_iff s.deferred).trans (and_iff_right houtlives)

/-- `resume` returns when the callback has. -/
theorem outlives_finish (h : Inv s) (houtlives : s.Outlives) : s.finish.Outlives := by
  rw [finish]
  split
  · exact houtlives
  · rename_i c hcurrent
    have hold : ∀ c' x, Function.update s.unfinished c none c' = some x →
        c' ≠ c ∧ s.unfinished c' = some x := by
      intro c' x hx
      rw [Function.update_apply] at hx
      split at hx
      · cases hx
      · rename_i hne
        exact ⟨hne, hx⟩
    apply (outlives_leave_iff _).mpr
    · intro o ho c' x hx hmem
      obtain ⟨hne, hx'⟩ := hold c' x hx
      obtain ⟨_, _, _, honly⟩ := h.deferred o ho
      have hcurrent' := honly c' x hx' hmem
      rw [hcurrent, Option.some_inj] at hcurrent'
      exact hne hcurrent'.symm
    · intro c' x hx
      exact houtlives c' x (hold c' x hx).2

theorem outlives_tickerCallback (h : Inv s) (houtlives : s.Outlives) (nTicker : ℕ) :
    (s.tickerCallback nTicker).Outlives := by
  rw [tickerCallback]
  split
  · exact houtlives
  · rename_i pTicker hticker
    split
    · exact houtlives
    · rename_i callback hcallback
      split
      · have hobject : s.tickerObject nTicker = some callback := by
          rw [tickerObject, hticker]
          exact hcallback
        obtain ⟨_, _, _, hd⟩ := h.ticker nTicker callback hobject
        apply outlives_start houtlives
        intro o ho
        rw [Execution.objects, Option.toList_none, List.mem_singleton] at ho
        rw [ho]
        exact hd
      · exact houtlives

theorem outlives_onServiceNotice (h : Inv s) (houtlives : s.Outlives) (notice : NoticeCommand) :
    (s.onServiceNotice notice).Outlives := by
  rw [onServiceNotice]
  split
  · exact outlives_destroy_unused (s := { s with nObjects := s.nObjects + 1 }) houtlives
      (h.unused le_rfl)
  · rename_i callback hcallback
    obtain ⟨_, _, _, hd⟩ := h.service notice callback hcallback
    apply outlives_start (s := { s with nObjects := s.nObjects + 1 }) houtlives
    intro o ho
    rcases List.mem_cons.mp ho with rfl | ho
    · exact hd
    · rw [List.mem_singleton.mp ho]
      exact h.not_destroyed le_rfl

theorem outlives_dispatchResponse (h : Inv s) (houtlives : s.Outlives) (nSessionID : UInt64)
    (bMessage : Bool) : (s.dispatchResponse nSessionID bMessage).Outlives := by
  rw [dispatchResponse]
  split
  · exact houtlives
  · split
    · exact houtlives
    · split
      · exact houtlives
      · rename_i p hp
        obtain ⟨_, _, _, hd, hunused, _⟩ := erased_of_pending h hp
        have herased : (s.erasePending nSessionID).Outlives := houtlives
        have hunused' : (s.erasePending nSessionID).Unused p.object := hunused
        split
        · exact outlives_destroy_unused herased hunused'
        · split
          · apply outlives_start herased
            intro o ho
            rw [Execution.objects, Option.toList_none, List.mem_singleton] at ho
            rw [ho]
            exact hd
          · rw [resumeDeferred]
            split
            · exact herased
            · exact outlives_destroy_unused herased hunused'

theorem outlives_delPendingSession (h : Inv s) (houtlives : s.Outlives) (nSessionID : UInt64) :
    (s.delPendingSession nSessionID).Outlives := by
  rw [delPendingSession]
  split
  · exact houtlives
  · rename_i p hp
    obtain ⟨_, _, _, _, hunused, _⟩ := h.pending nSessionID p hp
    exact outlives_destroy_unused (s := s.erasePending nSessionID) houtlives hunused

theorem outlives_addPendingResponseInfo (houtlives : s.Outlives) (nSessionID : UInt64)
    (nCoroutineID : ℕ) (callback : Bool) :
    (s.addPendingResponseInfo nSessionID nCoroutineID callback).Outlives := by
  rw [addPendingResponseInfo]
  split
  · exact houtlives
  · exact houtlives

/-- A step keeps what the unfinished callbacks use if and only if it spares it. -/
theorem outlives_step_iff (h : Inv s) (houtlives : s.Outlives) (op : Op) :
    (s.step op).Outlives ↔ s.Spares op := by
  rw [step]
  split
  · cases op with
    | setCallback nTicker callback bCoroutine =>
      exact outlives_setCallback_iff houtlives nTicker callback bCoroutine
    | deleteTicker nTicker => exact outlives_deleteTicker_iff houtlives nTicker
    | setServiceCallback notice callback =>
      exact outlives_setServiceCallback_iff houtlives notice callback
    | addPendingResponseInfo nSessionID nCoroutineID callback =>
      exact iff_of_true
        (outlives_addPendingResponseInfo houtlives nSessionID nCoroutineID callback) trivial
    | delPendingSession nSessionID =>
      exact iff_of_true (outlives_delPendingSession h houtlives nSessionID) trivial
    | tickerCallback nTicker =>
      exact iff_of_true (outlives_tickerCallback h houtlives nTicker) trivial
    | dispatchResponse nSessionID bMessage =>
      exact iff_of_true (outlives_dispatchResponse h houtlives nSessionID bMessage) trivial
    | onServiceNotice notice =>
      exact iff_of_true (outlives_onServiceNotice h houtlives notice) trivial
    | yield => exact outlives_leave_iff houtlives
    | finish => exact iff_of_true (outlives_finish h houtlives) trivial
    | resume nCoroutineID => exact iff_of_true houtlives trivial
  · rename_i hallowed
    refine iff_of_true houtlives ?_
    cases op with
    | yield =>
      have hidle : s.current = none := by simpa [Allowed] using hallowed
      intro o ho
      rw [h.idle hidle] at ho
      cases ho
    | setCallback nTicker callback bCoroutine => exact absurd rfl hallowed
    | deleteTicker nTicker => exact absurd rfl hallowed
    | setServiceCallback notice callback => exact absurd rfl hallowed
    | _ => trivial

/-- What the unfinished callbacks use lives throughout if and only if every step spares it. -/
theorem outlives_throughout_iff (ops : List Op) :
    (∀ ks, ks <+: ops → Outlives (ks.foldl step {})) ↔ Meets step Spares {} ops := by
  rw [meets_iff]
  apply throughout_iff (I := Inv) (P := Outlives)
  · intro s op h
    exact inv_step h op
  · intro s op h houtlives
    exact outlives_step_iff h houtlives op
  · exact inv_init
  · exact outlives_init

/-- The callback of a response suspends. -/
def suspendedResponse : List Op :=
  [.addPendingResponseInfo 1 0 true, .dispatchResponse 1 true, .yield]

/-- The function that has been suspended is destroyed. -/
theorem not_outlives_suspendedResponse :
    ¬ ∀ ks, ks <+: suspendedResponse → Outlives (ks.foldl step {}) := by
  intro h
  have hafter := h suspendedResponse (List.prefix_refl _)
  have hdestroyed := hafter 1 { callback := .pendingResponseInfo 0, context := none } rfl
    (.pendingResponseInfo 0) (by decide)
  exact absurd hdestroyed (by decide)

end RealtimeEx.Core.CallbackThread
