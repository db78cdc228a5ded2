import RealtimeEx.Core.LogicMessageQueueInvariant

/-!
# The protocol of the logic message queues

The safety facts are read off the invariant.  For progress every packet, every
entry of the ready list and every program point gets a weight; each step of
the code other than a new send or a spurious wake-up lowers the total, and a
state in which no such step is possible has nothing left to dispatch.
-/

set_option linter.unusedSectionVars false

namespace RealtimeEx.Core

namespace QueueState

variable {κ ω σ π : Type*} [DecidableEq κ] [DecidableEq ω] [DecidableEq σ]

/-! ## Wake-ups -/

/-- While a queue is ready, not every logic thread waits. -/
def Awake (s : QueueState κ ω σ π) : Prop :=
  s.listMessageQueue ≠ [] → ∃ w, s.runnable w ≠ .waiting

theorem awake_of_runnable {s : QueueState κ ω σ π} {w : ω}
    (h : s.runnable w ≠ .waiting) : s.Awake :=
  fun _ => ⟨w, h⟩

theorem exists_ne_waiting_putMessageQueue [Nonempty ω]
    {s : QueueState κ ω σ π} {k : κ} {wake : Option ω}
    (hwake : s.NotifyOne wake) :
    ∃ w, (s.putMessageQueue k wake).runnable w ≠ .waiting := by
  cases wake with
  | none => exact ⟨Classical.arbitrary ω, hwake _⟩
  | some w => exact ⟨w, by simp [putMessageQueue]⟩

theorem Awake.step [Nonempty ω] {s t : QueueState κ ω σ π}
    {l : QueueLabel κ ω σ π}
    (h : s.Awake) (hstep : Step s l t) : t.Awake := by
  cases hstep with
  | @send u k packet hu _ =>
      intro hlist
      have hframe : (s.send u k packet).runnable = s.runnable ∧
          (s.send u k packet).listMessageQueue = s.listMessageQueue := by
        unfold send
        split <;> exact ⟨rfl, rfl⟩
      rw [hframe.2] at hlist
      obtain ⟨w, hw⟩ := h hlist
      exact ⟨w, by rw [hframe.1]; exact hw⟩
  | @sendPut u k _ _ hwake =>
      intro _
      exact exists_ne_waiting_putMessageQueue (k := k) hwake
  | @get w _ _ _ _ =>
      exact awake_of_runnable (w := w) (by simp [get, setRunnable])
  | wait _ hlist => exact fun hne => absurd hlist hne
  | @wakeUp w _ => exact awake_of_runnable (w := w) (by simp [setRunnable])
  | @recv w _ _ _ =>
      exact awake_of_runnable (w := w) (by simp [recv, setRunnable])
  | @dispatch w _ _ _ _ =>
      exact awake_of_runnable (w := w) (by simp [dispatch, setRunnable])
  | @dispatchEnd w k _ _ =>
      refine awake_of_runnable (w := w) ?_
      simp only [dispatchEnd, setRunnable, Function.update_self]
      split <;> simp
  | @put w _ _ _ _ =>
      exact awake_of_runnable (w := w) (by simp [setRunnable])

theorem awake_of_reachable [Nonempty ω] {s : QueueState κ ω σ π}
    (h : (queueSystem κ ω σ π).Reachable s) : s.Awake := by
  refine h.invariant ?_ ?_
  · rintro _ rfl hlist
    exact absurd rfl hlist
  · intro s l t hs hstep
    exact hs.step hstep

/-! ## Progress -/

/-- The steps of the code that are neither a new send nor a spurious
wake-up. -/
def Internal : QueueLabel κ ω σ π → Bool
  | .send _ _ _ | .wakeUp _ => false
  | _ => true

/-- The weight of a program point of a logic thread. -/
def runnableWeight : LogicRunnable κ π → ℕ
  | .waiting => 0
  | .getting => 1
  | .taken _ => 2
  | .putting _ => 5
  | .dispatching _ rest => 6 + rest.length

def senderWeight : Sender κ → ℕ
  | .idle => 0
  | .putting _ => 4

def queueWeight (queue : LogicMessageQueue π) : ℕ :=
  6 * queue.vecMessagePacket.length

section

variable [Fintype κ] [Fintype ω] [Fintype σ]

/-- The work that is left in a state. -/
def work (s : QueueState κ ω σ π) : ℕ :=
  (∑ k, queueWeight (s.queue k)) + 2 * s.listMessageQueue.length +
    (∑ w, runnableWeight (s.runnable w)) + ∑ u, senderWeight (s.sender u)

theorem work_setQueue (s : QueueState κ ω σ π) (k : κ)
    (queue : LogicMessageQueue π) :
    (s.setQueue k queue).work + queueWeight (s.queue k) =
      s.work + queueWeight queue := by
  have h := TransitionSystem.sum_update_add queueWeight s.queue k queue
  simp only [work, setQueue]
  omega

theorem work_setRunnable (s : QueueState κ ω σ π) (w : ω)
    (r : LogicRunnable κ π) :
    (s.setRunnable w r).work + runnableWeight (s.runnable w) =
      s.work + runnableWeight r := by
  have h := TransitionSystem.sum_update_add runnableWeight s.runnable w r
  simp only [work, setRunnable]
  omega

theorem work_setSender (s : QueueState κ ω σ π) (u : σ) (r : Sender κ) :
    (s.setSender u r).work + senderWeight (s.sender u) =
      s.work + senderWeight r := by
  have h := TransitionSystem.sum_update_add senderWeight s.sender u r
  simp only [work, setSender]
  omega

theorem work_putMessageQueue_le {s : QueueState κ ω σ π} {k : κ}
    {wake : Option ω} (hwake : s.NotifyOne wake) :
    (s.putMessageQueue k wake).work ≤ s.work + 3 := by
  cases wake with
  | none =>
      simp only [work, putMessageQueue, List.length_append,
        List.length_singleton]
      omega
  | some w =>
      have hwaiting : s.runnable w = .waiting := hwake
      have h := TransitionSystem.sum_update_add runnableWeight s.runnable w
        .getting
      rw [hwaiting] at h
      change _ + 0 = _ + 1 at h
      simp only [work, putMessageQueue, List.length_append,
        List.length_singleton]
      omega

/-- Every step pays for itself: an internal step costs one unit of work, and
a send or a spurious wake-up brings at most ten. -/
theorem work_step {s t : QueueState κ ω σ π} {l : QueueLabel κ ω σ π}
    (h : s.Inv) (hstep : Step s l t) :
    t.work + (if Internal l then 1 else 0) ≤
      s.work + (if Internal l then 0 else 10) := by
  cases hstep with
  | @send u k packet hu _ =>
      have hqueue := work_setQueue s k ((s.queue k).send packet)
      have hweight : queueWeight ((s.queue k).send packet) =
          queueWeight (s.queue k) + 6 := by
        simp [queueWeight, Nat.mul_add]
      simp only [Internal, Bool.false_eq_true, if_false]
      unfold send
      split
      · have hsender := work_setSender (s.enqueue k packet) u (.putting k)
        have hidle : (s.enqueue k packet).sender u = .idle := hu
        rw [hidle] at hsender
        change _ + 0 = (s.setQueue k ((s.queue k).send packet)).work + 4
          at hsender
        omega
      · change (s.setQueue k ((s.queue k).send packet)).work + 0 ≤ _
        omega
  | @sendPut u k wake hu hwake =>
      have hput := work_putMessageQueue_le (k := k) hwake
      have hqueue := work_setQueue (s.putMessageQueue k wake) k
        (s.queue k).unlock
      have hsender := work_setSender
        ((s.putMessageQueue k wake).setQueue k (s.queue k).unlock) u .idle
      have hputting : ((s.putMessageQueue k wake).setQueue k
        (s.queue k).unlock).sender u = .putting k := hu
      rw [hputting] at hsender
      change _ + queueWeight (s.queue k) = _ + queueWeight (s.queue k)
        at hqueue
      change _ + 4 = _ + 0 at hsender
      simp only [Internal, if_true]
      omega
  | @get w k rest hw hlist =>
      have hrunnable := work_setRunnable s w (.taken k)
      have hpop : (s.get w k rest).work + 2 =
          (s.setRunnable w (.taken k)).work := by
        simp only [work, get, setRunnable, hlist, List.length_cons]
        omega
      rw [hw] at hrunnable
      change _ + 1 = _ + 2 at hrunnable
      simp only [Internal, if_true]
      omega
  | @wait w hw _ =>
      have hrunnable := work_setRunnable s w .waiting
      rw [hw] at hrunnable
      change _ + 1 = _ + 0 at hrunnable
      simp only [Internal, if_true]
      omega
  | @wakeUp w hw =>
      have hrunnable := work_setRunnable s w .getting
      rw [hw] at hrunnable
      change _ + 0 = _ + 1 at hrunnable
      simp only [Internal, Bool.false_eq_true, if_false]
      omega
  | @recv w k hw _ =>
      -- the thread only takes a queue that has a packet
      obtain ⟨phase, hk⟩ := h.exists_phase k
      cases hk.eq_taken hw
      have hne := hk.packets_ne_nil rfl
      have hlength := List.length_pos_iff.mpr hne
      have hbatch : (s.queue k).recv.1.length =
          (s.queue k).vecMessagePacket.length := by
        rw [LogicMessageQueue.recv_of_inList hk.flag_eq]
      have hleft : queueWeight (s.queue k).recv.2 = 0 := by
        rw [LogicMessageQueue.recv_of_inList hk.flag_eq]
        rfl
      have hqueue := work_setQueue s k (s.queue k).recv.2
      have hrunnable := work_setRunnable
        (s.setQueue k (s.queue k).recv.2) w (.dispatching k (s.queue k).recv.1)
      have htaken : (s.setQueue k (s.queue k).recv.2).runnable w =
        .taken k := hw
      rw [htaken] at hrunnable
      change _ + 6 * (s.queue k).vecMessagePacket.length = _ at hqueue
      change _ + 2 = _ + (6 + (s.queue k).recv.1.length) at hrunnable
      simp only [Internal, if_true, recv]
      omega
  | @dispatch w k packet rest hw =>
      have hrunnable := work_setRunnable s w (.dispatching k rest)
      rw [hw] at hrunnable
      change _ + (6 + (rest.length + 1)) = _ + (6 + rest.length) at hrunnable
      simp only [Internal, if_true]
      change (s.setRunnable w (.dispatching k rest)).work + 1 ≤ _
      omega
  | @dispatchEnd w k hw _ =>
      have hqueue := work_setQueue s k (s.queue k).dispatchEnd
      have hweight : queueWeight (s.queue k).dispatchEnd =
          queueWeight (s.queue k) := by
        simp only [queueWeight, LogicMessageQueue.dispatchEnd]
        split
        · split <;> rfl
        · rfl
      have hrunnable := work_setRunnable
        (s.setQueue k (s.queue k).dispatchEnd) w
        (if (s.queue k).dispatchEnd.flag = .inList then .putting k
          else .getting)
      have hdispatching :
          (s.setQueue k (s.queue k).dispatchEnd).runnable w =
            .dispatching k [] := hw
      have hle : runnableWeight
          (if (s.queue k).dispatchEnd.flag = .inList then .putting k
            else .getting : LogicRunnable κ π) ≤ 5 := by
        split
        · exact Nat.le_refl 5
        · exact Nat.le_add_left 1 4
      rw [hdispatching] at hrunnable
      change _ + 6 = _ at hrunnable
      simp only [Internal, if_true, dispatchEnd]
      omega
  | @put w k wake hw hwake =>
      have hput := work_putMessageQueue_le (k := k) hwake
      have hqueue := work_setQueue (s.putMessageQueue k wake) k
        (s.queue k).unlock
      have hrunnable := work_setRunnable
        ((s.putMessageQueue k wake).setQueue k (s.queue k).unlock) w .getting
      have hputting : ((s.putMessageQueue k wake).setQueue k
          (s.queue k).unlock).runnable w = .putting k := by
        change (s.putMessageQueue k wake).runnable w = .putting k
        rw [runnable_putMessageQueue hwake (by simp [hw]), hw]
      rw [hputting] at hrunnable
      change _ + queueWeight (s.queue k) = _ + queueWeight (s.queue k)
        at hqueue
      change _ + 5 = _ + 1 at hrunnable
      simp only [Internal, if_true]
      omega

/-- Along a run, the internal steps are paid for by the work of the first
state and by the sends and wake-ups. -/
theorem count_internal_le {s t : QueueState κ ω σ π}
    {ls : List (QueueLabel κ ω σ π)}
    (h : s.Inv) (hrun : (queueSystem κ ω σ π).Run s ls t) :
    ls.countP Internal ≤
      s.work + 10 * ls.countP (fun l => !Internal l) := by
  have hsum := hrun.measure_add_sum_le (I := Inv)
    (fun s l t hs hstep => hs.step hstep)
    (fun s l t hs hstep => work_step hs hstep) h
  have hgain : ∀ ks : List (QueueLabel κ ω σ π),
      (ks.map fun l => if Internal l then 1 else 0).sum =
        ks.countP Internal := by
    intro ks
    induction ks with
    | nil => rfl
    | cons l ks ih =>
        by_cases hl : Internal l <;> simp [hl, ih, Nat.add_comm]
  have hcost : ∀ ks : List (QueueLabel κ ω σ π),
      (ks.map fun l => if Internal l then 0 else 10).sum =
        10 * ks.countP (fun l => !Internal l) := by
    intro ks
    induction ks with
    | nil => rfl
    | cons l ks ih =>
        by_cases hl : Internal l
        · simp [hl, ih]
        · simp [hl, ih]
          omega
  rw [hgain, hcost] at hsum
  omega

end

/-! ## States in which nothing is left to do -/

theorem exists_notifyOne (s : QueueState κ ω σ π) :
    ∃ wake, s.NotifyOne wake := by
  by_cases h : ∃ w, s.runnable w = .waiting
  · obtain ⟨w, hw⟩ := h
    exact ⟨some w, hw⟩
  · exact ⟨none, fun w hw => h ⟨w, hw⟩⟩

/-- If no internal step is possible, every packet has been dispatched. -/
theorem dispatched_eq_sent_of_stuck {s : QueueState κ ω σ π}
    (h : s.Inv) (hawake : s.Awake)
    (hstuck : ∀ l t, Internal l → ¬ Step s l t) (k : κ) :
    s.dispatched k = s.sent k := by
  obtain ⟨wake, hwake⟩ := s.exists_notifyOne
  have hsender : ∀ u j, s.sender u ≠ .putting j := fun u j hu =>
    hstuck (.sendPut u wake) _ rfl (.sendPut hu hwake)
  have hputting : ∀ w j, s.runnable w ≠ .putting j := fun w j hw =>
    hstuck (.put w wake) _ rfl (.put hw hwake)
  have hunlocked : ∀ j, (s.queue j).locked = false := by
    intro j
    obtain ⟨phase, hj⟩ := h.exists_phase j
    rw [hj.locked_eq]
    cases phase with
    | sending u =>
        exact absurd ((hj.holds_iff (.sender u)).mpr rfl) (hsender u j)
    | putting w =>
        exact absurd (hj.runnable_eq w _ rfl) (hputting w j)
    | _ => rfl
  have hgetting : ∀ w, s.runnable w ≠ .getting := by
    intro w hw
    cases hlist : s.listMessageQueue with
    | nil => exact hstuck (.wait w) _ rfl (.wait hw hlist)
    | cons j rest => exact hstuck (.get w) _ rfl (.get hw hlist)
  have hwaiting : ∀ w, s.runnable w = .waiting := by
    intro w
    cases hw : s.runnable w with
    | getting => exact absurd hw (hgetting w)
    | waiting => rfl
    | taken j =>
        exact absurd (.recv hw (hunlocked j)) (hstuck (.recv w) _ rfl)
    | dispatching j rest =>
        cases rest with
        | nil =>
            exact absurd (.dispatchEnd hw (hunlocked j))
              (hstuck (.dispatchEnd w) _ rfl)
        | cons packet rest =>
            exact absurd (.dispatch hw) (hstuck (.dispatch w) _ rfl)
    | putting j => exact absurd hw (hputting w j)
  have hlist : s.listMessageQueue = [] := by
    by_contra hne
    obtain ⟨w, hw⟩ := hawake hne
    exact hw (hwaiting w)
  obtain ⟨phase, hk⟩ := h.exists_phase k
  have hidle : phase = .idle := by
    cases phase with
    | idle => rfl
    | ready => simpa [hlist] using (hk.holds_iff .ready).mpr rfl
    | sending u =>
        exact absurd ((hk.holds_iff (.sender u)).mpr rfl) (hsender u k)
    | taken w => simpa [hwaiting w] using hk.runnable_eq w _ rfl
    | dispatching w rest => simpa [hwaiting w] using hk.runnable_eq w _ rfl
    | putting w => exact absurd (hk.runnable_eq w _ rfl) (hputting w k)
  subst hidle
  have hsent := hk.sent_eq
  rw [hk.packets_eq_nil rfl] at hsent
  simpa [Phase.inHand] using hsent.symm

/-! ## The protocol -/

/-- `a` has set the flag of `k` and is about to put it into the ready list, or
has popped it from there and not yet called `recv`. -/
def InTransit (s : QueueState κ ω σ π) (k : κ) : Holder ω σ → Prop
  | .ready => False
  | .sender u => s.sender u = .putting k
  | .runnable w => s.runnable w = .taken k ∨ s.runnable w = .putting k

/-- What holds of the queues in every reachable state. -/
structure Protocol (s : QueueState κ ω σ π) : Prop where
  listed_once : s.listMessageQueue.Nodup
  flag_iff : ∀ k, (s.queue k).flag = .inList ↔
    (k ∈ s.listMessageQueue ∧ ∀ a, ¬ s.InTransit k a) ∨
      (k ∉ s.listMessageQueue ∧ ∃! a, s.InTransit k a)
  one_worker : ∀ k w w', (s.runnable w).held = some k →
    (s.runnable w').held = some k → w = w'
  responsible : ∀ k, (s.queue k).vecMessagePacket ≠ [] →
    k ∈ s.listMessageQueue ∨ (∃ u, s.sender u = .putting k) ∨
      ∃ w, (s.runnable w).held = some k
  fifo : ∀ k, ∃ inHand,
    s.sent k = s.dispatched k ++ inHand ++ (s.queue k).vecMessagePacket ∧
      (∀ w rest, s.runnable w = .dispatching k rest → rest = inHand) ∧
      ((∀ w rest, s.runnable w ≠ .dispatching k rest) → inHand = [])

section

variable {s : QueueState κ ω σ π} {k : κ} {phase : Phase ω σ π}

theorem InTransit.holds {a : Holder ω σ} (h : s.InTransit k a) :
    s.Holds k a := by
  cases a with
  | ready => exact h.elim
  | sender u => exact h
  | runnable w =>
      rcases h with h | h <;> simp [h, LogicRunnable.held]

/-- In its phase, a queue is flagged as ready exactly when it is listed or in
transit. -/
theorem InPhase.flag_iff (h : s.InPhase k phase) :
    (s.queue k).flag = .inList ↔
      (k ∈ s.listMessageQueue ∧ ∀ a, ¬ s.InTransit k a) ∨
        (k ∉ s.listMessageQueue ∧ ∃! a, s.InTransit k a) := by
  have hready := h.holds_iff .ready
  have hunique : ∀ a, s.InTransit k a → phase.holder = some a :=
    fun a ha => (h.holds_iff a).mp ha.holds
  have hmoving : ∀ a, s.InTransit k a → phase.holder = some a →
      ∃! b, s.InTransit k b := by
    intro a ha hholder
    refine ⟨a, ha, fun b hb => ?_⟩
    exact Option.some.inj ((hunique b hb).symm.trans hholder)
  rw [h.flag_eq]
  cases phase with
  | idle =>
      refine iff_of_false (by simp [Phase.flag]) ?_
      rintro (⟨hmem, -⟩ | ⟨-, a, ha, -⟩)
      · exact absurd (hready.mp hmem) (by simp [Phase.holder])
      · exact absurd (hunique a ha) (by simp [Phase.holder])
  | ready =>
      refine iff_of_true rfl (Or.inl ⟨hready.mpr rfl, fun a ha => ?_⟩)
      cases Option.some.inj (hunique a ha)
      exact ha
  | sending u =>
      refine iff_of_true rfl (Or.inr ⟨?_, hmoving (.sender u) ?_ rfl⟩)
      · exact fun hmem => absurd (hready.mp hmem) (by simp [Phase.holder])
      · exact (h.holds_iff (.sender u)).mpr rfl
  | taken w =>
      refine iff_of_true rfl (Or.inr ⟨?_, hmoving (.runnable w) ?_ rfl⟩)
      · exact fun hmem => absurd (hready.mp hmem) (by simp [Phase.holder])
      · exact Or.inl (h.runnable_eq w _ rfl)
  | putting w =>
      refine iff_of_true rfl (Or.inr ⟨?_, hmoving (.runnable w) ?_ rfl⟩)
      · exact fun hmem => absurd (hready.mp hmem) (by simp [Phase.holder])
      · exact Or.inr (h.runnable_eq w _ rfl)
  | dispatching w rest =>
      refine iff_of_false (by simp [Phase.flag]) ?_
      rintro (⟨hmem, -⟩ | ⟨-, a, ha, -⟩)
      · exact absurd (hready.mp hmem) (by simp [Phase.holder])
      · cases Option.some.inj (hunique a ha)
        have hpoint := h.runnable_eq w _ rfl
        rcases ha with ha | ha <;> rw [hpoint] at ha <;> cases ha

theorem Inv.protocol (h : s.Inv) : s.Protocol where
  listed_once := h.nodup
  flag_iff k := by
    obtain ⟨phase, hk⟩ := h.exists_phase k
    exact hk.flag_iff
  one_worker k w w' hw hw' := by
    obtain ⟨phase, hk⟩ := h.exists_phase k
    have heq := hk.holder_unique (a := .runnable w) (b := .runnable w') hw hw'
    exact Holder.runnable.inj heq
  responsible k hpackets := by
    obtain ⟨phase, hk⟩ := h.exists_phase k
    cases hholder : phase.holder with
    | none =>
        have hidle : phase.flag = .notInList := by
          cases phase <;> simp_all [Phase.holder, Phase.flag]
        exact absurd (hk.packets_eq_nil hidle) hpackets
    | some a =>
        have ha := (hk.holds_iff a).mpr hholder
        cases a with
        | ready => exact Or.inl ha
        | sender u => exact Or.inr (Or.inl ⟨u, ha⟩)
        | runnable w => exact Or.inr (Or.inr ⟨w, ha⟩)
  fifo k := by
    obtain ⟨phase, hk⟩ := h.exists_phase k
    refine ⟨phase.inHand, hk.sent_eq, fun w rest hw => ?_, fun hnone => ?_⟩
    · cases hk.eq_dispatching hw
      rfl
    · cases phase with
      | dispatching w rest => exact absurd (hk.runnable_eq w _ rfl) (hnone _ _)
      | _ => rfl

end

/-- In every reachable state of any number of services, logic threads and
senders the queues follow the protocol; the logic threads make progress in
every schedule, and they can only stop when every packet that was sent has
been dispatched. -/
theorem protocol_of_reachable [Fintype κ] [Fintype ω] [Fintype σ] [Nonempty ω]
    {s : QueueState κ ω σ π}
    (h : (queueSystem κ ω σ π).Reachable s) :
    s.Protocol ∧
      (∀ ls t, (queueSystem κ ω σ π).Run s ls t →
        ls.countP Internal ≤
          s.work + 10 * ls.countP (fun l => !Internal l)) ∧
      ((∀ l t, Internal l → ¬ Step s l t) →
        ∀ k, s.dispatched k = s.sent k) := by
  have hinv := inv_of_reachable h
  refine ⟨hinv.protocol, fun ls t hrun => count_internal_le hinv hrun, ?_⟩
  intro hstuck k
  exact dispatched_eq_sent_of_stuck hinv (awake_of_reachable h) hstuck k

/-- One service and one logic thread: the service has been sent a packet and
is in the ready list. -/
def readyState : QueueState Unit Unit Unit ℕ :=
  (((initial.send () () 7).putMessageQueue () none).setQueue ()
    ⟨[7], .inList, false⟩).setSender () .idle

theorem reachable_readyState :
    (queueSystem Unit Unit Unit ℕ).Reachable readyState := by
  have hsend : Step (initial : QueueState Unit Unit Unit ℕ)
      (.send () () 7) (initial.send () () 7) := .send rfl rfl
  have hput : Step (initial.send () () 7 : QueueState Unit Unit Unit ℕ)
      (.sendPut () none) readyState := .sendPut (k := ()) rfl nofun
  exact ((TransitionSystem.Reachable.of_init rfl).step hsend).step hput

theorem reachable_takenState :
    (queueSystem Unit Unit Unit ℕ).Reachable (readyState.get () () []) := by
  have hget : Step readyState (.get ()) (readyState.get () () []) :=
    .get rfl rfl
  exact reachable_readyState.step hget

/-- The flag alone does not say that a queue is in the ready list: it is
already set while a sender is about to put the queue, and still set while a
logic thread is about to call `recv`. -/
theorem inList_and_not_listed :
    ¬ ∀ s : QueueState Unit Unit Unit ℕ,
      (queueSystem Unit Unit Unit ℕ).Reachable s →
        ∀ k, (s.queue k).flag = .inList ↔ k ∈ s.listMessageQueue := by
  intro h
  exact absurd ((h _ reachable_takenState ()).mp rfl)
    (List.not_mem_nil)

theorem protocol_of_reachable_takenState :
    (queueSystem Unit Unit Unit ℕ).Reachable (readyState.get () () []) ∧
      (readyState.get () () []).Protocol :=
  ⟨reachable_takenState, (protocol_of_reachable reachable_takenState).1⟩

end QueueState

end RealtimeEx.Core
