import Mathlib.Data.List.Nodup
import RealtimeEx.Core.LogicMessageQueue

/-!
# The invariant of the logic message queues

Every queue is at any time in one phase of a small abstract protocol: it is
idle, a sender is about to put it, it is ready, or a logic thread has taken
it, dispatches its packets or is about to put it back.  The phase determines
who holds the queue, its flag, its lock and the packets in hand.  The
invariant says that every queue has a phase, and that the ready list has no
duplicates.
-/

set_option linter.unusedSectionVars false

namespace RealtimeEx.Core

/-! ## Holders and phases -/

/-- The queue a logic thread has taken and not yet given back. -/
def LogicRunnable.held {κ π : Type*} : LogicRunnable κ π → Option κ
  | .getting | .waiting => none
  | .taken k | .dispatching k _ | .putting k => some k

/-- Who is responsible for a queue. -/
inductive Holder (ω σ : Type*)
  | ready
  | runnable (thread : ω)
  | sender (thread : σ)
  deriving DecidableEq

/-- The phases of one queue. -/
inductive Phase (ω σ π : Type*)
  | idle
  | sending (thread : σ)
  | ready
  | taken (thread : ω)
  | dispatching (thread : ω) (inHand : List π)
  | putting (thread : ω)

namespace Phase

variable {κ ω σ π : Type*}

def holder : Phase ω σ π → Option (Holder ω σ)
  | idle => none
  | sending u => some (.sender u)
  | ready => some .ready
  | taken w | dispatching w _ | putting w => some (.runnable w)

def flag : Phase ω σ π → Flag
  | idle => .notInList
  | dispatching _ _ => .dispatch
  | _ => .inList

/-- Whether the queue's lock is held across a call of `putMessageQueue`. -/
def locked : Phase ω σ π → Bool
  | sending _ | putting _ => true
  | _ => false

/-- The packets swapped out and not yet dispatched. -/
def inHand : Phase ω σ π → List π
  | dispatching _ rest => rest
  | _ => []

/-- The program point of the logic thread that holds the queue `k`. -/
def runnable (k : κ) : Phase ω σ π → Option (ω × LogicRunnable κ π)
  | taken w => some (w, .taken k)
  | dispatching w rest => some (w, .dispatching k rest)
  | putting w => some (w, .putting k)
  | _ => none

theorem held_of_runnable {k : κ} {phase : Phase ω σ π} {w : ω}
    {r : LogicRunnable κ π}
    (h : phase.runnable k = some (w, r)) : r.held = some k := by
  cases phase <;>
    simp only [runnable, Option.some.injEq, Prod.mk.injEq, reduceCtorEq] at h
  all_goals
    obtain ⟨-, rfl⟩ := h
    rfl

end Phase

namespace QueueState

variable {κ ω σ π : Type*}

/-- `a` holds the queue `k`. -/
def Holds (s : QueueState κ ω σ π) (k : κ) : Holder ω σ → Prop
  | .ready => k ∈ s.listMessageQueue
  | .runnable w => (s.runnable w).held = some k
  | .sender u => s.sender u = .putting k

@[simp] theorem holds_ready {s : QueueState κ ω σ π} {k : κ} :
    s.Holds k .ready ↔ k ∈ s.listMessageQueue := Iff.rfl

@[simp] theorem holds_runnable {s : QueueState κ ω σ π} {k : κ} {w : ω} :
    s.Holds k (.runnable w) ↔ (s.runnable w).held = some k := Iff.rfl

@[simp] theorem holds_sender {s : QueueState κ ω σ π} {k : κ} {u : σ} :
    s.Holds k (.sender u) ↔ s.sender u = .putting k := Iff.rfl

/-- The queue `k` is in the phase `phase`. -/
structure InPhase (s : QueueState κ ω σ π) (k : κ) (phase : Phase ω σ π) :
    Prop where
  holds_iff : ∀ a, s.Holds k a ↔ phase.holder = some a
  runnable_eq : ∀ w r, phase.runnable k = some (w, r) → s.runnable w = r
  flag_eq : (s.queue k).flag = phase.flag
  locked_eq : (s.queue k).locked = phase.locked
  packets_ne_nil : phase.flag = .inList → (s.queue k).vecMessagePacket ≠ []
  packets_eq_nil : phase.flag = .notInList → (s.queue k).vecMessagePacket = []
  sent_eq : s.sent k =
    s.dispatched k ++ phase.inHand ++ (s.queue k).vecMessagePacket

/-- The invariant of the protocol. -/
structure Inv (s : QueueState κ ω σ π) : Prop where
  nodup : s.listMessageQueue.Nodup
  exists_phase : ∀ k, ∃ phase, s.InPhase k phase

theorem inv_initial : (initial : QueueState κ ω σ π).Inv where
  nodup := List.nodup_nil
  exists_phase k := by
    refine ⟨.idle, ?_, ?_, rfl, rfl, ?_, ?_, rfl⟩
    · intro a
      cases a <;> simp [initial, LogicRunnable.held, Phase.holder]
    · simp [Phase.runnable]
    · simp [Phase.flag]
    · simp [initial]

/-! ## Reading the phase off a holder -/

section

variable {s : QueueState κ ω σ π} {k : κ} {phase : Phase ω σ π}

theorem InPhase.holder_unique (h : s.InPhase k phase) {a b : Holder ω σ}
    (ha : s.Holds k a) (hb : s.Holds k b) : a = b := by
  have h₁ := (h.holds_iff a).mp ha
  have h₂ := (h.holds_iff b).mp hb
  exact Option.some.inj (h₁.symm.trans h₂)

theorem InPhase.eq_sending (h : s.InPhase k phase) {u : σ}
    (hu : s.sender u = .putting k) : phase = .sending u := by
  have hholder := (h.holds_iff (.sender u)).mp hu
  cases phase <;> simp_all [Phase.holder]

theorem InPhase.eq_ready (h : s.InPhase k phase)
    (hk : k ∈ s.listMessageQueue) : phase = .ready := by
  have hholder := (h.holds_iff .ready).mp hk
  cases phase <;> simp_all [Phase.holder]

theorem InPhase.eq_taken (h : s.InPhase k phase) {w : ω}
    (hw : s.runnable w = .taken k) : phase = .taken w := by
  have hholder := (h.holds_iff (.runnable w)).mp
    (by simp [hw, LogicRunnable.held])
  have hpoint := h.runnable_eq w
  cases phase <;> simp_all [Phase.holder, Phase.runnable]

theorem InPhase.eq_dispatching (h : s.InPhase k phase) {w : ω} {rest : List π}
    (hw : s.runnable w = .dispatching k rest) :
    phase = .dispatching w rest := by
  have hholder := (h.holds_iff (.runnable w)).mp
    (by simp [hw, LogicRunnable.held])
  have hpoint := h.runnable_eq w
  cases phase <;> simp_all [Phase.holder, Phase.runnable]

theorem InPhase.eq_putting (h : s.InPhase k phase) {w : ω}
    (hw : s.runnable w = .putting k) : phase = .putting w := by
  have hholder := (h.holds_iff (.runnable w)).mp
    (by simp [hw, LogicRunnable.held])
  have hpoint := h.runnable_eq w
  cases phase <;> simp_all [Phase.holder, Phase.runnable]

theorem InPhase.eq_idle (h : s.InPhase k phase)
    (hflag : (s.queue k).flag = .notInList) : phase = .idle := by
  have hphase := h.flag_eq
  rw [hflag] at hphase
  cases phase with
  | idle => rfl
  | _ => simp [Phase.flag] at hphase

/-- What does not touch a queue or its holder leaves it in its phase. -/
theorem InPhase.congr {t : QueueState κ ω σ π} (h : s.InPhase k phase)
    (hqueue : t.queue k = s.queue k)
    (hsent : t.sent k = s.sent k)
    (hdispatched : t.dispatched k = s.dispatched k)
    (hholds : ∀ a, t.Holds k a ↔ s.Holds k a)
    (hrunnable : ∀ w, (s.runnable w).held = some k →
      t.runnable w = s.runnable w) : t.InPhase k phase where
  holds_iff a := (hholds a).trans (h.holds_iff a)
  runnable_eq w r hr := by
    have hs := h.runnable_eq w r hr
    rw [hrunnable w (by rw [hs]; exact Phase.held_of_runnable hr), hs]
  flag_eq := by rw [hqueue, h.flag_eq]
  locked_eq := by rw [hqueue, h.locked_eq]
  packets_ne_nil := by rw [hqueue]; exact h.packets_ne_nil
  packets_eq_nil := by rw [hqueue]; exact h.packets_eq_nil
  sent_eq := by rw [hsent, hdispatched, hqueue, h.sent_eq]

end

/-! ## What the updates do to the holders -/

variable [DecidableEq κ] [DecidableEq ω] [DecidableEq σ]

section

variable {s t : QueueState κ ω σ π} {j k : κ} {u : σ} {w : ω}

@[simp] theorem holds_setQueue {queue : LogicMessageQueue π}
    {a : Holder ω σ} :
    (s.setQueue k queue).Holds j a ↔ s.Holds j a := by
  cases a <;> rfl

theorem holds_setRunnable {r : LogicRunnable κ π} {a : Holder ω σ} :
    (s.setRunnable w r).Holds j a ↔
      if a = .runnable w then r.held = some j else s.Holds j a := by
  cases a with
  | ready => simp [setRunnable]
  | sender u => simp [setRunnable]
  | runnable v =>
      by_cases hv : v = w
      · simp [setRunnable, hv]
      · simp [setRunnable, hv]

theorem holds_setSender {r : Sender κ} {a : Holder ω σ} :
    (s.setSender u r).Holds j a ↔
      if a = .sender u then r = .putting j else s.Holds j a := by
  cases a with
  | ready => simp [setSender]
  | runnable w => simp [setSender]
  | sender v =>
      by_cases hv : v = u
      · simp [setSender, hv]
      · simp [setSender, hv]

/-- Waking a waiting thread changes no holder. -/
theorem held_putMessageQueue {wake : Option ω} (hwake : s.NotifyOne wake)
    (v : ω) :
    ((s.putMessageQueue k wake).runnable v).held = (s.runnable v).held := by
  cases wake with
  | none => rfl
  | some w =>
      by_cases hv : v = w
      · subst hv
        have hwaiting : s.runnable v = .waiting := hwake
        simp [putMessageQueue, hwaiting, LogicRunnable.held]
      · simp [putMessageQueue, hv]

theorem runnable_putMessageQueue {wake : Option ω}
    (hwake : s.NotifyOne wake) {v : ω} (hv : s.runnable v ≠ .waiting) :
    (s.putMessageQueue k wake).runnable v = s.runnable v := by
  cases wake with
  | none => rfl
  | some w =>
      have hwaiting : s.runnable w = .waiting := hwake
      have hvw : v ≠ w := by
        rintro rfl
        exact hv hwaiting
      simp [putMessageQueue, hvw]

theorem holds_putMessageQueue {wake : Option ω} (hwake : s.NotifyOne wake)
    {a : Holder ω σ} :
    (s.putMessageQueue k wake).Holds j a ↔
      s.Holds j a ∨ a = .ready ∧ j = k := by
  cases a with
  | ready => simp [putMessageQueue]
  | sender u => simp [putMessageQueue]
  | runnable v => simp [held_putMessageQueue hwake]

/-- `t` differs from `s` at the queue `k` and its holders only. -/
structure SameElsewhere (s t : QueueState κ ω σ π) (k : κ) : Prop where
  queue : ∀ j, j ≠ k → t.queue j = s.queue j
  sent : ∀ j, j ≠ k → t.sent j = s.sent j
  dispatched : ∀ j, j ≠ k → t.dispatched j = s.dispatched j
  holds : ∀ j, j ≠ k → ∀ a, t.Holds j a ↔ s.Holds j a
  runnable : ∀ j, j ≠ k → ∀ w, (s.runnable w).held = some j →
    t.runnable w = s.runnable w

theorem SameElsewhere.trans {r : QueueState κ ω σ π}
    (h₁ : r.SameElsewhere s k) (h₂ : s.SameElsewhere t k) :
    r.SameElsewhere t k where
  queue j hj := (h₂.queue j hj).trans (h₁.queue j hj)
  sent j hj := (h₂.sent j hj).trans (h₁.sent j hj)
  dispatched j hj := (h₂.dispatched j hj).trans (h₁.dispatched j hj)
  holds j hj a := (h₂.holds j hj a).trans (h₁.holds j hj a)
  runnable j hj w hw := by
    have h := h₁.runnable j hj w hw
    rw [h₂.runnable j hj w (by rw [h, hw]), h]

theorem sameElsewhere_setQueue (queue : LogicMessageQueue π) :
    s.SameElsewhere (s.setQueue k queue) k where
  queue j hj := by simp [setQueue, hj]
  sent j _ := rfl
  dispatched j _ := rfl
  holds j _ a := holds_setQueue
  runnable j _ w _ := rfl

theorem sameElsewhere_enqueue {packet : π} :
    s.SameElsewhere (s.enqueue k packet) k where
  queue j hj := by simp [enqueue, setQueue, hj]
  sent j hj := by simp [enqueue, hj]
  dispatched j _ := rfl
  holds j _ a := by cases a <;> rfl
  runnable j _ w _ := rfl

theorem sameElsewhere_setRunnable {r : LogicRunnable κ π}
    (hold : ∀ j, (s.runnable w).held = some j → j = k)
    (hnew : ∀ j, r.held = some j → j = k) :
    s.SameElsewhere (s.setRunnable w r) k where
  queue j _ := rfl
  sent j _ := rfl
  dispatched j _ := rfl
  holds j hj a := by
    rw [holds_setRunnable]
    split
    · rename_i ha
      subst ha
      exact iff_of_false (fun h => hj (hnew j h)) (fun h => hj (hold j h))
    · exact Iff.rfl
  runnable j hj v hv := by
    have hvw : v ≠ w := by
      rintro rfl
      exact hj (hold j hv)
    simp [setRunnable, hvw]

theorem sameElsewhere_setSender {r : Sender κ}
    (hold : ∀ j, s.sender u = .putting j → j = k)
    (hnew : ∀ j, r = .putting j → j = k) :
    s.SameElsewhere (s.setSender u r) k where
  queue j _ := rfl
  sent j _ := rfl
  dispatched j _ := rfl
  holds j hj a := by
    rw [holds_setSender]
    split
    · rename_i ha
      subst ha
      exact iff_of_false (fun h => hj (hnew j h)) (fun h => hj (hold j h))
    · exact Iff.rfl
  runnable j _ v _ := rfl

theorem sameElsewhere_putMessageQueue {wake : Option ω}
    (hwake : s.NotifyOne wake) :
    s.SameElsewhere (s.putMessageQueue k wake) k where
  queue j _ := rfl
  sent j _ := rfl
  dispatched j _ := rfl
  holds j hj a := by simp [holds_putMessageQueue hwake, hj]
  runnable j _ v hv := by
    refine runnable_putMessageQueue hwake ?_
    intro hwaiting
    simp [hwaiting, LogicRunnable.held] at hv

theorem sameElsewhere_popFront {rest : List κ}
    (hlist : s.listMessageQueue = k :: rest) :
    s.SameElsewhere { s with listMessageQueue := rest } k where
  queue j _ := rfl
  sent j _ := rfl
  dispatched j _ := rfl
  holds j hj a := by
    cases a with
    | ready => simp [hlist, hj]
    | runnable v => exact Iff.rfl
    | sender u => exact Iff.rfl
  runnable j _ v _ := rfl

/-- A step that touches one queue only has to be looked at there. -/
theorem Inv.of_sameElsewhere (phase : Phase ω σ π) (h : s.Inv)
    (hsame : s.SameElsewhere t k)
    (hnodup : t.listMessageQueue.Nodup)
    (hk : t.InPhase k phase) : t.Inv := by
  refine ⟨hnodup, fun j => ?_⟩
  by_cases hjk : j = k
  · subst hjk
    exact ⟨phase, hk⟩
  · obtain ⟨phase', hj⟩ := h.exists_phase j
    exact ⟨phase', hj.congr (hsame.queue j hjk) (hsame.sent j hjk)
      (hsame.dispatched j hjk) (hsame.holds j hjk) (hsame.runnable j hjk)⟩

end

/-! ## One lemma for every step -/

section

variable {s : QueueState κ ω σ π} {k : κ} {u : σ} {w : ω}

theorem inv_send (h : s.Inv) (packet : π)
    (hu : s.sender u = .idle) :
    (s.send u k packet).Inv := by
  obtain ⟨phase, hk⟩ := h.exists_phase k
  by_cases hflag : (s.queue k).flag = .notInList
  · -- the queue was in no list, so the sender goes on to put it
    cases hk.eq_idle hflag
    rw [send, if_pos hflag]
    refine Inv.of_sameElsewhere (k := k) (.sending u) h ?_ h.nodup ?_
    · refine sameElsewhere_enqueue.trans (sameElsewhere_setSender ?_ ?_)
      · intro j hj
        have hidle : s.sender u = .putting j := hj
        rw [hu] at hidle
        cases hidle
      · intro j hj
        exact (Sender.putting.inj hj).symm
    · have hempty := hk.packets_eq_nil rfl
      have hsent := hk.sent_eq
      refine ⟨?_, ?_, ?_, ?_, ?_, ?_, ?_⟩
      · intro a
        have ha := hk.holds_iff a
        rw [holds_setSender]
        cases a <;> simp_all [Phase.holder, enqueue, setQueue]
        grind
      · simp [Phase.runnable]
      · simp [enqueue, setQueue, setSender, LogicMessageQueue.send, hflag, Phase.flag]
      · simp [enqueue, setQueue, setSender, LogicMessageQueue.send, hflag, Phase.locked]
      · simp [enqueue, setQueue, setSender]
      · simp [Phase.flag]
      · simp_all [enqueue, setQueue, setSender, Phase.inHand]
  · rw [send, if_neg hflag]
    refine Inv.of_sameElsewhere (k := k) phase h sameElsewhere_enqueue
      h.nodup ?_
    refine ⟨?_, hk.runnable_eq, ?_, ?_, ?_, ?_, ?_⟩
    · intro a
      rw [← hk.holds_iff]
      cases a <;> rfl
    · simp [enqueue, setQueue, LogicMessageQueue.send_of_ne hflag, hk.flag_eq]
    · simp [enqueue, setQueue, LogicMessageQueue.send_of_ne hflag, hk.locked_eq]
    · simp [enqueue, setQueue]
    · intro hphase
      exact absurd (hk.flag_eq.trans hphase) hflag
    · simp [enqueue, setQueue, hk.sent_eq]

theorem inv_sendPut (h : s.Inv) {wake : Option ω}
    (hu : s.sender u = .putting k) (hwake : s.NotifyOne wake) :
    (((s.putMessageQueue k wake).setQueue k (s.queue k).unlock).setSender
      u .idle).Inv := by
  obtain ⟨phase, hk⟩ := h.exists_phase k
  cases hk.eq_sending hu
  have hready : k ∉ s.listMessageQueue := fun hmem => by
    cases hk.eq_ready hmem
  refine Inv.of_sameElsewhere (k := k) .ready h ?_ ?_ ?_
  · refine ((sameElsewhere_putMessageQueue hwake).trans
      (sameElsewhere_setQueue _)).trans (sameElsewhere_setSender ?_ ?_)
    · intro j hj
      rw [show s.sender u = .putting j from hj] at hu
      exact Sender.putting.inj hu
    · intro j hj
      cases hj
  · exact List.Nodup.append h.nodup (List.nodup_singleton k) (by simpa)
  · refine ⟨?_, ?_, ?_, ?_, ?_, ?_, ?_⟩
    · intro a
      rw [holds_setSender, holds_setQueue, holds_putMessageQueue hwake,
        hk.holds_iff]
      cases a <;> simp [Phase.holder]
      grind
    · simp [Phase.runnable]
    · simpa [setQueue, setSender, Phase.flag] using hk.flag_eq
    · simp [setQueue, setSender, Phase.locked]
    · simpa [setQueue, setSender, Phase.flag] using hk.packets_ne_nil
    · simp [Phase.flag]
    · simpa [putMessageQueue, setQueue, setSender, Phase.inHand]
        using hk.sent_eq

theorem inv_get (h : s.Inv) {rest : List κ}
    (hw : s.runnable w = .getting)
    (hlist : s.listMessageQueue = k :: rest) :
    (s.get w k rest).Inv := by
  obtain ⟨phase, hk⟩ := h.exists_phase k
  cases hk.eq_ready (by simp [hlist])
  have hnodup := h.nodup
  rw [hlist, List.nodup_cons] at hnodup
  refine Inv.of_sameElsewhere (k := k) (.taken w) h ?_ hnodup.2 ?_
  · refine (sameElsewhere_setRunnable (w := w) (r := .taken k) ?_ ?_).trans
      (sameElsewhere_popFront hlist)
    · intro j hj
      simp [hw, LogicRunnable.held] at hj
    · intro j hj
      exact (Option.some.inj hj).symm
  · refine ⟨?_, ?_, hk.flag_eq, hk.locked_eq, hk.packets_ne_nil, ?_, hk.sent_eq⟩
    · intro a
      have ha := hk.holds_iff a
      cases a with
      | ready => simp [Phase.holder, get, hnodup.1]
      | sender u => simpa [Phase.holder, get, setRunnable] using ha
      | runnable v =>
          have hv := holds_setRunnable (s := s) (j := k) (w := w)
            (r := .taken k) (a := .runnable v)
          simp_all [Phase.holder, get, setRunnable, LogicRunnable.held]
          grind
    · simp [Phase.runnable, get, setRunnable]
    · simp [Phase.flag]

/-- A thread that holds no queue may wait or be woken. -/
theorem inv_setRunnable (h : s.Inv) {r : LogicRunnable κ π}
    (hold : (s.runnable w).held = none) (hnew : r.held = none) :
    (s.setRunnable w r).Inv := by
  refine ⟨h.nodup, fun j => ?_⟩
  obtain ⟨phase, hj⟩ := h.exists_phase j
  refine ⟨phase, hj.congr rfl rfl rfl ?_ ?_⟩
  · intro a
    rw [holds_setRunnable]
    split
    · rename_i ha
      subst ha
      simp [hold, hnew]
    · exact Iff.rfl
  · intro v hv
    have hvw : v ≠ w := by
      rintro rfl
      simp [hold] at hv
    simp [setRunnable, hvw]

/-- The holder of a queue moves on without giving the queue up. -/
theorem holds_setRunnable_of_held {r : LogicRunnable κ π}
    (hold : (s.runnable w).held = some k) (hnew : r.held = some k)
    (a : Holder ω σ) :
    (s.setRunnable w r).Holds k a ↔ s.Holds k a := by
  rw [holds_setRunnable]
  split
  · rename_i ha
    subst ha
    simp [hold, hnew]
  · exact Iff.rfl

theorem inv_recv (h : s.Inv)
    (hw : s.runnable w = .taken k) :
    (s.recv w k).Inv := by
  obtain ⟨phase, hk⟩ := h.exists_phase k
  cases hk.eq_taken hw
  have hheld : (s.runnable w).held = some k := by
    simp [hw, LogicRunnable.held]
  rw [recv, LogicMessageQueue.recv_of_inList hk.flag_eq]
  refine Inv.of_sameElsewhere (k := k)
    (.dispatching w (s.queue k).vecMessagePacket) h ?_ h.nodup ?_
  · refine (sameElsewhere_setQueue _).trans (sameElsewhere_setRunnable ?_ ?_)
    · intro j hj
      exact Option.some.inj (hj.symm.trans hheld)
    · intro j hj
      exact (Option.some.inj hj).symm
  · refine ⟨?_, ?_, ?_, ?_, ?_, ?_, ?_⟩
    · intro a
      refine (holds_setRunnable_of_held ?_ rfl a).trans ?_
      · exact hheld
      · exact holds_setQueue.trans (hk.holds_iff a)
    · simp [Phase.runnable, setRunnable]
    · simp [setRunnable, setQueue, Phase.flag]
    · simpa [setRunnable, setQueue, Phase.locked] using hk.locked_eq
    · simp [Phase.flag]
    · simp [Phase.flag]
    · simpa [setRunnable, setQueue, Phase.inHand] using hk.sent_eq

theorem inv_dispatch (h : s.Inv) {packet : π} {rest : List π}
    (hw : s.runnable w = .dispatching k (packet :: rest)) :
    (s.dispatch w k packet rest).Inv := by
  obtain ⟨phase, hk⟩ := h.exists_phase k
  cases hk.eq_dispatching hw
  have hheld : (s.runnable w).held = some k := by
    simp [hw, LogicRunnable.held]
  have hholds : ∀ j a, (s.dispatch w k packet rest).Holds j a ↔
      (s.setRunnable w (.dispatching k rest)).Holds j a := by
    intro j a
    cases a <;> rfl
  refine Inv.of_sameElsewhere (k := k) (.dispatching w rest) h ?_
    h.nodup ?_
  · have hsame : s.SameElsewhere (s.setRunnable w (.dispatching k rest)) k := by
      refine sameElsewhere_setRunnable ?_ ?_
      · intro j hj
        exact Option.some.inj (hj.symm.trans hheld)
      · intro j hj
        exact (Option.some.inj hj).symm
    refine ⟨hsame.queue, hsame.sent, ?_, ?_, hsame.runnable⟩
    · intro j hj
      simp [dispatch, hj]
    · intro j hj a
      exact (hholds j a).trans (hsame.holds j hj a)
  · refine ⟨?_, ?_, hk.flag_eq, hk.locked_eq, ?_, ?_, ?_⟩
    · intro a
      rw [hholds, holds_setRunnable_of_held (k := k) hheld rfl, hk.holds_iff]
      rfl
    · simp [Phase.runnable, dispatch, setRunnable]
    · simp [Phase.flag]
    · simp [Phase.flag]
    · simpa [dispatch, setRunnable, Phase.inHand] using hk.sent_eq

theorem inv_dispatchEnd (h : s.Inv)
    (hw : s.runnable w = .dispatching k []) :
    (s.dispatchEnd w k).Inv := by
  obtain ⟨phase, hk⟩ := h.exists_phase k
  cases hk.eq_dispatching hw
  have hheld : (s.runnable w).held = some k := by
    simp [hw, LogicRunnable.held]
  by_cases hempty : (s.queue k).vecMessagePacket = []
  · -- nothing arrived during the dispatch: the queue becomes idle
    rw [dispatchEnd, LogicMessageQueue.dispatchEnd_of_nil hk.flag_eq hempty]
    refine Inv.of_sameElsewhere (k := k) .idle h ?_ h.nodup ?_
    · refine (sameElsewhere_setQueue _).trans
        (sameElsewhere_setRunnable ?_ ?_)
      · intro j hj
        exact Option.some.inj (hj.symm.trans hheld)
      · intro j hj
        simp [LogicRunnable.held] at hj
    · refine ⟨?_, ?_, ?_, ?_, ?_, ?_, ?_⟩
      · intro a
        rw [holds_setRunnable, holds_setQueue, hk.holds_iff]
        simp [Phase.holder, LogicRunnable.held]
        grind
      · simp [Phase.runnable]
      · simp [setRunnable, setQueue, Phase.flag]
      · simpa [setRunnable, setQueue, Phase.locked] using hk.locked_eq
      · simp [Phase.flag]
      · simpa [setRunnable, setQueue, Phase.flag] using hempty
      · simpa [setRunnable, setQueue, Phase.inHand] using hk.sent_eq
  · -- packets arrived: the thread goes on to put the queue back
    rw [dispatchEnd,
      LogicMessageQueue.dispatchEnd_of_ne_nil hk.flag_eq hempty]
    refine Inv.of_sameElsewhere (k := k) (.putting w) h ?_ h.nodup ?_
    · refine (sameElsewhere_setQueue _).trans
        (sameElsewhere_setRunnable ?_ ?_)
      · intro j hj
        exact Option.some.inj (hj.symm.trans hheld)
      · intro j hj
        exact (Option.some.inj hj).symm
    · refine ⟨?_, ?_, ?_, ?_, ?_, ?_, ?_⟩
      · intro a
        refine (holds_setRunnable_of_held ?_ rfl a).trans ?_
        · exact hheld
        · exact holds_setQueue.trans (hk.holds_iff a)
      · simp [Phase.runnable, setRunnable]
      · simp [setRunnable, setQueue, Phase.flag]
      · simp [setRunnable, setQueue, Phase.locked]
      · simpa [setRunnable, setQueue, Phase.flag] using hempty
      · simp [Phase.flag]
      · simpa [setRunnable, setQueue, Phase.inHand] using hk.sent_eq

theorem inv_put (h : s.Inv) {wake : Option ω}
    (hw : s.runnable w = .putting k) (hwake : s.NotifyOne wake) :
    (((s.putMessageQueue k wake).setQueue k (s.queue k).unlock).setRunnable
      w .getting).Inv := by
  obtain ⟨phase, hk⟩ := h.exists_phase k
  cases hk.eq_putting hw
  have hready : k ∉ s.listMessageQueue := fun hmem => by
    cases hk.eq_ready hmem
  refine Inv.of_sameElsewhere (k := k) .ready h ?_ ?_ ?_
  · refine ((sameElsewhere_putMessageQueue hwake).trans
      (sameElsewhere_setQueue _)).trans (sameElsewhere_setRunnable ?_ ?_)
    · intro j hj
      have hheld := held_putMessageQueue (k := k) hwake w
      rw [hw] at hheld
      exact Option.some.inj (hj.symm.trans hheld)
    · intro j hj
      simp [LogicRunnable.held] at hj
  · exact List.Nodup.append h.nodup (List.nodup_singleton k) (by simpa)
  · refine ⟨?_, ?_, ?_, ?_, ?_, ?_, ?_⟩
    · intro a
      rw [holds_setRunnable, holds_setQueue, holds_putMessageQueue hwake,
        hk.holds_iff]
      cases a <;> simp [Phase.holder, LogicRunnable.held]
      grind
    · simp [Phase.runnable]
    · simpa [setQueue, setRunnable, Phase.flag] using hk.flag_eq
    · simp [setQueue, setRunnable, Phase.locked]
    · simpa [setQueue, setRunnable, Phase.flag] using hk.packets_ne_nil
    · simp [Phase.flag]
    · simpa [putMessageQueue, setQueue, setRunnable, Phase.inHand]
        using hk.sent_eq

/-- Every step of every thread keeps the invariant. -/
theorem Inv.step {t : QueueState κ ω σ π} {l : QueueLabel κ ω σ π}
    (h : s.Inv) (hstep : Step s l t) : t.Inv := by
  cases hstep with
  | send hu _ => exact inv_send h _ hu
  | sendPut hu hwake => exact inv_sendPut h hu hwake
  | get hw hlist => exact inv_get h hw hlist
  | wait hw _ =>
      exact inv_setRunnable h (by simp [hw, LogicRunnable.held]) rfl
  | wakeUp hw =>
      exact inv_setRunnable h (by simp [hw, LogicRunnable.held]) rfl
  | recv hw _ => exact inv_recv h hw
  | dispatch hw => exact inv_dispatch h hw
  | dispatchEnd hw _ => exact inv_dispatchEnd h hw
  | put hw hwake => exact inv_put h hw hwake

/-- The invariant holds in every reachable state. -/
theorem inv_of_reachable
    (h : (queueSystem κ ω σ π).Reachable s) : s.Inv := by
  refine h.invariant ?_ ?_
  · rintro _ rfl
    exact inv_initial
  · intro s l t hs hstep
    exact hs.step hstep

end

end QueueState

end RealtimeEx.Core
