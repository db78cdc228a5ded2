import Mathlib.Tactic.Common
import RealtimeEx.Support.History
import RealtimeEx.Support.Ring

/-!
# `CCircleQueue`

A queue in an array of `m_nQueueCapacity` slots, of which one is always free: when the
last one is filled, the array is doubled.  Beside it stands the queue that is meant.
-/

namespace RealtimeEx.Base

universe u

variable {T : Type u}

/-- `CCircleQueue`; a slot that was never written is `none`.  The capacity is an `int32_t`. -/
structure CircleQueue (T : Type u) where
  pQueue : List (Option T)
  nQueueBegin : ℕ
  nQueueEnd : ℕ
  nQueueCapacity : ℤ

namespace CircleQueue

/-- The constructor. -/
def create (T : Type u) (nCap : UInt32) : CircleQueue T where
  pQueue := List.replicate nCap.toNat none
  nQueueBegin := 0
  nQueueEnd := 0
  nQueueCapacity := nCap.toInt32.toInt

/-- `size`. -/
def size (q : CircleQueue T) : ℤ :=
  if q.nQueueEnd ≥ q.nQueueBegin then
    q.nQueueEnd - q.nQueueBegin
  else
    q.nQueueCapacity - (q.nQueueBegin - q.nQueueEnd)

/-- `empty`. -/
def empty (q : CircleQueue T) : Bool := q.nQueueEnd = q.nQueueBegin

/-- An index after `++`, and back to the front from the capacity on. -/
def next (q : CircleQueue T) (i : ℕ) : ℕ := if (i + 1 : ℤ) ≥ q.nQueueCapacity then 0 else i + 1

/-- The array of twice the capacity, in which the items start at the front.  `none` if there
is none: the product is negative or no `int32_t`. -/
def grow (q : CircleQueue T) : Option (CircleQueue T) :=
  if q.nQueueCapacity < 0 ∨ q.nQueueCapacity * 2 ≥ 2 ^ 31 then
    none
  else
    let nCap := q.nQueueCapacity.toNat
    some {
      pQueue := ringItems none q.pQueue q.nQueueBegin nCap ++ List.replicate nCap none
      nQueueBegin := 0
      nQueueEnd := nCap
      nQueueCapacity := q.nQueueCapacity * 2 }

/-- `send`.  `none` if it writes behind the array, or if it cannot grow. -/
def send (FIX : Bool) (q : CircleQueue T) (sValue : T) : Option (Bool × CircleQueue T) :=
  if FIX && q.size = q.nQueueCapacity then
    some (false, q)
  else if q.nQueueEnd ≥ q.pQueue.length then
    none
  else
    let q' := { q with
      pQueue := q.pQueue.set q.nQueueEnd (some sValue)
      nQueueEnd := q.next q.nQueueEnd }
    if q'.nQueueBegin = q'.nQueueEnd then
      q'.grow.map (true, ·)
    else
      some (true, q')

/-- `recv`: what `sValue` is set to, if it returns `true`. -/
def recv (q : CircleQueue T) : Option (Option T) × CircleQueue T :=
  if q.empty then
    (none, q)
  else
    (some (q.pQueue.getD q.nQueueBegin none), { q with nQueueBegin := q.next q.nQueueBegin })

end CircleQueue

/-! ## Runs -/

/-- A call of `send` or of `recv`. -/
inductive QueueCall (T : Type u)
  | send (sValue : T)
  | recv

/-- What a call returns. -/
inductive QueueResult (T : Type u)
  | sent (accepted : Bool)
  | received (sValue : Option (Option T))

/-- A queue and a list of the items that are in it: pushed and not yet popped.  A fixed one
takes no more than `nCap` of them. -/
structure QueueRun (T : Type u) where
  queue : Option (CircleQueue T)
  before : Option (CircleQueue T)
  result : Option (QueueResult T)
  pending : List T
  expected : Option (QueueResult T)

namespace QueueRun

/-- The call on the queue. -/
def call (FIX : Bool) (q : CircleQueue T) : QueueCall T → Option (QueueResult T × CircleQueue T)
  | .send sValue => (q.send FIX sValue).map fun r => (.sent r.1, r.2)
  | .recv => some (.received q.recv.1, q.recv.2)

/-- The call on the items: first in, first out. -/
def expect (FIX : Bool) (nCap : UInt32) (pending : List T) :
    QueueCall T → QueueResult T × List T
  | .send sValue =>
      if FIX && pending.length = nCap.toNat then
        (.sent false, pending)
      else
        (.sent true, pending ++ [sValue])
  | .recv =>
      match pending with
      | [] => (.received none, [])
      | sValue :: pending => (.received (some (some sValue)), pending)

def start (T : Type u) (nCap : UInt32) : QueueRun T where
  queue := some (CircleQueue.create T nCap)
  before := none
  result := none
  pending := []
  expected := none

def step (FIX : Bool) (nCap : UInt32) (s : QueueRun T) (e : QueueCall T) : QueueRun T where
  queue := (s.queue.bind (call FIX · e)).map Prod.snd
  before := s.queue
  result := (s.queue.bind (call FIX · e)).map Prod.fst
  pending := (expect FIX nCap s.pending e).2
  expected := some (expect FIX nCap s.pending e).1

/-- The queue exists, it counts the items that are in it, and the last call returned what it
should; a `send` that was refused changed nothing. -/
structure Right (s : QueueRun T) : Prop where
  result : s.result = s.expected
  size : s.queue.map CircleQueue.size = some (s.pending.length : ℤ)
  refused : s.expected = some (.sent false) → s.queue = s.before

/-- A `send` for which there is room: a slot besides the free one, or twice the capacity is
an `int32_t`.  A fixed queue is not full, unless it has no slots at all. -/
def HasRoom (FIX : Bool) (nCap : UInt32) (s : QueueRun T) : QueueCall T → Prop
  | .send _ =>
      (FIX = true ∧ nCap = 0) ∨
        ((FIX = true → s.pending.length ≠ nCap.toNat) ∧
          ∃ q ∈ s.queue, 0 < q.nQueueCapacity ∧
            ((s.pending.length : ℤ) + 1 < q.nQueueCapacity ∨ q.nQueueCapacity * 2 < 2 ^ 31))
  | .recv => True

end QueueRun

/-! ## The queue keeps its items -/

namespace CircleQueue

/-- The items are the slots from the front on, and one slot is left. -/
structure Holds (q : CircleQueue T) (pending : List T) : Prop where
  capacity : q.nQueueCapacity = q.pQueue.length
  begin_lt : q.nQueueBegin < q.pQueue.length
  free : pending.length < q.pQueue.length
  ends : q.nQueueEnd = (q.nQueueBegin + pending.length) % q.pQueue.length
  items : ringItems none q.pQueue q.nQueueBegin pending.length = pending.map some

variable {q : CircleQueue T} {pending : List T}

theorem Holds.size_eq (h : Holds q pending) : q.size = pending.length := by
  have hbegin := h.begin_lt
  have hfree := h.free
  rw [size, h.capacity, h.ends]
  rcases Nat.lt_or_ge (q.nQueueBegin + pending.length) q.pQueue.length with hin | hout
  · rw [Nat.mod_eq_of_lt hin]
    split <;> omega
  · rw [Nat.mod_eq_sub_mod hout, Nat.mod_eq_of_lt (by omega)]
    split <;> omega

/-- An index and its successor go around. -/
theorem next_eq (hcapacity : q.nQueueCapacity = q.pQueue.length) {i : ℕ}
    (hi : i < q.pQueue.length) : q.next i = (i + 1) % q.pQueue.length := by
  rw [next, hcapacity]
  rcases Nat.lt_or_ge (i + 1) q.pQueue.length with hin | hout
  · rw [if_neg (by omega), Nat.mod_eq_of_lt hin]
  · rw [if_pos (by omega), show i + 1 = q.pQueue.length by omega, Nat.mod_self]

theorem Holds.end_lt (h : Holds q pending) : q.nQueueEnd < q.pQueue.length := by
  rw [h.ends]
  exact Nat.mod_lt _ (Nat.zero_lt_of_lt h.begin_lt)

theorem Holds.empty_iff (h : Holds q pending) : q.empty = true ↔ pending = [] := by
  have hsize := h.size_eq
  have hend := h.end_lt
  rw [size, h.capacity] at hsize
  rw [empty, decide_eq_true_iff, ← List.length_eq_zero_iff]
  have hbegin := h.begin_lt
  split at hsize <;> omega

/-- A `recv` takes the first item. -/
theorem Holds.recv {v : T} (h : Holds q (v :: pending)) :
    q.recv.1 = some (some v) ∧ Holds q.recv.2 pending := by
  have hne : ¬ q.empty = true := fun hempty => List.cons_ne_nil _ _ (h.empty_iff.mp hempty)
  have hitems := h.items
  rw [List.length_cons, ringItems_succ, Nat.mod_eq_of_lt h.begin_lt, List.map_cons,
    List.cons.injEq] at hitems
  have hrecv : q.recv = (some (q.pQueue.getD q.nQueueBegin none),
      { q with nQueueBegin := q.next q.nQueueBegin }) := if_neg hne
  have hends := h.ends
  have hfree := h.free
  rw [List.length_cons] at hends hfree
  rw [hrecv]
  refine ⟨congrArg some hitems.1, h.capacity, ?_, Nat.lt_of_succ_lt hfree, ?_, ?_⟩
  · exact (next_eq h.capacity h.begin_lt).trans_lt (Nat.mod_lt _ (Nat.zero_lt_of_lt h.begin_lt))
  · change q.nQueueEnd = (q.next q.nQueueBegin + pending.length) % q.pQueue.length
    rw [next_eq h.capacity h.begin_lt, Nat.mod_add_mod, hends, Nat.add_assoc, Nat.add_comm 1]
  · change ringItems none q.pQueue (q.next q.nQueueBegin) pending.length = _
    rw [next_eq h.capacity h.begin_lt, ringItems_mod]
    exact hitems.2

/-- The queue with a value behind the last one. -/
def written (q : CircleQueue T) (v : T) : CircleQueue T :=
  { q with pQueue := q.pQueue.set q.nQueueEnd (some v), nQueueEnd := q.next q.nQueueEnd }

theorem Holds.send_eq (h : Holds q pending) (FIX : Bool) (v : T) :
    q.send FIX v =
      if q.nQueueBegin = (q.written v).nQueueEnd then (q.written v).grow.map (true, ·)
      else some (true, q.written v) := by
  have hfull : ¬ (FIX && decide (q.size = q.nQueueCapacity)) = true := by
    rw [Bool.and_eq_true, decide_eq_true_iff, h.size_eq, h.capacity]
    have hfree := h.free
    omega
  rw [send, if_neg hfull, if_neg (Nat.not_le.mpr h.end_lt)]
  rfl

theorem Holds.written_end (h : Holds q pending) (v : T) :
    (q.written v).nQueueEnd =
      (q.nQueueBegin + (pending ++ [v]).length) % q.pQueue.length := by
  change q.next q.nQueueEnd = _
  rw [next_eq h.capacity h.end_lt, h.ends, Nat.mod_add_mod, List.length_append,
    List.length_singleton, Nat.add_assoc]

theorem Holds.written_items (h : Holds q pending) (v : T) :
    ringItems none (q.written v).pQueue q.nQueueBegin (pending ++ [v]).length =
      (pending ++ [v]).map some := by
  change ringItems none (q.pQueue.set q.nQueueEnd (some v)) _ _ = _
  rw [h.ends, List.length_append, List.length_singleton, ringItems_set h.free, h.items,
    List.map_append, List.map_singleton]

/-- The indices meet just if the last slot was filled. -/
theorem Holds.begin_eq_iff (h : Holds q pending) (v : T) :
    q.nQueueBegin = (q.written v).nQueueEnd ↔ pending.length + 1 = q.pQueue.length := by
  have hbegin := h.begin_lt
  have hfree := h.free
  rw [h.written_end, List.length_append, List.length_singleton]
  rcases Nat.lt_or_ge (q.nQueueBegin + (pending.length + 1)) q.pQueue.length with hin | hout
  · rw [Nat.mod_eq_of_lt hin]
    omega
  · rw [Nat.mod_eq_sub_mod hout]
    rcases Nat.lt_or_ge (q.nQueueBegin + (pending.length + 1) - q.pQueue.length)
      q.pQueue.length with hin | hout'
    · rw [Nat.mod_eq_of_lt hin]
      omega
    · omega

/-- The items of a full array stand at the front of the larger one, in their order. -/
theorem holds_of_grow (items : List T) (hcapacity : q.nQueueCapacity = q.pQueue.length)
    (hpos : 0 < q.pQueue.length) (hlength : items.length = q.pQueue.length)
    (hitems : ringItems none q.pQueue q.nQueueBegin items.length = items.map some)
    (hroom : q.nQueueCapacity * 2 < 2 ^ 31) : ∃ q', q.grow = some q' ∧ Holds q' items := by
  have hnot : ¬ (q.nQueueCapacity < 0 ∨ q.nQueueCapacity * 2 ≥ 2 ^ 31) := by omega
  have hnCap : q.nQueueCapacity.toNat = items.length := by omega
  refine ⟨_, if_neg hnot, ?_⟩
  have hlarger : (ringItems none q.pQueue q.nQueueBegin q.nQueueCapacity.toNat ++
      List.replicate q.nQueueCapacity.toNat none).length = items.length * 2 := by
    rw [List.length_append, length_ringItems, List.length_replicate, hnCap]
    omega
  constructor
  · dsimp only
    rw [hlarger]
    omega
  · dsimp only
    rw [hlarger]
    omega
  · dsimp only
    rw [hlarger]
    omega
  · dsimp only
    rw [hlarger, hnCap, Nat.zero_add, Nat.mod_eq_of_lt (by omega)]
  · dsimp only
    rw [hnCap, hitems]
    simpa using ringItems_append (d := none) (items.map some) (List.replicate items.length none)

/-- A `send` adds the last item. -/
theorem Holds.send_of_room (h : Holds q pending) (FIX : Bool) (v : T)
    (hroom : (pending.length : ℤ) + 1 < q.nQueueCapacity ∨ q.nQueueCapacity * 2 < 2 ^ 31) :
    ∃ q', q.send FIX v = some (true, q') ∧ Holds q' (pending ++ [v]) := by
  have hlength : (q.written v).pQueue.length = q.pQueue.length := List.length_set ..
  have hfree := h.free
  have hbegin := h.begin_lt
  rw [h.send_eq FIX v]
  by_cases hmeet : pending.length + 1 = q.pQueue.length
  · rw [if_pos ((h.begin_eq_iff v).mpr hmeet)]
    obtain ⟨q', hgrow, hholds⟩ := holds_of_grow (q := q.written v) (pending ++ [v])
      (h.capacity.trans (by rw [hlength])) (by omega)
      (by rw [hlength, List.length_append, List.length_singleton, hmeet]) (h.written_items v)
      (hroom.resolve_left (by rw [h.capacity]; omega))
    exact ⟨q', by rw [hgrow]; rfl, hholds⟩
  · rw [if_neg fun heq => hmeet ((h.begin_eq_iff v).mp heq)]
    refine ⟨_, rfl, h.capacity.trans (by rw [hlength]), ?_, ?_, ?_, h.written_items v⟩
    · rw [hlength]
      exact hbegin
    · rw [hlength, List.length_append, List.length_singleton]
      omega
    · rw [hlength]
      exact h.written_end v

theorem Holds.send_of_no_room (h : Holds q pending) (FIX : Bool) (v : T)
    (hlast : q.nQueueCapacity ≤ (pending.length : ℤ) + 1)
    (hlarge : 2 ^ 31 ≤ q.nQueueCapacity * 2) : q.send FIX v = none := by
  have hfree := h.free
  have hcapacity := h.capacity
  have hgrow : (q.written v).grow = none := if_pos (Or.inr hlarge)
  rw [h.send_eq FIX v, if_pos ((h.begin_eq_iff v).mpr (by omega)), hgrow]
  rfl

/-! ## Queues without slots -/

theorem capacity_create (nCap : UInt32) :
    (create T nCap).nQueueCapacity = if nCap.toNat < 2 ^ 31 then (nCap.toNat : ℤ)
      else nCap.toNat - 2 ^ 32 := by
  change nCap.toBitVec.toInt = _
  rw [BitVec.toInt_eq_toNat_cond, UInt32.toNat_toBitVec]
  refine if_congr ?_ rfl rfl
  omega

/-- A new queue holds nothing, or its capacity is not positive. -/
theorem holds_create (nCap : UInt32) (hpos : 0 < (create T nCap).nQueueCapacity) :
    Holds (create T nCap) [] := by
  have hlength : (create T nCap).pQueue.length = nCap.toNat := List.length_replicate
  have hlt := nCap.toNat_lt
  rw [capacity_create] at hpos
  have hsmall : nCap.toNat < 2 ^ 31 := by
    split at hpos <;> omega
  rw [if_pos hsmall] at hpos
  constructor
  · rw [capacity_create, if_pos hsmall, hlength]
  · rw [hlength]
    exact Int.natCast_pos.mp hpos
  · rw [hlength]
    exact Int.natCast_pos.mp hpos
  · exact (Nat.zero_mod _).symm
  · rfl

/-- Such a queue refuses everything, or a `send` fails. -/
theorem send_create (FIX : Bool) (nCap : UInt32) (v : T)
    (hcap : (create T nCap).nQueueCapacity ≤ 0) :
    (create T nCap).send FIX v =
      if FIX = true ∧ nCap = 0 then some (false, create T nCap) else none := by
  have hlt := nCap.toNat_lt
  have hlength : (create T nCap).pQueue.length = nCap.toNat := List.length_replicate
  have hzero : (create T nCap).nQueueCapacity = 0 ↔ nCap = 0 := by
    rw [capacity_create, ← UInt32.toNat_inj]
    change _ ↔ nCap.toNat = 0
    split <;> omega
  have hfull : (FIX && decide ((create T nCap).size = (create T nCap).nQueueCapacity)) = true ↔
      FIX = true ∧ nCap = 0 := by
    rw [Bool.and_eq_true, decide_eq_true_iff, ← hzero]
    exact and_congr_right fun _ => eq_comm
  rw [send]
  by_cases hrefused : FIX = true ∧ nCap = 0
  · rw [if_pos (hfull.mpr hrefused), if_pos hrefused]
  · rw [if_neg (mt hfull.mp hrefused), if_neg hrefused]
    by_cases hslots : (create T nCap).nQueueEnd ≥ (create T nCap).pQueue.length
    · rw [if_pos hslots]
    · rw [if_neg hslots]
      have hneg : (create T nCap).nQueueCapacity < 0 := by
        refine lt_of_le_of_ne hcap fun h => hslots ?_
        rw [hlength, hzero.mp h]
        exact Nat.le_refl 0
      have hnext : (create T nCap).next (create T nCap).nQueueEnd = 0 := by
        rw [next, if_pos]
        change (0 + 1 : ℤ) ≥ _
        omega
      have hbegin : (create T nCap).nQueueBegin = 0 := rfl
      dsimp only
      rw [hnext, if_pos hbegin, grow, if_pos (Or.inl hneg)]
      rfl

end CircleQueue

namespace QueueRun

open CircleQueue

variable {FIX : Bool} {nCap : UInt32} {s : QueueRun T}

/-- The queue holds the items, or it is a new one that has no slots. -/
def Sound (nCap : UInt32) (s : QueueRun T) : Prop :=
  ∃ q, s.queue = some q ∧
    if 0 < (create T nCap).nQueueCapacity then Holds q s.pending
    else q = create T nCap ∧ s.pending = []

theorem sound_start : Sound nCap (start T nCap) := by
  refine ⟨create T nCap, rfl, ?_⟩
  split
  · rename_i hpos
    exact holds_create nCap hpos
  · exact ⟨rfl, rfl⟩

theorem size_of_sound (hs : Sound nCap s) :
    s.queue.map CircleQueue.size = some (s.pending.length : ℤ) := by
  obtain ⟨q, hq, hholds⟩ := hs
  rw [hq, Option.map_some]
  split at hholds
  · rw [hholds.size_eq]
  · obtain ⟨rfl, hpending⟩ := hholds
    rw [hpending]
    rfl

/-- What a call on the queue means for the next state. -/
theorem step_of_call (nCap : UInt32) {q q' : CircleQueue T} {e : QueueCall T}
    {r : QueueResult T} (hq : s.queue = some q) (hcall : call FIX q e = some (r, q')) :
    (step FIX nCap s e).queue = some q' ∧ (step FIX nCap s e).result = some r := by
  constructor
  · change (s.queue.bind (call FIX · e)).map Prod.snd = _
    rw [hq, Option.bind_some, hcall]
    rfl
  · change (s.queue.bind (call FIX · e)).map Prod.fst = _
    rw [hq, Option.bind_some, hcall]
    rfl

/-- A call that does as the items do, in the new state as well. -/
theorem right_of_call {q : CircleQueue T} (q' : CircleQueue T) {e : QueueCall T}
    (hq : s.queue = some q)
    (hcall : call FIX q e = some ((expect FIX nCap s.pending e).1, q'))
    (hrefused : (expect FIX nCap s.pending e).1 = .sent false → q' = q)
    (hholds : if 0 < (create T nCap).nQueueCapacity then
        Holds q' (expect FIX nCap s.pending e).2
      else q' = create T nCap ∧ (expect FIX nCap s.pending e).2 = []) :
    Sound nCap (step FIX nCap s e) ∧ Right (step FIX nCap s e) := by
  obtain ⟨hqueue, hresult⟩ := step_of_call nCap hq hcall
  have hsound : Sound nCap (step FIX nCap s e) := ⟨q', hqueue, hholds⟩
  refine ⟨hsound, hresult, size_of_sound hsound, fun h => ?_⟩
  rw [hqueue, hrefused (Option.some.inj h)]
  exact hq.symm

/-- A call that fails, or that does not do as the items do. -/
theorem not_right_of_call {q : CircleQueue T} {e : QueueCall T} (hq : s.queue = some q)
    (hcall : (call FIX q e).map Prod.fst ≠ some (expect FIX nCap s.pending e).1) :
    ¬ Right (step FIX nCap s e) := by
  intro hright
  have hresult := hright.result
  change (s.queue.bind (call FIX · e)).map Prod.fst = _ at hresult
  rw [hq, Option.bind_some] at hresult
  exact hcall hresult

theorem expect_send (pending : List T) (v : T)
    (hfull : FIX = true → pending.length ≠ nCap.toNat) :
    expect FIX nCap pending (.send v) = (.sent true, pending ++ [v]) := by
  refine if_neg fun h => ?_
  rw [Bool.and_eq_true, decide_eq_true_iff] at h
  exact hfull h.1 h.2

theorem expect_send_full (pending : List T) (v : T) (hFIX : FIX = true)
    (hfull : pending.length = nCap.toNat) :
    expect FIX nCap pending (.send v) = (.sent false, pending) := by
  refine if_pos ?_
  rw [Bool.and_eq_true, decide_eq_true_iff]
  exact ⟨hFIX, hfull⟩

/-- A `recv` is always right. -/
theorem step_recv (hs : Sound nCap s) :
    Sound nCap (step FIX nCap s .recv) ∧ Right (step FIX nCap s .recv) := by
  obtain ⟨q, hq, hholds⟩ := hs
  cases hpending : s.pending with
  | nil =>
      have hempty : q.empty = true := by
        split at hholds
        · exact hholds.empty_iff.mpr hpending
        · obtain ⟨rfl, -⟩ := hholds
          rfl
      have hrecv : q.recv = (none, q) := if_pos hempty
      refine right_of_call q hq ?_ ?_ ?_
      · rw [call, hrecv, hpending]
        rfl
      · exact fun _ => rfl
      · rw [hpending] at hholds ⊢
        exact hholds
  | cons v pending =>
      have hpos : 0 < (create T nCap).nQueueCapacity := by
        by_contra hnot
        rw [if_neg hnot, hpending] at hholds
        exact List.cons_ne_nil _ _ hholds.2
      rw [if_pos hpos, hpending] at hholds
      obtain ⟨hvalue, hrest⟩ := hholds.recv
      refine right_of_call q.recv.2 hq ?_ ?_ ?_
      · rw [call, hvalue, hpending]
        rfl
      · rw [hpending]
        exact fun h => nomatch h
      · rw [if_pos hpos, hpending]
        exact hrest

/-- A queue with slots does a `send` right just if there is room. -/
theorem step_send_of_holds {q : CircleQueue T} (hq : s.queue = some q)
    (hpos : 0 < (create T nCap).nQueueCapacity) (hholds : Holds q s.pending) (v : T) :
    (HasRoom FIX nCap s (.send v) →
        Sound nCap (step FIX nCap s (.send v)) ∧ Right (step FIX nCap s (.send v))) ∧
      (¬ HasRoom FIX nCap s (.send v) → ¬ Right (step FIX nCap s (.send v))) := by
  have hnonzero : nCap ≠ 0 := by
    rintro rfl
    exact absurd hpos (lt_irrefl (0 : ℤ))
  have hcapacity := hholds.capacity
  have hbegin := hholds.begin_lt
  constructor
  · intro hroom
    obtain ⟨-, hzero⟩ | ⟨hfull, q', hq', -, hroom⟩ := hroom
    · exact absurd hzero hnonzero
    · obtain rfl : q = q' := Option.some.inj (hq.symm.trans hq')
      obtain ⟨q', hsend, hholds'⟩ := hholds.send_of_room FIX v hroom
      have hexpect := expect_send s.pending v hfull
      refine right_of_call q' hq ?_ ?_ ?_
      · rw [call, hsend, hexpect]
        rfl
      · rw [hexpect]
        exact fun h => nomatch h
      · rw [if_pos hpos, hexpect]
        exact hholds'
  · intro hroom
    refine not_right_of_call hq ?_
    by_cases hspace : (s.pending.length : ℤ) + 1 < q.nQueueCapacity ∨
        q.nQueueCapacity * 2 < 2 ^ 31
    · -- the queue takes what a fixed one should refuse
      obtain ⟨q', hsend, -⟩ := hholds.send_of_room FIX v hspace
      have hfull : FIX = true ∧ s.pending.length = nCap.toNat := by
        by_contra hnot
        refine hroom (Or.inr ⟨fun hFIX heq => hnot ⟨hFIX, heq⟩, q, hq, ?_, hspace⟩)
        omega
      rw [call, hsend, expect_send_full s.pending v hfull.1 hfull.2]
      exact fun h => nomatch h
    · rw [not_or, not_lt, not_lt] at hspace
      rw [call, hholds.send_of_no_room FIX v hspace.1 hspace.2]
      exact fun h => nomatch h

/-- A queue without slots does a `send` right just if it is fixed: by refusing. -/
theorem step_send_of_create (hq : s.queue = some (create T nCap)) (hpending : s.pending = [])
    (hpos : ¬ 0 < (create T nCap).nQueueCapacity) (v : T) :
    (HasRoom FIX nCap s (.send v) →
        Sound nCap (step FIX nCap s (.send v)) ∧ Right (step FIX nCap s (.send v))) ∧
      (¬ HasRoom FIX nCap s (.send v) → ¬ Right (step FIX nCap s (.send v))) := by
  have hsend := send_create FIX nCap v (not_lt.mp hpos)
  constructor
  · intro hroom
    obtain hrefused | ⟨-, q', hq', hpos', -⟩ := hroom
    · rw [if_pos hrefused] at hsend
      have hfull : s.pending.length = nCap.toNat := by
        rw [hpending, hrefused.2]
        rfl
      have hexpect := expect_send_full s.pending v hrefused.1 hfull
      refine right_of_call (create T nCap) hq ?_ (fun _ => rfl) ?_
      · rw [call, hsend, hexpect]
        rfl
      · rw [if_neg hpos, hexpect]
        exact ⟨rfl, hpending⟩
    · obtain rfl : create T nCap = q' := Option.some.inj (hq.symm.trans hq')
      exact absurd hpos' hpos
  · intro hroom
    refine not_right_of_call hq ?_
    rw [call, hsend, if_neg fun h => hroom (Or.inl h)]
    exact fun h => nomatch h

/-- A `send` is right just if there is room. -/
theorem step_send (hs : Sound nCap s) (v : T) :
    (HasRoom FIX nCap s (.send v) →
        Sound nCap (step FIX nCap s (.send v)) ∧ Right (step FIX nCap s (.send v))) ∧
      (¬ HasRoom FIX nCap s (.send v) → ¬ Right (step FIX nCap s (.send v))) := by
  obtain ⟨q, hq, hholds⟩ := hs
  split at hholds
  · rename_i hpos
    exact step_send_of_holds hq hpos hholds v
  · rename_i hpos
    obtain ⟨rfl, hpending⟩ := hholds
    exact step_send_of_create hq hpending hpos v

/-! ## The result -/

/-- A queue is a queue, in growing and in fixed mode, just as long as every `send` has room. -/
theorem right_throughout_iff (T : Type u) (FIX : Bool) (nCap : UInt32)
    (calls : List (QueueCall T)) :
    (∀ ks, ks <+: calls → Right (ks.foldl (step FIX nCap) (start T nCap))) ↔
      Meets (step FIX nCap) (HasRoom FIX nCap) (start T nCap) calls := by
  refine throughout_iff_of_kept (I := Sound nCap) ?_ ?_ sound_start ?_ calls
  · intro s e hs _ hroom
    cases e with
    | send v => exact ((step_send hs v).1 hroom).1
    | recv => exact (step_recv hs).1
  · intro s e hs _
    cases e with
    | send v =>
        refine ⟨fun hright => ?_, fun hroom => ((step_send hs v).1 hroom).2⟩
        by_contra hroom
        exact (step_send hs v).2 hroom hright
    | recv => exact iff_of_true (step_recv hs).2 trivial
  · exact ⟨rfl, rfl, fun h => nomatch h⟩

/-- A fixed queue of one item takes a second one. -/
theorem not_right_fixed :
    ¬ ∀ ks : List (QueueCall ℕ), ks <+: [.send 1, .send 2] →
      Right (ks.foldl (step true 1) (start ℕ 1)) := by
  intro hright
  have hresult := (hright _ (List.prefix_refl _)).result
  exact nomatch hresult

end QueueRun

end RealtimeEx.Base
