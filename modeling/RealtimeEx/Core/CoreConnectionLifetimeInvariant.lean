import Mathlib.Data.List.Nodup
import RealtimeEx.Core.CoreConnectionLifetime
import RealtimeEx.Support.History

/-!
# No command outlives its connection

A connection is deleted when `eMCT_NOTIFY_SOCKET_DISCONNECT_ACK` is processed.  The
logic thread sends that after the last packet of the connection, when its base
connection is gone, and the packet it answers to was sent after the last callback of the
connecter.  So nothing behind the answer refers to the connection, on either side.
-/

namespace RealtimeEx.Core

open Base

universe u

variable {σ : Type u}

/-! ## Owners -/

/-- The queue of a live connection, and whether its connecter still calls it. -/
def CNetRunnable.owner (r : CNetRunnable (LiveConnection σ)) (nSocketID : UInt64) :
    Option (ℕ × Bool) :=
  r.mapCoreConnectionByID[nSocketID]?.map fun c => (c.pMessageQueue, c.bConnecter)

namespace CNetRunnable

variable {r r' r'' : CNetRunnable (LiveConnection σ)} {nSocketID : UInt64}
  {f : LiveConnection σ → LiveConnection σ}

/-- The connections have the same owners, and the same commands wait. -/
structure SameOwners (r r' : CNetRunnable (LiveConnection σ)) : Prop where
  owner_eq : r'.owner = r.owner
  queue_eq : r'.queue = r.queue

theorem SameOwners.refl (r : CNetRunnable (LiveConnection σ)) : SameOwners r r := ⟨rfl, rfl⟩

theorem SameOwners.trans (h₁ : SameOwners r r') (h₂ : SameOwners r' r'') :
    SameOwners r r'' :=
  ⟨h₂.owner_eq.trans h₁.owner_eq, h₂.queue_eq.trans h₁.queue_eq⟩

theorem queue_withConnection : (r.withConnection nSocketID f).queue = r.queue := by
  rw [withConnection]
  split <;> rfl

theorem owner_withConnection {pCoreConnection : LiveConnection σ}
    (h : r.mapCoreConnectionByID[nSocketID]? = some pCoreConnection) :
    (r.withConnection nSocketID f).owner =
      Function.update r.owner nSocketID
        (some ((f pCoreConnection).pMessageQueue, (f pCoreConnection).bConnecter)) := by
  funext id
  by_cases hid : id = nSocketID
  · subst hid
    simp [withConnection, h, owner]
  · have hne : nSocketID ≠ id := fun heq => hid heq.symm
    simp [withConnection, h, owner, hid, hne]

theorem sameOwners_withConnection
    (hf : ∀ c, (f c).pMessageQueue = c.pMessageQueue ∧ (f c).bConnecter = c.bConnecter) :
    SameOwners r (r.withConnection nSocketID f) := by
  refine ⟨?_, queue_withConnection⟩
  cases h : r.mapCoreConnectionByID[nSocketID]? with
  | none => rw [withConnection_of_none _ h]
  | some pCoreConnection =>
      rw [owner_withConnection h, (hf pCoreConnection).1, (hf pCoreConnection).2,
        Function.update_eq_self_iff, owner, h, Option.map_some]

theorem sameOwners_foldl
    (hf : ∀ c, (f c).pMessageQueue = c.pMessageQueue ∧ (f c).bConnecter = c.bConnecter)
    (ids : List UInt64) :
    SameOwners r (ids.foldl (fun r id => r.withConnection id f) r) := by
  induction ids generalizing r with
  | nil => exact .refl r
  | cons id ids ih => exact (sameOwners_withConnection hf).trans ih

/-- Only the answer to a disconnect takes a connection away. -/
theorem sameOwners_onCommand (C : CoreConnectionHandler σ)
    (loop : NetEventLoop (LiveConnection σ)) {c : NetCommand} (hc : c.closes = none) :
    SameOwners r (r.onCommand C.live loop c) := by
  cases c with
  | requestSocketListen request =>
      rw [onCommand]
      split <;> exact ⟨rfl, rfl⟩
  | requestSocketConnect request =>
      rw [onCommand]
      split
      · exact .refl r
      · split <;> exact ⟨rfl, rfl⟩
  | requestSocketShutdown nSocketID nForce szMsg =>
      exact sameOwners_withConnection fun c => ⟨rfl, rfl⟩
  | notifySocketConnectAck pCoreConnection bSuccess =>
      rw [onCommand]
      apply sameOwners_withConnection
      intro c
      split <;> exact ⟨rfl, rfl⟩
  | notifySocketDisconnectAck nSocketID => cases hc
  | sendSocketData1 nMessageType pCoreConnection data =>
      exact sameOwners_withConnection fun c => ⟨rfl, rfl⟩
  | sendSocketData2 nMessageType nSocketID data =>
      exact sameOwners_withConnection fun c => ⟨rfl, rfl⟩
  | broadcastSocketData1 nMessageType vecSocketID data =>
      apply sameOwners_foldl
      intro c
      exact ⟨rfl, rfl⟩
  | broadcastSocketData2 nMessageType szType vecExcludeID data =>
      rw [onCommand, broadcast]
      split
      · exact .refl r
      · apply sameOwners_foldl
        intro c
        exact ⟨rfl, rfl⟩
  | invalid nType => exact .refl r

theorem owner_destroyCoreConnection (C : CoreConnectionClass (LiveConnection σ))
    (nSocketID : UInt64) :
    (r.destroyCoreConnection C nSocketID).owner =
      Function.update r.owner nSocketID none := by
  funext id
  rw [destroyCoreConnection]
  cases h : r.mapCoreConnectionByID[nSocketID]? with
  | none =>
      by_cases hid : id = nSocketID
      · subst hid
        simp [owner, h]
      · simp [owner, hid]
  | some pCoreConnection =>
      by_cases hid : id = nSocketID
      · subst hid
        simp [owner]
      · have hne : nSocketID ≠ id := fun heq => hid heq.symm
        simp [owner, hid, hne]

theorem queue_destroyCoreConnection (C : CoreConnectionClass (LiveConnection σ))
    (nSocketID : UInt64) : (r.destroyCoreConnection C nSocketID).queue = r.queue := by
  rw [destroyCoreConnection]
  split <;> rfl

end CNetRunnable

/-! ## What is in flight -/

/-- The commands of the network thread. -/
def NetCommand.references : References NetCommand UInt64 where
  refersTo := NetCommand.refersTo
  closes := NetCommand.closes

/-- The packets of the logic threads. -/
def LogicCommand.references : References LogicCommand UInt64 where
  refersTo := LogicCommand.refersTo
  closes := LogicCommand.closes

theorem NetCommand.closes_eq_some {c : NetCommand} {id : UInt64} :
    c.closes = some id ↔ c = .notifySocketDisconnectAck id := by
  cases c <;> simp [NetCommand.closes]

theorem NetCommand.closes_of_refersTo {c : NetCommand} (hc : c.refersTo = none) :
    c.closes = none := by
  cases c with
  | notifySocketDisconnectAck => cases hc
  | _ => rfl

theorem LogicCommand.closes_eq_some {c : LogicCommand} {id : UInt64} :
    c.closes = some id ↔ c = .notifySocketDisconnect id := by
  cases c <;> simp [LogicCommand.closes]

namespace ConnectionSystem

variable {C : CoreConnectionHandler σ} {loop : NetEventLoop (LiveConnection σ)}
  {s : ConnectionSystem σ} {nQueue : ℕ} {nSocketID : UInt64}

/-- All commands in flight to the network thread, in their order. -/
def commands (s : ConnectionSystem σ) : List NetCommand :=
  s.vecMessagePacket ++ s.net.queue

/-- The logic side has done with a connection, and so has its connecter. -/
structure Finished (s : ConnectionSystem σ) (nSocketID : UInt64) : Prop where
  connecter : ∀ q, s.net.owner nSocketID ≠ some (q, true)
  packets : ∀ q, ∀ c ∈ s.logicQueue q, c.refersTo ≠ some nSocketID
  base : ∀ q, s.mapBaseConnectionByID q nSocketID = none

/-- What holds after every run. -/
structure Inv (s : ConnectionSystem σ) : Prop where
  commandsLast : NetCommand.references.ClosesLast s.commands
  packetsLast : ∀ q, LogicCommand.references.ClosesLast (s.logicQueue q)
  commands_live : ∀ c ∈ s.commands, ∀ id, c.refersTo = some id → s.net.owner id ≠ none
  packets_live : ∀ q, ∀ c ∈ s.logicQueue q, ∀ id, c.refersTo = some id →
    ∃ bConnecter, s.net.owner id = some (q, bConnecter)
  base_live : ∀ q id, s.mapBaseConnectionByID q id ≠ none →
    ∃ bConnecter, s.net.owner id = some (q, bConnecter)
  disconnected : ∀ q id, .notifySocketDisconnect id ∈ s.logicQueue q →
    ∀ q', s.net.owner id ≠ some (q', true)
  acknowledged : ∀ id, .notifySocketDisconnectAck id ∈ s.commands → s.Finished id
  fresh : ∀ id, s.net.owner id ≠ none → id.toNat < s.nNextCoreConnectionID
  deleted_nodup : s.deleted.Nodup
  deleted_dead : ∀ id ∈ s.deleted,
    s.net.owner id = none ∧ id.toNat < s.nNextCoreConnectionID

@[simp] theorem commands_post (c : NetCommand) : (s.post c).commands = s.commands ++ [c] := by
  simp [commands, post, CNetRunnable.send]

@[simp] theorem owner_post (c : NetCommand) : (s.post c).net.owner = s.net.owner := rfl

/-! ## Sending keeps the invariant -/

/-- A connection the logic side may still refer to has not been acknowledged. -/
theorem Inv.notMem_ack_of_packet (h : Inv s) {c : LogicCommand} (hc : c ∈ s.logicQueue nQueue)
    (hid : c.refersTo = some nSocketID) :
    .notifySocketDisconnectAck nSocketID ∉ s.commands :=
  fun hmem => (h.acknowledged nSocketID hmem).packets nQueue c hc hid

theorem Inv.notMem_ack_of_base (h : Inv s)
    (hbase : s.mapBaseConnectionByID nQueue nSocketID ≠ none) :
    .notifySocketDisconnectAck nSocketID ∉ s.commands :=
  fun hmem => hbase ((h.acknowledged nSocketID hmem).base nQueue)

theorem Inv.post (h : Inv s) {c : NetCommand}
    (hrefers : ∀ id, c.refersTo = some id → s.net.owner id ≠ none ∧
      .notifySocketDisconnectAck id ∉ s.commands)
    (hcloses : ∀ id, c = .notifySocketDisconnectAck id → s.Finished id) :
    Inv (s.post c) := by
  refine ⟨?_, h.packetsLast, ?_, h.packets_live, h.base_live, h.disconnected, ?_, h.fresh,
    h.deleted_nodup, h.deleted_dead⟩
  · rw [commands_post]
    apply h.commandsLast.concat
    intro id hid c' hc' hclosed
    rw [NetCommand.closes_eq_some.mp hclosed] at hc'
    exact (hrefers id hid).2 hc'
  · intro c' hc' id hid
    rw [commands_post, List.mem_append, List.mem_singleton] at hc'
    rcases hc' with hc' | rfl
    · exact h.commands_live c' hc' id hid
    · exact (hrefers id hid).1
  · intro id hid
    rw [commands_post, List.mem_append, List.mem_singleton] at hid
    have hfinished : s.Finished id := by
      rcases hid with hid | hid
      · exact h.acknowledged id hid
      · exact hcloses id hid.symm
    exact ⟨hfinished.connecter, hfinished.packets, hfinished.base⟩

theorem Inv.post_of_refersTo_none (h : Inv s) {c : NetCommand} (hc : c.refersTo = none) :
    Inv (s.post c) := by
  apply h.post
  · intro id hid
    rw [hc] at hid
    cases hid
  · rintro id rfl
    cases hc

theorem mapBaseConnectionByID_set (pBaseConnection : Option CBaseConnection) (q : ℕ)
    (id : UInt64) :
    (s.setBaseConnection nQueue nSocketID pBaseConnection).mapBaseConnectionByID q id =
      if q = nQueue ∧ id = nSocketID then pBaseConnection
      else s.mapBaseConnectionByID q id := by
  by_cases hq : q = nQueue
  · subst hq
    by_cases hid : id = nSocketID
    · subst hid
      simp [setBaseConnection]
    · simp [setBaseConnection, hid]
  · simp [setBaseConnection, hq]

/-- An entry of a manager is erased, or set for a connection of its queue that has not
been acknowledged. -/
theorem Inv.setBaseConnection (h : Inv s) {pBaseConnection : Option CBaseConnection}
    (hset : pBaseConnection ≠ none →
      (∃ bConnecter, s.net.owner nSocketID = some (nQueue, bConnecter)) ∧
        .notifySocketDisconnectAck nSocketID ∉ s.commands) :
    Inv (s.setBaseConnection nQueue nSocketID pBaseConnection) := by
  refine ⟨h.commandsLast, h.packetsLast, h.commands_live, h.packets_live, ?_,
    h.disconnected, ?_, h.fresh, h.deleted_nodup, h.deleted_dead⟩
  · intro q id hbase
    rw [mapBaseConnectionByID_set] at hbase
    split at hbase
    · rename_i heq
      obtain ⟨rfl, rfl⟩ := heq
      exact (hset hbase).1
    · exact h.base_live q id hbase
  · intro id hid
    have hfinished := h.acknowledged id hid
    refine ⟨hfinished.connecter, hfinished.packets, ?_⟩
    intro q
    rw [mapBaseConnectionByID_set]
    split
    · rename_i heq
      obtain ⟨rfl, rfl⟩ := heq
      by_contra hne
      exact (hset hne).2 hid
    · exact hfinished.base q

/-! ## The callbacks of the logic threads -/

/-- The calls of a callback leave the packets and the connections alone and do not
answer a disconnect. -/
structure SameLogic (s s' : ConnectionSystem σ) : Prop where
  logicQueue_eq : s'.logicQueue = s.logicQueue
  owner_eq : s'.net.owner = s.net.owner
  acks : ∀ id, .notifySocketDisconnectAck id ∈ s'.commands →
    .notifySocketDisconnectAck id ∈ s.commands

theorem SameLogic.refl (s : ConnectionSystem σ) : SameLogic s s :=
  ⟨rfl, rfl, fun _ hid => hid⟩

theorem SameLogic.post {s' : ConnectionSystem σ} (h : SameLogic s s') {c : NetCommand}
    (hc : c.closes = none) : SameLogic s (s'.post c) := by
  refine ⟨h.logicQueue_eq, h.owner_eq, ?_⟩
  intro id hid
  rw [commands_post, List.mem_append, List.mem_singleton] at hid
  rcases hid with hid | rfl
  · exact h.acks id hid
  · cases hc

theorem Inv.call (h : Inv s) (call : BaseCall) : Inv (s.call nQueue call) := by
  cases call with
  | send nSocketID nMessageType data =>
      rw [ConnectionSystem.call]
      split
      · rename_i hbase
        have hne := Option.isSome_iff_ne_none.mp hbase
        apply h.post
        · rintro id hid
          cases hid
          obtain ⟨bConnecter, howner⟩ := h.base_live nQueue nSocketID hne
          refine ⟨?_, h.notMem_ack_of_base hne⟩
          rw [howner]
          exact Option.some_ne_none _
        · intro id hid
          cases hid
      · exact h
  | shutdown nSocketID nForce szMsg =>
      rw [ConnectionSystem.call]
      split
      · rename_i hbase
        have hne : s.mapBaseConnectionByID nQueue nSocketID ≠ none := by
          rw [hbase]
          exact Option.some_ne_none _
        have hlive := h.base_live nQueue nSocketID hne
        have hset : Inv (s.setBaseConnection nQueue nSocketID (some { bClosing := true })) :=
          h.setBaseConnection fun _ => ⟨hlive, h.notMem_ack_of_base hne⟩
        apply hset.post
        · rintro id hid
          cases hid
          obtain ⟨bConnecter, howner⟩ := hlive
          refine ⟨?_, h.notMem_ack_of_base hne⟩
          show s.net.owner nSocketID ≠ none
          rw [howner]
          exact Option.some_ne_none _
        · intro id hid
          cases hid
      · exact h
  | post c =>
      rw [ConnectionSystem.call]
      split
      · rename_i hc
        exact h.post_of_refersTo_none hc
      · exact h

theorem sameLogic_call (call : BaseCall) : SameLogic s (s.call nQueue call) := by
  have hrefl := SameLogic.refl s
  cases call with
  | send nSocketID nMessageType data =>
      rw [ConnectionSystem.call]
      split
      · exact hrefl.post rfl
      · exact hrefl
  | shutdown nSocketID nForce szMsg =>
      rw [ConnectionSystem.call]
      split
      · have hset : SameLogic s
            (s.setBaseConnection nQueue nSocketID (some { bClosing := true })) :=
          ⟨rfl, rfl, hrefl.acks⟩
        exact hset.post rfl
      · exact hrefl
  | post c =>
      rw [ConnectionSystem.call]
      split
      · rename_i hc
        exact hrefl.post (NetCommand.closes_of_refersTo hc)
      · exact hrefl

theorem Inv.calls (h : Inv s) (calls : List BaseCall) :
    Inv (calls.foldl (ConnectionSystem.call nQueue) s) ∧
      SameLogic s (calls.foldl (ConnectionSystem.call nQueue) s) := by
  induction calls generalizing s with
  | nil => exact ⟨h, .refl s⟩
  | cons call calls ih =>
      obtain ⟨hinv, hsame⟩ := ih (h.call call)
      have hcall : SameLogic s (s.call nQueue call) := sameLogic_call call
      exact ⟨hinv, hsame.logicQueue_eq.trans hcall.logicQueue_eq,
        hsame.owner_eq.trans hcall.owner_eq,
        fun id hid => hcall.acks id (hsame.acks id hid)⟩

/-! ## The packets of the logic threads -/

/-- What is known when a packet has been taken from its queue: the rest is in order, and
the connection it refers to waits for an answer. -/
structure Taken (s : ConnectionSystem σ) (nQueue : ℕ) (c : LogicCommand) : Prop where
  inv : Inv s
  owned : ∀ id, c.refersTo = some id →
    (∃ bConnecter, s.net.owner id = some (nQueue, bConnecter)) ∧
      .notifySocketDisconnectAck id ∉ s.commands
  closed : ∀ id, c.closes = some id →
    (∀ q, s.net.owner id ≠ some (q, true)) ∧
      ∀ q, ∀ c' ∈ s.logicQueue q, c'.refersTo ≠ some id

theorem Inv.taken (h : Inv s) {c : LogicCommand} {cs : List LogicCommand}
    (hqueue : s.logicQueue nQueue = c :: cs) :
    Taken { s with logicQueue := Function.update s.logicQueue nQueue cs } nQueue c := by
  have hmem : c ∈ s.logicQueue nQueue := by
    rw [hqueue]
    exact List.mem_cons_self
  have hlast := h.packetsLast nQueue
  rw [hqueue] at hlast
  have hsub : ∀ q, Function.update s.logicQueue nQueue cs q ⊆ s.logicQueue q := by
    intro q
    by_cases hq : q = nQueue
    · subst hq
      rw [Function.update_self, hqueue]
      exact List.subset_cons_self c cs
    · rw [Function.update_of_ne hq]
      exact List.Subset.refl _
  refine ⟨⟨h.commandsLast, ?_, h.commands_live, ?_, h.base_live, ?_, ?_, h.fresh,
    h.deleted_nodup, h.deleted_dead⟩, ?_, ?_⟩
  · intro q
    by_cases hq : q = nQueue
    · subst hq
      simpa only [Function.update_self] using hlast.tail
    · simpa only [Function.update_of_ne hq] using h.packetsLast q
  · intro q c' hc'
    exact h.packets_live q c' (hsub q hc')
  · intro q id hid
    exact h.disconnected q id (hsub q hid)
  · intro id hid
    have hfinished := h.acknowledged id hid
    exact ⟨hfinished.connecter, fun q c' hc' => hfinished.packets q c' (hsub q hc'),
      hfinished.base⟩
  · intro id hid
    exact ⟨h.packets_live nQueue c hmem id hid, h.notMem_ack_of_packet hmem hid⟩
  · intro id hid
    have heq := LogicCommand.closes_eq_some.mp hid
    have hrefers : c.refersTo = some id := by
      rw [heq]
      rfl
    refine ⟨h.disconnected nQueue id (heq ▸ hmem), ?_⟩
    intro q c' hc' hid'
    by_cases hq : q = nQueue
    · subst hq
      simp only [Function.update_self] at hc'
      exact hlast.ne_of_closes hid c' hc' hid'
    · -- packets about a connection are in its own queue only
      simp only [Function.update_of_ne hq] at hc'
      obtain ⟨b, howner⟩ := h.packets_live nQueue c hmem id hrefers
      obtain ⟨b', howner'⟩ := h.packets_live q c' hc' id hid'
      rw [howner] at howner'
      cases howner'
      exact hq rfl

theorem Taken.mgrOnConnect {pCoreConnection : UInt64}
    (h : Taken s nQueue (.notifySocketConnect pCoreConnection)) (bCreated : Bool)
    (calls : List BaseCall) :
    Inv (s.mgrOnConnect nQueue pCoreConnection bCreated calls) := by
  obtain ⟨howner, hack⟩ := h.owned pCoreConnection rfl
  have hanswer {s' : ConnectionSystem σ} (hinv : Inv s') (heq : s'.net.owner = s.net.owner)
      (hcommands : s'.commands = s.commands) (bSuccess : Bool) :
      Inv (s'.post (.notifySocketConnectAck pCoreConnection bSuccess)) := by
    apply hinv.post
    · intro id hid
      cases hid
      obtain ⟨bConnecter, howner⟩ := howner
      rw [heq, hcommands, howner]
      exact ⟨Option.some_ne_none _, hack⟩
    · intro id hid
      cases hid
  rw [ConnectionSystem.mgrOnConnect]
  split
  · have hset : Inv (s.setBaseConnection nQueue pCoreConnection (some {})) :=
      h.inv.setBaseConnection fun _ => ⟨howner, hack⟩
    exact ((hanswer hset rfl rfl true).calls calls).1
  · exact hanswer h.inv rfl rfl false

theorem Taken.mgrOnDisconnect (h : Taken s nQueue (.notifySocketDisconnect nSocketID))
    (calls : List BaseCall) : Inv (s.mgrOnDisconnect nQueue nSocketID calls) := by
  obtain ⟨⟨bConnecter, howner⟩, hack⟩ := h.owned nSocketID rfl
  obtain ⟨hconnecter, hpackets⟩ := h.closed nSocketID rfl
  -- the base connection can only be in the manager of the connection's own queue
  have hother {s' : ConnectionSystem σ} (hinv : Inv s') (heq : s'.net.owner = s.net.owner)
      {q : ℕ} (hq : q ≠ nQueue) : s'.mapBaseConnectionByID q nSocketID = none := by
    by_contra hne
    obtain ⟨b, hq'⟩ := hinv.base_live q nSocketID hne
    rw [heq, howner] at hq'
    cases hq'
    exact hq rfl
  have hdone : ∃ s' : ConnectionSystem σ,
      s.mgrOnDisconnect nQueue nSocketID calls =
        s'.post (.notifySocketDisconnectAck nSocketID) ∧
      Inv s' ∧ SameLogic s s' ∧ s'.mapBaseConnectionByID nQueue nSocketID = none := by
    rw [ConnectionSystem.mgrOnDisconnect]
    split
    · obtain ⟨hinv, hsame⟩ := @Inv.calls _ _ nQueue h.inv calls
      refine ⟨_, rfl, hinv.setBaseConnection fun hne => absurd rfl hne,
        ⟨hsame.logicQueue_eq, hsame.owner_eq, hsame.acks⟩, ?_⟩
      rw [mapBaseConnectionByID_set, if_pos ⟨rfl, rfl⟩]
    · rename_i hnone
      exact ⟨s, rfl, h.inv, .refl s, Option.not_isSome_iff_eq_none.mp hnone⟩
  obtain ⟨s', heq, hinv, hsame, hbase⟩ := hdone
  have hfinished : s'.Finished nSocketID := by
    refine ⟨?_, ?_, ?_⟩
    · rw [hsame.owner_eq]
      exact hconnecter
    · rw [hsame.logicQueue_eq]
      exact hpackets
    · intro q
      by_cases hq : q = nQueue
      · rw [hq, hbase]
      · exact hother hinv hsame.owner_eq hq
  rw [heq]
  apply hinv.post
  · intro id hid
    cases hid
    rw [hsame.owner_eq, howner]
    exact ⟨Option.some_ne_none _, fun hmem => hack (hsame.acks nSocketID hmem)⟩
  · intro id hid
    cases hid
    exact hfinished

theorem Inv.dispatch (h : Inv s) (bCreated : Bool) (calls : List BaseCall) :
    Inv (s.dispatch nQueue bCreated calls) := by
  rw [ConnectionSystem.dispatch]
  split
  · exact h
  · rename_i c cs hqueue
    have htaken := h.taken hqueue
    cases c with
    | notifySocketConnect pCoreConnection => exact htaken.mgrOnConnect bCreated calls
    | notifySocketDisconnect nSocketID => exact htaken.mgrOnDisconnect calls
    | recvSocketData nSocketID nMessageType data =>
        rw [dispatchPacket]
        split
        · exact (htaken.inv.calls calls).1
        · exact htaken.inv
    | other nType => exact (htaken.inv.calls calls).1

/-! ## The network thread -/

theorem Inv.recv (h : Inv s) (hbatch : s.vecMessagePacket = []) : Inv s.recv := by
  have hcommands : s.recv.commands = s.commands := by
    simp [commands, ConnectionSystem.recv, CNetRunnable.recv, hbatch]
  refine ⟨?_, h.packetsLast, ?_, h.packets_live, h.base_live, h.disconnected, ?_, h.fresh,
    h.deleted_nodup, h.deleted_dead⟩
  · rw [hcommands]
    exact h.commandsLast
  · rw [hcommands]
    exact h.commands_live
  · rw [hcommands]
    intro id hid
    have hfinished := h.acknowledged id hid
    exact ⟨hfinished.connecter, hfinished.packets, hfinished.base⟩

/-- A command of the batch that deletes nothing, with the rest of the batch or without. -/
theorem Inv.onCommand (h : Inv s) {c : NetCommand} {cs cs' : List NetCommand}
    (hbatch : s.vecMessagePacket = c :: cs) (hc : c.closes = none) (hcs' : cs' <:+ cs) :
    Inv { s with
      net := s.net.onCommand C.live loop c
      vecMessagePacket := cs' } := by
  have hsame := CNetRunnable.sameOwners_onCommand (r := s.net) C loop hc
  generalize s.net.onCommand C.live loop c = net at hsame
  obtain ⟨pre, rfl⟩ := hcs'
  have hcommands : s.commands = (c :: pre) ++ (cs' ++ net.queue) := by
    simp [commands, hbatch, hsame.queue_eq]
  have hsub : ∀ c' ∈ cs' ++ net.queue, c' ∈ s.commands := by
    intro c' hc'
    rw [hcommands]
    exact List.mem_append_right _ hc'
  refine ⟨?_, h.packetsLast, ?_, ?_, ?_, ?_, ?_, ?_, h.deleted_nodup, ?_⟩
  · have hlast := h.commandsLast
    rw [hcommands] at hlast
    exact hlast.of_append_right
  · simp only [hsame.owner_eq]
    exact fun c' hc' => h.commands_live c' (hsub c' hc')
  · simp only [hsame.owner_eq]
    exact h.packets_live
  · simp only [hsame.owner_eq]
    exact h.base_live
  · simp only [hsame.owner_eq]
    exact h.disconnected
  · intro id hid
    have hfinished := h.acknowledged id (hsub _ hid)
    refine ⟨?_, hfinished.packets, hfinished.base⟩
    simp only [hsame.owner_eq]
    exact hfinished.connecter
  · simp only [hsame.owner_eq]
    exact h.fresh
  · simp only [hsame.owner_eq]
    exact h.deleted_dead

/-- The answer to a disconnect: nothing else in flight refers to the connection. -/
theorem Inv.destroy (h : Inv s) {cs : List NetCommand}
    (hbatch : s.vecMessagePacket = .notifySocketDisconnectAck nSocketID :: cs) :
    Inv { s with
      net := s.net.destroyCoreConnection C.live nSocketID
      vecMessagePacket := cs
      deleted := s.deleted ++ [nSocketID] } := by
  have howner := CNetRunnable.owner_destroyCoreConnection (r := s.net) C.live nSocketID
  have hqueue := CNetRunnable.queue_destroyCoreConnection (r := s.net) C.live nSocketID
  generalize s.net.destroyCoreConnection C.live nSocketID = net at howner hqueue
  have hcommands : s.commands = .notifySocketDisconnectAck nSocketID :: (cs ++ net.queue) := by
    simp [commands, hbatch, hqueue]
  have hmem : .notifySocketDisconnectAck nSocketID ∈ s.commands := by
    rw [hcommands]
    exact List.mem_cons_self
  have hsub : ∀ c' ∈ cs ++ net.queue, c' ∈ s.commands := by
    intro c' hc'
    rw [hcommands]
    exact List.mem_cons_of_mem _ hc'
  have hfinished := h.acknowledged nSocketID hmem
  have hlast := h.commandsLast
  rw [hcommands] at hlast
  have hlive := h.commands_live _ hmem nSocketID rfl
  have hother {id : UInt64} (hne : id ≠ nSocketID) : net.owner id = s.net.owner id := by
    rw [howner, Function.update_of_ne hne]
  have hgone : net.owner nSocketID = none := by
    rw [howner, Function.update_self]
  have hnone {id : UInt64} (hid : s.net.owner id = none) : net.owner id = none := by
    by_cases heq : id = nSocketID
    · rw [heq, hgone]
    · rw [hother heq, hid]
  refine ⟨hlast.tail, h.packetsLast, ?_, ?_, ?_, ?_, ?_, ?_, ?_, ?_⟩
  · intro c' hc' id hid
    have hne : id ≠ nSocketID := by
      rintro rfl
      exact hlast.ne_of_closes rfl c' hc' hid
    show net.owner id ≠ none
    rw [hother hne]
    exact h.commands_live c' (hsub c' hc') id hid
  · intro q c' hc' id hid
    have hne : id ≠ nSocketID := by
      rintro rfl
      exact hfinished.packets q c' hc' hid
    show ∃ bConnecter, net.owner id = some (q, bConnecter)
    rw [hother hne]
    exact h.packets_live q c' hc' id hid
  · intro q id hid
    have hne : id ≠ nSocketID := by
      rintro rfl
      exact hid (hfinished.base q)
    show ∃ bConnecter, net.owner id = some (q, bConnecter)
    rw [hother hne]
    exact h.base_live q id hid
  · intro q id hid q'
    have hne : id ≠ nSocketID := by
      rintro rfl
      exact hfinished.packets q _ hid rfl
    show net.owner id ≠ some (q', true)
    rw [hother hne]
    exact h.disconnected q id hid q'
  · intro id hid
    have hne : id ≠ nSocketID := by
      rintro rfl
      exact hlast.ne_of_closes rfl _ hid rfl
    have hfinished' := h.acknowledged id (hsub _ hid)
    refine ⟨?_, hfinished'.packets, hfinished'.base⟩
    intro q
    show net.owner id ≠ some (q, true)
    rw [hother hne]
    exact hfinished'.connecter q
  · intro id hid
    apply h.fresh
    intro hnone'
    exact hid (hnone hnone')
  · show (s.deleted ++ [nSocketID]).Nodup
    rw [List.nodup_append]
    refine ⟨h.deleted_nodup, List.nodup_singleton _, ?_⟩
    intro id hid id' hid' heq
    rw [heq, List.mem_singleton.mp hid'] at hid
    exact hlive (h.deleted_dead nSocketID hid).1
  · intro id hid
    rcases List.mem_append.mp hid with hid | hid
    · exact ⟨hnone (h.deleted_dead id hid).1, (h.deleted_dead id hid).2⟩
    · rw [List.mem_singleton.mp hid]
      exact ⟨hgone, h.fresh nSocketID hlive⟩

theorem owner_ne_none {r : CNetRunnable (LiveConnection σ)} :
    r.owner nSocketID ≠ none ↔ r.mapCoreConnectionByID.contains nSocketID = true := by
  rw [CNetRunnable.owner]
  simp

theorem Inv.onProcess (h : Inv s) : Inv (s.onProcess C loop) := by
  rw [ConnectionSystem.onProcess]
  split
  · exact h
  · rename_i c cs hbatch
    cases hc : c.closes with
    | none =>
        have hdeletes : deletes s.net c = [] := by
          cases c with
          | notifySocketDisconnectAck => cases hc
          | _ => rfl
        rw [hdeletes, List.append_nil]
        apply h.onCommand hbatch hc
        split
        · exact List.nil_suffix
        · exact List.suffix_refl cs
    | some nSocketID =>
        rw [NetCommand.closes_eq_some.mp hc] at hbatch ⊢
        have hlive := h.commands_live (.notifySocketDisconnectAck nSocketID)
          (by simp [commands, hbatch]) nSocketID rfl
        have hdeletes : deletes s.net (.notifySocketDisconnectAck nSocketID) =
            [nSocketID] := if_pos (owner_ne_none.mp hlive)
        rw [hdeletes]
        exact h.destroy hbatch

/-- A new connection has an id that nothing refers to. -/
theorem Inv.createCoreConnection (h : Inv s) (hnext : s.nNextCoreConnectionID < 2 ^ 64)
    (pMessageQueue : ℕ) (connection : σ) :
    Inv (s.createCoreConnection C pMessageQueue connection) := by
  let nID := UInt64.ofNat s.nNextCoreConnectionID
  have hnID : nID.toNat = s.nNextCoreConnectionID := UInt64.toNat_ofNat_of_lt hnext
  have hnew : s.net.owner nID = none := by
    by_contra hne
    have hlt := h.fresh nID hne
    omega
  have howner : (s.createCoreConnection C pMessageQueue connection).net.owner =
      Function.update s.net.owner nID (some (pMessageQueue, true)) := by
    funext id
    by_cases hid : id = nID
    · subst hid
      simp [ConnectionSystem.createCoreConnection, CNetRunnable.owner, nID]
    · have hne : nID ≠ id := fun heq => hid heq.symm
      simp only [nID] at hne hid
      simp [ConnectionSystem.createCoreConnection, CNetRunnable.owner, hne, hid, nID]
  have hother {id : UInt64} (hne : s.net.owner id ≠ none) :
      (s.createCoreConnection C pMessageQueue connection).net.owner id = s.net.owner id := by
    rw [howner, Function.update_of_ne]
    rintro rfl
    exact hne hnew
  have hsome {id : UInt64} {q : ℕ} (hid : ∃ b, s.net.owner id = some (q, b)) :
      ∃ b, (s.createCoreConnection C pMessageQueue connection).net.owner id =
        some (q, b) := by
    obtain ⟨b, hb⟩ := hid
    refine ⟨b, ?_⟩
    rw [hother (by simp [hb]), hb]
  refine ⟨h.commandsLast, h.packetsLast, ?_, ?_, ?_, ?_, ?_, ?_, h.deleted_nodup, ?_⟩
  · intro c hc id hid
    have hlive := h.commands_live c hc id hid
    rwa [hother hlive]
  · exact fun q c hc id hid => hsome (h.packets_live q c hc id hid)
  · exact fun q id hid => hsome (h.base_live q id hid)
  · intro q id hid q'
    obtain ⟨b, hb⟩ := h.packets_live q _ hid id rfl
    rw [hother (by simp [hb])]
    exact h.disconnected q id hid q'
  · intro id hid
    have hfinished := h.acknowledged id hid
    refine ⟨?_, hfinished.packets, hfinished.base⟩
    rw [hother (h.commands_live _ hid id rfl)]
    exact hfinished.connecter
  · intro id hid
    show id.toNat < s.nNextCoreConnectionID + 1
    by_cases hne : id = nID
    · rw [hne, hnID]
      exact Nat.lt_succ_self _
    · rw [howner, Function.update_of_ne hne] at hid
      exact Nat.lt_succ_of_lt (h.fresh id hid)
  · intro id hid
    obtain ⟨hdead, hlt⟩ := h.deleted_dead id hid
    refine ⟨?_, Nat.lt_succ_of_lt hlt⟩
    rw [howner, Function.update_of_ne]
    · exact hdead
    · rintro rfl
      omega

theorem mem_postLogic {c c' : LogicCommand} {q : ℕ} :
    c' ∈ (s.postLogic nQueue c).logicQueue q ↔
      c' ∈ s.logicQueue q ∨ q = nQueue ∧ c' = c := by
  by_cases hq : q = nQueue
  · subst hq
    simp [postLogic]
  · simp [postLogic, hq]

/-- A packet for a queue; if it refers to a connection, that belongs to the queue and its
connecter has not said goodbye before. -/
theorem Inv.postLogic (h : Inv s) {c : LogicCommand}
    (hrefers : ∀ id, c.refersTo = some id →
      (∃ bConnecter, s.net.owner id = some (nQueue, bConnecter)) ∧
        .notifySocketDisconnect id ∉ s.logicQueue nQueue ∧
        .notifySocketDisconnectAck id ∉ s.commands)
    (hcloses : ∀ id, c = .notifySocketDisconnect id →
      ∀ q, s.net.owner id ≠ some (q, true)) :
    Inv (s.postLogic nQueue c) := by
  refine ⟨h.commandsLast, ?_, h.commands_live, ?_, h.base_live, ?_, ?_, h.fresh,
    h.deleted_nodup, h.deleted_dead⟩
  · intro q
    by_cases hq : q = nQueue
    · subst hq
      simp only [ConnectionSystem.postLogic, Function.update_self]
      apply (h.packetsLast q).concat
      intro id hid c' hc' hclosed
      rw [LogicCommand.closes_eq_some.mp hclosed] at hc'
      exact (hrefers id hid).2.1 hc'
    · simpa only [ConnectionSystem.postLogic, Function.update_of_ne hq] using h.packetsLast q
  · intro q c' hc' id hid
    rcases mem_postLogic.mp hc' with hc' | ⟨rfl, rfl⟩
    · exact h.packets_live q c' hc' id hid
    · exact (hrefers id hid).1
  · intro q id hid
    rcases mem_postLogic.mp hid with hid | ⟨-, hid⟩
    · exact h.disconnected q id hid
    · exact hcloses id hid.symm
  · intro id hid
    have hfinished := h.acknowledged id hid
    refine ⟨hfinished.connecter, ?_, hfinished.base⟩
    intro q c' hc'
    rcases mem_postLogic.mp hc' with hc' | ⟨-, rfl⟩
    · exact hfinished.packets q c' hc'
    · intro hrefers'
      exact (hrefers id hrefers').2.2 hid

/-- The connecter of a connection still calls it; afterwards it may have ended. -/
theorem Inv.setConnecter (h : Inv s) {net : CNetRunnable (LiveConnection σ)}
    {q₀ : ℕ} {bConnecter : Bool} (hold : s.net.owner nSocketID = some (q₀, true))
    (howner : net.owner =
      Function.update s.net.owner nSocketID (some (q₀, bConnecter)))
    (hqueue : net.queue = s.net.queue) : Inv { s with net := net } := by
  have hcommands : commands { s with net := net } = s.commands := by
    rw [commands, commands, hqueue]
  have hnone {id : UInt64} : net.owner id = none ↔ s.net.owner id = none := by
    by_cases hid : id = nSocketID
    · rw [hid, howner, hold, Function.update_self]
      simp
    · rw [howner, Function.update_of_ne hid]
  have hsome {id : UInt64} {q : ℕ} (hid : ∃ b, s.net.owner id = some (q, b)) :
      ∃ b, net.owner id = some (q, b) := by
    obtain ⟨b, hb⟩ := hid
    by_cases hid : id = nSocketID
    · subst hid
      rw [hold] at hb
      cases hb
      exact ⟨bConnecter, by rw [howner, Function.update_self]⟩
    · exact ⟨b, by rw [howner, Function.update_of_ne hid, hb]⟩
  have hended {id : UInt64} (hid : ∀ q, s.net.owner id ≠ some (q, true)) (q : ℕ) :
      net.owner id ≠ some (q, true) := by
    rw [howner, Function.update_of_ne]
    · exact hid q
    · rintro rfl
      exact hid q₀ hold
  refine ⟨?_, h.packetsLast, ?_, fun q c hc id hid => hsome (h.packets_live q c hc id hid),
    fun q id hid => hsome (h.base_live q id hid),
    fun q id hid => hended (h.disconnected q id hid), ?_, ?_, h.deleted_nodup, ?_⟩
  · rw [hcommands]
    exact h.commandsLast
  · rw [hcommands]
    intro c hc id hid
    exact fun hdead => h.commands_live c hc id hid (hnone.mp hdead)
  · rw [hcommands]
    intro id hid
    have hfinished := h.acknowledged id hid
    exact ⟨hended hfinished.connecter, hfinished.packets, hfinished.base⟩
  · intro id hid
    exact h.fresh id fun hdead => hid (hnone.mpr hdead)
  · intro id hid
    exact ⟨hnone.mpr (h.deleted_dead id hid).1, (h.deleted_dead id hid).2⟩

/-- A callback of a connecter that still calls its connection. -/
theorem Inv.callback (h : Inv s) {f : LiveConnection σ → LiveConnection σ}
    {c : LogicCommand} (hrefers : c.refersTo = some nSocketID)
    (hqueue : ∀ conn, (f conn).pMessageQueue = conn.pMessageQueue)
    (hcloses : c = .notifySocketDisconnect nSocketID → ∀ conn, (f conn).bConnecter = false) :
    Inv (s.callback nSocketID f c) := by
  rw [ConnectionSystem.callback]
  split
  · exact h
  · rename_i pCoreConnection hlookup
    split
    swap
    · exact h
    rename_i hconnecter
    have hold : s.net.owner nSocketID = some (pCoreConnection.pMessageQueue, true) := by
      rw [CNetRunnable.owner, hlookup, Option.map_some, hconnecter]
    have howner := CNetRunnable.owner_withConnection (f := f) hlookup
    rw [hqueue] at howner
    have hset := h.setConnecter hold howner CNetRunnable.queue_withConnection
    apply hset.postLogic
    · intro id hid
      rw [hrefers] at hid
      cases hid
      refine ⟨⟨_, by rw [howner, Function.update_self]⟩, ?_, ?_⟩
      · exact fun hmem => h.disconnected _ nSocketID hmem _ hold
      · intro hmem
        rw [commands, CNetRunnable.queue_withConnection] at hmem
        exact (h.acknowledged nSocketID hmem).connecter _ hold
    · rintro id rfl q
      have hid : id = nSocketID := Option.some.inj hrefers
      subst hid
      show (s.net.withConnection id f).owner id ≠ some (q, true)
      rw [howner, Function.update_self, hcloses rfl]
      simp

/-! ## Runs -/

theorem Inv.step (h : Inv s) (event : Event σ) : Inv (s.step C loop event) := by
  cases event with
  | create pMessageQueue connection =>
      rw [ConnectionSystem.step]
      split
      · rename_i hguard
        exact h.createCoreConnection hguard.2 pMessageQueue connection
      · exact h
  | onConnect nSocketID =>
      rw [ConnectionSystem.step, ConnectionSystem.onConnect]
      split
      · split
        · apply h.callback rfl
          · intro conn
            rfl
          · intro hc
            cases hc
        · exact h
      · exact h
  | onRecv nSocketID nMessageType data =>
      rw [ConnectionSystem.step]
      split
      · apply h.callback rfl
        · intro conn
          rfl
        · intro hc
          cases hc
      · exact h
  | onDisconnect nSocketID =>
      rw [ConnectionSystem.step]
      split
      · apply h.callback rfl
        · intro conn
          rfl
        · intro hc conn
          rfl
      · exact h
  | recv =>
      rw [ConnectionSystem.step]
      split
      · rename_i hbatch
        exact h.recv hbatch
      · exact h
  | onProcess => exact h.onProcess
  | dispatch nQueue bCreated calls => exact h.dispatch bCreated calls
  | post c =>
      rw [ConnectionSystem.step]
      split
      · rename_i hc
        exact h.post_of_refersTo_none hc
      · exact h
  | postLogic nQueue nType =>
      apply h.postLogic
      · intro id hid
        cases hid
      · intro id hid
        cases hid

theorem inv_init : Inv ({} : ConnectionSystem σ) := by
  have hdead (id : UInt64) : ({} : ConnectionSystem σ).net.owner id = none := by
    simp [CNetRunnable.owner]
  refine ⟨.nil, fun q => .nil, ?_, ?_, ?_, ?_, ?_, ?_, List.nodup_nil, ?_⟩
  · intro c hc
    cases hc
  · intro q c hc
    cases hc
  · intro q id hid
    exact absurd rfl hid
  · intro q id hid
    cases hid
  · intro id hid
    cases hid
  · intro id hid
    exact absurd (hdead id) hid
  · intro id hid
    cases hid

theorem inv_run (events : List (Event σ)) : Inv (run C loop events) :=
  foldl_invariant (fun _ event h => h.step event) inv_init events

/-- What is promised about connections and commands. -/
structure Safe (s : ConnectionSystem σ) : Prop where
  commands : ∀ c ∈ s.commands, ∀ id, c.refersTo = some id →
    s.net.mapCoreConnectionByID.contains id = true ∧ id ∉ s.deleted
  packets : ∀ q, ∀ c ∈ s.logicQueue q, ∀ id, c.refersTo = some id →
    s.net.mapCoreConnectionByID.contains id = true ∧ id ∉ s.deleted
  deleted : s.deleted.Nodup

theorem Inv.safe (h : Inv s) : Safe s := by
  have hlive {id : UInt64} (hid : s.net.owner id ≠ none) :
      s.net.mapCoreConnectionByID.contains id = true ∧ id ∉ s.deleted :=
    ⟨owner_ne_none.mp hid, fun hmem => hid (h.deleted_dead id hmem).1⟩
  refine ⟨fun c hc id hid => hlive (h.commands_live c hc id hid), ?_, h.deleted_nodup⟩
  intro q c hc id hid
  obtain ⟨b, hb⟩ := h.packets_live q c hc id hid
  apply hlive
  rw [hb]
  exact Option.some_ne_none _

-- A connection is told of, sends, ends and is deleted.
example : (run CCoreConnection.handler ⟨fun _ _ => true, fun _ _ => true⟩
    [.create 3 { szType := [], nState := .none, pNetConnecter := some {} }, .onConnect 1,
      .dispatch 3 true [.send 1 .system [0]], .onDisconnect 1, .dispatch 3 true [],
      .recv, .onProcess, .onProcess, .onProcess]).deleted = [1] := by
  decide

end ConnectionSystem

end RealtimeEx.Core
