import RealtimeEx.Core.CoreConnectionLifetimeInvariant
import RealtimeEx.Support.IndexTable

/-!
# The connections of a type

`CCoreConnectionMgr` finds its connections by their ids and, for a broadcast, by their
types.  The lists of the types are the index of the table of the ids after every run, so a
broadcast reaches every connection of its type that is not excluded, once, and no other.
-/

namespace RealtimeEx.Core

open Base

universe u

variable {σ : Type u}

/-- The type of a connection is set when it is created and by nothing else. -/
structure CoreConnectionHandler.KeepsType (C : CoreConnectionHandler σ) : Prop where
  send : ∀ nMessageType pData nSize c,
    C.szType (C.send nMessageType pData nSize c) = C.szType c
  shutdown : ∀ bForce szMsg c, C.szType (C.shutdown bForce szMsg c) = C.szType c
  onConnectAck : ∀ c, C.szType (C.onConnectAck c) = C.szType c
  onConnect : ∀ c, C.szType (C.onConnect c) = C.szType c
  onRecv : ∀ nMessageType data c, C.szType (C.onRecv nMessageType data c) = C.szType c
  onDisconnect : ∀ c, C.szType (C.onDisconnect c) = C.szType c

theorem CCoreConnection.keepsType_handler : CCoreConnection.handler.KeepsType where
  send _ _ _ _ := rfl
  shutdown _ _ _ := rfl
  onConnectAck c := by
    show (CCoreConnection.onConnectAck c).szType = c.szType
    rw [CCoreConnection.onConnectAck]
    split
    · rfl
    · rfl
  onConnect _ := rfl
  onRecv _ _ _ := rfl
  onDisconnect _ := rfl

namespace CNetRunnable

variable {C : CoreConnectionHandler σ} {r r' : CNetRunnable (LiveConnection σ)}
  {nSocketID : UInt64} {f : LiveConnection σ → LiveConnection σ}

/-- The connections by their ids. -/
def byID (r : CNetRunnable (LiveConnection σ)) (nSocketID : UInt64) :
    Option (LiveConnection σ) :=
  r.mapCoreConnectionByID[nSocketID]?

/-- The connections of a type. -/
def byType (r : CNetRunnable (LiveConnection σ)) (szType : StdString) : List UInt64 :=
  (r.mapCoreConnectionByTypeID[szType]?).getD []

/-- The lists of the types are the index of the connections. -/
def Indexed (C : CoreConnectionHandler σ) (r : CNetRunnable (LiveConnection σ)) : Prop :=
  IndexedBy (fun c : LiveConnection σ => C.szType c.connection) r.byID r.byType

theorem Indexed.congr (h : r.Indexed C) (hid : r'.byID = r.byID)
    (htype : r'.byType = r.byType) : r'.Indexed C := by
  rw [Indexed, hid, htype]
  exact h

theorem byID_withConnection (r : CNetRunnable (LiveConnection σ)) (nSocketID : UInt64)
    (f : LiveConnection σ → LiveConnection σ) :
    (r.withConnection nSocketID f).byID =
      Function.update r.byID nSocketID ((r.byID nSocketID).map f) := by
  funext id
  rw [byID, withConnection]
  cases h : r.mapCoreConnectionByID[nSocketID]? with
  | none =>
      dsimp only
      by_cases hid : id = nSocketID
      · rw [hid, Function.update_self, byID, h]
        rfl
      · rw [Function.update_of_ne hid]
        rfl
  | some pCoreConnection =>
      dsimp only
      rw [StdMap.getElem?_insert]
      by_cases hid : id = nSocketID
      · rw [if_pos hid.symm, hid, Function.update_self, byID, h]
        rfl
      · rw [if_neg fun heq => hid heq.symm, Function.update_of_ne hid]
        rfl

theorem byType_withConnection (r : CNetRunnable (LiveConnection σ)) (nSocketID : UInt64)
    (f : LiveConnection σ → LiveConnection σ) :
    (r.withConnection nSocketID f).byType = r.byType := by
  funext szType
  rw [byType, withConnection]
  split
  · rfl
  · rfl

/-- A function of a connection that keeps its type. -/
theorem Indexed.withConnection (h : r.Indexed C)
    (hf : ∀ c, C.szType (f c).connection = C.szType c.connection) :
    (r.withConnection nSocketID f).Indexed C := by
  rw [Indexed, byID_withConnection, byType_withConnection]
  cases hc : r.byID nSocketID with
  | none =>
      rw [Option.map_none, ← hc, Function.update_eq_self]
      exact h
  | some c => exact IndexedBy.modify h hc (hf c)

theorem Indexed.foldl_withConnection (h : r.Indexed C)
    (hf : ∀ c, C.szType (f c).connection = C.szType c.connection) (ids : List UInt64) :
    (ids.foldl (fun r id => r.withConnection id f) r).Indexed C := by
  induction ids generalizing r with
  | nil => exact h
  | cons id ids ih => exact ih (h.withConnection hf)

theorem Indexed.destroyCoreConnection (h : r.Indexed C) (nSocketID : UInt64) :
    (r.destroyCoreConnection C.live nSocketID).Indexed C := by
  cases hc : r.byID nSocketID with
  | none =>
      have hnone : r.mapCoreConnectionByID[nSocketID]? = none := hc
      rw [CNetRunnable.destroyCoreConnection, hnone]
      exact h
  | some c =>
      have hsome : r.mapCoreConnectionByID[nSocketID]? = some c := hc
      have hid : (r.destroyCoreConnection C.live nSocketID).byID =
          Function.update r.byID nSocketID none := by
        funext id
        rw [byID, CNetRunnable.destroyCoreConnection, hsome]
        dsimp only
        rw [StdMap.getElem?_erase]
        by_cases hne : id = nSocketID
        · rw [if_pos hne.symm, hne, Function.update_self]
        · rw [if_neg fun heq => hne heq.symm, Function.update_of_ne hne]
          rfl
      have htype : (r.destroyCoreConnection C.live nSocketID).byType =
          Function.update r.byType (C.szType c.connection)
            ((r.byType (C.szType c.connection)).filter (· ≠ nSocketID)) := by
        have hlive : C.live.szType c = C.szType c.connection := rfl
        funext szType
        rw [byType, CNetRunnable.destroyCoreConnection, hsome]
        dsimp only
        rw [hlive]
        cases hlist : r.mapCoreConnectionByTypeID[C.szType c.connection]? with
        | none =>
            dsimp only
            by_cases hne : szType = C.szType c.connection
            · rw [hne, Function.update_self, byType, hlist]
              rfl
            · rw [Function.update_of_ne hne]
              rfl
        | some list =>
            dsimp only
            rw [StdMap.getElem?_insert]
            by_cases hne : szType = C.szType c.connection
            · rw [if_pos hne.symm, hne, Function.update_self, byType, hlist]
              rfl
            · rw [if_neg fun heq => hne heq.symm, Function.update_of_ne hne]
              rfl
      rw [Indexed, hid, htype]
      exact IndexedBy.erase h hc

/-- A command of the network thread keeps the index. -/
theorem Indexed.onCommand (h : r.Indexed C) (hC : C.KeepsType)
    (loop : NetEventLoop (LiveConnection σ)) (c : NetCommand) :
    (r.onCommand C.live loop c).Indexed C := by
  have hsend (nMessageType : MessageType) (data : List UInt8) :
      ∀ c : LiveConnection σ, C.szType (C.live.send nMessageType data
        (data.length % 2 ^ 16) c).connection = C.szType c.connection :=
    fun c => hC.send nMessageType data _ c.connection
  cases c with
  | requestSocketListen request =>
      rw [CNetRunnable.onCommand]
      split
      · exact h.congr rfl rfl
      · exact h.congr rfl rfl
  | requestSocketConnect request =>
      rw [CNetRunnable.onCommand]
      split
      · exact h
      · split
        · exact h.congr rfl rfl
        · exact h.congr rfl rfl
  | requestSocketShutdown nSocketID nForce szMsg =>
      exact h.withConnection fun c => hC.shutdown _ szMsg c.connection
  | notifySocketConnectAck pCoreConnection bSuccess =>
      refine h.withConnection fun c => ?_
      split
      · exact hC.onConnectAck c.connection
      · exact hC.shutdown true _ c.connection
  | notifySocketDisconnectAck nSocketID => exact h.destroyCoreConnection nSocketID
  | sendSocketData1 nMessageType pCoreConnection data =>
      exact h.withConnection (hsend nMessageType data)
  | sendSocketData2 nMessageType nSocketID data =>
      exact h.withConnection (hsend nMessageType data)
  | broadcastSocketData1 nMessageType vecSocketID data =>
      exact h.foldl_withConnection (hsend nMessageType data) vecSocketID
  | broadcastSocketData2 nMessageType szType vecExcludeID data =>
      rw [CNetRunnable.onCommand, broadcast]
      split
      · exact h
      · exact h.foldl_withConnection (hsend nMessageType data) _
  | invalid nType => exact h

/-- A function of some connections, called once for each time that one is listed. -/
theorem byID_foldl_withConnection (ids : List UInt64) (id : UInt64) :
    (ids.foldl (fun r id => r.withConnection id f) r).byID id =
      (r.byID id).map (f^[ids.count id]) := by
  induction ids generalizing r with
  | nil =>
      rw [List.foldl_nil, List.count_nil, Function.iterate_zero, Option.map_id]
      rfl
  | cons id' ids ih =>
      rw [List.foldl_cons, ih, byID_withConnection]
      by_cases hid : id = id'
      · rw [hid, Function.update_self, List.count_cons_self, Option.map_map]
        rfl
      · rw [Function.update_of_ne hid, List.count_cons_of_ne fun heq => hid heq.symm]

/-- A broadcast reaches the connections of its type that are not excluded, once. -/
theorem Indexed.byID_broadcast (h : r.Indexed C) (szType : StdString)
    (nMessageType : MessageType) (data : List UInt8) (vecExcludeID : List UInt64)
    (id : UInt64) :
    (r.broadcast C.live szType nMessageType data vecExcludeID).byID id =
      (r.byID id).map fun c =>
        if C.szType c.connection = szType ∧ id ∉ vecExcludeID then
          C.live.send nMessageType data (data.length % 2 ^ 16) c
        else
          c := by
  have hlisted (list : List UInt64) (hlist : list = r.byType szType) :
      ((list.filter (· ∉ vecExcludeID)).foldl
        (fun r id => r.withConnection id
          (C.live.send nMessageType data (data.length % 2 ^ 16))) r).byID id =
      (r.byID id).map fun c =>
        if C.szType c.connection = szType ∧ id ∉ vecExcludeID then
          C.live.send nMessageType data (data.length % 2 ^ 16) c
        else
          c := by
    rw [byID_foldl_withConnection]
    cases hc : r.byID id with
    | none => rfl
    | some c =>
        have hmem : id ∈ list ↔ C.szType c.connection = szType := by
          rw [hlist, IndexedBy.mem h szType id, hc]
          simp
        have hnodup : (list.filter (· ∉ vecExcludeID)).Nodup := by
          rw [hlist]
          exact (IndexedBy.nodup h szType).filter _
        rw [hnodup.count]
        simp only [List.mem_filter, decide_eq_true_eq, hmem, Option.map_some]
        split
        · rfl
        · rfl
  rw [broadcast]
  cases hlist : r.mapCoreConnectionByTypeID[szType]? with
  | none =>
      refine hlisted [] ?_
      rw [byType, hlist]
      rfl
  | some list =>
      refine hlisted list ?_
      rw [byType, hlist]
      rfl

end CNetRunnable

namespace ConnectionSystem

variable {C : CoreConnectionHandler σ} {loop : NetEventLoop (LiveConnection σ)}
  {s : ConnectionSystem σ}

/-- A new connection has an id that no other one has. -/
theorem Indexed.createCoreConnection (h : s.net.Indexed C) (hinv : Inv s)
    (hid : s.nNextCoreConnectionID < 2 ^ 64) (pMessageQueue : ℕ) (connection : σ) :
    (s.createCoreConnection C pMessageQueue connection).net.Indexed C := by
  have hnew : s.net.byID (UInt64.ofNat s.nNextCoreConnectionID) = none := by
    by_contra hold
    have howner : s.net.owner (UInt64.ofNat s.nNextCoreConnectionID) ≠ none := by
      rw [CNetRunnable.owner, ne_eq, Option.map_eq_none_iff]
      exact hold
    have hlt := hinv.fresh _ howner
    rw [UInt64.toNat_ofNat_of_lt' hid] at hlt
    exact lt_irrefl _ hlt
  have hbyID : (s.createCoreConnection C pMessageQueue connection).net.byID =
      Function.update s.net.byID (UInt64.ofNat s.nNextCoreConnectionID)
        (some { connection, pMessageQueue }) := by
    funext id
    rw [CNetRunnable.byID, ConnectionSystem.createCoreConnection]
    dsimp only
    rw [StdMap.getElem?_insert]
    by_cases hne : id = UInt64.ofNat s.nNextCoreConnectionID
    · rw [if_pos hne.symm, hne, Function.update_self]
    · rw [if_neg fun heq => hne heq.symm, Function.update_of_ne hne]
      rfl
  have hbyType : (s.createCoreConnection C pMessageQueue connection).net.byType =
      Function.update s.net.byType (C.szType connection)
        (s.net.byType (C.szType connection) ++
          [UInt64.ofNat s.nNextCoreConnectionID]) := by
    funext szType
    rw [CNetRunnable.byType, ConnectionSystem.createCoreConnection]
    dsimp only
    rw [StdMap.getElem?_insert]
    by_cases hne : szType = C.szType connection
    · rw [if_pos hne.symm, hne, Function.update_self, CNetRunnable.byType, Option.getD_some,
        Std.ExtTreeMap.getD_eq_getD_getElem?]
    · rw [if_neg fun heq => hne heq.symm, Function.update_of_ne hne]
      rfl
  rw [CNetRunnable.Indexed, hbyID, hbyType]
  exact IndexedBy.insert h hnew { connection, pMessageQueue }

/-- The calls of a callback send commands only. -/
theorem Indexed.calls (h : s.net.Indexed C) (nQueue : ℕ) (calls : List BaseCall) :
    (calls.foldl (call nQueue) s).net.Indexed C := by
  induction calls generalizing s with
  | nil => exact h
  | cons baseCall calls ih =>
      refine ih ?_
      cases baseCall with
      | send nSocketID nMessageType data =>
          rw [call]
          split
          · exact h.congr rfl rfl
          · exact h
      | shutdown nSocketID nForce szMsg =>
          rw [call]
          split
          · exact h.congr rfl rfl
          · exact h
      | post c =>
          rw [call]
          split
          · exact h.congr rfl rfl
          · exact h

theorem Indexed.dispatch (h : s.net.Indexed C) (nQueue : ℕ) (bCreated : Bool)
    (calls : List BaseCall) : (s.dispatch nQueue bCreated calls).net.Indexed C := by
  rw [ConnectionSystem.dispatch]
  split
  · exact h
  · rename_i c cs hqueue
    have htaken : ({ s with
        logicQueue := Function.update s.logicQueue nQueue cs }).net.Indexed C := h
    cases c with
    | notifySocketConnect pCoreConnection =>
        rw [dispatchPacket, mgrOnConnect]
        split
        · refine Indexed.calls ?_ nQueue calls
          exact htaken.congr rfl rfl
        · exact htaken.congr rfl rfl
    | notifySocketDisconnect nSocketID =>
        rw [dispatchPacket, mgrOnDisconnect]
        have hcalls := Indexed.calls htaken nQueue calls
        split
        · exact hcalls.congr rfl rfl
        · exact htaken.congr rfl rfl
    | recvSocketData nSocketID nMessageType data =>
        rw [dispatchPacket]
        split
        · exact Indexed.calls htaken nQueue calls
        · exact htaken
    | other nType => exact Indexed.calls htaken nQueue calls

/-- A callback of a connecter. -/
theorem Indexed.callback (h : s.net.Indexed C) {f : LiveConnection σ → LiveConnection σ}
    (hf : ∀ c, C.szType (f c).connection = C.szType c.connection) (nSocketID : UInt64)
    (c : LogicCommand) : (s.callback nSocketID f c).net.Indexed C := by
  rw [ConnectionSystem.callback]
  split
  · exact h
  · split
    · exact h.withConnection hf
    · exact h

theorem Indexed.step (h : s.net.Indexed C) (hC : C.KeepsType) (hinv : Inv s)
    (event : Event σ) : (s.step C loop event).net.Indexed C := by
  cases event with
  | create pMessageQueue connection =>
      rw [ConnectionSystem.step]
      split
      · rename_i hguard
        exact Indexed.createCoreConnection h hinv hguard.2 pMessageQueue connection
      · exact h
  | onConnect nSocketID =>
      rw [ConnectionSystem.step, ConnectionSystem.onConnect]
      split
      · split
        · exact Indexed.callback h (fun c => hC.onConnect c.connection) _ _
        · exact h
      · exact h
  | onRecv nSocketID nMessageType data =>
      rw [ConnectionSystem.step]
      split
      · exact Indexed.callback h (fun c => hC.onRecv nMessageType data c.connection) _ _
      · exact h
  | onDisconnect nSocketID =>
      rw [ConnectionSystem.step]
      split
      · exact Indexed.callback h (fun c => hC.onDisconnect c.connection) _ _
      · exact h
  | recv =>
      rw [ConnectionSystem.step]
      split
      · exact h.congr rfl rfl
      · exact h
  | onProcess =>
      rw [ConnectionSystem.step, ConnectionSystem.onProcess]
      split
      · exact h
      · exact h.onCommand hC loop _
  | dispatch nQueue bCreated calls => exact Indexed.dispatch h nQueue bCreated calls
  | post c =>
      rw [ConnectionSystem.step]
      split
      · exact h.congr rfl rfl
      · exact h
  | postLogic nQueue nType => exact h.congr rfl rfl

theorem indexed_run (hC : C.KeepsType) (events : List (Event σ)) :
    (run C loop events).net.Indexed C := by
  have hstart : ({} : ConnectionSystem σ).net.Indexed C := by
    have hempty : IndexedBy (fun c : LiveConnection σ => C.szType c.connection)
        (fun _ : UInt64 => none) fun _ => [] := .empty
    have hid : ({} : ConnectionSystem σ).net.byID = fun _ => none := by
      funext id
      simp [CNetRunnable.byID]
    have htype : ({} : ConnectionSystem σ).net.byType = fun _ => [] := by
      funext szType
      simp [CNetRunnable.byType]
    rw [CNetRunnable.Indexed, hid, htype]
    exact hempty
  have hboth : Inv (run C loop events) ∧ (run C loop events).net.Indexed C :=
    foldl_invariant (I := fun s => Inv s ∧ s.net.Indexed C)
      (fun s event hs => ⟨hs.1.step event, Indexed.step hs.2 hC hs.1 event⟩)
      ⟨inv_init, hstart⟩ events
  exact hboth.2

/-- After every run the lists of the types have every connection of their type once and
no other one, so that a broadcast sends its message once to each connection of the type
that is not excluded, and leaves all others as they are. -/
theorem broadcast_run (hC : C.KeepsType) (events : List (Event σ)) (szType : StdString)
    (nMessageType : MessageType) (data : List UInt8) (vecExcludeID : List UInt64) :
    let r := (run C loop events).net
    (r.byType szType).Nodup ∧
      (∀ id, id ∈ r.byType szType ↔
        ∃ c, r.mapCoreConnectionByID[id]? = some c ∧ C.szType c.connection = szType) ∧
      ∀ id, (r.broadcast C.live szType nMessageType data
          vecExcludeID).mapCoreConnectionByID[id]? =
        r.mapCoreConnectionByID[id]?.map fun c =>
          if C.szType c.connection = szType ∧ id ∉ vecExcludeID then
            C.live.send nMessageType data (data.length % 2 ^ 16) c
          else
            c := by
  have hindexed : (run C loop events).net.Indexed C := indexed_run hC events
  exact ⟨IndexedBy.nodup hindexed szType, IndexedBy.mem hindexed szType,
    hindexed.byID_broadcast szType nMessageType data vecExcludeID⟩

/-- Of three connections one is deleted, and the list of its type has the other one of
that type. -/
theorem broadcast_run_deleted :
    (run CCoreConnection.handler ⟨fun _ _ => true, fun _ _ => true⟩
      [.create 3 { szType := [7], nState := .none, pNetConnecter := some {} },
        .create 3 { szType := [8], nState := .none, pNetConnecter := some {} },
        .create 3 { szType := [7], nState := .none, pNetConnecter := some {} },
        .onConnect 1, .dispatch 3 true [], .onDisconnect 1, .dispatch 3 true [], .recv,
        .onProcess, .onProcess]).net.byType [7] = [3] ∧
      ((run CCoreConnection.handler ⟨fun _ _ => true, fun _ _ => true⟩
        [.create 3 { szType := [7], nState := .none, pNetConnecter := some {} },
          .create 3 { szType := [8], nState := .none, pNetConnecter := some {} },
          .create 3 { szType := [7], nState := .none, pNetConnecter := some {} },
          .onConnect 1, .dispatch 3 true [], .onDisconnect 1, .dispatch 3 true [], .recv,
          .onProcess, .onProcess]).net.byType [7]).Nodup :=
  ⟨by decide, (broadcast_run CCoreConnection.keepsType_handler _ [7] .system [] []).1⟩

end ConnectionSystem

end RealtimeEx.Core
