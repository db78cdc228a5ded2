import RealtimeEx.Core.GlobalServiceRegistryProxyActive
import RealtimeEx.Core.NodePair
import RealtimeEx.Support.History
import RealtimeEx.Support.Publication

/-!
# `CLocalServiceRegistryProxy`

Every service has a registry of its own, so that it reads it without a lock.  The main thread
of the node changes the one of the node, `CGlobalServiceRegistryProxy`, and sends a copy of
it to the queue of every service; the services are told of connects and disconnects through
the same queues.
-/

namespace RealtimeEx.Core

open Base

/-! ## The registry of a service -/

/-- `CLocalServiceRegistryProxy`. -/
structure CLocalServiceRegistryProxy where
  mapServiceProxyInfo : StdMap UInt32 SServiceProxyInfo
  mapServiceIDInfoByType : StdMap StdString SServiceIDInfo
  mapServiceNameByID : StdMap StdString UInt32
  mapServiceIDByName : StdMap UInt32 StdString

/-- `fillLocalServiceRegistryProxy`. -/
def CGlobalServiceRegistryProxy.fillLocalServiceRegistryProxy (p : CGlobalServiceRegistryProxy) :
    CLocalServiceRegistryProxy where
  mapServiceProxyInfo := p.mapServiceProxyInfo
  mapServiceIDInfoByType := p.mapServiceIDInfoByType
  mapServiceNameByID := p.mapServiceNameByID
  mapServiceIDByName := p.mapServiceIDByName

/-- What the main thread sends to the queue of a service: `SMCT_UPDATE_SERVICE_REGISTRY_PROXY`,
`SMCT_SERVICE_CONNECT` and `SMCT_SERVICE_DISCONNECT`. -/
inductive RegistryPacket
  | update (pProxy : CLocalServiceRegistryProxy)
  | notice (notice : ServiceNotice)

namespace CLocalServiceRegistryProxy

variable (l : CLocalServiceRegistryProxy)

def getActiveServiceIDByType (szName : StdString) : List UInt32 :=
  match l.mapServiceIDInfoByType[szName]? with
  | none => []
  | some sServiceIDInfo => sServiceIDInfo.vecActiveServiceID

def getServiceBaseInfoByServiceID (nServiceID : UInt32) : Option SServiceBaseInfo :=
  l.mapServiceProxyInfo[nServiceID]?.map SServiceProxyInfo.sServiceBaseInfo

def getOtherNodeSocketIDByServiceID (nServiceID : UInt32) : UInt64 :=
  (l.mapServiceProxyInfo[nServiceID]?.map SServiceProxyInfo.nSocketID).getD 0

/-- `CLogicRunnable::dispatch` for these packets.  The callbacks of the service that the notices
start are not part of the registry. -/
def dispatch : RegistryPacket → CLocalServiceRegistryProxy
  | .update pProxy => pProxy
  | .notice _ => l

/-- The registry shows what a notice says: the service has a socket and is active, or not. -/
structure Shows (notice : ServiceNotice) : Prop where
  known : (l.getServiceBaseInfoByServiceID notice.nID).isSome
  socket : l.getOtherNodeSocketIDByServiceID notice.nID ≠ 0 ↔ notice.bConnect = true
  active : ∀ s, l.getServiceBaseInfoByServiceID notice.nID = some s →
    (notice.nID ∈ l.getActiveServiceIDByType s.szType ↔ notice.bConnect = true)

end CLocalServiceRegistryProxy

/-! ## Changes of the registry of the node -/

/-- A change of the registry of the node: whether it ends with `updateLocalServiceRegistryProxy`,
and what the services are told of it. -/
structure RegistryChange where
  proxy : CGlobalServiceRegistryProxy
  bUpdate : Bool
  notices : List ServiceNotice

namespace RegistryChange

/-- The packets for every service, in the batches in which they are sent. -/
def batches (change : RegistryChange) : List (List RegistryPacket) :=
  [if change.bUpdate then [.update change.proxy.fillLocalServiceRegistryProxy] else [],
    change.notices.map .notice]

/-- The packets that one service gets. -/
def packets (change : RegistryChange) : List RegistryPacket :=
  change.batches.flatten

end RegistryChange

namespace CGlobalServiceRegistryProxy

variable (p : CGlobalServiceRegistryProxy)

/-- The notices of `onNodeConnect` and `onNodeDisconnect`. -/
def notices (bConnect : Bool) (nNodeID : UInt32) : List ServiceNotice :=
  ((p.getServiceBaseInfoByNodeID nNodeID).getD []).map fun s => ⟨bConnect, s.szType, s.nID⟩

/-- `setOtherNodeSocketIDByNodeID`, and the notices if the socket has been set. -/
def socketChanges (nNodeID : UInt32) (nSocketID : UInt64) (bConnect : Bool) :
    List RegistryChange :=
  let r := p.setOtherNodeSocketIDByNodeID nNodeID nSocketID
  if r.1 then [⟨r.2, true, r.2.notices bConnect nNodeID⟩] else []

/-- Whether `addNodeProxyInfo` gets to its end.  For a node that is to be connected but has no
address the `DebugAst` in front of the ticker returns. -/
def reachesEnd (sNodeBaseInfo : SNodeBaseInfo) (vecServiceBaseInfo : List SServiceBaseInfo)
    (bExcludeConnect : Bool) : Bool :=
  !(p.isConnect vecServiceBaseInfo && !bExcludeConnect) ||
    (!sNodeBaseInfo.szHost.isEmpty && sNodeBaseInfo.nPort != 0)

/-- `addNodeProxyInfo`. -/
def addChanges (sNodeBaseInfo : SNodeBaseInfo) (vecServiceBaseInfo : List SServiceBaseInfo)
    (bExcludeConnect : Bool) : List RegistryChange :=
  if p.accepts sNodeBaseInfo vecServiceBaseInfo then
    [⟨p.addNodeProxyInfo sNodeBaseInfo vecServiceBaseInfo bExcludeConnect,
      p.reachesEnd sNodeBaseInfo vecServiceBaseInfo bExcludeConnect, []⟩]
  else
    []

/-- One round of the second loop of `setNodeProxyInfo`. -/
def addUnknownChanges (setExcludeConnectNodeID : StdSet UInt32) (e : UInt32 × SNodeInfo) :
    List RegistryChange :=
  if p.mapNodeProxyInfo.contains e.1 then
    []
  else
    p.addChanges e.2.sNodeBaseInfo e.2.vecServiceBaseInfo
      (setExcludeConnectNodeID.contains e.2.sNodeBaseInfo.nID)

end CGlobalServiceRegistryProxy

/-- The changes of a loop. -/
def loopChanges {A X : Type*} (round : A → X → A) (changes : A → X → List RegistryChange) :
    A → List X → List RegistryChange
  | _, [] => []
  | a, x :: xs => changes a x ++ loopChanges round changes (round a x) xs

namespace CCoreApp

variable (app : CCoreApp)

/-- `delNodeProxyInfo`.  A connected node is disconnected first. -/
def delChanges (nNodeID : UInt32) : List RegistryChange :=
  if app.proxy.socketID nNodeID ≠ 0 then
    match app.mapBaseConnectionByID (app.proxy.socketID nNodeID) with
    | none => []
    | some _ =>
        app.proxy.socketChanges nNodeID 0 false ++
          [⟨app.proxy.delNodeProxyInfo nNodeID, true, []⟩]
  else if app.proxy.mapNodeProxyInfo.contains nNodeID then
    [⟨app.proxy.delNodeProxyInfo nNodeID, true, []⟩]
  else
    []

/-- What the main thread does: events and messages of the connections to other nodes, and
messages of a master. -/
inductive Call
  | onConnect (nSocketID : UInt64) (eMode : ENetConnecterMode)
  | onDisconnect (nSocketID : UInt64)
  | onDispatch (nSocketID : UInt64) (m : NodeMessage)
  | addNodeProxyInfo (sNodeBaseInfo : SNodeBaseInfo)
      (vecServiceBaseInfo : List SServiceBaseInfo) (bExcludeConnect : Bool)
  | delNodeProxyInfo (nNodeID : UInt32)
  | setNodeProxyInfo (mapNodeInfo : StdMap UInt32 SNodeInfo)
      (setExcludeConnectNodeID : StdSet UInt32)

def exec : Call → CCoreApp
  | .onConnect nSocketID eMode => (app.onConnect nSocketID eMode).1
  | .onDisconnect nSocketID => app.onDisconnect nSocketID
  | .onDispatch nSocketID m => (app.onDispatch nSocketID m).1
  | .addNodeProxyInfo base vec bExcludeConnect => app.addNodeProxyInfo base vec bExcludeConnect
  | .delNodeProxyInfo nNodeID => app.delNodeProxyInfo nNodeID
  | .setNodeProxyInfo mapNodeInfo setExcludeConnectNodeID =>
      app.setNodeProxyInfo mapNodeInfo setExcludeConnectNodeID

/-- The changes of the registry of the node in a call, one after the other. -/
def changes : Call → List RegistryChange
  | .onConnect _ _ => []
  | .onDisconnect nSocketID =>
      match app.mapBaseConnectionByID nSocketID with
      | none => []
      | some c => if c.nNodeID ≠ 0 then app.proxy.socketChanges c.nNodeID 0 false else []
  | .onDispatch nSocketID m =>
      match app.mapBaseConnectionByID nSocketID with
      | none => []
      | some c =>
          match m with
          | .handshakeRequest nNodeID =>
              if c.nNodeID ≠ 0 then
                []
              else if (app.proxy.getServiceBaseInfoByNodeID nNodeID).isNone then
                []
              else
                app.proxy.socketChanges nNodeID nSocketID true
          | .handshakeResponse nNodeID => app.proxy.socketChanges nNodeID nSocketID true
          | .invalid _ => []
  | .addNodeProxyInfo base vec bExcludeConnect => app.proxy.addChanges base vec bExcludeConnect
  | .delNodeProxyInfo nNodeID => app.delChanges nNodeID
  | .setNodeProxyInfo mapNodeInfo setExcludeConnectNodeID =>
      let nodes := app.proxy.missingNodes mapNodeInfo
      loopChanges delNodeProxyInfo delChanges app nodes ++
        loopChanges (CGlobalServiceRegistryProxy.addUnknown setExcludeConnectNodeID)
          (CGlobalServiceRegistryProxy.addUnknownChanges · setExcludeConnectNodeID)
          (nodes.foldl delNodeProxyInfo app).proxy mapNodeInfo.toList

end CCoreApp

/-! ## The services of a node -/

/-- The services of a node, by their ids, as readers of what the main thread sends. -/
def registryPublisher (config : NodeConfig) :
    Publisher CCoreApp CCoreApp.Call UInt32 RegistryPacket CLocalServiceRegistryProxy where
  readers := config.vecServiceBaseInfo.map SServiceBaseInfo.nID
  exec := CCoreApp.exec
  batches app call := (app.changes call).flatMap RegistryChange.batches
  apply := CLocalServiceRegistryProxy.dispatch

/-- A node whose services have been filled by `CCoreServiceMgr::onInit`. -/
def registrySystem (config : NodeConfig) :
    TransitionSystem (Publication CCoreApp UInt32 RegistryPacket CLocalServiceRegistryProxy)
      (PublicationLabel CCoreApp.Call UInt32 RegistryPacket) :=
  (registryPublisher config).system (CCoreApp.init config)
    fun _ => (CCoreApp.init config).proxy.fillLocalServiceRegistryProxy

/-! ## What a change means for the services -/

namespace CGlobalServiceRegistryProxy

variable {p p' : CGlobalServiceRegistryProxy} {nNodeID : UInt32} {nSocketID : UInt64}
  {bConnect : Bool}

/-- What every call of the main thread keeps. -/
def Sound (p : CGlobalServiceRegistryProxy) : Prop := ∃ Reported, Watched Reported p

theorem Sound.setOtherNodeSocketIDByNodeID (h : p.Sound) (nNodeID : UInt32)
    (nSocketID : UInt64) : (p.setOtherNodeSocketIDByNodeID nNodeID nSocketID).2.Sound :=
  let ⟨_, hp⟩ := h
  ⟨_, hp.setOtherNodeSocketIDByNodeID nNodeID nSocketID⟩

theorem Sound.addNodeProxyInfo (h : p.Sound) (base : SNodeBaseInfo)
    (vec : List SServiceBaseInfo) (bExcludeConnect : Bool) :
    (p.addNodeProxyInfo base vec bExcludeConnect).Sound :=
  let ⟨_, hp⟩ := h
  ⟨_, hp.addNodeProxyInfo base vec bExcludeConnect⟩

theorem Sound.delNodeProxyInfo (h : p.Sound) (nNodeID : UInt32) :
    (p.delNodeProxyInfo nNodeID).Sound :=
  let ⟨_, hp⟩ := h
  ⟨_, hp.delNodeProxyInfo nNodeID⟩

/-- No service is gone, and there is a new one. -/
def Outgrown (p p' : CGlobalServiceRegistryProxy) : Prop :=
  (∀ id ∈ p.mapServiceIDByName, id ∈ p'.mapServiceIDByName) ∧
    ∃ id ∈ p'.mapServiceIDByName, id ∉ p.mapServiceIDByName

end CGlobalServiceRegistryProxy

/-- The services are told of a connect or a disconnect behind an update that shows it.  What
they are not told of is a node with a service that they do not know. -/
structure RegistryChange.Follows (p : CGlobalServiceRegistryProxy) (change : RegistryChange) :
    Prop where
  told : ∀ notice ∈ change.notices, change.bUpdate = true ∧
    change.proxy.fillLocalServiceRegistryProxy.Shows notice
  hidden : change.bUpdate = false → p.Outgrown change.proxy

/-- The changes lead from one registry to another. -/
def Leads (p : CGlobalServiceRegistryProxy) :
    List RegistryChange → CGlobalServiceRegistryProxy → Prop
  | [], p' => p' = p
  | change :: changes, p' => change.Follows p ∧ Leads change.proxy changes p'

section Leads

variable {p p' p'' : CGlobalServiceRegistryProxy} {changes changes' : List RegistryChange}

theorem Leads.append (h : Leads p changes p') (h' : Leads p' changes' p'') :
    Leads p (changes ++ changes') p'' := by
  induction changes generalizing p with
  | nil =>
      rw [show p' = p from h] at h'
      exact h'
  | cons change changes ih => exact ⟨h.1, ih h.2⟩

theorem leads_singleton {change : RegistryChange} (h : change.Follows p) :
    Leads p [change] change.proxy :=
  ⟨h, rfl⟩

/-- A change without notices that ends with an update. -/
theorem follows_update (p p' : CGlobalServiceRegistryProxy) :
    RegistryChange.Follows p ⟨p', true, []⟩ :=
  ⟨fun _ h => absurd h List.not_mem_nil, Bool.noConfusion⟩

theorem leads_loopChanges {A X : Type*} {round : A → X → A}
    {changes : A → X → List RegistryChange} (proxy : A → CGlobalServiceRegistryProxy)
    {I : A → Prop} {xs : List X} (hI : ∀ a, ∀ x ∈ xs, I a → I (round a x))
    (hround : ∀ a, ∀ x ∈ xs, I a → Leads (proxy a) (changes a x) (proxy (round a x)))
    {a : A} (ha : I a) :
    Leads (proxy a) (loopChanges round changes a xs) (proxy (xs.foldl round a)) := by
  induction xs generalizing a with
  | nil => rfl
  | cons x xs ih =>
      refine (hround a x List.mem_cons_self ha).append ?_
      exact ih (fun a y hy => hI a y (List.mem_cons_of_mem x hy))
        (fun a y hy => hround a y (List.mem_cons_of_mem x hy)) (hI a x List.mem_cons_self ha)

end Leads

namespace CGlobalServiceRegistryProxy

variable {p : CGlobalServiceRegistryProxy} {nNodeID : UInt32} {nSocketID : UInt64}
  {info : SNodeProxyInfo} {bConnect : Bool}

theorem setOtherNodeSocketIDByNodeID_cases (p : CGlobalServiceRegistryProxy) (nNodeID : UInt32)
    (nSocketID : UInt64) :
    p.setOtherNodeSocketIDByNodeID nNodeID nSocketID = (false, p) ∨
      ∃ info, p.mapNodeProxyInfo[nNodeID]? = some info ∧
        p.setOtherNodeSocketIDByNodeID nNodeID nSocketID =
          (true, p.setSocketID nNodeID info nSocketID) := by
  rw [setOtherNodeSocketIDByNodeID]
  split
  · exact .inl rfl
  · rename_i info hinfo
    split
    · exact .inl rfl
    · exact .inr ⟨info, hinfo, rfl⟩

/-- The registry behind a socket that has been set shows it for every service of the node. -/
theorem Watched.shows_setSocketID {Reported : UInt32 → Prop} (h : Watched Reported p)
    (hinfo : p.mapNodeProxyInfo[nNodeID]? = some info)
    (hconnect : bConnect = true ↔ nSocketID ≠ 0) {s : SServiceBaseInfo}
    (hs : s ∈ info.vecServiceBaseInfo) :
    (p.setSocketID nNodeID info nSocketID).fillLocalServiceRegistryProxy.Shows
      ⟨bConnect, s.szType, s.nID⟩ := by
  have hmem : s.nID ∈ info.vecServiceBaseInfo.map SServiceBaseInfo.nID :=
    List.mem_map_of_mem hs
  obtain ⟨q, hq⟩ : ∃ q, p.mapServiceProxyInfo[s.nID]? = some q := by
    have hknown := h.held.known ⟨info, hinfo, hs⟩
    rw [← Std.ExtTreeMap.contains_iff_mem, Std.ExtTreeMap.contains_eq_isSome_getElem?] at hknown
    exact Option.isSome_iff_exists.mp hknown
  have hget : (p.setSocketID nNodeID info nSocketID).mapServiceProxyInfo[s.nID]? =
      some { q with nSocketID } := by
    rw [setSocketID_eq, mapServiceProxyInfo_updateActiveServiceID,
      getElem?_mapServiceProxyInfo_withSocketID, if_pos hmem, hq]
    rfl
  have hactive : s.nID ∈ (p.setSocketID nNodeID info nSocketID).getActiveServiceIDByType
      q.sServiceBaseInfo.szType ↔ nSocketID ≠ 0 := by
    rw [(h.setSocketID hinfo nSocketID).types.getActiveServiceIDByType_eq,
      Std.ExtTreeSet.mem_toList, setSocketID_eq, activeIDs_updateActiveServiceID]
    refine Iff.trans (mem_activeIDs_foldl_setServiceSocketID h.keyed _ hq) ?_
    rw [if_pos hmem]
  constructor
  · rw [CLocalServiceRegistryProxy.getServiceBaseInfoByServiceID, fillLocalServiceRegistryProxy,
      hget]
    rfl
  · rw [CLocalServiceRegistryProxy.getOtherNodeSocketIDByServiceID, fillLocalServiceRegistryProxy,
      hget]
    exact hconnect.symm
  · intro s' hs'
    rw [CLocalServiceRegistryProxy.getServiceBaseInfoByServiceID, fillLocalServiceRegistryProxy,
      hget] at hs'
    obtain rfl : q.sServiceBaseInfo = s' := Option.some.inj hs'
    exact hactive.trans hconnect.symm

theorem Sound.leads_socketChanges (h : p.Sound) (nNodeID : UInt32)
    (hconnect : bConnect = true ↔ nSocketID ≠ 0) :
    Leads p (p.socketChanges nNodeID nSocketID bConnect)
      (p.setOtherNodeSocketIDByNodeID nNodeID nSocketID).2 := by
  obtain ⟨Reported, hp⟩ := h
  rw [socketChanges]
  obtain hno | ⟨info, hinfo, hyes⟩ := p.setOtherNodeSocketIDByNodeID_cases nNodeID nSocketID
  · rw [hno]
    rfl
  · rw [hyes]
    refine leads_singleton ⟨fun notice hnotice => ⟨rfl, ?_⟩, Bool.noConfusion⟩
    rw [notices, getServiceBaseInfoByNodeID, getElem?_setSocketID_self] at hnotice
    obtain ⟨s, hs, rfl⟩ := List.mem_map.mp hnotice
    exact hp.shows_setSocketID hinfo hconnect hs

theorem leads_addChanges (p : CGlobalServiceRegistryProxy) (base : SNodeBaseInfo)
    (vec : List SServiceBaseInfo) (bExcludeConnect : Bool) :
    Leads p (p.addChanges base vec bExcludeConnect)
      (p.addNodeProxyInfo base vec bExcludeConnect) := by
  rw [addChanges]
  cases haccepts : p.accepts base vec with
  | false =>
      rw [addNodeProxyInfo_of_not_accepts haccepts]
      rfl
  | true =>
      refine leads_singleton ⟨fun _ h => absurd h List.not_mem_nil, fun hend => ?_⟩
      obtain ⟨info, rfl, -, -, hfree, heq⟩ :=
        addNodeProxyInfo_of_accepts bExcludeConnect haccepts
      rw [reachesEnd, Bool.or_eq_false_iff, Bool.not_eq_false', Bool.and_eq_true] at hend
      obtain ⟨s, hs, -⟩ := List.any_eq_true.mp hend.1.1
      have hmem (id : UInt32) : id ∈ (p.addNodeProxyInfo base info.vecServiceBaseInfo
          bExcludeConnect).mapServiceIDByName ↔
            id ∈ p.mapServiceIDByName ∨ ∃ s ∈ info.vecServiceBaseInfo, s.nID = id := by
        rw [heq, mapServiceIDByName_updateActiveServiceID, mapServiceIDByName_withNode,
          StdMap.mem_foldl_insert]
      refine ⟨fun id hid => (hmem id).mpr (.inl hid), s.nID,
        (hmem s.nID).mpr (.inr ⟨s, hs, rfl⟩), ?_⟩
      have hnone := (isFree_iff.mp (hfree s hs)).2.1
      rw [← Std.ExtTreeMap.contains_iff_mem, Std.ExtTreeMap.contains_eq_isSome_getElem?, hnone]
      exact Bool.false_ne_true

theorem leads_addUnknownChanges (p : CGlobalServiceRegistryProxy)
    (setExcludeConnectNodeID : StdSet UInt32) (e : UInt32 × SNodeInfo) :
    Leads p (p.addUnknownChanges setExcludeConnectNodeID e)
      (p.addUnknown setExcludeConnectNodeID e) := by
  rw [addUnknownChanges, addUnknown]
  split
  · rfl
  · exact p.leads_addChanges _ _ _

end CGlobalServiceRegistryProxy

/-! ## The calls of the main thread -/

namespace CCoreApp

variable {app : CCoreApp}

/-- What every call keeps: there is no connection with socket 0. -/
structure Stands (app : CCoreApp) : Prop where
  sound : app.proxy.Sound
  zero : app.mapBaseConnectionByID 0 = none

theorem Stands.leads_delChanges (h : app.Stands) (nNodeID : UInt32) :
    Leads app.proxy (app.delChanges nNodeID) (app.delNodeProxyInfo nNodeID).proxy := by
  rw [delChanges, delNodeProxyInfo]
  split
  · cases app.mapBaseConnectionByID (app.proxy.socketID nNodeID) with
    | none => rfl
    | some c =>
        exact (h.sound.leads_socketChanges nNodeID (by simp)).append
          (leads_singleton (follows_update _ _))
  · split
    · exact leads_singleton (follows_update _ _)
    · rename_i hunknown
      rw [Std.ExtTreeMap.contains_eq_isSome_getElem?, Option.not_isSome_iff_eq_none] at hunknown
      simp only [CGlobalServiceRegistryProxy.delNodeProxyInfo, hunknown]
      rfl

theorem Stands.delNodeProxyInfo (h : app.Stands) (nNodeID : UInt32) :
    (app.delNodeProxyInfo nNodeID).Stands := by
  rw [CCoreApp.delNodeProxyInfo]
  split
  · rename_i hne
    split
    · exact h
    · refine ⟨h.sound.delNodeProxyInfo nNodeID, ?_⟩
      change Function.update app.mapBaseConnectionByID _ _ 0 = none
      rw [Function.update_of_ne (Ne.symm hne)]
      exact h.zero
  · exact ⟨h.sound.delNodeProxyInfo nNodeID, h.zero⟩

theorem Stands.ne_zero (h : app.Stands) {nSocketID : UInt64} {c : CBaseConnectionOtherNode}
    (hc : app.mapBaseConnectionByID nSocketID = some c) : nSocketID ≠ 0 := by
  rintro rfl
  rw [h.zero] at hc
  cases hc

/-- The app behind a handshake message. -/
def handshaken (app : CCoreApp) (nSocketID : UInt64) (c : CBaseConnectionOtherNode)
    (nNodeID : UInt32) (szDup : String) : CCoreApp :=
  let r := app.handshake nSocketID c nNodeID szDup
  if r.1 then r.2.onNodeConnect nNodeID nSocketID else r.2

theorem proxy_handshaken (nSocketID : UInt64) (c : CBaseConnectionOtherNode)
    (nNodeID : UInt32) (szDup : String) :
    (app.handshaken nSocketID c nNodeID szDup).proxy =
      (app.proxy.setOtherNodeSocketIDByNodeID nNodeID nSocketID).2 := by
  simp only [handshaken, handshake]
  split <;> rfl

/-- A message is a handshake, or it changes no more than its connection. -/
theorem onDispatch_cases (app : CCoreApp) (nSocketID : UInt64) (m : NodeMessage) :
    (app.changes (.onDispatch nSocketID m) = [] ∧
      ((app.onDispatch nSocketID m).1 = app ∨
        ∃ c c', app.mapBaseConnectionByID nSocketID = some c ∧
          (app.onDispatch nSocketID m).1 = app.setBaseConnection nSocketID (some c'))) ∨
      ∃ c nNodeID szDup, app.mapBaseConnectionByID nSocketID = some c ∧
        app.changes (.onDispatch nSocketID m) =
          app.proxy.socketChanges nNodeID nSocketID true ∧
        (app.onDispatch nSocketID m).1 = app.handshaken nSocketID c nNodeID szDup := by
  rw [changes, onDispatch]
  cases app.mapBaseConnectionByID nSocketID with
  | none => exact .inl ⟨rfl, .inl rfl⟩
  | some c =>
      cases m with
      | handshakeRequest nNodeID =>
          by_cases hnode : c.nNodeID ≠ 0
          · exact .inl ⟨if_pos hnode, .inl (congrArg Prod.fst (if_pos hnode))⟩
          · by_cases hunknown : (app.proxy.getServiceBaseInfoByNodeID nNodeID).isNone = true
            · refine .inl ⟨(if_neg hnode).trans (if_pos hunknown),
                .inr ⟨c, c.shutdown true "node info not find", rfl, ?_⟩⟩
              exact congrArg Prod.fst ((if_neg hnode).trans (if_pos hunknown))
            · simp only [onHandshakeRequest, if_neg hnode, if_neg hunknown,
                apply_ite Prod.fst]
              exact .inr ⟨c, nNodeID, _, rfl, rfl, rfl⟩
      | handshakeResponse nNodeID => exact .inr ⟨c, nNodeID, _, rfl, rfl, rfl⟩
      | invalid nMessageID => exact .inl ⟨rfl, .inl rfl⟩

/-- The changes of a call are what it does to the registry. -/
theorem Stands.leads_changes (h : app.Stands) (call : Call) :
    Leads app.proxy (app.changes call) (app.exec call).proxy := by
  cases call with
  | onConnect nSocketID eMode => rfl
  | onDisconnect nSocketID =>
      rw [changes, exec, onDisconnect]
      cases app.mapBaseConnectionByID nSocketID with
      | none => rfl
      | some c =>
          dsimp only
          split
          · exact h.sound.leads_socketChanges c.nNodeID (by simp)
          · rfl
  | onDispatch nSocketID m =>
      rw [exec]
      obtain ⟨hchanges, happ | ⟨c, c', -, happ⟩⟩ | ⟨c, nNodeID, szDup, hc, hchanges, happ⟩ :=
        app.onDispatch_cases nSocketID m
      · rw [hchanges, happ]
        rfl
      · rw [hchanges, happ]
        rfl
      · rw [hchanges, happ, proxy_handshaken]
        exact h.sound.leads_socketChanges nNodeID (iff_of_true rfl (h.ne_zero hc))
  | addNodeProxyInfo base vec bExcludeConnect => exact app.proxy.leads_addChanges _ _ _
  | delNodeProxyInfo nNodeID => exact h.leads_delChanges nNodeID
  | setNodeProxyInfo mapNodeInfo setExcludeConnectNodeID =>
      have hdel := leads_loopChanges (I := Stands) CCoreApp.proxy
        (fun a nNodeID (_ : nNodeID ∈ app.proxy.missingNodes mapNodeInfo) ha =>
          ha.delNodeProxyInfo nNodeID)
        (fun a nNodeID _ ha => ha.leads_delChanges nNodeID) h
      refine hdel.append ?_
      exact leads_loopChanges (I := fun _ => True) id (fun _ _ _ _ => trivial)
        (fun p e _ _ => p.leads_addUnknownChanges setExcludeConnectNodeID e) trivial

/-- The manager of the connections gives no connection the socket 0. -/
def Call.Socketed : Call → Prop
  | .onConnect nSocketID _ => nSocketID ≠ 0
  | _ => True

theorem Stands.setBaseConnection (h : app.Stands) {nSocketID : UInt64} (hne : nSocketID ≠ 0)
    (c : Option CBaseConnectionOtherNode) : (app.setBaseConnection nSocketID c).Stands := by
  refine ⟨h.sound, ?_⟩
  rw [mapBaseConnectionByID_setBaseConnection, if_neg (Ne.symm hne)]
  exact h.zero

theorem Stands.handshaken (h : app.Stands) {nSocketID : UInt64} (hne : nSocketID ≠ 0)
    (c : CBaseConnectionOtherNode) (nNodeID : UInt32) (szDup : String) :
    (app.handshaken nSocketID c nNodeID szDup).Stands := by
  have hset : Stands { app with
      proxy := (app.proxy.setOtherNodeSocketIDByNodeID nNodeID nSocketID).2 } :=
    ⟨h.sound.setOtherNodeSocketIDByNodeID nNodeID nSocketID, h.zero⟩
  simp only [CCoreApp.handshaken, CCoreApp.handshake]
  split
  · have hconnected := hset.setBaseConnection hne (some { c with nNodeID })
    exact ⟨hconnected.sound, hconnected.zero⟩
  · exact hset.setBaseConnection hne _

theorem Stands.onDisconnect (h : app.Stands) (nSocketID : UInt64) :
    (app.onDisconnect nSocketID).Stands := by
  rw [CCoreApp.onDisconnect]
  cases hc : app.mapBaseConnectionByID nSocketID with
  | none => exact h
  | some c =>
      have herase := h.setBaseConnection (h.ne_zero hc) none
      dsimp only
      split
      · exact ⟨h.sound.setOtherNodeSocketIDByNodeID c.nNodeID 0, herase.zero⟩
      · exact herase

theorem Stands.onDispatch (h : app.Stands) (nSocketID : UInt64) (m : NodeMessage) :
    (app.onDispatch nSocketID m).1.Stands := by
  obtain ⟨-, happ | ⟨c, c', hc, happ⟩⟩ | ⟨c, nNodeID, szDup, hc, -, happ⟩ :=
    app.onDispatch_cases nSocketID m
  · rw [happ]
    exact h
  · rw [happ]
    exact h.setBaseConnection (h.ne_zero hc) _
  · rw [happ]
    exact h.handshaken (h.ne_zero hc) c nNodeID szDup

theorem Stands.setNodeProxyInfo (h : app.Stands) (mapNodeInfo : StdMap UInt32 SNodeInfo)
    (setExcludeConnectNodeID : StdSet UInt32) :
    (app.setNodeProxyInfo mapNodeInfo setExcludeConnectNodeID).Stands := by
  have hdel : ((app.proxy.missingNodes mapNodeInfo).foldl CCoreApp.delNodeProxyInfo app).Stands :=
    foldl_invariant (fun _ nNodeID ha => ha.delNodeProxyInfo nNodeID) h _
  refine ⟨foldl_invariant (fun p e hp => ?_) hdel.sound _, hdel.zero⟩
  rw [CGlobalServiceRegistryProxy.addUnknown]
  split
  · exact hp
  · exact hp.addNodeProxyInfo _ _ _

theorem Stands.exec (h : app.Stands) {call : Call} (hcall : call.Socketed) :
    (app.exec call).Stands := by
  cases call with
  | onConnect nSocketID eMode => exact h.setBaseConnection hcall _
  | onDisconnect nSocketID => exact h.onDisconnect nSocketID
  | onDispatch nSocketID m => exact h.onDispatch nSocketID m
  | addNodeProxyInfo base vec bExcludeConnect =>
      exact ⟨h.sound.addNodeProxyInfo base vec bExcludeConnect, h.zero⟩
  | delNodeProxyInfo nNodeID => exact h.delNodeProxyInfo nNodeID
  | setNodeProxyInfo mapNodeInfo setExcludeConnectNodeID =>
      exact h.setNodeProxyInfo mapNodeInfo setExcludeConnectNodeID

theorem stands_init (config : NodeConfig) : (init config).Stands :=
  ⟨⟨_, CGlobalServiceRegistryProxy.watched_init _ _ _⟩, rfl⟩

/-- The changes of a list of calls. -/
def allChanges : CCoreApp → List Call → List RegistryChange :=
  loopChanges exec changes

theorem leads_allChanges (config : NodeConfig) {calls : List Call}
    (hcalls : ∀ call ∈ calls, call.Socketed) :
    Leads (init config).proxy ((init config).allChanges calls)
      (calls.foldl exec (init config)).proxy :=
  leads_loopChanges CCoreApp.proxy (fun _ call hcall ha => ha.exec (hcalls call hcall))
    (fun _ call _ ha => ha.leads_changes call) (stands_init config)

/-! ## The notices of a call -/

/-- The queues of the services behind changes. -/
def Told (app : CCoreApp) (changes : List RegistryChange) (app' : CCoreApp) : Prop :=
  app'.vecCoreService =
    app.vecCoreService.map (· ++ changes.flatMap RegistryChange.notices)

theorem told_nil (app : CCoreApp) : app.Told [] app := by
  rw [Told, List.flatMap_nil]
  simp

theorem Told.append {app' app'' : CCoreApp} {changes changes' : List RegistryChange}
    (h : app.Told changes app') (h' : app'.Told changes' app'') :
    app.Told (changes ++ changes') app'' := by
  rw [Told] at h h' ⊢
  rw [h', h, List.map_map, List.flatMap_append]
  exact List.map_congr_left fun queue _ => List.append_assoc _ _ _

theorem told_loopChanges {X : Type*} (app : CCoreApp) {round : CCoreApp → X → CCoreApp}
    {changes : CCoreApp → X → List RegistryChange}
    (hround : ∀ a x, Told a (changes a x) (round a x)) (xs : List X) :
    app.Told (loopChanges round changes app xs) (xs.foldl round app) := by
  induction xs generalizing app with
  | nil => exact told_nil app
  | cons x xs ih => exact (hround app x).append (ih (round app x))

/-- Changes without notices. -/
theorem told_of_quiet {app' : CCoreApp} {changes : List RegistryChange}
    (hqueues : app'.vecCoreService = app.vecCoreService)
    (hquiet : ∀ change ∈ changes, change.notices = []) : app.Told changes app' := by
  rw [Told, List.flatMap_eq_nil_iff.mpr hquiet, hqueues]
  simp

theorem notices_addChanges (p : CGlobalServiceRegistryProxy) (base : SNodeBaseInfo)
    (vec : List SServiceBaseInfo) (bExcludeConnect : Bool) :
    ∀ change ∈ p.addChanges base vec bExcludeConnect, change.notices = [] := by
  intro change hchange
  rw [CGlobalServiceRegistryProxy.addChanges] at hchange
  split at hchange
  · rw [List.mem_singleton.mp hchange]
  · exact absurd hchange List.not_mem_nil

theorem notices_loopChanges (setExcludeConnectNodeID : StdSet UInt32)
    (p : CGlobalServiceRegistryProxy) (es : List (UInt32 × SNodeInfo)) :
    ∀ change ∈ loopChanges (CGlobalServiceRegistryProxy.addUnknown setExcludeConnectNodeID)
      (CGlobalServiceRegistryProxy.addUnknownChanges · setExcludeConnectNodeID) p es,
        change.notices = [] := by
  induction es generalizing p with
  | nil => exact fun change hchange => absurd hchange List.not_mem_nil
  | cons e es ih =>
      intro change hchange
      obtain hchange | hchange := List.mem_append.mp hchange
      · simp only [CGlobalServiceRegistryProxy.addUnknownChanges] at hchange
        split at hchange
        · exact absurd hchange List.not_mem_nil
        · exact notices_addChanges _ _ _ _ change hchange
      · exact ih _ change hchange

/-- A socket that has been set leaves the services of the node as they are. -/
theorem notices_setSocketID {p : CGlobalServiceRegistryProxy} {nNodeID : UInt32}
    {info : SNodeProxyInfo} (hinfo : p.mapNodeProxyInfo[nNodeID]? = some info)
    (nSocketID : UInt64) (bConnect : Bool) :
    (p.setSocketID nNodeID info nSocketID).notices bConnect nNodeID =
      p.notices bConnect nNodeID := by
  rw [CGlobalServiceRegistryProxy.notices, CGlobalServiceRegistryProxy.notices,
    CGlobalServiceRegistryProxy.getServiceBaseInfoByNodeID,
    CGlobalServiceRegistryProxy.getServiceBaseInfoByNodeID, hinfo,
    CGlobalServiceRegistryProxy.getElem?_setSocketID_self]
  rfl

/-- The notices of a disconnect; there are none for an unknown node. -/
theorem notices_socketChanges_zero (p : CGlobalServiceRegistryProxy) (nNodeID : UInt32) :
    (p.socketChanges nNodeID 0 false).flatMap RegistryChange.notices =
      p.notices false nNodeID := by
  rw [CGlobalServiceRegistryProxy.socketChanges,
    CGlobalServiceRegistryProxy.setOtherNodeSocketIDByNodeID]
  cases hinfo : p.mapNodeProxyInfo[nNodeID]? with
  | none =>
      rw [CGlobalServiceRegistryProxy.notices,
        CGlobalServiceRegistryProxy.getServiceBaseInfoByNodeID, hinfo]
      rfl
  | some info =>
      have hnotices := notices_setSocketID hinfo 0 false
      simpa using hnotices

theorem told_onNodeEvent (app : CCoreApp) (bConnect : Bool) (nNodeID : UInt32)
    (nSocketID : UInt64) {changes : List RegistryChange}
    (hnotices : changes.flatMap RegistryChange.notices = app.proxy.notices bConnect nNodeID) :
    app.Told changes (app.onNodeEvent bConnect nNodeID nSocketID) := by
  rw [Told, hnotices]
  rfl

theorem told_delNodeProxyInfo (app : CCoreApp) (nNodeID : UInt32) :
    app.Told (app.delChanges nNodeID) (app.delNodeProxyInfo nNodeID) := by
  rw [delChanges, delNodeProxyInfo]
  split
  · cases app.mapBaseConnectionByID (app.proxy.socketID nNodeID) with
    | none => exact told_nil app
    | some c =>
        have hevent := told_onNodeEvent app false nNodeID (app.proxy.socketID nNodeID)
          (notices_socketChanges_zero app.proxy nNodeID)
        exact hevent.append (told_of_quiet rfl (by simp))
  · split
    · exact told_of_quiet rfl (by simp)
    · exact told_nil app

theorem told_handshaken (nSocketID : UInt64) (c : CBaseConnectionOtherNode)
    (nNodeID : UInt32) (szDup : String) :
    app.Told (app.proxy.socketChanges nNodeID nSocketID true)
      (app.handshaken nSocketID c nNodeID szDup) := by
  simp only [handshaken, handshake, CGlobalServiceRegistryProxy.socketChanges]
  split
  · rw [Told, List.flatMap_singleton]
    rfl
  · exact told_of_quiet rfl (by simp)

/-- The notices of its changes are what a call puts into the queues of the services. -/
theorem told_exec (app : CCoreApp) (call : Call) :
    app.Told (app.changes call) (app.exec call) := by
  cases call with
  | onConnect nSocketID eMode => exact told_of_quiet rfl (by simp [changes])
  | onDisconnect nSocketID =>
      rw [changes, exec, onDisconnect]
      cases app.mapBaseConnectionByID nSocketID with
      | none => exact told_nil app
      | some c =>
          dsimp only
          split
          · have hkept : (app.proxy.setOtherNodeSocketIDByNodeID c.nNodeID 0).2.notices false
                c.nNodeID = app.proxy.notices false c.nNodeID := by
              obtain hno | ⟨info, hinfo, hyes⟩ :=
                app.proxy.setOtherNodeSocketIDByNodeID_cases c.nNodeID 0
              · rw [hno]
              · rw [hyes]
                exact notices_setSocketID hinfo 0 false
            rw [Told, notices_socketChanges_zero, ← hkept]
            rfl
          · exact told_of_quiet rfl (by simp)
  | onDispatch nSocketID m =>
      rw [exec]
      obtain ⟨hchanges, happ | ⟨c, c', -, happ⟩⟩ | ⟨c, nNodeID, szDup, -, hchanges, happ⟩ :=
        app.onDispatch_cases nSocketID m
      · rw [hchanges, happ]
        exact told_nil app
      · rw [hchanges, happ]
        exact told_of_quiet rfl (by simp)
      · rw [hchanges, happ]
        exact told_handshaken nSocketID c nNodeID szDup
  | addNodeProxyInfo base vec bExcludeConnect =>
      exact told_of_quiet rfl (notices_addChanges _ _ _ _)
  | delNodeProxyInfo nNodeID => exact told_delNodeProxyInfo app nNodeID
  | setNodeProxyInfo mapNodeInfo setExcludeConnectNodeID =>
      have hdel := told_loopChanges app told_delNodeProxyInfo
        (app.proxy.missingNodes mapNodeInfo)
      exact hdel.append (told_of_quiet rfl (notices_loopChanges _ _ _))

end CCoreApp

/-! ## The copies of the services -/

namespace CLocalServiceRegistryProxy

variable {l : CLocalServiceRegistryProxy} {p p' : CGlobalServiceRegistryProxy}
  {change : RegistryChange} {changes : List RegistryChange} {bUpdate : Bool}

/-- How a copy without packets on the way stands to the registry of the node: it is the same, or
it lacks a service. -/
def Stays (l : CLocalServiceRegistryProxy) (p : CGlobalServiceRegistryProxy) : Bool → Prop
  | true => l = p.fillLocalServiceRegistryProxy
  | false => (∀ id ∈ l.mapServiceIDByName, id ∈ p.mapServiceIDByName) ∧
      ∃ id ∈ p.mapServiceIDByName, id ∉ l.mapServiceIDByName

theorem Stays.eq_iff (h : l.Stays p bUpdate) :
    l = p.fillLocalServiceRegistryProxy ↔ bUpdate = true := by
  cases bUpdate with
  | true => exact iff_of_true h rfl
  | false =>
      refine iff_of_false ?_ Bool.false_ne_true
      rintro rfl
      obtain ⟨-, id, hid, hnot⟩ := h
      exact hnot hid

theorem Stays.within (h : l.Stays p bUpdate) :
    ∀ id ∈ l.mapServiceIDByName, id ∈ p.mapServiceIDByName := by
  cases bUpdate with
  | true =>
      rw [show l = p.fillLocalServiceRegistryProxy from h]
      exact fun _ hid => hid
  | false => exact h.1

theorem foldl_dispatch_notices (l : CLocalServiceRegistryProxy) (notices : List ServiceNotice) :
    (notices.map RegistryPacket.notice).foldl dispatch l = l := by
  induction notices with
  | nil => rfl
  | cons notice notices ih => exact ih

theorem foldl_dispatch_packets (l : CLocalServiceRegistryProxy) (change : RegistryChange) :
    change.packets.foldl dispatch l =
      if change.bUpdate then change.proxy.fillLocalServiceRegistryProxy else l := by
  rw [RegistryChange.packets, RegistryChange.batches, List.flatten_cons, List.flatten_singleton,
    List.foldl_append, foldl_dispatch_notices]
  split <;> rfl

/-- What the packets of one change make of a copy. -/
theorem Stays.follows (h : l.Stays p bUpdate) (hchange : change.Follows p) :
    (change.packets.foldl dispatch l).Stays change.proxy change.bUpdate := by
  rw [foldl_dispatch_packets]
  cases hupdate : change.bUpdate with
  | true => rfl
  | false =>
      obtain ⟨hgrow, id, hid, hnew⟩ := hchange.hidden hupdate
      exact ⟨fun i hi => hgrow i (h.within i hi), id, hid, fun hl => hnew (h.within id hl)⟩

/-- After changes the copy is the registry of the node if and only if the last of them was told. -/
theorem Stays.leads (h : l.Stays p bUpdate) (hleads : Leads p changes p') :
    ((changes.flatMap RegistryChange.packets).foldl dispatch l).Stays p'
      ((changes.getLast?.map RegistryChange.bUpdate).getD bUpdate) := by
  induction changes generalizing p l bUpdate with
  | nil =>
      rw [show p' = p from hleads]
      exact h
  | cons change changes ih =>
      have hrest := ih (h.follows hleads.1) hleads.2
      rw [List.flatMap_cons, List.foldl_append, List.getLast?_cons]
      cases hlast : changes.getLast? with
      | none =>
          rw [hlast] at hrest
          exact hrest
      | some last =>
          rw [hlast] at hrest
          exact hrest

/-- A notice is dispatched with a copy that shows it. -/
def InFront (l : CLocalServiceRegistryProxy) : RegistryPacket → Prop
  | .update _ => True
  | .notice notice => l.Shows notice

theorem meets_notices {notices : List ServiceNotice} (h : ∀ notice ∈ notices, l.Shows notice) :
    Meets dispatch InFront l (notices.map RegistryPacket.notice) := by
  induction notices with
  | nil => trivial
  | cons notice notices ih =>
      obtain ⟨hhead, htail⟩ := List.forall_mem_cons.mp h
      exact ⟨hhead, ih htail⟩

theorem meets_packets (l : CLocalServiceRegistryProxy) (h : change.Follows p) :
    Meets dispatch InFront l change.packets := by
  rw [RegistryChange.packets, RegistryChange.batches, List.flatten_cons, List.flatten_singleton]
  cases hupdate : change.bUpdate with
  | true => exact ⟨trivial, meets_notices fun notice hnotice => (h.told notice hnotice).2⟩
  | false =>
      have hquiet : change.notices = [] := by
        refine List.eq_nil_iff_forall_not_mem.mpr fun notice hnotice => ?_
        have htold := (h.told notice hnotice).1
        rw [hupdate] at htold
        cases htold
      rw [hquiet]
      trivial

theorem meets_leads (l : CLocalServiceRegistryProxy) (hleads : Leads p changes p') :
    Meets dispatch InFront l (changes.flatMap RegistryChange.packets) := by
  induction changes generalizing p l with
  | nil => trivial
  | cons change changes ih =>
      rw [List.flatMap_cons]
      exact meets_append.mpr ⟨meets_packets l hleads.1, ih _ hleads.2⟩

end CLocalServiceRegistryProxy

/-! ## Runs -/

open PublicationLabel

theorem packets_registryPublisher (config : NodeConfig) (app : CCoreApp)
    (calls : List CCoreApp.Call) :
    (registryPublisher config).packets app calls =
      (app.allChanges calls).flatMap RegistryChange.packets := by
  induction calls generalizing app with
  | nil => rfl
  | cons call calls ih =>
      have hbatches : ((registryPublisher config).batches app call).flatten =
          (app.changes call).flatMap RegistryChange.packets := by
        simp only [registryPublisher, List.flatMap_def, List.flatten_flatten, List.map_map]
        rfl
      rw [Publisher.packets, hbatches]
      have hrest := ih (app.exec call)
      rw [CCoreApp.allChanges, loopChanges, List.flatMap_append]
      exact congrArg _ hrest

/-- In every run each service takes, in their order and each once, the packets of the changes of
the registry of the node.  When none is on the way to it, its copy is the registry of the node if
and only if the last change was told, and a connect or disconnect of a service is dispatched with
a copy that shows it. -/
theorem registry_run {config : NodeConfig}
    {s t : Publication CCoreApp UInt32 RegistryPacket CLocalServiceRegistryProxy}
    {ls : List (PublicationLabel CCoreApp.Call UInt32 RegistryPacket)}
    (hinit : (registrySystem config).init s) (hrun : (registrySystem config).Run s ls t)
    (hnodup : (config.vecServiceBaseInfo.map SServiceBaseInfo.nID).Nodup)
    (hcalls : ∀ call ∈ calls ls, call.Socketed) {nServiceID : UInt32}
    (hservice : nServiceID ∈ config.vecServiceBaseInfo.map SServiceBaseInfo.nID) :
    let changes := (CCoreApp.init config).allChanges (calls ls)
    taken nServiceID ls ++ t.onTheWay nServiceID = changes.flatMap RegistryChange.packets ∧
      (∀ queue ∈ t.writer.vecCoreService, queue = changes.flatMap RegistryChange.notices) ∧
      (t.onTheWay nServiceID = [] →
        (t.copy nServiceID = t.writer.proxy.fillLocalServiceRegistryProxy ↔
          ∀ change ∈ changes.getLast?, change.bUpdate = true)) ∧
      ∀ notice rest, t.queue nServiceID = some (.notice notice) :: rest →
        (t.copy nServiceID).Shows notice := by
  intro changes
  obtain ⟨hwriter, hway, hcopy⟩ := Publication.run_eq hrun hnodup hservice
  rw [show s = _ from hinit] at hwriter hway hcopy
  have hpackets : taken nServiceID ls ++ t.onTheWay nServiceID =
      changes.flatMap RegistryChange.packets :=
    hway.symm.trans (packets_registryPublisher config (CCoreApp.init config) (calls ls))
  have hleads := CCoreApp.leads_allChanges config hcalls
  have htold := CCoreApp.told_loopChanges (CCoreApp.init config) CCoreApp.told_exec (calls ls)
  refine ⟨hpackets, fun queue hqueue => ?_, fun hempty => ?_, fun notice rest hqueue => ?_⟩
  · rw [hwriter] at hqueue
    rw [CCoreApp.Told] at htold
    rw [show List.foldl (registryPublisher config).exec _ _ =
      (calls ls).foldl CCoreApp.exec (CCoreApp.init config) from rfl, htold] at hqueue
    obtain ⟨old, hold, rfl⟩ := List.mem_map.mp hqueue
    obtain ⟨-, -, rfl⟩ := List.mem_map.mp hold
    exact List.nil_append _
  · rw [hempty, List.append_nil] at hpackets
    have hfilled : (CCoreApp.init config).proxy.fillLocalServiceRegistryProxy.Stays
        (CCoreApp.init config).proxy true := rfl
    have hstays := hfilled.leads hleads
    rw [← hpackets] at hstays
    rw [hcopy, hwriter]
    refine Iff.trans hstays.eq_iff ?_
    change (changes.getLast?.map RegistryChange.bUpdate).getD true = true ↔ _
    cases changes.getLast? with
    | none => simp
    | some last => simp
  · have hprefix : taken nServiceID ls ++ [.notice notice] <+:
        changes.flatMap RegistryChange.packets := by
      rw [← hpackets, Publication.onTheWay, hqueue, List.reduceOption_cons_of_some,
        List.cons_append, List.prefix_append_right_inj]
      exact List.prefix_iff_eq_append.mpr rfl
    have hmeets := CLocalServiceRegistryProxy.meets_leads
      (CCoreApp.init config).proxy.fillLocalServiceRegistryProxy hleads
    rw [hcopy]
    exact meets_iff.mp hmeets _ _ hprefix

/-- A node with one service. -/
def oneServiceConfig : NodeConfig where
  nNodeID := 1
  vecServiceBaseInfo := [{ nID := 1, szName := [97], szType := [115] }]

/-- The calls for a node that a master announces and that connects then. -/
def announcedNodeCalls : List CCoreApp.Call :=
  [.addNodeProxyInfo { (default : SNodeBaseInfo) with nID := 2 }
      [{ nID := 5, szName := [98], szType := [116] }] false,
    .onConnect 7 .passive, .onDispatch 7 (.handshakeRequest 2)]

/-- The apps behind the calls. -/
def announcedNodeApp (n : ℕ) : CCoreApp :=
  (announcedNodeCalls.take n).foldl CCoreApp.exec (CCoreApp.init oneServiceConfig)

/-- The service is told of the connect with the socket in its copy. -/
theorem registry_run_announcedNodeCalls :
    ∃ s ls t rest, (registrySystem oneServiceConfig).init s ∧
      (registrySystem oneServiceConfig).Run s ls t ∧ calls ls = announcedNodeCalls ∧
      t.queue 1 = some (.notice ⟨true, [116], 5⟩) :: rest ∧
      (t.copy 1).Shows ⟨true, [116], 5⟩ := by
  have hrun := TransitionSystem.Run.nil (M := registrySystem oneServiceConfig)
    { writer := announcedNodeApp 0, sending := [], queue := fun _ => []
      copy := fun _ => (announcedNodeApp 0).proxy.fillLocalServiceRegistryProxy }
  have h1 := hrun.snoc (.call (announcedNodeCalls[0]) rfl)
  have h2 := h1.snoc (.send rfl)
  have h3 := h2.snoc (.take (k := 1) (show _ = [some (RegistryPacket.update
    (announcedNodeApp 1).proxy.fillLocalServiceRegistryProxy)] from rfl))
  have h4 := h3.snoc (.call (announcedNodeCalls[1]) rfl)
  have h5 := h4.snoc (.call (announcedNodeCalls[2]) rfl)
  have h6 := h5.snoc (.send rfl)
  have h7 := h6.snoc (.send rfl)
  have h8 := h7.snoc (.take (k := 1) (show _ = [some (RegistryPacket.update
    (announcedNodeApp 3).proxy.fillLocalServiceRegistryProxy),
      some (.notice ⟨true, [116], 5⟩)] from rfl))
  have hcalls : ∀ call ∈ announcedNodeCalls, call.Socketed := by
    simp [announcedNodeCalls, CCoreApp.Call.Socketed]
  have hshows := registry_run rfl h8 (by decide) hcalls (List.mem_singleton_self 1)
  exact ⟨_, _, _, _, rfl, h8, rfl, rfl, hshows.2.2.2 _ _ rfl⟩

end RealtimeEx.Core
