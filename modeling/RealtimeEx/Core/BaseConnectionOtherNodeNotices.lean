import RealtimeEx.Core.BaseConnectionOtherNodeTable
import RealtimeEx.Support.History

/-!
# What the services are told about another node

Every call of a connection keeps the log of the connects and disconnects in step with
the node table: a socket is stored for a node exactly while its connect has not been
followed by its own disconnect, and a service is up exactly while the notices about it
end with a connect.
-/

namespace RealtimeEx.Core

open Base

/-- The message is one that an honest node of that id sends. -/
def NodeMessage.IsFrom (nNodeID : UInt32) : NodeMessage → Prop
  | .handshakeRequest n => n = nNodeID
  | .handshakeResponse n => n = nNodeID
  | .invalid _ => True

namespace CCoreApp

/-! ## The log of a node and the notices about a service -/

/-- The connects and disconnects of a node with their sockets. -/
def nodeLog (app : CCoreApp) (nNodeID : UInt32) : List (Bool × UInt64) :=
  (app.nodeEvents.filter fun e => e.nNodeID = nNodeID).map fun e =>
    (e.bConnect, e.nSocketID)

/-- What a queue says about one service. -/
def noticeLog (queue : List ServiceNotice) (id : UInt32) : List Bool :=
  (queue.filter fun notice => notice.nID = id).map ServiceNotice.bConnect

variable {app : CCoreApp} {peer : UInt32}

@[simp] theorem proxy_setBaseConnection (nSocketID : UInt64)
    (c : Option CBaseConnectionOtherNode) :
    (app.setBaseConnection nSocketID c).proxy = app.proxy := rfl

@[simp] theorem nNodeID_setBaseConnection (nSocketID : UInt64)
    (c : Option CBaseConnectionOtherNode) :
    (app.setBaseConnection nSocketID c).nNodeID = app.nNodeID := rfl

theorem mapBaseConnectionByID_setBaseConnection (nSocketID n : UInt64)
    (c : Option CBaseConnectionOtherNode) :
    (app.setBaseConnection nSocketID c).mapBaseConnectionByID n =
      if n = nSocketID then c else app.mapBaseConnectionByID n := by
  rw [setBaseConnection]
  exact Function.update_apply _ _ _ _

theorem nodeLog_onNodeEvent (bConnect : Bool) (nNodeID n : UInt32) (nSocketID : UInt64) :
    (app.onNodeEvent bConnect nNodeID nSocketID).nodeLog n =
      if nNodeID = n then app.nodeLog n ++ [(bConnect, nSocketID)] else app.nodeLog n := by
  rw [nodeLog, onNodeEvent, List.filter_append, List.map_append]
  by_cases hn : nNodeID = n
  · rw [if_pos hn, List.filter_cons_of_pos (by simpa using hn)]
    rfl
  · rw [if_neg hn, List.filter_cons_of_neg (by simpa using hn), List.filter_nil,
      List.map_nil, List.append_nil]
    rfl

theorem noticeLog_append (queue queue' : List ServiceNotice) (id : UInt32) :
    noticeLog (queue ++ queue') id = noticeLog queue id ++ noticeLog queue' id := by
  rw [noticeLog, List.filter_append, List.map_append]
  rfl

/-- Services with distinct ids are each told of once. -/
theorem noticeLog_services {vec : List SServiceBaseInfo}
    (hvec : (vec.map SServiceBaseInfo.nID).Nodup) (bConnect : Bool) (id : UInt32) :
    noticeLog (vec.map fun s => ⟨bConnect, s.szType, s.nID⟩) id =
      if id ∈ vec.map SServiceBaseInfo.nID then [bConnect] else [] := by
  induction vec with
  | nil => rfl
  | cons s vec ih =>
      rw [List.map_cons, List.nodup_cons] at hvec
      obtain ⟨hnot, hvec⟩ := hvec
      rw [List.map_cons, ← List.singleton_append, noticeLog_append, ih hvec, List.map_cons]
      by_cases hid : s.nID = id
      · subst hid
        rw [if_neg hnot, if_pos List.mem_cons_self, List.append_nil, noticeLog,
          List.filter_cons_of_pos (by simp)]
        rfl
      · have hmem : id ∈ s.nID :: vec.map SServiceBaseInfo.nID ↔
            id ∈ vec.map SServiceBaseInfo.nID := by
          rw [List.mem_cons, or_iff_right (Ne.symm hid)]
        rw [noticeLog, List.filter_cons_of_neg (by simpa using hid), List.filter_nil,
          List.map_nil, List.nil_append]
        simp only [hmem]

/-! ## The invariant -/

/-- The table, the log of a node and the notices agree; every connection belongs to no
node yet or to the one node at the other end. -/
structure Noted (peer : UInt32) (app : CCoreApp) : Prop where
  held : app.proxy.Held
  distinct : app.proxy.DistinctServices
  zero : app.mapBaseConnectionByID 0 = none
  known : ∀ {s c}, app.mapBaseConnectionByID s = some c → c.nNodeID = 0 ∨ c.nNodeID = peer
  own : ∀ {s c}, app.mapBaseConnectionByID s = some c → c.nNodeID ≠ 0 →
    app.proxy.socketID c.nNodeID = s
  opened : ∀ n, openItems (app.nodeLog n) =
    if app.proxy.socketID n = 0 then [] else [app.proxy.socketID n]
  notices : ∀ queue ∈ app.vecCoreService, ∀ id,
    Alternates (noticeLog queue id) ∧ (IsUp (noticeLog queue id) ↔ app.proxy.Up id)

/-- The stored socket is that of the last connect that no disconnect of it follows. -/
theorem Noted.socketID_eq (h : app.Noted peer) (n : UInt32) :
    app.proxy.socketID n = (lastOpen (app.nodeLog n)).getD 0 := by
  rw [lastOpen, h.opened]
  split
  · rename_i hzero
    exact hzero
  · rfl

/-- A connection that has no node, the other end's node with its stored socket, or
nothing. -/
theorem Noted.setBaseConnection (h : app.Noted peer) {nSocketID : UInt64}
    {c : Option CBaseConnectionOtherNode} (hzero : nSocketID = 0 → c = none)
    (hc : ∀ c' ∈ c, c'.nNodeID = 0 ∨
      c'.nNodeID = peer ∧ app.proxy.socketID peer = nSocketID) :
    (app.setBaseConnection nSocketID c).Noted peer := by
  refine { held := h.held, distinct := h.distinct, zero := ?_, known := ?_, own := ?_,
           opened := h.opened, notices := h.notices }
  · rw [mapBaseConnectionByID_setBaseConnection]
    split
    · rename_i hs
      exact hzero hs.symm
    · exact h.zero
  · intro s c' hc'
    rw [mapBaseConnectionByID_setBaseConnection] at hc'
    split at hc'
    · exact (hc c' hc').imp_right And.left
    · exact h.known hc'
  · intro s c' hc' hne
    rw [mapBaseConnectionByID_setBaseConnection] at hc'
    split at hc'
    · rename_i hs
      obtain ⟨hpeer, hsocket⟩ := (hc c' hc').resolve_left hne
      rw [proxy_setBaseConnection, hpeer, hsocket, hs]
    · exact h.own hc' hne

/-- A change of the table that concerns no stored socket. -/
theorem Noted.sameSockets (h : app.Noted peer) {p : CGlobalServiceRegistryProxy}
    (hheld : p.Held) (hdistinct : p.DistinctServices)
    (hsame : CGlobalServiceRegistryProxy.SameSockets app.proxy p) :
    ({ app with proxy := p } : CCoreApp).Noted peer := by
  refine { held := hheld, distinct := hdistinct, zero := h.zero, known := h.known,
           own := ?_, opened := ?_, notices := ?_ }
  · intro s c hc hne
    rw [← h.own hc hne]
    exact hsame.socket c.nNodeID
  · intro n
    show openItems (app.nodeLog n) = if p.socketID n = 0 then [] else [p.socketID n]
    rw [hsame.socket]
    exact h.opened n
  · intro queue hqueue id
    show _ ∧ (_ ↔ p.Up id)
    rw [hsame.up_iff]
    exact h.notices queue hqueue id

/-- From `q` to `q'` the socket of a node that had none is stored, or its stored socket is
reset; in the second case the node may also be forgotten. -/
structure Stores (bConnect : Bool) (nNodeID : UInt32) (nSocketID : UInt64)
    (q q' : CGlobalServiceRegistryProxy) : Prop where
  ne_zero : nSocketID ≠ 0
  before : q.socketID nNodeID = if bConnect then 0 else nSocketID
  socket : ∀ n, q'.socketID n =
    if nNodeID = n then (if bConnect then nSocketID else 0) else q.socketID n
  services : ∀ n, nNodeID ≠ n → q'.serviceIDsOf n = q.serviceIDsOf n
  servicesConnect : bConnect = true → q'.serviceIDsOf nNodeID = q.serviceIDsOf nNodeID

section Stores

variable {q q' : CGlobalServiceRegistryProxy} {bConnect : Bool} {nNodeID : UInt32}
  {nSocketID : UInt64}

theorem Stores.socket_eq_zero_iff (h : Stores bConnect nNodeID nSocketID q q') :
    q.socketID nNodeID = 0 ↔ bConnect = true := by
  rw [h.before]
  cases bConnect with
  | false => simpa using h.ne_zero
  | true => simp

theorem Stores.socket_ne_zero_iff (h : Stores bConnect nNodeID nSocketID q q') :
    q'.socketID nNodeID ≠ 0 ↔ bConnect = true := by
  rw [h.socket, if_pos rfl]
  cases bConnect with
  | false => simp
  | true => simpa using h.ne_zero

theorem Stores.socket_of_ne (h : Stores bConnect nNodeID nSocketID q q') {n : UInt32}
    (hn : nNodeID ≠ n) : q'.socketID n = q.socketID n := by
  rw [h.socket, if_neg hn]

/-- The services of the node come up with a connect and go down with a disconnect. -/
theorem Stores.up_of_mem (h : Stores bConnect nNodeID nSocketID q q') (hheld : q.Held)
    {id : UInt32} (hid : id ∈ q.serviceIDsOf nNodeID) :
    (q.Up id ↔ bConnect = false) ∧ (q'.Up id ↔ bConnect = true) := by
  constructor
  · rw [← Bool.not_eq_true, ← h.socket_eq_zero_iff]
    constructor
    · rintro ⟨n, hn, hid'⟩
      rw [hheld.eq_of_mem_serviceIDsOf hid hid']
      exact hn
    · intro hn
      exact ⟨nNodeID, hn, hid⟩
  · constructor
    · rintro ⟨n, hn, hid'⟩
      by_cases hne : nNodeID = n
      · subst hne
        exact h.socket_ne_zero_iff.mp hn
      · rw [h.services n hne] at hid'
        exact absurd (hheld.eq_of_mem_serviceIDsOf hid hid') hne
    · intro hconnect
      refine ⟨nNodeID, h.socket_ne_zero_iff.mpr hconnect, ?_⟩
      rw [h.servicesConnect hconnect]
      exact hid

/-- The services of the other nodes stay as they are. -/
theorem Stores.up_of_notMem (h : Stores bConnect nNodeID nSocketID q q') {id : UInt32}
    (hid : id ∉ q.serviceIDsOf nNodeID) : q'.Up id ↔ q.Up id := by
  constructor
  · rintro ⟨n, hn, hid'⟩
    have hne : nNodeID ≠ n := by
      rintro rfl
      rw [h.servicesConnect (h.socket_ne_zero_iff.mp hn)] at hid'
      exact hid hid'
    rw [h.socket_of_ne hne] at hn
    rw [h.services n hne] at hid'
    exact ⟨n, hn, hid'⟩
  · rintro ⟨n, hn, hid'⟩
    have hne : nNodeID ≠ n := by
      rintro rfl
      exact hid hid'
    refine ⟨n, ?_, ?_⟩
    · rw [h.socket_of_ne hne]
      exact hn
    · rw [h.services n hne]
      exact hid'

/-- The notices stay in step when the services of the node are told. -/
theorem Stores.notices (h : Stores bConnect nNodeID nSocketID q q') (hheld : q.Held)
    (hdistinct : q.DistinctServices)
    (hservices : app.proxy.serviceIDsOf nNodeID = q.serviceIDsOf nNodeID)
    (hnotices : ∀ queue ∈ app.vecCoreService, ∀ id,
      Alternates (noticeLog queue id) ∧ (IsUp (noticeLog queue id) ↔ q.Up id)) :
    ∀ queue ∈ (app.onNodeEvent bConnect nNodeID nSocketID).vecCoreService, ∀ id,
      Alternates (noticeLog queue id) ∧ (IsUp (noticeLog queue id) ↔ q'.Up id) := by
  intro queue hqueue id
  obtain ⟨queue, hmem, rfl⟩ := List.mem_map.mp hqueue
  obtain ⟨halternates, hup⟩ := hnotices queue hmem id
  have hnodup : (app.proxy.serviceIDsOf nNodeID).Nodup := by
    rw [hservices]
    exact hdistinct nNodeID
  rw [noticeLog_append, noticeLog_services hnodup]
  show Alternates (_ ++ if id ∈ app.proxy.serviceIDsOf nNodeID then _ else _) ∧
    (IsUp (_ ++ if id ∈ app.proxy.serviceIDsOf nNodeID then _ else _) ↔ _)
  rw [hservices]
  by_cases hid : id ∈ q.serviceIDsOf nNodeID
  · obtain ⟨hbefore, hafter⟩ := h.up_of_mem hheld hid
    have hopen : bConnect = true ↔ ¬ IsUp (noticeLog queue id) := by
      rw [hup, hbefore, Bool.not_eq_false]
    rw [if_pos hid]
    refine ⟨halternates.append hopen, ?_⟩
    rw [isUp_append, hafter, hopen]
  · rw [if_neg hid, List.append_nil]
    exact ⟨halternates, hup.trans (h.up_of_notMem hid).symm⟩

/-- The log stays in step with the stored sockets. -/
theorem Stores.opened (h : Stores bConnect nNodeID nSocketID q q')
    (hopened : ∀ n, openItems (app.nodeLog n) =
      if q.socketID n = 0 then [] else [q.socketID n]) (n : UInt32) :
    openItems ((app.onNodeEvent bConnect nNodeID nSocketID).nodeLog n) =
      if q'.socketID n = 0 then [] else [q'.socketID n] := by
  rw [nodeLog_onNodeEvent]
  by_cases hn : nNodeID = n
  · subst hn
    have hbefore := h.before
    have hafter := h.socket nNodeID
    rw [if_pos rfl] at hafter ⊢
    cases bConnect with
    | true =>
        rw [if_pos rfl] at hbefore hafter
        rw [openItems_append_open, hopened, hbefore, hafter, if_pos rfl, if_neg h.ne_zero]
        rfl
    | false =>
        rw [if_neg Bool.false_ne_true] at hbefore hafter
        rw [openItems_append_close, hopened, hbefore, hafter, if_neg h.ne_zero, if_pos rfl]
        simp
  · rw [if_neg hn, h.socket_of_ne hn]
    exact hopened n

end Stores

/-! ## The calls of a connection -/

theorem Noted.ne_zero (h : app.Noted peer) {s : UInt64} {c : CBaseConnectionOtherNode}
    (hc : app.mapBaseConnectionByID s = some c) : s ≠ 0 := by
  rintro rfl
  rw [h.zero] at hc
  cases hc

/-- A call that stores or resets one socket and tells the services; of the connections
only that of the socket changes. -/
theorem Noted.stores (h : app.Noted peer) (app₁ : CCoreApp)
    {q' : CGlobalServiceRegistryProxy} {bConnect : Bool} {nNodeID : UInt32}
    {nSocketID : UInt64} (hstores : Stores bConnect nNodeID nSocketID app.proxy q')
    (hheld : q'.Held) (hdistinct : q'.DistinctServices)
    (hqueues : app₁.vecCoreService = app.vecCoreService)
    (hevents : app₁.nodeEvents = app.nodeEvents)
    (hservices : app₁.proxy.serviceIDsOf nNodeID = app.proxy.serviceIDsOf nNodeID)
    (hother : ∀ s, s ≠ nSocketID →
      app₁.mapBaseConnectionByID s = app.mapBaseConnectionByID s)
    (hself : ∀ c, app₁.mapBaseConnectionByID nSocketID = some c → c.nNodeID = 0 ∨
      bConnect = true ∧ nNodeID = peer ∧ c.nNodeID = peer) :
    ({ app₁.onNodeEvent bConnect nNodeID nSocketID with proxy := q' } : CCoreApp).Noted
      peer := by
  refine { held := hheld, distinct := hdistinct, zero := ?_, known := ?_, own := ?_,
           opened := ?_, notices := ?_ }
  · exact (hother 0 hstores.ne_zero.symm).trans h.zero
  · intro s c hc
    by_cases hs : s = nSocketID
    · subst hs
      exact (hself c hc).imp_right fun hconnect => hconnect.2.2
    · exact h.known ((hother s hs).symm.trans hc)
  · intro s c hc hne
    by_cases hs : s = nSocketID
    · subst hs
      obtain ⟨hconnect, hnode, hpeer⟩ := (hself c hc).resolve_left hne
      show q'.socketID c.nNodeID = s
      rw [hpeer, ← hnode, hstores.socket, if_pos rfl, if_pos hconnect]
    · -- The socket that was stored for its node is its own.
      have hc' := (hother s hs).symm.trans hc
      have hstored := h.own hc' hne
      show q'.socketID c.nNodeID = s
      rw [hstores.socket_of_ne]
      · exact hstored
      · intro hnode
        rw [← hnode, hstores.before] at hstored
        split at hstored
        · exact h.ne_zero hc' hstored.symm
        · exact hs hstored.symm
  · have hopened : ∀ n, openItems (app₁.nodeLog n) =
        if app.proxy.socketID n = 0 then [] else [app.proxy.socketID n] := by
      intro n
      rw [nodeLog, hevents]
      exact h.opened n
    exact hstores.opened hopened
  · apply hstores.notices h.held h.distinct hservices
    rw [hqueues]
    exact h.notices

theorem Noted.onConnect (h : app.Noted peer) {nSocketID : UInt64} (hs : nSocketID ≠ 0)
    (eMode : ENetConnecterMode) : (app.onConnect nSocketID eMode).1.Noted peer := by
  refine h.setBaseConnection (fun hzero => absurd hzero hs) ?_
  rintro c' hc'
  obtain rfl := Option.mem_some_iff.mp hc'
  exact .inl rfl

theorem Noted.onDisconnect (h : app.Noted peer) (nSocketID : UInt64) :
    (app.onDisconnect nSocketID).Noted peer := by
  rw [CCoreApp.onDisconnect]
  cases hc : app.mapBaseConnectionByID nSocketID with
  | none => exact h
  | some c =>
      simp only
      split
      · rename_i hne
        have hstores : Stores false c.nNodeID nSocketID app.proxy
            (app.proxy.setOtherNodeSocketIDByNodeID c.nNodeID 0).2 :=
          { ne_zero := h.ne_zero hc
            before := h.own hc hne
            socket := fun n =>
              CGlobalServiceRegistryProxy.socketID_setOtherNodeSocketIDByNodeID_zero
            services := fun n _ =>
              CGlobalServiceRegistryProxy.serviceIDsOf_setOtherNodeSocketIDByNodeID
            servicesConnect := fun _ =>
              CGlobalServiceRegistryProxy.serviceIDsOf_setOtherNodeSocketIDByNodeID }
        refine h.stores { app.setBaseConnection nSocketID none with
            proxy := (app.proxy.setOtherNodeSocketIDByNodeID c.nNodeID 0).2 }
          hstores h.held.setOtherNodeSocketIDByNodeID
          h.distinct.setOtherNodeSocketIDByNodeID rfl rfl
          CGlobalServiceRegistryProxy.serviceIDsOf_setOtherNodeSocketIDByNodeID ?_ ?_
        · intro s hs
          exact (mapBaseConnectionByID_setBaseConnection _ _ _).trans (if_neg hs)
        · intro c' hc'
          rw [mapBaseConnectionByID_setBaseConnection] at hc'
          simp at hc'
      · apply h.setBaseConnection (fun _ => rfl)
        intro c' hc'
        cases hc'

/-! ## Handshakes -/

@[simp] theorem nNodeID_shutdown (c : CBaseConnectionOtherNode) (bForce : Bool)
    (szMsg : String) : (c.shutdown bForce szMsg).nNodeID = c.nNodeID := by
  rw [CBaseConnectionOtherNode.shutdown]
  split
  · rfl
  · rfl

section Handshake

variable {nSocketID : UInt64} {c : CBaseConnectionOtherNode} {nNodeID : UInt32}
  {szDup : String}

/-- An accepted handshake message. -/
theorem handshake_snd_of_true (h : (app.handshake nSocketID c nNodeID szDup).1 = true) :
    (app.proxy.setOtherNodeSocketIDByNodeID nNodeID nSocketID).1 = true ∧
      (app.handshake nSocketID c nNodeID szDup).2 =
        { app with
          proxy := (app.proxy.setOtherNodeSocketIDByNodeID nNodeID
            nSocketID).2 }.setBaseConnection nSocketID (some { c with nNodeID }) := by
  rw [handshake] at h ⊢
  cases hset : (app.proxy.setOtherNodeSocketIDByNodeID nNodeID nSocketID).1 with
  | true => exact ⟨rfl, rfl⟩
  | false => simp [hset] at h

/-- A refused handshake message. -/
theorem handshake_snd_of_false (h : (app.handshake nSocketID c nNodeID szDup).1 = false) :
    (app.proxy.setOtherNodeSocketIDByNodeID nNodeID nSocketID).1 = false ∧
      (app.handshake nSocketID c nNodeID szDup).2 =
        app.setBaseConnection nSocketID (some (c.shutdown true szDup)) := by
  rw [handshake] at h ⊢
  cases hset : (app.proxy.setOtherNodeSocketIDByNodeID nNodeID nSocketID).1 with
  | true => simp [hset] at h
  | false =>
      refine ⟨rfl, ?_⟩
      simp [CGlobalServiceRegistryProxy.setOtherNodeSocketIDByNodeID_snd_of_false hset]

theorem stores_of_handshake (hs : nSocketID ≠ 0)
    (hset : (app.proxy.setOtherNodeSocketIDByNodeID nNodeID nSocketID).1 = true) :
    Stores true nNodeID nSocketID app.proxy
      (app.proxy.setOtherNodeSocketIDByNodeID nNodeID nSocketID).2 where
  ne_zero := hs
  before := (CGlobalServiceRegistryProxy.setOtherNodeSocketIDByNodeID_fst.mp
    hset).2.resolve_left hs
  socket _ := CGlobalServiceRegistryProxy.socketID_setOtherNodeSocketIDByNodeID hset
  services _ _ := CGlobalServiceRegistryProxy.serviceIDsOf_setOtherNodeSocketIDByNodeID
  servicesConnect _ :=
    CGlobalServiceRegistryProxy.serviceIDsOf_setOtherNodeSocketIDByNodeID

/-- The end of a handshake message: connected, or shut down. -/
theorem Noted.handshake (h : app.Noted peer)
    (hc : app.mapBaseConnectionByID nSocketID = some c) (szDup : String) :
    (if (app.handshake nSocketID c peer szDup).1 = true then
      (app.handshake nSocketID c peer szDup).2.onNodeConnect peer nSocketID
    else
      (app.handshake nSocketID c peer szDup).2).Noted peer := by
  split
  · rename_i htrue
    obtain ⟨hset, heq⟩ := handshake_snd_of_true htrue
    rw [heq, CCoreApp.onNodeConnect]
    refine h.stores ({ app with
        proxy := (app.proxy.setOtherNodeSocketIDByNodeID peer
          nSocketID).2 }.setBaseConnection nSocketID (some { c with nNodeID := peer }))
      (stores_of_handshake (h.ne_zero hc) hset)
      h.held.setOtherNodeSocketIDByNodeID h.distinct.setOtherNodeSocketIDByNodeID rfl rfl
      CGlobalServiceRegistryProxy.serviceIDsOf_setOtherNodeSocketIDByNodeID ?_ ?_
    · intro s hs
      exact (mapBaseConnectionByID_setBaseConnection _ _ _).trans (if_neg hs)
    · intro c' hc'
      rw [mapBaseConnectionByID_setBaseConnection, if_pos rfl] at hc'
      obtain rfl := Option.some.inj hc'
      exact .inr ⟨rfl, rfl, rfl⟩
  · rename_i hfalse
    obtain ⟨-, heq⟩ := handshake_snd_of_false (Bool.not_eq_true _ ▸ hfalse)
    rw [heq]
    refine h.setBaseConnection (fun hzero => absurd hzero (h.ne_zero hc)) ?_
    intro c' hc'
    obtain rfl := Option.mem_some_iff.mp hc'
    rw [nNodeID_shutdown]
    rcases h.known hc with hzero | hpeer
    · exact .inl hzero
    · by_cases hzero : c.nNodeID = 0
      · exact .inl hzero
      · refine .inr ⟨hpeer, ?_⟩
        rw [← hpeer]
        exact h.own hc hzero

end Handshake

theorem Noted.onDispatch (h : app.Noted peer) (nSocketID : UInt64) {m : NodeMessage}
    (hm : m.IsFrom peer) : (app.onDispatch nSocketID m).1.Noted peer := by
  rw [CCoreApp.onDispatch]
  cases hc : app.mapBaseConnectionByID nSocketID with
  | none => exact h
  | some c =>
      cases m with
      | handshakeRequest n =>
          obtain rfl : n = peer := hm
          simp only [CCoreApp.onHandshakeRequest]
          split
          · exact h
          · rename_i hnode
            split
            · refine h.setBaseConnection (fun hzero => absurd hzero (h.ne_zero hc)) ?_
              intro c' hc'
              obtain rfl := Option.mem_some_iff.mp hc'
              rw [nNodeID_shutdown]
              exact .inl (Classical.not_not.mp hnode)
            · have hnoted := h.handshake hc "dup node connection passive mode"
              split
              · rename_i htrue
                rw [if_pos htrue] at hnoted
                exact hnoted
              · rename_i hfalse
                rw [if_neg hfalse] at hnoted
                exact hnoted
      | handshakeResponse n =>
          obtain rfl : n = peer := hm
          exact h.handshake hc "dup node connection initiative mode"
      | invalid n => exact h

/-! ## Changes of the node table -/

theorem Noted.addNodeProxyInfo (h : app.Noted peer) (base : SNodeBaseInfo)
    {vec : List SServiceBaseInfo} (bExcludeConnect : Bool)
    (hvec : (vec.map SServiceBaseInfo.nID).Nodup) :
    (app.addNodeProxyInfo base vec bExcludeConnect).Noted peer :=
  h.sameSockets (h.held.addNodeProxyInfo base vec bExcludeConnect)
    (h.distinct.addNodeProxyInfo base bExcludeConnect hvec)
    (CGlobalServiceRegistryProxy.sameSockets_addNodeProxyInfo base vec bExcludeConnect)

theorem stores_delNodeProxyInfo {p : CGlobalServiceRegistryProxy} {nNodeID : UInt32}
    (hsocket : p.socketID nNodeID ≠ 0) :
    Stores false nNodeID (p.socketID nNodeID) p (p.delNodeProxyInfo nNodeID) where
  ne_zero := hsocket
  before := rfl
  socket _ := CGlobalServiceRegistryProxy.socketID_delNodeProxyInfo
  services n hn := by
    rw [CGlobalServiceRegistryProxy.serviceIDsOf_delNodeProxyInfo, if_neg hn]
  servicesConnect hconnect := by cases hconnect

/-- A node without a stored socket that is deleted. -/
theorem sameSockets_delNodeProxyInfo {p : CGlobalServiceRegistryProxy} {nNodeID : UInt32}
    (hsocket : p.socketID nNodeID = 0) :
    CGlobalServiceRegistryProxy.SameSockets p (p.delNodeProxyInfo nNodeID) := by
  constructor
  · intro n
    rw [CGlobalServiceRegistryProxy.socketID_delNodeProxyInfo]
    split
    · rename_i hn
      rw [← hn, hsocket]
    · rfl
  · intro n hn
    rw [CGlobalServiceRegistryProxy.serviceIDsOf_delNodeProxyInfo, if_neg]
    rintro rfl
    exact hn hsocket

theorem Noted.delNodeProxyInfo (h : app.Noted peer) (nNodeID : UInt32) :
    (app.delNodeProxyInfo nNodeID).Noted peer := by
  rw [CCoreApp.delNodeProxyInfo]
  split
  · rename_i hsocket
    split
    · exact h
    · rename_i c hc
      refine h.stores (app.setBaseConnection (app.proxy.socketID nNodeID)
          (some ({ c with nNodeID := 0 }.shutdown true "del node")))
        (stores_delNodeProxyInfo hsocket) h.held.delNodeProxyInfo
        h.distinct.delNodeProxyInfo rfl rfl rfl ?_ ?_
      · intro s hs
        exact (mapBaseConnectionByID_setBaseConnection _ _ _).trans (if_neg hs)
      · intro c' hc'
        rw [mapBaseConnectionByID_setBaseConnection, if_pos rfl] at hc'
        obtain rfl := Option.some.inj hc'
        exact .inl (nNodeID_shutdown _ _ _)
  · rename_i hsocket
    exact h.sameSockets h.held.delNodeProxyInfo h.distinct.delNodeProxyInfo
      (sameSockets_delNodeProxyInfo (Classical.not_not.mp hsocket))

theorem Noted.foldl_delNodeProxyInfo (h : app.Noted peer) (ids : List UInt32) :
    (ids.foldl CCoreApp.delNodeProxyInfo app).Noted peer :=
  foldl_invariant (fun _ nNodeID h => h.delNodeProxyInfo nNodeID) h ids

theorem Noted.addUnknown (h : app.Noted peer) (setExcludeConnectNodeID : StdSet UInt32)
    {e : UInt32 × SNodeInfo} (he : (e.2.vecServiceBaseInfo.map SServiceBaseInfo.nID).Nodup) :
    ({ app with
      proxy := app.proxy.addUnknown setExcludeConnectNodeID e } : CCoreApp).Noted peer := by
  rw [CGlobalServiceRegistryProxy.addUnknown]
  split
  · exact h
  · exact h.addNodeProxyInfo e.2.sNodeBaseInfo _ he

theorem Noted.setNodeProxyInfo (h : app.Noted peer) {mapNodeInfo : StdMap UInt32 SNodeInfo}
    (setExcludeConnectNodeID : StdSet UInt32)
    (hmap : ∀ e ∈ mapNodeInfo.toList,
      (e.2.vecServiceBaseInfo.map SServiceBaseInfo.nID).Nodup) :
    (app.setNodeProxyInfo mapNodeInfo setExcludeConnectNodeID).Noted peer := by
  rw [CCoreApp.setNodeProxyInfo]
  have hdel := h.foldl_delNodeProxyInfo (app.proxy.missingNodes mapNodeInfo)
  generalize (app.proxy.missingNodes mapNodeInfo).foldl CCoreApp.delNodeProxyInfo app =
    app₁ at hdel
  generalize mapNodeInfo.toList = es at hmap
  induction es generalizing app₁ with
  | nil => exact hdel
  | cons e es ih =>
      have hadd := hdel.addUnknown setExcludeConnectNodeID (hmap e List.mem_cons_self)
      exact ih _ hadd fun e' he' => hmap e' (List.mem_cons_of_mem e he')

end CCoreApp

end RealtimeEx.Core
