import RealtimeEx.Core.NodePair

/-!
# Connects and disconnects of two nodes

In every run of two nodes the notices about each remote service alternate and begin with
a connect, and the socket that is stored for a node is the one of its last connect that
its own disconnect has not followed.
-/

namespace RealtimeEx.Core

open Base

namespace CCoreApp

variable {app : CCoreApp}

/-! ## A node keeps its id and tells nobody else's -/

@[simp] theorem nNodeID_onNodeEvent (bConnect : Bool) (nNodeID : UInt32)
    (nSocketID : UInt64) :
    (app.onNodeEvent bConnect nNodeID nSocketID).nNodeID = app.nNodeID := rfl

@[simp] theorem nNodeID_onDisconnect (nSocketID : UInt64) :
    (app.onDisconnect nSocketID).nNodeID = app.nNodeID := by
  rw [onDisconnect]
  cases app.mapBaseConnectionByID nSocketID with
  | none => rfl
  | some c =>
      simp only
      split
      · rfl
      · rfl

@[simp] theorem nNodeID_handshake (nSocketID : UInt64) (c : CBaseConnectionOtherNode)
    (nNodeID : UInt32) (szDup : String) :
    (app.handshake nSocketID c nNodeID szDup).2.nNodeID = app.nNodeID := by
  simp only [handshake]
  split
  · rfl
  · rfl

@[simp] theorem nNodeID_onDispatch (nSocketID : UInt64) (m : NodeMessage) :
    (app.onDispatch nSocketID m).1.nNodeID = app.nNodeID := by
  rw [onDispatch]
  cases app.mapBaseConnectionByID nSocketID with
  | none => rfl
  | some c =>
      cases m with
      | handshakeRequest n =>
          simp only [onHandshakeRequest]
          split
          · rfl
          · split
            · rfl
            · split
              · exact nNodeID_handshake nSocketID c n _
              · exact nNodeID_handshake nSocketID c n _
      | handshakeResponse n =>
          simp only [onHandshakeResponse]
          split
          · exact nNodeID_handshake nSocketID c n _
          · exact nNodeID_handshake nSocketID c n _
      | invalid n => rfl

@[simp] theorem nNodeID_delNodeProxyInfo (nNodeID : UInt32) :
    (app.delNodeProxyInfo nNodeID).nNodeID = app.nNodeID := by
  rw [delNodeProxyInfo]
  split
  · split
    · rfl
    · rfl
  · rfl

@[simp] theorem nNodeID_setNodeProxyInfo (mapNodeInfo : StdMap UInt32 SNodeInfo)
    (setExcludeConnectNodeID : StdSet UInt32) :
    (app.setNodeProxyInfo mapNodeInfo setExcludeConnectNodeID).nNodeID = app.nNodeID :=
  foldl_invariant (I := fun a : CCoreApp => a.nNodeID = app.nNodeID)
    (fun _ nNodeID h => (nNodeID_delNodeProxyInfo nNodeID).trans h) rfl _

theorem isFrom_onConnect {nSocketID : UInt64} {eMode : ENetConnecterMode} {m : NodeMessage}
    (hm : m ∈ (app.onConnect nSocketID eMode).2) : m.IsFrom app.nNodeID := by
  rw [onConnect] at hm
  split at hm
  · obtain rfl := List.mem_singleton.mp hm
    exact rfl
  · simp at hm

/-- What a connection answers. -/
theorem isFrom_onDispatch {nSocketID : UInt64} {m m' : NodeMessage}
    (hm : m' ∈ (app.onDispatch nSocketID m).2) : m'.IsFrom app.nNodeID := by
  rw [onDispatch] at hm
  split at hm
  · simp at hm
  · cases m with
    | handshakeRequest n =>
        simp only [onHandshakeRequest] at hm
        split at hm
        · simp at hm
        · split at hm
          · simp at hm
          · split at hm
            · obtain rfl := List.mem_singleton.mp hm
              exact rfl
            · simp at hm
    | handshakeResponse n => simp at hm
    | invalid n => simp at hm

/-! ## The start -/

theorem noted_init (config : NodeConfig) (peer : UInt32) :
    (CCoreApp.init config).Noted peer := by
  have hsocket : ∀ n : UInt32,
      (CCoreApp.init config).proxy.mapNodeProxyInfo[n]? = none := by
    intro n
    rw [CCoreApp.init, CGlobalServiceRegistryProxy.mapNodeProxyInfo_init]
    simp
  have hids : ∀ n, (CCoreApp.init config).proxy.serviceIDsOf n = [] := by
    intro n
    rw [CGlobalServiceRegistryProxy.serviceIDsOf,
      CGlobalServiceRegistryProxy.getServiceBaseInfoByNodeID, hsocket]
    rfl
  refine { held := ?_, distinct := ?_, zero := rfl, known := ?_, own := ?_,
           opened := ?_, notices := ?_ }
  · exact CGlobalServiceRegistryProxy.held_of_empty
      (CGlobalServiceRegistryProxy.mapNodeProxyInfo_init _ _)
  · intro n
    rw [hids]
    exact List.nodup_nil
  · intro s c hc
    cases hc
  · intro s c hc
    cases hc
  · intro n
    rw [CGlobalServiceRegistryProxy.socketID, hsocket]
    rfl
  · intro queue hqueue id
    obtain ⟨s, -, rfl⟩ := List.mem_map.mp hqueue
    refine ⟨alternates_nil, iff_of_false not_isUp_nil ?_⟩
    rintro ⟨n, -, hid⟩
    rw [hids] at hid
    simp at hid

end CCoreApp

/-! ## Runs -/

namespace NodePair

variable {config : Side → NodeConfig} {S : NodePair}

/-- The lists of services that masters announce are those of honest nodes: a node does
not start with two services of one id. -/
def Event.Distinct : Event → Prop
  | .addNodeProxyInfo _ _ vecServiceBaseInfo _ =>
      (vecServiceBaseInfo.map SServiceBaseInfo.nID).Nodup
  | .setNodeProxyInfo _ mapNodeInfo _ =>
      ∀ e ∈ mapNodeInfo.toList, (e.2.vecServiceBaseInfo.map SServiceBaseInfo.nID).Nodup
  | _ => True

/-- Both nodes keep their ids, every message carries the id of its sender, and the tables
of both nodes are in step with what their services were told. -/
structure Honest (config : Side → NodeConfig) (S : NodePair) : Prop where
  id : ∀ X, (S.app X).nNodeID = (config X).nNodeID
  noted : ∀ X, (S.app X).Noted (config X.other).nNodeID
  socket : ∀ k ∈ S.links, ∀ e, k.nSocketID e ≠ 0
  queue : ∀ k ∈ S.links, ∀ e, ∀ m ∈ k.queue e, m.IsFrom (config (k.side e).other).nNodeID

/-- A call at one node. -/
theorem Honest.setApp (h : Honest config S) {X : Side} {app : CCoreApp}
    (hid : app.nNodeID = (S.app X).nNodeID)
    (hnoted : app.Noted (config X.other).nNodeID) : Honest config (S.setApp X app) := by
  refine { id := fun Y => ?_, noted := fun Y => ?_, socket := h.socket, queue := h.queue }
  · by_cases hY : Y = X
    · subst hY
      rw [app_setApp_self, hid]
      exact h.id Y
    · rw [app_setApp_of_ne S hY]
      exact h.id Y
  · by_cases hY : Y = X
    · subst hY
      rw [app_setApp_self]
      exact hnoted
    · rw [app_setApp_of_ne S hY]
      exact h.noted Y

theorem Honest.setLink (h : Honest config S) (l : ℕ) {k : OtherNodeLink}
    (hsocket : ∀ e, k.nSocketID e ≠ 0)
    (hqueue : ∀ e, ∀ m ∈ k.queue e, m.IsFrom (config (k.side e).other).nNodeID) :
    Honest config (S.setLink l k) := by
  refine { id := h.id, noted := h.noted, socket := fun k' hk' => ?_,
           queue := fun k' hk' => ?_ }
  · rcases List.mem_or_eq_of_mem_set hk' with hk' | rfl
    · exact h.socket k' hk'
    · exact hsocket
  · rcases List.mem_or_eq_of_mem_set hk' with hk' | rfl
    · exact h.queue k' hk'
    · exact hqueue

/-- Messages from the node of an end for the other end. -/
theorem isFrom_send {k : OtherNodeLink} {e : LinkEnd} {messages : List NodeMessage}
    (hk : ∀ e, ∀ m ∈ k.queue e, m.IsFrom (config (k.side e).other).nNodeID)
    (hmessages : ∀ m ∈ messages, m.IsFrom (config (k.side e)).nNodeID) :
    ∀ e', ∀ m ∈ (k.send e.other messages).queue e',
      m.IsFrom (config (k.side e').other).nNodeID := by
  intro e' m hm
  by_cases he : e' = e.other
  · subst he
    rw [OtherNodeLink.queue_send_self] at hm
    split at hm
    · exact hk _ m hm
    · rcases List.mem_append.mp hm with hm | hm
      · exact hk _ m hm
      · rw [OtherNodeLink.side_other, Side.other_other]
        exact hmessages m hm
  · rw [OtherNodeLink.queue_send_of_ne he] at hm
    exact hk e' m hm

theorem mem_queue_setPhase {k : OtherNodeLink} {e e' : LinkEnd} {phase : EndPhase}
    {m : NodeMessage} (hm : m ∈ (k.setPhase e phase).queue e') : m ∈ k.queue e' := by
  simp only [OtherNodeLink.setPhase] at hm
  split at hm
  · by_cases he : e' = e
    · subst he
      rw [Function.update_self] at hm
      simp at hm
    · rw [Function.update_of_ne he] at hm
      exact hm
  · exact hm

theorem Honest.notifyConnect (h : Honest config S) {l : ℕ} {k : OtherNodeLink}
    (hk : k ∈ S.links) (e : LinkEnd) : Honest config (S.notifyConnect l k e) := by
  refine Honest.setLink (h.setApp ?_ ?_) l ?_ ?_
  · rfl
  · exact (h.noted _).onConnect (h.socket k hk e) e.mode
  · rw [OtherNodeLink.nSocketID_send]
    exact h.socket k hk
  · simp only [OtherNodeLink.side_send]
    apply isFrom_send (k := k.setPhase e .connected)
    · intro e' m hm
      exact h.queue k hk e' m (mem_queue_setPhase hm)
    · intro m hm
      have hfrom := CCoreApp.isFrom_onConnect hm
      rw [h.id] at hfrom
      exact hfrom

theorem Honest.recvData (h : Honest config S) {l : ℕ} {k : OtherNodeLink}
    (hk : k ∈ S.links) {e : LinkEnd} {m : NodeMessage} {ms : List NodeMessage}
    (hqueue : k.queue e = m :: ms) : Honest config (S.recvData l k e m ms) := by
  have hfrom : ∀ m' ∈ m :: ms, m'.IsFrom (config (k.side e).other).nNodeID := by
    intro m' hm'
    rw [← hqueue] at hm'
    exact h.queue k hk e m' hm'
  refine Honest.setLink (h.setApp ?_ ?_) l ?_ ?_
  · exact CCoreApp.nNodeID_onDispatch _ m
  · exact (h.noted _).onDispatch (k.nSocketID e) (hfrom m List.mem_cons_self)
  · rw [OtherNodeLink.nSocketID_send]
    exact h.socket k hk
  · simp only [OtherNodeLink.side_send]
    apply isFrom_send (k := k.setQueue e ms)
    · intro e' m' hm'
      by_cases he : e' = e
      · subst he
        rw [OtherNodeLink.queue_setQueue_self] at hm'
        exact hfrom m' (List.mem_cons_of_mem m hm')
      · rw [OtherNodeLink.queue_setQueue_of_ne he] at hm'
        exact h.queue k hk e' m' hm'
    · intro m' hm'
      have hanswer := CCoreApp.isFrom_onDispatch hm'
      rw [h.id] at hanswer
      exact hanswer

theorem Honest.notifyDisconnect (h : Honest config S) {l : ℕ} {k : OtherNodeLink}
    (hk : k ∈ S.links) (e : LinkEnd) : Honest config (S.notifyDisconnect l k e) := by
  refine Honest.setLink (h.setApp ?_ ?_) l ?_ ?_
  · exact CCoreApp.nNodeID_onDisconnect _
  · exact (h.noted _).onDisconnect (k.nSocketID e)
  · exact h.socket k hk
  · intro e' m hm
    exact h.queue k hk e' m (mem_queue_setPhase hm)

theorem Honest.onEstablished (h : Honest config S) (X : Side) (nSocketID : LinkEnd → UInt64) :
    Honest config (S.onEstablished X nSocketID) := by
  rw [NodePair.onEstablished]
  split
  · rename_i hnew
    refine { id := h.id, noted := h.noted, socket := fun k hk => ?_, queue := fun k hk => ?_ }
    · rcases List.mem_append.mp hk with hk | hk
      · exact h.socket k hk
      · obtain rfl := List.mem_singleton.mp hk
        intro e
        cases e with
        | initiative => exact hnew.2.1.1
        | passive => exact hnew.2.2.1
    · rcases List.mem_append.mp hk with hk | hk
      · exact h.queue k hk
      · obtain rfl := List.mem_singleton.mp hk
        intro e m hm
        simp at hm
  · exact h

/-- One step. -/
theorem Honest.step (h : Honest config S) {e : Event} (he : e.Distinct) :
    Honest config (S.step e) := by
  have hatLink : ∀ (l : ℕ) (f : OtherNodeLink → NodePair),
      (∀ k ∈ S.links, Honest config (f k)) → Honest config (S.atLink l f) := by
    intro l f hf
    rw [atLink]
    split
    · exact h
    · rename_i k hk
      exact hf k (List.mem_of_getElem? hk)
  cases e with
  | onTicker X =>
      simp only [NodePair.step, NodePair.onTicker]
      split
      · exact { id := h.id, noted := h.noted, socket := h.socket, queue := h.queue }
      · exact h
  | onConnectFail X =>
      exact { id := h.id, noted := h.noted, socket := h.socket, queue := h.queue }
  | onEstablished X nSocketID => exact h.onEstablished X nSocketID
  | notifyConnect l e =>
      apply hatLink
      intro k hk
      split
      · exact h.notifyConnect hk e
      · exact h
  | recvData l e =>
      apply hatLink
      intro k hk
      split
      · exact h
      · rename_i m ms hqueue
        split
        · exact h.recvData hk hqueue
        · exact h
  | notifyDisconnect l e =>
      apply hatLink
      intro k hk
      split
      · exact h.notifyDisconnect hk e
      · exact h
  | fail l =>
      apply hatLink
      intro k hk
      exact h.setLink l (h.socket k hk) (h.queue k hk)
  | addNodeProxyInfo X base vec bExcludeConnect =>
      exact h.setApp rfl ((h.noted X).addNodeProxyInfo base bExcludeConnect he)
  | setNodeProxyInfo X mapNodeInfo setExcludeConnectNodeID =>
      exact h.setApp (CCoreApp.nNodeID_setNodeProxyInfo _ _)
        ((h.noted X).setNodeProxyInfo setExcludeConnectNodeID he)
  | delNodeProxyInfo X nNodeID =>
      exact h.setApp (CCoreApp.nNodeID_delNodeProxyInfo _) ((h.noted X).delNodeProxyInfo nNodeID)

theorem honest_start (config : Side → NodeConfig) : Honest config (start config) where
  id _ := rfl
  noted X := CCoreApp.noted_init (config X) _
  socket k hk := by simp [start] at hk
  queue k hk := by simp [start] at hk

theorem honest_run {events : List Event} (hevents : ∀ e ∈ events, e.Distinct) :
    Honest config (run config events) := by
  induction events using List.reverseRecOn with
  | nil => exact honest_start config
  | append_singleton events e ih =>
      rw [run, List.foldl_append]
      have hbefore := ih fun e' he' => hevents e' (List.mem_append_left _ he')
      exact hbefore.step (hevents e (List.mem_append_right _ List.mem_cons_self))

/-- In every run of two nodes whose announced services have ids of their own: each service
of a node is told of every remote service in turn of its connects and disconnects, with a
connect first, and the socket stored for a node is the one of its last connect that the
disconnect of this socket has not followed. -/
theorem notices_alternate (config : Side → NodeConfig) (events : List Event)
    (hevents : ∀ e ∈ events, e.Distinct) (X : Side) :
    (∀ queue ∈ ((run config events).app X).vecCoreService, ∀ id,
      Alternates (CCoreApp.noticeLog queue id)) ∧
    ∀ n, ((run config events).app X).proxy.socketID n =
      (lastOpen (((run config events).app X).nodeLog n)).getD 0 := by
  have hhonest : Honest config (run config events) := honest_run hevents
  have hnoted := hhonest.noted X
  constructor
  · intro queue hqueue id
    exact (hnoted.notices queue hqueue id).1
  · exact hnoted.socketID_eq

/-- Two nodes with one service each. -/
def pairConfig : Side → NodeConfig
  | .left =>
      { nNodeID := 1
        setConnectServiceName := (∅ : StdSet StdString).insert [98]
        vecServiceBaseInfo := [{ nID := 11, szType := [116], szName := [97] }] }
  | .right =>
      { nNodeID := 2
        vecServiceBaseInfo := [{ nID := 22, szType := [116], szName := [98] }] }

/-- Both nodes learn of each other, the left one connects, and the link fails. -/
def connectFailEvents : List Event :=
  [.addNodeProxyInfo .left
     { (default : SNodeBaseInfo) with nID := 2, szHost := [104], nPort := 1 } [{ nID := 22, szType := [116], szName := [98] }] false,
   .addNodeProxyInfo .right { (default : SNodeBaseInfo) with nID := 1 }
     [{ nID := 11, szType := [116], szName := [97] }] true,
   .onTicker .left, .onEstablished .left fun _ => 7,
   .notifyConnect 0 .passive, .notifyConnect 0 .initiative,
   .recvData 0 .passive, .recvData 0 .initiative,
   .fail 0, .notifyDisconnect 0 .passive]

/-- The left node still has the link, the right one has seen its end. -/
theorem notices_alternate_connectFail :
    let S := run pairConfig connectFailEvents
    (∀ queue ∈ (S.app .right).vecCoreService, ∀ id, Alternates (CCoreApp.noticeLog queue id)) ∧
      (∀ n, (S.app .left).proxy.socketID n = (lastOpen ((S.app .left).nodeLog n)).getD 0) ∧
      (S.app .left).nodeLog 2 = [(true, 7)] ∧
      (S.app .right).vecCoreService.map (CCoreApp.noticeLog · 11) = [[true, false]] := by
  have hdistinct : ∀ e ∈ connectFailEvents, e.Distinct := by
    simp [connectFailEvents, Event.Distinct]
  exact ⟨(notices_alternate pairConfig connectFailEvents hdistinct .right).1,
    (notices_alternate pairConfig connectFailEvents hdistinct .left).2, by decide, by decide⟩

end NodePair

end RealtimeEx.Core
