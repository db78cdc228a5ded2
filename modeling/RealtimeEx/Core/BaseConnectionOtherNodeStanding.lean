import RealtimeEx.Core.BaseConnectionOtherNodeNotices
import RealtimeEx.Core.LinkArbitration

/-!
# The standing of a connection

What a node thinks of each of its connections to the other node, and what every call
changes there.  A connection has the standing of the link that the node keeps exactly
while its socket is the stored one.
-/

namespace RealtimeEx.Core

open Base

namespace CCoreApp

/-- The standing of the connection with a socket. -/
def standing (app : CCoreApp) (nSocketID : UInt64) : Standing :=
  match app.mapBaseConnectionByID nSocketID with
  | none => .gone
  | some c => if c.nNodeID ≠ 0 then .kept else if c.bClosing then .closing else .fresh

/-- The stored sockets are those of the connections that belong to the other node, and a
connection that is shut down belongs to no node. -/
structure Stored (peer : UInt32) (app : CCoreApp) : Prop where
  zero : app.mapBaseConnectionByID 0 = none
  known : ∀ {s : UInt64} {c : CBaseConnectionOtherNode},
    app.mapBaseConnectionByID s = some c → c.nNodeID ≠ 0 →
      c.nNodeID = peer ∧ app.proxy.socketID peer = s
  stored : ∀ {n : UInt32}, app.proxy.socketID n ≠ 0 →
    n = peer ∧ ∃ c, app.mapBaseConnectionByID (app.proxy.socketID n) = some c ∧
      c.nNodeID = peer
  closing : ∀ {s : UInt64} {c : CBaseConnectionOtherNode},
    app.mapBaseConnectionByID s = some c → c.bClosing = true → c.nNodeID = 0

variable {app app' : CCoreApp} {peer nNodeID : UInt32} {nSocketID s : UInt64}
  {c : CBaseConnectionOtherNode}

theorem Stored.ne_zero (h : app.Stored peer) (hc : app.mapBaseConnectionByID s = some c) :
    s ≠ 0 := by
  rintro rfl
  rw [h.zero] at hc
  cases hc

theorem standing_of_some (hc : app.mapBaseConnectionByID nSocketID = some c) :
    app.standing nSocketID =
      if c.nNodeID ≠ 0 then .kept else if c.bClosing then .closing else .fresh := by
  rw [standing, hc]

theorem standing_eq_gone_iff :
    app.standing nSocketID = .gone ↔ app.mapBaseConnectionByID nSocketID = none := by
  cases hc : app.mapBaseConnectionByID nSocketID with
  | none => simp [standing, hc]
  | some c =>
      rw [standing_of_some hc]
      split
      · simp
      · split
        · simp
        · simp

theorem standing_eq_fresh_iff : app.standing nSocketID = .fresh ↔
    ∃ c, app.mapBaseConnectionByID nSocketID = some c ∧ c.nNodeID = 0 ∧
      c.bClosing = false := by
  cases hc : app.mapBaseConnectionByID nSocketID with
  | none => simp [standing, hc]
  | some c =>
      rw [standing_of_some hc]
      by_cases hnode : c.nNodeID = 0
      · cases hclosing : c.bClosing with
        | false => simp [hnode, hclosing]
        | true => simp [hnode, hclosing]
      · simp [hnode]

theorem standing_eq_closing_iff (h : app.Stored peer) :
    app.standing nSocketID = .closing ↔
      (app.mapBaseConnectionByID nSocketID).any CBaseConnectionOtherNode.bClosing = true := by
  cases hc : app.mapBaseConnectionByID nSocketID with
  | none => simp [standing, hc]
  | some c =>
      rw [standing_of_some hc, Option.any_some]
      cases hclosing : c.bClosing with
      | true => simp [h.closing hc hclosing]
      | false =>
          rw [if_neg Bool.false_ne_true]
          split
          · simp
          · simp

/-- The node keeps the link whose socket is stored. -/
theorem standing_eq_kept_iff (h : app.Stored peer) (hpeer : peer ≠ 0) :
    app.standing nSocketID = .kept ↔
      nSocketID ≠ 0 ∧ app.proxy.socketID peer = nSocketID := by
  constructor
  · intro hkept
    cases hc : app.mapBaseConnectionByID nSocketID with
    | none =>
        rw [standing_eq_gone_iff.mpr hc] at hkept
        cases hkept
    | some c =>
        rw [standing_of_some hc] at hkept
        split at hkept
        · rename_i hnode
          exact ⟨h.ne_zero hc, (h.known hc hnode).2⟩
        · split at hkept
          · cases hkept
          · cases hkept
  · rintro ⟨hs, hsocket⟩
    subst hsocket
    obtain ⟨-, c, hc, hnode⟩ := h.stored hs
    rw [standing_of_some hc, hnode, if_pos hpeer]

/-- A call that leaves the other connections alone. -/
theorem standing_of_ne {c' : Option CBaseConnectionOtherNode} (hs : s ≠ nSocketID)
    (hmap : app'.mapBaseConnectionByID =
      (app.setBaseConnection nSocketID c').mapBaseConnectionByID) :
    app'.standing s = app.standing s := by
  rw [standing, standing, hmap, mapBaseConnectionByID_setBaseConnection, if_neg hs]

theorem standing_self {c' : Option CBaseConnectionOtherNode}
    (hmap : app'.mapBaseConnectionByID =
      (app.setBaseConnection nSocketID c').mapBaseConnectionByID) :
    app'.standing nSocketID = (app.setBaseConnection nSocketID c').standing nSocketID := by
  rw [standing, standing, hmap]

/-- A connection that belongs to no node changes into one that belongs to no node. -/
theorem Stored.setBaseConnection (h : app.Stored peer) (hpeer : peer ≠ 0)
    {c' : Option CBaseConnectionOtherNode} (hs : nSocketID ≠ 0)
    (hold : ∀ c, app.mapBaseConnectionByID nSocketID = some c → c.nNodeID = 0)
    (hnew : ∀ d, c' = some d → d.nNodeID = 0) :
    (app.setBaseConnection nSocketID c').Stored peer := by
  refine { zero := ?_, known := ?_, stored := ?_, closing := ?_ }
  · rw [mapBaseConnectionByID_setBaseConnection, if_neg (Ne.symm hs)]
    exact h.zero
  · intro s d hd hnode
    rw [mapBaseConnectionByID_setBaseConnection] at hd
    split at hd
    · exact absurd (hnew d hd) hnode
    · exact h.known hd hnode
  · intro n hn
    obtain ⟨hpeer', c, hc, hcnode⟩ := h.stored hn
    refine ⟨hpeer', c, ?_, hcnode⟩
    rw [mapBaseConnectionByID_setBaseConnection, proxy_setBaseConnection, if_neg]
    · exact hc
    · intro heq
      rw [heq] at hc
      exact hpeer (hcnode.symm.trans (hold c hc))
  · intro s d hd hclosing
    rw [mapBaseConnectionByID_setBaseConnection] at hd
    split at hd
    · exact hnew d hd
    · exact h.closing hd hclosing

/-! ## The calls of a connection -/

theorem Stored.onConnect (h : app.Stored peer) (hpeer : peer ≠ 0) (hs : nSocketID ≠ 0)
    (hnone : app.mapBaseConnectionByID nSocketID = none) (eMode : ENetConnecterMode) :
    (app.onConnect nSocketID eMode).1.Stored peer := by
  refine h.setBaseConnection hpeer hs ?_ ?_
  · intro c hc
    rw [hnone] at hc
    cases hc
  · intro d hd
    obtain rfl := Option.some.inj hd
    rfl

theorem standing_onConnect (eMode : ENetConnecterMode) :
    (app.onConnect nSocketID eMode).1.standing s =
      if s = nSocketID then .fresh else app.standing s := by
  split
  · rename_i hs
    subst hs
    rw [standing_eq_fresh_iff]
    refine ⟨{ eMode }, ?_, rfl, rfl⟩
    rw [onConnect, mapBaseConnectionByID_setBaseConnection, if_pos rfl]
  · rename_i hs
    exact standing_of_ne hs rfl

theorem mapBaseConnectionByID_onDisconnect :
    (app.onDisconnect nSocketID).mapBaseConnectionByID =
      (app.setBaseConnection nSocketID none).mapBaseConnectionByID := by
  rw [onDisconnect]
  cases hc : app.mapBaseConnectionByID nSocketID with
  | none =>
      exact (Function.update_eq_self_iff.mpr hc.symm).symm
  | some c =>
      simp only
      split
      · rfl
      · rfl

theorem standing_onDisconnect : (app.onDisconnect nSocketID).standing s =
    if s = nSocketID then .gone else app.standing s := by
  split
  · rename_i hs
    subst hs
    rw [standing_eq_gone_iff, mapBaseConnectionByID_onDisconnect,
      mapBaseConnectionByID_setBaseConnection, if_pos rfl]
  · rename_i hs
    exact standing_of_ne hs mapBaseConnectionByID_onDisconnect

theorem Stored.onDisconnect (h : app.Stored peer) (hpeer : peer ≠ 0) :
    (app.onDisconnect nSocketID).Stored peer := by
  rw [CCoreApp.onDisconnect]
  cases hc : app.mapBaseConnectionByID nSocketID with
  | none => exact h
  | some c =>
      simp only
      split
      · rename_i hnode
        obtain ⟨hcpeer, hown⟩ := h.known hc hnode
        have hrest : ∀ {s d}, (app.setBaseConnection nSocketID none).mapBaseConnectionByID s =
            some d → s ≠ nSocketID ∧ app.mapBaseConnectionByID s = some d := by
          intro s d hd
          rw [mapBaseConnectionByID_setBaseConnection] at hd
          split at hd
          · cases hd
          · rename_i hs
            exact ⟨hs, hd⟩
        refine { zero := ?_, known := ?_, stored := ?_, closing := ?_ }
        · exact (mapBaseConnectionByID_setBaseConnection nSocketID 0 none).trans
            ((if_neg (h.ne_zero hc).symm).trans h.zero)
        · intro s d hd hnode'
          obtain ⟨hs, hd⟩ := hrest hd
          exact absurd ((h.known hd hnode').2.symm.trans hown) hs
        · -- No socket is left.
          intro n hn
          refine absurd ?_ hn
          show (app.proxy.setOtherNodeSocketIDByNodeID c.nNodeID 0).2.socketID n = 0
          rw [CGlobalServiceRegistryProxy.socketID_setOtherNodeSocketIDByNodeID_zero]
          split
          · rfl
          · rename_i hne
            by_cases hzero : app.proxy.socketID n = 0
            · exact hzero
            · exact absurd (hcpeer.trans (h.stored hzero).1.symm) hne
        · intro s d hd
          exact h.closing (hrest hd).2
      · rename_i hnode
        refine h.setBaseConnection hpeer (h.ne_zero hc) ?_ ?_
        · intro c' hc'
          obtain rfl := Option.some.inj (hc.symm.trans hc')
          exact Classical.not_not.mp hnode
        · intro d hd
          cases hd

/-! ## Handshakes -/

/-- A node knows another one. -/
def KnowsNode (app : CCoreApp) (nNodeID : UInt32) : Prop :=
  (app.proxy.getServiceBaseInfoByNodeID nNodeID).isSome = true

/-- A handshake message is accepted: no socket was stored, now the connection's is. -/
structure Accepted (peer : UInt32) (nSocketID : UInt64) (app app' : CCoreApp) : Prop where
  knows : app.KnowsNode peer
  free : app.proxy.socketID peer = 0
  stored : app'.Stored peer
  standing : ∀ s, app'.standing s = if s = nSocketID then .kept else app.standing s

/-- A handshake message is refused, because the node is unknown or a socket is stored. -/
structure Refused (peer : UInt32) (nSocketID : UInt64) (app app' : CCoreApp) : Prop where
  taken : app.KnowsNode peer → app.proxy.socketID peer ≠ 0
  stored : app'.Stored peer
  standing : ∀ s, app'.standing s = if s = nSocketID then .closing else app.standing s

@[simp] theorem bClosing_shutdown (c : CBaseConnectionOtherNode) (bForce : Bool)
    (szMsg : String) : (c.shutdown bForce szMsg).bClosing = true := by
  rw [CBaseConnectionOtherNode.shutdown]
  split
  · rename_i hclosing
    exact hclosing
  · rfl

/-- A connection without a node is shut down. -/
theorem refused_shutdown (h : app.Stored peer) (hpeer : peer ≠ 0)
    (hc : app.mapBaseConnectionByID nSocketID = some c) (hnode : c.nNodeID = 0)
    (htaken : app.KnowsNode peer → app.proxy.socketID peer ≠ 0) (szMsg : String) :
    Refused peer nSocketID app
      (app.setBaseConnection nSocketID (some (c.shutdown true szMsg))) := by
  refine { taken := htaken, stored := ?_, standing := fun s => ?_ }
  · refine h.setBaseConnection hpeer (h.ne_zero hc) ?_ ?_
    · intro c' hc'
      obtain rfl := Option.some.inj (hc.symm.trans hc')
      exact hnode
    · intro d hd
      obtain rfl := Option.some.inj hd
      rw [nNodeID_shutdown, hnode]
  · split
    · rename_i hs
      subst hs
      rw [standing, mapBaseConnectionByID_setBaseConnection, if_pos rfl]
      simp [hnode]
    · rename_i hs
      exact standing_of_ne hs rfl

theorem accepted_of_handshake (h : app.Stored peer) (hpeer : peer ≠ 0)
    (hc : app.mapBaseConnectionByID nSocketID = some c)
    (hclosing : c.bClosing = false) {szDup : String}
    (htrue : (app.handshake nSocketID c peer szDup).1 = true) :
    Accepted peer nSocketID app
      ((app.handshake nSocketID c peer szDup).2.onNodeConnect peer nSocketID) := by
  obtain ⟨hset, heq⟩ := handshake_snd_of_true htrue
  obtain ⟨hknown, hfree⟩ := CGlobalServiceRegistryProxy.setOtherNodeSocketIDByNodeID_fst.mp hset
  have hfree := hfree.resolve_left (h.ne_zero hc)
  have hsocket : ∀ n, (app.proxy.setOtherNodeSocketIDByNodeID peer nSocketID).2.socketID n =
      if peer = n then nSocketID else app.proxy.socketID n := fun n =>
    CGlobalServiceRegistryProxy.socketID_setOtherNodeSocketIDByNodeID hset
  rw [heq]
  refine { knows := hknown, free := hfree, stored := ?_, standing := fun s => ?_ }
  · refine { zero := ?_, known := ?_, stored := ?_, closing := ?_ }
    · exact (mapBaseConnectionByID_setBaseConnection nSocketID 0 _).trans
        ((if_neg (h.ne_zero hc).symm).trans h.zero)
    · intro s d hd hnode
      have hd' : (app.setBaseConnection nSocketID
          (some { c with nNodeID := peer })).mapBaseConnectionByID s = some d := hd
      rw [mapBaseConnectionByID_setBaseConnection] at hd'
      split at hd'
      · rename_i hs
        obtain rfl := Option.some.inj hd'
        exact ⟨rfl, (hsocket peer).trans ((if_pos rfl).trans hs.symm)⟩
      · exact absurd ((h.known hd' hnode).2.symm.trans hfree) (h.ne_zero hd')
    · intro n hn
      -- The stored socket is the new one.
      have hn' : (app.proxy.setOtherNodeSocketIDByNodeID peer nSocketID).2.socketID n ≠ 0 := hn
      rw [hsocket] at hn'
      by_cases hnpeer : peer = n
      · subst hnpeer
        refine ⟨rfl, { c with nNodeID := peer }, ?_, rfl⟩
        show (app.setBaseConnection nSocketID _).mapBaseConnectionByID
          ((app.proxy.setOtherNodeSocketIDByNodeID peer nSocketID).2.socketID peer) = _
        rw [hsocket, if_pos rfl, mapBaseConnectionByID_setBaseConnection, if_pos rfl]
      · rw [if_neg hnpeer] at hn'
        exact absurd (h.stored hn').1.symm hnpeer
    · intro s d hd hdclosing
      have hd' : (app.setBaseConnection nSocketID
          (some { c with nNodeID := peer })).mapBaseConnectionByID s = some d := hd
      rw [mapBaseConnectionByID_setBaseConnection] at hd'
      split at hd'
      · obtain rfl := Option.some.inj hd'
        rw [show c.bClosing = true from hdclosing] at hclosing
        cases hclosing
      · exact h.closing hd' hdclosing
  · have hmap : ((({ app with
        proxy := (app.proxy.setOtherNodeSocketIDByNodeID peer nSocketID).2 } :
          CCoreApp).setBaseConnection nSocketID
            (some { c with nNodeID := peer })).onNodeConnect peer
              nSocketID).mapBaseConnectionByID =
        (app.setBaseConnection nSocketID
          (some { c with nNodeID := peer })).mapBaseConnectionByID := rfl
    split
    · rename_i hs
      subst hs
      rw [standing_self hmap, standing, mapBaseConnectionByID_setBaseConnection, if_pos rfl]
      exact if_pos hpeer
    · rename_i hs
      exact standing_of_ne hs hmap

theorem refused_of_handshake (h : app.Stored peer) (hpeer : peer ≠ 0)
    (hc : app.mapBaseConnectionByID nSocketID = some c) (hnode : c.nNodeID = 0)
    {szDup : String} (hfalse : (app.handshake nSocketID c peer szDup).1 = false) :
    Refused peer nSocketID app (app.handshake nSocketID c peer szDup).2 := by
  obtain ⟨hset, heq⟩ := handshake_snd_of_false hfalse
  rw [heq]
  apply refused_shutdown h hpeer hc hnode
  intro hknown hfree
  rw [← Bool.not_eq_true, CGlobalServiceRegistryProxy.setOtherNodeSocketIDByNodeID_fst] at hset
  exact hset ⟨hknown, .inr hfree⟩

/-- The message under way to an end of a link. -/
def handshakeMessage (nNodeID : UInt32) : LinkEnd → NodeMessage
  | .initiative => .handshakeResponse nNodeID
  | .passive => .handshakeRequest nNodeID

/-- What the node of an end answers. -/
def handshakeAnswer (nNodeID : UInt32) : LinkEnd → List NodeMessage
  | .initiative => []
  | .passive => [.handshakeResponse nNodeID]

/-- A handshake message at a connection that waits for it. -/
theorem onDispatch_fresh (h : app.Stored peer) (hpeer : peer ≠ 0)
    (hfresh : app.standing nSocketID = .fresh) (e : LinkEnd) :
    (Accepted peer nSocketID app (app.onDispatch nSocketID (handshakeMessage peer e)).1 ∧
      (app.onDispatch nSocketID (handshakeMessage peer e)).2 =
        handshakeAnswer app.nNodeID e) ∨
    (Refused peer nSocketID app (app.onDispatch nSocketID (handshakeMessage peer e)).1 ∧
      (app.onDispatch nSocketID (handshakeMessage peer e)).2 = []) := by
  obtain ⟨c, hc, hnode, hclosing⟩ := standing_eq_fresh_iff.mp hfresh
  cases e with
  | initiative =>
      simp only [onDispatch, hc, handshakeMessage, handshakeAnswer, onHandshakeResponse]
      split
      · rename_i htrue
        exact .inl ⟨accepted_of_handshake h hpeer hc hclosing htrue, trivial⟩
      · rename_i hfalse
        refine .inr ⟨refused_of_handshake h hpeer hc hnode ?_, trivial⟩
        exact Bool.not_eq_true _ ▸ hfalse
  | passive =>
      simp only [onDispatch, hc, handshakeMessage, handshakeAnswer, onHandshakeRequest]
      rw [if_neg (Classical.not_not.mpr hnode)]
      split
      · rename_i hunknown
        refine .inr ⟨refused_shutdown h hpeer hc hnode (fun hknown => ?_) _, rfl⟩
        rw [KnowsNode, ← Option.not_isNone, hunknown] at hknown
        cases hknown
      · split
        · rename_i htrue
          exact .inl ⟨accepted_of_handshake h hpeer hc hclosing htrue, rfl⟩
        · rename_i hfalse
          refine .inr ⟨refused_of_handshake h hpeer hc hnode ?_, rfl⟩
          exact Bool.not_eq_true _ ▸ hfalse

/-! ## Changes of the node table -/

/-- No connection changes. -/
def SameStanding (app app' : CCoreApp) : Prop :=
  ∀ s, app'.standing s = app.standing s

/-- The link that the node keeps is shut down. -/
def DropsKept (app app' : CCoreApp) : Prop :=
  ∀ s, app'.standing s = if app.standing s = .kept then .closing else app.standing s

theorem DropsKept.trans {app'' : CCoreApp} (h : DropsKept app app')
    (h' : SameStanding app' app'' ∨ DropsKept app' app'') : DropsKept app app'' := by
  intro s
  rcases h' with h' | h'
  · rw [h', h]
  · rw [h', h, if_neg]
    split
    · exact Standing.noConfusion
    · rename_i hs
      exact hs

theorem Stored.sameSockets (h : app.Stored peer) {p : CGlobalServiceRegistryProxy}
    (hsocket : ∀ n, p.socketID n = app.proxy.socketID n) :
    ({ app with proxy := p } : CCoreApp).Stored peer := by
  refine { zero := h.zero, known := ?_, stored := ?_, closing := h.closing }
  · intro s c hc hnode
    obtain ⟨hpeer, hown⟩ := h.known hc hnode
    exact ⟨hpeer, (hsocket peer).trans hown⟩
  · intro n hn
    have hn' : app.proxy.socketID n ≠ 0 := by
      rw [← hsocket]
      exact hn
    show n = peer ∧ ∃ c, app.mapBaseConnectionByID (p.socketID n) = some c ∧ _
    rw [hsocket]
    exact h.stored hn'

theorem Stored.delNodeProxyInfo (h : app.Stored peer) (hpeer : peer ≠ 0) (nNodeID : UInt32) :
    (app.delNodeProxyInfo nNodeID).Stored peer ∧
      (SameStanding app (app.delNodeProxyInfo nNodeID) ∨
        nNodeID = peer ∧ DropsKept app (app.delNodeProxyInfo nNodeID)) := by
  rw [CCoreApp.delNodeProxyInfo]
  split
  · rename_i hsocket
    obtain ⟨rfl, c, hc, hnode⟩ := h.stored hsocket
    rw [hc]
    have hmap : ({ app.dropNode nNodeID (app.proxy.socketID nNodeID) c with
        proxy := app.proxy.delNodeProxyInfo nNodeID } : CCoreApp).mapBaseConnectionByID =
        (app.setBaseConnection (app.proxy.socketID nNodeID)
          (some ({ c with nNodeID := 0 }.shutdown true "del node"))).mapBaseConnectionByID :=
      rfl
    refine ⟨{ zero := ?_, known := fun {s d} hd hdnode => ?_,
              stored := fun {n} hn => absurd ?_ hn, closing := fun {s d} hd hdclosing => ?_ },
      .inr ⟨rfl, fun s => ?_⟩⟩
    · rw [hmap, mapBaseConnectionByID_setBaseConnection, if_neg hsocket.symm]
      exact h.zero
    · rw [hmap, mapBaseConnectionByID_setBaseConnection] at hd
      split at hd
      · obtain rfl := Option.some.inj hd
        exact absurd (nNodeID_shutdown _ _ _) hdnode
      · rename_i hs
        exact absurd (h.known hd hdnode).2.symm hs
    · -- No socket is left.
      show (app.proxy.delNodeProxyInfo nNodeID).socketID n = 0
      rw [CGlobalServiceRegistryProxy.socketID_delNodeProxyInfo]
      split
      · rfl
      · rename_i hne
        by_cases hzero : app.proxy.socketID n = 0
        · exact hzero
        · exact absurd (h.stored hzero).1.symm hne
    · rw [hmap, mapBaseConnectionByID_setBaseConnection] at hd
      split at hd
      · obtain rfl := Option.some.inj hd
        exact nNodeID_shutdown _ _ _
      · exact h.closing hd hdclosing
    · by_cases hs : s = app.proxy.socketID nNodeID
      · subst hs
        have hkept := (standing_eq_kept_iff h hpeer).mpr ⟨hsocket, rfl⟩
        rw [standing_self hmap, hkept, if_pos rfl, standing,
          mapBaseConnectionByID_setBaseConnection, if_pos rfl]
        simp
      · rw [standing_of_ne hs hmap, if_neg]
        intro hkept
        exact hs ((standing_eq_kept_iff h hpeer).mp hkept).2.symm
  · rename_i hsocket
    have hzero := Classical.not_not.mp hsocket
    exact ⟨h.sameSockets (sameSockets_delNodeProxyInfo hzero).socket, .inl fun s => rfl⟩

theorem Stored.foldl_delNodeProxyInfo (h : app.Stored peer) (hpeer : peer ≠ 0) (ids : List UInt32) :
    (ids.foldl CCoreApp.delNodeProxyInfo app).Stored peer ∧
      (SameStanding app (ids.foldl CCoreApp.delNodeProxyInfo app) ∨
        peer ∈ ids ∧ DropsKept app (ids.foldl CCoreApp.delNodeProxyInfo app)) := by
  induction ids generalizing app with
  | nil => exact ⟨h, .inl fun s => rfl⟩
  | cons n ids ih =>
      obtain ⟨hstored, hone⟩ := h.delNodeProxyInfo hpeer n
      obtain ⟨hstored', hrest⟩ := ih hstored
      have hrest' := hrest.imp_right And.right
      refine ⟨hstored', ?_⟩
      rcases hone with hsame | ⟨rfl, hdrops⟩
      · rcases hrest with hrest | ⟨hmem, hrest⟩
        · exact .inl fun s => (hrest s).trans (hsame s)
        · refine .inr ⟨List.mem_cons_of_mem n hmem, fun s => ?_⟩
          rw [List.foldl_cons, hrest, hsame]
      · exact .inr ⟨List.mem_cons_self, hdrops.trans hrest'⟩

theorem Stored.addNodeProxyInfo (h : app.Stored peer) (base : SNodeBaseInfo)
    (vec : List SServiceBaseInfo) (bExcludeConnect : Bool) :
    (app.addNodeProxyInfo base vec bExcludeConnect).Stored peer :=
  h.sameSockets
    (CGlobalServiceRegistryProxy.sameSockets_addNodeProxyInfo base vec bExcludeConnect).socket

theorem Stored.setNodeProxyInfo (h : app.Stored peer) (hpeer : peer ≠ 0) (mapNodeInfo : StdMap UInt32 SNodeInfo)
    (setExcludeConnectNodeID : StdSet UInt32) :
    (app.setNodeProxyInfo mapNodeInfo setExcludeConnectNodeID).Stored peer ∧
      (SameStanding app (app.setNodeProxyInfo mapNodeInfo setExcludeConnectNodeID) ∨
        peer ∉ mapNodeInfo ∧
          DropsKept app (app.setNodeProxyInfo mapNodeInfo setExcludeConnectNodeID)) := by
  obtain ⟨hstored, hstanding⟩ := h.foldl_delNodeProxyInfo hpeer
    (app.proxy.missingNodes mapNodeInfo)
  constructor
  · rw [CCoreApp.setNodeProxyInfo]
    generalize (app.proxy.missingNodes mapNodeInfo).foldl CCoreApp.delNodeProxyInfo app =
      app₁ at hstored
    generalize mapNodeInfo.toList = es
    induction es generalizing app₁ with
    | nil => exact hstored
    | cons e es ih =>
        apply ih { app₁ with proxy := app₁.proxy.addUnknown setExcludeConnectNodeID e }
        rw [CGlobalServiceRegistryProxy.addUnknown]
        split
        · exact hstored
        · exact hstored.addNodeProxyInfo _ _ _
  · rcases hstanding with hsame | ⟨hmem, hdrops⟩
    · exact .inl hsame
    · refine .inr ⟨?_, hdrops⟩
      have hmissing := (List.mem_filter.mp hmem).2
      simpa [← Std.ExtTreeMap.contains_iff_mem] using hmissing

theorem stored_init (config : NodeConfig) (peer : UInt32) :
    (CCoreApp.init config).Stored peer := by
  refine { zero := rfl, known := ?_, stored := ?_, closing := ?_ }
  · intro s c hc
    cases hc
  · intro n hn
    refine absurd ?_ hn
    rw [CGlobalServiceRegistryProxy.socketID, CCoreApp.init,
      CGlobalServiceRegistryProxy.mapNodeProxyInfo_init]
    simp
  · intro s c hc
    cases hc

end CCoreApp

end RealtimeEx.Core
