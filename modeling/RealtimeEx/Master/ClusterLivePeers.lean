import RealtimeEx.Master.Cluster

/-!
# Live peers are kept

In every history in which the snapshots are complete, a node only loses peers that
have been taken off line.
-/

namespace RealtimeEx.Master

open Base RealtimeEx.Core

namespace Cluster

/-! ## Queues -/

/-- Every snapshot in the queue has the nodes that are known, and those that the
messages before it tell about. -/
def Covered (offline : UInt32 → Prop) : (UInt32 → Prop) → List SystemMessage → Prop
  | _, [] => True
  | known, msg :: queue =>
      (∀ m, msg = .syncAllNodeBaseInfo m → ∀ n, known n → offline n ∨ n ∈ m.mapNodeInfo) ∧
        Covered offline (fun n => known n ∨ Tells msg n) queue

section Queues

variable {offline known : UInt32 → Prop} {queue queue' : List SystemMessage}

theorem Covered.mono {offline' known' : UInt32 → Prop} (h : Covered offline known queue)
    (hoffline : ∀ n, offline n → offline' n) (hknown : ∀ n, known' n → known n) :
    Covered offline' known' queue := by
  induction queue generalizing known known' with
  | nil => trivial
  | cons msg queue ih =>
      refine ⟨fun m hm n hn => (h.1 m hm n (hknown n hn)).imp_left (hoffline n), ?_⟩
      exact ih h.2 fun n hn => hn.imp_left (hknown n)

theorem covered_append : Covered offline known (queue ++ queue') ↔
    Covered offline known queue ∧
      Covered offline (fun n => known n ∨ ∃ msg ∈ queue, Tells msg n) queue' := by
  induction queue generalizing known with
  | nil => simp [Covered]
  | cons msg queue ih =>
      rw [List.cons_append, Covered, Covered, ih, and_assoc]
      simp only [List.mem_cons, exists_eq_or_imp, or_assoc]

theorem covered_of_no_snapshot
    (h : ∀ msg ∈ queue, ∀ m, msg ≠ .syncAllNodeBaseInfo m) :
    Covered offline known queue := by
  induction queue generalizing known with
  | nil => trivial
  | cons msg queue ih =>
      refine ⟨fun m hm => absurd hm (h msg List.mem_cons_self m), ih fun msg' hmem => ?_⟩
      exact h msg' (List.mem_cons_of_mem _ hmem)

/-- More may be known if it is in all snapshots. -/
theorem Covered.extend (h : Covered offline known queue) {more : UInt32 → Prop}
    (hmore : ∀ m, .syncAllNodeBaseInfo m ∈ queue → ∀ n, more n →
      offline n ∨ n ∈ m.mapNodeInfo) :
    Covered offline (fun n => known n ∨ more n) queue := by
  induction queue generalizing known with
  | nil => trivial
  | cons msg queue ih =>
      constructor
      · rintro m rfl n (hn | hn)
        · exact h.1 m rfl n hn
        · exact hmore m List.mem_cons_self n hn
      · refine (ih h.2 fun m hmem => hmore m (List.mem_cons_of_mem _ hmem)).mono
          (fun _ => id) fun n hn => ?_
        tauto

end Queues

theorem mem_incoming {l : Link} {nMasterID : UInt32} {sends : List Send}
    {msg : SystemMessage} :
    msg ∈ l.incoming nMasterID sends ↔
      (l.nMasterID = nMasterID ∧ l.bMaster = true ∧ l.bNode = true) ∧
        ∃ send ∈ sends, send.1 = l.nSocketID ∧ send.2.received = msg := by
  rw [Link.incoming]
  split
  · rename_i hopen
    simp [hopen, and_assoc]
  · rename_i hopen
    simp [hopen]

/-! ## The snapshot -/

/-- The nodes of a snapshot are under their own ids. -/
theorem received_syncAllNodeBaseInfo (r : CServiceRegistry) (info : SNodeProxyInfo)
    (base : SNodeBaseInfo) :
    SystemMessage.received (.syncAllNodeBaseInfo (r.syncAllNodeBaseInfo info base)) =
      .syncAllNodeBaseInfo (r.syncAllNodeBaseInfo info base) := by
  rw [SystemMessage.received, SystemMessage.nodeInfos_foldl_eq]
  intro n other hget
  rcases StdMap.exists_of_getElem?_foldl_insert hget with hempty | ⟨other', -, hkey, rfl⟩
  · simp at hempty
  · exact hkey

theorem mem_syncAllNodeBaseInfo {r : CServiceRegistry} {info : SNodeProxyInfo}
    {base : SNodeBaseInfo} {other : SNodeProxyInfo} (hother : other ∈ r.others base.nID) :
    other.sNodeBaseInfo.nID ∈ (r.syncAllNodeBaseInfo info base).mapNodeInfo := by
  obtain ⟨other', -, -, hget⟩ := StdMap.exists_getElem?_foldl_insert
    (f := fun info : SNodeProxyInfo => info.sNodeBaseInfo.nID)
    (g := fun info : SNodeProxyInfo => ({ sNodeBaseInfo := info.sNodeBaseInfo
                                          vecServiceBaseInfo := info.vecServiceBaseInfo } :
      SNodeInfo)) ∅ hother
  rw [← Std.ExtTreeMap.contains_iff_mem, Std.ExtTreeMap.contains_eq_isSome_getElem?]
  exact Option.isSome_of_eq_some hget

/-- A snapshot does not tell a node about itself. -/
theorem not_tells_syncAllNodeBaseInfo (r : CServiceRegistry) (info : SNodeProxyInfo)
    (base : SNodeBaseInfo) :
    ¬ Tells (.syncAllNodeBaseInfo (r.syncAllNodeBaseInfo info base)) base.nID := by
  rintro ⟨k, other, hget, hid⟩
  rcases StdMap.exists_of_getElem?_foldl_insert hget with hempty | ⟨other', hmem, -, rfl⟩
  · simp at hempty
  · obtain ⟨k', -, hne⟩ := CServiceRegistry.mem_others.mp hmem
    exact hne hid

/-! ## What a message takes away -/

/-- The nodes that the message takes away. -/
def Drops (p : CGlobalServiceRegistryProxy) : SystemMessage → UInt32 → Prop
  | .syncAllNodeBaseInfo m, n => n ∈ p.mapNodeProxyInfo ∧ n ∉ m.mapNodeInfo
  | .removeNodeBaseInfo m, n => n = m.nNodeID
  | _, _ => False

theorem changes_dispatch (p : CGlobalServiceRegistryProxy) (msg : SystemMessage) :
    CGlobalServiceRegistryProxy.Changes (Drops p msg) (Tells msg) p (dispatch p msg) := by
  cases msg with
  | syncNodeBaseInfo m =>
      exact (CGlobalServiceRegistryProxy.changes_addNodeProxyInfo _ p _ _ _).mono
        (fun _ => id) fun n hn => hn.symm
  | syncAllNodeBaseInfo m => exact CGlobalServiceRegistryProxy.changes_setNodeProxyInfo p _ _
  | removeNodeBaseInfo m => exact CGlobalServiceRegistryProxy.changes_delNodeProxyInfo _ p _
  | _ => exact .refl _ _ p

/-- A call that takes only nodes away that are off line spares the others. -/
theorem spared_of_changes {offline gone new : UInt32 → Prop}
    {p p' : CGlobalServiceRegistryProxy} (hheld : p.Held)
    (h : CGlobalServiceRegistryProxy.Changes gone new p p')
    (hgone : ∀ n, gone n → offline n) : Spared offline p p' := by
  intro n
  refine (h.keeps n).imp (hgone n) fun hkeeps => ⟨hkeeps, ?_⟩
  rintro s ⟨info, hinfo, hs⟩
  obtain ⟨info', hinfo', hvec⟩ := hkeeps info hinfo
  exact (h.held hheld).known ⟨info', hinfo', by rw [hvec]; exact hs⟩

/-! ## The invariant -/

/-- The entry of a node has the socket of a connection of that node, a node neither
knows itself nor is told about itself, every snapshot on the way has the nodes that its
receiver knows when it arrives, and nodes are only removed when they are off line. -/
structure Sound (s : Cluster) : Prop where
  keyed : ∀ {a n : UInt32} {info : SNodeProxyInfo},
    (s.registry a).mapNodeProxyInfo[n]? = some info → info.sNodeBaseInfo.nID = n
  owner : ∀ {n : UInt32} {info : SNodeProxyInfo} {c : ℕ}, (s.link c).bMaster = true →
    (s.registry (s.link c).nMasterID).mapNodeProxyInfo[n]? = some info →
    info.nSocketID = (s.link c).nSocketID → (s.link c).nPeerID = n
  sockets : ∀ {c c' : ℕ}, (s.link c).bMaster = true → (s.link c').bMaster = true →
    (s.link c).nMasterID = (s.link c').nMasterID →
    (s.link c).nSocketID = (s.link c').nSocketID → c = c'
  nonzero : ∀ {c : ℕ}, (s.link c).bMaster = true → (s.link c).nSocketID ≠ 0
  held : ∀ n, (s.proxy n).Held
  ignorant : ∀ n, n ∉ (s.proxy n).mapNodeProxyInfo
  silent : ∀ c, ∀ msg ∈ (s.link c).queue, ¬ Tells msg (s.link c).nPeerID
  covered : ∀ c, Covered s.offline
    (fun n => n ∈ (s.proxy (s.link c).nPeerID).mapNodeProxyInfo) (s.link c).queue
  removed : ∀ c m, .removeNodeBaseInfo m ∈ (s.link c).queue → s.offline m.nNodeID

variable {s : Cluster}

/-- Handling the next message of a connection spares the live peers. -/
theorem Sound.spared_dispatch (h : s.Sound) {c : ℕ} {msg : SystemMessage}
    {queue : List SystemMessage} (hqueue : (s.link c).queue = msg :: queue) :
    Spared s.offline (s.proxy (s.link c).nPeerID)
      (dispatch (s.proxy (s.link c).nPeerID) msg) := by
  refine spared_of_changes (h.held _) (changes_dispatch _ msg) fun n hn => ?_
  have hcovered := h.covered c
  rw [hqueue] at hcovered
  cases msg with
  | syncAllNodeBaseInfo m =>
      exact (hcovered.1 m rfl n hn.1).resolve_right hn.2
  | removeNodeBaseInfo m =>
      rw [show n = m.nNodeID from hn]
      exact h.removed c m (by rw [hqueue]; exact List.mem_cons_self)
  | _ => exact hn.elim

theorem spared_refl (offline : UInt32 → Prop) {p : CGlobalServiceRegistryProxy}
    (h : p.Held) : Spared offline p p :=
  spared_of_changes h (.refl (fun _ => False) (fun _ => False) p) fun _ => False.elim

theorem Sound.spared_update (h : s.Sound) {k : UInt32} {p : CGlobalServiceRegistryProxy}
    (hk : Spared s.offline (s.proxy k) p) (n : UInt32) :
    Spared s.offline (s.proxy n) (Function.update s.proxy k p n) := by
  by_cases hn : n = k
  · subst hn
    rw [Function.update_self]
    exact hk
  · rw [Function.update_of_ne hn]
    exact spared_refl _ (h.held n)

/-- So no running node loses a live peer. -/
theorem Sound.livePeersKept (h : s.Sound) : s.LivePeersKept := by
  rintro event s' ⟨-, rfl⟩ n hrunning
  cases event with
  | delivers c =>
      rw [next]
      split
      · exact spared_refl _ (h.held n)
      · rename_i msg queue hqueue
        exact h.spared_update (h.spared_dispatch hqueue) n
  | registers c m =>
      rw [next]
      split
      · exact spared_refl _ (h.held n)
      · exact spared_refl _ (h.held n)
  | starts k names types vec =>
      have hother : (s.next (.starts k names types vec)).proxy n = s.proxy n :=
        Function.update_of_ne (Ne.symm hrunning) _ _
      rw [hother]
      exact spared_refl _ (h.held n)
  | meets k k' nSocketID =>
      refine h.spared_update (spared_of_changes (h.held k)
        (CGlobalServiceRegistryProxy.changes_setOtherNodeSocketIDByNodeID
          (fun _ => False) (fun _ => False) _ _ _) fun _ => False.elim) n
  | _ => exact spared_refl _ (h.held n)

/-! ## What keeps the invariant -/

/-- A registry may change when its entries keep the sockets of their own connections. -/
theorem Sound.withRegistry (h : s.Sound) {a : UInt32} {r : CServiceRegistry}
    (hkeyed : ∀ {n : UInt32} {info : SNodeProxyInfo}, r.mapNodeProxyInfo[n]? = some info →
      info.sNodeBaseInfo.nID = n)
    (howner : ∀ {n : UInt32} {info : SNodeProxyInfo} {c : ℕ}, (s.link c).bMaster = true →
      (s.link c).nMasterID = a → r.mapNodeProxyInfo[n]? = some info →
      info.nSocketID = (s.link c).nSocketID → (s.link c).nPeerID = n) :
    Sound { s with registry := Function.update s.registry a r } := by
  refine { h with keyed := ?_, owner := ?_ }
  · intro b n info hget
    by_cases hb : b = a
    · subst hb
      simp only [Function.update_self] at hget
      exact hkeyed hget
    · simp only [Function.update_of_ne hb] at hget
      exact h.keyed hget
  · intro n info c hopen hget hsocket
    by_cases hb : (s.link c).nMasterID = a
    · simp only [hb, Function.update_self] at hget
      exact howner hopen hb hget hsocket
    · simp only [Function.update_of_ne hb] at hget
      exact h.owner hopen hget hsocket

/-- Ends of connections may be closed, and messages from the front of a queue may be
gone. -/
theorem Sound.withLinks (h : s.Sound) {link : ℕ → Link}
    (hends : ∀ c, (link c).nMasterID = (s.link c).nMasterID ∧
      (link c).nPeerID = (s.link c).nPeerID ∧ (link c).nSocketID = (s.link c).nSocketID)
    (hopen : ∀ c, (link c).bMaster = true → (s.link c).bMaster = true)
    (hqueue : ∀ c, ∃ front, (s.link c).queue = front ++ (link c).queue) :
    Sound { s with link } := by
  refine { h with owner := ?_, sockets := ?_, nonzero := ?_, silent := ?_, covered := ?_,
                  removed := ?_ }
  · intro n info c hc
    obtain ⟨hmaster, hpeer, hsocket⟩ := hends c
    simp only [hmaster, hpeer, hsocket]
    exact h.owner (hopen c hc)
  · intro c c' hc hc'
    simp only [(hends c).1, (hends c').1, (hends c).2.2, (hends c').2.2]
    exact h.sockets (hopen c hc) (hopen c' hc')
  · intro c hc
    simp only [(hends c).2.2]
    exact h.nonzero (hopen c hc)
  · intro c msg hmem
    obtain ⟨front, hfront⟩ := hqueue c
    simp only [(hends c).2.1]
    exact h.silent c msg (by rw [hfront]; exact List.mem_append_right _ hmem)
  · intro c
    obtain ⟨front, hfront⟩ := hqueue c
    have hcovered := h.covered c
    rw [hfront, covered_append] at hcovered
    simp only [(hends c).2.1]
    exact hcovered.2.mono (fun _ => id) fun _ => .inl
  · intro c m hmem
    obtain ⟨front, hfront⟩ := hqueue c
    exact h.removed c m (by rw [hfront]; exact List.mem_append_right _ hmem)

theorem Sound.updateLink (h : s.Sound) {c : ℕ} {l : Link}
    (hends : l.nMasterID = (s.link c).nMasterID ∧ l.nPeerID = (s.link c).nPeerID ∧
      l.nSocketID = (s.link c).nSocketID)
    (hopen : l.bMaster = true → (s.link c).bMaster = true)
    (hqueue : ∃ front, (s.link c).queue = front ++ l.queue) :
    Sound { s with link := Function.update s.link c l } := by
  have hupdate : ∀ P : Link → Link → Prop, P l (s.link c) → (∀ l, P l l) →
      ∀ c', P (Function.update s.link c l c') (s.link c') := by
    intro P hP hrefl c'
    by_cases hc : c' = c
    · subst hc
      rw [Function.update_self]
      exact hP
    · rw [Function.update_of_ne hc]
      exact hrefl _
  exact h.withLinks
    (hupdate (fun l l' => l.nMasterID = l'.nMasterID ∧ l.nPeerID = l'.nPeerID ∧
      l.nSocketID = l'.nSocketID) hends fun _ => ⟨rfl, rfl, rfl⟩)
    (hupdate (fun l l' => l.bMaster = true → l'.bMaster = true) hopen fun _ => id)
    (hupdate (fun l l' => ∃ front, l'.queue = front ++ l.queue) hqueue fun _ => ⟨[], rfl⟩)

/-- A proxy may change as long as the snapshots on the way have all that it knows then. -/
theorem Sound.withProxy (h : s.Sound) {k : UInt32} {p : CGlobalServiceRegistryProxy}
    (hheld : p.Held) (hignorant : k ∉ p.mapNodeProxyInfo)
    (hcovered : ∀ c, (s.link c).nPeerID = k →
      Covered s.offline (fun n => n ∈ p.mapNodeProxyInfo) (s.link c).queue) :
    Sound { s with proxy := Function.update s.proxy k p } := by
  refine { h with held := ?_, ignorant := ?_, covered := ?_ }
  · intro n
    by_cases hn : n = k
    · subst hn
      simp only [Function.update_self]
      exact hheld
    · simp only [Function.update_of_ne hn]
      exact h.held n
  · intro n
    by_cases hn : n = k
    · subst hn
      simp only [Function.update_self]
      exact hignorant
    · simp only [Function.update_of_ne hn]
      exact h.ignorant n
  · intro c
    by_cases hn : (s.link c).nPeerID = k
    · simp only [hn, Function.update_self]
      exact hcovered c hn
    · simp only [Function.update_of_ne hn]
      exact h.covered c

/-- Messages may be sent as long as a snapshot among them has all that its receiver
knows and has been told before. -/
theorem Sound.withMessages (h : s.Sound) {a : UInt32} {sends : List Send}
    {offline : UInt32 → Prop} (hoffline : ∀ n, s.offline n → offline n)
    (hsilent : ∀ c, ∀ msg ∈ (s.link c).incoming a sends, ¬ Tells msg (s.link c).nPeerID)
    (hcovered : ∀ c, Covered offline
      (fun n => n ∈ (s.proxy (s.link c).nPeerID).mapNodeProxyInfo ∨
        ∃ msg ∈ (s.link c).queue, Tells msg n) ((s.link c).incoming a sends))
    (hremoved : ∀ c m, .removeNodeBaseInfo m ∈ (s.link c).incoming a sends →
      offline m.nNodeID) :
    Sound { s with link := fun c => (s.link c).take a sends, offline } := by
  refine { h with silent := ?_, covered := ?_, removed := ?_ }
  · intro c msg hmem
    rcases List.mem_append.mp hmem with hold | hnew
    · exact h.silent c msg hold
    · exact hsilent c msg hnew
  · intro c
    exact covered_append.mpr ⟨(h.covered c).mono hoffline fun _ => id, hcovered c⟩
  · intro c m hmem
    rcases List.mem_append.mp hmem with hold | hnew
    · exact hoffline _ (h.removed c m hold)
    · exact hremoved c m hnew

/-! ## Registrations -/

section Registration

variable {c : ℕ} {m : SmtRegisterNodeBaseInfo} {info : SNodeProxyInfo}

theorem nSocketID_of_accepts {r : CServiceRegistry} {nSocketID : UInt64}
    (h : CServiceRegistry.Accepts r nSocketID m info) : info.nSocketID = nSocketID := by
  cases h with
  | new => rfl
  | again => rfl

/-- The registry of the master after the registration. -/
def entered (s : Cluster) (c : ℕ) (m : SmtRegisterNodeBaseInfo) (info : SNodeProxyInfo) :
    CServiceRegistry :=
  (s.registry (s.link c).nMasterID).enter m.sNodeBaseInfo.nID info m.vecServiceBaseInfo

theorem Sound.withEntered (h : s.Sound) (hpossible : s.Possible (.registers c m))
    (haccepts : CServiceRegistry.Accepts (s.registry (s.link c).nMasterID)
      (s.link c).nSocketID m info) :
    Sound { s with registry :=
      Function.update s.registry (s.link c).nMasterID (s.entered c m info) } := by
  obtain ⟨hopen, hself⟩ := hpossible
  refine h.withRegistry ?_ ?_
  · intro n info' hget
    rw [entered, CServiceRegistry.getElem?_enter] at hget
    split at hget
    · rename_i hn
      cases hget
      subst hn
      cases haccepts with
      | new => rfl
      | again hinfo =>
          have hkey := h.keyed hinfo
          exact hkey
    · exact h.keyed hget
  · intro n info' c' hopen' hmaster hget hsocket
    rw [entered, CServiceRegistry.getElem?_enter] at hget
    split at hget
    · rename_i hn
      cases hget
      subst hn
      rw [nSocketID_of_accepts haccepts] at hsocket
      rw [hself, h.sockets hopen hopen' hmaster.symm hsocket]
    · rw [← hmaster] at hget
      exact h.owner hopen' hget hsocket

/-- The other nodes of the registry are not at the other end of the connection. -/
theorem Sound.ne_of_mem_others (h : s.Sound) {a n : UInt32} {c : ℕ} {other : SNodeProxyInfo}
    (hopen : (s.link c).bMaster = true) (hmaster : (s.link c).nMasterID = a)
    (hother : other ∈ (s.registry a).others n)
    (hsocket : other.nSocketID = (s.link c).nSocketID) : (s.link c).nPeerID ≠ n := by
  obtain ⟨k, hget, hne⟩ := CServiceRegistry.mem_others.mp hother
  rw [← hmaster] at hget
  rw [h.owner hopen hget hsocket, ← h.keyed hget]
  exact hne

/-- The node that registers gets the snapshot. -/
theorem Sound.incoming_self (h : s.Sound) (hopen : (s.link c).bMaster = true)
    {base : SNodeBaseInfo} (hself : base.nID = (s.link c).nPeerID)
    (hsocket : info.nSocketID = (s.link c).nSocketID) (vec : List SServiceBaseInfo) :
    let r := s.registry (s.link c).nMasterID
    (s.link c).incoming (s.link c).nMasterID (r.announcements info base vec) = [] ∨
      (s.link c).incoming (s.link c).nMasterID (r.announcements info base vec) =
        [.syncAllNodeBaseInfo (r.syncAllNodeBaseInfo info base)] := by
  intro r
  rw [Link.incoming]
  split
  · right
    rw [CServiceRegistry.announcements, List.filter_cons_of_pos (by simpa using hsocket),
      List.filter_eq_nil_iff.mpr, List.map_singleton, received_syncAllNodeBaseInfo]
    intro send hmem hsend
    obtain ⟨other, hother, rfl⟩ := List.mem_map.mp hmem
    exact h.ne_of_mem_others hopen rfl (List.mem_filter.mp hother).1
      (of_decide_eq_true hsend) hself.symm
  · exact .inl rfl

/-- The other nodes are told about it. -/
theorem Sound.incoming_other (h : s.Sound) (hopen : (s.link c).bMaster = true)
    {base : SNodeBaseInfo} (hsocket : info.nSocketID = (s.link c).nSocketID)
    {vec : List SServiceBaseInfo} {c' : ℕ} (hne : c' ≠ c) {msg : SystemMessage}
    (hmem : msg ∈ (s.link c').incoming (s.link c).nMasterID
      ((s.registry (s.link c).nMasterID).announcements info base vec)) :
    (s.link c').nPeerID ≠ base.nID ∧
      ∃ m, msg = .syncNodeBaseInfo m ∧ m.sNodeBaseInfo.nID = base.nID := by
  obtain ⟨⟨hmaster, hopen', -⟩, send, hsend, hto, rfl⟩ := mem_incoming.mp hmem
  rcases List.mem_cons.mp hsend with rfl | hsend
  · exact absurd (h.sockets hopen' hopen hmaster (hto.symm.trans hsocket)) hne
  · obtain ⟨other, hother, rfl⟩ := List.mem_map.mp hsend
    exact ⟨h.ne_of_mem_others hopen' hmaster (List.mem_filter.mp hother).1 hto,
      _, rfl, rfl⟩

/-- The messages of a registration keep the invariant if the snapshot has what the node
knows or is being told about. -/
theorem Sound.announces (h : s.Sound) (hopen : (s.link c).bMaster = true)
    {base : SNodeBaseInfo} (hself : base.nID = (s.link c).nPeerID)
    (hsocket : info.nSocketID = (s.link c).nSocketID) (vec : List SServiceBaseInfo)
    (hsnapshot : ∀ n, n ∈ (s.proxy (s.link c).nPeerID).mapNodeProxyInfo ∨
        (∃ msg ∈ (s.link c).queue, Tells msg n) → s.offline n ∨
      n ∈ ((s.registry (s.link c).nMasterID).syncAllNodeBaseInfo info base).mapNodeInfo) :
    Sound
      { s with
        link := fun c' => (s.link c').take (s.link c).nMasterID
          ((s.registry (s.link c).nMasterID).announcements info base vec) } := by
  have hincoming := h.incoming_self hopen hself hsocket vec
  refine h.withMessages (fun _ => id) ?_ ?_ ?_
  · intro c' msg hmem
    by_cases hc : c' = c
    · subst hc
      rcases hincoming with hnone | hone
      · rw [hnone] at hmem
        cases hmem
      · rw [hone, List.mem_singleton] at hmem
        subst hmem
        rw [← hself]
        exact not_tells_syncAllNodeBaseInfo _ info base
    · obtain ⟨hpeer, m, rfl, hid⟩ := h.incoming_other hopen hsocket hc hmem
      intro htells
      exact hpeer (Eq.trans htells.symm hid)
  · intro c'
    by_cases hc : c' = c
    · subst hc
      rcases hincoming with hnone | hone
      · rw [hnone]
        trivial
      · rw [hone]
        refine ⟨?_, trivial⟩
        rintro m ⟨⟩
        exact hsnapshot
    · refine covered_of_no_snapshot fun msg hmem m => ?_
      obtain ⟨-, m', rfl, -⟩ := h.incoming_other hopen hsocket hc hmem
      nofun
  · intro c' m hmem
    by_cases hc : c' = c
    · subst hc
      rcases hincoming with hnone | hone
      · rw [hnone] at hmem
        cases hmem
      · rw [hone, List.mem_singleton] at hmem
        cases hmem
    · obtain ⟨-, m', heq, -⟩ := h.incoming_other hopen hsocket hc hmem
      cases heq

theorem Sound.registers (h : s.Sound) (hpossible : s.Possible (.registers c m))
    (hcomplete : s.Complete (.registers c m)) : Sound (s.next (.registers c m)) := by
  rw [next]
  split
  · exact h
  · rename_i r sends haccepted
    obtain ⟨info, haccepts, rfl, rfl⟩ := CServiceRegistry.onRegister_spec haccepted
    have h' := h.withEntered hpossible haccepts
    obtain ⟨hopen, hself⟩ := hpossible
    have hregistry : (Function.update s.registry (s.link c).nMasterID (s.entered c m info))
        (s.link c).nMasterID = s.entered c m info := Function.update_self ..
    have hsent := h'.announces (c := c) hopen hself (nSocketID_of_accepts haccepts)
      m.vecServiceBaseInfo
    simp only [hregistry] at hsent
    -- Only `m_nNodeID` of the connection changes after the messages are sent.
    refine (hsent fun n hn => ?_).updateLink (c := c) ⟨rfl, rfl, rfl⟩ id ⟨[], rfl⟩
    refine (hcomplete (by rw [haccepted]; rfl) n hn).imp id fun hmem => ?_
    have hne : n ≠ m.sNodeBaseInfo.nID := by
      rw [hself]
      rintro rfl
      rcases hn with hknown | ⟨msg, hmsg, htells⟩
      · exact h.ignorant _ hknown
      · exact h.silent c msg hmsg htells
    rw [← Std.ExtTreeMap.contains_iff_mem, Std.ExtTreeMap.contains_eq_isSome_getElem?,
      Option.isSome_iff_exists] at hmem
    obtain ⟨other, hget⟩ := hmem
    have hkey := h.keyed hget
    rw [← CServiceRegistry.getElem?_enter_of_ne hne] at hget
    rw [← hkey]
    refine mem_syncAllNodeBaseInfo (CServiceRegistry.mem_others.mpr ⟨n, hget, ?_⟩)
    rw [hkey]
    exact hne

end Registration

/-! ## The other events -/

theorem Sound.connects (h : s.Sound) {c : ℕ} {nMasterID nNodeID : UInt32}
    {nSocketID : UInt64} (hpossible : s.Possible (.connects c nMasterID nNodeID nSocketID)) :
    Sound (s.next (.connects c nMasterID nNodeID nSocketID)) := by
  obtain ⟨-, -, hnonzero, hsockets, hentries⟩ := hpossible
  rw [next]
  refine { h with owner := ?_, sockets := ?_, nonzero := ?_, silent := ?_, covered := ?_,
                  removed := ?_ }
  · intro n info c' hopen hget hsocket
    by_cases hc : c' = c
    · subst hc
      simp only [Function.update_self] at hget hsocket
      exact absurd hsocket (hentries n info hget)
    · simp only [Function.update_of_ne hc] at hopen hget hsocket ⊢
      exact h.owner hopen hget hsocket
  · intro c₁ c₂ hopen₁ hopen₂ hmaster hsocket
    by_cases hc₁ : c₁ = c
    · by_cases hc₂ : c₂ = c
      · rw [hc₁, hc₂]
      · subst hc₁
        simp only [Function.update_self, Function.update_of_ne hc₂] at hopen₂ hmaster hsocket
        exact absurd hsocket.symm (hsockets c₂ hmaster.symm hopen₂)
    · by_cases hc₂ : c₂ = c
      · subst hc₂
        simp only [Function.update_self, Function.update_of_ne hc₁] at hopen₁ hmaster hsocket
        exact absurd hsocket (hsockets c₁ hmaster hopen₁)
      · simp only [Function.update_of_ne hc₁, Function.update_of_ne hc₂]
          at hopen₁ hopen₂ hmaster hsocket
        exact h.sockets hopen₁ hopen₂ hmaster hsocket
  · intro c' hopen
    by_cases hc : c' = c
    · subst hc
      simp only [Function.update_self]
      exact hnonzero
    · simp only [Function.update_of_ne hc] at hopen ⊢
      exact h.nonzero hopen
  · intro c' msg hmem
    by_cases hc : c' = c
    · subst hc
      simp only [Function.update_self] at hmem
      cases hmem
    · simp only [Function.update_of_ne hc] at hmem ⊢
      exact h.silent c' msg hmem
  · intro c'
    by_cases hc : c' = c
    · subst hc
      simp only [Function.update_self]
      trivial
    · simp only [Function.update_of_ne hc]
      exact h.covered c'
  · intro c' m hmem
    by_cases hc : c' = c
    · subst hc
      simp only [Function.update_self] at hmem
      cases hmem
    · simp only [Function.update_of_ne hc] at hmem
      exact h.removed c' m hmem

/-- The only messages of `delNode` are about the node, which was in the table. -/
theorem mem_delNode {r : CServiceRegistry} {n : UInt32} {send : Send}
    (hmem : send ∈ (r.delNode n).2) :
    n ∈ r.mapNodeProxyInfo ∧ ∃ m, send.2 = .removeNodeBaseInfo m ∧ m.nNodeID = n := by
  rcases hinfo : r.mapNodeProxyInfo[n]? with _ | info
  · rw [CServiceRegistry.delNode_of_none hinfo] at hmem
    cases hmem
  · rw [CServiceRegistry.delNode, hinfo] at hmem
    obtain ⟨other, -, rfl⟩ := List.mem_map.mp hmem
    refine ⟨?_, _, rfl, rfl⟩
    rw [← Std.ExtTreeMap.contains_iff_mem, Std.ExtTreeMap.contains_eq_isSome_getElem?, hinfo]
    rfl

theorem Sound.unregisters (h : s.Sound) (c : ℕ) : Sound (s.next (.unregisters c)) := by
  have hold : ∀ {n : UInt32} {info : SNodeProxyInfo},
      ((s.registry (s.link c).nMasterID).delNode
        (s.link c).nNodeID).1.mapNodeProxyInfo[n]? = some info →
      (s.registry (s.link c).nMasterID).mapNodeProxyInfo[n]? = some info := by
    intro n info hget
    rw [CServiceRegistry.getElem?_delNode] at hget
    split at hget
    · cases hget
    · exact hget
  have hmessage : ∀ c', ∀ msg ∈ (s.link c').incoming (s.link c).nMasterID
      ((s.registry (s.link c).nMasterID).delNode (s.link c).nNodeID).2,
      (s.link c).nNodeID ∈ (s.registry (s.link c).nMasterID).mapNodeProxyInfo ∧
        ∃ m, msg = .removeNodeBaseInfo m ∧ m.nNodeID = (s.link c).nNodeID := by
    intro c' msg hmem
    obtain ⟨-, send, hsend, -, rfl⟩ := mem_incoming.mp hmem
    obtain ⟨hknown, m, heq, hid⟩ := mem_delNode hsend
    exact ⟨hknown, m, by rw [heq]; rfl, hid⟩
  have h' := h.withRegistry (a := (s.link c).nMasterID)
    (r := ((s.registry (s.link c).nMasterID).delNode (s.link c).nNodeID).1)
    (fun hget => h.keyed (hold hget)) fun hopen hmaster hget hsocket =>
      h.owner hopen (by rw [hmaster]; exact hold hget) hsocket
  refine h'.withMessages (fun n => .inl) ?_ ?_ ?_
  · intro c' msg hmem
    obtain ⟨-, m, rfl, -⟩ := hmessage c' msg hmem
    exact id
  · intro c'
    refine covered_of_no_snapshot fun msg hmem m => ?_
    obtain ⟨-, m', rfl, -⟩ := hmessage c' msg hmem
    nofun
  · intro c' m hmem
    obtain ⟨hknown, m', heq, hid⟩ := hmessage c' _ hmem
    cases heq
    exact .inr ⟨hid, by rw [hid]; exact hknown⟩

theorem Sound.delivers (h : s.Sound) {c : ℕ} (hcomplete : s.Complete (.delivers c)) :
    Sound (s.next (.delivers c)) := by
  rw [next]
  split
  · exact h
  · rename_i msg queue hqueue
    have hchanges := changes_dispatch (s.proxy (s.link c).nPeerID) msg
    have hcovered := h.covered c
    rw [hqueue] at hcovered
    have h' := h.updateLink (c := c) (l := { s.link c with queue }) ⟨rfl, rfl, rfl⟩ id
      ⟨[msg], hqueue⟩
    refine h'.withProxy (hchanges.held (h.held _)) ?_ ?_
    · intro hknown
      rcases hchanges.appears _ hknown with hmem | htells
      · exact h.ignorant _ hmem
      · exact h.silent c msg (by rw [hqueue]; exact List.mem_cons_self) htells
    · intro c' hpeer
      by_cases hc : c' = c
      · subst hc
        simp only [Function.update_self]
        exact hcovered.2.mono (fun _ => id) hchanges.appears
      · simp only [Function.update_of_ne hc] at hpeer ⊢
        have hother := h.covered c'
        rw [hpeer] at hother
        refine (hother.extend fun m hm n hn => ?_).mono (fun _ => id) hchanges.appears
        exact hcomplete msg (by rw [hqueue]; rfl) n hn c' hc hpeer m hm

theorem Sound.disconnects (h : s.Sound) (c : ℕ) : Sound (s.next (.disconnects c)) := by
  have hregistry : Sound
      { s with
        registry := Function.update s.registry (s.link c).nMasterID
          (if (s.link c).nNodeID ≠ 0 then
            (s.registry (s.link c).nMasterID).disconnectNode (s.link c).nNodeID
          else
            s.registry (s.link c).nMasterID) } := by
    split
    · rcases hinfo : (s.registry (s.link c).nMasterID).mapNodeProxyInfo[(s.link c).nNodeID]?
        with _ | info
      · rw [CServiceRegistry.disconnectNode, hinfo, Function.update_eq_self]
        exact h
      · rw [CServiceRegistry.disconnectNode_of_some hinfo]
        refine h.withRegistry ?_ ?_
        · intro n info' hget
          rw [CServiceRegistry.getElem?_enter] at hget
          split at hget
          · rename_i hn
            cases hget
            subst hn
            have hkey := h.keyed hinfo
            exact hkey
          · exact h.keyed hget
        · intro n info' c' hopen hmaster hget hsocket
          rw [CServiceRegistry.getElem?_enter] at hget
          split at hget
          · cases hget
            exact absurd hsocket.symm (h.nonzero hopen)
          · rw [← hmaster] at hget
            exact h.owner hopen hget hsocket
    · rw [Function.update_eq_self]
      exact h
  refine hregistry.updateLink (c := c) ⟨rfl, rfl, rfl⟩ ?_ ⟨[], rfl⟩
  intro hopen
  cases hopen

theorem Sound.closes (h : s.Sound) (c : ℕ) : Sound (s.next (.closes c)) :=
  h.updateLink (c := c) ⟨rfl, rfl, rfl⟩ id ⟨(s.link c).queue, (List.append_nil _).symm⟩

theorem Sound.restarts (h : s.Sound) (nMasterID : UInt32) :
    Sound (s.next (.restarts nMasterID)) := by
  have hlinks : Sound
      { s with
        link := fun c =>
          if (s.link c).nMasterID = nMasterID then { s.link c with bMaster := false }
          else s.link c } := by
    refine h.withLinks (fun c => ?_) (fun c hopen => ?_) fun c => ⟨[], ?_⟩
    · split <;> exact ⟨rfl, rfl, rfl⟩
    · split at hopen
      · cases hopen
      · exact hopen
    · split <;> rfl
  refine hlinks.withRegistry (fun hget => ?_) fun _ _ hget => ?_
  · simp at hget
  · simp at hget

theorem Sound.starts (h : s.Sound) (nNodeID : UInt32) (names types : StdSet StdString)
    (vec : List SServiceBaseInfo) : Sound (s.next (.starts nNodeID names types vec)) := by
  have hempty : (CGlobalServiceRegistryProxy.init names types vec).mapNodeProxyInfo = ∅ :=
    CGlobalServiceRegistryProxy.mapNodeProxyInfo_init names types
  have hlinks : Sound
      { s with
        link := fun c =>
          if (s.link c).nPeerID = nNodeID then { s.link c with bNode := false, queue := [] }
          else s.link c } := by
    refine h.withLinks (fun c => ?_) (fun c hopen => ?_) fun c => ?_
    · split <;> exact ⟨rfl, rfl, rfl⟩
    · split at hopen <;> exact hopen
    · split
      · exact ⟨(s.link c).queue, (List.append_nil _).symm⟩
      · exact ⟨[], rfl⟩
  refine hlinks.withProxy (CGlobalServiceRegistryProxy.held_of_empty hempty) ?_
    fun c hpeer => ?_
  · rw [hempty]
    simp
  · by_cases hc : (s.link c).nPeerID = nNodeID
    · simp only [if_pos hc]
      trivial
    · simp only [if_neg hc] at hpeer
      exact absurd hpeer hc

theorem Sound.meets (h : s.Sound) (nNodeID nOtherNodeID : UInt32) (nSocketID : UInt64) :
    Sound (s.next (.meets nNodeID nOtherNodeID nSocketID)) := by
  have hchanges := CGlobalServiceRegistryProxy.changes_setOtherNodeSocketIDByNodeID
    (fun _ => False) (fun _ => False) (s.proxy nNodeID) nOtherNodeID nSocketID
  have hold := fun n hn => (hchanges.appears n hn).resolve_right id
  refine h.withProxy (hchanges.held (h.held _)) (fun hmem => h.ignorant _ (hold _ hmem)) ?_
  rintro c rfl
  exact (h.covered c).mono (fun _ => id) hold

/-! ## Reachable states -/

theorem sound_init : Sound {} := by
  constructor
  · intro a n info hget
    simp at hget
  · nofun
  · nofun
  · nofun
  · exact fun _ => CGlobalServiceRegistryProxy.held_of_empty rfl
  · intro n
    simp
  · nofun
  · exact fun _ => trivial
  · nofun

theorem sound_step {s s' : Cluster} {event : ClusterEvent} (h : s.Sound)
    (hstep : (clustering.guard Complete).step s event s') : s'.Sound := by
  obtain ⟨⟨hpossible, rfl⟩, hcomplete⟩ := hstep
  cases event with
  | connects c nMasterID nNodeID nSocketID => exact h.connects hpossible
  | registers c m => exact h.registers hpossible hcomplete
  | unregisters c => exact h.unregisters c
  | delivers c => exact h.delivers hcomplete
  | disconnects c => exact h.disconnects c
  | closes c => exact h.closes c
  | restarts nMasterID => exact h.restarts nMasterID
  | starts nNodeID names types vec => exact h.starts nNodeID names types vec
  | meets nNodeID nOtherNodeID nSocketID => exact h.meets nNodeID nOtherNodeID nSocketID

/-- All events of a list can happen one after the other, and satisfy a condition. -/
def Follows (G : Cluster → ClusterEvent → Prop) : Cluster → List ClusterEvent → Prop
  | _, [] => True
  | s, event :: events => s.Possible event ∧ G s event ∧ Follows G (s.next event) events

theorem reachable_of_follows {G : Cluster → ClusterEvent → Prop} {events : List ClusterEvent}
    (h : Follows G {} events) : (clustering.guard G).Reachable (events.foldl next {}) := by
  have hrun : ∀ s, Follows G s events →
      (clustering.guard G).Run s events (events.foldl next s) := by
    clear h
    induction events with
    | nil => exact fun s _ => .nil s
    | cons event events ih => exact fun s h => .cons ⟨⟨h.1, rfl⟩, h.2.1⟩ (ih _ h.2.2)
  exact ⟨{}, events, rfl, hrun {} h⟩

/-- A node without services. -/
def bare (nID : UInt32) : SmtRegisterNodeBaseInfo where
  toMessageHeader := newHeader 1
  sNodeBaseInfo := { (default : SNodeBaseInfo) with nID }
  vecServiceBaseInfo := []
  setConnectServiceName := ∅
  setConnectServiceType := ∅

/-- Two nodes register with master 9 and the first one is told about both. -/
def registerEvents : List ClusterEvent :=
  [.connects 0 9 1 1, .connects 1 9 2 2, .registers 0 (bare 1), .registers 1 (bare 2),
   .delivers 0, .delivers 0]

theorem follows_registerEvents : Follows Complete {} registerEvents := by
  refine ⟨⟨rfl, rfl, by decide, nofun, fun n info hget => ?_⟩, trivial,
    ⟨rfl, rfl, by decide, ?_, fun n info hget => ?_⟩, trivial, ⟨rfl, rfl⟩, fun _ n => ?_,
    ⟨rfl, rfl⟩, fun _ n => ?_, rfl, ?_, rfl, ?_, trivial⟩
  · simp at hget
  · rintro (_ | c) - hopen
    · decide
    · cases hopen
  · simp [next] at hget
  · rintro (hknown | ⟨msg, hmsg, -⟩)
    · have hempty : n ∈ (∅ : StdMap UInt32 Core.SNodeProxyInfo) := hknown
      simp at hempty
    · cases hmsg
  · rintro (hknown | ⟨msg, hmsg, -⟩)
    · have hempty : n ∈ (∅ : StdMap UInt32 Core.SNodeProxyInfo) := hknown
      simp at hempty
    · cases hmsg
  · rintro msg - n - (_ | _ | c) hc hpeer m hm
    · exact absurd rfl hc
    · exact absurd hpeer (by decide)
    · cases hm
  · rintro msg - n - (_ | _ | c) hc hpeer m hm
    · exact absurd rfl hc
    · exact absurd hpeer (by decide)
    · cases hm

/-- Then the master is restarted, and the first node connects and registers again. -/
def restartEvents : List ClusterEvent :=
  registerEvents ++ [.restarts 9, .closes 0, .connects 2 9 1 3, .registers 2 (bare 1)]

theorem follows_restartEvents : Follows (fun _ _ => True) {} restartEvents := by
  refine ⟨⟨rfl, rfl, by decide, nofun, fun n info hget => ?_⟩, trivial,
    ⟨rfl, rfl, by decide, ?_, fun n info hget => ?_⟩, trivial, ⟨rfl, rfl⟩, trivial,
    ⟨rfl, rfl⟩, trivial, rfl, trivial, rfl, trivial, trivial, trivial, rfl, trivial,
    ⟨rfl, rfl, by decide, ?_, fun n info hget => ?_⟩, trivial, ⟨rfl, rfl⟩, trivial, trivial⟩
  · simp at hget
  · rintro (_ | c) - hopen
    · decide
    · cases hopen
  · simp [next] at hget
  · rintro (_ | _ | c) - hopen
    · cases hopen
    · cases hopen
    · cases hopen
  · have hempty : (∅ : StdMap UInt32 SNodeProxyInfo)[n]? = some info := hget
    simp at hempty

end Cluster

end RealtimeEx.Master
