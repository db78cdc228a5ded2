import RealtimeEx.Core.NodeLink
import RealtimeEx.Core.ProtoSystemSize
import RealtimeEx.Master.ConnectionFromNode

/-!
# The announcement of nodes in clusters of any size

`addNode` sends one message with all other nodes to the node that registers, and one
message about that node to every other one.  Whether the messages arrive depends on
nothing but their sizes: what is longer than a packet is neither refused nor split.
-/

namespace RealtimeEx.Master

open Base RealtimeEx.Core

/-! ## What should arrive -/

/-- What a message about nodes should tell: the other registered nodes with all their
services, or the node that registers with all its services. -/
def Tells (r : CServiceRegistry) (sNodeBaseInfo : SNodeBaseInfo)
    (vecServiceBaseInfo : List SServiceBaseInfo) : SystemMessage → Prop
  | .syncAllNodeBaseInfo m => ∀ nNodeID info, m.mapNodeInfo[nNodeID]? = some info ↔
      nNodeID ≠ sNodeBaseInfo.nID ∧ ∃ proxy : SNodeProxyInfo,
        r.mapNodeProxyInfo[nNodeID]? = some proxy ∧
          info = ⟨proxy.sNodeBaseInfo, proxy.vecServiceBaseInfo⟩
  | .syncNodeBaseInfo m =>
      m.sNodeBaseInfo = sNodeBaseInfo ∧ m.vecServiceBaseInfo = vecServiceBaseInfo
  | _ => False

/-- The other side of the link gets one frame, whatever follows it, whose message id
selects the class of the message and from which `unpack` restores what it should tell. -/
structure Decodes (r : CServiceRegistry) (sNodeBaseInfo : SNodeBaseInfo)
    (vecServiceBaseInfo : List SServiceBaseInfo) (m : SystemMessage) (d : SocketData) :
    Prop where
  frame : messageScanner.Encodes d.wire d.frame
  messageID : leNat ((d.frame.data.drop 2).take 4) = m.header.nMessageID.toNat
  tells : ∀ init m₀, SystemMessage.Fresh m₀ m →
    Tells r sNodeBaseInfo vecServiceBaseInfo ((m₀.unpack init).run ⟨d.frame.data, 0⟩).1

/-- Nothing of the message is cut off: it is sent with all its bytes, and with the sizes of
all its containers.  It decodes, or nothing is sent at all. -/
structure Arrives (r : CServiceRegistry) (sNodeBaseInfo : SNodeBaseInfo)
    (vecServiceBaseInfo : List SServiceBaseInfo) (send : Send) (d : SocketData) : Prop where
  size : d.data.length = send.2.size
  counts : ∀ n ∈ send.2.counts, (UInt16.ofNat n).toNat = n
  outcome : Decodes r sNodeBaseInfo vecServiceBaseInfo send.2 d ∨ d.wire = []

/-- `pack` into the buffer of the master, and `CBaseConnectionMgr::send` of what the buffer
holds. -/
def packSend (send : Send) : StateM CWriteBuf SocketData := do
  send.2.pack
  let writeBuf ← get
  return { socketID := send.1, messageType := .system, data := writeBuf.written, extra := [] }

/-! ## The sizes of the messages -/

/-- The bytes of a node with its services. -/
def nodeInfoSize (sNodeBaseInfo : SNodeBaseInfo)
    (vecServiceBaseInfo : List SServiceBaseInfo) : ℕ :=
  22 + sNodeBaseInfo.szName.length + sNodeBaseInfo.szGroup.length +
    sNodeBaseInfo.szHost.length +
      (vecServiceBaseInfo.map fun s => 8 + s.szName.length + s.szType.length).sum

/-- The bytes of the message about one node. -/
def syncNodeSize (sNodeBaseInfo : SNodeBaseInfo)
    (vecServiceBaseInfo : List SServiceBaseInfo) : ℕ :=
  sizeofMessageHeader + nodeInfoSize sNodeBaseInfo vecServiceBaseInfo + 1

/-- The bytes of the message about all other nodes: each with its services, and the ids of
those to which the new node shall not connect. -/
def syncAllSize (r : CServiceRegistry) (sNodeProxyInfo : SNodeProxyInfo)
    (sNodeBaseInfo : SNodeBaseInfo) : ℕ :=
  sizeofMessageHeader +
    (2 + ((r.others sNodeBaseInfo.nID).map fun info =>
      nodeInfoSize info.sNodeBaseInfo info.vecServiceBaseInfo).sum) +
    (2 + 4 * ((r.others sNodeBaseInfo.nID).filter
      fun info => r.isExcludeConnectNode sNodeProxyInfo info).length)

/-- The other nodes alone take no more than the whole message. -/
theorem sum_le_syncAllSize (r : CServiceRegistry) (sNodeProxyInfo : SNodeProxyInfo)
    (sNodeBaseInfo : SNodeBaseInfo) :
    ((r.others sNodeBaseInfo.nID).map fun info =>
      nodeInfoSize info.sNodeBaseInfo info.vecServiceBaseInfo).sum ≤
        syncAllSize r sNodeProxyInfo sNodeBaseInfo := by
  unfold syncAllSize
  omega

/-- Both kinds of messages fit into a packet, as far as they are sent. -/
def AnnouncementsFit (r : CServiceRegistry) (sNodeProxyInfo : SNodeProxyInfo)
    (sNodeBaseInfo : SNodeBaseInfo) (vecServiceBaseInfo : List SServiceBaseInfo) : Prop :=
  syncAllSize r sNodeProxyInfo sNodeBaseInfo ≤ maxBody ∧
    ∀ other ∈ r.others sNodeBaseInfo.nID, other.nSocketID ≠ 0 →
      syncNodeSize sNodeBaseInfo vecServiceBaseInfo ≤ maxBody

theorem length_encodeNodeInfo (s : SNodeInfo) :
    (encodeNodeInfo s).length = nodeInfoSize s.sNodeBaseInfo s.vecServiceBaseInfo := by
  rw [encodeNodeInfo, List.length_append, length_encodeNodeBaseInfo, length_encodeAll,
    nodeInfoSize]
  simp only [length_encodeServiceBaseInfo]
  omega

namespace CServiceRegistry

variable {r r' : CServiceRegistry} {base : SNodeBaseInfo} {vec : List SServiceBaseInfo}
  {info : SNodeProxyInfo}

theorem size_syncNodeBaseInfo (r : CServiceRegistry) (info other : SNodeProxyInfo)
    (base : SNodeBaseInfo) (vec : List SServiceBaseInfo) :
    (SystemMessage.syncNodeBaseInfo (r.syncNodeBaseInfo info base vec other)).size =
      syncNodeSize base vec := by
  have hnode := length_encodeNodeInfo ⟨base, vec⟩
  rw [encodeNodeInfo, List.length_append] at hnode
  dsimp only at hnode
  simp only [SystemMessage.size, SystemMessage.fields, syncNodeBaseInfo, List.length_append,
    length_leBytes, syncNodeSize]
  omega

/-! ## The nodes of the registry -/

/-- Every node is filed under its own id. -/
def Filed (r : CServiceRegistry) : Prop :=
  ∀ nNodeID (info : SNodeProxyInfo), r.mapNodeProxyInfo[nNodeID]? = some info →
    info.sNodeBaseInfo.nID = nNodeID

theorem Filed.insert {n : UInt32} (h : r.Filed) (hinfo : info.sNodeBaseInfo.nID = n)
    (hmap : r'.mapNodeProxyInfo = r.mapNodeProxyInfo.insert n info) : r'.Filed := by
  intro k other hother
  rw [hmap, StdMap.getElem?_insert] at hother
  split at hother
  · rename_i hkey
    obtain rfl := Option.some.inj hother
    exact hinfo.trans hkey
  · exact h k other hother

theorem Filed.enter (h : r.Filed) (hinfo : info.sNodeBaseInfo.nID = base.nID)
    (vec : List SServiceBaseInfo) : (r.enter base.nID info vec).Filed :=
  h.insert hinfo (mapNodeProxyInfo_foldl_indexService _ _ _)

theorem filed_after (calls : List RegistryCall) : (after calls).Filed := by
  induction calls using List.reverseRecOn with
  | nil =>
      intro n info hinfo
      exact absurd hinfo (by simp [after])
  | append_singleton calls call ih =>
      rw [after_snoc]
      generalize hq : (after calls).exec call = q
      have hexec := exec_spec (after calls) call
      rw [hq] at hexec
      cases hexec with
      | refused => exact ih
      | again hold =>
          have hkey := ih _ _ hold
          exact ih.enter (by exact hkey) _
      | @new nSocketID base =>
          refine ih.enter ?_ _
          rfl
      | delUnknown => exact ih
      | del =>
          intro n info hinfo
          rw [StdMap.getElem?_erase] at hinfo
          split at hinfo
          · cases hinfo
          · exact ih n info hinfo
      | disconnectUnknown => exact ih
      | disconnect hold =>
          have hkey := ih _ _ hold
          exact ih.insert (by exact hkey) rfl

/-- The other nodes have different ids. -/
theorem Filed.nodup_others (h : r.Filed) (n : UInt32) :
    ((r.others n).map fun info => info.sNodeBaseInfo.nID).Nodup := by
  have hkeys : r.mapNodeProxyInfo.toList.Pairwise fun e e' =>
      e.2.sNodeBaseInfo.nID ≠ e'.2.sNodeBaseInfo.nID := by
    refine r.mapNodeProxyInfo.distinct_keys_toList.imp_of_mem ?_
    intro e e' he he' hne hsame
    rw [h _ _ (Std.ExtTreeMap.mem_toList_iff_getElem?_eq_some.mp he),
      h _ _ (Std.ExtTreeMap.mem_toList_iff_getElem?_eq_some.mp he')] at hsame
    rw [hsame] at hne
    exact hne Std.compare_self
  have hnodes : (r.mapNodeProxyInfo.toList.map Prod.snd).Pairwise fun info info' =>
      info.sNodeBaseInfo.nID ≠ info'.sNodeBaseInfo.nID := List.pairwise_map.mpr hkeys
  exact List.pairwise_map.mpr (hnodes.filter _)

theorem Filed.size_syncAllNodeBaseInfo (h : r.Filed) (info : SNodeProxyInfo)
    (base : SNodeBaseInfo) :
    (SystemMessage.syncAllNodeBaseInfo (r.syncAllNodeBaseInfo info base)).size =
      syncAllSize r info base := by
  have hnodes : (nodeInfos (r.syncAllNodeBaseInfo info base).mapNodeInfo).Perm
      ((r.others base.nID).map fun other =>
        ⟨other.sNodeBaseInfo, other.vecServiceBaseInfo⟩) := by
    have hperm := (StdMap.toList_foldl_insert_perm
      (fun other : SNodeProxyInfo =>
        (⟨other.sNodeBaseInfo, other.vecServiceBaseInfo⟩ : SNodeInfo))
      (h.nodup_others base.nID)).map Prod.snd
    rwa [List.map_map] at hperm
  have hexclude : (r.syncAllNodeBaseInfo info base).setExcludeConnectNodeID.toList.length =
      ((r.others base.nID).filter fun other => r.isExcludeConnectNode info other).length := by
    have hnodup := (h.nodup_others base.nID).sublist
      ((List.filter_sublist (p := fun other => r.isExcludeConnectNode info other)).map
        fun other => other.sNodeBaseInfo.nID)
    have hlength := StdSet.length_toList_foldl_insert hnodup
    rwa [List.foldl_map, List.length_map] at hlength
  have hsum : ((nodeInfos (r.syncAllNodeBaseInfo info base).mapNodeInfo).map
      fun s => (encodeNodeInfo s).length).sum =
        ((r.others base.nID).map fun other =>
          nodeInfoSize other.sNodeBaseInfo other.vecServiceBaseInfo).sum := by
    rw [(hnodes.map fun s => (encodeNodeInfo s).length).sum_nat, List.map_map]
    simp only [Function.comp_def, length_encodeNodeInfo]
  simp only [SystemMessage.size, SystemMessage.fields, List.length_append, length_encodeAll,
    hsum, length_leBytes, List.map_const', List.sum_replicate_nat, hexclude, syncAllSize]
  omega

/-! ## What the messages tell -/

theorem Filed.tells_syncAllNodeBaseInfo (h : r.Filed) (info : SNodeProxyInfo)
    (base : SNodeBaseInfo) (vec : List SServiceBaseInfo) :
    Tells r base vec (.syncAllNodeBaseInfo (r.syncAllNodeBaseInfo info base)) := by
  intro n node
  have hsame : ∀ other ∈ r.others base.nID, ∀ other' ∈ r.others base.nID,
      other.sNodeBaseInfo.nID = other'.sNodeBaseInfo.nID →
        (⟨other.sNodeBaseInfo, other.vecServiceBaseInfo⟩ : SNodeInfo) =
          ⟨other'.sNodeBaseInfo, other'.vecServiceBaseInfo⟩ := by
    intro other hother other' hother' hid
    obtain ⟨k, hget, -⟩ := mem_others.mp hother
    obtain ⟨k', hget', -⟩ := mem_others.mp hother'
    rw [h k other hget, h k' other' hget'] at hid
    rw [hid] at hget
    rw [Option.some.inj (hget.symm.trans hget')]
  refine (StdMap.getElem?_foldl_insert_eq_some hsame fun _ _ =>
    Std.ExtTreeMap.getElem?_empty).trans ?_
  constructor
  · rintro (hempty | ⟨other, hother, rfl, rfl⟩)
    · rw [Std.ExtTreeMap.getElem?_empty] at hempty
      cases hempty
    · obtain ⟨k, hget, hne⟩ := mem_others.mp hother
      refine ⟨hne, other, ?_, rfl⟩
      rw [h k other hget]
      exact hget
  · rintro ⟨hne, other, hget, rfl⟩
    have hid := h n other hget
    refine .inr ⟨other, mem_others.mpr ⟨n, hget, ?_⟩, hid, rfl⟩
    rw [hid]
    exact hne

/-- The nodes of the message are filed under their own ids. -/
theorem restorable_syncAllNodeBaseInfo (r : CServiceRegistry) (info : SNodeProxyInfo)
    (base : SNodeBaseInfo) :
    (SystemMessage.syncAllNodeBaseInfo (r.syncAllNodeBaseInfo info base)).Restorable := by
  intro n node hnode
  rcases StdMap.exists_of_getElem?_foldl_insert hnode with hempty | ⟨other, -, hid, rfl⟩
  · rw [Std.ExtTreeMap.getElem?_empty] at hempty
    cases hempty
  · exact hid

/-! ## The messages of a registration -/

/-- The entry of a node that registers: a node that is known keeps its entry. -/
def entry (r : CServiceRegistry) (nSocketID : UInt64) (sNodeBaseInfo : SNodeBaseInfo)
    (vecServiceBaseInfo : List SServiceBaseInfo)
    (setConnectServiceName setConnectServiceType : StdSet StdString) : SNodeProxyInfo :=
  match r.mapNodeProxyInfo[sNodeBaseInfo.nID]? with
  | some sNodeProxyInfo => { sNodeProxyInfo with nSocketID }
  | none =>
      { sNodeBaseInfo
        mapServiceBaseInfo := ∅
        vecServiceBaseInfo
        setConnectServiceName
        setConnectServiceType
        nSocketID }

variable {nSocketID : UInt64} {names types : StdSet StdString} {sends : List Send}

theorem addNode_eq_some
    (h : r.addNode nSocketID base vec names types = some (r', sends)) :
    r' = r.enter base.nID (r.entry nSocketID base vec names types) vec ∧
      sends = r'.announcements (r.entry nSocketID base vec names types) base vec := by
  unfold addNode at h
  unfold entry
  cases hinfo : r.mapNodeProxyInfo[base.nID]? with
  | some info =>
      rw [hinfo] at h
      dsimp only at h ⊢
      split at h
      · cases h
      · rw [announce_eq] at h
        obtain ⟨rfl, rfl⟩ := Prod.mk.inj (Option.some.inj h)
        exact ⟨rfl, rfl⟩
  | none =>
      rw [hinfo] at h
      dsimp only at h ⊢
      split at h
      · cases h
      · rw [announce_eq] at h
        obtain ⟨rfl, rfl⟩ := Prod.mk.inj (Option.some.inj h)
        exact ⟨rfl, rfl⟩

theorem Filed.entry (h : r.Filed) (nSocketID : UInt64) (base : SNodeBaseInfo)
    (vec : List SServiceBaseInfo) (names types : StdSet StdString) :
    (r.entry nSocketID base vec names types).sNodeBaseInfo.nID = base.nID := by
  unfold CServiceRegistry.entry
  split
  · rename_i info hinfo
    exact h base.nID info hinfo
  · rfl

end CServiceRegistry

/-! ## One message -/

section

variable {r : CServiceRegistry} {base : SNodeBaseInfo} {vec : List SServiceBaseInfo}
  {send : Send} {w : CWriteBuf}

/-- The message as it is handed to `CBaseConnectionMgr::send`. -/
def socketData (send : Send) (w : CWriteBuf) : SocketData where
  socketID := send.1
  messageType := .system
  data := send.2.packet w
  extra := []

theorem tells_withSize {m : SystemMessage} (h : Tells r base vec m) (n : ℕ) :
    Tells r base vec (m.withSize n) := by
  cases m with
  | syncAllNodeBaseInfo m => exact h
  | syncNodeBaseInfo m => exact h
  | _ => exact h.elim

theorem system_ne_client : MessageType.system ≠ .client := by decide

/-- The message id in a header. -/
theorem leNat_messageID (n : ℕ) (nMessageID : UInt32) (tail : List UInt8) :
    leNat (((messageHeader n nMessageID.toNat ++ tail).drop 2).take 4) = nMessageID.toNat := by
  have hlt : nMessageID.toNat < 256 ^ 4 := nMessageID.toNat_lt
  rw [messageHeader, List.append_assoc, List.drop_left' (length_leBytes 2 n),
    List.take_left' (length_leBytes 4 _),
    leNat_leBytes, Nat.mod_eq_of_lt hlt]

/-- A message that fits into a packet arrives. -/
theorem arrives_of_size_le (htells : Tells r base vec send.2) (hrestorable : send.2.Restorable)
    (hbuf : uint16Max ≤ w.bufSize) (hsize : send.2.size ≤ maxBody) :
    Arrives r base vec send (socketData send w) := by
  have hmax : send.2.size < uint16Max := Nat.lt_of_le_of_lt hsize (by decide)
  have hshort := SystemMessage.short_of_size_le (Nat.le_of_lt hmax)
  have hroom : send.2.size < w.bufSize := Nat.lt_of_lt_of_le hmax hbuf
  have hlength : (send.2.packet w).length = send.2.size := by
    rw [SystemMessage.length_packet hshort (Nat.le_of_lt hmax) (Nat.le_of_lt hroom),
      if_pos hroom]
  have hbody : (socketData send w).body = send.2.packet w := List.append_nil _
  refine ⟨hlength, fun n hn => SystemMessage.toNat_of_mem_counts (Nat.le_of_lt hmax) hn,
    .inl ⟨?_, ?_, ?_⟩⟩
  · refine encodes_wire system_ne_client ?_ ?_
    · rw [hbody, hlength]
      have hpos := send.2.length_fields_pos
      unfold SystemMessage.size
      omega
    · rw [hbody, hlength]
      exact hsize
  · show leNat (((socketData send w).body.drop 2).take 4) = _
    rw [hbody, SystemMessage.packet_eq hshort (Nat.le_of_lt hmax) hroom]
    exact leNat_messageID _ _ _
  · intro init m₀ hfresh
    show Tells r base vec ((m₀.unpack init).run ⟨(socketData send w).body, 0⟩).1
    rw [hbody, SystemMessage.unpack_packet init hfresh hshort (Nat.le_of_lt hmax) hroom,
      SystemMessage.received_eq_iff.mpr hrestorable]
    exact tells_withSize htells _

/-- A message that does not fit into a packet does not arrive. -/
theorem size_le_of_arrives (h : Arrives r base vec send (socketData send w)) :
    send.2.size ≤ maxBody := by
  by_contra hlarge
  have hlength : (send.2.packet w).length = send.2.size := h.size
  have hmax := send.2.length_packet_le w
  have hlt : maxBody < (send.2.packet w).length := by omega
  have hdrain := drain_wire_of_lt_length (d := socketData send w) [] system_ne_client rfl hlt
    hmax
  rcases h.outcome with hdecodes | hnothing
  · have hframe := messageScanner.drain_of_frame (hdecodes.frame [])
    rw [hdrain] at hframe
    cases hframe
  · rw [hnothing] at hdrain
    have hnone := messageScanner.drain_of_incomplete messageScanner.scan_nil
    cases hnone.symm.trans hdrain

/-- The buffer stays large enough from one message to the next. -/
theorem forall₂_packSend_iff {P : Send → SocketData → Prop} {Q : Send → Prop}
    {sends : List Send} (hbuf : uint16Max ≤ w.bufSize)
    (hone : ∀ send ∈ sends, ∀ w : CWriteBuf, uint16Max ≤ w.bufSize →
      (P send (socketData send w) ↔ Q send)) :
    List.Forall₂ P sends ((sends.mapM packSend).run w).1 ↔ ∀ send ∈ sends, Q send := by
  induction sends generalizing w with
  | nil => exact ⟨fun _ _ hmem => absurd hmem List.not_mem_nil, fun _ => List.Forall₂.nil⟩
  | cons send sends ih =>
      have hrun : (((send :: sends).mapM packSend).run w).1 =
          socketData send w :: ((sends.mapM packSend).run (send.2.pack.run w).2).1 := by
        rw [List.mapM_cons]
        rfl
      have hrest := ih (hbuf.trans (send.2.grows_pack w))
        fun send' hmem => hone send' (List.mem_cons_of_mem send hmem)
      rw [hrun, List.forall₂_cons, hone send List.mem_cons_self w hbuf, hrest,
        List.forall_mem_cons]

end

/-! ## Every registration -/

namespace CServiceRegistry

variable {r : CServiceRegistry} {base : SNodeBaseInfo} {vec : List SServiceBaseInfo}
  {info : SNodeProxyInfo}

/-- What is sent tells what it should, and is restored. -/
theorem Filed.announcements (h : r.Filed) {send : Send}
    (hsend : send ∈ r.announcements info base vec) :
    Tells r base vec send.2 ∧ send.2.Restorable := by
  rcases List.mem_cons.mp hsend with rfl | hsend
  · exact ⟨h.tells_syncAllNodeBaseInfo info base vec,
      restorable_syncAllNodeBaseInfo r info base⟩
  · obtain ⟨other, -, rfl⟩ := List.mem_map.mp hsend
    exact ⟨⟨rfl, rfl⟩, trivial⟩

/-- All messages fit when the two kinds of messages do. -/
theorem Filed.forall_size_le_iff (h : r.Filed) :
    (∀ send ∈ r.announcements info base vec, send.2.size ≤ maxBody) ↔
      AnnouncementsFit r info base vec := by
  unfold CServiceRegistry.announcements AnnouncementsFit
  rw [List.forall_mem_cons, h.size_syncAllNodeBaseInfo, List.forall_mem_map]
  refine and_congr_right fun _ => ?_
  constructor
  · intro hall other hother hsocket
    rw [← r.size_syncNodeBaseInfo info other base vec]
    exact hall other (List.mem_filter.mpr ⟨hother, by simpa using hsocket⟩)
  · intro hall other hother
    obtain ⟨hmem, hsocket⟩ := List.mem_filter.mp hother
    rw [r.size_syncNodeBaseInfo info other base vec]
    exact hall other hmem (by simpa using hsocket)

/-- The messages of a registration all arrive exactly when they fit. -/
theorem Filed.arrives_announcements_iff (h : r.Filed) {w : CWriteBuf}
    (hbuf : uint16Max ≤ w.bufSize) :
    List.Forall₂ (Arrives r base vec) (r.announcements info base vec)
        (((r.announcements info base vec).mapM packSend).run w).1 ↔
      AnnouncementsFit r info base vec := by
  rw [forall₂_packSend_iff hbuf fun send hsend w hbuf => ?_]
  · exact h.forall_size_le_iff
  · obtain ⟨htells, hrestorable⟩ := h.announcements hsend
    exact ⟨size_le_of_arrives, arrives_of_size_le htells hrestorable hbuf⟩

end CServiceRegistry

/-- Whatever is registered and whatever was packed before, the messages about a node that
registers all arrive exactly when they fit into packets. -/
theorem forall₂_arrives_iff (calls : List RegistryCall) (packed : List SystemMessage)
    {nSocketID : UInt64} {base : SNodeBaseInfo} {vec : List SServiceBaseInfo}
    {names types : StdSet StdString} {r' : CServiceRegistry} {sends : List Send}
    (hadd : (CServiceRegistry.after calls).addNode nSocketID base vec names types =
      some (r', sends)) :
    List.Forall₂ (Arrives r' base vec) sends
        ((sends.mapM packSend).run (bufferAfter packed)).1 ↔
      AnnouncementsFit
        ((CServiceRegistry.after calls).enter base.nID
          ((CServiceRegistry.after calls).entry nSocketID base vec names types) vec)
        ((CServiceRegistry.after calls).entry nSocketID base vec names types) base vec := by
  have hfiled := CServiceRegistry.filed_after calls
  obtain ⟨rfl, rfl⟩ := CServiceRegistry.addNode_eq_some hadd
  have hfiled' := hfiled.enter (hfiled.entry nSocketID base vec names types) vec
  exact hfiled'.arrives_announcements_iff (le_bufSize_bufferAfter packed)

/-! ## Two nodes with long names -/

/-- A node without services whose name has forty thousand letters. -/
def longNode (nID : UInt32) : SNodeBaseInfo where
  nID := nID
  szName := List.replicate 40000 97
  szGroup := []
  szHost := []
  nPort := 0
  nRecvBufSize := 0
  nSendBufSize := 0

/-- Such a node can register, and the first one that does hears that it is alone. -/
theorem forall₂_arrives_longNode :
    ∃ r' sends, (CServiceRegistry.after []).addNode 1 (longNode 1) [] ∅ ∅ = some (r', sends) ∧
      List.Forall₂ (Arrives r' (longNode 1) []) sends
        ((sends.mapM packSend).run (bufferAfter [])).1 := by
  refine ⟨_, _, rfl, (forall₂_arrives_iff [] [] rfl).mpr ⟨?_, ?_⟩⟩
  · decide
  · decide

/-- Two such nodes have registered. -/
def longNodeCalls : List RegistryCall :=
  [.addNode 1 (longNode 1) [] ∅ ∅, .addNode 2 (longNode 2) [] ∅ ∅]

/-- The entry of such a node. -/
def longNodeEntry (nID : UInt32) (nSocketID : UInt64) : SNodeProxyInfo where
  sNodeBaseInfo := longNode nID
  mapServiceBaseInfo := ∅
  vecServiceBaseInfo := []
  setConnectServiceName := ∅
  setConnectServiceType := ∅
  nSocketID := nSocketID

theorem nodeInfoSize_longNode (nID : UInt32) : nodeInfoSize (longNode nID) [] = 40022 := by
  show 22 + (List.replicate 40000 (97 : UInt8)).length + 0 + 0 + 0 = 40022
  rw [List.length_replicate]

/-- The third node does not hear of the first two. -/
theorem not_forall₂_arrives_longNode :
    ∃ r' sends, (CServiceRegistry.after longNodeCalls).addNode 3 (longNode 3) [] ∅ ∅ =
        some (r', sends) ∧
      ¬ List.Forall₂ (Arrives r' (longNode 3) []) sends
        ((sends.mapM packSend).run (bufferAfter [])).1 := by
  have hfiled := CServiceRegistry.filed_after longNodeCalls
  have hfiled' := hfiled.enter (hfiled.entry 3 (longNode 3) [] ∅ ∅) []
  refine ⟨_, _, rfl, fun hall => ?_⟩
  have hsize := ((hfiled'.arrives_announcements_iff (le_bufSize_bufferAfter [])).mp hall).1
  have hothers : ((CServiceRegistry.after longNodeCalls).enter (longNode 3).nID
      ((CServiceRegistry.after longNodeCalls).entry 3 (longNode 3) [] ∅ ∅) []).others
        (longNode 3).nID = [longNodeEntry 1 1, longNodeEntry 2 2] := rfl
  have hsum : ([longNodeEntry 1 1, longNodeEntry 2 2].map fun info =>
      nodeInfoSize info.sNodeBaseInfo info.vecServiceBaseInfo).sum = 80044 := by
    simp only [List.map_cons, List.map_nil, List.sum_cons, List.sum_nil, longNodeEntry,
      nodeInfoSize_longNode, Nat.reduceAdd]
  have hlarge : 80044 ≤ maxBody := by
    rw [← hsum, ← hothers]
    exact (sum_le_syncAllSize _ _ _).trans hsize
  exact absurd hlarge (by decide)

end RealtimeEx.Master
