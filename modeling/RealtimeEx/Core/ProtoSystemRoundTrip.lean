import RealtimeEx.Core.ProtoSystem

/-!
# Unpacking what was packed

The layout of a system message is stated once; `pack` writes it and `unpack`
reads it, field by field.  What comes out is `received`: the registration
message loses the connect types, which end up among the names, and the nodes of
a `smt_sync_all_node_base_info` are filed under their own ids.
-/

namespace RealtimeEx.Core

open Base Base.CReadBuf Base.CWriteBuf

/-! ## Layout -/

def encodeNodeBaseInfo (s : SNodeBaseInfo) : List UInt8 :=
  leBytes 4 s.nID.toNat ++ (encodeString s.szName ++ (encodeString s.szGroup ++
    (encodeString s.szHost ++ (leBytes 2 s.nPort.toNat ++
      (leBytes 4 s.nRecvBufSize.toNat ++ leBytes 4 s.nSendBufSize.toNat)))))

def encodeServiceBaseInfo (s : SServiceBaseInfo) : List UInt8 :=
  leBytes 4 s.nID.toNat ++ (encodeString s.szName ++ encodeString s.szType)

/-- A container behind its size. -/
def encodeAll {α : Type} (encode : α → List UInt8) (values : List α) :
    List UInt8 :=
  leBytes 2 values.length ++ values.flatMap encode

def encodeNodeInfo (s : SNodeInfo) : List UInt8 :=
  encodeNodeBaseInfo s.sNodeBaseInfo ++
    encodeAll encodeServiceBaseInfo s.vecServiceBaseInfo

/-- The nodes of a map in the order in which they are packed. -/
def nodeInfos (mapNodeInfo : StdMap UInt32 SNodeInfo) : List SNodeInfo :=
  mapNodeInfo.toList.map Prod.snd

namespace SystemMessage

/-- What follows the header. -/
def fields : SystemMessage → List UInt8
  | registerNodeBaseInfo m =>
      encodeNodeBaseInfo m.sNodeBaseInfo ++
        (encodeAll encodeServiceBaseInfo m.vecServiceBaseInfo ++
          (encodeAll encodeString m.setConnectServiceName.toList ++
            encodeAll encodeString m.setConnectServiceType.toList))
  | unregisterNodeBaseInfo m => encodeString m.szName
  | syncMasterInfo m => leBytes 4 m.nMasterID.toNat
  | syncNodeBaseInfo m =>
      encodeNodeBaseInfo m.sNodeBaseInfo ++
        (encodeAll encodeServiceBaseInfo m.vecServiceBaseInfo ++
          leBytes 1 m.bExcludeConnect.toNat)
  | syncAllNodeBaseInfo m =>
      encodeAll encodeNodeInfo (nodeInfos m.mapNodeInfo) ++
        encodeAll (fun n : UInt32 => leBytes 4 n.toNat)
          m.setExcludeConnectNodeID.toList
  | removeNodeBaseInfo m => leBytes 4 m.nNodeID.toNat
  | nodeHandshakeRequest m => leBytes 4 m.nNodeID.toNat
  | nodeHandshakeResponse m => leBytes 4 m.nNodeID.toNat

/-- The total size of the message. -/
def size (m : SystemMessage) : ℕ := sizeofMessageHeader + m.fields.length

end SystemMessage

/-! ## Limits -/

/-- The strings fit into their length fields. -/
def SNodeBaseInfo.Short (s : SNodeBaseInfo) : Prop :=
  s.szName.length < uint16Max ∧ s.szGroup.length < uint16Max ∧
    s.szHost.length < uint16Max

/-- The strings fit into their length fields. -/
def SServiceBaseInfo.Short (s : SServiceBaseInfo) : Prop :=
  s.szName.length < uint16Max ∧ s.szType.length < uint16Max

/-- At most `UINT16_MAX` elements, each of which is short. -/
def AllShort {α : Type} (Short : α → Prop) (values : List α) : Prop :=
  values.length ≤ uint16Max ∧ ∀ v ∈ values, Short v

/-- The strings and the vector of a node are short. -/
def SNodeInfo.Short (s : SNodeInfo) : Prop :=
  s.sNodeBaseInfo.Short ∧ AllShort SServiceBaseInfo.Short s.vecServiceBaseInfo

/-- All strings are shorter than `UINT16_MAX` bytes, and every container has at
most `UINT16_MAX` elements. -/
def SystemMessage.Short : SystemMessage → Prop
  | registerNodeBaseInfo m =>
      m.sNodeBaseInfo.Short ∧
        AllShort SServiceBaseInfo.Short m.vecServiceBaseInfo ∧
        AllShort (fun s : StdString => s.length < uint16Max)
          m.setConnectServiceName.toList ∧
        AllShort (fun s : StdString => s.length < uint16Max)
          m.setConnectServiceType.toList
  | unregisterNodeBaseInfo m => m.szName.length < uint16Max
  | syncNodeBaseInfo m =>
      m.sNodeBaseInfo.Short ∧
        AllShort SServiceBaseInfo.Short m.vecServiceBaseInfo
  | syncAllNodeBaseInfo m =>
      AllShort SNodeInfo.Short (nodeInfos m.mapNodeInfo) ∧
        m.setExcludeConnectNodeID.toList.length ≤ uint16Max
  | _ => True

/-! ## Reading the layout -/

theorem toNat_count {n : ℕ} (hn : n ≤ uint16Max) : (UInt16.ofNat n).toNat = n := by
  simp only [uint16Max] at hn
  rw [UInt16.toNat_ofNat', Nat.mod_eq_of_lt (by omega)]

theorem reads_readCount {n : ℕ} (hn : n ≤ uint16Max) (val : UInt16) :
    Reads (readUInt16 val) (leBytes 2 n) (UInt16.ofNat n) := by
  have h := reads_readUInt16 val (UInt16.ofNat n)
  rwa [toNat_count hn] at h

theorem reads_unpackNodeBaseInfo (old : SNodeBaseInfo) {s : SNodeBaseInfo}
    (hs : s.Short) : Reads (unpackNodeBaseInfo old) (encodeNodeBaseInfo s) s := by
  obtain ⟨hname, hgroup, hhost⟩ := hs
  refine (reads_readUInt32 _ s.nID).bind ?_
  refine (reads_readString _ _ hname).bind ?_
  refine (reads_readString _ _ hgroup).bind ?_
  refine (reads_readString _ _ hhost).bind ?_
  refine (reads_readUInt16 _ s.nPort).bind ?_
  refine (reads_readUInt32 _ s.nRecvBufSize).bind ?_
  exact (reads_readUInt32 _ s.nSendBufSize).bind_pure _

theorem reads_unpackServiceBaseInfo (old : SServiceBaseInfo) {s : SServiceBaseInfo}
    (hs : s.Short) :
    Reads (unpackServiceBaseInfo old) (encodeServiceBaseInfo s) s := by
  obtain ⟨hname, htype⟩ := hs
  refine (reads_readUInt32 _ s.nID).bind ?_
  refine (reads_readString _ _ hname).bind ?_
  exact (reads_readString _ _ htype).bind_pure _

theorem length_resize {α : Type} [Inhabited α] (n : ℕ) (vec : List α) :
    (resize n vec).length = n := by
  simp only [resize, List.length_take, List.length_append, List.length_replicate]
  omega

theorem reads_unpackServices (old : List SServiceBaseInfo)
    {vec : List SServiceBaseInfo} (hvec : AllShort SServiceBaseInfo.Short vec) :
    Reads (unpackServices old) (encodeAll encodeServiceBaseInfo vec) vec := by
  refine (reads_readCount hvec.1 0).bind ?_
  rw [toNat_count hvec.1]
  refine Reads.mapM (List.forall₂_iff_get.mpr ⟨length_resize _ _, ?_⟩)
  intro i _ hi
  exact reads_unpackServiceBaseInfo _ (hvec.2 _ (List.get_mem vec ⟨i, hi⟩))

theorem reads_unpackSet {α : Type} [Ord α] [Std.TransOrd α] [Std.LawfulEqOrd α]
    {unpackOne : α → StateM CReadBuf α} {encode : α → List UInt8} {init : α}
    {set values : StdSet α} (hcount : values.toList.length ≤ uint16Max)
    (hone : ∀ v ∈ values.toList, Reads (unpackOne init) (encode v) v) :
    Reads (unpackSet unpackOne init set) (encodeAll encode values.toList)
      (set ∪ values) := by
  refine (reads_readCount hcount 0).bind ?_
  rw [toNat_count hcount, ← StdSet.foldl_insert_toList]
  exact Reads.repeatM (fun set v hv => (hone v hv).bind_pure _) _

theorem reads_unpackNodeInfos (init : SNodeInfo) (old : StdMap UInt32 SNodeInfo)
    {infos : List SNodeInfo} (hinfos : AllShort SNodeInfo.Short infos) :
    Reads (unpackNodeInfos init old) (encodeAll encodeNodeInfo infos)
      (infos.foldl (fun m info => m.insert info.sNodeBaseInfo.nID info) old) := by
  refine (reads_readCount hinfos.1 0).bind ?_
  rw [toNat_count hinfos.1]
  refine Reads.repeatM (fun m info hinfo => ?_) _
  obtain ⟨hbase, hservices⟩ := hinfos.2 info hinfo
  refine (reads_unpackNodeBaseInfo _ hbase).bind ?_
  exact (reads_unpackServices _ hservices).bind_pure _

theorem reads_unpackBegin (old : MessageHeader) {n : ℕ} (hn : n ≤ uint16Max)
    (nMessageID : UInt32) :
    Reads (unpackBegin old) (messageHeader n nMessageID.toNat)
      { nMessageSize := UInt16.ofNat n, nMessageID } := by
  have h := reads_read
    (fun bytes => ({ nMessageSize := UInt16.ofNat (leNat (bytes.take 2))
                     nMessageID := UInt32.ofNat (leNat (bytes.drop 2)) } : MessageHeader))
    (messageHeader n nMessageID.toNat) old
  have htake : (messageHeader n nMessageID.toNat).take 2 = leBytes 2 n :=
    List.take_left' (length_leBytes 2 n)
  have hdrop : (messageHeader n nMessageID.toNat).drop 2 =
      leBytes 4 nMessageID.toNat := List.drop_left' (length_leBytes 2 n)
  have hsize : leNat (leBytes 2 n) = n := by
    rw [leNat_leBytes, Nat.mod_eq_of_lt]
    simp only [uint16Max] at hn
    omega
  have hlt : nMessageID.toNat < 256 ^ 4 := nMessageID.toNat_lt
  have hid : leNat (leBytes 4 nMessageID.toNat) = nMessageID.toNat := by
    rw [leNat_leBytes, Nat.mod_eq_of_lt hlt]
  rw [htake, hdrop, hsize, hid, UInt32.ofNat_toNat] at h
  exact h

/-! ## Writing the layout -/

theorem writes_writeCount {n : ℕ} (hn : n ≤ uint16Max) :
    Writes output (writeUInt16 (UInt16.ofNat n)) (leBytes 2 n) := by
  have h := writes_write (leBytes 2 (UInt16.ofNat n).toNat)
  rw [toNat_count hn] at h
  rwa [writeUInt16, toNat_count hn]

theorem writes_packNodeBaseInfo {s : SNodeBaseInfo} (hs : s.Short) :
    Writes output (packNodeBaseInfo s) (encodeNodeBaseInfo s) := by
  obtain ⟨hname, hgroup, hhost⟩ := hs
  refine (writes_write _).bind ?_
  refine (writes_writeString hname).bind ?_
  refine (writes_writeString hgroup).bind ?_
  refine (writes_writeString hhost).bind ?_
  refine (writes_write _).bind ?_
  exact (writes_write _).bind (writes_write _)

theorem writes_packServiceBaseInfo {s : SServiceBaseInfo} (hs : s.Short) :
    Writes output (packServiceBaseInfo s) (encodeServiceBaseInfo s) := by
  obtain ⟨hname, htype⟩ := hs
  refine (writes_write _).bind ?_
  exact (writes_writeString hname).bind (writes_writeString htype)

theorem writes_packServices {vec : List SServiceBaseInfo}
    (hvec : AllShort SServiceBaseInfo.Short vec) :
    Writes output (packServices vec) (encodeAll encodeServiceBaseInfo vec) := by
  refine (writes_writeCount hvec.1).bind ?_
  rw [toNat_count hvec.1, List.take_length]
  exact Writes.forM fun s hs => writes_packServiceBaseInfo (hvec.2 s hs)

theorem writes_packAll {α : Type} {packOne : α → StateM CWriteBuf Unit}
    {encode : α → List UInt8} {values : List α} (hcount : values.length ≤ uint16Max)
    (hone : ∀ v ∈ values, Writes output (packOne v) (encode v)) :
    Writes output (packAll packOne values) (encodeAll encode values) :=
  (writes_writeCount hcount).bind (Writes.forM hone)

theorem writes_packNodeInfo {s : SNodeInfo} (hs : s.Short) :
    Writes output (packNodeInfo s) (encodeNodeInfo s) :=
  (writes_packNodeBaseInfo hs.1).bind (writes_packServices hs.2)

/-- `packEnd` overwrites the front of what was written.  In a buffer that is
exactly full the position cannot go back to the end. -/
theorem written_packEnd {w : CWriteBuf} (htwo : 2 ≤ w.curPos)
    (hmax : w.curPos ≤ uint16Max) :
    (packEnd.run w).2.written =
      (leBytes 2 w.curPos ++ w.written.drop 2).take
        (if w.curPos < w.bufSize then w.curPos else w.curPos - 1) := by
  have hrun : (packEnd.run w).2 =
      seekBegin w.curPos (put (leBytes 2 w.curPos) w.clear) := by
    rw [← seekBegin_zero]
    show seekBegin (UInt16.ofNat w.curPos).toNat
      (put (leBytes 2 (UInt16.ofNat w.curPos).toNat) (seekBegin 0 w)) = _
    rw [toNat_count hmax]
  have hle : w.curPos ≤ w.bufSize := w.curPos_le
  have hsize : (put (leBytes 2 w.curPos) w.clear).bufSize = w.bufSize := by
    rw [bufSize_put, bufSize_clear, length_leBytes]
    exact Nat.max_eq_left (show 0 + 2 ≤ w.bufSize by omega)
  have hbuf : (put (leBytes 2 w.curPos) w.clear).buf =
      leBytes 2 w.curPos ++ w.buf.drop 2 := by
    show w.clear.written ++ leBytes 2 w.curPos ++
      w.buf.drop (0 + (leBytes 2 w.curPos).length) = _
    rw [written_clear, length_leBytes, Nat.zero_add, List.nil_append]
  have hpos : (seekBegin w.curPos (put (leBytes 2 w.curPos) w.clear)).curPos =
      if w.curPos < w.bufSize then w.curPos else w.curPos - 1 := by
    show (if (put (leBytes 2 w.curPos) w.clear).bufSize ≤ w.curPos then
      (put (leBytes 2 w.curPos) w.clear).bufSize - 1 else w.curPos) = _
    rw [hsize]
    split <;> split <;> omega
  rw [hrun, CWriteBuf.written, hpos]
  show (put (leBytes 2 w.curPos) w.clear).buf.take _ = _
  rw [hbuf, CWriteBuf.written, List.drop_take, List.take_append, List.take_append,
    List.take_take]
  congr 2
  rw [length_leBytes]
  split <;> omega

/-- What `pack` leaves in the buffer: the whole message, or all but its last
byte when the buffer is exactly full. -/
theorem written_packMessage {header : MessageHeader}
    {packFields : StateM CWriteBuf Unit} {bs : List UInt8} {w : CWriteBuf}
    (hfields : Writes output packFields bs)
    (hmax : sizeofMessageHeader + bs.length ≤ uint16Max)
    (hsize : sizeofMessageHeader + bs.length ≤ w.bufSize) :
    ((packMessage header packFields).run w).2.written =
      (messageHeader (sizeofMessageHeader + bs.length) header.nMessageID.toNat ++
        bs).take
        (if sizeofMessageHeader + bs.length < w.bufSize then
          sizeofMessageHeader + bs.length
        else sizeofMessageHeader + bs.length - 1) := by
  let header' := messageHeader header.nMessageSize.toNat header.nMessageID.toNat
  let w' := (packFields.run ((write header').run w.clear).2).2
  have hbody : Writes output (write header' >>= fun _ => packFields) (header' ++ bs) :=
    (writes_write header').bind hfields
  obtain ⟨hwritten, hcapacity⟩ := hbody w.clear
  have hlen : (header' ++ bs).length = sizeofMessageHeader + bs.length := by
    simp [header']
  have hwritten' : w'.written = header' ++ bs := hwritten
  have hpos : w'.curPos = sizeofMessageHeader + bs.length := by
    rw [← length_written, hwritten', hlen]
  have hbuf : w'.bufSize = w.bufSize := by
    have hcap : w'.bufSize = max w.bufSize (0 + (header' ++ bs).length) := hcapacity
    rw [hcap, hlen]
    omega
  have hdrop : (header' ++ bs).drop 2 = leBytes 4 header.nMessageID.toNat ++ bs := by
    simp [header', messageHeader, List.append_assoc]
  have hrun : ((packMessage header packFields).run w).2 = (packEnd.run w').2 := rfl
  rw [hrun, written_packEnd (by rw [hpos]; simp only [sizeofMessageHeader]; omega)
    (by rw [hpos]; exact hmax), hpos, hbuf, hwritten', hdrop,
    messageHeader, List.append_assoc]

namespace SystemMessage

/-- Every `pack` writes the fields of its message. -/
theorem written_pack {m : SystemMessage} {w : CWriteBuf} (hshort : m.Short)
    (hmax : m.size ≤ uint16Max) (hsize : m.size ≤ w.bufSize) :
    m.packet w =
      (messageHeader m.size m.header.nMessageID.toNat ++ m.fields).take
        (if m.size < w.bufSize then m.size else m.size - 1) := by
  cases m with
  | registerNodeBaseInfo m =>
      obtain ⟨hbase, hservices, hnames, htypes⟩ := hshort
      refine written_packMessage ?_ hmax hsize
      refine (writes_packNodeBaseInfo hbase).bind ?_
      refine (writes_packServices hservices).bind ?_
      refine (writes_packAll hnames.1 fun s hs => writes_writeString (hnames.2 s hs)).bind ?_
      exact writes_packAll htypes.1 fun s hs => writes_writeString (htypes.2 s hs)
  | unregisterNodeBaseInfo m =>
      exact written_packMessage (writes_writeString hshort) hmax hsize
  | syncMasterInfo m => exact written_packMessage (writes_write _) hmax hsize
  | syncNodeBaseInfo m =>
      obtain ⟨hbase, hservices⟩ := hshort
      refine written_packMessage ?_ hmax hsize
      refine (writes_packNodeBaseInfo hbase).bind ?_
      exact (writes_packServices hservices).bind (writes_write _)
  | syncAllNodeBaseInfo m =>
      obtain ⟨hinfos, hexclude⟩ := hshort
      refine written_packMessage ?_ hmax hsize
      refine (writes_packAll hinfos.1 fun s hs => writes_packNodeInfo (hinfos.2 s hs)).bind ?_
      exact writes_packAll hexclude fun _ _ => writes_write _
  | removeNodeBaseInfo m => exact written_packMessage (writes_write _) hmax hsize
  | nodeHandshakeRequest m => exact written_packMessage (writes_write _) hmax hsize
  | nodeHandshakeResponse m => exact written_packMessage (writes_write _) hmax hsize

/-! ## What is received -/

/-- The message as `unpack` restores it. -/
def received : SystemMessage → SystemMessage
  | registerNodeBaseInfo m =>
      registerNodeBaseInfo
        { m with
          setConnectServiceName := m.setConnectServiceName ∪ m.setConnectServiceType
          setConnectServiceType := ∅ }
  | syncAllNodeBaseInfo m =>
      syncAllNodeBaseInfo
        { m with
          mapNodeInfo := (nodeInfos m.mapNodeInfo).foldl
            (fun map info => map.insert info.sNodeBaseInfo.nID info) ∅ }
  | m => m

/-- The message with the given size in its header. -/
def withSize (n : ℕ) : SystemMessage → SystemMessage
  | registerNodeBaseInfo m =>
      registerNodeBaseInfo { m with nMessageSize := UInt16.ofNat n }
  | unregisterNodeBaseInfo m =>
      unregisterNodeBaseInfo { m with nMessageSize := UInt16.ofNat n }
  | syncMasterInfo m => syncMasterInfo { m with nMessageSize := UInt16.ofNat n }
  | syncNodeBaseInfo m => syncNodeBaseInfo { m with nMessageSize := UInt16.ofNat n }
  | syncAllNodeBaseInfo m =>
      syncAllNodeBaseInfo { m with nMessageSize := UInt16.ofNat n }
  | removeNodeBaseInfo m =>
      removeNodeBaseInfo { m with nMessageSize := UInt16.ofNat n }
  | nodeHandshakeRequest m =>
      nodeHandshakeRequest { m with nMessageSize := UInt16.ofNat n }
  | nodeHandshakeResponse m =>
      nodeHandshakeResponse { m with nMessageSize := UInt16.ofNat n }

/-- `m₀` is an object of the class of `m` as its constructor leaves it: sets
and maps are empty, everything else is arbitrary. -/
inductive Fresh : SystemMessage → SystemMessage → Prop
  | registerNodeBaseInfo {m₀ m : SmtRegisterNodeBaseInfo}
      (hnames : m₀.setConnectServiceName = ∅)
      (htypes : m₀.setConnectServiceType = ∅) :
      Fresh (registerNodeBaseInfo m₀) (registerNodeBaseInfo m)
  | unregisterNodeBaseInfo (m₀ m : SmtUnregisterNodeBaseInfo) :
      Fresh (unregisterNodeBaseInfo m₀) (unregisterNodeBaseInfo m)
  | syncMasterInfo (m₀ m : SmtSyncMasterInfo) :
      Fresh (syncMasterInfo m₀) (syncMasterInfo m)
  | syncNodeBaseInfo (m₀ m : SmtSyncNodeBaseInfo) :
      Fresh (syncNodeBaseInfo m₀) (syncNodeBaseInfo m)
  | syncAllNodeBaseInfo {m₀ m : SmtSyncAllNodeBaseInfo}
      (hmap : m₀.mapNodeInfo = ∅) (hexclude : m₀.setExcludeConnectNodeID = ∅) :
      Fresh (syncAllNodeBaseInfo m₀) (syncAllNodeBaseInfo m)
  | removeNodeBaseInfo (m₀ m : SmtRemoveNodeBaseInfo) :
      Fresh (removeNodeBaseInfo m₀) (removeNodeBaseInfo m)
  | nodeHandshakeRequest (m₀ m : SmtNodeHandshakeRequest) :
      Fresh (nodeHandshakeRequest m₀) (nodeHandshakeRequest m)
  | nodeHandshakeResponse (m₀ m : SmtNodeHandshakeResponse) :
      Fresh (nodeHandshakeResponse m₀) (nodeHandshakeResponse m)

/-- Every message can be unpacked into a fresh object. -/
theorem exists_fresh (m : SystemMessage) : ∃ m₀, Fresh m₀ m := by
  cases m with
  | registerNodeBaseInfo m =>
      exact ⟨SystemMessage.registerNodeBaseInfo
        { m with setConnectServiceName := ∅, setConnectServiceType := ∅ },
        .registerNodeBaseInfo rfl rfl⟩
  | unregisterNodeBaseInfo m => exact ⟨_, .unregisterNodeBaseInfo m m⟩
  | syncMasterInfo m => exact ⟨_, .syncMasterInfo m m⟩
  | syncNodeBaseInfo m => exact ⟨_, .syncNodeBaseInfo m m⟩
  | syncAllNodeBaseInfo m =>
      exact ⟨SystemMessage.syncAllNodeBaseInfo
        { m with mapNodeInfo := ∅, setExcludeConnectNodeID := ∅ },
        .syncAllNodeBaseInfo rfl rfl⟩
  | removeNodeBaseInfo m => exact ⟨_, .removeNodeBaseInfo m m⟩
  | nodeHandshakeRequest m => exact ⟨_, .nodeHandshakeRequest m m⟩
  | nodeHandshakeResponse m => exact ⟨_, .nodeHandshakeResponse m m⟩

theorem reads_unpackRegister (m₀ : SmtRegisterNodeBaseInfo)
    {m : SmtRegisterNodeBaseInfo} {n : ℕ}
    (hshort : (registerNodeBaseInfo m).Short) (hn : n ≤ uint16Max) :
    Reads m₀.unpack
      (messageHeader n m.nMessageID.toNat ++ (registerNodeBaseInfo m).fields)
      { m with
        nMessageSize := UInt16.ofNat n
        setConnectServiceName := m₀.setConnectServiceName ∪
          m.setConnectServiceName ∪ m.setConnectServiceType
        setConnectServiceType := m₀.setConnectServiceType } := by
  obtain ⟨hbase, hservices, hnames, htypes⟩ := hshort
  refine (reads_unpackBegin _ hn m.nMessageID).bind ?_
  refine (reads_unpackNodeBaseInfo _ hbase).bind ?_
  refine (reads_unpackServices _ hservices).bind ?_
  refine (reads_unpackSet hnames.1 fun s hs =>
    reads_readString [] s (hnames.2 s hs)).bind ?_
  exact (reads_unpackSet htypes.1 fun s hs =>
    reads_readString [] s (htypes.2 s hs)).bind_pure _

theorem reads_unpackSyncAll (init : SNodeInfo) (m₀ : SmtSyncAllNodeBaseInfo)
    {m : SmtSyncAllNodeBaseInfo} {n : ℕ}
    (hshort : (syncAllNodeBaseInfo m).Short) (hn : n ≤ uint16Max) :
    Reads (m₀.unpack init)
      (messageHeader n m.nMessageID.toNat ++ (syncAllNodeBaseInfo m).fields)
      { m with
        nMessageSize := UInt16.ofNat n
        mapNodeInfo := (nodeInfos m.mapNodeInfo).foldl
          (fun map info => map.insert info.sNodeBaseInfo.nID info) m₀.mapNodeInfo
        setExcludeConnectNodeID := m₀.setExcludeConnectNodeID ∪
          m.setExcludeConnectNodeID } := by
  obtain ⟨hinfos, hexclude⟩ := hshort
  refine (reads_unpackBegin _ hn m.nMessageID).bind ?_
  refine (reads_unpackNodeInfos init _ hinfos).bind ?_
  exact (reads_unpackSet hexclude fun id _ => reads_readUInt32 0 id).bind_pure _

/-- Every `unpack` reads the fields of its message. -/
theorem reads_unpack (init : SNodeInfo) {m₀ m : SystemMessage} {n : ℕ}
    (hfresh : Fresh m₀ m) (hshort : m.Short) (hn : n ≤ uint16Max) :
    Reads (m₀.unpack init)
      (messageHeader n m.header.nMessageID.toNat ++ m.fields)
      (m.received.withSize n) := by
  cases hfresh with
  | @registerNodeBaseInfo m₀ m hnames htypes =>
      have hread := (reads_unpackRegister m₀ hshort hn).map registerNodeBaseInfo
      rw [hnames, htypes, StdSet.empty_union] at hread
      exact hread
  | unregisterNodeBaseInfo m₀ m =>
      exact ((reads_unpackBegin _ hn m.nMessageID).bind
        ((reads_readString _ _ hshort).bind_pure _)).map unregisterNodeBaseInfo
  | syncMasterInfo m₀ m =>
      exact ((reads_unpackBegin _ hn m.nMessageID).bind
        ((reads_readUInt32 _ m.nMasterID).bind_pure _)).map syncMasterInfo
  | syncNodeBaseInfo m₀ m =>
      obtain ⟨hbase, hservices⟩ := hshort
      refine Reads.map syncNodeBaseInfo ?_
      refine (reads_unpackBegin _ hn m.nMessageID).bind ?_
      refine (reads_unpackNodeBaseInfo _ hbase).bind ?_
      refine (reads_unpackServices _ hservices).bind ?_
      exact (reads_readUInt8 _ m.bExcludeConnect).bind_pure _
  | @syncAllNodeBaseInfo m₀ m hmap hexclude =>
      have hread := (reads_unpackSyncAll init m₀ hshort hn).map syncAllNodeBaseInfo
      rw [hmap, hexclude, StdSet.empty_union] at hread
      exact hread
  | removeNodeBaseInfo m₀ m =>
      exact ((reads_unpackBegin _ hn m.nMessageID).bind
        ((reads_readUInt32 _ m.nNodeID).bind_pure _)).map removeNodeBaseInfo
  | nodeHandshakeRequest m₀ m =>
      exact ((reads_unpackBegin _ hn m.nMessageID).bind
        ((reads_readUInt32 _ m.nNodeID).bind_pure _)).map nodeHandshakeRequest
  | nodeHandshakeResponse m₀ m =>
      exact ((reads_unpackBegin _ hn m.nMessageID).bind
        ((reads_readUInt32 _ m.nNodeID).bind_pure _)).map nodeHandshakeResponse

theorem length_packet {m : SystemMessage} {w : CWriteBuf} (hshort : m.Short)
    (hmax : m.size ≤ uint16Max) (hsize : m.size ≤ w.bufSize) :
    (m.packet w).length = if m.size < w.bufSize then m.size else m.size - 1 := by
  rw [written_pack hshort hmax hsize, List.length_take, List.length_append,
    length_messageHeader]
  refine Nat.min_eq_left ?_
  show _ ≤ m.size
  split <;> omega

/-- A message that does not fill the buffer is a packet as a whole. -/
theorem packet_eq {m : SystemMessage} {w : CWriteBuf} (hshort : m.Short)
    (hmax : m.size ≤ uint16Max) (hsize : m.size < w.bufSize) :
    m.packet w = messageHeader m.size m.header.nMessageID.toNat ++ m.fields := by
  rw [written_pack hshort hmax (Nat.le_of_lt hsize), if_pos hsize, List.take_of_length_le]
  rw [List.length_append, length_messageHeader]
  exact Nat.le_refl _

/-- The receiver gets the message as `received` and consumes the packet. -/
theorem unpack_packet (init : SNodeInfo) {m₀ m : SystemMessage} {w : CWriteBuf}
    (hfresh : Fresh m₀ m) (hshort : m.Short) (hmax : m.size ≤ uint16Max)
    (hsize : m.size < w.bufSize) :
    (m₀.unpack init).run ⟨m.packet w, 0⟩ =
      (m.received.withSize (m.packet w).length,
        ⟨m.packet w, (m.packet w).length⟩) := by
  have hpacket := packet_eq hshort hmax hsize
  have hlength : (m.packet w).length = m.size := by
    rw [length_packet hshort hmax (Nat.le_of_lt hsize), if_pos hsize]
  have hread := (reads_unpack init hfresh hshort hmax).run_eq
  rwa [← hpacket, ← hlength] at hread

/-! ## Round trip -/

/-- `unpack` of the packet restores every field, finds the packet's size in the
header and consumes the packet to its end. -/
def RoundTrips (m : SystemMessage) (w : CWriteBuf) : Prop :=
  ∀ (init : SNodeInfo) (m₀ : SystemMessage), Fresh m₀ m →
    (m₀.unpack init).run ⟨m.packet w, 0⟩ =
      (m.withSize (m.packet w).length, ⟨m.packet w, (m.packet w).length⟩)

/-- A registration without connect types, a map of nodes under their own ids,
or a message of another class. -/
def Restorable : SystemMessage → Prop
  | registerNodeBaseInfo m => m.setConnectServiceType = ∅
  | syncAllNodeBaseInfo m =>
      ∀ nNodeID (info : SNodeInfo), m.mapNodeInfo[nNodeID]? = some info →
        info.sNodeBaseInfo.nID = nNodeID
  | _ => True

/-- The entries of a map whose nodes have their own ids as keys. -/
theorem nodeInfos_foldl_eq {mapNodeInfo : StdMap UInt32 SNodeInfo}
    (h : ∀ nNodeID (info : SNodeInfo), mapNodeInfo[nNodeID]? = some info →
      info.sNodeBaseInfo.nID = nNodeID) :
    (nodeInfos mapNodeInfo).foldl
      (fun map info => map.insert info.sNodeBaseInfo.nID info) ∅ = mapNodeInfo := by
  calc
    (nodeInfos mapNodeInfo).foldl
        (fun map info => map.insert info.sNodeBaseInfo.nID info) ∅ =
        mapNodeInfo.toList.foldl
          (fun map e => map.insert e.2.sNodeBaseInfo.nID e.2) ∅ :=
      List.foldl_map
    _ = mapNodeInfo.toList.foldl (fun map e => map.insert e.1 e.2) ∅ := by
      refine List.foldl_ext _ _ _ fun map e he => ?_
      rw [h e.1 e.2 (Std.ExtTreeMap.mem_toList_iff_getElem?_eq_some.mp he)]
    _ = mapNodeInfo := StdMap.foldl_insert_toList mapNodeInfo

theorem received_eq_iff {m : SystemMessage} {n : ℕ} :
    m.received.withSize n = m.withSize n ↔ m.Restorable := by
  cases m with
  | registerNodeBaseInfo m =>
      simp only [received, withSize, Restorable, registerNodeBaseInfo.injEq,
        SmtRegisterNodeBaseInfo.mk.injEq, true_and]
      constructor
      · rintro ⟨-, htypes⟩
        exact htypes.symm
      · intro htypes
        rw [htypes]
        exact ⟨StdSet.union_empty _, rfl⟩
  | syncAllNodeBaseInfo m =>
      simp only [received, withSize, Restorable, syncAllNodeBaseInfo.injEq,
        SmtSyncAllNodeBaseInfo.mk.injEq, true_and, and_true]
      constructor
      · intro hmap nNodeID info hinfo
        rw [← hmap] at hinfo
        have hempty : ∀ k (v : SNodeInfo), (∅ : StdMap UInt32 SNodeInfo)[k]? = some v →
            v.sNodeBaseInfo.nID = k := by
          simp
        exact StdMap.key_of_getElem?_foldl_insert
          (f := fun info : SNodeInfo => info.sNodeBaseInfo.nID) hempty hinfo
      · exact nodeInfos_foldl_eq
  | _ => simp [received, Restorable]

/-- What the rest of an `unpack` returns carries the header it was given. -/
theorem header_bind {α : Type} {header : α → MessageHeader}
    {rest : MessageHeader → StateM CReadBuf α} (h : MessageHeader)
    (hrest : ∀ h', Returns (rest h') fun a => header a = h') (r : CReadBuf) :
    header ((unpackBegin h >>= rest).run r).1 = ((unpackBegin h).run r).1 :=
  hrest _ _

theorem run_map_fst {σ α γ : Type} (f : α → γ) (m : StateM σ α) (s : σ) :
    ((f <$> m).run s).1 = f (m.run s).1 := rfl

/-- No field that is read after the header changes it. -/
theorem header_unpack (init : SNodeInfo) (m₀ : SystemMessage) (r : CReadBuf) :
    ((m₀.unpack init).run r).1.header = ((unpackBegin m₀.header).run r).1 := by
  cases m₀ with
  | registerNodeBaseInfo m =>
      rw [unpack, run_map_fst]
      show (m.unpack.run r).1.toMessageHeader = _
      rw [SmtRegisterNodeBaseInfo.unpack]
      refine header_bind _ (fun h' => ?_) r
      repeat with_reducible refine Returns.bind fun _ => ?_
      exact Returns.pure rfl
  | unregisterNodeBaseInfo m =>
      rw [unpack, run_map_fst]
      show (m.unpack.run r).1.toMessageHeader = _
      rw [SmtUnregisterNodeBaseInfo.unpack]
      refine header_bind _ (fun h' => ?_) r
      repeat with_reducible refine Returns.bind fun _ => ?_
      exact Returns.pure rfl
  | syncMasterInfo m =>
      rw [unpack, run_map_fst]
      show (m.unpack.run r).1.toMessageHeader = _
      rw [SmtSyncMasterInfo.unpack]
      refine header_bind _ (fun h' => ?_) r
      repeat with_reducible refine Returns.bind fun _ => ?_
      exact Returns.pure rfl
  | syncNodeBaseInfo m =>
      rw [unpack, run_map_fst]
      show (m.unpack.run r).1.toMessageHeader = _
      rw [SmtSyncNodeBaseInfo.unpack]
      refine header_bind _ (fun h' => ?_) r
      repeat with_reducible refine Returns.bind fun _ => ?_
      exact Returns.pure rfl
  | syncAllNodeBaseInfo m =>
      rw [unpack, run_map_fst]
      show ((m.unpack init).run r).1.toMessageHeader = _
      rw [SmtSyncAllNodeBaseInfo.unpack]
      refine header_bind _ (fun h' => ?_) r
      repeat with_reducible refine Returns.bind fun _ => ?_
      exact Returns.pure rfl
  | removeNodeBaseInfo m =>
      rw [unpack, run_map_fst]
      show (m.unpack.run r).1.toMessageHeader = _
      rw [SmtRemoveNodeBaseInfo.unpack]
      refine header_bind _ (fun h' => ?_) r
      repeat with_reducible refine Returns.bind fun _ => ?_
      exact Returns.pure rfl
  | nodeHandshakeRequest m =>
      rw [unpack, run_map_fst]
      show (m.unpack.run r).1.toMessageHeader = _
      rw [SmtNodeHandshakeRequest.unpack]
      refine header_bind _ (fun h' => ?_) r
      repeat with_reducible refine Returns.bind fun _ => ?_
      exact Returns.pure rfl
  | nodeHandshakeResponse m =>
      rw [unpack, run_map_fst]
      show (m.unpack.run r).1.toMessageHeader = _
      rw [SmtNodeHandshakeResponse.unpack]
      refine header_bind _ (fun h' => ?_) r
      repeat with_reducible refine Returns.bind fun _ => ?_
      exact Returns.pure rfl

theorem header_withSize (m : SystemMessage) (n : ℕ) :
    (m.withSize n).header.nMessageSize = UInt16.ofNat n := by
  cases m <;> rfl

theorem length_fields_pos (m : SystemMessage) : 0 < m.fields.length := by
  cases m <;>
    simp [fields, encodeNodeBaseInfo, encodeAll, encodeString] <;> omega

/-- A message that fills the buffer to the last byte comes out shorter than its
header says. -/
theorem lt_bufSize_of_roundTrips {m : SystemMessage} {w : CWriteBuf}
    (hshort : m.Short) (hmax : m.size ≤ uint16Max) (hsize : m.size ≤ w.bufSize)
    (h : m.RoundTrips w) : m.size < w.bufSize := by
  by_contra hfull
  obtain ⟨m₀, hfresh⟩ := m.exists_fresh
  have hlength := length_packet hshort hmax hsize
  have hpacket := written_pack hshort hmax hsize
  rw [if_neg hfull] at hlength hpacket
  have hheader : ((unpackBegin m₀.header).run ⟨m.packet w, 0⟩).1.nMessageSize =
      UInt16.ofNat (m.size - 1) := by
    rw [← header_unpack default, h default m₀ hfresh, header_withSize, hlength]
  have hcut : m.packet w = messageHeader m.size m.header.nMessageID.toNat ++
      m.fields.take (m.fields.length - 1) := by
    rw [hpacket, List.take_append, length_messageHeader, List.take_of_length_le]
    · congr 2
      simp only [size]
      omega
    · have hfields := m.length_fields_pos
      simp only [length_messageHeader, size]
      omega
  have hread := reads_unpackBegin m₀.header hmax m.header.nMessageID []
    (m.fields.take (m.fields.length - 1))
  rw [List.nil_append, ← hcut, List.length_nil] at hread
  rw [hread] at hheader
  have hnat := congrArg UInt16.toNat hheader
  have hpos : 0 < m.size := by
    simp only [size, sizeofMessageHeader]
    omega
  rw [toNat_count hmax, toNat_count (by omega)] at hnat
  omega

theorem restorable_of_roundTrips {m : SystemMessage} {w : CWriteBuf}
    (hshort : m.Short) (hmax : m.size ≤ uint16Max) (hsize : m.size < w.bufSize)
    (h : m.RoundTrips w) : m.Restorable := by
  obtain ⟨m₀, hfresh⟩ := m.exists_fresh
  have hreceived := unpack_packet default hfresh hshort hmax hsize
  rw [h default m₀ hfresh] at hreceived
  exact received_eq_iff.mp (congrArg Prod.fst hreceived).symm

/-- A system message survives packing and unpacking exactly when it is
`Restorable` and leaves at least one byte of the buffer free. -/
theorem roundTrips_iff {m : SystemMessage} {w : CWriteBuf} (hshort : m.Short)
    (hmax : m.size ≤ uint16Max) (hsize : m.size ≤ w.bufSize) :
    m.RoundTrips w ↔ m.Restorable ∧ m.size < w.bufSize := by
  constructor
  · intro h
    have hlt := lt_bufSize_of_roundTrips hshort hmax hsize h
    exact ⟨restorable_of_roundTrips hshort hmax hlt h, hlt⟩
  · rintro ⟨hrestorable, hlt⟩ init m₀ hfresh
    rw [unpack_packet init hfresh hshort hmax hlt, received_eq_iff.mpr hrestorable]

/-- The registration of a node that wants to connect to all services of one
type. -/
def typeRegistration : SystemMessage :=
  registerNodeBaseInfo
    { nMessageSize := 0
      nMessageID := 1
      sNodeBaseInfo :=
        { nID := 1, szName := [], szGroup := [], szHost := [], nPort := 0,
          nRecvBufSize := 0, nSendBufSize := 0 }
      vecServiceBaseInfo := []
      setConnectServiceName := ∅
      setConnectServiceType := (∅ : StdSet StdString).insert [103] }

theorem short_typeRegistration : typeRegistration.Short := by
  refine ⟨?_, ?_, ?_, ?_⟩
  · exact ⟨by decide, by decide, by decide⟩
  · exact ⟨by decide, by simp⟩
  · exact ⟨by decide, by decide⟩
  · exact ⟨by decide, by decide⟩

theorem roundTrips_iff_syncMasterInfo :
    (syncMasterInfo ⟨⟨0, 3⟩, 7⟩).RoundTrips (CWriteBuf.new 64) ↔
      (syncMasterInfo ⟨⟨0, 3⟩, 7⟩).Restorable ∧
        (syncMasterInfo ⟨⟨0, 3⟩, 7⟩).size < (CWriteBuf.new 64).bufSize :=
  roundTrips_iff trivial (by decide) (by decide)

/-- The connect types of a registration do not survive. -/
theorem not_roundTrips_typeRegistration :
    ¬ ∀ (m : SystemMessage) (w : CWriteBuf), m.Short → m.size ≤ uint16Max →
      m.size ≤ w.bufSize → m.RoundTrips w := by
  intro h
  have hbuf : (CWriteBuf.new uint16Max).bufSize = uint16Max :=
    List.length_replicate
  have hsize : typeRegistration.size = 35 := by decide
  have hmax : typeRegistration.size < uint16Max := by
    rw [hsize]
    decide
  have hle : typeRegistration.size ≤ uint16Max := Nat.le_of_lt hmax
  have htrip := h typeRegistration (CWriteBuf.new uint16Max) short_typeRegistration
    hle (by rwa [hbuf])
  have hrestorable : typeRegistration.Restorable :=
    restorable_of_roundTrips short_typeRegistration hle (by rwa [hbuf]) htrip
  exact Std.ExtTreeSet.insert_ne_empty hrestorable

end SystemMessage

end RealtimeEx.Core
