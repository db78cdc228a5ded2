import RealtimeEx.Base.BufFile
import RealtimeEx.Core.CoreConnection
import RealtimeEx.Support.StdContainers

/-!
# System messages

The `smt_*` messages between nodes and masters with their hand-written `pack`
and `unpack`.  A message that is unpacked into starts as its constructor leaves
it: numbers are not initialised, containers are empty.
-/

namespace RealtimeEx.Core

open Base Base.CReadBuf Base.CWriteBuf

/-! ## What the messages carry -/

/-- `SNodeBaseInfo`. -/
structure SNodeBaseInfo where
  nID : UInt32
  szName : StdString
  szGroup : StdString
  szHost : StdString
  nPort : UInt16
  nRecvBufSize : UInt32
  nSendBufSize : UInt32
  deriving DecidableEq, Inhabited

/-- `SServiceBaseInfo`. -/
structure SServiceBaseInfo where
  nID : UInt32
  szName : StdString
  szType : StdString
  deriving DecidableEq, Inhabited

/-- `SNodeInfo`. -/
structure SNodeInfo where
  sNodeBaseInfo : SNodeBaseInfo
  vecServiceBaseInfo : List SServiceBaseInfo
  deriving DecidableEq, Inhabited

/-- `message_header`, the base of every message. -/
structure MessageHeader where
  nMessageSize : UInt16
  nMessageID : UInt32
  deriving DecidableEq

/-- `smt_register_node_base_info`. -/
structure SmtRegisterNodeBaseInfo extends MessageHeader where
  sNodeBaseInfo : SNodeBaseInfo
  vecServiceBaseInfo : List SServiceBaseInfo
  setConnectServiceName : StdSet StdString
  setConnectServiceType : StdSet StdString

/-- `smt_unregister_node_base_info`. -/
structure SmtUnregisterNodeBaseInfo extends MessageHeader where
  szName : StdString

/-- `smt_sync_master_info`. -/
structure SmtSyncMasterInfo extends MessageHeader where
  nMasterID : UInt32

/-- `smt_sync_node_base_info`. -/
structure SmtSyncNodeBaseInfo extends MessageHeader where
  sNodeBaseInfo : SNodeBaseInfo
  vecServiceBaseInfo : List SServiceBaseInfo
  bExcludeConnect : UInt8

/-- `smt_sync_all_node_base_info`. -/
structure SmtSyncAllNodeBaseInfo extends MessageHeader where
  mapNodeInfo : StdMap UInt32 SNodeInfo
  setExcludeConnectNodeID : StdSet UInt32

/-- `smt_remove_node_base_info`. -/
structure SmtRemoveNodeBaseInfo extends MessageHeader where
  nNodeID : UInt32

/-- `smt_node_handshake_request`. -/
structure SmtNodeHandshakeRequest extends MessageHeader where
  nNodeID : UInt32

/-- `smt_node_handshake_response`. -/
structure SmtNodeHandshakeResponse extends MessageHeader where
  nNodeID : UInt32

/-! ## Packing -/

/-- `system_pack_begin`. -/
def packBegin (header : MessageHeader) : StateM CWriteBuf Unit := do
  modify clear
  write (messageHeader header.nMessageSize.toNat header.nMessageID.toNat)

/-- `system_pack_end`: the size of the message goes to its front. -/
def packEnd : StateM CWriteBuf Unit := do
  let nPos := UInt16.ofNat (← get).curPos
  modify (seekBegin 0)
  writeUInt16 nPos
  modify (seekBegin nPos.toNat)

/-- The fields of a `SNodeBaseInfo` in order. -/
def packNodeBaseInfo (s : SNodeBaseInfo) : StateM CWriteBuf Unit := do
  writeUInt32 s.nID
  writeString s.szName
  writeString s.szGroup
  writeString s.szHost
  writeUInt16 s.nPort
  writeUInt32 s.nRecvBufSize
  writeUInt32 s.nSendBufSize

/-- The fields of a `SServiceBaseInfo` in order. -/
def packServiceBaseInfo (s : SServiceBaseInfo) : StateM CWriteBuf Unit := do
  writeUInt32 s.nID
  writeString s.szName
  writeString s.szType

/-- A vector of services behind its length; the loop counts to the truncated
length. -/
def packServices (vecServiceBaseInfo : List SServiceBaseInfo) :
    StateM CWriteBuf Unit := do
  let nServiceCount := UInt16.ofNat vecServiceBaseInfo.length
  writeUInt16 nServiceCount
  (vecServiceBaseInfo.take nServiceCount.toNat).forM packServiceBaseInfo

/-- A container behind its size; the loop runs to the end of the container. -/
def packAll {α : Type} (packOne : α → StateM CWriteBuf Unit) (values : List α) :
    StateM CWriteBuf Unit := do
  writeUInt16 (UInt16.ofNat values.length)
  values.forM packOne

/-- One entry of `mapNodeInfo`: only the value is written. -/
def packNodeInfo (sNodeInfo : SNodeInfo) : StateM CWriteBuf Unit := do
  packNodeBaseInfo sNodeInfo.sNodeBaseInfo
  packServices sNodeInfo.vecServiceBaseInfo

/-- A `pack` writes the fields between `system_pack_begin` and
`system_pack_end`. -/
def packMessage (header : MessageHeader) (packFields : StateM CWriteBuf Unit) :
    StateM CWriteBuf Unit := do
  packBegin header
  packFields
  packEnd

def SmtRegisterNodeBaseInfo.pack (m : SmtRegisterNodeBaseInfo) :
    StateM CWriteBuf Unit :=
  packMessage m.toMessageHeader do
    packNodeBaseInfo m.sNodeBaseInfo
    packServices m.vecServiceBaseInfo
    packAll writeString m.setConnectServiceName.toList
    packAll writeString m.setConnectServiceType.toList

def SmtUnregisterNodeBaseInfo.pack (m : SmtUnregisterNodeBaseInfo) :
    StateM CWriteBuf Unit :=
  packMessage m.toMessageHeader (writeString m.szName)

def SmtSyncMasterInfo.pack (m : SmtSyncMasterInfo) : StateM CWriteBuf Unit :=
  packMessage m.toMessageHeader (writeUInt32 m.nMasterID)

def SmtSyncNodeBaseInfo.pack (m : SmtSyncNodeBaseInfo) : StateM CWriteBuf Unit :=
  packMessage m.toMessageHeader do
    packNodeBaseInfo m.sNodeBaseInfo
    packServices m.vecServiceBaseInfo
    writeUInt8 m.bExcludeConnect

def SmtSyncAllNodeBaseInfo.pack (m : SmtSyncAllNodeBaseInfo) :
    StateM CWriteBuf Unit :=
  packMessage m.toMessageHeader do
    packAll packNodeInfo (m.mapNodeInfo.toList.map Prod.snd)
    packAll writeUInt32 m.setExcludeConnectNodeID.toList

def SmtRemoveNodeBaseInfo.pack (m : SmtRemoveNodeBaseInfo) :
    StateM CWriteBuf Unit :=
  packMessage m.toMessageHeader (writeUInt32 m.nNodeID)

def SmtNodeHandshakeRequest.pack (m : SmtNodeHandshakeRequest) :
    StateM CWriteBuf Unit :=
  packMessage m.toMessageHeader (writeUInt32 m.nNodeID)

def SmtNodeHandshakeResponse.pack (m : SmtNodeHandshakeResponse) :
    StateM CWriteBuf Unit :=
  packMessage m.toMessageHeader (writeUInt32 m.nNodeID)

/-! ## Unpacking -/

/-- `system_unpack_begin`: the header is copied byte by byte. -/
def unpackBegin (header : MessageHeader) : StateM CReadBuf MessageHeader :=
  read sizeofMessageHeader
    (fun bytes =>
      { nMessageSize := UInt16.ofNat (leNat (bytes.take 2))
        nMessageID := UInt32.ofNat (leNat (bytes.drop 2)) })
    header

/-- The fields of a `SNodeBaseInfo` in order. -/
def unpackNodeBaseInfo (s : SNodeBaseInfo) : StateM CReadBuf SNodeBaseInfo := do
  let nID ← readUInt32 s.nID
  let szName ← readString s.szName
  let szGroup ← readString s.szGroup
  let szHost ← readString s.szHost
  let nPort ← readUInt16 s.nPort
  let nRecvBufSize ← readUInt32 s.nRecvBufSize
  let nSendBufSize ← readUInt32 s.nSendBufSize
  return { nID, szName, szGroup, szHost, nPort, nRecvBufSize, nSendBufSize }

/-- The fields of a `SServiceBaseInfo` in order. -/
def unpackServiceBaseInfo (s : SServiceBaseInfo) :
    StateM CReadBuf SServiceBaseInfo := do
  let nID ← readUInt32 s.nID
  let szName ← readString s.szName
  let szType ← readString s.szType
  return { nID, szName, szType }

/-- `std::vector::resize`. -/
def resize {α : Type} [Inhabited α] (n : ℕ) (vec : List α) : List α :=
  (vec ++ List.replicate (n - vec.length) default).take n

/-- A vector of services behind its length. -/
def unpackServices (vecServiceBaseInfo : List SServiceBaseInfo) :
    StateM CReadBuf (List SServiceBaseInfo) := do
  let nServiceCount ← readUInt16 0
  (resize nServiceCount.toNat vecServiceBaseInfo).mapM unpackServiceBaseInfo

/-- A set behind its size, each element read into a variable that starts as
`init`. -/
def unpackSet {α : Type} [Ord α] [Std.TransOrd α]
    (unpackOne : α → StateM CReadBuf α) (init : α) (set : StdSet α) :
    StateM CReadBuf (StdSet α) := do
  let nCount ← readUInt16 0
  repeatM (fun set => do return set.insert (← unpackOne init)) nCount.toNat set

/-- One round of the loop over the nodes; the local variable starts as
`init`. -/
def unpackNodeInfo (init : SNodeInfo) (mapNodeInfo : StdMap UInt32 SNodeInfo) :
    StateM CReadBuf (StdMap UInt32 SNodeInfo) := do
  let sNodeBaseInfo ← unpackNodeBaseInfo init.sNodeBaseInfo
  let vecServiceBaseInfo ← unpackServices init.vecServiceBaseInfo
  return mapNodeInfo.insert sNodeBaseInfo.nID { sNodeBaseInfo, vecServiceBaseInfo }

/-- The map of nodes behind its size. -/
def unpackNodeInfos (init : SNodeInfo) (mapNodeInfo : StdMap UInt32 SNodeInfo) :
    StateM CReadBuf (StdMap UInt32 SNodeInfo) := do
  let nNodeCount ← readUInt16 0
  repeatM (unpackNodeInfo init) nNodeCount.toNat mapNodeInfo

/-- The types go where the names went. -/
def SmtRegisterNodeBaseInfo.unpack (m : SmtRegisterNodeBaseInfo) :
    StateM CReadBuf SmtRegisterNodeBaseInfo := do
  let header ← unpackBegin m.toMessageHeader
  let sNodeBaseInfo ← unpackNodeBaseInfo m.sNodeBaseInfo
  let vecServiceBaseInfo ← unpackServices m.vecServiceBaseInfo
  let setConnectServiceName ← unpackSet readString [] m.setConnectServiceName
  let setConnectServiceName ← unpackSet readString [] setConnectServiceName
  return { m with
    toMessageHeader := header
    sNodeBaseInfo, vecServiceBaseInfo, setConnectServiceName }

def SmtUnregisterNodeBaseInfo.unpack (m : SmtUnregisterNodeBaseInfo) :
    StateM CReadBuf SmtUnregisterNodeBaseInfo := do
  let header ← unpackBegin m.toMessageHeader
  let szName ← readString m.szName
  return { toMessageHeader := header, szName }

def SmtSyncMasterInfo.unpack (m : SmtSyncMasterInfo) :
    StateM CReadBuf SmtSyncMasterInfo := do
  let header ← unpackBegin m.toMessageHeader
  let nMasterID ← readUInt32 m.nMasterID
  return { toMessageHeader := header, nMasterID }

def SmtSyncNodeBaseInfo.unpack (m : SmtSyncNodeBaseInfo) :
    StateM CReadBuf SmtSyncNodeBaseInfo := do
  let header ← unpackBegin m.toMessageHeader
  let sNodeBaseInfo ← unpackNodeBaseInfo m.sNodeBaseInfo
  let vecServiceBaseInfo ← unpackServices m.vecServiceBaseInfo
  let bExcludeConnect ← readUInt8 m.bExcludeConnect
  return { toMessageHeader := header, sNodeBaseInfo, vecServiceBaseInfo,
           bExcludeConnect }

/-- `init` is the `SNodeInfo` of each round of the loop. -/
def SmtSyncAllNodeBaseInfo.unpack (init : SNodeInfo) (m : SmtSyncAllNodeBaseInfo) :
    StateM CReadBuf SmtSyncAllNodeBaseInfo := do
  let header ← unpackBegin m.toMessageHeader
  let mapNodeInfo ← unpackNodeInfos init m.mapNodeInfo
  let setExcludeConnectNodeID ← unpackSet readUInt32 0 m.setExcludeConnectNodeID
  return { toMessageHeader := header, mapNodeInfo, setExcludeConnectNodeID }

def SmtRemoveNodeBaseInfo.unpack (m : SmtRemoveNodeBaseInfo) :
    StateM CReadBuf SmtRemoveNodeBaseInfo := do
  let header ← unpackBegin m.toMessageHeader
  let nNodeID ← readUInt32 m.nNodeID
  return { toMessageHeader := header, nNodeID }

def SmtNodeHandshakeRequest.unpack (m : SmtNodeHandshakeRequest) :
    StateM CReadBuf SmtNodeHandshakeRequest := do
  let header ← unpackBegin m.toMessageHeader
  let nNodeID ← readUInt32 m.nNodeID
  return { toMessageHeader := header, nNodeID }

def SmtNodeHandshakeResponse.unpack (m : SmtNodeHandshakeResponse) :
    StateM CReadBuf SmtNodeHandshakeResponse := do
  let header ← unpackBegin m.toMessageHeader
  let nNodeID ← readUInt32 m.nNodeID
  return { toMessageHeader := header, nNodeID }

/-! ## All system messages -/

/-- A system message of any type. -/
inductive SystemMessage
  | registerNodeBaseInfo (m : SmtRegisterNodeBaseInfo)
  | unregisterNodeBaseInfo (m : SmtUnregisterNodeBaseInfo)
  | syncMasterInfo (m : SmtSyncMasterInfo)
  | syncNodeBaseInfo (m : SmtSyncNodeBaseInfo)
  | syncAllNodeBaseInfo (m : SmtSyncAllNodeBaseInfo)
  | removeNodeBaseInfo (m : SmtRemoveNodeBaseInfo)
  | nodeHandshakeRequest (m : SmtNodeHandshakeRequest)
  | nodeHandshakeResponse (m : SmtNodeHandshakeResponse)

namespace SystemMessage

/-- `pack` of the message's class. -/
def pack : SystemMessage → StateM CWriteBuf Unit
  | registerNodeBaseInfo m => m.pack
  | unregisterNodeBaseInfo m => m.pack
  | syncMasterInfo m => m.pack
  | syncNodeBaseInfo m => m.pack
  | syncAllNodeBaseInfo m => m.pack
  | removeNodeBaseInfo m => m.pack
  | nodeHandshakeRequest m => m.pack
  | nodeHandshakeResponse m => m.pack

/-- `unpack` of the message's class, into the message. -/
def unpack (init : SNodeInfo) : SystemMessage → StateM CReadBuf SystemMessage
  | registerNodeBaseInfo m => registerNodeBaseInfo <$> m.unpack
  | unregisterNodeBaseInfo m => unregisterNodeBaseInfo <$> m.unpack
  | syncMasterInfo m => syncMasterInfo <$> m.unpack
  | syncNodeBaseInfo m => syncNodeBaseInfo <$> m.unpack
  | syncAllNodeBaseInfo m => syncAllNodeBaseInfo <$> m.unpack init
  | removeNodeBaseInfo m => removeNodeBaseInfo <$> m.unpack
  | nodeHandshakeRequest m => nodeHandshakeRequest <$> m.unpack
  | nodeHandshakeResponse m => nodeHandshakeResponse <$> m.unpack

/-- The `message_header` of the message. -/
def header : SystemMessage → MessageHeader
  | registerNodeBaseInfo m => m.toMessageHeader
  | unregisterNodeBaseInfo m => m.toMessageHeader
  | syncMasterInfo m => m.toMessageHeader
  | syncNodeBaseInfo m => m.toMessageHeader
  | syncAllNodeBaseInfo m => m.toMessageHeader
  | removeNodeBaseInfo m => m.toMessageHeader
  | nodeHandshakeRequest m => m.toMessageHeader
  | nodeHandshakeResponse m => m.toMessageHeader

/-- What a receiver gets from `getBuf` and `getCurSize` after `pack`. -/
def packet (m : SystemMessage) (w : CWriteBuf) : List UInt8 :=
  (m.pack.run w).2.written

end SystemMessage

end RealtimeEx.Core
