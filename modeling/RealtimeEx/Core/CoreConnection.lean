import RealtimeEx.Support.Framing

/-!
# The byte stream of a node link

This file models the path of a message from `CBaseConnectionMgr::send` over
the network thread to `CCoreConnection::send`, and `CCoreConnection::onRecv`
on the other side of a node link.  Node links have no message parser, so every
message starts with a `message_header`: two bytes of size, header included,
and four bytes of message id.
-/

namespace RealtimeEx.Core

/-! ## Message types and headers -/

/-- `EMessageType`. -/
inductive MessageType
  | heartbeat
  | system
  | request
  | response
  | gateForward
  | toGate
  | toGateBroadcast
  | client
  deriving DecidableEq, Repr

/-- The value of the enumerator. -/
def MessageType.code : MessageType → UInt8
  | heartbeat => 1
  | system => 2
  | request => 3
  | response => 4
  | gateForward => 5
  | toGate => 6
  | toGateBroadcast => 7
  | client => 8

/-- `sizeof(message_header)`. -/
def sizeofMessageHeader : ℕ := 6

/-- A `message_header` in memory; both fields wrap at their width. -/
def messageHeader (messageSize messageID : ℕ) : List UInt8 :=
  leBytes 2 messageSize ++ leBytes 4 messageID

@[simp] theorem length_messageHeader (messageSize messageID : ℕ) :
    (messageHeader messageSize messageID).length = sizeofMessageHeader := by
  simp [messageHeader, sizeofMessageHeader]

/-! ## Sending -/

/-- What a caller hands to `CBaseConnectionMgr::send`. -/
structure SocketData where
  socketID : UInt64
  messageType : MessageType
  data : List UInt8
  extra : List UInt8
  deriving DecidableEq

/-- The bytes the caller wants delivered. -/
def SocketData.body (d : SocketData) : List UInt8 := d.data ++ d.extra

/-- `sizeof(SMCT_SEND_SOCKET_DATA1)` and `sizeof(SMCT_SEND_SOCKET_DATA2)`. -/
def sizeofSendSocketData : ℕ := 16

/-- The `SMessagePacket` of an `eMCT_SEND_SOCKET_DATA2`; `content` is what
follows the `SMCT_SEND_SOCKET_DATA2`. -/
structure SendPacket where
  socketID : UInt64
  messageType : MessageType
  dataSize : ℕ
  content : List UInt8

/-- `CBaseConnectionMgr::send`: both sizes are `uint16_t`, the packet's size
is a `uint32_t`. -/
def baseConnectionMgrSend (d : SocketData) : SendPacket :=
  let size := d.data.length % 2 ^ 16
  let extraSize := d.extra.length % 2 ^ 16
  if extraSize = 0 then
    { socketID := d.socketID
      messageType := d.messageType
      dataSize := (sizeofSendSocketData + size) % 2 ^ 32
      content := d.data.take size }
  else
    { socketID := d.socketID
      messageType := d.messageType
      dataSize := (sizeofSendSocketData + size + extraSize) % 2 ^ 32
      content := d.data.take size ++ d.extra.take extraSize }

/-- `CCoreConnection::send`: the bytes written to the connecter. -/
def coreConnectionSend (messageType : MessageType) (data : List UInt8)
    (size : ℕ) : List UInt8 :=
  if size = 0 then
    []
  else
    match messageType with
    | .client => data.take size
    | _ =>
        messageHeader (sizeofMessageHeader + size) messageType.code.toNat ++
          data.take size

theorem coreConnectionSend_of_ne_client {messageType : MessageType}
    {data : List UInt8} {size : ℕ}
    (htype : messageType ≠ .client) (hsize : size ≠ 0) :
    coreConnectionSend messageType data size =
      messageHeader (sizeofMessageHeader + size) messageType.code.toNat ++
        data.take size := by
  cases messageType with
  | client => exact absurd rfl htype
  | _ => exact if_neg hsize

/-- `CNetRunnable::onProcess` on an `eMCT_SEND_SOCKET_DATA2`: the size passed
on is truncated to `uint16_t`. -/
def netRunnableSend (packet : SendPacket) : List UInt8 :=
  coreConnectionSend packet.messageType packet.content
    ((packet.dataSize - sizeofSendSocketData) % 2 ^ 16)

/-- The bytes a call of `CBaseConnectionMgr::send` puts on the link. -/
def SocketData.wire (d : SocketData) : List UInt8 :=
  netRunnableSend (baseConnectionMgrSend d)

/-! ## Receiving -/

/-- What `CCoreConnection::onDispatch` is called with. -/
structure Frame where
  messageType : UInt8
  data : List UInt8
  deriving DecidableEq

/-- One round of the loop of `CCoreConnection::onRecv` without a message
parser. -/
def scanMessage (data : List UInt8) : Scan Frame :=
  if data.length < sizeofMessageHeader then
    .incomplete
  else
    let messageSize := leNat (data.take 2)
    if messageSize < sizeofMessageHeader then
      .broken
    else if data.length < messageSize then
      .incomplete
    else
      .frame
        { messageType := UInt8.ofNat (leNat ((data.drop 2).take 4))
          data := (data.take messageSize).drop sizeofMessageHeader }
        messageSize

theorem scanMessage_eq_frame {data : List UInt8} {f : Frame} {n : ℕ} :
    scanMessage data = .frame f n ↔
      sizeofMessageHeader ≤ data.length ∧ n = leNat (data.take 2) ∧
        sizeofMessageHeader ≤ n ∧ n ≤ data.length ∧
        f = { messageType := UInt8.ofNat (leNat ((data.drop 2).take 4))
              data := (data.take n).drop sizeofMessageHeader } := by
  unfold scanMessage
  split
  · simp
    omega
  · dsimp only
    split
    · simp
      omega
    · split
      · simp
        omega
      · simp only [Scan.frame.injEq]
        constructor
        · rintro ⟨rfl, rfl⟩
          exact ⟨by omega, rfl, by omega, by omega, rfl⟩
        · rintro ⟨-, rfl, -, -, rfl⟩
          exact ⟨rfl, rfl⟩

theorem scanMessage_eq_broken {data : List UInt8} :
    scanMessage data = .broken ↔
      sizeofMessageHeader ≤ data.length ∧
        leNat (data.take 2) < sizeofMessageHeader := by
  unfold scanMessage
  split
  · simp
    omega
  · dsimp only
    split
    · simp
      omega
    · split
      · simp
        omega
      · simp
        omega

/-- The frames of a node link. -/
def messageScanner : Scanner UInt8 Frame where
  scan := scanMessage
  scan_nil := rfl
  size_pos h := by
    obtain ⟨-, -, hsize, -⟩ := scanMessage_eq_frame.mp h
    simp only [sizeofMessageHeader] at hsize
    omega
  size_le h := (scanMessage_eq_frame.mp h).2.2.2.1
  frame_append := by
    intro xs f n ys h
    obtain ⟨hheader, rfl, hsize, hle, rfl⟩ := scanMessage_eq_frame.mp h
    simp only [sizeofMessageHeader] at hheader
    have htake : (xs ++ ys).take 2 = xs.take 2 :=
      List.take_append_of_le_length (by omega)
    have hdrop : (xs ++ ys).drop 2 = xs.drop 2 ++ ys :=
      List.drop_append_of_le_length (by omega)
    refine scanMessage_eq_frame.mpr ⟨?_, by rw [htake], hsize, ?_, ?_⟩
    · simp only [List.length_append, sizeofMessageHeader]
      omega
    · simp only [List.length_append]
      omega
    · rw [hdrop, List.take_append_of_le_length (by simp; omega),
        List.take_append_of_le_length hle]
  broken_append := by
    intro xs ys h
    obtain ⟨hheader, hsize⟩ := scanMessage_eq_broken.mp h
    simp only [sizeofMessageHeader] at hheader
    refine scanMessage_eq_broken.mpr ⟨?_, ?_⟩
    · simp only [List.length_append, sizeofMessageHeader]
      omega
    · rwa [List.take_append_of_le_length (by omega)]

/-- No frame of a node link is longer than its size field can say. -/
theorem length_data_le_of_scan {data : List UInt8} {f : Frame} {n : ℕ}
    (h : messageScanner.scan data = .frame f n) :
    f.data.length ≤ 2 ^ 16 - 1 - sizeofMessageHeader := by
  obtain ⟨-, hn, hsize, hle, rfl⟩ := scanMessage_eq_frame.mp h
  have hlt := leNat_lt (data.take 2)
  have hpow : 256 ^ (data.take 2).length ≤ 256 ^ 2 :=
    Nat.pow_le_pow_right (by decide) (List.length_take_le 2 data)
  simp only [List.length_drop, List.length_take, sizeofMessageHeader] at *
  omega

end RealtimeEx.Core
