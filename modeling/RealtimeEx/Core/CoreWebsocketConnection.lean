import RealtimeEx.Core.HttpRequest
import RealtimeEx.Core.WebsocketFrame
import RealtimeEx.Network.NetConnecter

/-!
# Websocket connections

`CCoreWebsocketConnection::onRecv`: the http request that opens a websocket, and
the frames behind it.
-/

namespace RealtimeEx.Core

open Base Network

/-! ## The answer to a request -/

/-- `CHttpResponse`. -/
structure CHttpResponse where
  nStatusCode : ℕ := 0
  bKeepAlive : Bool := true
  szStatusMessage : StdString := []
  mapHeader : StdMap StdString StdString := ∅
  szBody : StdString := []

namespace CHttpResponse

/-- `addHeader`. -/
def addHeader (response : CHttpResponse) (szKey szValue : StdString) : CHttpResponse :=
  { response with mapHeader := response.mapHeader.insert szKey szValue }

/-- `serialize`. -/
def serialize (response : CHttpResponse) : StdString :=
  ascii "HTTP/1.1 " ++ ascii (toString response.nStatusCode) ++ ascii " " ++
    response.szStatusMessage ++ szCRLF ++
    (response.mapHeader.toList.flatMap fun header =>
      header.1 ++ ascii ": " ++ header.2 ++ szCRLF) ++
    (if response.bKeepAlive then ascii "Connection: Keep-Alive" ++ szCRLF
      else ascii "Connection: close" ++ szCRLF) ++
    (if response.szBody = [] then []
      else ascii "Content-Length: " ++ ascii (toString response.szBody.length) ++ szCRLF) ++
    szCRLF ++ response.szBody

end CHttpResponse

/-- `kWebSocketMagic`. -/
def webSocketMagic : StdString := ascii "258EAFA5-E914-47DA-95CA-C5AB0DC85B11"

/-- `kSecWebSocketKeyHeader`. -/
def secWebSocketKeyHeader : StdString := ascii "Sec-WebSocket-Key"

/-- The answer to a request that does not parse. -/
def badRequest : StdString :=
  ascii "HTTP/1.1 400 Bad Request\r\nContent-Type: text/plain\r\nConnection: close\r\n\r\n" ++
    ascii "400 Bad Request\n" ++ [0]

/-- The answer to a request that does not open a websocket. -/
def badHandshark : StdString :=
  ascii "HTTP/1.1 400 Bad Handshark\r\nContent-Type: text/plain\r\nConnection: close\r\n\r\n" ++
    ascii "400 Bad Handshark\n" ++ [0]

/-- `handshark`: the answer, if there is one.  `acceptKey` is the base64 text of the
SHA-1 digest; the key is a C string. -/
def handshark (acceptKey : StdString → StdString) (sHttpRequest : CHttpRequest) :
    Option StdString :=
  if sHttpRequest.eMethod ≠ .get then
    none
  else
    match sHttpRequest.getHeader secWebSocketKeyHeader with
    | none => none
    | some szSecWebSocketKey =>
        let szServerKey := acceptKey (szSecWebSocketKey.takeWhile (· ≠ 0) ++ webSocketMagic)
        let sResponse : CHttpResponse :=
          { nStatusCode := 101, szStatusMessage := ascii "Switching Protocols" }
        some
          ((((sResponse.addHeader (ascii "Connection") (ascii "Upgrade")).addHeader
            (ascii "Upgrade") (ascii "WebSocket")).addHeader
            (ascii "Sec-WebSocket-Version") (ascii "13")).addHeader
            (ascii "Sec-WebSocket-Accept") szServerKey).serialize

/-! ## Connections -/

/-- `EWebSocketState`. -/
inductive EWebSocketState
  | none
  | connectting
  | connected
  | disconnectting
  | disconnected
  deriving DecidableEq

/-- `ENetConnecterMode`. -/
inductive ENetConnecterMode
  | initiative
  | passive
  | unknown
  deriving DecidableEq

/-- `SMCT_RECV_SOCKET_DATA`, with a message type that is always `eMT_CLIENT`; the
size is a `uint16_t`. -/
structure SMCT_RECV_SOCKET_DATA where
  nSocketID : UInt64
  nDataSize : ℕ
  pData : List UInt8
  deriving DecidableEq

/-- `CCoreWebsocketConnection`, with what it has done: the requests it has passed to
`handshark`, what it has sent and dispatched, and its calls of `shutdown`.  It hangs
when `onRecv` does not return. -/
structure CCoreWebsocketConnection where
  nSocketID : UInt64
  eMode : ENetConnecterMode
  eWebSocketState : EWebSocketState
  httpRequestParser : CHttpRequestParser := {}
  hangs : Bool := false
  requests : List CHttpRequest := []
  sent : List StdString := []
  shutdowns : List (Bool × String) := []
  dispatched : List SMCT_RECV_SOCKET_DATA := []

namespace CCoreWebsocketConnection

/-- A connection that a listener has accepted, after `onConnect`. -/
def accepted (nSocketID : UInt64) : CCoreWebsocketConnection where
  nSocketID := nSocketID
  eMode := .passive
  eWebSocketState := .connectting

/-- `m_pNetConnecter->send`. -/
def send (c : CCoreWebsocketConnection) (szBuf : StdString) : CCoreWebsocketConnection :=
  { c with sent := c.sent ++ [szBuf] }

/-- `m_pNetConnecter->shutdown`. -/
def shutdown (c : CCoreWebsocketConnection) (bForce : Bool) (szMsg : String) :
    CCoreWebsocketConnection :=
  { c with shutdowns := c.shutdowns ++ [(bForce, szMsg)] }

/-- The shared buffer of all websocket connections: `nCapacity` is its capacity. -/
structure Shared where
  nCapacity : ℕ
  acceptKey : StdString → StdString

variable (shared : Shared)

/-- `sendFrame` of a frame without a payload. -/
def sendFrame (c : CCoreWebsocketConnection) (nOpcode : UInt8) :
    CCoreWebsocketConnection :=
  if c.eWebSocketState ≠ .connected then
    c
  else
    match serializeFrame shared.nCapacity
      { bFin := true, nOpcode, bMasked := false, zMaskingKey := ⟨0, 0, 0, 0⟩ } [] with
    | none => c.shutdown true "serializeFrame error"
    | some szBuf => c.send szBuf

/-- Handing a message to the logic thread. -/
def dispatch (c : CCoreWebsocketConnection) (vecBuf : List UInt8) :
    CCoreWebsocketConnection :=
  { c with
    dispatched := c.dispatched ++
      [{ nSocketID := c.nSocketID
         nDataSize := vecBuf.length % 2 ^ 16
         pData := vecBuf }] }

/-- What `onRecv` does with a frame of the given type: it dispatches text and
binary frames. -/
def onFrame (c : CCoreWebsocketConnection) (frame : WebsocketFrame) :
    CCoreWebsocketConnection :=
  match frame.eType with
  | .textFrame | .binaryFrame => c.dispatch frame.vecBuf
  | _ => c

/-- `onRecv` of frames, from a position in the data on.  A frame that is not complete
is looked at again and again. -/
def onRecvFrames (c : CCoreWebsocketConnection) (pData : List UInt8) :
    ℕ × CCoreWebsocketConnection :=
  if _hdata : pData = [] then
    (0, c)
  else
    match unserializeFrame shared.nCapacity pData with
    | none => (pData.length, c.shutdown true "frame error")
    | some frame =>
        if frame.eType = .closeFrame then
          (frame.nRet, { c.sendFrame shared 0x8 with eWebSocketState := .disconnectting })
        else if frame.eType = .pongFrame then
          (frame.nRet, if c.eWebSocketState ≠ .connected then c.sendFrame shared 0xA else c)
        else if _hret : frame.nRet = 0 then
          (0, { c with hangs := true })
        else
          let (nRecvSize, c) := onRecvFrames (c.onFrame frame) (pData.drop frame.nRet)
          (frame.nRet + nRecvSize, c)
termination_by pData.length
decreasing_by
  have hpos := List.length_pos_of_ne_nil _hdata
  rw [List.length_drop]
  omega

/-- `onRecv` of the http request. -/
def onRecvRequest (c : CCoreWebsocketConnection) (pData : List UInt8) :
    ℕ × CCoreWebsocketConnection :=
  if c.eMode ≠ .passive then
    (pData.length, c.shutdown true "websocket not support active mode")
  else
    match c.httpRequestParser.parseRequest pData with
    | none => (0, { c with hangs := true })
    | some (false, httpRequestParser) =>
        (pData.length,
          ({ c with httpRequestParser }.send badRequest).shutdown false "bad request")
    | some (true, httpRequestParser) =>
        let nRecvSize := httpRequestParser.nParseDataCount
        if httpRequestParser.eParseState = .finish then
          let requests := c.requests ++ [httpRequestParser.request]
          match handshark shared.acceptKey httpRequestParser.request with
          | none =>
              (pData.length,
                ({ c with httpRequestParser, requests }.send badHandshark).shutdown
                  false "bad handshark")
          | some szData =>
              (nRecvSize,
                { c.send szData with
                  requests
                  eWebSocketState := .connected
                  httpRequestParser := {} })
        else
          (nRecvSize, { c with httpRequestParser })

/-- `onRecv`.  A connection that hangs does not receive any more. -/
def onRecv (pData : List UInt8) (c : CCoreWebsocketConnection) :
    ℕ × CCoreWebsocketConnection :=
  if c.hangs then
    (0, c)
  else if c.eWebSocketState = .connectting then
    c.onRecvRequest shared pData
  else
    c.onRecvFrames shared pData

/-- A websocket connection as the handler of its connecter. -/
def handler : NetConnecterHandler CCoreWebsocketConnection where
  onRecv := onRecv shared

/-- The reads of a websocket connection. -/
def reading (nSocketID : UInt64) :
    TransitionSystem (CNetConnecter CCoreWebsocketConnection) ReadResult :=
  CNetConnecter.reading (handler shared) (accepted nSocketID)

/-! ## The messages of a connection -/

variable {shared} {c : CCoreWebsocketConnection}

theorem payloadLength_lt {pData : List UInt8} {nPayloadLength nPos : ℕ}
    (h : payloadLength pData = some (nPayloadLength, nPos)) : nPayloadLength < 2 ^ 16 := by
  rw [payloadLength] at h
  split at h
  · rename_i hbasic
    cases h
    rw [payloadSizeBasic] at hbasic
    omega
  · split at h
    · cases h
      have hhigh := (pData.getD 2 0).toNat_lt
      have hlow := (pData.getD 3 0).toNat_lt
      omega
    · cases h

/-- A payload is no longer than two bytes of length can say. -/
theorem length_vecBuf_lt {nCapacity : ℕ} {pData : List UInt8} {frame : WebsocketFrame}
    (h : unserializeFrame nCapacity pData = some frame) : frame.vecBuf.length < 2 ^ 16 := by
  rw [unserializeFrame] at h
  split at h
  · cases h
    exact Nat.two_pow_pos 16
  · split at h
    · cases h
    · rename_i nPayloadLength nPos hpayload
      have hlt := payloadLength_lt hpayload
      dsimp only at h
      generalize nPayloadLength + nPos + (if pData.getD 1 0 &&& 0x80 ≠ 0 then 4 else 0) =
        nFrameSize at h
      split at h
      · cases h
        exact Nat.two_pow_pos 16
      · split at h
        · cases h
        · obtain ⟨eType, -, rfl⟩ := Option.map_eq_some_iff.mp h
          dsimp only
          split
          · rw [length_unmask, List.length_take]
            omega
          · exact Nat.two_pow_pos 16

/-- A message is the payload of one frame, with its size. -/
structure FromFrame (shared : Shared) (message : SMCT_RECV_SOCKET_DATA) : Prop where
  decoded : ∃ pData frame, unserializeFrame shared.nCapacity pData = some frame ∧
    message.pData = frame.vecBuf
  size : message.nDataSize = message.pData.length
  lt : message.pData.length < 2 ^ 16

theorem dispatched_sendFrame (nOpcode : UInt8) :
    (c.sendFrame shared nOpcode).dispatched = c.dispatched := by
  rw [sendFrame]
  split
  · rfl
  · split <;> rfl

theorem fromFrame_onFrame {pData : List UInt8} {frame : WebsocketFrame}
    (h : unserializeFrame shared.nCapacity pData = some frame)
    {message : SMCT_RECV_SOCKET_DATA} (hmem : message ∈ (c.onFrame frame).dispatched) :
    message ∈ c.dispatched ∨ FromFrame shared message := by
  have hlt := length_vecBuf_lt h
  have hdispatch : message ∈ (c.dispatch frame.vecBuf).dispatched →
      message ∈ c.dispatched ∨ FromFrame shared message := by
    intro hmem
    rcases List.mem_append.mp hmem with hold | hnew
    · exact .inl hold
    · rw [List.mem_singleton] at hnew
      subst hnew
      exact .inr ⟨⟨pData, frame, h, rfl⟩, Nat.mod_eq_of_lt hlt, hlt⟩
  rw [onFrame] at hmem
  split at hmem
  · exact hdispatch hmem
  · exact hdispatch hmem
  · exact .inl hmem

theorem fromFrame_onRecvFrames (pData : List UInt8) (c : CCoreWebsocketConnection)
    {message : SMCT_RECV_SOCKET_DATA}
    (hmem : message ∈ (c.onRecvFrames shared pData).2.dispatched) :
    message ∈ c.dispatched ∨ FromFrame shared message := by
  fun_induction onRecvFrames shared c pData with
  | case1 => exact .inl hmem
  | case2 => exact .inl hmem
  | case3 =>
      rw [dispatched_sendFrame] at hmem
      exact .inl hmem
  | case4 c pData hdata frame hframe hclose hpong =>
      split at hmem
      · rw [dispatched_sendFrame] at hmem
        exact .inl hmem
      · exact .inl hmem
  | case5 => exact .inl hmem
  | case6 c pData hdata frame hframe hclose hpong hret nRecvSize c' hrest ih =>
      rw [hrest] at ih
      rcases ih hmem with hold | hnew
      · exact fromFrame_onFrame hframe hold
      · exact .inr hnew

theorem fromFrame_onRecv (pData : List UInt8) (c : CCoreWebsocketConnection)
    {message : SMCT_RECV_SOCKET_DATA}
    (hmem : message ∈ (onRecv shared pData c).2.dispatched) :
    message ∈ c.dispatched ∨ FromFrame shared message := by
  rw [onRecv] at hmem
  split at hmem
  · exact .inl hmem
  · split at hmem
    · rw [onRecvRequest] at hmem
      split at hmem
      · exact .inl hmem
      · split at hmem
        · exact .inl hmem
        · exact .inl hmem
        · dsimp only at hmem
          split at hmem
          · split at hmem
            · exact .inl hmem
            · exact .inl hmem
          · exact .inl hmem
    · exact fromFrame_onRecvFrames pData c hmem

/-- Every message that a connection dispatches is the payload of a frame. -/
theorem fromFrame_of_receive {nSocketID : UInt64} {reads : List (List UInt8)}
    {message : SMCT_RECV_SOCKET_DATA}
    (hmem : message ∈
      (CNetConnecter.receive (handler shared) (accepted nSocketID) reads).2.dispatched) :
    FromFrame shared message := by
  induction reads using List.reverseRecOn with
  | nil => cases hmem
  | append_singleton reads bytes ih =>
      rw [CNetConnecter.receive_append_singleton] at hmem
      rcases fromFrame_onRecv _ _ hmem with hold | hnew
      · exact ih hold
      · exact hnew

end CCoreWebsocketConnection

end RealtimeEx.Core
