import RealtimeEx.Core.HandshakeSplit
import RealtimeEx.Core.Transporter
import RealtimeEx.Support.MemoryReader

/-!
# What a gate forwards

`CGateClientMessageDispatcher::dispatch` and `CTransporter::gate_forward` are given a
pointer to the payload of a frame.  The first two bytes of the payload are the
length that the client claims it has.
-/

namespace RealtimeEx.Gate

open Base RealtimeEx.Core

/-! ## The length and the id in the header -/

/-- `pHeader->nMessageSize`. -/
def readMessageSize : MemoryReader ℕ := do
  let bytes ← MemoryReader.bytes 0 2
  pure (leNat bytes)

/-- `pHeader->nMessageID`. -/
def readMessageID : MemoryReader UInt32 := do
  let bytes ← MemoryReader.bytes 2 4
  pure (UInt32.ofNat (leNat bytes))

/-! ## Forwarding -/

/-- What `gate_forward` does.  A local service gets a `SMCT_GATE_FORWARD` with the
message behind it. -/
inductive GateForward
  | failed
  | localQueue (nSessionID : UInt64) (nFromServiceID nToServiceID : UInt32)
      (content : List UInt8)
  | remote (data : SocketData)

/-- `CTransporter::gate_forward` of the message at a pointer. -/
def gateForward {μ : Type*} (t : Transporter μ) (nSessionID : UInt64)
    (nToServiceID : UInt32) : MemoryReader GateForward :=
  if t.isLocalService nToServiceID then do
    let nMessageSize ← readMessageSize
    let content ← MemoryReader.bytes 0 nMessageSize
    pure (.localQueue nSessionID t.serviceID nToServiceID content)
  else if t.otherNodeSocketID nToServiceID = 0 then
    pure .failed
  else do
    let nMessageSize ← readMessageSize
    let content ← MemoryReader.bytes 0 nMessageSize
    pure (.remote
      { socketID := t.otherNodeSocketID nToServiceID
        messageType := .gateForward
        data := gateForwardCookice nSessionID t.serviceID nToServiceID
        extra := content })

/-- The outcome of a call of the transporter. -/
def GateForward.outcome : GateForward → Outcome
  | failed => .failed
  | localQueue _ _ _ _ => .localQueue
  | remote data => .remote data

theorem result_readMessageSize_lt (m : Memory) :
    readMessageSize.result m < 2 ^ 16 := by
  have hlt := leNat_lt ((MemoryReader.bytes 0 2).result m)
  rw [MemoryReader.length_result_bytes] at hlt
  exact hlt

/-- What the pointer says the message is. -/
def messageAt (m : Memory) : GateMessage where
  bytes := (MemoryReader.bytes 0 (readMessageSize.result m)).result m
  length_lt := by
    rw [MemoryReader.length_result_bytes]
    exact result_readMessageSize_lt m

/-- The call of the transporter with that message. -/
theorem outcome_gateForward {μ : Type*} (t : Transporter μ) (nSessionID : UInt64)
    (nToServiceID : UInt32) (m : Memory) :
    ((gateForward t nSessionID nToServiceID).result m).outcome =
      t.gateForward nSessionID nToServiceID (messageAt m) := by
  rw [gateForward, Transporter.gateForward]
  split
  · rfl
  · split <;> rfl

/-! ## Dispatching -/

/-- `eCSS_Normal`. -/
def eCSS_Normal : UInt32 := 1000

/-- `CGateClientSession`, as far as the dispatcher looks at it. -/
structure CGateClientSession where
  nPlayerID : UInt64
  nGasID : UInt32
  nState : UInt32

/-- `CGateClientSessionMgr`. -/
structure CGateClientSessionMgr where
  mapClientSessionByPlayerID : StdMap UInt64 CGateClientSession := ∅
  mapPlayerIDBySocketID : StdMap UInt64 UInt64 := ∅

/-- `getSessionByPlayerID`. -/
def CGateClientSessionMgr.getSessionByPlayerID (mgr : CGateClientSessionMgr)
    (nPlayerID : UInt64) : Option CGateClientSession :=
  mgr.mapClientSessionByPlayerID[nPlayerID]?

/-- `getSessionBySocketID`. -/
def CGateClientSessionMgr.getSessionBySocketID (mgr : CGateClientSessionMgr)
    (nSocketID : UInt64) : Option CGateClientSession :=
  match mgr.mapPlayerIDBySocketID[nSocketID]? with
  | none => none
  | some nPlayerID => mgr.getSessionByPlayerID nPlayerID

/-- `CGateClientMessageDispatcher` with what it uses of its service. -/
structure CGateClientMessageDispatcher (μ : Type) where
  mapMessageHandler : StdMap UInt32 StdString := ∅
  sessionMgr : CGateClientSessionMgr := {}
  unserializeMessageFromBuf : StdString → List UInt8 → Option μ
  transporter : Transporter μ

/-- What `dispatch` does with a message. -/
inductive GateDispatch (μ : Type)
  | shutdown (bForce : Bool) (szMsg : String)
  | unserializeError (szMessageName : StdString)
  | callback (szMessageName : StdString) (pMessage : μ)
  | forward (forwarded : GateForward)

namespace CGateClientMessageDispatcher

variable {μ : Type} (d : CGateClientMessageDispatcher μ)

/-- `dispatch`.  The size passed to `unserializeMessageFromBuf` is a `uint32_t`. -/
def dispatch (nSocketID : UInt64) (nSize : ℕ) : MemoryReader (GateDispatch μ) := do
  let nMessageID ← readMessageID
  match d.mapMessageHandler[nMessageID]? with
  | none =>
      match d.sessionMgr.getSessionBySocketID nSocketID with
      | none => pure (.shutdown true "invalid session")
      | some session =>
          if session.nState ≠ eCSS_Normal then
            pure (.shutdown true "invalid session")
          else do
            let forwarded ← gateForward d.transporter session.nPlayerID session.nGasID
            pure (.forward forwarded)
  | some szMessageName => do
      let data ← MemoryReader.bytes sizeofMessageHeader
        ((nSize + 2 ^ 32 - sizeofMessageHeader) % 2 ^ 32)
      match d.unserializeMessageFromBuf szMessageName data with
      | none => pure (.unserializeError szMessageName)
      | some pMessage => pure (.callback szMessageName pMessage)

/-- A message with this id is forwarded: no handler takes it, and the session and the
destination are there. -/
def Forwards (nSocketID : UInt64) (nMessageID : UInt32) : Prop :=
  d.mapMessageHandler[nMessageID]? = none ∧
    ∃ session, d.sessionMgr.getSessionBySocketID nSocketID = some session ∧
      session.nState = eCSS_Normal ∧
      (d.transporter.isLocalService session.nGasID = true ∨
        d.transporter.otherNodeSocketID session.nGasID ≠ 0)

/-- The payload holds a header, and if the message is forwarded, all of the message
that the header speaks of. -/
structure HeaderFits (nSocketID : UInt64) (frame : List UInt8) : Prop where
  header : sizeofMessageHeader ≤ frame.length
  size : d.Forwards nSocketID (UInt32.ofNat (leNat ((frame.drop 2).take 4))) →
    leNat (frame.take 2) ≤ frame.length

theorem extent_gateForward (t : Transporter μ) (nSessionID : UInt64)
    (nToServiceID : UInt32) (m : Memory) :
    (gateForward t nSessionID nToServiceID).extent m =
      if t.isLocalService nToServiceID = true ∨ t.otherNodeSocketID nToServiceID ≠ 0 then
        max 2 (readMessageSize.result m)
      else
        0 := by
  have hcopy : ∀ f : List UInt8 → GateForward,
      (readMessageSize >>= fun nMessageSize =>
        MemoryReader.bytes 0 nMessageSize >>= fun content =>
          (pure (f content) : MemoryReader GateForward)).extent m =
        max 2 (readMessageSize.result m) := by
    intro f
    have htwo : readMessageSize.extent m = 2 := rfl
    rw [MemoryReader.extent_bind, MemoryReader.extent_bind, MemoryReader.extent_bytes,
      MemoryReader.extent_pure, htwo]
    split
    · rename_i hzero
      rw [hzero]
      rfl
    · rw [Nat.zero_add, Nat.max_zero]
  rw [gateForward]
  by_cases hlocal : t.isLocalService nToServiceID = true
  · rw [if_pos hlocal, if_pos (.inl hlocal)]
    exact hcopy _
  · by_cases hsocket : t.otherNodeSocketID nToServiceID = 0
    · rw [if_neg hlocal, if_pos hsocket, if_neg (by simp [hlocal, hsocket])]
      rfl
    · rw [if_neg hlocal, if_neg hsocket, if_pos (.inr hsocket)]
      exact hcopy _

/-- How far `dispatch` reads: the header always, and behind it as far as the message
goes, by the frame or by the header. -/
theorem extent_dispatch (nSocketID : UInt64) (nSize : ℕ) (m : Memory) :
    (d.dispatch nSocketID nSize).extent m = max sizeofMessageHeader
      (match d.mapMessageHandler[readMessageID.result m]? with
      | none =>
          match d.sessionMgr.getSessionBySocketID nSocketID with
          | none => 0
          | some session =>
              if session.nState ≠ eCSS_Normal then
                0
              else
                (gateForward d.transporter session.nPlayerID session.nGasID).extent m
      | some _ =>
          (MemoryReader.bytes sizeofMessageHeader
            ((nSize + 2 ^ 32 - sizeofMessageHeader) % 2 ^ 32)).extent m) := by
  rw [dispatch, MemoryReader.extent_bind]
  have hid : readMessageID.extent m = sizeofMessageHeader := rfl
  rw [hid]
  congr 1
  cases d.mapMessageHandler[readMessageID.result m]? with
  | none =>
      dsimp only
      cases d.sessionMgr.getSessionBySocketID nSocketID with
      | none => rfl
      | some session =>
          dsimp only
          split
          · rfl
          · rw [MemoryReader.extent_bind, MemoryReader.extent_pure, Nat.max_zero]
  | some szMessageName =>
      dsimp only
      rw [MemoryReader.extent_bind]
      split
      · rw [MemoryReader.extent_pure, Nat.max_zero]
      · rw [MemoryReader.extent_pure, Nat.max_zero]

/-- `dispatch` stays inside a payload just if the payload holds what its header says. -/
theorem inside_dispatch_iff (nSocketID : UInt64) {frame : List UInt8}
    (hlength : frame.length < 2 ^ 16) :
    (d.dispatch nSocketID frame.length).Inside frame ↔ d.HeaderFits nSocketID frame := by
  have hsize : ∀ m, MemoryReader.Holds frame m → sizeofMessageHeader ≤ frame.length →
      readMessageSize.result m = leNat (frame.take 2) ∧
        readMessageID.result m = UInt32.ofNat (leNat ((frame.drop 2).take 4)) := by
    intro m hm hheader
    rw [sizeofMessageHeader] at hheader
    rw [readMessageSize, readMessageID, MemoryReader.result_bind,
      MemoryReader.result_bind, MemoryReader.result_bytes_of_holds hm (by omega),
      MemoryReader.result_bytes_of_holds hm (by omega)]
    exact ⟨rfl, rfl⟩
  rw [MemoryReader.inside_iff]
  constructor
  · intro h
    have hm := MemoryReader.holds_getD frame fun _ => 0
    have hextent := h _ hm
    rw [extent_dispatch] at hextent
    have hheader := Nat.le_trans (Nat.le_max_left _ _) hextent
    obtain ⟨hread, hid⟩ := hsize _ hm hheader
    refine ⟨hheader, ?_⟩
    rintro ⟨hnone, session, hsession, hstate, hthere⟩
    rw [hid, hnone] at hextent
    simp only [hsession, hstate, ne_eq, not_true_eq_false, if_false] at hextent
    rw [extent_gateForward, if_pos hthere, hread] at hextent
    exact Nat.le_trans (Nat.le_trans (Nat.le_max_right _ _) (Nat.le_max_right _ _)) hextent
  · intro h m hm
    obtain ⟨hread, hid⟩ := hsize m hm h.header
    have hheader := h.header
    have hfits := h.size
    rw [sizeofMessageHeader] at hheader
    rw [extent_dispatch, hid]
    refine Nat.max_le.mpr ⟨h.header, ?_⟩
    split
    · rename_i hnone
      split
      · exact Nat.zero_le _
      · rename_i session hsession
        split
        · exact Nat.zero_le _
        · rename_i hstate
          rw [extent_gateForward]
          split
          · rename_i hthere
            rw [hread]
            exact Nat.max_le.mpr ⟨by omega,
              hfits ⟨hnone, session, hsession, not_not.mp hstate, hthere⟩⟩
          · exact Nat.zero_le _
    · rw [MemoryReader.extent_bytes, sizeofMessageHeader]
      split
      · exact Nat.zero_le _
      · omega

/-- Whatever a client sends: of every message that its connection dispatches, the gate
reads and forwards bytes of the frame only, just if the frame holds what the header
says. -/
theorem inside_iff_of_dispatched (shared : CCoreWebsocketConnection.Shared)
    (nSocketID : UInt64) (reads : List (List UInt8)) {message : SMCT_RECV_SOCKET_DATA}
    (hmem : message ∈ (Network.CNetConnecter.receive
      (CCoreWebsocketConnection.handler shared)
      (CCoreWebsocketConnection.accepted nSocketID) reads).2.dispatched) :
    (d.dispatch message.nSocketID message.nDataSize).Inside message.pData ↔
      d.HeaderFits message.nSocketID message.pData := by
  have hframe := CCoreWebsocketConnection.fromFrame_of_receive hmem
  rw [hframe.size]
  exact d.inside_dispatch_iff message.nSocketID hframe.lt

/-! ## A client -/

open CCoreWebsocketConnection in
/-- The connection of a client after its request. -/
theorem exists_connected :
    ∃ c, Network.CNetConnecter.take (handler ⟨65535, id⟩) ([], accepted 1)
        (requestBegin ++ szCRLF) = ([], c) ∧
      c.nSocketID = 1 ∧ c.hangs = false ∧ c.eWebSocketState = .connected := by
  have hkey : afterHeader.request.getHeader secWebSocketKeyHeader =
      some (headerValue (ascii "dGhl")) := by
    simp [afterHeader, CHttpRequest.getHeader, CHttpRequest.addHeader]
  have hget : ¬ afterHeader.request.eMethod ≠ .get := by decide
  have hrecv : ∃ c, onRecv ⟨65535, id⟩ (requestBegin ++ szCRLF) (accepted 1) = (42, c) ∧
      c.nSocketID = 1 ∧ c.hangs = false ∧ c.eWebSocketState = .connected := by
    have hwaits : (accepted 1).Waits := ⟨rfl, rfl, rfl⟩
    rw [hwaits.onRecv_eq, onRecvRequest, if_neg (by decide)]
    simp only [accepted, parseRequest_requestBegin, handshark, if_neg hget, hkey, if_true]
    exact ⟨_, rfl, rfl, rfl, rfl⟩
  obtain ⟨c, hrecv, hc⟩ := hrecv
  refine ⟨c, ?_, hc⟩
  rw [Network.CNetConnecter.take]
  simp only [handler, List.nil_append, hrecv]
  rfl

open CCoreWebsocketConnection in
/-- The payload of a binary frame behind the request is dispatched. -/
theorem mem_dispatched (pData vecBuf : List UInt8) (hne : pData ≠ [])
    (hframe : unserializeFrame 65535 pData =
      some { nRet := pData.length, eType := .binaryFrame, vecBuf }) :
    { nSocketID := 1, nDataSize := vecBuf.length % 2 ^ 16, pData := vecBuf } ∈
      (Network.CNetConnecter.receive (handler ⟨65535, id⟩) (accepted 1)
        [requestBegin ++ szCRLF, pData]).2.dispatched := by
  obtain ⟨c, hc, hid, hhangs, hstate⟩ := exists_connected
  have hrest : ∀ c : CCoreWebsocketConnection,
      c.onRecvFrames ⟨65535, id⟩ (pData.drop pData.length) = (0, c) := by
    intro c
    rw [List.drop_length, onRecvFrames]
    rfl
  have hrecv : (CCoreWebsocketConnection.onRecv ⟨65535, id⟩ pData c).2 = c.dispatch vecBuf := by
    rw [CCoreWebsocketConnection.onRecv, hhangs, if_neg (by decide), hstate, if_neg (by decide), onRecvFrames,
      dif_neg hne, hframe]
    simp only [hrest]
    rw [if_neg (by decide), if_neg (by decide), dif_neg (by simp [hne])]
    rfl
  have hlast : (Network.CNetConnecter.receive (handler ⟨65535, id⟩) (accepted 1)
      [requestBegin ++ szCRLF, pData]).2 = (onRecv ⟨65535, id⟩ pData c).2 := by
    show (Network.CNetConnecter.take (handler ⟨65535, id⟩)
      (Network.CNetConnecter.take (handler ⟨65535, id⟩) ([], accepted 1)
        (requestBegin ++ szCRLF)) pData).2 = _
    rw [hc]
    rfl
  rw [hlast, hrecv]
  exact List.mem_append_right _ (by rw [hid]; exact List.mem_singleton_self _)

/-- A gate whose client on socket 1 has logged in, with a game service on another
node. -/
def loggedIn : CGateClientMessageDispatcher Unit where
  sessionMgr :=
    { mapClientSessionByPlayerID := (∅ : StdMap _ _).insert 7
        { nPlayerID := 7, nGasID := 3, nState := eCSS_Normal }
      mapPlayerIDBySocketID := (∅ : StdMap _ _).insert 1 7 }
  unserializeMessageFromBuf _ _ := none
  transporter :=
    { serviceID := 2
      serviceIDConverter := none
      serviceMessageSerializer := fun _ => none
      serviceMessageSerializerByType := fun _ => none
      forwardMessageSerializer := none
      isLocalService := fun _ => false
      otherNodeSocketID := fun _ => 5
      messageID := fun _ => 0 }

/-- A message of six bytes that says it has six bytes. -/
theorem inside_iff_of_dispatched_loggedIn :
    (loggedIn.dispatch 1 6).Inside [6, 0, 9, 9, 0, 0] := by
  have hmem := mem_dispatched [0x82, 0x86, 0, 0, 0, 0, 6, 0, 9, 9, 0, 0]
    [6, 0, 9, 9, 0, 0] (by decide) (by decide)
  exact (loggedIn.inside_iff_of_dispatched _ _ _ hmem).mpr
    ⟨by decide, fun _ => by decide⟩

/-- A message of six bytes that says it has a hundred. -/
theorem not_inside_loggedIn :
    ¬ ∀ (reads : List (List UInt8)), ∀ message ∈ (Network.CNetConnecter.receive
        (CCoreWebsocketConnection.handler ⟨65535, id⟩)
        (CCoreWebsocketConnection.accepted 1) reads).2.dispatched,
      (loggedIn.dispatch message.nSocketID message.nDataSize).Inside message.pData := by
  intro h
  have hmem := mem_dispatched [0x82, 0x86, 0, 0, 0, 0, 100, 0, 9, 9, 0, 0]
    [100, 0, 9, 9, 0, 0] (by decide) (by decide)
  have hinside := (loggedIn.inside_dispatch_iff 1 (by decide)).mp (h _ _ hmem)
  have hforwards : loggedIn.Forwards 1
      (UInt32.ofNat (leNat ((([100, 0, 9, 9, 0, 0] : List UInt8).drop 2).take 4))) := by
    refine ⟨by simp [loggedIn],
      { nPlayerID := 7, nGasID := 3, nState := eCSS_Normal }, ?_, rfl, .inr (by decide)⟩
    simp [loggedIn, CGateClientSessionMgr.getSessionBySocketID,
      CGateClientSessionMgr.getSessionByPlayerID]
  exact absurd (hinside.size hforwards) (by decide)

end CGateClientMessageDispatcher

end RealtimeEx.Gate
