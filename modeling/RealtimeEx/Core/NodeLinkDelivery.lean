import RealtimeEx.Core.CoreConnectionRecv
import RealtimeEx.Core.NodeLink
import RealtimeEx.Network.NetConnecterCallbacks
import RealtimeEx.Network.NetConnecterProgress

/-!
# Delivery over a node link

Two connections and the bytes between them: `CCoreConnection::send` hands its messages
to the connecter, the loop writes them to the socket when it takes them, the other side
reads what has been written, in pieces of any size, and hands it to
`CCoreConnection::onRecv`.  Both sides send and receive, may be shut down and may fail at
any time.
-/

namespace RealtimeEx.Core

open Network
open Network.Connecter (WriteResult NetEvent ENetConnecterState)

/-! ## One side -/

/-- A connection and its connecter.  The messages all of whose bytes were accepted and
the bytes that were read are recorded. -/
structure LinkSide where
  connecter : Connecter.CNetConnecter
  recvLog : RecvLog := {}
  sent : List SocketData := []
  read : List UInt8 := []

/-- A call of `CNetConnecter::send` with caching, and whether it accepts the bytes. -/
def sendCache (c : Connecter.CNetConnecter) (pData : List UInt8)
    (writes : List WriteResult) : Bool × Connecter.CNetConnecter :=
  ((c.sendResult pData true writes).1, c.send pData true writes)

/-- `CCoreConnection::send` for a message as `CNetRunnable` finds it, and whether all of
its bytes are accepted. -/
def sendMessage (c : Connecter.CNetConnecter) (packet : SendPacket)
    (headerWrites writes : List WriteResult) : Bool × Connecter.CNetConnecter :=
  let nSize := (packet.dataSize - sizeofSendSocketData) % 2 ^ 16
  if nSize = 0 then
    (true, c)
  else
    match packet.messageType with
    | .client => sendCache c (packet.content.take nSize) writes
    | nMessageType =>
        let header := messageHeader (sizeofMessageHeader + nSize) nMessageType.code.toNat
        let (bHeader, c) := sendCache c header headerWrites
        let (bData, c) := sendCache c (packet.content.take nSize) writes
        (bHeader && bData, c)

/-- What `onRecv` of the connecter asks the socket for, of the given answers.  When they
run out, the socket would block. -/
def performed : List ReadResult → List ReadResult
  | [] => [.wouldBlock]
  | .data bytes :: results => .data bytes :: performed results
  | .interrupted :: results => .interrupted :: performed results
  | result :: _ => [result]

/-- The receiver after a series of reads. -/
def afterReads (v : CNetConnecter RecvLog) (results : List ReadResult) :
    CNetConnecter RecvLog :=
  results.foldl (CNetConnecter.onRead (linkHandler .noParser)) v

/-- The socket does not return more bytes than there is room for. -/
def FitsAll (v : CNetConnecter RecvLog) : List ReadResult → Prop
  | [] => True
  | result :: results =>
      v.Fits result ∧ FitsAll (v.onRead (linkHandler .noParser) result) results

/-- How many bytes `CCoreConnection::onRecv` takes of what is readable after a read. -/
def popSize (v : CNetConnecter RecvLog) : ReadResult → ℕ
  | .data bytes =>
      (onRecv .noParser
        (((ensureWritable v.recvBuffer).write bytes).push bytes.length).readable
        v.handler).1
  | _ => 0

/-- The reads of the connecter with `CCoreConnection` as its handler, which shuts it down
when it finds a broken message. -/
def linkReads (v : CNetConnecter RecvLog) : List ReadResult → List Connecter.Read
  | [] => []
  | result :: results =>
      let v' := v.onRead (linkHandler .noParser) result
      { result
        nSize := popSize v result
        calls :=
          if v'.handler.shutdowns = v.handler.shutdowns then [] else [.shutdown true] } ::
        linkReads v' results

/-- What happens to one side: a message is handed over, the connection is shut down, or
the loop starts a round, has an event or ends. -/
inductive LinkEvent
  | send (d : SocketData) (headerWrites writes : List WriteResult)
  | shutdown (bForce : Bool)
  | update (writes : List WriteResult)
  | poll (e : NetEvent) (results : List ReadResult)
  | destroy

namespace LinkSide

variable (e : LinkSide)

/-- The receiving part. -/
def receiver : CNetConnecter RecvLog where
  recvBuffer := e.connecter.recvBuffer
  closeRecv := e.connecter.bCloseRecv
  handler := e.recvLog

/-- Whether an event of the loop receives. -/
def Receives (event : NetEvent) : Prop :=
  e.connecter.bLive = true ∧ e.connecter.bPolled = false ∧ e.connecter.receives event

instance (event : NetEvent) : Decidable (e.Receives event) :=
  inferInstanceAs (Decidable (_ ∧ _ ∧ _))

/-- An event of the loop with the answers of the socket to its reads. -/
def netEvent (event : NetEvent) (results : List ReadResult) : NetEvent :=
  { event with
    opened := { event.opened with calls := [] }
    reads := linkReads e.receiver results }

/-- The bytes that an event reads. -/
def reads : LinkEvent → List UInt8
  | .poll event results =>
      if e.Receives (e.netEvent event results) then
        received (performed results)
      else
        []
  | _ => []

/-- One step.  A deleted connecter is not sent to. -/
def step : LinkEvent → LinkSide
  | .send d headerWrites writes =>
      if e.connecter.bLive = false then
        e
      else
        let (bAccepted, connecter) :=
          sendMessage e.connecter (baseConnectionMgrSend d) headerWrites writes
        { e with connecter, sent := if bAccepted = true then e.sent ++ [d] else e.sent }
  | .shutdown bForce => { e with connecter := e.connecter.step (.call (.shutdown bForce)) }
  | .update writes => { e with connecter := e.connecter.step (.update writes) }
  | .poll event results =>
      let netEvent := e.netEvent event results
      { e with
        connecter := e.connecter.step (.poll netEvent)
        recvLog :=
          if e.Receives netEvent then
            (afterReads e.receiver (performed results)).handler
          else
            e.recvLog
        read := e.read ++ e.reads (.poll event results) }
  | .destroy => { e with connecter := e.connecter.step .destroy }

/-- A side that has just been opened.  `CCoreConnection::onConnect` makes no calls. -/
def opened (nSendBufferSize : ℕ) : Connecter.Opening → LinkSide
  | .finished opened =>
      { connecter := (Connecter.Opening.finished { opened with calls := [] }).connecter
          nSendBufferSize }
  | opening => { connecter := opening.connecter nSendBufferSize }

/-- What the socket returns fits and is what the other side has written next. -/
def Arrives (far : LinkSide) : LinkEvent → Prop
  | .poll event results =>
      e.Receives (e.netEvent event results) →
        FitsAll e.receiver (performed results) ∧
          e.read ++ received (performed results) <+: far.connecter.written
  | _ => True

end LinkSide

/-! ## Both sides -/

/-- The two sides of a link, with the steps of either of them in any order. -/
def nodeLink (nSendBufferSize : ℕ) :
    TransitionSystem (Bool → LinkSide) (Bool × LinkEvent) where
  init l := ∀ s, ∃ opening, l s = LinkSide.opened nSendBufferSize opening
  step l label l' :=
    (l label.1).Arrives (l !label.1) label.2 ∧
      l' = Function.update l label.1 ((l label.1).step label.2)

/-- The message has a body that its header can describe. -/
def SocketData.Framed (d : SocketData) : Prop :=
  d.messageType ≠ .client ∧ 0 < d.body.length ∧ d.body.length ≤ maxBody

/-- The messages that are handed over are framed. -/
def LinkEvent.Framed : LinkEvent → Prop
  | .send d _ _ => d.Framed
  | _ => True

/-! ## Sending -/

section

variable {c : Connecter.CNetConnecter} {d : SocketData}

/-- What sending leaves alone. -/
theorem later_sendMessage (c : Connecter.CNetConnecter) (packet : SendPacket)
    (headerWrites writes : List WriteResult) :
    c.Later (sendMessage c packet headerWrites writes).2 ∧
      (sendMessage c packet headerWrites writes).2.recvBuffer = c.recvBuffer ∧
      (sendMessage c packet headerWrites writes).2.bCloseRecv = c.bCloseRecv := by
  have hboth (header pData : List UInt8) :
      c.Later ((c.send header true headerWrites).send pData true writes) ∧
        ((c.send header true headerWrites).send pData true writes).recvBuffer =
          c.recvBuffer ∧
        ((c.send header true headerWrites).send pData true writes).bCloseRecv =
          c.bCloseRecv := by
    obtain ⟨hlater, hbuffer, hclose⟩ := c.later_send header true headerWrites
    obtain ⟨hlater', hbuffer', hclose'⟩ :=
      (c.send header true headerWrites).later_send pData true writes
    exact ⟨hlater.trans hlater', hbuffer'.trans hbuffer, hclose'.trans hclose⟩
  rw [sendMessage]
  dsimp only
  split
  · exact ⟨.refl c, rfl, rfl⟩
  · split
    · exact c.later_send _ true writes
    · exact hboth _ _

theorem ordered_sendMessage (h : c.Ordered) (packet : SendPacket)
    (headerWrites writes : List WriteResult) :
    (sendMessage c packet headerWrites writes).2.Ordered := by
  rw [sendMessage]
  dsimp only
  split
  · exact h
  · split
    · exact h.send _ true writes
    · exact (h.send _ true headerWrites).send _ true writes

/-- The sizes of a framed message do not wrap on its way to the network thread. -/
theorem baseConnectionMgrSend_framed (hd : d.Framed) :
    baseConnectionMgrSend d =
      { socketID := d.socketID
        messageType := d.messageType
        dataSize := sizeofSendSocketData + d.body.length
        content := d.body } := by
  obtain ⟨socketID, messageType, data, extra⟩ := d
  obtain ⟨-, -, hle⟩ := hd
  simp only [SocketData.body, List.length_append, maxBody, sizeofMessageHeader] at hle
  have hdata : data.length % 2 ^ 16 = data.length := by omega
  have hextra : extra.length % 2 ^ 16 = extra.length := by omega
  simp only [baseConnectionMgrSend, SocketData.body, hdata, hextra, sizeofSendSocketData,
    List.take_length, List.length_append]
  split
  · rename_i hnil
    rw [List.length_eq_zero_iff.mp hnil, List.append_nil]
    congr 1
    simp only [List.length_nil]
    omega
  · congr 1
    omega

theorem sendMessage_framed (hd : d.Framed) (c : Connecter.CNetConnecter)
    (headerWrites writes : List WriteResult) :
    let header :=
      messageHeader (sizeofMessageHeader + d.body.length) d.messageType.code.toNat
    let r := sendCache c header headerWrites
    sendMessage c (baseConnectionMgrSend d) headerWrites writes =
      (r.1 && (sendCache r.2 d.body writes).1, (sendCache r.2 d.body writes).2) := by
  obtain ⟨htype, hpos, hle⟩ := hd
  have hsize : (sizeofSendSocketData + d.body.length - sizeofSendSocketData) % 2 ^ 16 =
      d.body.length := by
    simp only [maxBody, sizeofMessageHeader] at hle
    omega
  rw [baseConnectionMgrSend_framed ⟨htype, hpos, hle⟩, sendMessage]
  dsimp only
  rw [hsize, if_neg hpos.ne', List.take_length]
  cases hcode : d.messageType with
  | client => exact absurd hcode htype
  | _ => rfl

/-- The header of a framed message is not yet a message. -/
theorem scan_header (hd : d.Framed) :
    messageScanner.scan
        (messageHeader (sizeofMessageHeader + d.body.length) d.messageType.code.toNat) =
      .incomplete := by
  obtain ⟨-, hpos, hle⟩ := hd
  simp only [maxBody, sizeofMessageHeader] at hle
  have hsize : leNat ((messageHeader (6 + d.body.length)
      d.messageType.code.toNat).take 2) = 6 + d.body.length := by
    rw [messageHeader, List.take_left' (length_leBytes 2 _), leNat_leBytes]
    omega
  show scanMessage (messageHeader _ _) = Scan.incomplete
  simp only [scanMessage, length_messageHeader, sizeofMessageHeader, hsize]
  rw [if_neg (by omega), if_neg (by omega), if_pos (by omega)]

/-- A framed message is accepted, or what was accepted of it is not a message and the
connecter accepts nothing afterwards. -/
theorem accepted_sendMessage (hd : d.Framed) (hlive : c.bLive = true)
    (headerWrites writes : List WriteResult) :
    let r := sendMessage c (baseConnectionMgrSend d) headerWrites writes
    (r.1 = true ∧ ¬ c.Closed ∧ r.2.accepted = c.accepted ++ d.wire) ∨
      (r.1 = false ∧ r.2.accepted = c.accepted ∧ (c.refusesSend = true ∨ r.2.Closed)) ∨
      (r.1 = false ∧ ¬ c.Closed ∧ r.2.Closed ∧
        ∃ part, r.2.accepted = c.accepted ++ part ∧
          messageScanner.scan part = .incomplete) := by
  rw [sendMessage_framed hd]
  dsimp only
  simp only [sendCache]
  by_cases hrefuses : c.refusesSend = true
  · -- A connecter that refuses the header refuses the body.
    have hheader : ∀ pData headerWrites,
        c.sendResult pData true headerWrites = (false, c) := by
      intro pData headerWrites
      rw [Connecter.CNetConnecter.sendResult, if_pos hrefuses]
    refine .inr (.inl ?_)
    rw [Connecter.CNetConnecter.send_of_refuses hrefuses, hheader,
      Connecter.CNetConnecter.send_of_refuses hrefuses]
    exact ⟨rfl, rfl, .inl hrefuses⟩
  · have hopen : ¬ c.Closed := fun h => hrefuses (h.refuses hlive)
    generalize hheader : messageHeader (sizeofMessageHeader + d.body.length)
      d.messageType.code.toNat = header
    have hscan : messageScanner.scan header = .incomplete := by
      rw [← hheader]
      exact scan_header hd
    have hwire : d.wire = header ++ d.body := by
      rw [← hheader]
      exact wire_eq_of_length_le hd.1 hd.2.1 hd.2.2
    have hfirst := c.accepted_send header true headerWrites
    have hsecond := (c.send header true headerWrites).accepted_send d.body true writes
    cases hresult : (c.sendResult header true headerWrites).1 with
    | false =>
        -- The header has closed the connecter, and the body is refused.
        rw [hresult, if_neg (by decide)] at hfirst
        have hdown := Connecter.CNetConnecter.refuses_send_of_eq_false hrefuses hlive hresult
        have hbody : ((c.send header true headerWrites).sendResult d.body true writes).1 =
            false := by
          rw [Connecter.CNetConnecter.sendResult, if_pos hdown]
        rw [hbody, if_neg (by decide), hfirst] at hsecond
        refine .inr (.inl ⟨rfl, hsecond, .inr ?_⟩)
        rw [Connecter.CNetConnecter.send_of_refuses hdown,
          Connecter.CNetConnecter.send_of_eq_false hresult]
        exact Connecter.CNetConnecter.closed_of_sendResult_eq_false hrefuses hresult
    | true =>
        rw [hresult, if_pos rfl] at hfirst
        cases hbody : ((c.send header true headerWrites).sendResult d.body true writes).1 with
        | true =>
            rw [hbody, if_pos rfl, hfirst, List.append_assoc, ← hwire] at hsecond
            exact .inl ⟨rfl, hopen, hsecond⟩
        | false =>
            rw [hbody, if_neg (by decide), hfirst] at hsecond
            exact .inr (.inr ⟨rfl, hopen,
              Connecter.CNetConnecter.closed_of_send_refuses hrefuses hbody, header, hsecond,
              hscan⟩)

end

/-! ## Receiving -/

section

variable {v : CNetConnecter RecvLog} {xs stream : List UInt8}

/-- The connecter's buffer is the one of its receiving part. -/
theorem recvBuffer_onRecv (results : List ReadResult) {c : Connecter.CNetConnecter}
    (hbuffer : c.recvBuffer = v.recvBuffer) (hclose : c.bCloseRecv = v.closeRecv) :
    (c.onRecv (linkReads v results)).recvBuffer =
        (afterReads v (performed results)).recvBuffer ∧
      (c.onRecv (linkReads v results)).bCloseRecv =
        (afterReads v (performed results)).closeRecv := by
  induction results generalizing v c with
  | nil => exact ⟨congrArg ensureWritable hbuffer, hclose⟩
  | cons result results ih =>
      cases result with
      | data bytes =>
          have hcalls := Connecter.CNetConnecter.quiet_foldl_call
            ((c.receive (.data bytes) (popSize v (.data bytes))).notify .onRecv)
            (show ∀ call ∈ (if (v.onRead (linkHandler .noParser) (.data bytes)).handler.shutdowns =
              v.handler.shutdowns then [] else [Connecter.Call.shutdown true]),
              call = .shutdown true by split <;> simp)
          refine ih ?_ ?_
          · rw [hcalls.recvBuffer_eq]
            show CNetRecvBuffer.pop _ _ = CNetRecvBuffer.pop _ _
            rw [hbuffer]
            rfl
          · rw [hcalls.bCloseRecv_eq]
            exact hclose
      | closed =>
          refine ⟨?_, ?_⟩
          · rw [linkReads, Connecter.CNetConnecter.onRecv]
            dsimp only
            split
            · exact congrArg ensureWritable hbuffer
            · exact congrArg ensureWritable hbuffer
          · rw [linkReads, Connecter.CNetConnecter.onRecv]
            dsimp only
            split
            · rfl
            · rfl
      | wouldBlock => exact ⟨congrArg ensureWritable hbuffer, hclose⟩
      | interrupted => exact ih (congrArg ensureWritable hbuffer) hclose
      | error =>
          have hdown := Connecter.CNetConnecter.quiet_shutdown (c.receive .error 0) true
          exact ⟨hdown.recvBuffer_eq.trans (congrArg ensureWritable hbuffer),
            hdown.bCloseRecv_eq.trans hclose⟩

theorem calls_linkReads (v : CNetConnecter RecvLog) (results : List ReadResult) :
    ∀ read ∈ linkReads v results, ∀ call ∈ read.calls, call = .shutdown true := by
  induction results generalizing v with
  | nil => simp [linkReads]
  | cons result results ih =>
      intro read hread
      rcases List.mem_cons.mp hread with rfl | hread
      · dsimp only
        split <;> simp
      · exact ih _ read hread

/-- The stream is cut into messages to its end, where at most a part of a message
stands. -/
def Unbroken (stream : List UInt8) : Prop :=
  ∃ frames part, messageScanner.Cuts stream frames part ∧
    messageScanner.scan part = .incomplete

/-- Whoever has received a part of such a stream does not find a broken message. -/
theorem Unbroken.scan_ne_broken (hstream : Unbroken stream) (h : InStep .noParser xs v)
    (hxs : xs <+: stream) : messageScanner.scan v.recvBuffer.readable ≠ .broken := by
  intro hbroken
  obtain ⟨frames, part, hcuts, hpart⟩ := hstream
  obtain ⟨ys, rfl⟩ := hxs
  have hrest : messageScanner.scan (v.recvBuffer.readable ++ ys) = .broken :=
    messageScanner.broken_append ys hbroken
  have hxs : messageScanner.Cuts xs _ v.recvBuffer.readable := h.cuts
  have hsame := (hxs.append ys).rest_unique (by rw [hrest]; nofun) hcuts
    (by rw [hpart]; nofun)
  rw [hsame, hpart] at hrest
  cases hrest

/-- A read that leaves no broken message does not shut the connection down. -/
theorem shutdowns_onRead (result : ReadResult) (hfits : v.Fits result)
    (hopen : v.handler.shutdowns = [])
    (h : messageScanner.scan (v.onRead (linkHandler .noParser) result).recvBuffer.readable ≠
      .broken) :
    (v.onRead (linkHandler .noParser) result).handler.shutdowns = [] := by
  cases result with
  | data bytes =>
      obtain ⟨hsize, -, hend⟩ := messageScanner.cut_spec (v.recvBuffer.readable ++ bytes)
      obtain ⟨hreadable, hhandler⟩ :=
        CNetConnecter.readable_onRead_data (linkHandler .noParser) hfits hsize
      rw [hreadable] at h
      have hbroken : (messageScanner.cut (v.recvBuffer.readable ++ bytes)).2.2 = false := by
        cases hb : (messageScanner.cut (v.recvBuffer.readable ++ bytes)).2.2 with
        | false => rfl
        | true =>
            rw [hb, if_pos rfl] at hend
            exact absurd hend h
      rw [hhandler]
      simp [linkHandler, onRecv, LinkParser.noParser, hbroken, hopen]
  | closed => exact hopen
  | wouldBlock => exact hopen
  | interrupted => exact hopen
  | error => exact hopen

/-- Reads out of such a stream, one after the other. -/
theorem inStep_afterReads (hstream : Unbroken stream) {results : List ReadResult}
    (h : InStep .noParser xs v) (hopen : v.handler.shutdowns = [])
    (hfits : FitsAll v results) (hread : xs ++ received results <+: stream) :
    InStep .noParser (xs ++ received results) (afterReads v results) ∧
      (afterReads v results).handler.shutdowns = [] := by
  induction results generalizing xs v with
  | nil =>
      rw [show received [] = [] from rfl, List.append_nil]
      exact ⟨h, hopen⟩
  | cons result results ih =>
      have hreceived : received (result :: results) = received [result] ++ received results :=
        received_append [result] results
      rw [hreceived, ← List.append_assoc] at hread ⊢
      have hin := h.onRead hfits.1
      have hunbroken := hstream.scan_ne_broken hin
        ((List.prefix_append _ _).trans hread)
      exact ih hin (shutdowns_onRead result hfits.1 hopen hunbroken) hfits.2 hread

end

/-! ## Steps -/

namespace LinkSide

variable {e near far : LinkSide}

theorem keeps_step_shutdown (c : Connecter.CNetConnecter) (bForce : Bool) :
    c.Keeps (c.step (.call (.shutdown bForce))) := by
  rw [Connecter.CNetConnecter.step.eq_def]
  split
  · exact (Connecter.CNetConnecter.Quiet.refl c).keeps
  · exact (Connecter.CNetConnecter.quiet_shutdown c bForce).keeps

theorem keeps_step_update (c : Connecter.CNetConnecter) (writes : List WriteResult) :
    c.Keeps (c.step (.update writes)) := by
  rw [Connecter.CNetConnecter.step.eq_def]
  split
  · exact (Connecter.CNetConnecter.Quiet.refl c).keeps
  · exact c.keeps_update writes

theorem keeps_step_destroy (c : Connecter.CNetConnecter) : c.Keeps (c.step .destroy) := by
  rw [Connecter.CNetConnecter.step.eq_def]
  split
  · exact (Connecter.CNetConnecter.Quiet.refl c).keeps
  · exact c.keeps_release

/-- An event of the loop accepts nothing, and makes the reads that the socket answers. -/
theorem step_poll (e : LinkSide) (event : NetEvent) (results : List ReadResult) :
    let e' := e.step (.poll event results)
    e.connecter.Later e'.connecter ∧ e'.connecter.accepted = e.connecter.accepted ∧
      e'.receiver =
        if e.Receives (e.netEvent event results) then
          afterReads e.receiver (performed results)
        else
          e.receiver := by
  have hcalls : (e.netEvent event results).opened.calls = [] := rfl
  have hreads : (e.netEvent event results).reads = linkReads e.receiver results := rfl
  generalize hevent : e.netEvent event results = netEvent at hcalls hreads
  rw [step]
  dsimp only
  rw [hevent, Connecter.CNetConnecter.step.eq_def]
  by_cases hidle : e.connecter.bLive = false ∨ e.connecter.bPolled = true
  · -- A connecter that is deleted or has had its event is not changed.
    have hsame : ¬ e.Receives netEvent := by
      rintro ⟨hlive, hpolled, -⟩
      rcases hidle with hdead | hdone
      · rw [hlive] at hdead
        cases hdead
      · rw [hpolled] at hdone
        cases hdone
    rw [if_neg hsame, if_neg hsame]
    split
    · exact ⟨.refl _, rfl, rfl⟩
    · rename_i hlive
      dsimp only
      rw [if_pos (hidle.resolve_left hlive)]
      exact ⟨.refl _, rfl, rfl⟩
  · obtain ⟨hlive, hpolled⟩ := not_or.mp hidle
    rw [if_neg hlive]
    dsimp only
    rw [if_neg hpolled]
    have hreceives : e.Receives netEvent ↔ e.connecter.receives netEvent := by
      simp [Receives, hlive, hpolled]
    have hmark (c : Connecter.CNetConnecter) : c.Later { c with bPolled := true } :=
      ⟨List.prefix_rfl, id⟩
    rcases e.connecter.onEvent_cases hcalls with ⟨hrecv, c, hbefore, hbehind⟩ | ⟨hrecv, hkeeps⟩
    · rw [if_pos (hreceives.mpr hrecv), if_pos (hreceives.mpr hrecv)]
      rw [hreads] at hbehind
      obtain ⟨hlater, haccepted⟩ := c.later_onRecv (calls_linkReads e.receiver results)
      obtain ⟨hbuffer, hclose⟩ := recvBuffer_onRecv (v := e.receiver) results
        hbefore.recvBuffer_eq hbefore.bCloseRecv_eq
      refine ⟨(hbefore.toLater.trans hlater).trans (hbehind.toLater.trans (hmark _)),
        hbehind.accepted_eq.trans (haccepted.trans hbefore.accepted_eq), ?_⟩
      rw [receiver]
      congr 1
      · exact hbehind.recvBuffer_eq.trans hbuffer
      · exact hbehind.bCloseRecv_eq.trans hclose
    · rw [if_neg (hreceives.not.mpr hrecv), if_neg (hreceives.not.mpr hrecv)]
      refine ⟨hkeeps.toLater.trans (hmark _), hkeeps.accepted_eq, ?_⟩
      rw [receiver, receiver]
      congr 1
      · exact hkeeps.recvBuffer_eq
      · exact hkeeps.bCloseRecv_eq

/-- What a side sends is its messages in order, whole except for a header at the end. -/
structure Sound (e : LinkSide) : Prop where
  ordered : e.connecter.Ordered
  framed : ∀ d ∈ e.sent, d.Framed
  accepted : ∃ part,
    e.connecter.accepted = (e.sent.map SocketData.wire).flatten ++ part ∧
      messageScanner.scan part = .incomplete ∧ (part = [] ∨ e.connecter.Closed)

/-- What a side has received is the front of what the other one has written. -/
structure Follows (near far : LinkSide) : Prop where
  inStep : InStep .noParser near.read near.receiver
  shutdowns : near.recvLog.shutdowns = []
  arrived : near.read <+: far.connecter.written

theorem Sound.encodes (h : e.Sound) :
    ∀ d ∈ e.sent, messageScanner.Encodes d.wire d.frame := by
  intro d hd
  obtain ⟨htype, hpos, hle⟩ := h.framed d hd
  exact encodes_wire htype hpos hle

theorem Sound.unbroken (h : e.Sound) : Unbroken e.connecter.accepted := by
  obtain ⟨part, heq, hpart, -⟩ := h.accepted
  rw [heq]
  exact ⟨_, part, Scanner.cuts_flatten h.encodes part, hpart⟩

theorem Sound.written_isPrefix (h : e.Sound) : e.connecter.written <+: e.connecter.accepted :=
  ⟨e.connecter.sendBuffer.data, h.ordered.bytes_eq⟩

/-- A step that accepts nothing. -/
theorem Sound.keep {e' : LinkSide} (h : e.Sound) (hordered : e'.connecter.Ordered)
    (hsent : e'.sent = e.sent) (haccepted : e'.connecter.accepted = e.connecter.accepted)
    (hlater : e.connecter.Later e'.connecter) : e'.Sound := by
  obtain ⟨part, heq, hpart, hend⟩ := h.accepted
  refine ⟨hordered, ?_, part, ?_, hpart, hend.imp_right hlater.closed⟩
  · rw [hsent]
    exact h.framed
  · rw [haccepted, hsent]
    exact heq

/-- A message that is handed over. -/
theorem Sound.send (h : e.Sound) {d : SocketData} (hd : d.Framed)
    (headerWrites writes : List WriteResult) :
    (e.step (.send d headerWrites writes)).Sound := by
  rw [step]
  split
  · exact h
  · rename_i hlive
    have hordered := ordered_sendMessage h.ordered (baseConnectionMgrSend d) headerWrites
      writes
    have hlater := (later_sendMessage e.connecter (baseConnectionMgrSend d) headerWrites
      writes).1
    have hcases := accepted_sendMessage (c := e.connecter) hd (by simpa using hlive)
      headerWrites writes
    dsimp only at hcases ⊢
    generalize sendMessage e.connecter (baseConnectionMgrSend d) headerWrites writes = r
      at hordered hlater hcases ⊢
    obtain ⟨part, heq, hpart, hend⟩ := h.accepted
    rcases hcases with ⟨hresult, hopen, haccepted⟩ | ⟨hresult, haccepted, -⟩ |
      ⟨hresult, hopen, hclosed, part', haccepted, hpart'⟩
    · have hnil := hend.resolve_right hopen
      rw [hnil, List.append_nil] at heq
      rw [hresult, if_pos rfl]
      refine ⟨hordered, ?_, [], ?_, messageScanner.scan_nil, .inl rfl⟩
      · intro d' hd'
        rcases List.mem_append.mp hd' with hd' | hd'
        · exact h.framed d' hd'
        · rw [List.mem_singleton.mp hd']
          exact hd
      · dsimp only
        rw [haccepted, heq, List.map_append, List.flatten_append, List.append_nil]
        simp
    · rw [hresult, if_neg (by decide)]
      exact h.keep hordered rfl haccepted hlater
    · have hnil := hend.resolve_right hopen
      rw [hnil, List.append_nil] at heq
      rw [hresult, if_neg (by decide)]
      refine ⟨hordered, h.framed, part', ?_, hpart', .inr hclosed⟩
      dsimp only
      rw [haccepted, heq]

/-- A message that an accepting connecter is handed is sent, or closes it. -/
theorem Sound.sent_or_closed {d : SocketData} (hd : d.Framed)
    (hlive : e.connecter.bLive = true) (haccepts : ¬ e.connecter.refusesSend = true)
    (headerWrites writes : List WriteResult) :
    (e.step (.send d headerWrites writes)).sent = e.sent ++ [d] ∨
      (e.step (.send d headerWrites writes)).connecter.Closed := by
  have hcases := accepted_sendMessage (c := e.connecter) hd hlive headerWrites writes
  rw [LinkSide.step, if_neg (by simp [hlive])]
  dsimp only at hcases ⊢
  rcases hcases with ⟨hresult, -, -⟩ | ⟨-, -, hend⟩ | ⟨-, -, hclosed, -⟩
  · rw [hresult, if_pos rfl]
    exact .inl rfl
  · exact .inr (hend.resolve_left haccepts)
  · exact .inr hclosed

theorem Sound.step (h : e.Sound) {event : LinkEvent} (hframed : event.Framed) :
    (e.step event).Sound ∧ e.connecter.Later (e.step event).connecter := by
  have hordered (connecterEvent : Connecter.Event) :
      (e.connecter.step connecterEvent).Ordered := h.ordered.step connecterEvent
  cases event with
  | send d headerWrites writes =>
      refine ⟨h.send hframed headerWrites writes, ?_⟩
      rw [LinkSide.step]
      split
      · exact .refl _
      · exact (later_sendMessage e.connecter _ headerWrites writes).1
  | shutdown bForce =>
      have hkeeps := keeps_step_shutdown e.connecter bForce
      exact ⟨h.keep (hordered _) rfl hkeeps.accepted_eq hkeeps.toLater, hkeeps.toLater⟩
  | update writes =>
      have hkeeps := keeps_step_update e.connecter writes
      exact ⟨h.keep (hordered _) rfl hkeeps.accepted_eq hkeeps.toLater, hkeeps.toLater⟩
  | poll event results =>
      obtain ⟨hlater, haccepted, -⟩ := e.step_poll event results
      exact ⟨h.keep (hordered _) rfl haccepted hlater, hlater⟩
  | destroy =>
      have hkeeps := keeps_step_destroy e.connecter
      exact ⟨h.keep (hordered _) rfl hkeeps.accepted_eq hkeeps.toLater, hkeeps.toLater⟩

/-- A step of the side that receives. -/
theorem Follows.step (h : Follows near far) (hfar : far.Sound) {event : LinkEvent}
    (harrives : near.Arrives far event) : Follows (near.step event) far := by
  have hkeep {near' : LinkSide} (hread : near'.read = near.read)
      (hlog : near'.recvLog = near.recvLog)
      (hbuffer : near'.connecter.recvBuffer = near.connecter.recvBuffer)
      (hclose : near'.connecter.bCloseRecv = near.connecter.bCloseRecv) :
      Follows near' far := by
    have hreceiver : near'.receiver = near.receiver := by
      rw [receiver, receiver, hbuffer, hclose, hlog]
    refine ⟨?_, ?_, ?_⟩
    · rw [hread, hreceiver]
      exact h.inStep
    · rw [hlog]
      exact h.shutdowns
    · rw [hread]
      exact h.arrived
  cases event with
  | send d headerWrites writes =>
      rw [LinkSide.step]
      split
      · exact h
      · obtain ⟨-, hbuffer, hclose⟩ :=
          later_sendMessage near.connecter (baseConnectionMgrSend d) headerWrites writes
        exact hkeep rfl rfl hbuffer hclose
  | shutdown bForce =>
      have hkeeps := keeps_step_shutdown near.connecter bForce
      exact hkeep rfl rfl hkeeps.recvBuffer_eq hkeeps.bCloseRecv_eq
  | update writes =>
      have hkeeps := keeps_step_update near.connecter writes
      exact hkeep rfl rfl hkeeps.recvBuffer_eq hkeeps.bCloseRecv_eq
  | destroy =>
      have hkeeps := keeps_step_destroy near.connecter
      exact hkeep rfl rfl hkeeps.recvBuffer_eq hkeeps.bCloseRecv_eq
  | poll event results =>
      obtain ⟨-, -, hreceiver⟩ := near.step_poll event results
      have hlog : (near.step (.poll event results)).recvLog =
          (near.step (.poll event results)).receiver.handler := rfl
      have hread : (near.step (.poll event results)).read =
          near.read ++ near.reads (.poll event results) := rfl
      rw [reads] at hread
      by_cases hreceives : near.Receives (near.netEvent event results)
      · rw [if_pos hreceives] at hreceiver hread
        obtain ⟨hfits, harrived⟩ := harrives hreceives
        obtain ⟨hin, hopen⟩ := inStep_afterReads hfar.unbroken h.inStep h.shutdowns hfits
          (harrived.trans hfar.written_isPrefix)
        refine ⟨?_, ?_, ?_⟩
        · rw [hreceiver, hread]
          exact hin
        · rw [hlog, hreceiver]
          exact hopen
        · rw [hread]
          exact harrived
      · rw [if_neg hreceives] at hreceiver hread
        rw [List.append_nil] at hread
        refine ⟨?_, ?_, ?_⟩
        · rw [hreceiver, hread]
          exact h.inStep
        · rw [hlog, hreceiver]
          exact h.shutdowns
        · rw [hread]
          exact h.arrived

/-- A side that has just been opened. -/
theorem sound_opened (nSendBufferSize : ℕ) (opening : Connecter.Opening) :
    (opened nSendBufferSize opening).Sound ∧
      ∀ far, Follows (opened nSendBufferSize opening) far := by
  have hnew (c : Connecter.CNetConnecter) (hordered : c.Ordered) (haccepted : c.accepted = [])
      (hbuffer : c.recvBuffer = .init recvBufSize) (hclose : c.bCloseRecv = false) :
      Sound { connecter := c } ∧ ∀ far, Follows { connecter := c } far := by
    refine ⟨⟨hordered, by simp, [], by simp [haccepted], messageScanner.scan_nil, .inl rfl⟩,
      fun far => ⟨?_, rfl, List.nil_prefix⟩⟩
    have hreceiver : receiver { connecter := c } = CNetConnecter.fresh {} := by
      rw [receiver, CNetConnecter.fresh, hbuffer, hclose]
    rw [hreceiver]
    exact inStep_fresh
  cases opening with
  | finished opened =>
      have hkeeps := Connecter.CNetConnecter.keeps_onConnect
        { nSendBufferSize, eConnecterMode := .eNCM_Initiative
          eConnecterState := .eNCS_Connected } opened
      exact hnew _ (Connecter.CNetConnecter.ordered_connecter _
        (.finished { opened with calls := [] })) hkeeps.accepted_eq hkeeps.recvBuffer_eq
        hkeeps.bCloseRecv_eq
  | inProgress =>
      exact hnew _ (Connecter.CNetConnecter.ordered_connecter _ .inProgress) rfl rfl rfl
  | failed => exact hnew _ (Connecter.CNetConnecter.ordered_connecter _ .failed) rfl rfl rfl
  | accepted =>
      exact hnew _ (Connecter.CNetConnecter.ordered_connecter _ .accepted) rfl rfl rfl

end LinkSide

/-! ## Runs -/

/-- Each side sends whole messages, and the other one follows it. -/
def LinkSound (l : Bool → LinkSide) : Prop :=
  ∀ s, (l s).Sound ∧ LinkSide.Follows (l !s) (l s)

theorem LinkSound.step {l : Bool → LinkSide} (h : LinkSound l) {s : Bool}
    {event : LinkEvent} (hframed : event.Framed)
    (harrives : (l s).Arrives (l !s) event) :
    LinkSound (Function.update l s ((l s).step event)) := by
  obtain ⟨hsound, hlater⟩ := (h s).1.step hframed
  have hother : (l !s).Sound ∧ LinkSide.Follows (l s) (l !s) := by
    have hs := h (!s)
    rwa [Bool.not_not] at hs
  have hnear := hother.2.step hother.1 harrives
  have hne : (!s) ≠ s := Bool.not_ne_self s
  intro s'
  by_cases hs : s' = s
  · rw [hs, Function.update_self, Function.update_of_ne hne]
    obtain ⟨-, hin, hopen, harrived⟩ := h s
    exact ⟨hsound, hin, hopen, harrived.trans hlater.written⟩
  · have hs' : s' = !s := Bool.eq_not_of_ne hs
    rw [hs', Bool.not_not, Function.update_self, Function.update_of_ne hne]
    exact ⟨hother.1, hnear⟩

/-- Whatever the sides and the network do, and wherever the stream is cut, each side
dispatches the messages of the other one in order, without one left out, used twice or
changed, and does not close the link because of them; and once everything has been written
and read, it has dispatched all of them. -/
theorem nodeLink_delivers {nSendBufferSize : ℕ} {l : Bool → LinkSide}
    (h : ((nodeLink nSendBufferSize).guard fun _ label => label.2.Framed).Reachable l)
    (s : Bool) :
    (l !s).recvLog.dispatched <+: (l s).sent.map SocketData.frame ∧
      (l !s).recvLog.shutdowns = [] ∧
      ((l s).connecter.sendBuffer.data = [] → (l !s).read = (l s).connecter.written →
        (l !s).recvLog.dispatched = (l s).sent.map SocketData.frame) := by
  have hlink : LinkSound l := by
    refine h.invariant (fun l hinit s => ?_) (fun l label l' hl hstep => ?_)
    · obtain ⟨opening, hopened⟩ := hinit s
      obtain ⟨opening', hopened'⟩ := hinit !s
      rw [hopened, hopened']
      exact ⟨(LinkSide.sound_opened nSendBufferSize opening).1,
        (LinkSide.sound_opened nSendBufferSize opening').2 _⟩
    · obtain ⟨⟨harrives, rfl⟩, hframed⟩ := hstep
      exact hl.step hframed harrives
  obtain ⟨hsound, hin, hopen, ys, hys⟩ := hlink s
  obtain ⟨part, heq, hpart, -⟩ := hsound.accepted
  have hcuts : messageScanner.Cuts (l s).connecter.accepted
      ((l s).sent.map SocketData.frame) part := by
    rw [heq]
    exact Scanner.cuts_flatten hsound.encodes part
  have hread : messageScanner.Cuts (l !s).read (l !s).recvLog.dispatched
      (l !s).connecter.recvBuffer.readable := hin.cuts
  have hbytes := hsound.ordered.bytes_eq
  have hstop : ∀ f n, messageScanner.scan part ≠ .frame f n := by
    rw [hpart]
    nofun
  refine ⟨?_, hopen, ?_⟩
  · rw [← hbytes, ← hys, List.append_assoc] at hcuts
    exact (hread.append _).frames_isPrefix hcuts hstop
  · intro hempty hall
    rw [hempty, List.append_nil, ← hall] at hbytes
    rw [← hbytes] at hcuts
    rw [hread.frames_eq_drain hin.stopped, hcuts.frames_eq_drain hstop]

/-- A message of seven bytes that is written and read at once. -/
theorem nodeLink_delivers_message :
    let d : SocketData := ⟨0, .request, [9], []⟩
    ∃ l, ((nodeLink 0).guard fun _ label => label.2.Framed).Reachable l ∧
      (l true).sent = [d] ∧ (l false).recvLog.dispatched = [d.frame] := by
  intro d
  let l₀ : Bool → LinkSide := fun _ => .opened 0 (.finished {})
  let l₁ := Function.update l₀ true ((l₀ true).step (.send d [.room 6] [.room 1]))
  let l₂ := Function.update l₁ false ((l₁ false).step (.poll { bRecv := true } [.data d.wire]))
  have hstart : ((nodeLink 0).guard fun _ label => label.2.Framed).Reachable l₀ :=
    .of_init fun _ => ⟨.finished {}, rfl⟩
  have hsent : ((nodeLink 0).guard fun _ label => label.2.Framed).Reachable l₁ :=
    hstart.step (l := (true, .send d [.room 6] [.room 1])) ⟨⟨trivial, rfl⟩, by decide, by decide, by decide⟩
  have hread : ((nodeLink 0).guard fun _ label => label.2.Framed).Reachable l₂ := by
    refine hsent.step (l := (false, .poll { bRecv := true } [.data d.wire]))
      ⟨⟨fun _ => ⟨⟨⟨by decide, ?_⟩, trivial, trivial⟩, ?_⟩, rfl⟩, trivial⟩
    · have hroom := CNetConnecter.getWritableSize_fresh ({} : RecvLog)
      exact (show d.wire.length ≤ recvBufSize by decide).trans hroom.ge
    · show [] ++ received (performed [.data d.wire]) <+: (l₁ true).connecter.written
      decide
  refine ⟨l₂, hread, by decide, ?_⟩
  exact (nodeLink_delivers hread true).2.2 (by decide) (by decide)

end RealtimeEx.Core
