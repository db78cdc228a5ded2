import RealtimeEx.Core.CoreConnection
import RealtimeEx.Network.NetConnecter

/-!
# The messages of a connection do not depend on the reads

`CCoreConnection::onRecv` as the handler of a `CNetConnecter`: however a byte
stream is divided into reads, the same messages are dispatched and the same bytes
are left over.
-/

namespace RealtimeEx.Core

open Network

/-! ## Message parsers -/

/-- `default_client_message_parser`: the size of the message, and its type if the
size is positive. -/
def defaultClientMessageParser (data : List UInt8) : ℤ × UInt8 :=
  if data.length < sizeofMessageHeader then
    (0, 0)
  else
    let messageSize := leNat (data.take 2)
    if messageSize < sizeofMessageHeader then
      (-1, 0)
    else if data.length < messageSize then
      (0, 0)
    else
      (messageSize, MessageType.client.code)

/-- One round of the loop of `CCoreConnection::onRecv` with a message parser; the
message is dispatched with its header. -/
def scanParsed (messageParser : List UInt8 → ℤ × UInt8) (data : List UInt8) :
    Scan Frame :=
  let (parserSize, messageType) := messageParser data
  if parserSize = 0 then
    .incomplete
  else if parserSize ≤ 0 ∨ parserSize > 2 ^ 16 - 1 then
    .broken
  else
    .frame { messageType, data := data.take parserSize.toNat } parserSize.toNat

theorem leNat_take_two_lt (data : List UInt8) : leNat (data.take 2) < 2 ^ 16 := by
  have hlt := leNat_lt (data.take 2)
  have hpow : 256 ^ (data.take 2).length ≤ 256 ^ 2 :=
    Nat.pow_le_pow_right (by decide) (List.length_take_le 2 data)
  omega

/-- The parser of clients finds messages where `onRecv` finds them without a
parser. -/
theorem scanParsed_defaultClientMessageParser (data : List UInt8) :
    scanParsed defaultClientMessageParser data =
      match scanMessage data with
      | .incomplete => .incomplete
      | .broken => .broken
      | .frame _ n =>
          .frame { messageType := MessageType.client.code, data := data.take n } n := by
  have hlt := leNat_take_two_lt data
  rw [scanParsed, defaultClientMessageParser, scanMessage]
  by_cases hheader : data.length < sizeofMessageHeader
  · simp [hheader]
  · by_cases hsize : leNat (data.take 2) < sizeofMessageHeader
    · simp [hheader, hsize]
    · by_cases hlength : data.length < leNat (data.take 2)
      · simp [hheader, hsize, hlength]
      · have hpos : leNat (data.take 2) ≠ 0 := by
          simp only [sizeofMessageHeader] at hsize
          omega
        simp only [hheader, hsize, hlength, if_false]
        rw [if_neg (by exact_mod_cast hpos), if_neg (by push_cast; omega)]
        rfl

theorem scan_client_frame {data : List UInt8} {f : Frame} {n : ℕ} :
    scanParsed defaultClientMessageParser data = .frame f n ↔
      (∃ g, scanMessage data = .frame g n) ∧
        f = { messageType := MessageType.client.code, data := data.take n } := by
  rw [scanParsed_defaultClientMessageParser]
  cases scanMessage data with
  | incomplete => simp
  | broken => simp
  | frame g m =>
      simp only [Scan.frame.injEq]
      constructor
      · rintro ⟨rfl, rfl⟩
        exact ⟨⟨g, rfl, rfl⟩, rfl⟩
      · rintro ⟨⟨_, _, rfl⟩, rfl⟩
        exact ⟨rfl, rfl⟩

theorem scan_client_broken {data : List UInt8} :
    scanParsed defaultClientMessageParser data = .broken ↔ scanMessage data = .broken := by
  rw [scanParsed_defaultClientMessageParser]
  cases scanMessage data <;> simp

/-- The messages of a client. -/
def clientScanner : Scanner UInt8 Frame where
  scan := scanParsed defaultClientMessageParser
  scan_nil := rfl
  size_pos h := by
    obtain ⟨⟨g, hg⟩, -⟩ := scan_client_frame.mp h
    exact messageScanner.size_pos hg
  size_le h := by
    obtain ⟨⟨g, hg⟩, -⟩ := scan_client_frame.mp h
    exact messageScanner.size_le hg
  frame_append := by
    intro xs f n ys h
    obtain ⟨⟨g, hg⟩, rfl⟩ := scan_client_frame.mp h
    refine scan_client_frame.mpr ⟨⟨g, messageScanner.frame_append ys hg⟩, ?_⟩
    rw [List.take_append_of_le_length (messageScanner.size_le hg)]
  broken_append := by
    intro xs ys h
    exact scan_client_broken.mpr
      (messageScanner.broken_append ys (scan_client_broken.mp h))

theorem length_lt_of_scanMessage_incomplete {data : List UInt8}
    (h : scanMessage data = .incomplete) : data.length < 2 ^ 16 := by
  have hlt := leNat_take_two_lt data
  rw [scanMessage] at h
  split at h
  · rename_i hheader
    simp only [sizeofMessageHeader] at hheader
    omega
  · dsimp only at h
    split at h
    · cases h
    · split at h
      · omega
      · cases h

/-- A way to find messages that `CCoreConnection::onRecv` can use: a message has
less than 2^16 bytes, and a longer stream always shows its first one. -/
structure LinkParser where
  scanner : Scanner UInt8 Frame
  errorText : List UInt8 → String
  short : ∀ {data}, scanner.scan data = .incomplete → data.length < 2 ^ 16

/-- No message parser, as on a node link. -/
def LinkParser.noParser : LinkParser where
  scanner := messageScanner
  errorText data :=
    "message size error message_type[" ++ toString (leNat (data.take 2)) ++ "]"
  short := length_lt_of_scanMessage_incomplete

/-- `default_client_message_parser`, as on the links of clients. -/
def LinkParser.defaultClient : LinkParser where
  scanner := clientScanner
  errorText data :=
    "parser message error " ++ toString (defaultClientMessageParser data).1
  short h := by
    refine length_lt_of_scanMessage_incomplete ?_
    change scanParsed defaultClientMessageParser _ = _ at h
    rw [scanParsed_defaultClientMessageParser] at h
    cases hscan : scanMessage _ with
    | incomplete => rfl
    | broken => simp [hscan] at h
    | frame g n => simp [hscan] at h

/-! ## The handler -/

/-- What a connection has done with the bytes it received: the calls of
`onDispatch`, and the texts of its calls of `shutdown`. -/
structure RecvLog where
  dispatched : List Frame := []
  shutdowns : List String := []

/-- `CCoreConnection::onRecv`. -/
def onRecv (P : LinkParser) (data : List UInt8) (log : RecvLog) : ℕ × RecvLog :=
  let (frames, recvSize, broken) := P.scanner.cut data
  (recvSize,
    { dispatched := log.dispatched ++ frames
      shutdowns :=
        if broken then
          log.shutdowns ++ [P.errorText (data.drop recvSize)]
        else
          log.shutdowns })

/-- A connection as the handler of its connecter. -/
def linkHandler (P : LinkParser) : NetConnecterHandler RecvLog where
  onRecv := onRecv P

/-- The reads of a connection. -/
def linkReading (P : LinkParser) :
    TransitionSystem (CNetConnecter RecvLog) ReadResult :=
  CNetConnecter.reading (linkHandler P) {}

/-- A connection that has received the bytes `xs` has dispatched the messages at
their front, has kept what is behind them, and cannot go on with it. -/
structure InStep (P : LinkParser) (xs : List UInt8) (c : CNetConnecter RecvLog) :
    Prop where
  cuts : P.scanner.Cuts xs c.handler.dispatched c.recvBuffer.readable
  stopped : ∀ f n, P.scanner.scan c.recvBuffer.readable ≠ .frame f n
  waits : c.handler.shutdowns = [] →
    P.scanner.scan c.recvBuffer.readable = .incomplete ∧
      c.recvBuffer.getBufferSize ≤ 2 ^ 18 ∧ 0 < c.recvBuffer.getBufferSize

variable {P : LinkParser} {c : CNetConnecter RecvLog} {xs : List UInt8}

theorem inStep_fresh : InStep P [] (CNetConnecter.fresh {}) where
  cuts := .nil []
  stopped := by
    intro f n h
    have hnil : P.scanner.scan [] = .frame f n := h
    rw [P.scanner.scan_nil] at hnil
    cases hnil
  waits := by
    intro _
    have hsize : (CNetConnecter.fresh ({} : RecvLog)).recvBuffer.getBufferSize =
        recvBufSize := CNetRecvBuffer.getBufferSize_init recvBufSize
    rw [hsize]
    exact ⟨P.scanner.scan_nil, by decide, by decide⟩

/-- While a connection has not given up there is room for the next read. -/
theorem InStep.room (h : InStep P xs c) (hopen : c.handler.shutdowns = []) :
    0 < (ensureWritable c.recvBuffer).getWritableSize ∧
      (ensureWritable c.recvBuffer).getBufferSize ≤ 2 ^ 18 ∧
      0 < (ensureWritable c.recvBuffer).getBufferSize := by
  obtain ⟨hscan, hsize, hpos⟩ := h.waits hopen
  have hshort := P.short hscan
  rw [CNetRecvBuffer.length_readable] at hshort
  exact ensureWritable_spec hshort hsize hpos

/-- A read without data may only enlarge the buffer. -/
theorem InStep.grown (h : InStep P xs c) {closeRecv : Bool} :
    InStep P (xs ++ [])
      { c with recvBuffer := ensureWritable c.recvBuffer, closeRecv } := by
  rw [List.append_nil]
  refine ⟨?_, ?_, ?_⟩
  · rw [readable_ensureWritable]
    exact h.cuts
  · rw [readable_ensureWritable]
    exact h.stopped
  · intro hopen
    rw [readable_ensureWritable]
    exact ⟨(h.waits hopen).1, (h.room hopen).2⟩

/-- One round of `CNetConnecter::onRecv` keeps a connection in step. -/
theorem InStep.onRead (h : InStep P xs c) {result : ReadResult}
    (hfits : c.Fits result) :
    InStep P (xs ++ received [result]) (c.onRead (linkHandler P) result) := by
  cases result with
  | data bytes =>
      obtain ⟨hsize, hcuts, hend⟩ :=
        P.scanner.cut_spec (c.recvBuffer.readable ++ bytes)
      obtain ⟨hreadable, hhandler⟩ :=
        CNetConnecter.readable_onRead_data (linkHandler P) hfits hsize
      have hbytes : received [.data bytes] = bytes := by simp [received]
      rw [hbytes]
      refine ⟨?_, ?_, ?_⟩
      · rw [hreadable, hhandler]
        exact (h.cuts.append bytes).trans hcuts
      · intro f n hframe
        rw [hreadable] at hframe
        have hsame := hframe.symm.trans hend
        split at hsame
        · cases hsame
        · cases hsame
      · intro hopen
        rw [hhandler] at hopen
        have hbroken : (P.scanner.cut (c.recvBuffer.readable ++ bytes)).2.2 = false := by
          cases hb : (P.scanner.cut (c.recvBuffer.readable ++ bytes)).2.2 with
          | false => rfl
          | true => simp [linkHandler, onRecv, hb] at hopen
        have hold : c.handler.shutdowns = [] := by
          simpa [linkHandler, onRecv, hbroken] using hopen
        rw [CNetConnecter.getBufferSize_onRead, hreadable]
        rw [hbroken] at hend
        exact ⟨hend, (h.room hold).2⟩
  | closed => exact h.grown
  | wouldBlock => exact h.grown
  | interrupted => exact h.grown
  | error => exact h.grown

/-- However the bytes were divided into reads, a connection has dispatched the
messages at the front of what it received and has kept the bytes behind them; and
while it has not given up there is room for the next read. -/
theorem inStep_of_run {ls : List ReadResult}
    (h : (linkReading P).Run (CNetConnecter.fresh {}) ls c) :
    InStep P (received ls) c := by
  induction h with
  | nil => exact inStep_fresh
  | snoc _ hstep ih =>
      obtain ⟨-, hfits, rfl⟩ := hstep
      have hin := ih.onRead hfits
      rwa [← received_append] at hin

/-- Two connections that received the same bytes, in whatever reads, have
dispatched the same messages and have kept the same bytes: the stream is cut into
the messages, without a byte left out or used twice, and the rest. -/
theorem segmentation_independent (P : LinkParser) {ls ls' : List ReadResult}
    {c c' : CNetConnecter RecvLog}
    (h : (linkReading P).Run (CNetConnecter.fresh {}) ls c)
    (h' : (linkReading P).Run (CNetConnecter.fresh {}) ls' c')
    (hsame : received ls = received ls') :
    c.handler.dispatched = c'.handler.dispatched ∧
      c.recvBuffer.readable = c'.recvBuffer.readable ∧
      P.scanner.Cuts (received ls) c.handler.dispatched c.recvBuffer.readable ∧
      (c.handler.shutdowns = [] →
        0 < (ensureWritable c.recvBuffer).getWritableSize) := by
  have hin := inStep_of_run h
  have hin' := inStep_of_run h'
  rw [← hsame] at hin'
  refine ⟨?_, ?_, hin.cuts, fun hopen => (hin.room hopen).1⟩
  · rw [hin.cuts.frames_eq_drain hin.stopped, hin'.cuts.frames_eq_drain hin'.stopped]
  · exact hin.cuts.rest_unique hin.stopped hin'.cuts hin'.stopped

/-- A message of seven bytes, read at once or with its last byte apart. -/
theorem segmentation_independent_split :
    ∃ c c', (linkReading .noParser).Run (CNetConnecter.fresh {})
        [.data [7, 0, 2, 0, 0, 0, 9]] c ∧
      (linkReading .noParser).Run (CNetConnecter.fresh {})
        [.data [7, 0, 2, 0, 0, 0], .data [9]] c' ∧
      c.handler.dispatched = c'.handler.dispatched := by
  have hroom := CNetConnecter.getWritableSize_fresh ({} : RecvLog)
  have hwhole : (CNetConnecter.fresh ({} : RecvLog)).Fits
      (.data [7, 0, 2, 0, 0, 0, 9]) := ⟨by simp, by rw [hroom]; decide⟩
  have hfirst : (CNetConnecter.fresh ({} : RecvLog)).Fits
      (.data [7, 0, 2, 0, 0, 0]) := ⟨by simp, by rw [hroom]; decide⟩
  have hrun := TransitionSystem.Run.single (M := linkReading .noParser)
    ⟨rfl, hfirst, rfl⟩
  have hscan : messageScanner.scan [7, 0, 2, 0, 0, 0] = .incomplete := by decide
  have hcut := messageScanner.cut_of_incomplete hscan
  have hopen : ((CNetConnecter.fresh ({} : RecvLog)).onRead (linkHandler .noParser)
      (.data [7, 0, 2, 0, 0, 0])).handler.shutdowns = [] := by
    have hsize : ((linkHandler .noParser).onRecv ([] ++ [7, 0, 2, 0, 0, 0]) {}).1 ≤ 6 := by
      simp [linkHandler, onRecv, LinkParser.noParser, hcut]
    rw [(CNetConnecter.readable_onRead_data (linkHandler .noParser) hfirst hsize).2]
    simp [linkHandler, onRecv, LinkParser.noParser, hcut, CNetConnecter.fresh]
  have hlast := ((inStep_of_run hrun).room hopen).1
  have hsecond := TransitionSystem.Run.single (M := linkReading .noParser)
    ⟨rfl, hwhole, rfl⟩
  have hbyte : ((CNetConnecter.fresh ({} : RecvLog)).onRead (linkHandler .noParser)
      (.data [7, 0, 2, 0, 0, 0])).Fits (.data [9]) := ⟨by simp, hlast⟩
  have hsplit := hrun.snoc (l := .data [9]) ⟨rfl, hbyte, rfl⟩
  exact ⟨_, _, hsecond, hsplit,
    (segmentation_independent .noParser hsecond hsplit rfl).1⟩

end RealtimeEx.Core
