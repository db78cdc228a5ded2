import RealtimeEx.Network.NetBuffer
import RealtimeEx.Support.Transition

/-!
# Receiving with `CNetConnecter`

`CNetConnecter::onRecv` reads from the socket into the receive buffer and hands
everything that is readable to its handler, which says how much of it to pop.
How many bytes a read returns is up to the operating system, except that it does
not return more than there is room for.
-/

namespace RealtimeEx.Network

universe u

/-- `INetConnecterHandler`, as far as it receives: the bytes it takes, and its
state afterwards. -/
structure NetConnecterHandler (σ : Type u) where
  onRecv : List UInt8 → σ → ℕ × σ

/-- The receiving part of `CNetConnecter`; `closeRecv` is the flag
`eNCF_CloseRecv`. -/
structure CNetConnecter (σ : Type u) where
  recvBuffer : CNetRecvBuffer
  closeRecv : Bool
  handler : σ

/-- What a read from the socket returns. -/
inductive ReadResult
  | data (bytes : List UInt8)
  | closed
  | wouldBlock
  | interrupted
  | error
  deriving DecidableEq

/-- The bytes that a series of reads returns. -/
def received (results : List ReadResult) : List UInt8 :=
  results.flatMap fun
    | .data bytes => bytes
    | _ => []

theorem received_append (results results' : List ReadResult) :
    received (results ++ results') = received results ++ received results' :=
  List.flatMap_append

/-- The start of a round of `onRecv`: a full buffer is doubled.  The size is a
`uint32_t`. -/
def ensureWritable (b : CNetRecvBuffer) : CNetRecvBuffer :=
  if b.getWritableSize = 0 then
    b.resize (b.getBufferSize * 2 % 2 ^ 32)
  else
    b

@[simp] theorem readable_ensureWritable (b : CNetRecvBuffer) :
    (ensureWritable b).readable = b.readable := by
  rw [ensureWritable]
  split
  · exact b.readable_resize _
  · rfl

namespace CNetConnecter

variable {σ : Type u} (H : NetConnecterHandler σ)

/-- A connection that has just been made. -/
def fresh (handler : σ) : CNetConnecter σ where
  recvBuffer := .init recvBufSize
  closeRecv := false
  handler := handler

theorem getWritableSize_fresh (handler : σ) :
    (ensureWritable (fresh handler).recvBuffer).getWritableSize = recvBufSize := by
  have hsize : (fresh handler).recvBuffer.getWritableSize = recvBufSize :=
    CNetRecvBuffer.getWritableSize_init recvBufSize
  rw [ensureWritable, hsize, if_neg (by decide), hsize]

/-- One round of `onRecv`. -/
def onRead (c : CNetConnecter σ) : ReadResult → CNetConnecter σ
  | .data bytes =>
      let buffer := ((ensureWritable c.recvBuffer).write bytes).push bytes.length
      let (nSize, handler) := H.onRecv buffer.readable c.handler
      { c with recvBuffer := buffer.pop nSize, handler }
  | .closed => { c with recvBuffer := ensureWritable c.recvBuffer, closeRecv := true }
  | _ => { c with recvBuffer := ensureWritable c.recvBuffer }

/-- A read returns data only if there is room for it. -/
def Fits (c : CNetConnecter σ) : ReadResult → Prop
  | .data bytes => bytes ≠ [] ∧ bytes.length ≤ (ensureWritable c.recvBuffer).getWritableSize
  | _ => True

/-- The reads of a connection.  `onEvent` does not receive any more after the
other side has closed. -/
def reading (handler : σ) : TransitionSystem (CNetConnecter σ) ReadResult where
  init c := c = fresh handler
  step c result c' := c.closeRecv = false ∧ c.Fits result ∧ c' = c.onRead H result

/-- A round that reads data, in terms of what is readable. -/
theorem readable_onRead_data {c : CNetConnecter σ} {bytes : List UInt8}
    (hfits : c.Fits (.data bytes))
    (hpop : (H.onRecv (c.recvBuffer.readable ++ bytes) c.handler).1 ≤
      (c.recvBuffer.readable ++ bytes).length) :
    (c.onRead H (.data bytes)).recvBuffer.readable =
        (c.recvBuffer.readable ++ bytes).drop
          (H.onRecv (c.recvBuffer.readable ++ bytes) c.handler).1 ∧
      (c.onRead H (.data bytes)).handler =
        (H.onRecv (c.recvBuffer.readable ++ bytes) c.handler).2 := by
  have hreadable : (((ensureWritable c.recvBuffer).write bytes).push
      bytes.length).readable = c.recvBuffer.readable ++ bytes := by
    rw [CNetRecvBuffer.readable_push_write hfits.2, readable_ensureWritable]
  have hsize : (H.onRecv (c.recvBuffer.readable ++ bytes) c.handler).1 ≤
      (((ensureWritable c.recvBuffer).write bytes).push bytes.length).getReadableSize := by
    rw [← CNetRecvBuffer.length_readable, hreadable]
    exact hpop
  constructor
  · show (CNetRecvBuffer.pop _ (H.onRecv _ c.handler).1).readable = _
    rw [hreadable, CNetRecvBuffer.readable_pop hsize, hreadable]
  · show (H.onRecv _ c.handler).2 = _
    rw [hreadable]

/-! ## Without the buffer -/

/-- A read as far as the handler is concerned, of a connection with the given
pending bytes: the buffer refuses to pop more than there is. -/
def take (pending : List UInt8 × σ) (bytes : List UInt8) : List UInt8 × σ :=
  let data := pending.1 ++ bytes
  let (nSize, handler) := H.onRecv data pending.2
  (if nSize ≤ data.length then data.drop nSize else data, handler)

/-- A series of reads of a new connection: what is pending, and the handler. -/
def receive (handler : σ) (reads : List (List UInt8)) : List UInt8 × σ :=
  reads.foldl (take H) ([], handler)

theorem receive_append_singleton (handler : σ) (reads : List (List UInt8))
    (bytes : List UInt8) :
    receive H handler (reads ++ [bytes]) = take H (receive H handler reads) bytes := by
  rw [receive, List.foldl_append]
  rfl

/-- A round that reads data is such a read. -/
theorem take_onRead_data {c : CNetConnecter σ} {bytes : List UInt8}
    (hfits : c.Fits (.data bytes)) :
    ((c.onRead H (.data bytes)).recvBuffer.readable, (c.onRead H (.data bytes)).handler) =
      take H (c.recvBuffer.readable, c.handler) bytes := by
  have hreadable : (((ensureWritable c.recvBuffer).write bytes).push
      bytes.length).readable = c.recvBuffer.readable ++ bytes := by
    rw [CNetRecvBuffer.readable_push_write hfits.2, readable_ensureWritable]
  rw [onRead, take]
  simp only [hreadable]
  congr 1
  split
  · rename_i hpop
    rw [CNetRecvBuffer.readable_pop, hreadable]
    rwa [← CNetRecvBuffer.length_readable, hreadable]
  · rename_i hpop
    rw [CNetRecvBuffer.pop_of_lt, hreadable]
    rw [← CNetRecvBuffer.length_readable, hreadable]
    exact Nat.lt_of_not_le hpop

/-- The reads that returned data. -/
def dataReads (results : List ReadResult) : List (List UInt8) :=
  results.filterMap fun
    | .data bytes => some bytes
    | _ => none

/-- In every run of a connection, what is readable and what the handler has done
follow from the reads that returned data. -/
theorem receive_of_run {s : σ} {ls : List ReadResult} {c : CNetConnecter σ}
    (h : (reading H s).Run (fresh s) ls c) :
    (c.recvBuffer.readable, c.handler) = receive H s (dataReads ls) := by
  induction h with
  | nil => rfl
  | @snoc c c' ls l _ hstep ih =>
      obtain ⟨-, hfits, rfl⟩ := hstep
      rw [dataReads, List.filterMap_append]
      cases l with
      | data bytes =>
          have hstep := receive_append_singleton H s (dataReads ls) bytes
          rw [take_onRead_data H hfits, ih]
          exact hstep.symm
      | _ =>
          simpa [onRead, dataReads] using ih

/-- Only a full buffer grows, and then it doubles. -/
theorem getBufferSize_onRead (c : CNetConnecter σ) (result : ReadResult) :
    (c.onRead H result).recvBuffer.getBufferSize =
      (ensureWritable c.recvBuffer).getBufferSize := by
  cases result with
  | data bytes => simp [onRead]
  | _ => rfl

end CNetConnecter

/-- While few bytes are readable the buffer stays small and there is room for
the next read. -/
theorem ensureWritable_spec {b : CNetRecvBuffer} (hread : b.getReadableSize < 2 ^ 16)
    (hsize : b.getBufferSize ≤ 2 ^ 18) (hpos : 0 < b.getBufferSize) :
    0 < (ensureWritable b).getWritableSize ∧
      (ensureWritable b).getBufferSize ≤ 2 ^ 18 ∧
      0 < (ensureWritable b).getBufferSize := by
  rw [ensureWritable]
  split
  · rename_i hfull
    have hhalf := CNetRecvBuffer.le_getReadableSize_of_full hfull
    have hmod : b.getBufferSize * 2 % 2 ^ 32 = b.getBufferSize * 2 :=
      Nat.mod_eq_of_lt (by omega)
    have hgrows : b.getBufferSize < b.getBufferSize * 2 := by omega
    rw [hmod]
    refine ⟨CNetRecvBuffer.getWritableSize_resize hgrows, ?_, ?_⟩
    · rw [CNetRecvBuffer.getBufferSize_resize hgrows]
      omega
    · rw [CNetRecvBuffer.getBufferSize_resize hgrows]
      omega
  · rename_i hroom
    exact ⟨Nat.pos_of_ne_zero hroom, hsize, hpos⟩

end RealtimeEx.Network
