import RealtimeEx.Network.NetConnecterLoop
import RealtimeEx.Support.History

/-!
# The outgoing bytes of `CNetConnecter`

The bytes that were handed to the socket and the ones that are still buffered are the
bytes of the accepted sends, in order.  The law rests on the buffer being empty whenever
its tail is: only then does `send` write past it.
-/

namespace RealtimeEx.Network

namespace CNetSendBuffer

variable {nBuffBlockSize : ℕ} {b : CNetSendBuffer nBuffBlockSize} {nSize : ℕ}

/-- Bytes that are taken from the tail and popped are the first ones. -/
theorem take_getTailData_append_data_pop (h : nSize ≤ b.getTailDataSize) :
    b.getTailData.take nSize ++ (b.pop nSize).data = b.data := by
  have htake : b.getTailData.take nSize = b.data.take nSize := by
    rw [data_eq_getTailData_append, List.take_append_of_le_length]
    rw [length_getTailData]
    exact h
  rw [data_pop h, htake, List.take_append_drop]

end CNetSendBuffer

namespace Connecter.CNetConnecter

variable {c c' : CNetConnecter} {accepted bytes pData : List UInt8}

/-- The accepted bytes, and the bytes handed to the socket followed by the ones in the
buffer. -/
structure Holds (accepted bytes : List UInt8) (c : CNetConnecter) : Prop where
  accepted_eq : c.accepted = accepted
  bytes_eq : c.written ++ c.sendBuffer.data = bytes
  filled : c.sendBuffer.Filled

theorem Holds.congr (h : Holds accepted bytes c) (haccepted : c'.accepted = c.accepted)
    (hwritten : c'.written = c.written) (hbuffer : c'.sendBuffer = c.sendBuffer) :
    Holds accepted bytes c' := by
  refine ⟨haccepted.trans h.accepted_eq, ?_, ?_⟩
  · rw [hwritten, hbuffer]
    exact h.bytes_eq
  · rw [hbuffer]
    exact h.filled

theorem Holds.shutdown (h : Holds accepted bytes c) (bForce : Bool) :
    Holds accepted bytes (c.shutdown bForce) := by
  rcases c.shutdown_cases bForce with ⟨-, hsame⟩ | ⟨bWaitClose, hclosing⟩
  · rw [hsame]
    exact h
  · rw [hclosing]
    exact h.congr rfl rfl rfl

theorem Holds.push (h : Holds accepted bytes c) (pData : List UInt8) :
    Holds accepted (bytes ++ pData) (c.push pData) := by
  refine ⟨h.accepted_eq, ?_, CNetSendBuffer.filled_push h.filled pData⟩
  show c.written ++ (c.sendBuffer.push pData).data = _
  rw [CNetSendBuffer.data_push, ← List.append_assoc, h.bytes_eq]

/-! ## Sending -/

theorem Holds.onSendLoop (h : Holds accepted bytes c) (writes : List WriteResult) :
    Holds accepted bytes (c.onSendLoop writes) := by
  induction writes generalizing c with
  | nil =>
      rw [CNetConnecter.onSendLoop]
      split
      · exact h
      · exact h.congr rfl rfl rfl
  | cons result writes ih =>
      rw [CNetConnecter.onSendLoop]
      dsimp only
      split
      · exact h
      · rename_i hsize
        have henabled : Holds accepted bytes { c with bDisableWrite := false } :=
          h.congr rfl rfl rfl
        cases result with
        | wouldBlock => exact h.congr rfl rfl rfl
        | interrupted => exact ih henabled
        | error => exact henabled.shutdown true
        | room n =>
            dsimp only
            -- What the socket takes moves from the buffer to the written bytes.
            have htaken : Holds accepted bytes
                { c with
                  bDisableWrite := false
                  written := c.written ++
                    c.sendBuffer.getTailData.take (min n c.sendBuffer.getTailDataSize)
                  sendBuffer :=
                    c.sendBuffer.pop (min n c.sendBuffer.getTailDataSize) } := by
              refine ⟨h.accepted_eq, ?_, ?_⟩
              · dsimp only
                rw [List.append_assoc,
                  CNetSendBuffer.take_getTailData_append_data_pop (Nat.min_le_right _ _)]
                exact h.bytes_eq
              · exact CNetSendBuffer.filled_pop h.filled (Nat.pos_of_ne_zero hsize)
            split
            · exact htaken
            · exact ih htaken

theorem Holds.onSend (h : Holds accepted bytes c) (writes : List WriteResult) :
    Holds accepted bytes (c.onSend writes) := by
  have hloop := h.onSendLoop writes
  rw [CNetConnecter.onSend]
  split
  · split
    · exact hloop.congr rfl rfl rfl
    · exact hloop.congr rfl rfl rfl
  · split
    · exact hloop.congr rfl rfl rfl
    · exact hloop

/-- A write past the buffer, and the rest into the buffer. -/
theorem Holds.sendDirect (h : Holds accepted bytes c)
    (hempty : c.sendBuffer.getTailDataSize = 0) (pData : List UInt8)
    (writes : List WriteResult) :
    Holds accepted
      (if (c.sendDirect pData writes).1 = true then bytes ++ pData else bytes)
      (c.sendDirect pData writes).2 := by
  have hdata : c.sendBuffer.data = [] :=
    (CNetSendBuffer.data_eq_nil_iff h.filled).mpr hempty
  have hbuffered : Holds accepted bytes { c with bDisableWrite := true } :=
    h.congr rfl rfl rfl
  rw [CNetConnecter.sendDirect]
  split
  · exact h.shutdown true
  · rename_i n hroom
    dsimp only
    have htaken : Holds accepted (bytes ++ pData.take (min n pData.length))
        { c with written := c.written ++ pData.take (min n pData.length) } := by
      refine ⟨h.accepted_eq, ?_, h.filled⟩
      have hbytes := h.bytes_eq
      rw [hdata, List.append_nil] at hbytes
      dsimp only
      rw [hdata, List.append_nil, hbytes]
    split
    · have hrest := htaken.push (pData.drop (min n pData.length))
      rw [List.append_assoc, List.take_append_drop] at hrest
      exact hrest
    · rename_i hall
      rw [not_not.mp hall, List.take_length] at htaken
      exact htaken.congr rfl (by rw [not_not.mp hall, List.take_length]; rfl) rfl
  · dsimp only
    split
    · exact hbuffered.push pData
    · rename_i hnil
      rw [List.length_eq_zero_iff.mp (not_not.mp hnil)]
      rw [if_pos rfl, List.append_nil]
      exact h.congr rfl rfl rfl

theorem Holds.sendNow (h : Holds accepted bytes c) (pData : List UInt8)
    (writes : List WriteResult) :
    Holds accepted (if (c.sendNow pData writes).1 = true then bytes ++ pData else bytes)
      (c.sendNow pData writes).2 := by
  rw [CNetConnecter.sendNow]
  split
  · rename_i hempty
    exact h.sendDirect hempty pData writes
  · dsimp only
    split
    · exact (h.push pData).onSend writes
    · exact h.push pData

theorem Holds.sendCached (h : Holds accepted bytes c) (pData : List UInt8)
    (writes : List WriteResult) :
    Holds accepted (if (c.sendCached pData writes).1 = true then bytes ++ pData else bytes)
      (c.sendCached pData writes).2 := by
  rw [CNetConnecter.sendCached]
  split
  · exact h.sendNow pData writes
  · dsimp only
    split
    · exact (h.push pData).onSend writes
    · exact (h.push pData).congr rfl rfl rfl

theorem Holds.sendResult (h : Holds accepted bytes c) (pData : List UInt8) (bCache : Bool)
    (writes : List WriteResult) :
    Holds accepted
      (if (c.sendResult pData bCache writes).1 = true then bytes ++ pData else bytes)
      (c.sendResult pData bCache writes).2 := by
  rw [CNetConnecter.sendResult]
  split
  · exact h
  · split
    · exact h.sendNow pData writes
    · exact h.sendCached pData writes

/-! ## Steps -/

/-- Nothing is lost, duplicated or reordered. -/
def Ordered (c : CNetConnecter) : Prop := Holds c.accepted c.accepted c

theorem Ordered.congr (h : c.Ordered) (haccepted : c'.accepted = c.accepted)
    (hwritten : c'.written = c.written) (hbuffer : c'.sendBuffer = c.sendBuffer) :
    c'.Ordered := by
  rw [Ordered, haccepted]
  exact Holds.congr h haccepted hwritten hbuffer

theorem Holds.ordered (h : Holds c.accepted c.accepted c') : c'.Ordered := by
  rw [Ordered, h.accepted_eq]
  exact h

theorem Ordered.send (h : c.Ordered) (pData : List UInt8) (bCache : Bool)
    (writes : List WriteResult) : (c.send pData bCache writes).Ordered := by
  have hresult := Holds.sendResult h pData bCache writes
  rw [CNetConnecter.send]
  dsimp only
  split
  · rename_i haccepted
    rw [if_pos haccepted] at hresult
    have hsame := hresult.accepted_eq
    refine ⟨rfl, ?_, hresult.filled⟩
    rw [hsame]
    exact hresult.bytes_eq
  · rename_i hrefused
    rw [if_neg hrefused] at hresult
    exact hresult.ordered

theorem Ordered.call (h : c.Ordered) (call : Call) : (c.call call).Ordered := by
  cases call with
  | send pData bCache writes => exact h.send pData bCache writes
  | shutdown bForce => exact (Holds.shutdown h bForce).ordered

theorem Ordered.foldl_call (h : c.Ordered) (calls : List Call) :
    (calls.foldl CNetConnecter.call c).Ordered :=
  foldl_invariant (I := Ordered) (fun _ call h => h.call call) h calls

theorem Ordered.onConnect (h : c.Ordered) (opened : Opened) :
    (c.onConnect opened).Ordered := by
  rw [CNetConnecter.onConnect]
  split
  · exact h
  · dsimp only
    have hfailed : Ordered { c with bDisableWrite := false, bConnectFail := true } :=
      h.congr rfl rfl rfl
    split
    · exact (Holds.shutdown hfailed true).ordered
    · split
      · exact (Holds.shutdown hfailed true).ordered
      · apply Ordered.foldl_call
        exact h.congr rfl rfl rfl

theorem Ordered.onRecv (h : c.Ordered) (reads : List Read) : (c.onRecv reads).Ordered := by
  have hreceive {c : CNetConnecter} (h : c.Ordered) (result : ReadResult) (nSize : ℕ) :
      (c.receive result nSize).Ordered := h.congr rfl rfl rfl
  induction reads generalizing c with
  | nil => exact hreceive h _ _
  | cons read reads ih =>
      obtain ⟨result, nSize, calls⟩ := read
      cases result with
      | data bytes =>
          apply ih
          apply Ordered.foldl_call
          exact (hreceive h (.data bytes) nSize).congr rfl rfl rfl
      | closed =>
          rw [CNetConnecter.onRecv]
          dsimp only
          split
          · exact h.congr rfl rfl rfl
          · exact h.congr rfl rfl rfl
      | wouldBlock => exact hreceive h _ _
      | interrupted => exact ih (hreceive h _ _)
      | error => exact (Holds.shutdown (hreceive h _ _) true).ordered

theorem Ordered.onSend (h : c.Ordered) (writes : List WriteResult) :
    (c.onSend writes).Ordered :=
  (Holds.onSend h writes).ordered

theorem Ordered.onEvent (h : c.Ordered) (e : NetEvent) : (c.onEvent e).Ordered := by
  have hopen : Ordered
      (if e.bError = true then
        c.shutdown true
      else
        let c := if e.bRecv = true ∧ c.bCloseRecv = false then c.onRecv e.reads else c
        if e.bSend = true then c.onSend e.writes else c) := by
    split
    · exact (Holds.shutdown h true).ordered
    · dsimp only
      split
      · split
        · exact (h.onRecv e.reads).onSend e.writes
        · exact h.onSend e.writes
      · split
        · exact h.onRecv e.reads
        · exact h
  rw [CNetConnecter.onEvent]
  cases c.eConnecterState with
  | eNCS_Connecting =>
      have hopened : Ordered
          (if e.bSend = true ∨ e.bError = true then c.onConnect e.opened else c) := by
        split
        · exact h.onConnect e.opened
        · exact h
      generalize (if e.bSend = true ∨ e.bError = true then c.onConnect e.opened else c) = c'
        at hopened
      dsimp only
      split
      · exact hopened.onRecv e.reads
      · exact hopened
  | eNCS_Connected => exact hopen
  | eNCS_Disconnecting => exact hopen
  | eNCS_Disconnected => exact h

theorem Ordered.release (h : c.Ordered) : c.release.Ordered := by
  rw [CNetConnecter.release]
  dsimp only
  split
  · exact h.congr rfl rfl rfl
  · exact h.congr rfl rfl rfl

theorem Ordered.update (h : c.Ordered) (writes : List WriteResult) :
    (c.update writes).Ordered := by
  rw [CNetConnecter.update]
  split
  · exact h.release
  · dsimp only
    split
    · exact (h.onSend writes).congr rfl rfl rfl
    · exact h.congr rfl rfl rfl

theorem Ordered.step (h : c.Ordered) (event : Event) : (c.step event).Ordered := by
  unfold CNetConnecter.step
  split
  · exact h
  · cases event with
    | call call => exact h.call call
    | update writes => exact h.update writes
    | poll e =>
        dsimp only
        split
        · exact h
        · exact (h.onEvent e).congr rfl rfl rfl
    | destroy => exact h.release

theorem ordered_connecter (nSendBufferSize : ℕ) (opening : Opening) :
    (opening.connecter nSendBufferSize).Ordered := by
  have hempty : ∀ c : CNetConnecter, c.sendBuffer = .init sendBufSize → c.written = [] →
      c.accepted = [] → c.Ordered := by
    intro c hbuffer hwritten haccepted
    refine ⟨rfl, ?_, ?_⟩
    · rw [hbuffer, hwritten, haccepted]
      rfl
    · rw [hbuffer]
      exact CNetSendBuffer.filled_init
  cases opening with
  | inProgress => exact hempty _ rfl rfl rfl
  | finished opened => exact (hempty _ rfl rfl rfl).onConnect opened
  | failed => exact hempty _ rfl rfl rfl
  | accepted => exact hempty _ rfl rfl rfl

/-- In every run, the bytes handed to the socket followed by the ones still buffered are
the bytes of the accepted sends. -/
theorem written_append_data_run (nSendBufferSize : ℕ) (opening : Opening)
    (events : List Event) :
    (run nSendBufferSize opening events).written ++
        (run nSendBufferSize opening events).sendBuffer.data =
      (run nSendBufferSize opening events).accepted := by
  have hordered : (run nSendBufferSize opening events).Ordered :=
    foldl_invariant (I := Ordered) (fun _ event h => h.step event)
      (ordered_connecter nSendBufferSize opening) events
  exact hordered.bytes_eq

end Connecter.CNetConnecter

end RealtimeEx.Network
