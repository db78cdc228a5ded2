import Mathlib.Algebra.Order.Ring.Int
import RealtimeEx.Core.CoreConnectionRecv
import RealtimeEx.Core.WebsocketReceiveLoop
import RealtimeEx.Support.History

/-!
# Condemned connections

The connecter goes on reading behind a forced shutdown, until the socket has nothing more or
the loop releases it.  A `CCoreConnection` keeps the bytes it was shut down for, and finds
no message behind them.  A `CCoreWebsocketConnection` does not, and takes no notice of its
own state when it dispatches.
-/

namespace RealtimeEx.Core

open Network

/-! ## Connecters in their loop -/

/-- A kind of connection: what it does as a handler, if it has called `shutdown(true)`,
if it is condemned, and what it has dispatched. -/
structure ConnectionKind (σ μ : Type) where
  handler : NetConnecterHandler σ
  forced : σ → Bool
  Condemned : σ → Prop
  dispatched : σ → List μ

/-- `CNetConnecter` as far as it receives: `bWaitClose` says that it is in the close list of
its loop. -/
structure Receiving (σ : Type) where
  connecter : CNetConnecter σ
  bWaitClose : Bool := false
  bReleased : Bool := false

/-- What the loop does with a connecter: a round of `CNetConnecter::onRecv`, a `close` for
any other reason than the handler, and the start of `CNetEventLoop::update`. -/
inductive LoopStep
  | read (result : ReadResult)
  | close
  | update

instance CNetConnecter.decidableFits {σ : Type} (c : CNetConnecter σ) :
    ∀ result, Decidable (c.Fits result)
  | .data bytes =>
      inferInstanceAs (Decidable (bytes ≠ [] ∧
        bytes.length ≤ (ensureWritable c.recvBuffer).getWritableSize))
  | .closed => inferInstanceAs (Decidable True)
  | .wouldBlock => inferInstanceAs (Decidable True)
  | .interrupted => inferInstanceAs (Decidable True)
  | .error => inferInstanceAs (Decidable True)

namespace Receiving

variable {σ μ : Type} (K : ConnectionKind σ μ)

/-- A connecter that has just been made. -/
def fresh (handler : σ) : Receiving σ where
  connecter := .fresh handler

/-- The connecter is there, the other side has not closed, and the read is one that the
socket can answer. -/
def CanRead (c : Receiving σ) (result : ReadResult) : Prop :=
  c.bReleased = false ∧ c.connecter.closeRecv = false ∧ c.connecter.Fits result

instance (c : Receiving σ) (result : ReadResult) : Decidable (c.CanRead result) :=
  inferInstanceAs (Decidable (_ ∧ _ ∧ _))

/-- A step; reads that cannot be made change nothing. -/
def step (c : Receiving σ) : LoopStep → Receiving σ
  | .read result =>
      if c.CanRead result then
        let connecter := c.connecter.onRead K.handler result
        { c with
          connecter
          bWaitClose := c.bWaitClose || result = .error || K.forced connecter.handler }
      else
        c
  | .close => { c with bWaitClose := true }
  | .update => { c with bReleased := c.bReleased || c.bWaitClose }

/-- The bytes that the handler has not consumed, and the handler. -/
def view (c : Receiving σ) : List UInt8 × σ :=
  (c.connecter.recvBuffer.readable, c.connecter.handler)

/-- Once the connection is condemned, nothing is dispatched any more. -/
def NoLateDispatch (c : Receiving σ) (es : List LoopStep) : Prop :=
  ∀ ks ms, ks ++ ms <+: es →
    K.Condemned (ks.foldl (step K) c).connecter.handler →
    K.dispatched ((ks ++ ms).foldl (step K) c).connecter.handler =
      K.dispatched (ks.foldl (step K) c).connecter.handler

variable {K} {c : Receiving σ}

/-- Only a read that returns data is seen by the handler. -/
theorem view_step (e : LoopStep) :
    view (c.step K e) = view c ∨
      ∃ bytes, e = .read (.data bytes) ∧ c.CanRead (.data bytes) ∧
        view (c.step K e) = CNetConnecter.take K.handler (view c) bytes := by
  cases e with
  | close => exact .inl rfl
  | update => exact .inl rfl
  | read result =>
      by_cases hcan : c.CanRead result
      · cases result with
        | data bytes =>
            refine .inr ⟨bytes, rfl, hcan, ?_⟩
            rw [step, if_pos hcan]
            exact CNetConnecter.take_onRead_data K.handler hcan.2.2
        | closed =>
            rw [step, if_pos hcan]
            exact .inl (Prod.ext (readable_ensureWritable _) rfl)
        | wouldBlock =>
            rw [step, if_pos hcan]
            exact .inl (Prod.ext (readable_ensureWritable _) rfl)
        | interrupted =>
            rw [step, if_pos hcan]
            exact .inl (Prod.ext (readable_ensureWritable _) rfl)
        | error =>
            rw [step, if_pos hcan]
            exact .inl (Prod.ext (readable_ensureWritable _) rfl)
      · rw [step, if_neg hcan]
        exact .inl rfl

theorem view_read {bytes : List UInt8} (hcan : c.CanRead (.data bytes)) :
    view (c.step K (.read (.data bytes))) = CNetConnecter.take K.handler (view c) bytes := by
  rw [step, if_pos hcan]
  exact CNetConnecter.take_onRead_data K.handler hcan.2.2

/-- Half of an empty buffer is room. -/
theorem getBufferSize_le_of_empty (hempty : (view c).1 = []) :
    c.connecter.recvBuffer.getBufferSize ≤ 2 * c.connecter.recvBuffer.getWritableSize := by
  have hhalf := c.connecter.recvBuffer.getBufferSize_le
  have hnone : c.connecter.recvBuffer.getReadableSize = 0 := by
    rw [← CNetRecvBuffer.length_readable, show c.connecter.recvBuffer.readable = [] from hempty]
    rfl
  omega

/-- A few bytes can be read into a buffer that is empty and not smaller than at first. -/
theorem canRead_of_empty (hreleased : c.bReleased = false)
    (hopen : c.connecter.closeRecv = false) (hempty : (view c).1 = [])
    (hsize : c.connecter.recvBuffer.getBufferSize = recvBufSize) {bytes : List UInt8}
    (hbytes : bytes ≠ []) (hshort : bytes.length ≤ 1024) :
    c.CanRead (.data bytes) ∧
      (c.step K (.read (.data bytes))).connecter.recvBuffer.getBufferSize = recvBufSize := by
  have hroom := getBufferSize_le_of_empty hempty
  rw [hsize] at hroom
  have hsame : ensureWritable c.connecter.recvBuffer = c.connecter.recvBuffer := by
    rw [ensureWritable, if_neg]
    intro hfull
    rw [hfull] at hroom
    exact absurd hroom (by decide)
  have hcan : c.CanRead (.data bytes) := by
    refine ⟨hreleased, hopen, hbytes, ?_⟩
    rw [hsame]
    rw [recvBufSize] at hroom
    omega
  refine ⟨hcan, ?_⟩
  rw [step, if_pos hcan]
  dsimp only
  rw [CNetConnecter.getBufferSize_onRead, hsame, hsize]

end Receiving

/-! ## `CCoreConnection` -/

section

variable (P : LinkParser)

/-- A `CCoreConnection`; all its calls of `shutdown` are forced. -/
def coreConnectionKind : ConnectionKind RecvLog Frame where
  handler := linkHandler P
  forced log := log.shutdowns ≠ []
  Condemned log := log.shutdowns ≠ []
  dispatched := RecvLog.dispatched

/-- A connection that has been shut down is left with bytes that do not begin a message. -/
def Stuck (seen : List UInt8 × RecvLog) : Prop :=
  seen.2.shutdowns ≠ [] → P.scanner.scan seen.1 = .broken

variable {P}

theorem take_linkHandler (seen : List UInt8 × RecvLog) (bytes : List UInt8) :
    CNetConnecter.take (linkHandler P) seen bytes =
      ((seen.1 ++ bytes).drop (P.scanner.cut (seen.1 ++ bytes)).2.1,
        (onRecv P (seen.1 ++ bytes) seen.2).2) := by
  obtain ⟨hsize, -, -⟩ := P.scanner.cut_spec (seen.1 ++ bytes)
  exact Prod.ext (if_pos hsize) rfl

theorem Stuck.take {seen : List UInt8 × RecvLog} (h : Stuck P seen) (bytes : List UInt8) :
    Stuck P (CNetConnecter.take (linkHandler P) seen bytes) := by
  obtain ⟨-, -, hend⟩ := P.scanner.cut_spec (seen.1 ++ bytes)
  rw [take_linkHandler]
  intro hshutdowns
  dsimp only at hshutdowns ⊢
  cases hbroken : (P.scanner.cut (seen.1 ++ bytes)).2.2 with
  | true =>
      rw [hbroken] at hend
      exact hend
  | false =>
      have hbefore : seen.2.shutdowns ≠ [] := by
        simpa [onRecv, hbroken] using hshutdowns
      have hscan := P.scanner.broken_append bytes (h hbefore)
      rw [P.scanner.cut_of_broken hscan] at hbroken
      cases hbroken

/-- A connection that has been shut down dispatches nothing. -/
theorem Stuck.dispatched_take {seen : List UInt8 × RecvLog} (h : Stuck P seen)
    (hshutdowns : seen.2.shutdowns ≠ []) (bytes : List UInt8) :
    (CNetConnecter.take (linkHandler P) seen bytes).2.dispatched = seen.2.dispatched := by
  have hscan := P.scanner.broken_append bytes (h hshutdowns)
  rw [take_linkHandler, onRecv, P.scanner.cut_of_broken hscan]
  exact List.append_nil _

theorem shutdowns_take_linkHandler {seen : List UInt8 × RecvLog}
    (hshutdowns : seen.2.shutdowns ≠ []) (bytes : List UInt8) :
    (CNetConnecter.take (linkHandler P) seen bytes).2.shutdowns ≠ [] := by
  rw [take_linkHandler, onRecv]
  dsimp only
  split
  · exact List.append_ne_nil_of_left_ne_nil hshutdowns _
  · exact hshutdowns

open Receiving

theorem stuck_step (c : Receiving RecvLog) (e : LoopStep) (h : Stuck P (view c)) :
    Stuck P (view (c.step (coreConnectionKind P) e)) := by
  rcases view_step (K := coreConnectionKind P) (c := c) e with hview | ⟨bytes, -, -, hview⟩
  · rw [hview]
    exact h
  · rw [hview]
    exact h.take bytes

theorem shutdowns_step (c : Receiving RecvLog) (e : LoopStep)
    (h : (view c).2.shutdowns ≠ []) :
    (view (c.step (coreConnectionKind P) e)).2.shutdowns ≠ [] := by
  rcases view_step (K := coreConnectionKind P) (c := c) e with hview | ⟨bytes, -, -, hview⟩
  · rw [hview]
    exact h
  · rw [hview]
    exact shutdowns_take_linkHandler h bytes

/-- Behind a message that is not well formed a `CCoreConnection` dispatches nothing. -/
theorem noLateDispatch_coreConnection (es : List LoopStep) :
    NoLateDispatch (coreConnectionKind P) (fresh {}) es := by
  refine (unchanged_iff shutdowns_step (fun c => (view c).2.dispatched) es).mpr ?_
  intro ks e _ hcondemned
  have hstart : Stuck P (view (fresh {})) := fun hshutdowns => absurd rfl hshutdowns
  have hstuck := foldl_invariant (I := fun c => Stuck P (view c)) stuck_step hstart ks
  rcases view_step (K := coreConnectionKind P) e with hview | ⟨bytes, -, -, hview⟩
  · rw [hview]
  · rw [hview]
    exact hstuck.dispatched_take hcondemned bytes

end

/-! ## `CCoreWebsocketConnection` -/

/-- A frame whose payload is a message. -/
def WebsocketFrame.IsMessage (frame : WebsocketFrame) : Prop :=
  frame.eType = .textFrame ∨ frame.eType = .binaryFrame

/-- Behind whole text, binary and ping frames, the data has a text or a binary frame. -/
def BringsMessage (nCapacity : ℕ) (pData : List UInt8) : Prop :=
  ∃ rest frame, Passed nCapacity pData rest ∧ rest ≠ [] ∧
    unserializeFrame nCapacity rest = some frame ∧ frame.IsMessage

theorem not_bringsMessage_nil (nCapacity : ℕ) : ¬ BringsMessage nCapacity [] := by
  rintro ⟨rest, frame, hpassed, hrest, -⟩
  exact hrest (not_passed_nil hpassed)

theorem WebsocketFrame.IsMessage.not_isIncomplete {frame : WebsocketFrame}
    (h : frame.IsMessage) : ¬ frame.IsIncomplete := by
  rcases h with h | h
  · simp [IsIncomplete, h]
  · simp [IsIncomplete, h]

theorem WebsocketFrame.IsMessage.not_isLast {frame : WebsocketFrame}
    (h : frame.IsMessage) : ¬ frame.IsLast := by
  rcases h with h | h
  · simp [IsLast, h]
  · simp [IsLast, h]

/-- No message is behind a frame that ends the loop. -/
theorem not_bringsMessage_of_first {nCapacity : ℕ} {pData : List UInt8}
    (hfirst : ∀ frame, unserializeFrame nCapacity pData = some frame →
      frame.IsIncomplete ∨ frame.IsLast) : ¬ BringsMessage nCapacity pData := by
  rintro ⟨rest, frame, hpassed, -, hframe, hmessage⟩
  rw [hpassed.eq_of_first hfirst] at hframe
  rcases hfirst frame hframe with h | h
  · exact hmessage.not_isIncomplete h
  · exact hmessage.not_isLast h

theorem bringsMessage_iff_of_passed {nCapacity : ℕ} {pData : List UInt8}
    {frame : WebsocketFrame} (hdata : pData ≠ [])
    (hframe : unserializeFrame nCapacity pData = some frame)
    (hwhole : ¬ frame.IsIncomplete) (hlast : ¬ frame.IsLast) :
    BringsMessage nCapacity pData ↔
      frame.IsMessage ∨ BringsMessage nCapacity (pData.drop frame.nRet) := by
  constructor
  · rintro ⟨rest, other, hpassed, hrest, hother, hmessage⟩
    cases hpassed with
    | start =>
        rw [hframe] at hother
        cases hother
        exact .inl hmessage
    | frame hdata' hframe' hwhole' hlast' hpassed =>
        rw [hframe] at hframe'
        cases hframe'
        exact .inr ⟨rest, other, hpassed, hrest, hother, hmessage⟩
  · rintro (hmessage | ⟨rest, other, hpassed, hrest, hother, hmessage⟩)
    · exact ⟨pData, frame, .start pData, hdata, hframe, hmessage⟩
    · exact ⟨rest, other, .frame hdata hframe hwhole hlast hpassed, hrest, hother, hmessage⟩

namespace CCoreWebsocketConnection

variable {shared : Shared} {c : CCoreWebsocketConnection}

theorem dispatched_onFrame_of_message {frame : WebsocketFrame} (h : frame.IsMessage) :
    ∃ message, (c.onFrame frame).dispatched = c.dispatched ++ [message] := by
  rcases h with h | h
  · rw [onFrame, h]
    exact ⟨_, rfl⟩
  · rw [onFrame, h]
    exact ⟨_, rfl⟩

theorem dispatched_onFrame_of_not_message {frame : WebsocketFrame} (h : ¬ frame.IsMessage) :
    (c.onFrame frame).dispatched = c.dispatched := by
  rw [onFrame]
  split
  · rename_i htext
    exact absurd (.inl htext) h
  · rename_i hbinary
    exact absurd (.inr hbinary) h
  · rfl

/-- The loop adds to what has been dispatched, exactly if the data brings a message. -/
theorem dispatched_onRecvFrames (pData : List UInt8) (c : CCoreWebsocketConnection) :
    c.dispatched <+: (c.onRecvFrames shared pData).2.dispatched ∧
      ((c.onRecvFrames shared pData).2.dispatched = c.dispatched ↔
        ¬ BringsMessage shared.nCapacity pData) := by
  fun_induction onRecvFrames shared c pData with
  | case1 c =>
      exact ⟨List.prefix_refl _, iff_of_true rfl (not_bringsMessage_nil _)⟩
  | case2 c pData hdata hnone =>
      refine ⟨List.prefix_refl _, iff_of_true rfl (not_bringsMessage_of_first ?_)⟩
      intro frame hframe
      rw [hnone] at hframe
      cases hframe
  | case3 c pData hdata frame hframe hclose =>
      have hsame : (c.sendFrame shared 0x8).dispatched = c.dispatched := dispatched_sendFrame _
      refine ⟨hsame ▸ List.prefix_refl _, iff_of_true hsame (not_bringsMessage_of_first ?_)⟩
      intro first hfirst
      rw [hframe] at hfirst
      cases hfirst
      exact .inr (.inl hclose)
  | case4 c pData hdata frame hframe hclose hpong =>
      have hsame : (if c.eWebSocketState ≠ .connected then c.sendFrame shared 0xA
          else c).dispatched = c.dispatched := by
        split
        · exact dispatched_sendFrame _
        · rfl
      refine ⟨hsame ▸ List.prefix_refl _, iff_of_true hsame (not_bringsMessage_of_first ?_)⟩
      intro first hfirst
      rw [hframe] at hfirst
      cases hfirst
      exact .inr (.inr hpong)
  | case5 c pData hdata frame hframe hclose hpong hret =>
      refine ⟨List.prefix_refl _, iff_of_true rfl (not_bringsMessage_of_first ?_)⟩
      intro first hfirst
      rw [hframe] at hfirst
      cases hfirst
      exact .inl ((nRet_eq_zero_iff hframe).mp hret)
  | case6 c pData hdata frame hframe hclose hpong hret nRecvSize c' hrest ih =>
      have hwhole : ¬ frame.IsIncomplete := fun h => hret ((nRet_eq_zero_iff hframe).mpr h)
      have hlast : ¬ frame.IsLast := not_or.mpr ⟨hclose, hpong⟩
      rw [hrest] at ih
      obtain ⟨hfront, hiff⟩ := ih
      rw [bringsMessage_iff_of_passed hdata hframe hwhole hlast]
      by_cases hmessage : frame.IsMessage
      · obtain ⟨message, hadded⟩ := dispatched_onFrame_of_message (c := c) hmessage
        rw [hadded] at hfront
        refine ⟨(List.prefix_append _ _).trans hfront, iff_of_false ?_ ?_⟩
        · intro hsame
          have hle := hfront.length_le
          rw [show c'.dispatched = c.dispatched from hsame, List.length_append] at hle
          exact absurd hle (by simp)
        · exact fun hnone => hnone (.inl hmessage)
      · rw [dispatched_onFrame_of_not_message hmessage] at hfront hiff
        refine ⟨hfront, hiff.trans ?_⟩
        rw [or_iff_right hmessage]

/-- `onRecv` has shut the connection down by force, or it has handled a close frame. -/
def Condemned (c : CCoreWebsocketConnection) : Prop :=
  c.eWebSocketState = .disconnectting ∨ true ∈ c.shutdowns.map Prod.fst

/-- A `CCoreWebsocketConnection`. -/
def connectionKind (shared : Shared) :
    ConnectionKind CCoreWebsocketConnection SMCT_RECV_SOCKET_DATA where
  handler := handler shared
  forced c := true ∈ c.shutdowns.map Prod.fst
  Condemned := Condemned
  dispatched := CCoreWebsocketConnection.dispatched

theorem dispatched_onRecvRequest (pData : List UInt8) :
    (c.onRecvRequest shared pData).2.dispatched = c.dispatched := by
  rw [onRecvRequest]
  split
  · rfl
  · split
    · rfl
    · rfl
    · dsimp only
      split
      · split
        · rfl
        · rfl
      · rfl

theorem shutdowns_sendFrame (nOpcode : UInt8) :
    c.shutdowns <+: (c.sendFrame shared nOpcode).shutdowns := by
  rw [sendFrame]
  split
  · exact List.prefix_refl _
  · split
    · exact List.prefix_append _ _
    · exact List.prefix_refl _

theorem eWebSocketState_sendFrame (nOpcode : UInt8) :
    (c.sendFrame shared nOpcode).eWebSocketState = c.eWebSocketState := by
  rw [sendFrame]
  split
  · rfl
  · split
    · rfl
    · rfl

theorem shutdowns_onFrame (frame : WebsocketFrame) :
    (c.onFrame frame).shutdowns = c.shutdowns := by
  rw [onFrame]
  split
  · rfl
  · rfl
  · rfl

theorem eWebSocketState_onFrame (frame : WebsocketFrame) :
    (c.onFrame frame).eWebSocketState = c.eWebSocketState := by
  rw [onFrame]
  split
  · rfl
  · rfl
  · rfl

theorem Condemned.of_prefix {c' : CCoreWebsocketConnection} (h : c.Condemned)
    (hstate : c'.eWebSocketState = c.eWebSocketState ∨ c'.eWebSocketState = .disconnectting)
    (hshutdowns : c.shutdowns <+: c'.shutdowns) : c'.Condemned := by
  rcases h with hclosed | hforced
  · rcases hstate with hsame | hnow
    · exact .inl (hsame.trans hclosed)
    · exact .inl hnow
  · exact .inr ((hshutdowns.map Prod.fst).subset hforced)

theorem Condemned.onRecvFrames (pData : List UInt8) (c : CCoreWebsocketConnection)
    (h : c.Condemned) : (c.onRecvFrames shared pData).2.Condemned := by
  fun_induction CCoreWebsocketConnection.onRecvFrames shared c pData with
  | case1 c => exact h
  | case2 c pData hdata hnone => exact h.of_prefix (.inl rfl) (List.prefix_append _ _)
  | case3 c pData hdata frame hframe hclose =>
      exact h.of_prefix (.inr rfl) (shutdowns_sendFrame _)
  | case4 c pData hdata frame hframe hclose hpong =>
      dsimp only
      split
      · exact h.of_prefix (.inl (eWebSocketState_sendFrame _)) (shutdowns_sendFrame _)
      · exact h
  | case5 c pData hdata frame hframe hclose hpong hret =>
      exact h.of_prefix (.inl rfl) (List.prefix_refl _)
  | case6 c pData hdata frame hframe hclose hpong hret nRecvSize c' hrest ih =>
      rw [hrest] at ih
      apply ih
      refine h.of_prefix (.inl (eWebSocketState_onFrame frame)) ?_
      rw [shutdowns_onFrame]

theorem Condemned.onRecvRequest (hstate : c.eWebSocketState = .connectting)
    (h : c.Condemned) (pData : List UInt8) : (c.onRecvRequest shared pData).2.Condemned := by
  have hforced : true ∈ c.shutdowns.map Prod.fst := by
    rcases h with hclosed | hforced
    · rw [hstate] at hclosed
      cases hclosed
    · exact hforced
  have hfront : c.shutdowns <+: (c.onRecvRequest shared pData).2.shutdowns := by
    rw [CCoreWebsocketConnection.onRecvRequest]
    split
    · exact List.prefix_append _ _
    · split
      · exact List.prefix_refl _
      · exact List.prefix_append _ _
      · dsimp only
        split
        · split
          · exact List.prefix_append _ _
          · exact List.prefix_refl _
        · exact List.prefix_refl _
  exact .inr ((hfront.map Prod.fst).subset hforced)

theorem Condemned.onRecv (h : c.Condemned) (pData : List UInt8) :
    (c.onRecv shared pData).2.Condemned := by
  rw [CCoreWebsocketConnection.onRecv]
  split
  · exact h
  · split
    · rename_i hstate
      exact h.onRecvRequest hstate pData
    · exact h.onRecvFrames pData

/-- `onRecv` dispatches nothing, exactly if it does not look for frames, or the data does not
bring a message. -/
theorem dispatched_onRecv_iff (pData : List UInt8) :
    (c.onRecv shared pData).2.dispatched = c.dispatched ↔
      (c.hangs = false → c.eWebSocketState ≠ .connectting →
        ¬ BringsMessage shared.nCapacity pData) := by
  rw [onRecv]
  split
  · rename_i hhangs
    refine iff_of_true rfl fun hreturns => ?_
    rw [hhangs] at hreturns
    cases hreturns
  · rename_i hreturns
    split
    · rename_i hstate
      exact iff_of_true (dispatched_onRecvRequest pData) fun _ hother => absurd hstate hother
    · rename_i hstate
      rw [(dispatched_onRecvFrames pData c).2]
      constructor
      · intro h _ _
        exact h
      · intro h
        exact h (Bool.eq_false_of_not_eq_true hreturns) hstate

open Receiving

/-- A read that is made of a condemned connection does not bring a message. -/
def BringsNoLateMessage (shared : Shared) (c : Receiving CCoreWebsocketConnection)
    (e : LoopStep) : Prop :=
  ∀ bytes, e = .read (.data bytes) → c.CanRead (.data bytes) →
    c.connecter.handler.Condemned → c.connecter.handler.hangs = false →
    c.connecter.handler.eWebSocketState ≠ .connectting →
      ¬ BringsMessage shared.nCapacity (c.connecter.recvBuffer.readable ++ bytes)

theorem condemned_step (c : Receiving CCoreWebsocketConnection) (e : LoopStep)
    (h : (view c).2.Condemned) : (view (c.step (connectionKind shared) e)).2.Condemned := by
  rcases view_step (K := connectionKind shared) (c := c) e with hview | ⟨bytes, -, -, hview⟩
  · rw [hview]
    exact h
  · rw [hview]
    exact h.onRecv _

theorem dispatched_step_iff (c : Receiving CCoreWebsocketConnection) (e : LoopStep) :
    (c.connecter.handler.Condemned →
        (view (c.step (connectionKind shared) e)).2.dispatched = (view c).2.dispatched) ↔
      BringsNoLateMessage shared c e := by
  constructor
  · rintro h bytes rfl hcan hcondemned
    have hsame := h hcondemned
    rw [view_read hcan] at hsame
    exact (dispatched_onRecv_iff _).mp hsame
  · intro h hcondemned
    rcases view_step (K := connectionKind shared) (c := c) e with hview | ⟨bytes, he, hcan, hview⟩
    · rw [hview]
    · rw [hview]
      exact (dispatched_onRecv_iff _).mpr (h bytes he hcan hcondemned)

end CCoreWebsocketConnection

open Receiving CCoreWebsocketConnection in
/-- Whatever the bytes and the reads, a `CCoreConnection` that has been condemned dispatches
nothing any more.  A `CCoreWebsocketConnection` dispatches nothing any more, if and only if no
later read brings a message. -/
theorem noLateDispatch_iff (P : LinkParser) (shared : Shared) (c : CCoreWebsocketConnection)
    (es : List LoopStep) :
    NoLateDispatch (coreConnectionKind P) (fresh {}) es ∧
      (NoLateDispatch (connectionKind shared) (fresh c) es ↔
        ∀ ks e, ks ++ [e] <+: es →
          BringsNoLateMessage shared (ks.foldl (step (connectionKind shared)) (fresh c)) e) := by
  refine ⟨noLateDispatch_coreConnection es, ?_⟩
  refine (unchanged_iff condemned_step (fun c => (view c).2.dispatched) es).trans ?_
  refine forall_congr' fun ks => forall_congr' fun e => imp_congr_right fun _ => ?_
  exact dispatched_step_iff _ e

namespace CCoreWebsocketConnection

open Receiving

/-- A masked close frame, a masked frame with an opcode that is not known, and a masked text
frame with one byte. -/
def closeFrame : List UInt8 := [0x88, 0x80, 0, 0, 0, 0]

@[inherit_doc closeFrame]
def unknownFrame : List UInt8 := [0x83, 0x80, 0, 0, 0, 0]

@[inherit_doc closeFrame]
def textFrame : List UInt8 := [0x81, 0x81, 0, 0, 0, 0, 65]

/-- The text frame is dispatched behind whatever condemns the connection and is consumed. -/
theorem not_noLateDispatch_textFrame {first : List UInt8} {c : CCoreWebsocketConnection}
    (hfirst : first ≠ []) (hshort : first.length ≤ 1024)
    (honRecv : connectedClient.onRecv sharedBuf first = (first.length, c))
    (hcondemned : c.Condemned) (hreturns : c.hangs = false)
    (hstate : c.eWebSocketState ≠ .connectting) :
    ¬ NoLateDispatch (connectionKind sharedBuf) (fresh connectedClient)
      [.read (.data first), .read (.data textFrame)] := by
  intro h
  have hnew : (fresh connectedClient).connecter.recvBuffer.getBufferSize = recvBufSize :=
    CNetRecvBuffer.getBufferSize_init recvBufSize
  obtain ⟨hcan, hsize⟩ :=
    canRead_of_empty (K := connectionKind sharedBuf) rfl rfl rfl hnew hfirst hshort
  have hview : view ((fresh connectedClient).step (connectionKind sharedBuf)
      (.read (.data first))) = ([], c) := by
    rw [view_read hcan, CNetConnecter.take]
    show (if (connectedClient.onRecv sharedBuf first).1 ≤ first.length then
        first.drop (connectedClient.onRecv sharedBuf first).1 else first,
      (connectedClient.onRecv sharedBuf first).2) = ([], c)
    rw [honRecv, if_pos (Nat.le_refl _), List.drop_length]
  have hopen : ((fresh connectedClient).step (connectionKind sharedBuf)
      (.read (.data first))).bReleased = false ∧
      ((fresh connectedClient).step (connectionKind sharedBuf)
        (.read (.data first))).connecter.closeRecv = false := by
    rw [step, if_pos hcan]
    exact ⟨rfl, rfl⟩
  have hlate := h [.read (.data first)] [.read (.data textFrame)] (List.prefix_refl _)
  simp only [List.foldl_append, List.foldl_cons, List.foldl_nil] at hlate
  generalize (fresh connectedClient).step (connectionKind sharedBuf)
    (.read (.data first)) = condemned at hlate hview hsize hopen
  obtain ⟨hpending, rfl⟩ := Prod.mk.inj hview
  have htext : textFrame ≠ [] ∧ textFrame.length ≤ 1024 := by decide
  obtain ⟨hcanText, -⟩ := canRead_of_empty (K := connectionKind sharedBuf)
    hopen.1 hopen.2 hpending hsize htext.1 htext.2
  have hnone := (dispatched_step_iff condemned _).mp hlate textFrame rfl hcanText hcondemned
    hreturns hstate
  rw [hpending] at hnone
  exact hnone ⟨textFrame, _, .start _, by decide, rfl, .inl rfl⟩

/-- A text frame behind a close frame is dispatched, and so is one behind a frame for which
the connection was shut down. -/
theorem not_noLateDispatch_connectedClient :
    ¬ NoLateDispatch (connectionKind sharedBuf) (fresh connectedClient)
        [.read (.data closeFrame), .read (.data textFrame)] ∧
      ¬ NoLateDispatch (connectionKind sharedBuf) (fresh connectedClient)
        [.read (.data unknownFrame), .read (.data textFrame)] := by
  constructor
  · have honRecv : connectedClient.onRecv sharedBuf closeFrame = (6,
        { connectedClient.sendFrame sharedBuf 0x8 with eWebSocketState := .disconnectting }) := by
      have hframe : unserializeFrame sharedBuf.nCapacity closeFrame =
          some ⟨6, .closeFrame, []⟩ := rfl
      show connectedClient.onRecvFrames sharedBuf closeFrame = _
      rw [onRecvFrames, dif_neg (by decide), hframe]
      rfl
    exact not_noLateDispatch_textFrame (by decide) (by decide) honRecv (.inl rfl) rfl (by decide)
  · have honRecv : connectedClient.onRecv sharedBuf unknownFrame =
        (6, connectedClient.shutdown true "frame error") := by
      have hframe : unserializeFrame sharedBuf.nCapacity unknownFrame = none := rfl
      show connectedClient.onRecvFrames sharedBuf unknownFrame = _
      rw [onRecvFrames, dif_neg (by decide), hframe]
      rfl
    exact not_noLateDispatch_textFrame (by decide) (by decide) honRecv
      (.inr List.mem_cons_self) rfl (by decide)

end CCoreWebsocketConnection

end RealtimeEx.Core
