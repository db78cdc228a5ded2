import Mathlib.Algebra.Order.Ring.Int
import RealtimeEx.Core.CoreWebsocketConnection

/-!
# The receive loop of a websocket connection

`onRecv` takes frame after frame out of the data, until the data is empty, a frame is not
well formed, or a close or a pong frame comes.  A frame that has not come whole consumes
nothing, and the loop looks at it again.
-/

namespace RealtimeEx.Core

/-! ## Frames in the data -/

/-- A frame has not come whole, or is not the last of its message. -/
def WebsocketFrame.IsIncomplete (frame : WebsocketFrame) : Prop :=
  frame.eType = .incompleteFrame ∨ frame.eType = .incompleteTextFrame ∨
    frame.eType = .incompleteBinaryFrame

/-- A close or a pong frame, behind which `onRecv` returns. -/
def WebsocketFrame.IsLast (frame : WebsocketFrame) : Prop :=
  frame.eType = .closeFrame ∨ frame.eType = .pongFrame

/-- The data behind some whole frames of the other types. -/
inductive Passed (nCapacity : ℕ) : List UInt8 → List UInt8 → Prop
  | start (pData : List UInt8) : Passed nCapacity pData pData
  | frame {pData rest : List UInt8} {frame : WebsocketFrame}
      (hdata : pData ≠ []) (hframe : unserializeFrame nCapacity pData = some frame)
      (hwhole : ¬ frame.IsIncomplete) (hlast : ¬ frame.IsLast)
      (hrest : Passed nCapacity (pData.drop frame.nRet) rest) : Passed nCapacity pData rest

/-- The frame that a read comes to behind whole frames is itself whole. -/
def NoIncompleteFrame (nCapacity : ℕ) (pData : List UInt8) : Prop :=
  ∀ rest frame, Passed nCapacity pData rest → rest ≠ [] →
    unserializeFrame nCapacity rest = some frame → ¬ frame.IsIncomplete

/-- What is right to consume of the data: the whole frames before an incomplete tail, the
frames up to a close or a pong frame, or all of the data if the connection is shut down for a
frame that is not well formed. -/
inductive Consumes (nCapacity : ℕ) (pData : List UInt8) (nRecvSize : ℕ)
    (shutdowns : List (Bool × String)) : Prop
  | frames (hle : nRecvSize ≤ pData.length) (hpassed : Passed nCapacity pData (pData.drop nRecvSize))
      (htail : pData.drop nRecvSize = [] ∨
        ∃ frame, unserializeFrame nCapacity (pData.drop nRecvSize) = some frame ∧
          frame.IsIncomplete)
  | last {before : List UInt8} {frame : WebsocketFrame} (hle : nRecvSize ≤ pData.length)
      (hpassed : Passed nCapacity pData before)
      (hframe : unserializeFrame nCapacity before = some frame) (hlast : frame.IsLast)
      (hrest : pData.drop nRecvSize = before.drop frame.nRet)
  | malformed {before : List UInt8} (hpassed : Passed nCapacity pData before)
      (hbefore : before ≠ []) (hframe : unserializeFrame nCapacity before = none)
      (hall : nRecvSize = pData.length)
      (hshutdown : shutdowns.getLast? = some (true, "frame error"))

theorem EWebsocketFrameType.consumed_eq_zero {eType : EWebsocketFrameType} (nFrameSize : ℕ)
    (h : eType = .incompleteFrame ∨ eType = .incompleteTextFrame ∨
      eType = .incompleteBinaryFrame) : eType.consumed nFrameSize = 0 := by
  rcases h with rfl | rfl | rfl
  all_goals rfl

theorem EWebsocketFrameType.consumed_eq {eType : EWebsocketFrameType} (nFrameSize : ℕ)
    (h : ¬ (eType = .incompleteFrame ∨ eType = .incompleteTextFrame ∨
      eType = .incompleteBinaryFrame)) : eType.consumed nFrameSize = nFrameSize := by
  rw [consumed.eq_def]
  split
  · exact absurd (.inl rfl) h
  · exact absurd (.inr (.inl rfl)) h
  · exact absurd (.inr (.inr rfl)) h
  · rfl

theorem two_le_of_payloadLength {pData : List UInt8} {nPayloadLength nPos : ℕ}
    (h : payloadLength pData = some (nPayloadLength, nPos)) : 2 ≤ nPos := by
  rw [payloadLength] at h
  split at h
  · cases h
    exact le_refl 2
  · split at h
    · cases h
      omega
    · cases h

/-- A frame is consumed whole or not at all. -/
theorem nRet_cases {nCapacity : ℕ} {pData : List UInt8} {frame : WebsocketFrame}
    (hframe : unserializeFrame nCapacity pData = some frame) :
    (frame.IsIncomplete ∧ frame.nRet = 0) ∨
      (¬ frame.IsIncomplete ∧ 0 < frame.nRet ∧ frame.nRet ≤ pData.length) := by
  rw [unserializeFrame] at hframe
  split at hframe
  · cases hframe
    exact .inl ⟨.inl rfl, rfl⟩
  · split at hframe
    · cases hframe
    · rename_i nPayloadLength nPos hpayload
      have hpos := two_le_of_payloadLength hpayload
      dsimp only at hframe
      have hheader : nPos ≤
          nPayloadLength + nPos + (if pData.getD 1 0 &&& 0x80 ≠ 0 then 4 else 0) := by
        omega
      generalize nPayloadLength + nPos + (if pData.getD 1 0 &&& 0x80 ≠ 0 then 4 else 0) =
        nFrameSize at hframe hheader
      split at hframe
      · cases hframe
        exact .inl ⟨.inl rfl, rfl⟩
      · rename_i hlength
        split at hframe
        · cases hframe
        · obtain ⟨eType, -, rfl⟩ := Option.map_eq_some_iff.mp hframe
          by_cases hincomplete : eType = .incompleteFrame ∨ eType = .incompleteTextFrame ∨
              eType = .incompleteBinaryFrame
          · exact .inl ⟨hincomplete, EWebsocketFrameType.consumed_eq_zero _ hincomplete⟩
          · refine .inr ⟨hincomplete, ?_⟩
            have hconsumed := EWebsocketFrameType.consumed_eq nFrameSize hincomplete
            dsimp only
            omega

theorem nRet_eq_zero_iff {nCapacity : ℕ} {pData : List UInt8} {frame : WebsocketFrame}
    (hframe : unserializeFrame nCapacity pData = some frame) :
    frame.nRet = 0 ↔ frame.IsIncomplete := by
  rcases nRet_cases hframe with ⟨hincomplete, hret⟩ | ⟨hwhole, hpos, -⟩
  · exact iff_of_true hret hincomplete
  · exact iff_of_false hpos.ne' hwhole

theorem nRet_le {nCapacity : ℕ} {pData : List UInt8} {frame : WebsocketFrame}
    (hframe : unserializeFrame nCapacity pData = some frame) :
    frame.nRet ≤ pData.length := by
  rcases nRet_cases hframe with ⟨-, hret⟩ | ⟨-, -, hle⟩
  · omega
  · exact hle

theorem not_passed_nil {nCapacity : ℕ} {rest : List UInt8}
    (hpassed : Passed nCapacity [] rest) : rest = [] := by
  cases hpassed with
  | start => rfl
  | frame hdata => exact absurd rfl hdata

/-- Only the data itself is passed if its first frame ends the loop. -/
theorem Passed.eq_of_first {nCapacity : ℕ} {pData rest : List UInt8}
    (hpassed : Passed nCapacity pData rest)
    (hfirst : ∀ frame, unserializeFrame nCapacity pData = some frame →
      frame.IsIncomplete ∨ frame.IsLast) : rest = pData := by
  cases hpassed with
  | start => rfl
  | frame hdata hframe hwhole hlast =>
      rcases hfirst _ hframe with h | h
      · exact absurd h hwhole
      · exact absurd h hlast

/-- The frames behind a passed one are those that the loop comes to next. -/
theorem noIncompleteFrame_drop_iff {nCapacity : ℕ} {pData : List UInt8}
    {frame : WebsocketFrame} (hdata : pData ≠ [])
    (hframe : unserializeFrame nCapacity pData = some frame)
    (hwhole : ¬ frame.IsIncomplete) (hlast : ¬ frame.IsLast) :
    NoIncompleteFrame nCapacity pData ↔ NoIncompleteFrame nCapacity (pData.drop frame.nRet) := by
  constructor
  · intro h rest other hpassed
    exact h rest other (.frame hdata hframe hwhole hlast hpassed)
  · intro h rest other hpassed hrest hother
    cases hpassed with
    | start =>
        rw [hframe] at hother
        cases hother
        exact hwhole
    | frame hdata' hframe' hwhole' hlast' hpassed =>
        rw [hframe] at hframe'
        cases hframe'
        exact h rest other hpassed hrest hother

/-- What is consumed behind a passed frame is consumed with it. -/
theorem Consumes.frame_add {nCapacity : ℕ} {pData : List UInt8} {frame : WebsocketFrame}
    {nRecvSize : ℕ} {shutdowns : List (Bool × String)} (hdata : pData ≠ [])
    (hframe : unserializeFrame nCapacity pData = some frame)
    (hwhole : ¬ frame.IsIncomplete) (hlast : ¬ frame.IsLast)
    (h : Consumes nCapacity (pData.drop frame.nRet) nRecvSize shutdowns) :
    Consumes nCapacity pData (frame.nRet + nRecvSize) shutdowns := by
  have hret := nRet_le hframe
  cases h with
  | frames hle hpassed htail =>
      rw [List.length_drop] at hle
      rw [List.drop_drop] at hpassed htail
      exact .frames (by omega) (.frame hdata hframe hwhole hlast hpassed) htail
  | last hle hpassed hbefore hclose hrest =>
      rw [List.length_drop] at hle
      rw [List.drop_drop] at hrest
      exact .last (by omega) (.frame hdata hframe hwhole hlast hpassed) hbefore hclose hrest
  | malformed hpassed hbefore hnone hall hshutdown =>
      rw [List.length_drop] at hall
      exact .malformed (.frame hdata hframe hwhole hlast hpassed) hbefore hnone (by omega)
        hshutdown

namespace CCoreWebsocketConnection

variable {shared : Shared} {c : CCoreWebsocketConnection}

theorem hangs_sendFrame (nOpcode : UInt8) : (c.sendFrame shared nOpcode).hangs = c.hangs := by
  rw [sendFrame]
  split
  · rfl
  · split
    · rfl
    · rfl

theorem hangs_onFrame (frame : WebsocketFrame) : (c.onFrame frame).hangs = c.hangs := by
  rw [onFrame]
  split
  · rfl
  · rfl
  · rfl

/-- The loop consumes what it should and returns, if no frame it comes to is incomplete. -/
theorem consumes_onRecvFrames (pData : List UInt8) (c : CCoreWebsocketConnection)
    (hwhole : NoIncompleteFrame shared.nCapacity pData) :
    (c.onRecvFrames shared pData).2.hangs = c.hangs ∧
      Consumes shared.nCapacity pData (c.onRecvFrames shared pData).1
        (c.onRecvFrames shared pData).2.shutdowns := by
  fun_induction onRecvFrames shared c pData with
  | case1 c => exact ⟨rfl, .frames (Nat.zero_le _) (.start []) (.inl rfl)⟩
  | case2 c pData hdata hnone =>
      exact ⟨rfl, .malformed (.start pData) hdata hnone rfl List.getLast?_concat⟩
  | case3 c pData hdata frame hframe hclose =>
      exact ⟨hangs_sendFrame _, .last (nRet_le hframe) (.start pData) hframe (.inl hclose) rfl⟩
  | case4 c pData hdata frame hframe hclose hpong =>
      refine ⟨?_, .last (nRet_le hframe) (.start pData) hframe (.inr hpong) rfl⟩
      dsimp only
      split
      · exact hangs_sendFrame _
      · rfl
  | case5 c pData hdata frame hframe hclose hpong hret =>
      have hincomplete := (nRet_eq_zero_iff hframe).mp hret
      exact absurd hincomplete (hwhole pData frame (.start pData) hdata hframe)
  | case6 c pData hdata frame hframe hclose hpong hret nRecvSize c' hrest ih =>
      have hfirst : ¬ frame.IsIncomplete := fun h => hret ((nRet_eq_zero_iff hframe).mpr h)
      have hlast : ¬ frame.IsLast := not_or.mpr ⟨hclose, hpong⟩
      obtain ⟨hhangs, hconsumes⟩ :=
        ih ((noIncompleteFrame_drop_iff hdata hframe hfirst hlast).mp hwhole)
      rw [hrest] at hhangs hconsumes
      refine ⟨?_, hconsumes.frame_add hdata hframe hfirst hlast⟩
      exact hhangs.trans (hangs_onFrame frame)

/-- The loop does not return if it comes to an incomplete frame. -/
theorem noIncompleteFrame_of_returns (pData : List UInt8) (c : CCoreWebsocketConnection)
    (hreturns : (c.onRecvFrames shared pData).2.hangs = false) :
    NoIncompleteFrame shared.nCapacity pData := by
  fun_induction onRecvFrames shared c pData with
  | case1 c =>
      intro rest frame hpassed hrest
      exact absurd (not_passed_nil hpassed) hrest
  | case2 c pData hdata hnone =>
      intro rest frame hpassed hrest hframe
      have hsame := hpassed.eq_of_first fun other hother => by rw [hnone] at hother; cases hother
      rw [hsame, hnone] at hframe
      cases hframe
  | case3 c pData hdata frame hframe hclose =>
      intro rest other hpassed hrest hother
      have hsame := hpassed.eq_of_first fun first hfirst => by
        rw [hframe] at hfirst
        cases hfirst
        exact .inr (.inl hclose)
      rw [hsame, hframe] at hother
      cases hother
      rintro (h | h | h)
      all_goals
        rw [hclose] at h
        cases h
  | case4 c pData hdata frame hframe hclose hpong =>
      intro rest other hpassed hrest hother
      have hsame := hpassed.eq_of_first fun first hfirst => by
        rw [hframe] at hfirst
        cases hfirst
        exact .inr (.inr hpong)
      rw [hsame, hframe] at hother
      cases hother
      rintro (h | h | h)
      all_goals
        rw [hpong] at h
        cases h
  | case5 c pData hdata frame hframe hclose hpong hret => cases hreturns
  | case6 c pData hdata frame hframe hclose hpong hret nRecvSize c' hrest ih =>
      have hfirst : ¬ frame.IsIncomplete := fun h => hret ((nRet_eq_zero_iff hframe).mpr h)
      have hlast : ¬ frame.IsLast := not_or.mpr ⟨hclose, hpong⟩
      rw [hrest] at ih
      exact (noIncompleteFrame_drop_iff hdata hframe hfirst hlast).mpr (ih hreturns)

/-! ## Reads of a connected connection -/

/-- `onRecv` returns, and has consumed what is right of the data. -/
def ReceivesWhole (shared : Shared) (c : CCoreWebsocketConnection) (pData : List UInt8) : Prop :=
  (c.onRecv shared pData).2.hangs = false ∧
    Consumes shared.nCapacity pData (c.onRecv shared pData).1
      (c.onRecv shared pData).2.shutdowns

/-- `onRecv` of a connected connection returns, and leaves an incomplete tail for the next
read, exactly for the data in which no frame is incomplete. -/
theorem receivesWhole_iff (pData : List UInt8) (hhangs : c.hangs = false)
    (hstate : c.eWebSocketState = .connected) :
    c.ReceivesWhole shared pData ↔ NoIncompleteFrame shared.nCapacity pData := by
  have honRecv : c.onRecv shared pData = c.onRecvFrames shared pData := by
    rw [onRecv, if_neg (by rw [hhangs]; decide), if_neg (by rw [hstate]; decide)]
  rw [ReceivesWhole, honRecv]
  constructor
  · intro h
    exact noIncompleteFrame_of_returns pData c h.1
  · intro hwhole
    obtain ⟨hreturns, hconsumes⟩ := consumes_onRecvFrames pData c hwhole
    exact ⟨hreturns.trans hhangs, hconsumes⟩

/-- A connection behind its handshake. -/
def connectedClient : CCoreWebsocketConnection :=
  { accepted 1 with eWebSocketState := .connected }

/-- The buffer as `getBuf` makes it. -/
def sharedBuf : Shared where
  nCapacity := 65535
  acceptKey := id

theorem receivesWhole_connectedClient_iff :
    connectedClient.ReceivesWhole sharedBuf [0x81] ↔ NoIncompleteFrame 65535 [0x81] :=
  receivesWhole_iff [0x81] rfl rfl

/-- The first byte of a text frame alone is read for ever. -/
theorem not_receivesWhole_firstByte :
    (connectedClient.onRecv sharedBuf [0x81]).2.hangs = true ∧
      ¬ connectedClient.ReceivesWhole sharedBuf [0x81] := by
  have hhangs : (connectedClient.onRecv sharedBuf [0x81]).2.hangs = true := by
    have hstate : connectedClient.onRecv sharedBuf [0x81] =
        connectedClient.onRecvFrames sharedBuf [0x81] := rfl
    have hframe : unserializeFrame sharedBuf.nCapacity [0x81] = some .incomplete := rfl
    rw [hstate, onRecvFrames, dif_neg (by decide), hframe]
    rfl
  refine ⟨hhangs, fun h => ?_⟩
  rw [h.1] at hhangs
  cases hhangs

end CCoreWebsocketConnection

end RealtimeEx.Core
