import Mathlib.Algebra.Order.Ring.Int
import RealtimeEx.Network.NetConnecterSend
import RealtimeEx.Network.SendList
import RealtimeEx.Support.History

/-!
# Pending output

Bytes that stay in the send buffer of a connecter are written by a later round of the
loop, because the connecter is in the send list, or by a write event, which the loop asks
for while `eNCF_DisableWrite` is set.  The flag is set when a write would block, but not
when it takes a part of the bytes.

The handler may call the connecter from `onSendComplete`, to any depth: such a call is a
step of its own, made while the callback is on the stack.
-/

namespace RealtimeEx.Network.Connecter

open ENetConnecterState

/-! ## Calls with their callbacks -/

/-- Where `onSendComplete` was called from. -/
inductive Frame
  | onSend
  | sendDirect

/-- A connecter in its loop: the send list, the entry that the loop is at while it flushes
the list, whether that entry is this connecter's and is being flushed, and the callbacks
that have not returned. -/
structure CNetEventLoop where
  nID : ℕ
  connecter : CNetConnecter
  sendList : SendList := {}
  nFlush : Option ℕ := none
  bFlushing : Bool := false
  stack : List Frame := []

/-- The steps of the connecter and of the others in the list.  A round of the loop is a
`release`, a `beginFlush`, a `flush` for each entry and one for the end of the list, and
the steps of the events; the calls of the handlers stand between them. -/
inductive LoopEvent
  | send (pData : List UInt8) (bCache : Bool) (writes : List WriteResult)
  | shutdown (bForce : Bool)
  | returns
  | connect (opened : Opened)
  | read (read : Read)
  | write (writes : List WriteResult)
  | error
  | release
  | beginFlush
  | flush (writes : List WriteResult)
  | otherAdds (nOther : ℕ)
  | otherReleased (nOther : ℕ)

namespace CNetEventLoop

variable (l : CNetEventLoop)

/-- The end of `onSend`, behind the callback. -/
def onSendEnd (c : CNetConnecter) : CNetConnecter :=
  if c.eConnecterState = eNCS_Disconnecting ∧ c.sendBuffer.getTailDataSize = 0 then
    c.close
  else
    c

/-- The end of the connecter's turn in the loop that flushes. -/
def flushed : CNetEventLoop :=
  if l.stack = [] ∧ l.bFlushing = true then
    { l with
      connecter := { l.connecter with bSendConnecter := false }
      sendList := l.sendList.setSendConnecterIndex l.nID none
      nFlush := l.nFlush.map (· + 1)
      bFlushing := false }
  else
    l

/-- The handler returns from `onSendComplete`. -/
def returns : CNetEventLoop :=
  match l.stack with
  | [] => l
  | .onSend :: stack => { l with connecter := onSendEnd l.connecter, stack }.flushed
  | .sendDirect :: stack => { l with stack }.flushed

/-- `onSend`, up to the callback if there is one. -/
def onSend (writes : List WriteResult) : CNetEventLoop :=
  let nTotalDataSize := l.connecter.sendBuffer.getTotalReadableSize
  let c := l.connecter.onSendLoop writes
  if nTotalDataSize ≠ 0 ∧ c.sendBuffer.getTailDataSize = 0 then
    { l with connecter := c.notify (.onSendComplete nTotalDataSize), stack := .onSend :: l.stack }
  else
    { l with connecter := onSendEnd c }.flushed

/-- `addSendConnecter` of the connecter. -/
def addSendConnecter : CNetEventLoop :=
  { l with
    connecter := { l.connecter with bSendConnecter := true }
    sendList := l.sendList.addSendConnecter l.nID }

/-- `send` without caching when nothing is buffered. -/
def sendDirect (pData : List UInt8) (writes : List WriteResult) : CNetEventLoop :=
  match CNetConnecter.firstWrite pData.length writes with
  | .error => { l with connecter := l.connecter.shutdown true }
  | .room n =>
      let nRet := min n pData.length
      let c := { l.connecter with written := l.connecter.written ++ pData.take nRet }
      if nRet ≠ pData.length then
        { l with connecter := c.push (pData.drop nRet) }
      else
        { l with
          connecter := c.notify (.onSendComplete pData.length)
          stack := .sendDirect :: l.stack }
  | _ =>
      let c := { l.connecter with bDisableWrite := true }
      if pData.length ≠ 0 then
        { l with connecter := c.push pData }
      else
        { l with
          connecter := c.notify (.onSendComplete pData.length)
          stack := .sendDirect :: l.stack }

/-- `send` without caching. -/
def sendNow (pData : List UInt8) (writes : List WriteResult) : CNetEventLoop :=
  if l.connecter.sendBuffer.getTailDataSize = 0 then
    l.sendDirect pData writes
  else
    let l := { l with connecter := l.connecter.push pData }
    if l.connecter.bDisableWrite = false then
      l.onSend writes
    else
      l

/-- `send` with caching. -/
def sendCached (pData : List UInt8) (writes : List WriteResult) : CNetEventLoop :=
  if l.connecter.sendBuffer.getTailDataSize = 0 ∧
      l.connecter.nSendBufferSize ≤ pData.length then
    l.sendNow pData writes
  else
    let l := { l with connecter := l.connecter.push pData }
    if l.connecter.nSendBufferSize ≤ l.connecter.sendBuffer.getTotalReadableSize ∧
        l.connecter.bDisableWrite = false then
      l.onSend writes
    else
      l.addSendConnecter

/-- `send`. -/
def send (pData : List UInt8) (bCache : Bool) (writes : List WriteResult) : CNetEventLoop :=
  if l.connecter.refusesSend = true then
    l
  else if bCache = false then
    l.sendNow pData writes
  else
    l.sendCached pData writes

/-- Nothing of the loop or of a callback is going on. -/
def Between : Prop := l.stack = [] ∧ l.nFlush = none

instance : Decidable l.Between := inferInstanceAs (Decidable (l.stack = [] ∧ _))

/-- A turn of the loop that flushes. -/
def flush (writes : List WriteResult) : CNetEventLoop :=
  match l.nFlush with
  | none => l
  | some nIndex =>
      match l.sendList.vecSendConnecter[nIndex]? with
      | none => { l with sendList := l.sendList.clear, nFlush := none }
      | some nOther =>
          if nOther = l.nID then
            { l with bFlushing := true }.onSend writes
          else
            { l with
              sendList := l.sendList.setSendConnecterIndex nOther none
              nFlush := some (nIndex + 1) }

/-- One step.  A deleted connecter takes none, and one that cannot be taken changes
nothing. -/
def step (e : LoopEvent) : CNetEventLoop :=
  if l.connecter.bLive = false then
    l
  else
    match e with
    | .send pData bCache writes => l.send pData bCache writes
    | .shutdown bForce => { l with connecter := l.connecter.shutdown bForce }
    | .returns => l.returns
    | .connect opened =>
        if l.Between then
          { l with connecter := l.connecter.onConnect { opened with calls := [] } }
        else
          l
    | .read read =>
        if l.Between ∧ l.connecter.eConnecterState ≠ eNCS_Connecting then
          { l with connecter := l.connecter.onRecv [{ read with calls := [] }] }
        else
          l
    | .write writes =>
        if l.Between ∧ l.connecter.eConnecterState ≠ eNCS_Connecting then
          l.onSend writes
        else
          l
    | .error =>
        if l.Between then { l with connecter := l.connecter.shutdown true } else l
    | .release =>
        if l.Between ∧ l.connecter.bWaitClose = true then
          { l with
            connecter := l.connecter.release
            sendList := l.sendList.delSendConnecter l.nID }
        else
          l
    | .beginFlush => if l.Between then { l with nFlush := some 0 } else l
    | .flush writes => if l.stack = [] ∧ l.bFlushing = false then l.flush writes else l
    | .otherAdds nOther =>
        if nOther ≠ l.nID then
          { l with sendList := l.sendList.addSendConnecter nOther }
        else
          l
    | .otherReleased nOther =>
        if l.Between ∧ nOther ≠ l.nID then
          { l with sendList := l.sendList.delSendConnecter nOther }
        else
          l

/-- A connecter that has just been opened. -/
def opened (nID nSendBufferSize : ℕ) (opening : Opening) : CNetEventLoop where
  nID := nID
  connecter := opening.connecter nSendBufferSize

/-! ## Handlers that do nothing -/

/-- The connecter behind a call that was made at a given depth, if the handler does nothing in
`onSendComplete`. -/
def behindCall (l : CNetEventLoop) (nDepth : ℕ) : CNetConnecter :=
  if l.stack.length = nDepth then l.connecter else l.returns.connecter

variable {l}

theorem flushed_eq (h : ¬ (l.stack = [] ∧ l.bFlushing = true)) : l.flushed = l := if_neg h

theorem behindCall_of_callback {c : CNetConnecter} {frame : Frame} :
    behindCall { l with connecter := c, stack := frame :: l.stack } l.stack.length =
      (returns { l with connecter := c, stack := frame :: l.stack }).connecter :=
  if_neg (Nat.succ_ne_self _)

/-- `onSend` is the one of a connecter whose handler is told and does nothing. -/
theorem behindCall_onSend (h : ¬ (l.stack = [] ∧ l.bFlushing = true))
    (writes : List WriteResult) :
    (l.onSend writes).behindCall l.stack.length = l.connecter.onSend writes := by
  have hend : ∀ c : CNetConnecter,
      flushed { l with connecter := c } = { l with connecter := c } := fun _ => flushed_eq h
  rw [onSend, CNetConnecter.onSend]
  by_cases hcomplete : l.connecter.sendBuffer.getTotalReadableSize ≠ 0 ∧
      (l.connecter.onSendLoop writes).sendBuffer.getTailDataSize = 0
  · rw [if_pos hcomplete, if_pos hcomplete, behindCall_of_callback]
    exact congrArg connecter (hend _)
  · rw [if_neg hcomplete, if_neg hcomplete, hend]
    exact if_pos rfl

theorem behindCall_sendDirect (h : ¬ (l.stack = [] ∧ l.bFlushing = true))
    (pData : List UInt8) (writes : List WriteResult) :
    (l.sendDirect pData writes).behindCall l.stack.length =
      (l.connecter.sendDirect pData writes).2 := by
  have htold : ∀ c : CNetConnecter,
      behindCall { l with connecter := c, stack := .sendDirect :: l.stack } l.stack.length =
        c := by
    intro c
    rw [behindCall_of_callback]
    exact congrArg connecter (flushed_eq (l := { l with connecter := c }) h)
  rw [sendDirect, CNetConnecter.sendDirect]
  cases CNetConnecter.firstWrite pData.length writes with
  | error => exact if_pos rfl
  | room n =>
      dsimp only
      split
      · exact if_pos rfl
      · exact htold _
  | wouldBlock =>
      dsimp only
      split
      · exact if_pos rfl
      · exact htold _
  | interrupted =>
      dsimp only
      split
      · exact if_pos rfl
      · exact htold _

theorem behindCall_sendNow (h : ¬ (l.stack = [] ∧ l.bFlushing = true))
    (pData : List UInt8) (writes : List WriteResult) :
    (l.sendNow pData writes).behindCall l.stack.length =
      (l.connecter.sendNow pData writes).2 := by
  rw [sendNow, CNetConnecter.sendNow]
  split
  · exact behindCall_sendDirect h pData writes
  · dsimp only
    split
    · exact behindCall_onSend (l := { l with connecter := l.connecter.push pData }) h writes
    · exact if_pos rfl

/-- A call of `send` is the one of a connecter whose handler does nothing. -/
theorem behindCall_send (h : ¬ (l.stack = [] ∧ l.bFlushing = true)) (pData : List UInt8)
    (bCache : Bool) (writes : List WriteResult) :
    (l.send pData bCache writes).behindCall l.stack.length =
      (l.connecter.sendResult pData bCache writes).2 := by
  rw [send, CNetConnecter.sendResult]
  split
  · exact if_pos rfl
  · split
    · exact behindCall_sendNow h pData writes
    · rw [sendCached, CNetConnecter.sendCached]
      split
      · exact behindCall_sendNow h pData writes
      · dsimp only
        split
        · exact behindCall_onSend (l := { l with connecter := l.connecter.push pData }) h writes
        · exact if_pos rfl

end CNetEventLoop

/-! ## The connecter -/

namespace CNetConnecter

variable {c c' : CNetConnecter}

/-- The send list has the same to say, and the connecter has not begun to connect. -/
structure SameEntry (c c' : CNetConnecter) : Prop where
  bSendConnecter : c'.bSendConnecter = c.bSendConnecter
  connecting : c'.eConnecterState = eNCS_Connecting → c.eConnecterState = eNCS_Connecting

theorem SameEntry.refl (c : CNetConnecter) : SameEntry c c := ⟨rfl, id⟩

theorem sameEntry_shutdown (bForce : Bool) : SameEntry c (c.shutdown bForce) := by
  rcases c.shutdown_cases bForce with ⟨-, hsame⟩ | ⟨bWaitClose, hclosing⟩
  · rw [hsame]
    exact .refl c
  · rw [hclosing]
    exact ⟨rfl, fun hconnecting => by cases hconnecting⟩

theorem shutdown_ne_connected (bForce : Bool) :
    (c.shutdown bForce).eConnecterState ≠ eNCS_Connected := by
  rcases c.shutdown_cases bForce with ⟨hstate, hsame⟩ | ⟨bWaitClose, hclosing⟩
  · rw [hsame, hstate]
    decide
  · rw [hclosing]
    exact ENetConnecterState.noConfusion

theorem shutdown_ne_connecting (bForce : Bool) :
    (c.shutdown bForce).eConnecterState ≠ eNCS_Connecting := by
  rcases c.shutdown_cases bForce with ⟨hstate, hsame⟩ | ⟨bWaitClose, hclosing⟩
  · rw [hsame, hstate]
    decide
  · rw [hclosing]
    exact ENetConnecterState.noConfusion

theorem sameEntry_onSendLoop (writes : List WriteResult) : SameEntry c (c.onSendLoop writes) := by
  induction writes generalizing c with
  | nil =>
      rw [onSendLoop]
      split
      · exact .refl c
      · exact ⟨rfl, id⟩
  | cons result writes ih =>
      rw [onSendLoop]
      dsimp only
      split
      · exact .refl c
      · cases result with
        | wouldBlock => exact ⟨rfl, id⟩
        | interrupted =>
            have hrest := ih (c := { c with bDisableWrite := false })
            exact ⟨hrest.bSendConnecter, hrest.connecting⟩
        | error =>
            have hshutdown := sameEntry_shutdown (c := { c with bDisableWrite := false }) true
            exact ⟨hshutdown.bSendConnecter, hshutdown.connecting⟩
        | room n =>
            dsimp only
            split
            · exact ⟨rfl, id⟩
            · have hrest := ih (c :=
                { c with
                  bDisableWrite := false
                  written := c.written ++
                    c.sendBuffer.getTailData.take (min n c.sendBuffer.getTailDataSize)
                  sendBuffer := c.sendBuffer.pop (min n c.sendBuffer.getTailDataSize) })
              exact ⟨hrest.bSendConnecter, hrest.connecting⟩

/-- What is buffered, and nothing is while the connecter is connecting. -/
structure Buffered (c : CNetConnecter) : Prop where
  filled : c.sendBuffer.Filled
  connecting : c.eConnecterState = eNCS_Connecting → c.sendBuffer.getTailDataSize = 0

theorem Buffered.congr (h : c.Buffered) (hbuffer : c'.sendBuffer = c.sendBuffer)
    (hstate : c'.eConnecterState = eNCS_Connecting → c.eConnecterState = eNCS_Connecting) :
    c'.Buffered := by
  refine ⟨?_, fun hconnecting => ?_⟩
  · rw [hbuffer]
    exact h.filled
  · rw [hbuffer]
    exact h.connecting (hstate hconnecting)

theorem Buffered.shutdown (h : c.Buffered) (bForce : Bool) : (c.shutdown bForce).Buffered := by
  rcases c.shutdown_cases bForce with ⟨-, hsame⟩ | ⟨bWaitClose, hclosing⟩
  · rw [hsame]
    exact h
  · rw [hclosing]
    exact h.congr rfl (fun hconnecting => by cases hconnecting)

theorem Buffered.pushed (h : c.Buffered) {pData : List UInt8}
    (hbuffer : c'.sendBuffer = c.sendBuffer.push pData)
    (hstate : c'.eConnecterState ≠ eNCS_Connecting) : c'.Buffered := by
  refine ⟨?_, fun hconnecting => absurd hconnecting hstate⟩
  rw [hbuffer]
  exact CNetSendBuffer.filled_push h.filled pData

theorem onSendLoop_of_empty (hempty : c.sendBuffer.getTailDataSize = 0)
    (writes : List WriteResult) : c.onSendLoop writes = c := by
  cases writes with
  | nil => rw [onSendLoop, if_pos hempty]
  | cons result writes =>
      rw [onSendLoop]
      exact if_pos hempty

theorem Buffered.onSendLoop (h : c.Buffered) (writes : List WriteResult) :
    (c.onSendLoop writes).Buffered := by
  have hholds : Holds c.accepted (c.written ++ c.sendBuffer.data) c := ⟨rfl, rfl, h.filled⟩
  refine ⟨(hholds.onSendLoop writes).filled, fun hconnecting => ?_⟩
  have hempty := h.connecting ((sameEntry_onSendLoop writes).connecting hconnecting)
  rw [onSendLoop_of_empty hempty]
  exact hempty

/-- No write of the loop of `onSend` takes only a part of the bytes that it is given. -/
def NoShortWrite (b : CNetSendBuffer sendBufSize) : List WriteResult → Prop
  | [] => True
  | result :: writes =>
      b.getTailDataSize = 0 ∨
        match result with
        | .wouldBlock | .error => True
        | .interrupted => NoShortWrite b writes
        | .room n =>
            b.getTailDataSize ≤ n ∧ NoShortWrite (b.pop b.getTailDataSize) writes

/-- Bytes in the buffer of a connected connecter are waiting for a write event. -/
def WaitsForWrite (c : CNetConnecter) : Prop :=
  c.eConnecterState = eNCS_Connected → c.sendBuffer.getTailDataSize ≠ 0 →
    c.bDisableWrite = true

/-- Without a short write, the loop stops at an empty buffer or at a write that would
block. -/
theorem waitsForWrite_onSendLoop {writes : List WriteResult}
    (h : NoShortWrite c.sendBuffer writes) : (c.onSendLoop writes).WaitsForWrite := by
  induction writes generalizing c with
  | nil =>
      rw [onSendLoop]
      split
      · rename_i hempty
        exact fun _ hsize => absurd hempty hsize
      · exact fun _ _ => rfl
  | cons result writes ih =>
      rw [onSendLoop]
      dsimp only
      split
      · rename_i hempty
        exact fun _ hsize => absurd hempty hsize
      · rename_i hsize
        have hresult := h.resolve_left hsize
        cases result with
        | wouldBlock => exact fun _ _ => rfl
        | interrupted => exact ih hresult
        | error => exact fun hstate => absurd hstate (shutdown_ne_connected true)
        | room n =>
            obtain ⟨hle, hrest⟩ := hresult
            dsimp only
            rw [Nat.min_eq_right hle, if_neg (not_not.mpr rfl)]
            exact ih hrest

/-- Nothing is pushed or written. -/
structure Unwritten (c c' : CNetConnecter) : Prop extends SameEntry c c' where
  sendBuffer : c'.sendBuffer = c.sendBuffer
  bDisableWrite : c'.bDisableWrite = c.bDisableWrite
  connected : c'.eConnecterState = eNCS_Connected → c.eConnecterState = eNCS_Connected

theorem unwritten_shutdown (bForce : Bool) : Unwritten c (c.shutdown bForce) := by
  refine ⟨sameEntry_shutdown bForce, ?_, ?_, fun h => absurd h (shutdown_ne_connected bForce)⟩
  · rcases c.shutdown_cases bForce with ⟨-, hsame⟩ | ⟨bWaitClose, hclosing⟩
    · rw [hsame]
    · rw [hclosing]
  · rcases c.shutdown_cases bForce with ⟨-, hsame⟩ | ⟨bWaitClose, hclosing⟩
    · rw [hsame]
    · rw [hclosing]

theorem unwritten_onRecv (c : CNetConnecter) (result : ReadResult) (nSize : ℕ) :
    Unwritten c (c.onRecv [⟨result, nSize, []⟩]) := by
  cases result with
  | data bytes => exact ⟨⟨rfl, id⟩, rfl, rfl, id⟩
  | closed =>
      rw [onRecv]
      dsimp only
      split
      · exact ⟨⟨rfl, fun h => by cases h⟩, rfl, rfl, fun h => by cases h⟩
      · exact ⟨⟨rfl, fun h => by cases h⟩, rfl, rfl, fun h => by cases h⟩
  | wouldBlock => exact ⟨⟨rfl, id⟩, rfl, rfl, id⟩
  | interrupted => exact ⟨⟨rfl, id⟩, rfl, rfl, id⟩
  | error =>
      have hshutdown := unwritten_shutdown (c := c.receive .error 0) true
      exact ⟨⟨hshutdown.bSendConnecter, hshutdown.connecting⟩,
        hshutdown.sendBuffer, hshutdown.bDisableWrite, hshutdown.connected⟩

theorem Buffered.unwritten (h : c.Buffered) (hsame : Unwritten c c') : c'.Buffered :=
  h.congr hsame.sendBuffer hsame.connecting

/-- A connecter that is not connecting ignores `onConnect`. -/
theorem onConnect_cases (c : CNetConnecter) (opened : Opened) :
    c.onConnect { opened with calls := [] } = c ∨
      c.eConnecterState = eNCS_Connecting ∧
        SameEntry c (c.onConnect { opened with calls := [] }) ∧
        (c.onConnect { opened with calls := [] }).sendBuffer = c.sendBuffer ∧
        (c.onConnect { opened with calls := [] }).eConnecterState ≠ eNCS_Connecting := by
  rw [onConnect]
  split
  · exact .inl rfl
  · rename_i hstate
    have hconnecting := not_not.mp hstate
    have hrefused : ∀ c' : CNetConnecter, SameEntry c c' → c'.sendBuffer = c.sendBuffer →
        SameEntry c (c'.shutdown true) ∧ (c'.shutdown true).sendBuffer = c.sendBuffer ∧
          (c'.shutdown true).eConnecterState ≠ eNCS_Connecting := by
      intro c' hsame hbuffer
      have hshutdown := unwritten_shutdown (c := c') true
      refine ⟨⟨hshutdown.bSendConnecter.trans hsame.bSendConnecter,
        hsame.connecting ∘ hshutdown.connecting⟩,
        hshutdown.sendBuffer.trans hbuffer, ?_⟩
      exact shutdown_ne_connecting true
    refine .inr ⟨hconnecting, ?_⟩
    dsimp only
    split
    · exact hrefused _ ⟨rfl, id⟩ rfl
    · split
      · exact hrefused _ ⟨rfl, id⟩ rfl
      · exact ⟨⟨rfl, fun h => by cases h⟩, rfl, fun h => by cases h⟩

end CNetConnecter

namespace CNetEventLoop

open RealtimeEx.Network.Connecter.CNetConnecter

variable {l l' : CNetEventLoop}

/-! ## The list -/

/-- The connecter's entry in the list. -/
structure Listed (l : CNetEventLoop) : Prop where
  indexed : l.sendList.Indexed (l.nFlush.getD 0)
  listed : l.connecter.bSendConnecter = true ↔
    (l.sendList.nSendConnecterIndex l.nID).isSome = true
  flushing : l.bFlushing = true → ∃ nIndex, l.nFlush = some nIndex ∧
    l.sendList.vecSendConnecter[nIndex]? = some l.nID

/-- The connecter is flushed only until the callbacks have returned. -/
def Busy (l : CNetEventLoop) : Prop := l.bFlushing = true → l.stack ≠ []

theorem Listed.congr (h : l.Listed) (hsame : SameEntry l.connecter l'.connecter)
    (hid : l'.nID = l.nID) (hlist : l'.sendList = l.sendList) (hflush : l'.nFlush = l.nFlush)
    (hturn : l'.bFlushing = l.bFlushing) : l'.Listed := by
  refine ⟨?_, ?_, fun hflushing => ?_⟩
  · rw [hlist, hflush]
    exact h.indexed
  · rw [hsame.bSendConnecter, hlist, hid]
    exact h.listed
  · rw [hlist, hflush, hid]
    exact h.flushing (hturn.symm.trans hflushing)

theorem Listed.flushed (h : l.Listed) : l.flushed.Listed := by
  rw [CNetEventLoop.flushed]
  split
  · rename_i hturn
    obtain ⟨nIndex, hflush, hentry⟩ := h.flushing hturn.2
    refine ⟨?_, ?_, fun hflushing => by cases hflushing⟩
    · have hindexed := h.indexed
      rw [hflush] at hindexed ⊢
      exact hindexed.next hentry
    · rw [SendList.index_setSendConnecterIndex]
      exact iff_of_false Bool.noConfusion Bool.noConfusion
  · exact h

theorem busy_flushed (l : CNetEventLoop) : l.flushed.Busy := by
  rw [flushed]
  split
  · exact fun hflushing => by cases hflushing
  · rename_i hturn
    exact fun hflushing hempty => hturn ⟨hempty, hflushing⟩

theorem sameEntry_onSendEnd (c : CNetConnecter) : SameEntry c (onSendEnd c) := by
  rw [onSendEnd]
  split
  · exact ⟨rfl, id⟩
  · exact .refl c

theorem Listed.onSend (h : l.Listed) (writes : List WriteResult) : (l.onSend writes).Listed := by
  have hloop := sameEntry_onSendLoop (c := l.connecter) writes
  rw [CNetEventLoop.onSend]
  split
  · exact h.congr ⟨hloop.bSendConnecter, hloop.connecting⟩ rfl rfl rfl rfl
  · have hend := sameEntry_onSendEnd (l.connecter.onSendLoop writes)
    have hended : Listed { l with connecter := onSendEnd (l.connecter.onSendLoop writes) } :=
      h.congr ⟨hend.bSendConnecter.trans hloop.bSendConnecter,
        hloop.connecting ∘ hend.connecting⟩ rfl rfl rfl rfl
    exact hended.flushed

theorem busy_onSend (l : CNetEventLoop) (writes : List WriteResult) : (l.onSend writes).Busy := by
  rw [onSend]
  split
  · exact fun _ => List.cons_ne_nil _ _
  · exact busy_flushed _

theorem Listed.returns (h : l.Listed) : l.returns.Listed := by
  rw [CNetEventLoop.returns]
  split
  · exact h
  · rename_i stack _
    have hended : Listed { l with connecter := onSendEnd l.connecter, stack } :=
      h.congr (sameEntry_onSendEnd _) rfl rfl rfl rfl
    exact hended.flushed
  · rename_i stack _
    have hended : Listed { l with stack } := h.congr (.refl _) rfl rfl rfl rfl
    exact hended.flushed

theorem Busy.returns (h : l.Busy) : l.returns.Busy := by
  rw [CNetEventLoop.returns]
  split
  · exact h
  · exact busy_flushed _
  · exact busy_flushed _

theorem Listed.addSendConnecter (h : l.Listed) : l.addSendConnecter.Listed := by
  refine ⟨h.indexed.add l.nID, iff_of_true rfl ?_, fun hflushing => ?_⟩
  · exact l.sendList.isSome_index_addSendConnecter l.nID
  · obtain ⟨nIndex, hflush, hentry⟩ := h.flushing hflushing
    exact ⟨nIndex, hflush, l.sendList.getElem?_addSendConnecter l.nID hentry⟩

/-- A call pushes or writes, or it puts the connecter into the list. -/
theorem Listed.sendDirect (h : l.Listed) (pData : List UInt8) (writes : List WriteResult) :
    (l.sendDirect pData writes).Listed := by
  rw [CNetEventLoop.sendDirect]
  split
  · exact h.congr (sameEntry_shutdown true) rfl rfl rfl rfl
  · dsimp only
    split
    · exact h.congr ⟨rfl, id⟩ rfl rfl rfl rfl
    · exact h.congr ⟨rfl, id⟩ rfl rfl rfl rfl
  · dsimp only
    split
    · exact h.congr ⟨rfl, id⟩ rfl rfl rfl rfl
    · exact h.congr ⟨rfl, id⟩ rfl rfl rfl rfl

theorem Listed.sendNow (h : l.Listed) (pData : List UInt8) (writes : List WriteResult) :
    (l.sendNow pData writes).Listed := by
  have hpushed : Listed { l with connecter := l.connecter.push pData } :=
    h.congr ⟨rfl, id⟩ rfl rfl rfl rfl
  rw [CNetEventLoop.sendNow]
  split
  · exact h.sendDirect pData writes
  · dsimp only
    split
    · exact hpushed.onSend writes
    · exact hpushed

theorem Listed.send (h : l.Listed) (pData : List UInt8) (bCache : Bool)
    (writes : List WriteResult) : (l.send pData bCache writes).Listed := by
  have hpushed : Listed { l with connecter := l.connecter.push pData } :=
    h.congr ⟨rfl, id⟩ rfl rfl rfl rfl
  rw [CNetEventLoop.send]
  split
  · exact h
  · split
    · exact h.sendNow pData writes
    · rw [CNetEventLoop.sendCached]
      split
      · exact h.sendNow pData writes
      · dsimp only
        split
        · exact hpushed.onSend writes
        · exact hpushed.addSendConnecter

theorem Busy.sendDirect (h : l.Busy) (pData : List UInt8) (writes : List WriteResult) :
    (l.sendDirect pData writes).Busy := by
  rw [CNetEventLoop.sendDirect]
  split
  · exact h
  · dsimp only
    split
    · exact h
    · exact fun _ => List.cons_ne_nil _ _
  · dsimp only
    split
    · exact h
    · exact fun _ => List.cons_ne_nil _ _

theorem Busy.sendNow (h : l.Busy) (pData : List UInt8) (writes : List WriteResult) :
    (l.sendNow pData writes).Busy := by
  rw [CNetEventLoop.sendNow]
  split
  · exact h.sendDirect pData writes
  · dsimp only
    split
    · exact busy_onSend _ writes
    · exact h

theorem Busy.send (h : l.Busy) (pData : List UInt8) (bCache : Bool)
    (writes : List WriteResult) : (l.send pData bCache writes).Busy := by
  rw [CNetEventLoop.send]
  split
  · exact h
  · split
    · exact h.sendNow pData writes
    · rw [CNetEventLoop.sendCached]
      split
      · exact h.sendNow pData writes
      · dsimp only
        split
        · exact busy_onSend _ writes
        · exact h

/-! ## The buffer -/

theorem buffered_flushed (h : l.connecter.Buffered) : l.flushed.connecter.Buffered := by
  rw [flushed]
  split
  · exact h.congr rfl id
  · exact h

theorem buffered_onSendEnd {c : CNetConnecter} (h : c.Buffered) : (onSendEnd c).Buffered := by
  rw [onSendEnd]
  split
  · exact h.congr rfl id
  · exact h

theorem buffered_onSend (h : l.connecter.Buffered) (writes : List WriteResult) :
    (l.onSend writes).connecter.Buffered := by
  have hloop := h.onSendLoop writes
  rw [onSend]
  split
  · exact hloop.congr rfl id
  · apply buffered_flushed
    exact buffered_onSendEnd hloop

theorem buffered_returns (h : l.connecter.Buffered) : l.returns.connecter.Buffered := by
  rw [returns]
  split
  · exact h
  · apply buffered_flushed
    exact buffered_onSendEnd h
  · apply buffered_flushed
    exact h

theorem buffered_sendDirect (h : l.connecter.Buffered)
    (hstate : l.connecter.eConnecterState ≠ eNCS_Connecting) (pData : List UInt8)
    (writes : List WriteResult) : (l.sendDirect pData writes).connecter.Buffered := by
  rw [sendDirect]
  split
  · exact h.shutdown true
  · dsimp only
    split
    · exact h.pushed rfl hstate
    · exact h.congr rfl id
  · dsimp only
    split
    · exact h.pushed rfl hstate
    · exact h.congr rfl id

theorem buffered_sendNow (h : l.connecter.Buffered)
    (hstate : l.connecter.eConnecterState ≠ eNCS_Connecting) (pData : List UInt8)
    (writes : List WriteResult) : (l.sendNow pData writes).connecter.Buffered := by
  rw [sendNow]
  split
  · exact buffered_sendDirect h hstate pData writes
  · dsimp only
    split
    · apply buffered_onSend
      exact h.pushed rfl hstate
    · exact h.pushed rfl hstate

theorem ne_connecting_of_accepts {c : CNetConnecter} (h : ¬ c.refusesSend = true) :
    c.eConnecterState ≠ eNCS_Connecting := by
  intro hconnecting
  apply h
  rw [refusesSend, hconnecting]
  rfl

theorem buffered_send (h : l.connecter.Buffered) (pData : List UInt8) (bCache : Bool)
    (writes : List WriteResult) : (l.send pData bCache writes).connecter.Buffered := by
  rw [send]
  split
  · exact h
  · rename_i haccepts
    have hstate := ne_connecting_of_accepts haccepts
    split
    · exact buffered_sendNow h hstate pData writes
    · rw [sendCached]
      split
      · exact buffered_sendNow h hstate pData writes
      · dsimp only
        split
        · apply buffered_onSend
          exact h.pushed rfl hstate
        · exact h.pushed rfl hstate

/-! ## Waiting for a round or for an event -/

/-- Bytes in the buffer of a connected connecter are waiting for a round of the loop or for a
write event. -/
def Waits (l : CNetEventLoop) : Prop :=
  l.connecter.eConnecterState = eNCS_Connected →
    l.connecter.sendBuffer.getTailDataSize ≠ 0 →
      l.connecter.bSendConnecter = true ∨ l.connecter.bDisableWrite = true

/-- The turn of the connecter is over only if nothing depends on its entry. -/
theorem waits_flushed (h : l.Waits)
    (hturn : l.stack = [] → l.bFlushing = true → l.connecter.WaitsForWrite) :
    l.flushed.Waits := by
  rw [flushed]
  split
  · rename_i hend
    exact fun hstate hsize => .inr (hturn hend.1 hend.2 hstate hsize)
  · exact h

theorem waitsForWrite_onSendEnd {c : CNetConnecter} (h : c.WaitsForWrite) :
    (onSendEnd c).WaitsForWrite := by
  rw [onSendEnd]
  split
  · exact h
  · exact h

theorem waits_onSend {writes : List WriteResult}
    (h : NoShortWrite l.connecter.sendBuffer writes ∨
      l.Busy ∧ l.connecter.bSendConnecter = true) : (l.onSend writes).Waits := by
  rw [onSend]
  split
  · rename_i hcomplete
    exact fun _ hsize => absurd hcomplete.2 hsize
  · rcases h with hwhole | ⟨hbusy, hlisted⟩
    · have hwaits := waitsForWrite_onSendEnd (waitsForWrite_onSendLoop hwhole)
      apply waits_flushed
      · exact fun hstate hsize => .inr (hwaits hstate hsize)
      · exact fun _ _ => hwaits
    · have hloop := sameEntry_onSendLoop (c := l.connecter) writes
      have hend := sameEntry_onSendEnd (l.connecter.onSendLoop writes)
      apply waits_flushed
      · exact fun _ _ => .inl (hend.bSendConnecter.trans (hloop.bSendConnecter.trans hlisted))
      · exact fun hempty hturn => absurd hempty (hbusy hturn)

/-- A send without a short write, unless the connecter is waiting already. -/
structure SendWaits (l : CNetEventLoop) (pData : List UInt8) (bCache : Bool)
    (writes : List WriteResult) : Prop where
  direct : l.connecter.sendBuffer.getTailDataSize = 0 →
    (bCache = false ∨ l.connecter.nSendBufferSize ≤ pData.length) →
      ∀ n, firstWrite pData.length writes = .room n → pData.length ≤ n
  buffered : ¬ (l.connecter.sendBuffer.getTailDataSize = 0 ∧
      (bCache = false ∨ l.connecter.nSendBufferSize ≤ pData.length)) →
    (bCache = false ∨ l.connecter.nSendBufferSize ≤
      (l.connecter.sendBuffer.push pData).getTotalReadableSize) →
      NoShortWrite (l.connecter.sendBuffer.push pData) writes

theorem waits_sendDirect {pData : List UInt8} {writes : List WriteResult}
    (hempty : l.connecter.sendBuffer.getTailDataSize = 0)
    (h : l.connecter.bSendConnecter = true ∨ l.connecter.bDisableWrite = true ∨
      ∀ n, firstWrite pData.length writes = .room n → pData.length ≤ n) :
    (l.sendDirect pData writes).Waits := by
  rw [sendDirect]
  split
  · exact fun hstate => absurd hstate (shutdown_ne_connected true)
  · rename_i n hroom
    dsimp only
    split
    · rename_i hshort
      rcases h with hlisted | hflag | hwhole
      · exact fun _ _ => .inl hlisted
      · exact fun _ _ => .inr hflag
      · exact absurd (Nat.min_eq_right (hwhole n hroom)) hshort
    · exact fun _ hsize => absurd hempty hsize
  · dsimp only
    split
    · exact fun _ _ => .inr rfl
    · exact fun _ _ => .inr rfl

theorem waits_sendNow {pData : List UInt8} {writes : List WriteResult} (hbusy : l.Busy)
    (h : l.connecter.bSendConnecter = true ∨ l.connecter.bDisableWrite = true ∨
      (l.connecter.sendBuffer.getTailDataSize = 0 →
          ∀ n, firstWrite pData.length writes = .room n → pData.length ≤ n) ∧
        (l.connecter.sendBuffer.getTailDataSize ≠ 0 →
          NoShortWrite (l.connecter.sendBuffer.push pData) writes)) :
    (l.sendNow pData writes).Waits := by
  rw [sendNow]
  split
  · rename_i hempty
    exact waits_sendDirect hempty (h.imp_right (Or.imp_right fun hwrites => hwrites.1 hempty))
  · rename_i hsize
    dsimp only
    split
    · rename_i henabled
      apply waits_onSend
      rcases h with hlisted | hflag | hwrites
      · exact .inr ⟨hbusy, hlisted⟩
      · exact absurd (hflag.symm.trans henabled) Bool.noConfusion
      · exact .inl (hwrites.2 hsize)
    · rename_i hflag
      exact fun _ _ => .inr (Bool.eq_true_of_not_eq_false hflag)

theorem waits_send {pData : List UInt8} {bCache : Bool} {writes : List WriteResult}
    (hbusy : l.Busy) (hwaits : l.Waits)
    (h : l.connecter.bSendConnecter = true ∨ l.connecter.bDisableWrite = true ∨
      l.SendWaits pData bCache writes) : (l.send pData bCache writes).Waits := by
  rw [send]
  split
  · exact hwaits
  · split
    · rename_i hcache
      refine waits_sendNow hbusy (h.imp_right (Or.imp_right fun hwrites => ?_))
      exact ⟨fun hempty => hwrites.direct hempty (.inl hcache),
        fun hsize => hwrites.buffered (fun hdirect => hsize hdirect.1) (.inl hcache)⟩
    · rename_i hcache
      rw [sendCached]
      split
      · rename_i hdirect
        refine waits_sendNow hbusy (h.imp_right (Or.imp_right fun hwrites => ?_))
        exact ⟨fun hempty => hwrites.direct hempty (.inr hdirect.2),
          fun hsize => absurd hdirect.1 hsize⟩
      · rename_i hdirect
        dsimp only
        split
        · rename_i hfull
          apply waits_onSend
          rcases h with hlisted | hflag | hwrites
          · exact .inr ⟨hbusy, hlisted⟩
          · exact absurd (hflag.symm.trans hfull.2) Bool.noConfusion
          · refine .inl (hwrites.buffered ?_ (.inr hfull.1))
            rintro ⟨hempty, hno | hle⟩
            · exact hcache hno
            · exact hdirect ⟨hempty, hle⟩
        · exact fun _ _ => .inl rfl

theorem waits_returns (hwaits : l.Waits)
    (h : l.bFlushing = true → l.stack.length = 1 → l.connecter.WaitsForWrite) :
    l.returns.Waits := by
  have hlast {frame : Frame} {stack : List Frame} (hstack : l.stack = frame :: stack)
      (hempty : stack = []) : l.stack.length = 1 := by
    rw [hstack, hempty]
    rfl
  rw [returns]
  split
  · exact hwaits
  · rename_i stack hstack
    have hsame := sameEntry_onSendEnd l.connecter
    apply waits_flushed
    · intro hstate hsize
      dsimp only at hstate hsize ⊢
      rw [onSendEnd] at hstate hsize ⊢
      split at hstate
      · rename_i hend
        rw [if_pos hend] at hsize ⊢
        exact hwaits hstate hsize
      · rename_i hend
        rw [if_neg hend] at hsize ⊢
        exact hwaits hstate hsize
    · intro hempty hturn
      exact waitsForWrite_onSendEnd (h hturn (hlast hstack hempty))
  · rename_i stack hstack
    apply waits_flushed
    · exact hwaits
    · exact fun hempty hturn => h hturn (hlast hstack hempty)

/-! ## Steps -/

/-- What the steps keep. -/
structure Sound (l : CNetEventLoop) : Prop where
  listed : l.Listed
  busy : l.Busy
  buffered : l.connecter.Buffered

theorem Sound.unwritten (h : l.Sound) {c : CNetConnecter} (hsame : Unwritten l.connecter c) :
    Sound { l with connecter := c } :=
  ⟨h.listed.congr hsame.toSameEntry rfl rfl rfl rfl, h.busy, h.buffered.unwritten hsame⟩

theorem Sound.not_flushing (h : l.Sound) (hbetween : l.Between) : ¬ l.bFlushing = true :=
  fun hflushing => h.busy hflushing hbetween.1

theorem Sound.flush (h : l.Sound) (hidle : l.stack = []) (writes : List WriteResult) :
    (l.flush writes).Sound := by
  have hbusy : ¬ l.bFlushing = true := fun hflushing => h.busy hflushing hidle
  rw [CNetEventLoop.flush]
  split
  · exact h
  · rename_i nIndex hflush
    have hindexed := h.listed.indexed
    rw [hflush] at hindexed
    split
    · rename_i hend
      exact ⟨⟨hindexed.clear hend, h.listed.listed, fun hflushing => absurd hflushing hbusy⟩,
        h.busy, h.buffered⟩
    · rename_i nOther hentry
      split
      · rename_i hself
        have hturn : Listed { l with bFlushing := true } :=
          ⟨h.listed.indexed, h.listed.listed, fun _ => ⟨nIndex, hflush, hself ▸ hentry⟩⟩
        exact ⟨hturn.onSend writes, busy_onSend _ writes,
          buffered_onSend (l := { l with bFlushing := true }) h.buffered writes⟩
      · rename_i hother
        refine ⟨⟨hindexed.next hentry, ?_,
          fun hflushing => absurd hflushing hbusy⟩, h.busy, h.buffered⟩
        rw [SendList.index_setSendConnecterIndex_of_ne _ (Ne.symm hother)]
        exact h.listed.listed

theorem Sound.release (h : l.Sound) (hbetween : l.Between) :
    Sound { l with
      connecter := l.connecter.release
      sendList := l.sendList.delSendConnecter l.nID } := by
  have hbuffer : l.connecter.release.sendBuffer = l.connecter.sendBuffer := by
    rw [CNetConnecter.release]
    dsimp only
    split
    · rfl
    · rfl
  have hstate : l.connecter.release.eConnecterState = eNCS_Disconnected := by
    rw [CNetConnecter.release]
    dsimp only
    split
    · rfl
    · rfl
  have hindexed := h.listed.indexed
  rw [hbetween.2] at hindexed
  refine ⟨⟨?_, ?_, fun hflushing => absurd hflushing (h.not_flushing hbetween)⟩, h.busy,
    h.buffered.congr hbuffer ?_⟩
  · show SendList.Indexed _ (l.nFlush.getD 0)
    rw [hbetween.2]
    exact hindexed.del l.nID
  · rw [SendList.index_delSendConnecter hindexed]
    exact iff_of_false Bool.noConfusion Bool.noConfusion
  · intro hconnecting
    rw [hstate] at hconnecting
    cases hconnecting

theorem Sound.step (l : CNetEventLoop) (e : LoopEvent) (h : l.Sound) : (l.step e).Sound := by
  rw [CNetEventLoop.step.eq_def]
  split
  · exact h
  · cases e with
    | send pData bCache writes =>
        exact ⟨h.listed.send pData bCache writes, h.busy.send pData bCache writes,
          buffered_send h.buffered pData bCache writes⟩
    | shutdown bForce => exact h.unwritten (unwritten_shutdown bForce)
    | returns => exact ⟨h.listed.returns, h.busy.returns, buffered_returns h.buffered⟩
    | connect opened =>
        dsimp only
        split
        · rcases onConnect_cases l.connecter opened with hsame | ⟨-, hsame, hbuffer, hstate⟩
          · rw [hsame]
            exact h
          · exact ⟨h.listed.congr hsame rfl rfl rfl rfl, h.busy,
              h.buffered.congr hbuffer (fun hconnecting => absurd hconnecting hstate)⟩
        · exact h
    | read read =>
        dsimp only
        split
        · exact h.unwritten (unwritten_onRecv _ _ _)
        · exact h
    | write writes =>
        dsimp only
        split
        · exact ⟨h.listed.onSend writes, busy_onSend l writes, buffered_onSend h.buffered writes⟩
        · exact h
    | error =>
        dsimp only
        split
        · exact h.unwritten (unwritten_shutdown true)
        · exact h
    | release =>
        dsimp only
        split
        · rename_i hcond
          exact h.release hcond.1
        · exact h
    | beginFlush =>
        dsimp only
        split
        · rename_i hbetween
          have hindexed := h.listed.indexed
          rw [hbetween.2] at hindexed
          exact ⟨⟨hindexed, h.listed.listed, fun hflushing =>
            absurd hflushing (h.not_flushing hbetween)⟩, h.busy, h.buffered⟩
        · exact h
    | flush writes =>
        dsimp only
        split
        · rename_i hidle
          exact h.flush hidle.1 writes
        · exact h
    | otherAdds nOther =>
        dsimp only
        split
        · rename_i hother
          refine ⟨⟨h.listed.indexed.add nOther, ?_, fun hflushing => ?_⟩, h.busy, h.buffered⟩
          · rw [SendList.index_addSendConnecter_of_ne (Ne.symm hother)]
            exact h.listed.listed
          · obtain ⟨nIndex, hflush, hentry⟩ := h.listed.flushing hflushing
            exact ⟨nIndex, hflush, l.sendList.getElem?_addSendConnecter nOther hentry⟩
        · exact h
    | otherReleased nOther =>
        dsimp only
        split
        · rename_i hcond
          have hindexed := h.listed.indexed
          rw [hcond.1.2] at hindexed
          refine ⟨⟨?_, ?_, fun hflushing => absurd hflushing (h.not_flushing hcond.1)⟩, h.busy,
            h.buffered⟩
          · show SendList.Indexed _ (l.nFlush.getD 0)
            rw [hcond.1.2]
            exact hindexed.del nOther
          · rw [SendList.isSome_index_delSendConnecter hindexed (Ne.symm hcond.2)]
            exact h.listed.listed
        · exact h

/-- No write of the step is short while the connecter is neither in the list nor waiting for
a write event; in its turn of the loop that flushes none is short at all, and the handler
has not left bytes behind that do not wait for a write event. -/
def KeepsWaiting (l : CNetEventLoop) : LoopEvent → Prop
  | .send pData bCache writes =>
      l.connecter.bSendConnecter = true ∨ l.connecter.bDisableWrite = true ∨
        l.SendWaits pData bCache writes
  | .write writes =>
      l.connecter.bSendConnecter = true ∨ NoShortWrite l.connecter.sendBuffer writes
  | .flush writes =>
      (∃ nIndex, l.nFlush = some nIndex ∧
        l.sendList.vecSendConnecter[nIndex]? = some l.nID) →
        NoShortWrite l.connecter.sendBuffer writes
  | .returns => l.bFlushing = true → l.stack.length = 1 → l.connecter.WaitsForWrite
  | _ => True

theorem Waits.unwritten (h : l.Waits) {c : CNetConnecter} (hsame : Unwritten l.connecter c) :
    Waits { l with connecter := c } := by
  intro hstate hsize
  dsimp only at hstate hsize ⊢
  rw [hsame.sendBuffer] at hsize
  rw [hsame.bSendConnecter, hsame.bDisableWrite]
  exact h (hsame.connected hstate) hsize

theorem Waits.step (h : l.Waits) (hsound : l.Sound) {e : LoopEvent} (hkeeps : l.KeepsWaiting e) :
    (l.step e).Waits := by
  rw [CNetEventLoop.step.eq_def]
  split
  · exact h
  · cases e with
    | send pData bCache writes => exact waits_send hsound.busy h hkeeps
    | shutdown bForce => exact h.unwritten (unwritten_shutdown bForce)
    | returns => exact waits_returns h hkeeps
    | connect opened =>
        dsimp only
        split
        · rcases onConnect_cases l.connecter opened with
            hsame | ⟨hconnecting, -, hbuffer, -⟩
          · rw [hsame]
            exact h
          · intro _ hsize
            dsimp only at hsize
            rw [hbuffer] at hsize
            exact absurd (hsound.buffered.connecting hconnecting) hsize
        · exact h
    | read read =>
        dsimp only
        split
        · exact h.unwritten (unwritten_onRecv _ _ _)
        · exact h
    | write writes =>
        dsimp only
        split
        · exact waits_onSend (hkeeps.symm.imp_right fun hlisted => ⟨hsound.busy, hlisted⟩)
        · exact h
    | error =>
        dsimp only
        split
        · exact h.unwritten (unwritten_shutdown true)
        · exact h
    | release =>
        dsimp only
        split
        · intro hstate
          dsimp only at hstate
          rw [CNetConnecter.release] at hstate
          dsimp only at hstate
          split at hstate
          · cases hstate
          · cases hstate
        · exact h
    | beginFlush =>
        dsimp only
        split
        · exact h
        · exact h
    | flush writes =>
        dsimp only
        split
        · rw [CNetEventLoop.flush]
          split
          · exact h
          · rename_i nIndex hflush
            split
            · exact h
            · rename_i nOther hentry
              split
              · rename_i hself
                exact waits_onSend (.inl (hkeeps ⟨nIndex, hflush, hself ▸ hentry⟩))
              · exact h
        · exact h
    | otherAdds nOther =>
        dsimp only
        split
        · exact h
        · exact h
    | otherReleased nOther =>
        dsimp only
        split
        · exact h
        · exact h

/-- A connecter that has been opened has nothing in its buffer and is not in the list. -/
theorem sound_opened (nID nSendBufferSize : ℕ) (opening : Opening) :
    (opened nID nSendBufferSize opening).Sound ∧
      (opened nID nSendBufferSize opening).connecter.sendBuffer.getTailDataSize = 0 := by
  have hnew : ∀ c : CNetConnecter, c.sendBuffer = .init sendBufSize →
      c.bSendConnecter = false →
        Sound { nID, connecter := c } ∧ c.sendBuffer.getTailDataSize = 0 := by
    intro c hbuffer hlisted
    have hempty : c.sendBuffer.getTailDataSize = 0 := by
      rw [hbuffer]
      rfl
    refine ⟨⟨⟨SendList.indexed_empty, ?_, fun hflushing => by cases hflushing⟩,
      fun hflushing => (by cases hflushing), ?_, fun _ => hempty⟩, hempty⟩
    · rw [hlisted]
      exact iff_of_false Bool.noConfusion Bool.noConfusion
    · rw [hbuffer]
      exact CNetSendBuffer.filled_init
  cases opening with
  | inProgress => exact hnew _ rfl rfl
  | finished opened => exact hnew _ rfl rfl
  | failed => exact hnew _ rfl rfl
  | accepted => exact hnew _ rfl rfl

/-! ## Runs -/

/-- The bytes in the buffer will be written without a further call. -/
def NotForgotten (l : CNetEventLoop) : Prop :=
  l.connecter.eConnecterState = eNCS_Connected → l.connecter.sendBuffer.data ≠ [] →
    l.nID ∈ l.sendList.vecSendConnecter ∨ l.connecter.bDisableWrite = true

theorem Waits.notForgotten (h : l.Waits) (hsound : l.Sound) : l.NotForgotten := by
  intro hstate hdata
  have hsize : l.connecter.sendBuffer.getTailDataSize ≠ 0 := fun hempty =>
    hdata ((CNetSendBuffer.data_eq_nil_iff hsound.buffered.filled).mpr hempty)
  refine (h hstate hsize).imp_left fun hlisted => ?_
  exact hsound.listed.indexed.mem (hsound.listed.listed.mp hlisted)

/-- A cached send of one byte, when nothing is buffered. -/
theorem send_of_empty {noUse : CNetSendBufferBlock sendBufSize} (b : UInt8)
    (hbuffer : l.connecter.sendBuffer = ⟨[], [noUse]⟩)
    (hstate : l.connecter.eConnecterState = eNCS_Connected)
    (hsize : 1 < l.connecter.nSendBufferSize) :
    l.send [b] true [] =
      { l with
        connecter := { l.connecter with sendBuffer := ⟨[noUse.reset.push [b]], []⟩ }
      }.addSendConnecter := by
  have hroom : [b].length ≤ noUse.reset.getWritableSize := by
    rw [CNetSendBufferBlock.getWritableSize_reset]
    exact Nat.one_le_two_pow (n := 11)
  have hpush : l.connecter.push [b] =
      { l.connecter with sendBuffer := ⟨[noUse.reset.push [b]], []⟩ } := by
    rw [CNetConnecter.push, hbuffer, CNetSendBuffer.push]
    dsimp only
    rw [CNetSendBuffer.pushLoop]
    exact congrArg (fun buffer => { l.connecter with sendBuffer := buffer }) (if_pos hroom)
  have hone : (noUse.reset.push [b]).getReadableSize = 1 :=
    CNetSendBufferBlock.getReadableSize_push hroom
  have htotal : CNetSendBuffer.getTotalReadableSize ⟨[noUse.reset.push [b]], []⟩ = 1 := by
    rw [CNetSendBuffer.getTotalReadableSize, List.map_singleton, List.sum_singleton, hone]
    rfl
  have haccepts : ¬ l.connecter.refusesSend = true := by
    rw [refusesSend, hstate]
    simp
  have hcached : ¬ (l.connecter.sendBuffer.getTailDataSize = 0 ∧
      l.connecter.nSendBufferSize ≤ [b].length) :=
    fun hdirect => absurd hdirect.2 (Nat.not_le_of_lt hsize)
  rw [send, if_neg haccepts, if_neg Bool.noConfusion, sendCached, if_neg hcached]
  dsimp only
  rw [hpush]
  refine if_neg fun hfull => ?_
  dsimp only at hfull
  rw [htotal] at hfull
  exact absurd hfull.1 (Nat.not_le_of_lt hsize)

/-- In a run in which every step keeps the connecter waiting, its output is not forgotten
whenever nothing of the loop is going on. -/
theorem notForgotten_of_meets (nID nSendBufferSize : ℕ) (opening : Opening)
    (es : List LoopEvent)
    (hmeets : Meets step KeepsWaiting (opened nID nSendBufferSize opening) es) :
    ∀ ks, ks <+: es → (ks.foldl step (opened nID nSendBufferSize opening)).Between →
      (ks.foldl step (opened nID nSendBufferSize opening)).NotForgotten := by
  obtain ⟨hsound, hempty⟩ := sound_opened nID nSendBufferSize opening
  intro ks hks _
  have hwaits := throughout_of_meets (P := Waits) Sound.step
    (fun _ _ hsound h => h.step hsound) hsound (fun _ hsize => absurd hempty hsize) hmeets ks hks
  exact hwaits.notForgotten (foldl_invariant Sound.step hsound ks)

/-- A byte that is sent into the buffer of an accepted connection is not forgotten. -/
theorem notForgotten_of_meets_cached :
    (([.connect {}, .send [1] true []] : List LoopEvent).foldl step
      (opened 7 100 .accepted)).NotForgotten := by
  refine notForgotten_of_meets 7 100 .accepted [.connect {}, .send [1] true []]
    ⟨trivial, .inr (.inr ⟨?_, ?_⟩), trivial⟩ _ (List.prefix_refl _) ?_
  · intro _ hdirect n hroom
    cases hroom
  · exact fun _ _ => trivial
  · have hsent := send_of_empty (l := (opened 7 100 .accepted).step (.connect {})) 1 rfl rfl
      (by decide)
    show (((opened 7 100 .accepted).step (.connect {})).send [1] true []).Between
    rw [hsent]
    exact ⟨rfl, rfl⟩

/-- The socket takes one byte of three. -/
def shortWrite : List LoopEvent := [.connect {}, .send [1, 2, 3] false [.room 1]]

/-- The handler sends from `onSendComplete` while its connecter is flushed. -/
def sentWhileFlushed : List LoopEvent :=
  [.connect {}, .send [1] true [], .beginFlush, .flush [.room 1], .send [2] true [], .returns,
    .flush []]

/-- The two bytes that the socket did not take wait for nothing, and neither does the byte
that the handler has sent. -/
theorem not_notForgotten :
    ((shortWrite.foldl step (opened 7 100 .accepted)).Between ∧
        ¬ (shortWrite.foldl step (opened 7 100 .accepted)).NotForgotten) ∧
      (sentWhileFlushed.foldl step (opened 7 100 .accepted)).Between ∧
        ¬ (sentWhileFlushed.foldl step (opened 7 100 .accepted)).NotForgotten := by
  have hdata : (shortWrite.foldl step (opened 7 100 .accepted)).connecter.sendBuffer.data =
      [2, 3] := CNetSendBuffer.data_push (.init sendBufSize) [2, 3]
  refine ⟨⟨⟨rfl, rfl⟩, fun h => ?_⟩, ?_⟩
  · rcases h rfl (by rw [hdata]; decide) with hlisted | hflag
    · cases hlisted
    · cases hflag
  have hlisted : (sentWhileFlushed.take 2).foldl step (opened 7 100 .accepted) =
      { nID := 7
        connecter :=
          { nSendBufferSize := 100
            eConnecterMode := .eNCM_Passive
            eConnecterState := .eNCS_Connected
            bDisableWrite := false
            sendBuffer := ⟨[(CNetSendBufferBlock.init sendBufSize).reset.push [1]], []⟩
            bSendConnecter := true
            callbacks := [.onConnect] }
        sendList := SendList.addSendConnecter {} 7 } :=
    send_of_empty (l := (opened 7 100 .accepted).step (.connect {})) 1 rfl rfl (by decide)
  let inCallback : CNetEventLoop :=
    { nID := 7
      connecter :=
        { nSendBufferSize := 100
          eConnecterMode := .eNCM_Passive
          eConnecterState := .eNCS_Connected
          bDisableWrite := false
          sendBuffer := ⟨[], [((CNetSendBufferBlock.init sendBufSize).reset.push [1]).pop 1]⟩
          bSendConnecter := true
          written := [1]
          callbacks := [.onConnect, .onSendComplete 1] }
      sendList := SendList.addSendConnecter {} 7
      nFlush := some 0
      bFlushing := true
      stack := [.onSend] }
  have hflushed : ([.beginFlush, .flush [.room 1]] : List LoopEvent).foldl step
      ((sentWhileFlushed.take 2).foldl step (opened 7 100 .accepted)) = inCallback := by
    rw [hlisted]
    rfl
  have hsent := send_of_empty (l := inCallback) 2 rfl rfl (by decide)
  have hrun : sentWhileFlushed.foldl step (opened 7 100 .accepted) =
      ((inCallback.send [2] true []).step .returns).step (.flush []) := by
    show ([.send [2] true [], .returns, .flush []] : List LoopEvent).foldl step
      (([.beginFlush, .flush [.room 1]] : List LoopEvent).foldl step
        ((sentWhileFlushed.take 2).foldl step (opened 7 100 .accepted))) = _
    rw [hflushed]
    rfl
  rw [hrun, hsent]
  refine ⟨⟨rfl, rfl⟩, fun h => ?_⟩
  rcases h rfl (by decide) with hlisted | hflag
  · cases hlisted
  · cases hflag

end CNetEventLoop

end RealtimeEx.Network.Connecter
