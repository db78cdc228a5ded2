import RealtimeEx.Network.NetConnecterLoop
import RealtimeEx.Support.History

/-!
# The callbacks of `CNetConnecter`

The handler is promised `onConnect` before it receives anything, and at the end
`onDisconnect` if it was connected and `onConnectFail` otherwise.  A connecter whose
`connect` finishes at once is set to `eNCS_Connected` before `onConnect` is called, which
then does nothing, and one that is shut down while it is connecting is released as if it
had been connected.  All others keep the promise.
-/

namespace RealtimeEx.Network.Connecter

open ENetConnecterState ENetConnecterMode

/-- A callback about transferred data. -/
def Callback.isTransfer : Callback → Bool
  | .onRecv | .onSendComplete _ => true
  | _ => false

namespace CNetConnecter

variable {c c' c'' : CNetConnecter} {report : List Callback}

/-- What the handler is promised. -/
structure Protocol (c : CNetConnecter) : Prop where
  once : c.callbacks.count .onConnect ≤ 1
  first : ∀ ks, ks ++ [.onRecv] <+: c.callbacks → .onConnect ∈ ks
  ended : c.bReleased = true →
    c.callbacks.count .onDisconnect + c.callbacks.count .onConnectFail = 1 ∧
      (.onDisconnect ∈ c.callbacks ↔ .onConnect ∈ c.callbacks)

/-! ## Transfers -/

/-- The connecter is neither connecting nor released, and its connection has not
failed. -/
structure IsOpen (c : CNetConnecter) : Prop where
  state : c.eConnecterState = eNCS_Connected ∨ c.eConnecterState = eNCS_Disconnecting
  unfailed : c.bConnectFail = false
  live : c.bLive = true
  unreleased : c.bReleased = false

theorem IsOpen.ne_connecting (h : c.IsOpen) : c.eConnecterState ≠ eNCS_Connecting := by
  intro hconnecting
  rcases h.state with hstate | hstate
  · rw [hstate] at hconnecting
    cases hconnecting
  · rw [hstate] at hconnecting
    cases hconnecting

/-- An open connecter stays open, and the handler sees callbacks about data only. -/
structure Transfers (c c' : CNetConnecter) : Prop where
  isOpen : c'.IsOpen
  callbacks_eq : ∃ cbs : List Callback, c'.callbacks = c.callbacks ++ cbs ∧
    ∀ cb ∈ cbs, cb.isTransfer = true

theorem Transfers.of_eq (h : c'.IsOpen) (hcallbacks : c'.callbacks = c.callbacks) :
    Transfers c c' := by
  refine ⟨h, [], ?_, ?_⟩
  · rw [hcallbacks, List.append_nil]
  · intro cb hcb
    cases hcb

theorem IsOpen.transfers (h : c.IsOpen) : Transfers c c := .of_eq h rfl

theorem Transfers.trans (h₁ : Transfers c c') (h₂ : Transfers c' c'') :
    Transfers c c'' := by
  obtain ⟨cbs₁, heq₁, hcbs₁⟩ := h₁.callbacks_eq
  obtain ⟨cbs₂, heq₂, hcbs₂⟩ := h₂.callbacks_eq
  refine ⟨h₂.isOpen, cbs₁ ++ cbs₂, ?_, ?_⟩
  · rw [heq₂, heq₁, List.append_assoc]
  · intro cb hcb
    rcases List.mem_append.mp hcb with hcb | hcb
    · exact hcbs₁ cb hcb
    · exact hcbs₂ cb hcb

theorem IsOpen.congr (h : c.IsOpen) (hstate : c'.eConnecterState = c.eConnecterState)
    (hfail : c'.bConnectFail = c.bConnectFail) (hlive : c'.bLive = c.bLive)
    (hreleased : c'.bReleased = c.bReleased) : c'.IsOpen :=
  ⟨hstate ▸ h.state, hfail.trans h.unfailed, hlive.trans h.live,
    hreleased.trans h.unreleased⟩

theorem IsOpen.notify (h : c.IsOpen) {callback : Callback}
    (htransfer : callback.isTransfer = true) : Transfers c (c.notify callback) := by
  refine ⟨h.congr rfl rfl rfl rfl, [callback], rfl, ?_⟩
  intro cb hcb
  rw [List.mem_singleton.mp hcb]
  exact htransfer

theorem IsOpen.disconnecting (h : c.IsOpen)
    (hstate : c'.eConnecterState = eNCS_Disconnecting)
    (hfail : c'.bConnectFail = c.bConnectFail) (hlive : c'.bLive = c.bLive)
    (hreleased : c'.bReleased = c.bReleased) : c'.IsOpen :=
  ⟨.inr hstate, hfail.trans h.unfailed, hlive.trans h.live, hreleased.trans h.unreleased⟩

theorem IsOpen.shutdown (h : c.IsOpen) (bForce : Bool) :
    Transfers c (c.shutdown bForce) := by
  rcases c.shutdown_cases bForce with ⟨-, hsame⟩ | ⟨bWaitClose, hclosing⟩
  · rw [hsame]
    exact h.transfers
  · rw [hclosing]
    exact .of_eq (h.disconnecting rfl rfl rfl rfl) rfl

theorem IsOpen.onSendLoop (h : c.IsOpen) (writes : List WriteResult) :
    Transfers c (c.onSendLoop writes) := by
  induction writes generalizing c with
  | nil =>
      rw [CNetConnecter.onSendLoop]
      split
      · exact h.transfers
      · exact .of_eq (h.congr rfl rfl rfl rfl) rfl
  | cons result writes ih =>
      rw [CNetConnecter.onSendLoop]
      dsimp only
      split
      · exact h.transfers
      · have henabled : Transfers c { c with bDisableWrite := false } :=
          .of_eq (h.congr rfl rfl rfl rfl) rfl
        cases result with
        | wouldBlock => exact .of_eq (h.congr rfl rfl rfl rfl) rfl
        | interrupted => exact henabled.trans (ih henabled.isOpen)
        | error => exact henabled.trans (henabled.isOpen.shutdown true)
        | room n =>
            dsimp only
            split
            · exact .of_eq (h.congr rfl rfl rfl rfl) rfl
            · have htaken : Transfers c
                  { c with
                    bDisableWrite := false
                    written := c.written ++
                      c.sendBuffer.getTailData.take (min n c.sendBuffer.getTailDataSize)
                    sendBuffer :=
                      c.sendBuffer.pop (min n c.sendBuffer.getTailDataSize) } :=
                .of_eq (h.congr rfl rfl rfl rfl) rfl
              exact htaken.trans (ih htaken.isOpen)

theorem IsOpen.close (h : c.IsOpen) : Transfers c c.close :=
  .of_eq (h.congr rfl rfl rfl rfl) rfl

theorem IsOpen.onSend (h : c.IsOpen) (writes : List WriteResult) :
    Transfers c (c.onSend writes) := by
  have hloop := h.onSendLoop writes
  have hcomplete : Transfers (c.onSendLoop writes)
      (if c.sendBuffer.getTotalReadableSize ≠ 0 ∧
          (c.onSendLoop writes).sendBuffer.getTailDataSize = 0 then
        (c.onSendLoop writes).notify (.onSendComplete c.sendBuffer.getTotalReadableSize)
      else
        c.onSendLoop writes) := by
    split
    · exact hloop.isOpen.notify rfl
    · exact hloop.isOpen.transfers
  have hsent := hloop.trans hcomplete
  rw [CNetConnecter.onSend]
  generalize (if c.sendBuffer.getTotalReadableSize ≠ 0 ∧
      (c.onSendLoop writes).sendBuffer.getTailDataSize = 0 then
    (c.onSendLoop writes).notify (.onSendComplete c.sendBuffer.getTotalReadableSize)
  else
    c.onSendLoop writes) = c' at hsent
  split
  · exact hsent.trans hsent.isOpen.close
  · exact hsent

theorem IsOpen.sendDirect (h : c.IsOpen) (pData : List UInt8) (writes : List WriteResult) :
    Transfers c (c.sendDirect pData writes).2 := by
  have hdisabled : Transfers c { c with bDisableWrite := true } :=
    .of_eq (h.congr rfl rfl rfl rfl) rfl
  rw [CNetConnecter.sendDirect]
  split
  · exact h.shutdown true
  · rename_i n hroom
    have htaken : Transfers c
        { c with written := c.written ++ pData.take (min n pData.length) } :=
      .of_eq (h.congr rfl rfl rfl rfl) rfl
    dsimp only
    split
    · exact .of_eq (h.congr rfl rfl rfl rfl) rfl
    · exact htaken.trans (htaken.isOpen.notify rfl)
  · dsimp only
    split
    · exact .of_eq (h.congr rfl rfl rfl rfl) rfl
    · exact hdisabled.trans (hdisabled.isOpen.notify rfl)

theorem IsOpen.push (h : c.IsOpen) (pData : List UInt8) : Transfers c (c.push pData) :=
  .of_eq (h.congr rfl rfl rfl rfl) rfl

theorem IsOpen.sendNow (h : c.IsOpen) (pData : List UInt8) (writes : List WriteResult) :
    Transfers c (c.sendNow pData writes).2 := by
  have hpushed := h.push pData
  rw [CNetConnecter.sendNow]
  split
  · exact h.sendDirect pData writes
  · dsimp only
    split
    · exact hpushed.trans (hpushed.isOpen.onSend writes)
    · exact hpushed

theorem IsOpen.sendCached (h : c.IsOpen) (pData : List UInt8) (writes : List WriteResult) :
    Transfers c (c.sendCached pData writes).2 := by
  have hpushed := h.push pData
  rw [CNetConnecter.sendCached]
  split
  · exact h.sendNow pData writes
  · dsimp only
    split
    · exact hpushed.trans (hpushed.isOpen.onSend writes)
    · exact .of_eq (h.congr rfl rfl rfl rfl) rfl

theorem IsOpen.send (h : c.IsOpen) (pData : List UInt8) (bCache : Bool)
    (writes : List WriteResult) : Transfers c (c.send pData bCache writes) := by
  have hresult : Transfers c (c.sendResult pData bCache writes).2 := by
    rw [sendResult]
    split
    · exact h.transfers
    · split
      · exact h.sendNow pData writes
      · exact h.sendCached pData writes
  rw [CNetConnecter.send]
  dsimp only
  split
  · exact hresult.trans (.of_eq (hresult.isOpen.congr rfl rfl rfl rfl) rfl)
  · exact hresult

theorem IsOpen.call (h : c.IsOpen) (call : Call) : Transfers c (c.call call) := by
  cases call with
  | send pData bCache writes => exact h.send pData bCache writes
  | shutdown bForce => exact h.shutdown bForce

theorem IsOpen.foldl_call (h : c.IsOpen) (calls : List Call) :
    Transfers c (calls.foldl CNetConnecter.call c) := by
  apply foldl_invariant (I := Transfers c)
  · intro c' call hc'
    exact hc'.trans (hc'.isOpen.call call)
  · exact h.transfers

theorem IsOpen.receive (h : c.IsOpen) (result : ReadResult) (nSize : ℕ) :
    Transfers c (c.receive result nSize) :=
  .of_eq (h.congr rfl rfl rfl rfl) rfl

theorem IsOpen.onRecv (h : c.IsOpen) (reads : List Read) : Transfers c (c.onRecv reads) := by
  induction reads generalizing c with
  | nil => exact h.receive _ _
  | cons read reads ih =>
      obtain ⟨result, nSize, calls⟩ := read
      cases result with
      | data bytes =>
          have hread := h.receive (.data bytes) nSize
          have hseen := hread.trans
            (hread.isOpen.notify (show Callback.onRecv.isTransfer = true from rfl))
          have hcalled := hseen.trans (hseen.isOpen.foldl_call calls)
          exact hcalled.trans (ih hcalled.isOpen)
      | closed =>
          rw [CNetConnecter.onRecv]
          dsimp only
          split
          · exact .of_eq (h.disconnecting rfl rfl rfl rfl) rfl
          · exact .of_eq (h.disconnecting rfl rfl rfl rfl) rfl
      | wouldBlock => exact h.receive _ _
      | interrupted =>
          have hread := h.receive .interrupted 0
          exact hread.trans (ih hread.isOpen)
      | error =>
          have hread := h.receive .error 0
          exact hread.trans (hread.isOpen.shutdown true)

theorem IsOpen.onEvent (h : c.IsOpen) (e : NetEvent) : Transfers c (c.onEvent e) := by
  have hopen : Transfers c
      (if e.bError = true then
        c.shutdown true
      else
        let c := if e.bRecv = true ∧ c.bCloseRecv = false then c.onRecv e.reads else c
        if e.bSend = true then c.onSend e.writes else c) := by
    split
    · exact h.shutdown true
    · have hread : Transfers c
          (if e.bRecv = true ∧ c.bCloseRecv = false then c.onRecv e.reads else c) := by
        split
        · exact h.onRecv e.reads
        · exact h.transfers
      dsimp only
      generalize (if e.bRecv = true ∧ c.bCloseRecv = false then c.onRecv e.reads else c) = c'
        at hread
      split
      · exact hread.trans (hread.isOpen.onSend e.writes)
      · exact hread
  rw [CNetConnecter.onEvent]
  rcases h.state with hstate | hstate
  · rw [hstate]
    exact hopen
  · rw [hstate]
    exact hopen

/-! ## The phases of a connecter -/

/-- It was opened, the handler has seen `report`, and it is open or was released. -/
structure Carries (report : List Callback) (c : CNetConnecter) : Prop where
  phase : ∃ cbs : List Callback, (∀ cb ∈ cbs, cb.isTransfer = true) ∧
    (c.IsOpen ∧ c.callbacks = report ++ cbs ∨
      c.bLive = false ∧ c.bReleased = true ∧ c.eConnecterState = eNCS_Disconnected ∧
        c.callbacks = report ++ cbs ++ [.onDisconnect])

/-- It is connecting. -/
structure Waiting (c : CNetConnecter) : Prop where
  state : c.eConnecterState = eNCS_Connecting
  unfailed : c.bConnectFail = false
  waitClose : c.bWaitClose = false
  sendConnecter : c.bSendConnecter = false
  live : c.bLive = true
  unreleased : c.bReleased = false
  callbacks_eq : c.callbacks = []

/-- Its connection has failed, and it waits for its release. -/
structure Failed (c : CNetConnecter) : Prop where
  state : c.eConnecterState = eNCS_Disconnecting
  closeSend : c.bCloseSend = true
  failed : c.bConnectFail = true
  waitClose : c.bWaitClose = true
  live : c.bLive = true
  unreleased : c.bReleased = false
  callbacks_eq : c.callbacks = []

/-- It was deleted, after the handler was told of the failure if it was released. -/
structure Refused (c : CNetConnecter) : Prop where
  dead : c.bLive = false
  state : c.eConnecterState = eNCS_Disconnected
  callbacks_eq : c.callbacks = if c.bReleased = true then [.onConnectFail] else []

theorem Carries.of_transfers (h : Carries report c) (hlive : c.bLive = true)
    (htransfers : c.IsOpen → Transfers c c') : Carries report c' := by
  obtain ⟨cbs, hcbs, ⟨hopen, heq⟩ | ⟨hdead, -⟩⟩ := h.phase
  · obtain ⟨cbs', heq', hcbs'⟩ := (htransfers hopen).callbacks_eq
    refine ⟨cbs ++ cbs', ?_, .inl ⟨(htransfers hopen).isOpen, ?_⟩⟩
    · intro cb hcb
      rcases List.mem_append.mp hcb with hcb | hcb
      · exact hcbs cb hcb
      · exact hcbs' cb hcb
    · rw [heq', heq, List.append_assoc]
  · rw [hdead] at hlive
    cases hlive

theorem Carries.isOpen (h : Carries report c) (hlive : c.bLive = true) : c.IsOpen := by
  obtain ⟨cbs, -, ⟨hopen, -⟩ | ⟨hdead, -⟩⟩ := h.phase
  · exact hopen
  · rw [hdead] at hlive
    cases hlive

theorem Carries.ne_connecting (h : Carries report c) :
    c.eConnecterState ≠ eNCS_Connecting := by
  obtain ⟨cbs, -, ⟨hopen, -⟩ | ⟨-, -, hstate, -⟩⟩ := h.phase
  · exact hopen.ne_connecting
  · intro hconnecting
    rw [hstate] at hconnecting
    cases hconnecting

@[simp] theorem state_release : c.release.eConnecterState = eNCS_Disconnected := by
  rw [CNetConnecter.release]
  dsimp only
  split <;> rfl

theorem Carries.release (h : Carries report c) (hlive : c.bLive = true) :
    Carries report c.release := by
  have hopen := h.isOpen hlive
  obtain ⟨cbs, hcbs, ⟨-, heq⟩ | ⟨hdead, -⟩⟩ := h.phase
  · have hstate := hopen.ne_connecting
    refine ⟨cbs, hcbs, .inr ⟨rfl, rfl, state_release, ?_⟩⟩
    rw [CNetConnecter.release]
    dsimp only
    rw [if_pos ⟨hopen.unfailed, by simp [hstate]⟩, ← heq]
    rfl
  · rw [hdead] at hlive
    cases hlive

/-- Whatever happens to an opened connecter, the report stays what it was. -/
theorem Carries.step (h : Carries report c) (event : Event) :
    Carries report (c.step event) := by
  unfold CNetConnecter.step
  split
  · exact h
  · rename_i hlive
    rw [Bool.not_eq_false] at hlive
    have hopen := h.isOpen hlive
    cases event with
    | call call => exact h.of_transfers hlive fun hopen => hopen.call call
    | update writes =>
        dsimp only
        rw [update]
        split
        · exact h.release hlive
        · dsimp only
          apply h.of_transfers hlive
          intro hopen
          split
          · have hsent := hopen.onSend writes
            exact hsent.trans (.of_eq (hsent.isOpen.congr rfl rfl rfl rfl) rfl)
          · exact .of_eq (hopen.congr rfl rfl rfl rfl) rfl
    | poll e =>
        dsimp only
        split
        · exact h
        · apply h.of_transfers hlive
          intro hopen
          have hhandled := hopen.onEvent e
          exact hhandled.trans (.of_eq (hhandled.isOpen.congr rfl rfl rfl rfl) rfl)
    | destroy => exact h.release hlive

theorem Carries.foldl_step (h : Carries report c) (events : List Event) :
    Carries report (events.foldl CNetConnecter.step c) :=
  foldl_invariant (I := Carries report) (fun _ event h => h.step event) h events

theorem Waiting.refused (h : c.Waiting) : c.release.Refused := by
  refine ⟨rfl, state_release, ?_⟩
  rw [CNetConnecter.release]
  dsimp only
  rw [if_neg (by simp [h.state])]
  show c.callbacks ++ [.onConnectFail] = _
  rw [h.callbacks_eq]
  rfl

theorem Failed.refused (h : c.Failed) : c.release.Refused := by
  refine ⟨rfl, state_release, ?_⟩
  rw [CNetConnecter.release]
  dsimp only
  rw [if_neg (by simp [h.failed])]
  show c.callbacks ++ [.onConnectFail] = _
  rw [h.callbacks_eq]
  rfl

/-- What `onConnect` makes of a connecter that is connecting: the connection has failed,
or the handler has seen `onConnect`. -/
theorem Waiting.onConnect (h : c.Waiting) (opened : Opened) :
    (c.onConnect opened).Failed ∨ Carries [.onConnect] (c.onConnect opened) ∧
      (c.onConnect opened).bLive = true := by
  have hshutdown : Failed
      ({ c with bDisableWrite := false, bConnectFail := true }.shutdown true) := by
    rw [CNetConnecter.shutdown]
    dsimp only
    rw [if_neg (by simp [h.state]), if_pos (.inl rfl)]
    exact ⟨rfl, rfl, rfl, rfl, h.live, h.unreleased, h.callbacks_eq⟩
  have hopen : IsOpen
      ({ c with bDisableWrite := false, eConnecterState := eNCS_Connected }.notify
        .onConnect) :=
    ⟨.inl rfl, h.unfailed, h.live, h.unreleased⟩
  rw [CNetConnecter.onConnect, if_neg (not_not.mpr h.state)]
  dsimp only
  split
  · exact .inl hshutdown
  · split
    · exact .inl hshutdown
    · right
      have hcalled := hopen.foldl_call opened.calls
      refine ⟨?_, hcalled.isOpen.live⟩
      obtain ⟨cbs, heq, hcbs⟩ := hcalled.callbacks_eq
      refine ⟨cbs, hcbs, .inl ⟨hcalled.isOpen, heq.trans ?_⟩⟩
      show c.callbacks ++ [.onConnect] ++ cbs = _
      rw [h.callbacks_eq]
      rfl

/-- A connecter that has kept the promise so far. -/
inductive Kept (c : CNetConnecter) : Prop
  | waiting (h : c.Waiting)
  | failed (h : c.Failed) (hpolled : c.bPolled = true)
  | connected (h : Carries [.onConnect] c)
  | refused (h : c.Refused)

/-- What an event of the loop makes of a connecter that is connecting. -/
theorem Waiting.poll (h : c.Waiting) (e : NetEvent) :
    Kept { c.onEvent e with bPolled := true } := by
  rw [onEvent, h.state]
  dsimp only
  by_cases hconnect : e.bSend = true ∨ e.bError = true
  · rw [if_pos hconnect]
    rcases h.onConnect e.opened with hfailed | ⟨hcarries, hlive⟩
    · rw [if_neg (by simp [hfailed.state])]
      exact .failed ⟨hfailed.state, hfailed.closeSend, hfailed.failed, hfailed.waitClose,
        hfailed.live, hfailed.unreleased, hfailed.callbacks_eq⟩ rfl
    · apply Kept.connected
      apply hcarries.of_transfers hlive
      intro hopen
      split
      · have hread := hopen.onRecv e.reads
        exact hread.trans (.of_eq (hread.isOpen.congr rfl rfl rfl rfl) rfl)
      · exact .of_eq (hopen.congr rfl rfl rfl rfl) rfl
  · rw [if_neg hconnect, if_neg (by simp [h.state])]
    exact .waiting ⟨h.state, h.unfailed, h.waitClose, h.sendConnecter, h.live, h.unreleased,
      h.callbacks_eq⟩

/-- The event is not a shutdown of a connecter that is connecting. -/
def Timely (c : CNetConnecter) : Event → Prop
  | .call (.shutdown _) => c.eConnecterState ≠ eNCS_Connecting
  | _ => True

theorem send_of_refuses (h : c.refusesSend = true) (pData : List UInt8) (bCache : Bool)
    (writes : List WriteResult) : c.send pData bCache writes = c := by
  rw [send, sendResult, if_pos h]
  rfl

theorem Waiting.step (h : c.Waiting) {event : Event} (htimely : c.Timely event) :
    Kept (c.step event) := by
  unfold CNetConnecter.step
  rw [if_neg (by simp [h.live])]
  cases event with
  | call call =>
      cases call with
      | send pData bCache writes =>
          have hrefuses : c.refusesSend = true := by simp [refusesSend, h.state]
          show Kept (c.send pData bCache writes)
          rw [send_of_refuses hrefuses]
          exact .waiting h
      | shutdown bForce => exact absurd h.state htimely
  | update writes =>
      show Kept (c.update writes)
      rw [CNetConnecter.update, if_neg (by simp [h.waitClose])]
      dsimp only
      rw [if_neg (by simp [h.sendConnecter])]
      exact .waiting ⟨h.state, h.unfailed, h.waitClose, rfl, h.live, h.unreleased,
        h.callbacks_eq⟩
  | poll e =>
      dsimp only
      split
      · exact .waiting h
      · exact h.poll e
  | destroy => exact .refused h.refused

theorem Failed.step (h : c.Failed) (hpolled : c.bPolled = true) (event : Event) :
    Kept (c.step event) := by
  unfold CNetConnecter.step
  rw [if_neg (by simp [h.live])]
  cases event with
  | call call =>
      cases call with
      | send pData bCache writes =>
          have hrefuses : c.refusesSend = true := by
            simp [refusesSend, h.state, h.closeSend]
          show Kept (c.send pData bCache writes)
          rw [send_of_refuses hrefuses]
          exact .failed h hpolled
      | shutdown bForce =>
          show Kept (c.shutdown bForce)
          rw [CNetConnecter.shutdown, if_neg (by simp [h.state])]
          dsimp only
          split
          · exact .failed ⟨rfl, rfl, h.failed, rfl, h.live, h.unreleased, h.callbacks_eq⟩
              hpolled
          · exact .failed ⟨rfl, rfl, h.failed, h.waitClose, h.live, h.unreleased,
              h.callbacks_eq⟩ hpolled
  | update writes =>
      show Kept (c.update writes)
      rw [CNetConnecter.update, if_pos h.waitClose]
      exact .refused h.refused
  | poll e =>
      dsimp only
      rw [if_pos hpolled]
      exact .failed h hpolled
  | destroy => exact .refused h.refused

theorem Kept.step (h : c.Kept) {event : Event} (htimely : c.Timely event) :
    (c.step event).Kept := by
  cases h with
  | waiting h => exact h.step htimely
  | failed h hpolled => exact h.step hpolled event
  | connected h => exact .connected (h.step event)
  | refused h =>
      unfold CNetConnecter.step
      rw [if_pos h.dead]
      exact .refused h

/-- A shutdown makes a connecter that is connecting one whose handler sees nothing of its
connection before it sees the end of it. -/
theorem Kept.carries_of_not_timely (h : c.Kept) {event : Event} (hlate : ¬ c.Timely event) :
    Carries [] (c.step event) := by
  obtain ⟨bForce, rfl⟩ : ∃ bForce, event = .call (.shutdown bForce) := by
    cases event with
    | call call =>
        cases call with
        | send => exact absurd trivial hlate
        | shutdown bForce => exact ⟨bForce, rfl⟩
    | update => exact absurd trivial hlate
    | poll => exact absurd trivial hlate
    | destroy => exact absurd trivial hlate
  have hconnecting : c.eConnecterState = eNCS_Connecting := not_not.mp hlate
  cases h with
  | waiting h =>
      refine ⟨[], ?_, .inl ?_⟩
      · intro cb hcb
        cases hcb
      · unfold CNetConnecter.step
        rw [if_neg (by simp [h.live])]
        show (c.shutdown bForce).IsOpen ∧ (c.shutdown bForce).callbacks = []
        rw [CNetConnecter.shutdown, if_neg (by simp [h.state])]
        dsimp only
        split
        · exact ⟨⟨.inr rfl, h.unfailed, h.live, h.unreleased⟩, h.callbacks_eq⟩
        · exact ⟨⟨.inr rfl, h.unfailed, h.live, h.unreleased⟩, h.callbacks_eq⟩
  | failed h =>
      rw [h.state] at hconnecting
      cases hconnecting
  | connected h => exact absurd hconnecting h.ne_connecting
  | refused h =>
      rw [h.state] at hconnecting
      cases hconnecting

/-! ## The promise -/

theorem notMem_of_transfers {cbs : List Callback} (h : ∀ cb ∈ cbs, cb.isTransfer = true)
    {callback : Callback} (hcallback : callback.isTransfer = false) : callback ∉ cbs := by
  intro hmem
  rw [h callback hmem] at hcallback
  cases hcallback

theorem Carries.protocol (h : Carries [.onConnect] c) : c.Protocol := by
  obtain ⟨cbs, hcbs, hphase⟩ := h.phase
  have hconnect := List.count_eq_zero.mpr
    (notMem_of_transfers hcbs (show Callback.onConnect.isTransfer = false from rfl))
  have hdisconnect := List.count_eq_zero.mpr
    (notMem_of_transfers hcbs (show Callback.onDisconnect.isTransfer = false from rfl))
  have hfail := List.count_eq_zero.mpr
    (notMem_of_transfers hcbs (show Callback.onConnectFail.isTransfer = false from rfl))
  have hfirst {ks rest : List Callback}
      (hks : ks ++ [Callback.onRecv] <+: Callback.onConnect :: rest) :
      Callback.onConnect ∈ ks := by
    cases ks with
    | nil =>
        have hhead := (List.cons_prefix_cons.mp hks).1
        cases hhead
    | cons k ks =>
        rw [(List.cons_prefix_cons.mp hks).1]
        exact List.mem_cons_self
  rcases hphase with ⟨hopen, heq⟩ | ⟨-, -, -, heq⟩
  · refine ⟨?_, ?_, ?_⟩
    · simp [heq, hconnect]
    · intro ks hks
      rw [heq] at hks
      exact hfirst hks
    · intro hreleased
      rw [hopen.unreleased] at hreleased
      cases hreleased
  · refine ⟨?_, ?_, ?_⟩
    · simp [heq, hconnect]
    · intro ks hks
      rw [heq] at hks
      exact hfirst hks
    · intro hreleased
      simp [heq, hdisconnect, hfail]

theorem Kept.protocol (h : c.Kept) : c.Protocol := by
  have hnothing (hcallbacks : c.callbacks = []) (hreleased : c.bReleased = false) :
      c.Protocol := by
    refine ⟨?_, ?_, ?_⟩
    · simp [hcallbacks]
    · intro ks hks
      rw [hcallbacks, List.prefix_nil] at hks
      simp at hks
    · simp [hreleased]
  cases h with
  | waiting h => exact hnothing h.callbacks_eq h.unreleased
  | failed h => exact hnothing h.callbacks_eq h.unreleased
  | connected h => exact h.protocol
  | refused h =>
      have hcallbacks := h.callbacks_eq
      split at hcallbacks
      · refine ⟨?_, ?_, ?_⟩
        · simp [hcallbacks]
        · intro ks hks
          rw [hcallbacks] at hks
          have hmem : Callback.onRecv ∈ [Callback.onConnectFail] :=
            hks.subset (by simp)
          simp at hmem
        · simp [hcallbacks]
      · rename_i hreleased
        rw [Bool.not_eq_true] at hreleased
        exact hnothing hcallbacks hreleased

/-- The handler of a connecter that was released without a report saw the end of a
connection that it had not seen the start of. -/
theorem Carries.not_protocol (h : Carries [] c) (hreleased : c.bReleased = true) :
    ¬ c.Protocol := by
  intro hprotocol
  obtain ⟨cbs, hcbs, ⟨hopen, -⟩ | ⟨-, -, -, heq⟩⟩ := h.phase
  · rw [hopen.unreleased] at hreleased
    cases hreleased
  · have hmem := (hprotocol.ended hreleased).2.mp (by simp [heq])
    have hconnect : Callback.onConnect ∉ cbs := notMem_of_transfers hcbs rfl
    rw [heq] at hmem
    simp [hconnect] at hmem

theorem Carries.released_destroy (h : Carries report c) :
    (c.step .destroy).bReleased = true := by
  unfold CNetConnecter.step
  split
  · rename_i hdead
    obtain ⟨cbs, -, ⟨hopen, -⟩ | ⟨-, hreleased, -⟩⟩ := h.phase
    · rw [hopen.live] at hdead
      cases hdead
    · exact hreleased
  · rfl

end CNetConnecter

/-- What a connecter is when it is opened. -/
theorem Opening.kept_or_carries (nSendBufferSize : ℕ) (opening : Opening) :
    (∃ opened, opening = .finished opened) ∧
        CNetConnecter.Carries [] (opening.connecter nSendBufferSize) ∨
      (∀ opened, opening ≠ .finished opened) ∧
        (opening.connecter nSendBufferSize).Kept := by
  cases opening with
  | inProgress =>
      right
      refine ⟨by simp, .waiting ?_⟩
      exact ⟨rfl, rfl, rfl, rfl, rfl, rfl, rfl⟩
  | finished opened =>
      left
      refine ⟨⟨opened, rfl⟩, [], ?_, .inl ⟨?_, rfl⟩⟩
      · intro cb hcb
        cases hcb
      · exact ⟨.inl rfl, rfl, rfl, rfl⟩
  | failed =>
      right
      refine ⟨by simp, .refused ?_⟩
      exact ⟨rfl, rfl, rfl⟩
  | accepted =>
      right
      refine ⟨by simp, .waiting ?_⟩
      exact ⟨rfl, rfl, rfl, rfl, rfl, rfl, rfl⟩

namespace CNetConnecter

theorem run_append (nSendBufferSize : ℕ) (opening : Opening) (events events' : List Event) :
    run nSendBufferSize opening (events ++ events') =
      events'.foldl step (run nSendBufferSize opening events) :=
  List.foldl_append

/-- A run that was not opened at once and whose events are all timely keeps the
promise. -/
theorem kept_run {nSendBufferSize : ℕ} {opening : Opening}
    (hopening : ∀ opened, opening ≠ .finished opened) {events : List Event}
    (htimely : ∀ ks event, ks ++ [event] <+: events →
      (run nSendBufferSize opening ks).Timely event) :
    (run nSendBufferSize opening events).Kept := by
  induction events using List.reverseRecOn with
  | nil =>
      rcases opening.kept_or_carries nSendBufferSize with ⟨⟨opened, heq⟩, -⟩ | ⟨-, hkept⟩
      · exact absurd heq (hopening opened)
      · exact hkept
  | append_singleton events event ih =>
      rw [run_append]
      have hfront := List.prefix_append events [event]
      have hkept := ih fun ks k hks => htimely ks k (hks.trans hfront)
      exact hkept.step (htimely events event (List.prefix_refl _))

/-- Every run either keeps the promise or has broken it for good. -/
theorem kept_or_carries_run (nSendBufferSize : ℕ) (opening : Opening) (events : List Event) :
    (run nSendBufferSize opening events).Kept ∨
      Carries [] (run nSendBufferSize opening events) := by
  apply foldl_invariant (I := fun c => c.Kept ∨ Carries [] c)
  · rintro c event (hkept | hcarries)
    · by_cases htimely : c.Timely event
      · exact .inl (hkept.step htimely)
      · exact .inr (hkept.carries_of_not_timely htimely)
    · exact .inr (hcarries.step event)
  · rcases opening.kept_or_carries nSendBufferSize with ⟨-, hcarries⟩ | ⟨-, hkept⟩
    · exact .inr hcarries
    · exact .inl hkept

/-- A connecter keeps its promise to the handler, up to its release at the end of every
run, if and only if its `connect` did not finish at once and nobody shut it down while it
was connecting. -/
theorem protocol_run_iff (nSendBufferSize : ℕ) (opening : Opening) (events : List Event) :
    (∀ ks, ks <+: events ++ [.destroy] → (run nSendBufferSize opening ks).Protocol) ↔
      (∀ opened, opening ≠ .finished opened) ∧
        ∀ ks event, ks ++ [event] <+: events →
          (run nSendBufferSize opening ks).Timely event := by
  -- Once it has reported nothing, the end of the run shows it.
  have hbroken {ks ks' : List Event} (heq : events = ks ++ ks')
      (hcarries : Carries [] (run nSendBufferSize opening ks)) :
      ¬ (run nSendBufferSize opening (events ++ [.destroy])).Protocol := by
    have hend := hcarries.foldl_step ks'
    rw [← run_append, ← heq] at hend
    rw [run_append]
    exact (hend.step .destroy).not_protocol hend.released_destroy
  constructor
  · intro hprotocol
    have hend := hprotocol _ (List.prefix_refl _)
    constructor
    · rintro opened rfl
      rcases Opening.kept_or_carries nSendBufferSize (.finished opened) with
        ⟨-, hcarries⟩ | ⟨hne, -⟩
      · exact hbroken (List.nil_append events).symm hcarries hend
      · exact hne opened rfl
    · intro ks event hks
      by_contra hlate
      obtain ⟨ks', heq⟩ := hks
      rcases kept_or_carries_run nSendBufferSize opening ks with hkept | hcarries
      · have hcarries := hkept.carries_of_not_timely hlate
        apply hbroken heq.symm _ hend
        rw [run_append]
        exact hcarries
      · apply hlate
        cases event with
        | call call =>
            cases call with
            | send => trivial
            | shutdown => exact hcarries.ne_connecting
        | update => trivial
        | poll => trivial
        | destroy => trivial
  · rintro ⟨hopening, htimely⟩ ks hks
    rcases List.prefix_concat_iff.mp hks with rfl | hks
    · have htrivial : (run nSendBufferSize opening events).Timely .destroy := trivial
      rw [run_append]
      exact ((kept_run hopening htimely).step htrivial).protocol
    · have hkept := kept_run hopening fun ks' event hks' => htimely ks' event (hks'.trans hks)
      exact hkept.protocol

/-- The connection is there at once, and the connecter is released at the end. -/
theorem not_protocol_finished :
    ¬ ∀ (nSendBufferSize : ℕ) (opening : Opening) (events : List Event),
      (run nSendBufferSize opening events).Protocol := by
  intro h
  have hended := (h 1024 (.finished {}) [.destroy]).ended rfl
  exact absurd (hended.2.mp (by decide)) (by decide)

end CNetConnecter

end RealtimeEx.Network.Connecter
