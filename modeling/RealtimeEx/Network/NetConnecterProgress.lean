import RealtimeEx.Network.NetConnecterSend

/-!
# What a `CNetConnecter` never takes back

Bytes that were handed to the socket stay handed over, and a connecter that has closed
its sending side does not open it again.  What does not receive leaves the receiving
part alone.
-/

namespace RealtimeEx.Network.Connecter.CNetConnecter

open ENetConnecterState

variable {c c' c'' : CNetConnecter}

/-- It has been deleted, or will not accept bytes any more. -/
def Closed (c : CNetConnecter) : Prop :=
  c.bLive = false ∨ c.eConnecterState = eNCS_Disconnecting ∧ c.bCloseSend = true

theorem Closed.refuses (h : c.Closed) (hlive : c.bLive = true) : c.refusesSend = true := by
  rcases h with hdead | ⟨hstate, hclose⟩
  · rw [hlive] at hdead
    cases hdead
  · simp [refusesSend, hstate, hclose]

/-- Nothing that was written is taken back, and nothing is opened again. -/
structure Later (c c' : CNetConnecter) : Prop where
  written : c.written <+: c'.written
  closed : c.Closed → c'.Closed

theorem Later.refl (c : CNetConnecter) : Later c c :=
  ⟨List.prefix_rfl, id⟩

theorem Later.trans (h : Later c c') (h' : Later c' c'') : Later c c'' :=
  ⟨h.written.trans h'.written, h'.closed ∘ h.closed⟩

/-- Nothing is received or accepted either. -/
structure Keeps (c c' : CNetConnecter) : Prop extends Later c c' where
  accepted_eq : c'.accepted = c.accepted
  recvBuffer_eq : c'.recvBuffer = c.recvBuffer
  bCloseRecv_eq : c'.bCloseRecv = c.bCloseRecv

/-- Nothing is received or accepted, and the connecter stays as it is or closes its
sending side. -/
structure Quiet (c c' : CNetConnecter) : Prop where
  written : c.written <+: c'.written
  accepted_eq : c'.accepted = c.accepted
  recvBuffer_eq : c'.recvBuffer = c.recvBuffer
  bCloseRecv_eq : c'.bCloseRecv = c.bCloseRecv
  bLive_eq : c'.bLive = c.bLive
  state : c'.eConnecterState = c.eConnecterState ∧ c'.bCloseSend = c.bCloseSend ∨ c'.Closed

theorem Quiet.refl (c : CNetConnecter) : Quiet c c :=
  ⟨List.prefix_rfl, rfl, rfl, rfl, rfl, .inl ⟨rfl, rfl⟩⟩

theorem Quiet.closed (h : Quiet c c') (hclosed : c.Closed) : c'.Closed := by
  rcases h.state with ⟨hstate, hclose⟩ | hclosed'
  · rw [Closed, h.bLive_eq, hstate, hclose]
    exact hclosed
  · exact hclosed'

theorem Quiet.keeps (h : Quiet c c') : Keeps c c' :=
  ⟨⟨h.written, h.closed⟩, h.accepted_eq, h.recvBuffer_eq, h.bCloseRecv_eq⟩

theorem Quiet.later (h : Quiet c c') : Later c c' :=
  h.keeps.toLater

theorem Quiet.trans (h : Quiet c c') (h' : Quiet c' c'') : Quiet c c'' where
  written := h.written.trans h'.written
  accepted_eq := h'.accepted_eq.trans h.accepted_eq
  recvBuffer_eq := h'.recvBuffer_eq.trans h.recvBuffer_eq
  bCloseRecv_eq := h'.bCloseRecv_eq.trans h.bCloseRecv_eq
  bLive_eq := h'.bLive_eq.trans h.bLive_eq
  state := by
    rcases h.state with ⟨hstate, hclose⟩ | hclosed
    · rcases h'.state with ⟨hstate', hclose'⟩ | hclosed'
      · exact .inl ⟨hstate'.trans hstate, hclose'.trans hclose⟩
      · exact .inr hclosed'
    · exact .inr (h'.closed hclosed)

/-- A connecter that accepts bytes goes on to accept them, or closes. -/
theorem Quiet.accepts (h : Quiet c c') (haccepts : ¬ c.refusesSend = true) :
    ¬ c'.refusesSend = true ∨ c'.Closed := by
  rcases h.state with ⟨hstate, hclose⟩ | hclosed
  · refine .inl ?_
    rw [refusesSend, hstate, hclose]
    exact haccepts
  · exact .inr hclosed

/-! ## What does not receive -/

theorem quiet_shutdown (c : CNetConnecter) (bForce : Bool) : Quiet c (c.shutdown bForce) := by
  rcases c.shutdown_cases bForce with ⟨-, hsame⟩ | ⟨bWaitClose, hclosing⟩
  · rw [hsame]
    exact .refl c
  · rw [hclosing]
    exact ⟨List.prefix_rfl, rfl, rfl, rfl, rfl, .inr (.inr ⟨rfl, rfl⟩)⟩

theorem quiet_onSendLoop (c : CNetConnecter) (writes : List WriteResult) :
    Quiet c (c.onSendLoop writes) := by
  have hdisable (c : CNetConnecter) (bDisableWrite : Bool) :
      Quiet c { c with bDisableWrite } :=
    ⟨List.prefix_rfl, rfl, rfl, rfl, rfl, .inl ⟨rfl, rfl⟩⟩
  induction writes generalizing c with
  | nil =>
      rw [CNetConnecter.onSendLoop]
      split
      · exact .refl c
      · exact hdisable c true
  | cons result writes ih =>
      rw [CNetConnecter.onSendLoop]
      dsimp only
      split
      · exact .refl c
      · cases result with
        | wouldBlock => exact hdisable c true
        | interrupted => exact (hdisable c false).trans (ih _)
        | error => exact (hdisable c false).trans (quiet_shutdown _ true)
        | room n =>
            dsimp only
            have htaken : Quiet c
                { c with
                  bDisableWrite := false
                  written := c.written ++
                    c.sendBuffer.getTailData.take (min n c.sendBuffer.getTailDataSize)
                  sendBuffer :=
                    c.sendBuffer.pop (min n c.sendBuffer.getTailDataSize) } :=
              ⟨List.prefix_append _ _, rfl, rfl, rfl, rfl, .inl ⟨rfl, rfl⟩⟩
            split
            · exact htaken
            · exact htaken.trans (ih _)

theorem quiet_notify (c : CNetConnecter) (callback : Callback) :
    Quiet c (c.notify callback) :=
  ⟨List.prefix_rfl, rfl, rfl, rfl, rfl, .inl ⟨rfl, rfl⟩⟩

theorem quiet_close (c : CNetConnecter) : Quiet c c.close :=
  ⟨List.prefix_rfl, rfl, rfl, rfl, rfl, .inl ⟨rfl, rfl⟩⟩

theorem quiet_push (c : CNetConnecter) (pData : List UInt8) : Quiet c (c.push pData) :=
  ⟨List.prefix_rfl, rfl, rfl, rfl, rfl, .inl ⟨rfl, rfl⟩⟩

theorem quiet_onSend (c : CNetConnecter) (writes : List WriteResult) :
    Quiet c (c.onSend writes) := by
  have hloop := quiet_onSendLoop c writes
  rw [CNetConnecter.onSend]
  split
  · split
    · exact (hloop.trans (quiet_notify _ _)).trans (quiet_close _)
    · exact hloop.trans (quiet_notify _ _)
  · split
    · exact hloop.trans (quiet_close _)
    · exact hloop

theorem quiet_sendDirect (c : CNetConnecter) (pData : List UInt8)
    (writes : List WriteResult) : Quiet c (c.sendDirect pData writes).2 := by
  have hdisable : Quiet c { c with bDisableWrite := true } :=
    ⟨List.prefix_rfl, rfl, rfl, rfl, rfl, .inl ⟨rfl, rfl⟩⟩
  have hwritten (bytes : List UInt8) : Quiet c { c with written := c.written ++ bytes } :=
    ⟨List.prefix_append _ _, rfl, rfl, rfl, rfl, .inl ⟨rfl, rfl⟩⟩
  rw [CNetConnecter.sendDirect]
  split
  · exact quiet_shutdown c true
  · dsimp only
    split
    · exact (hwritten _).trans (quiet_push _ _)
    · exact (hwritten _).trans (quiet_notify _ _)
  · dsimp only
    split
    · exact hdisable.trans (quiet_push _ _)
    · exact hdisable.trans (quiet_notify _ _)

theorem quiet_sendNow (c : CNetConnecter) (pData : List UInt8)
    (writes : List WriteResult) : Quiet c (c.sendNow pData writes).2 := by
  rw [CNetConnecter.sendNow]
  split
  · exact quiet_sendDirect c pData writes
  · dsimp only
    split
    · exact (quiet_push c pData).trans (quiet_onSend _ _)
    · exact quiet_push c pData

theorem quiet_sendResult (c : CNetConnecter) (pData : List UInt8) (bCache : Bool)
    (writes : List WriteResult) : Quiet c (c.sendResult pData bCache writes).2 := by
  rw [CNetConnecter.sendResult]
  split
  · exact .refl c
  · split
    · exact quiet_sendNow c pData writes
    · rw [CNetConnecter.sendCached]
      split
      · exact quiet_sendNow c pData writes
      · dsimp only
        split
        · exact (quiet_push c pData).trans (quiet_onSend _ _)
        · exact (quiet_push c pData).trans
            ⟨List.prefix_rfl, rfl, rfl, rfl, rfl, .inl ⟨rfl, rfl⟩⟩

/-- Bytes that an accepting connecter does not accept have closed it. -/
theorem closed_of_sendResult_eq_false {pData : List UInt8} {bCache : Bool}
    {writes : List WriteResult} (haccepts : ¬ c.refusesSend = true)
    (h : (c.sendResult pData bCache writes).1 = false) :
    (c.sendResult pData bCache writes).2.Closed := by
  have hstate : c.eConnecterState ≠ eNCS_Disconnected := by
    intro hstate
    exact haccepts (by simp [refusesSend, hstate])
  have hnow (h : (c.sendNow pData writes).1 = false) :
      (c.sendNow pData writes).2.Closed := by
    rw [CNetConnecter.sendNow] at h ⊢
    split at h
    · rename_i hempty
      rw [if_pos hempty]
      rw [CNetConnecter.sendDirect] at h ⊢
      split at h
      · rcases c.shutdown_cases true with ⟨hdown, -⟩ | ⟨bWaitClose, hclosing⟩
        · exact absurd hdown hstate
        · rw [hclosing]
          exact .inr ⟨rfl, rfl⟩
      · dsimp only at h
        split at h
        · cases h
        · cases h
      · dsimp only at h
        split at h
        · cases h
        · cases h
    · dsimp only at h
      split at h
      · cases h
      · cases h
  rw [CNetConnecter.sendResult, if_neg haccepts] at h ⊢
  split at h
  · rename_i hcache
    rw [if_pos hcache]
    exact hnow h
  · rename_i hcache
    rw [if_neg hcache]
    rw [CNetConnecter.sendCached] at h ⊢
    split at h
    · rename_i hdirect
      rw [if_pos hdirect]
      exact hnow h
    · dsimp only at h
      split at h
      · cases h
      · cases h

/-! ## Sending -/

theorem accepted_send (c : CNetConnecter) (pData : List UInt8) (bCache : Bool)
    (writes : List WriteResult) :
    (c.send pData bCache writes).accepted =
      if (c.sendResult pData bCache writes).1 = true then c.accepted ++ pData
      else c.accepted := by
  have hquiet := quiet_sendResult c pData bCache writes
  rw [CNetConnecter.send]
  dsimp only
  split
  · dsimp only
    rw [hquiet.accepted_eq]
  · exact hquiet.accepted_eq

/-- `send` is `sendResult` apart from what was accepted. -/
theorem send_eq (c : CNetConnecter) (pData : List UInt8) (bCache : Bool)
    (writes : List WriteResult) :
    ∃ accepted, c.send pData bCache writes =
      { (c.sendResult pData bCache writes).2 with accepted } := by
  rw [CNetConnecter.send]
  dsimp only
  split
  · exact ⟨_, rfl⟩
  · exact ⟨(c.sendResult pData bCache writes).2.accepted, rfl⟩

theorem later_send (c : CNetConnecter) (pData : List UInt8) (bCache : Bool)
    (writes : List WriteResult) :
    Later c (c.send pData bCache writes) ∧
      (c.send pData bCache writes).recvBuffer = c.recvBuffer ∧
      (c.send pData bCache writes).bCloseRecv = c.bCloseRecv := by
  obtain ⟨accepted, heq⟩ := c.send_eq pData bCache writes
  have hquiet := quiet_sendResult c pData bCache writes
  rw [heq]
  exact ⟨⟨hquiet.written, hquiet.closed⟩, hquiet.recvBuffer_eq, hquiet.bCloseRecv_eq⟩

theorem send_of_eq_false {pData : List UInt8} {bCache : Bool} {writes : List WriteResult}
    (h : (c.sendResult pData bCache writes).1 = false) :
    c.send pData bCache writes = (c.sendResult pData bCache writes).2 := by
  rw [CNetConnecter.send.eq_def]
  dsimp only
  rw [h, if_neg (by decide)]

/-- A connecter that stops accepting bytes refuses the next ones. -/
theorem refuses_send_of_eq_false {pData : List UInt8} {bCache : Bool}
    {writes : List WriteResult} (haccepts : ¬ c.refusesSend = true) (hlive : c.bLive = true)
    (h : (c.sendResult pData bCache writes).1 = false) :
    (c.send pData bCache writes).refusesSend = true := by
  rw [send_of_eq_false h]
  refine (closed_of_sendResult_eq_false haccepts h).refuses ?_
  rw [(quiet_sendResult c pData bCache writes).bLive_eq]
  exact hlive

/-- Behind an accepted send, bytes are refused only by a connecter that has closed. -/
theorem closed_of_send_refuses {pData pData' : List UInt8} {bCache bCache' : Bool}
    {writes writes' : List WriteResult} (haccepts : ¬ c.refusesSend = true)
    (h : ((c.send pData bCache writes).sendResult pData' bCache' writes').1 = false) :
    ((c.send pData bCache writes).send pData' bCache' writes').Closed := by
  obtain ⟨accepted, heq⟩ := c.send_eq pData bCache writes
  have hquiet := quiet_sendResult c pData bCache writes
  have hnext := quiet_sendResult (c.send pData bCache writes) pData' bCache' writes'
  rw [send_of_eq_false h]
  rcases hquiet.accepts haccepts with hopen | hclosed
  · refine closed_of_sendResult_eq_false ?_ h
    rw [heq]
    exact hopen
  · apply hnext.closed
    rw [heq]
    exact hclosed

/-! ## Connecting and receiving -/

/-- The handler makes no calls when the connection is there. -/
theorem keeps_onConnect (c : CNetConnecter) (opened : Opened) :
    Keeps c (c.onConnect { opened with calls := [] }) := by
  have hmarked : Quiet c { c with bDisableWrite := false, bConnectFail := true } :=
    ⟨List.prefix_rfl, rfl, rfl, rfl, rfl, .inl ⟨rfl, rfl⟩⟩
  have hfailed := (hmarked.trans (quiet_shutdown _ true)).keeps
  rw [CNetConnecter.onConnect]
  split
  · exact (Quiet.refl c).keeps
  · rename_i hstate
    dsimp only
    split
    · exact hfailed
    · split
      · exact hfailed
      · refine ⟨⟨List.prefix_rfl, ?_⟩, rfl, rfl, rfl⟩
        rintro (hdead | ⟨hdisconnecting, -⟩)
        · exact .inl hdead
        · rw [not_not.mp hstate] at hdisconnecting
          cases hdisconnecting

theorem later_receive (c : CNetConnecter) (result : ReadResult) (nSize : ℕ) :
    Later c (c.receive result nSize) :=
  ⟨List.prefix_rfl, id⟩

/-- The calls of a handler that only shuts the connecter down. -/
theorem quiet_foldl_call (c : CNetConnecter) {calls : List Call}
    (h : ∀ call ∈ calls, call = .shutdown true) : Quiet c (calls.foldl call c) := by
  induction calls generalizing c with
  | nil => exact .refl c
  | cons call calls ih =>
      cases h call List.mem_cons_self
      exact (quiet_shutdown c true).trans (ih _ fun call hcall =>
        h call (List.mem_cons_of_mem _ hcall))

theorem later_onRecv (c : CNetConnecter) {reads : List Read}
    (h : ∀ read ∈ reads, ∀ call ∈ read.calls, call = .shutdown true) :
    Later c (c.onRecv reads) ∧ (c.onRecv reads).accepted = c.accepted := by
  induction reads generalizing c with
  | nil => exact ⟨later_receive c _ _, rfl⟩
  | cons read reads ih =>
      have hrest : ∀ read ∈ reads, ∀ call ∈ read.calls, call = .shutdown true :=
        fun read hread => h read (List.mem_cons_of_mem _ hread)
      obtain ⟨result, nSize, calls⟩ := read
      cases result with
      | data bytes =>
          have hcalls := quiet_foldl_call ((c.receive (.data bytes) nSize).notify .onRecv)
            (h _ List.mem_cons_self)
          obtain ⟨hlater, haccepted⟩ := ih
            (calls.foldl call ((c.receive (.data bytes) nSize).notify .onRecv)) hrest
          have hread := (later_receive c (.data bytes) nSize).trans
            (quiet_notify _ .onRecv).later
          exact ⟨(hread.trans hcalls.later).trans hlater,
            haccepted.trans hcalls.accepted_eq⟩
      | closed =>
          have hdown : Later c
              { c.receive .closed 0 with eConnecterState := eNCS_Disconnecting } := by
            refine ⟨List.prefix_rfl, ?_⟩
            rintro (hdead | ⟨-, hclose⟩)
            · exact .inl hdead
            · exact .inr ⟨rfl, hclose⟩
          rw [CNetConnecter.onRecv]
          dsimp only
          split
          · exact ⟨hdown.trans (quiet_close _).later, rfl⟩
          · exact ⟨hdown, rfl⟩
      | wouldBlock => exact ⟨later_receive c _ _, rfl⟩
      | interrupted =>
          obtain ⟨hlater, haccepted⟩ := ih (c.receive .interrupted 0) hrest
          exact ⟨(later_receive c _ _).trans hlater, haccepted⟩
      | error =>
          have hdown := quiet_shutdown (c.receive .error 0) true
          exact ⟨(later_receive c _ _).trans hdown.later, hdown.accepted_eq⟩

/-- Whether `onEvent` receives. -/
def receives (c : CNetConnecter) (e : NetEvent) : Prop :=
  match c.eConnecterState with
  | eNCS_Connecting =>
      (if e.bSend = true ∨ e.bError = true then c.onConnect e.opened
        else c).eConnecterState = eNCS_Connected ∧ e.bRecv = true
  | eNCS_Connected | eNCS_Disconnecting =>
      ¬ e.bError = true ∧ e.bRecv = true ∧ c.bCloseRecv = false
  | eNCS_Disconnected => False

instance (c : CNetConnecter) (e : NetEvent) : Decidable (c.receives e) := by
  unfold receives
  split <;> infer_instance

/-- `onEvent` of a connecter that is connected or disconnecting. -/
def openEvent (c : CNetConnecter) (e : NetEvent) : CNetConnecter :=
  if e.bError = true then
    c.shutdown true
  else
    let c := if e.bRecv = true ∧ c.bCloseRecv = false then c.onRecv e.reads else c
    if e.bSend = true then c.onSend e.writes else c

/-- Apart from the part that receives, if there is one, an event receives nothing. -/
theorem openEvent_cases (c : CNetConnecter) (e : NetEvent) :
    ((¬ e.bError = true ∧ e.bRecv = true ∧ c.bCloseRecv = false) ∧
      Keeps (c.onRecv e.reads) (c.openEvent e)) ∨
      (¬ (¬ e.bError = true ∧ e.bRecv = true ∧ c.bCloseRecv = false) ∧
        Keeps c (c.openEvent e)) := by
  have hsend (c : CNetConnecter) :
      Keeps c (if e.bSend = true then c.onSend e.writes else c) := by
    split
    · exact (quiet_onSend c e.writes).keeps
    · exact (Quiet.refl c).keeps
  rw [openEvent]
  by_cases herror : e.bError = true
  · rw [if_pos herror]
    exact .inr ⟨fun h => h.1 herror, (quiet_shutdown c true).keeps⟩
  · rw [if_neg herror]
    dsimp only
    by_cases hrecv : e.bRecv = true ∧ c.bCloseRecv = false
    · rw [if_pos hrecv]
      exact .inl ⟨⟨herror, hrecv⟩, hsend _⟩
    · rw [if_neg hrecv]
      exact .inr ⟨fun h => hrecv h.2, hsend c⟩

/-- An event receives at most once, and nothing is received before or behind. -/
theorem onEvent_cases (c : CNetConnecter) {e : NetEvent} (hcalls : e.opened.calls = []) :
    (c.receives e ∧ ∃ c', Keeps c c' ∧ Keeps (c'.onRecv e.reads) (c.onEvent e)) ∨
      (¬ c.receives e ∧ Keeps c (c.onEvent e)) := by
  have hopen : c.eConnecterState = eNCS_Connected ∨ c.eConnecterState = eNCS_Disconnecting →
      (c.receives e ∧ ∃ c', Keeps c c' ∧ Keeps (c'.onRecv e.reads) (c.onEvent e)) ∨
        (¬ c.receives e ∧ Keeps c (c.onEvent e)) := by
    intro hstate
    have hreceives : c.receives e =
        (¬ e.bError = true ∧ e.bRecv = true ∧ c.bCloseRecv = false) := by
      rcases hstate with hstate | hstate
      · rw [receives, hstate]
      · rw [receives, hstate]
    have hevent : c.onEvent e = c.openEvent e := by
      rcases hstate with hstate | hstate
      · rw [CNetConnecter.onEvent, hstate]
        rfl
      · rw [CNetConnecter.onEvent, hstate]
        rfl
    rw [hreceives, hevent]
    rcases c.openEvent_cases e with ⟨hrecv, hkeeps⟩ | ⟨hrecv, hkeeps⟩
    · exact .inl ⟨hrecv, c, (Quiet.refl c).keeps, hkeeps⟩
    · exact .inr ⟨hrecv, hkeeps⟩
  cases hstate : c.eConnecterState with
  | eNCS_Connecting =>
      have hopened : Keeps c
          (if e.bSend = true ∨ e.bError = true then c.onConnect e.opened else c) := by
        split
        · have hkeeps := keeps_onConnect c e.opened
          rwa [← hcalls] at hkeeps
        · exact (Quiet.refl c).keeps
      rw [receives, hstate, CNetConnecter.onEvent, hstate]
      generalize (if e.bSend = true ∨ e.bError = true then c.onConnect e.opened else c) = c'
        at hopened
      dsimp only
      split
      · rename_i hrecv
        exact .inl ⟨hrecv, c', hopened, (Quiet.refl _).keeps⟩
      · rename_i hrecv
        exact .inr ⟨hrecv, hopened⟩
  | eNCS_Connected => exact hopen (.inl hstate)
  | eNCS_Disconnecting => exact hopen (.inr hstate)
  | eNCS_Disconnected =>
      rw [receives, hstate, CNetConnecter.onEvent, hstate]
      exact .inr ⟨id, (Quiet.refl c).keeps⟩

/-! ## The rounds of the loop -/

theorem keeps_release (c : CNetConnecter) : Keeps c c.release := by
  rw [CNetConnecter.release]
  dsimp only
  split
  · exact ⟨⟨List.prefix_rfl, fun _ => .inl rfl⟩, rfl, rfl, rfl⟩
  · exact ⟨⟨List.prefix_rfl, fun _ => .inl rfl⟩, rfl, rfl, rfl⟩

theorem keeps_update (c : CNetConnecter) (writes : List WriteResult) :
    Keeps c (c.update writes) := by
  have hflags (c : CNetConnecter) :
      Quiet c { c with bSendConnecter := false, bPolled := false } :=
    ⟨List.prefix_rfl, rfl, rfl, rfl, rfl, .inl ⟨rfl, rfl⟩⟩
  rw [CNetConnecter.update]
  split
  · exact keeps_release c
  · dsimp only
    split
    · exact ((quiet_onSend c writes).trans (hflags _)).keeps
    · exact (hflags c).keeps

end RealtimeEx.Network.Connecter.CNetConnecter
