import Mathlib.Algebra.Order.Ring.Int
import RealtimeEx.Login.LoginClientMessageHandler

/-!
# The answers to the logins

A login whose call returns without an error is answered once if its connection is still
there, and not at all if it is gone.  A failed call is answered twice, and the second answer
is dropped behind the shutdown; if the connection is gone, the handler uses a destroyed
object.
-/

namespace RealtimeEx.Login

open RealtimeEx.Db (Bytes)
open RealtimeEx.Dispatch (SValidateLoginResponse eRRT_OK eRRT_ERROR CDispatchService AccountTbl)

/-- The response of a login. -/
def NetCommand.answersLogin (nLogin : ℕ) : NetCommand → Bool
  | .send _ n _ => n = nLogin
  | .shutdown _ _ => false

/-- The connection of a login was there and was not closing. -/
def SFinishedLogin.isOpen (finished : SFinishedLogin) : Bool :=
  finished.bConnected && !finished.bClosing

/-- The logins that are answered exactly as their connections were when their calls came
back: once if open, and not at all otherwise.  The others have no response yet. -/
def AnsweredOnce (listFinished : List SFinishedLogin) (responses : ℕ → ℕ)
    (isOpen : SFinishedLogin → Bool) : Prop :=
  (∀ finished ∈ listFinished,
      responses finished.nLogin = if isOpen finished then 1 else 0) ∧
    ∀ nLogin, nLogin ∉ listFinished.map SFinishedLogin.nLogin → responses nLogin = 0

/-- One more login is finished: what counts is its own number of responses. -/
theorem answeredOnce_append {listFinished : List SFinishedLogin} {responses responses' : ℕ → ℕ}
    {isOpen : SFinishedLogin → Bool} {finished : SFinishedLogin} {k : ℕ}
    (h : AnsweredOnce listFinished responses isOpen)
    (hfresh : finished.nLogin ∉ listFinished.map SFinishedLogin.nLogin)
    (hresponses : ∀ nLogin,
      responses' nLogin = responses nLogin + if finished.nLogin = nLogin then k else 0) :
    AnsweredOnce (listFinished ++ [finished]) responses' isOpen ↔
      k = if isOpen finished then 1 else 0 := by
  have hnew : responses' finished.nLogin = k := by
    rw [hresponses, h.2 _ hfresh, if_pos rfl, Nat.zero_add]
  have hold : ∀ nLogin, finished.nLogin ≠ nLogin → responses' nLogin = responses nLogin := by
    intro nLogin hne
    rw [hresponses, if_neg hne, Nat.add_zero]
  constructor
  · intro honce
    rw [← hnew]
    exact honce.1 finished (by simp)
  · intro hk
    constructor
    · intro other hmem
      rcases List.mem_append.mp hmem with hmem | hmem
      · have hne : finished.nLogin ≠ other.nLogin := by
          intro heq
          exact hfresh (heq ▸ List.mem_map_of_mem hmem)
        rw [hold _ hne]
        exact h.1 other hmem
      · obtain rfl := List.mem_singleton.mp hmem
        exact hnew.trans hk
    · intro nLogin hnot
      rw [List.map_append, List.mem_append, not_or] at hnot
      rw [hold nLogin fun heq => hnot.2 (by simp [heq])]
      exact h.2 nLogin hnot.1

namespace CLoginService

variable (service : CLoginService)

/-- The responses that the service sends for a login. -/
def responses (nLogin : ℕ) : ℕ :=
  service.commands.countP fun command => command.answersLogin nLogin

/-- The net thread behind the commands of the service. -/
def net : NetThread :=
  service.commands.foldl NetThread.handle {}

/-- The responses of a login that go out. -/
def received (nLogin : ℕ) : ℕ :=
  service.net.listSent.count nLogin

/-- The connection object of a socket is there. -/
def Connected (nSocketID : ℕ) : Prop :=
  (service.mapConnection[nSocketID]?).isSome = true

def waiting (nLogin : ℕ) : ℕ :=
  service.listPending.countP fun pending => pending.nLogin = nLogin

def finished (nLogin : ℕ) : ℕ :=
  service.listFinished.countP fun finished => finished.nLogin = nLogin

/-- Every login waits for its call, or its call has come back, once. -/
def Accounted : Prop :=
  ∀ nLogin, service.waiting nLogin + service.finished nLogin =
    if nLogin < service.nNextLogin then 1 else 0

/-- No handler has used a destroyed connection, every login waits or is finished, and the
finished ones are answered once as far as their connections were open. -/
def Once (responses : CLoginService → ℕ → ℕ) (isOpen : SFinishedLogin → Bool) : Prop :=
  service.listDangling = [] ∧ service.Accounted ∧
    AnsweredOnce service.listFinished (responses service) isOpen

/-- The service sends one response for a finished login if its connection was there, and
none otherwise. -/
def SendsOnce : Prop :=
  service.Once responses SFinishedLogin.bConnected

/-- One response of a finished login goes out if its connection was there and not closing,
and none otherwise. -/
def ReachesOnce : Prop :=
  service.Once received SFinishedLogin.isOpen

/-- What the service knows of its sockets. -/
structure Linked : Prop where
  closing : ∀ nSocketID connection, service.mapConnection[nSocketID]? = some connection →
    (connection.bClosing = true ↔ nSocketID ∈ service.net.listShutdown)
  connected_lt : ∀ nSocketID, service.Connected nSocketID → nSocketID < service.nNextSocketID
  shutdown_lt : ∀ nSocketID ∈ service.net.listShutdown, nSocketID < service.nNextSocketID

variable {service} {nSocketID nLogin : ℕ}

theorem connected_of_getElem? {connection : CLoginConnectionFromClient}
    (h : service.mapConnection[nSocketID]? = some connection) : service.Connected nSocketID := by
  rw [Connected, h]
  rfl

/-! ## Commands -/

/-- What the handler does with a connection leaves the rest as it is. -/
structure SameLogins (before after : CLoginService) : Prop where
  pending : after.listPending = before.listPending
  finished : after.listFinished = before.listFinished
  dangling : after.listDangling = before.listDangling
  nextLogin : after.nNextLogin = before.nNextLogin
  nextSocket : after.nNextSocketID = before.nNextSocketID
  connected : ∀ nSocketID, after.Connected nSocketID ↔ before.Connected nSocketID

theorem SameLogins.refl (service : CLoginService) : SameLogins service service :=
  ⟨rfl, rfl, rfl, rfl, rfl, fun _ => Iff.rfl⟩

theorem SameLogins.trans {first second third : CLoginService} (h : SameLogins first second)
    (h' : SameLogins second third) : SameLogins first third where
  pending := h'.pending.trans h.pending
  finished := h'.finished.trans h.finished
  dangling := h'.dangling.trans h.dangling
  nextLogin := h'.nextLogin.trans h.nextLogin
  nextSocket := h'.nextSocket.trans h.nextSocket
  connected nSocketID := (h'.connected nSocketID).trans (h.connected nSocketID)

theorem SameLogins.accounted {before after : CLoginService} (h : SameLogins before after) :
    after.Accounted ↔ before.Accounted := by
  unfold Accounted waiting CLoginService.finished
  rw [h.pending, h.finished, h.nextLogin]

theorem listShutdown_handle_send (net : NetThread) (message : SPlayerLoginResponse) :
    (net.handle (.send nSocketID nLogin message)).listShutdown = net.listShutdown := by
  unfold NetThread.handle
  dsimp only
  split
  · rfl
  · rfl

theorem net_of_append {service' : CLoginService} (command : NetCommand)
    (h : service'.commands = service.commands ++ [command]) :
    service'.net = service.net.handle command := by
  rw [net, h, List.foldl_append]
  rfl

theorem responses_of_append {service' : CLoginService} (command : NetCommand)
    (h : service'.commands = service.commands ++ [command]) (n : ℕ) :
    service'.responses n =
      service.responses n + if command.answersLogin n then 1 else 0 := by
  rw [responses, h, List.countP_append, List.countP_singleton]
  rfl

section Send

variable (message : SPlayerLoginResponse)

theorem sameLogins_sendClientMessage :
    SameLogins service (service.sendClientMessage nSocketID nLogin message) :=
  ⟨rfl, rfl, rfl, rfl, rfl, fun _ => Iff.rfl⟩

theorem responses_sendClientMessage (n : ℕ) :
    (service.sendClientMessage nSocketID nLogin message).responses n =
      service.responses n + if nLogin = n then 1 else 0 := by
  rw [responses_of_append (.send nSocketID nLogin message) rfl]
  simp [NetCommand.answersLogin]

theorem listShutdown_sendClientMessage :
    (service.sendClientMessage nSocketID nLogin message).net.listShutdown =
      service.net.listShutdown := by
  rw [net_of_append (.send nSocketID nLogin message) rfl]
  exact listShutdown_handle_send service.net message

/-- A response goes out unless the socket has been shut down. -/
theorem received_sendClientMessage (n : ℕ) :
    (service.sendClientMessage nSocketID nLogin message).received n =
      service.received n +
        if nLogin = n then if nSocketID ∈ service.net.listShutdown then 0 else 1 else 0 := by
  rw [received, net_of_append (.send nSocketID nLogin message) rfl, received]
  unfold NetThread.handle
  dsimp only
  split
  · simp
  · rw [List.count_append, List.count_singleton]
    simp

theorem Linked.sendClientMessage (h : service.Linked) :
    (service.sendClientMessage nSocketID nLogin message).Linked where
  closing := by
    rw [listShutdown_sendClientMessage]
    exact h.closing
  connected_lt := h.connected_lt
  shutdown_lt := by
    rw [listShutdown_sendClientMessage]
    exact h.shutdown_lt

end Send

section Shutdown

variable {bForce : Bool}

theorem shutdown_of_none (h : service.mapConnection[nSocketID]? = none) :
    service.shutdown nSocketID bForce = service := by
  rw [shutdown, h]

theorem shutdown_of_closing {connection : CLoginConnectionFromClient}
    (h : service.mapConnection[nSocketID]? = some connection)
    (hclosing : connection.bClosing = true) : service.shutdown nSocketID bForce = service := by
  rw [shutdown, h]
  exact if_pos hclosing

/-- The connection was not closing. -/
theorem shutdown_of_open {connection : CLoginConnectionFromClient}
    (h : service.mapConnection[nSocketID]? = some connection)
    (hopen : ¬connection.bClosing = true) :
    service.shutdown nSocketID bForce =
      { service with
        mapConnection :=
          service.mapConnection.insert nSocketID { connection with bClosing := true }
        commands := service.commands ++ [.shutdown nSocketID bForce] } := by
  rw [shutdown, h]
  exact if_neg hopen

/-- `shutdown` does nothing, or marks a connection that is there and sends its command. -/
theorem shutdown_cases (service : CLoginService) (nSocketID : ℕ) (bForce : Bool) :
    service.shutdown nSocketID bForce = service ∨
      ∃ connection, service.mapConnection[nSocketID]? = some connection ∧
        service.shutdown nSocketID bForce =
          { service with
            mapConnection :=
              service.mapConnection.insert nSocketID { connection with bClosing := true }
            commands := service.commands ++ [.shutdown nSocketID bForce] } := by
  cases hget : service.mapConnection[nSocketID]? with
  | none => exact .inl (shutdown_of_none hget)
  | some connection =>
      by_cases hclosing : connection.bClosing = true
      · exact .inl (shutdown_of_closing hget hclosing)
      · exact .inr ⟨connection, rfl, shutdown_of_open hget hclosing⟩

theorem connected_insert_iff {service' : CLoginService} {connection connection' :
    CLoginConnectionFromClient} (h : service.mapConnection[nSocketID]? = some connection)
    (hmap : service'.mapConnection = service.mapConnection.insert nSocketID connection') (n : ℕ) :
    service'.Connected n ↔ service.Connected n := by
  rw [Connected, hmap, StdMap.getElem?_insert]
  split
  · rename_i heq
    rw [Connected, ← heq, h]
    simp
  · rfl

theorem sameLogins_shutdown : SameLogins service (service.shutdown nSocketID bForce) := by
  rcases shutdown_cases service nSocketID bForce with hsame | ⟨connection, hget, heq⟩
  · rw [hsame]
    exact SameLogins.refl service
  · rw [heq]
    exact ⟨rfl, rfl, rfl, rfl, rfl, connected_insert_iff hget rfl⟩

theorem responses_shutdown (n : ℕ) :
    (service.shutdown nSocketID bForce).responses n = service.responses n := by
  rcases shutdown_cases service nSocketID bForce with hsame | ⟨connection, hget, heq⟩
  · rw [hsame]
  · rw [heq, responses_of_append (.shutdown nSocketID bForce) rfl]
    rfl

theorem received_shutdown (n : ℕ) :
    (service.shutdown nSocketID bForce).received n = service.received n := by
  rcases shutdown_cases service nSocketID bForce with hsame | ⟨connection, hget, heq⟩
  · rw [hsame]
  · rw [heq, received, net_of_append (.shutdown nSocketID bForce) rfl]
    rfl

theorem Linked.shutdown (h : service.Linked) : (service.shutdown nSocketID bForce).Linked := by
  rcases shutdown_cases service nSocketID bForce with hsame | ⟨connection, hget, heq⟩
  · rw [hsame]
    exact h
  · have hsameLogins : SameLogins service (service.shutdown nSocketID bForce) :=
      sameLogins_shutdown
    rw [heq] at hsameLogins ⊢
    have hlist : ∀ n, n ∈ (service.net.handle (.shutdown nSocketID bForce)).listShutdown ↔
        n ∈ service.net.listShutdown ∨ n = nSocketID := by
      intro n
      show n ∈ service.net.listShutdown ++ [nSocketID] ↔ _
      rw [List.mem_append, List.mem_singleton]
    constructor
    · intro n other hother
      rw [net_of_append (.shutdown nSocketID bForce) rfl, hlist]
      rw [StdMap.getElem?_insert] at hother
      split at hother
      · rename_i hn
        cases hother
        exact iff_of_true rfl (.inr hn.symm)
      · rename_i hn
        rw [h.closing n other hother]
        exact (or_iff_left (Ne.symm hn)).symm
    · intro n hn
      exact h.connected_lt n ((hsameLogins.connected n).mp hn)
    · intro n hn
      rw [net_of_append (.shutdown nSocketID bForce) rfl, hlist] at hn
      rcases hn with hn | rfl
      · exact h.shutdown_lt n hn
      · exact h.connected_lt n (connected_of_getElem? hget)

/-- A connection that is there is shut down afterwards. -/
theorem mem_listShutdown_shutdown (h : service.Linked) (hconnected : service.Connected nSocketID) :
    nSocketID ∈ (service.shutdown nSocketID bForce).net.listShutdown := by
  obtain ⟨connection, hget⟩ := Option.isSome_iff_exists.mp hconnected
  by_cases hclosing : connection.bClosing = true
  · rw [shutdown_of_closing hget hclosing]
    exact (h.closing nSocketID connection hget).mp hclosing
  · rw [shutdown_of_open hget hclosing,
      net_of_append (.shutdown nSocketID bForce) rfl]
    exact List.mem_append_right _ (List.mem_singleton_self nSocketID)

end Shutdown

/-! ## The end of a handler -/

section Handler

theorem sameLogins_invokeError : SameLogins service (service.invokeError nSocketID nLogin) :=
  (sameLogins_sendClientMessage _).trans sameLogins_shutdown

theorem Linked.invokeError (h : service.Linked) : (service.invokeError nSocketID nLogin).Linked :=
  (h.sendClientMessage _).shutdown

theorem responses_invokeError (n : ℕ) :
    (service.invokeError nSocketID nLogin).responses n =
      service.responses n + if nLogin = n then 1 else 0 := by
  rw [invokeError, responses_shutdown, responses_sendClientMessage]

theorem received_invokeError (n : ℕ) :
    (service.invokeError nSocketID nLogin).received n =
      service.received n +
        if nLogin = n then if nSocketID ∈ service.net.listShutdown then 0 else 1 else 0 := by
  rw [invokeError, received_shutdown, received_sendClientMessage]

theorem mem_listShutdown_invokeError (h : service.Linked)
    (hconnected : service.Connected nSocketID) :
    nSocketID ∈ (service.invokeError nSocketID nLogin).net.listShutdown :=
  mem_listShutdown_shutdown (h.sendClientMessage _) hconnected

variable (pMessage : Option SValidateLoginResponse)

theorem onLoginResponse_of_not_connected (h : ¬service.Connected nSocketID) :
    service.onLoginResponse nSocketID nLogin pMessage = service := by
  unfold onLoginResponse
  rw [Option.not_isSome_iff_eq_none.mp h]

/-- On a connection that is there, the handler sends one response, and with it perhaps a
shutdown. -/
theorem onLoginResponse_of_connected (h : service.Connected nSocketID) :
    (∃ message, service.onLoginResponse nSocketID nLogin pMessage =
        service.sendClientMessage nSocketID nLogin message) ∨
      service.onLoginResponse nSocketID nLogin pMessage =
        service.invokeError nSocketID nLogin := by
  obtain ⟨connection, hget⟩ := Option.isSome_iff_exists.mp h
  unfold onLoginResponse
  rw [hget]
  cases pMessage with
  | none => exact .inr rfl
  | some message => exact .inl ⟨_, rfl⟩

theorem sameLogins_onLoginResponse :
    SameLogins service (service.onLoginResponse nSocketID nLogin pMessage) := by
  by_cases h : service.Connected nSocketID
  · rcases onLoginResponse_of_connected pMessage h with ⟨message, heq⟩ | heq
    · rw [heq]
      apply sameLogins_sendClientMessage
    · rw [heq]
      apply sameLogins_invokeError
  · rw [onLoginResponse_of_not_connected pMessage h]
    apply SameLogins.refl

theorem Linked.onLoginResponse (hlinked : service.Linked) :
    (service.onLoginResponse nSocketID nLogin pMessage).Linked := by
  by_cases h : service.Connected nSocketID
  · rcases onLoginResponse_of_connected pMessage h with ⟨message, heq⟩ | heq
    · rw [heq]
      apply hlinked.sendClientMessage
    · rw [heq]
      apply hlinked.invokeError
  · rw [onLoginResponse_of_not_connected pMessage h]
    exact hlinked

theorem responses_onLoginResponse (h : service.Connected nSocketID) (n : ℕ) :
    (service.onLoginResponse nSocketID nLogin pMessage).responses n =
      service.responses n + if nLogin = n then 1 else 0 := by
  rcases onLoginResponse_of_connected pMessage h with ⟨message, heq⟩ | heq
  · rw [heq]
    apply responses_sendClientMessage
  · rw [heq]
    apply responses_invokeError

theorem received_onLoginResponse (h : service.Connected nSocketID) (n : ℕ) :
    (service.onLoginResponse nSocketID nLogin pMessage).received n =
      service.received n +
        if nLogin = n then if nSocketID ∈ service.net.listShutdown then 0 else 1 else 0 := by
  rcases onLoginResponse_of_connected pMessage h with ⟨message, heq⟩ | heq
  · rw [heq]
    apply received_sendClientMessage
  · rw [heq]
    apply received_invokeError

/-- The record of a login whose answer comes now. -/
def finishing (service : CLoginService) (nSocketID nLogin : ℕ) : SFinishedLogin where
  nLogin := nLogin
  bConnected := (service.mapConnection[nSocketID]?).isSome
  bClosing := (service.mapConnection[nSocketID]?).elim false CLoginConnectionFromClient.bClosing

/-- A connection was there and not closing if its socket had not been shut down. -/
theorem isOpen_finishing_iff (h : service.Linked) (hconnected : service.Connected nSocketID) :
    (service.finishing nSocketID nLogin).isOpen = true ↔
      nSocketID ∉ service.net.listShutdown := by
  obtain ⟨connection, hget⟩ := Option.isSome_iff_exists.mp hconnected
  rw [← h.closing nSocketID connection hget]
  simp [SFinishedLogin.isOpen, finishing, hget]

theorem isOpen_finishing_of_not_connected (h : ¬service.Connected nSocketID) :
    (service.finishing nSocketID nLogin).isOpen = false := by
  have hclosed : (service.finishing nSocketID nLogin).bConnected = false :=
    eq_false_of_ne_true h
  rw [SFinishedLogin.isOpen, hclosed, Bool.false_and]

variable {pMessage} {nErrorCode : UInt32}

theorem connected_finish_iff {n : ℕ} :
    (service.finish nSocketID nLogin).Connected n ↔ service.Connected n :=
  Iff.rfl

theorem connected_invokeError {n : ℕ} (h : service.Connected n) :
    ((service.finish nSocketID nLogin).invokeError nSocketID nLogin).Connected n :=
  (sameLogins_invokeError.connected n).mpr (connected_finish_iff.mpr h)

theorem afterInvoke_of_ok (h : nErrorCode = eRRT_OK) :
    service.afterInvoke nSocketID nLogin nErrorCode pMessage =
      (service.finish nSocketID nLogin).onLoginResponse nSocketID nLogin pMessage := by
  rw [afterInvoke, if_neg (not_not.mpr h)]

theorem afterInvoke_of_failed (h : nErrorCode ≠ eRRT_OK)
    (hconnected : service.Connected nSocketID) :
    service.afterInvoke nSocketID nLogin nErrorCode pMessage =
      ((service.finish nSocketID nLogin).invokeError nSocketID nLogin).onLoginResponse
        nSocketID nLogin pMessage := by
  obtain ⟨connection, hget⟩ := Option.isSome_iff_exists.mp hconnected
  rw [afterInvoke, if_pos h, onInvokeError]
  have hfinish : (service.finish nSocketID nLogin).mapConnection[nSocketID]? =
      some connection := hget
  rw [hfinish]

/-- The call has failed, and the connection is gone: the handler uses its pointer. -/
theorem afterInvoke_of_dangling (h : nErrorCode ≠ eRRT_OK)
    (hconnected : ¬service.Connected nSocketID) :
    service.afterInvoke nSocketID nLogin nErrorCode pMessage =
      { service.finish nSocketID nLogin with
        listDangling := service.listDangling ++ [nLogin] } := by
  have hnone : (service.finish nSocketID nLogin).mapConnection[nSocketID]? = none :=
    Option.not_isSome_iff_eq_none.mp hconnected
  rw [afterInvoke, if_pos h, onInvokeError, hnone]
  exact onLoginResponse_of_not_connected pMessage hconnected

/-- What holds of the logins behind the call of a handler. -/
structure Finishes (before after : CLoginService) (nSocketID nLogin : ℕ) : Prop where
  pending : after.listPending = before.listPending
  finished : after.listFinished = before.listFinished ++ [before.finishing nSocketID nLogin]
  nextLogin : after.nNextLogin = before.nNextLogin
  linked : before.Linked → after.Linked

theorem SameLogins.finishes {after : CLoginService}
    (h : SameLogins (service.finish nSocketID nLogin) after)
    (hlinked : service.Linked → after.Linked) : Finishes service after nSocketID nLogin where
  pending := h.pending
  finished := h.finished
  nextLogin := h.nextLogin
  linked := hlinked

theorem Linked.finish (h : service.Linked) : (service.finish nSocketID nLogin).Linked :=
  ⟨h.closing, h.connected_lt, h.shutdown_lt⟩

theorem finishes_afterInvoke :
    Finishes service (service.afterInvoke nSocketID nLogin nErrorCode pMessage)
      nSocketID nLogin := by
  by_cases hok : nErrorCode = eRRT_OK
  · rw [afterInvoke_of_ok hok]
    apply (sameLogins_onLoginResponse pMessage).finishes
    intro hlinked
    exact hlinked.finish.onLoginResponse pMessage
  · by_cases hconnected : service.Connected nSocketID
    · rw [afterInvoke_of_failed hok hconnected]
      apply (sameLogins_invokeError.trans (sameLogins_onLoginResponse pMessage)).finishes
      intro hlinked
      exact hlinked.finish.invokeError.onLoginResponse pMessage
    · rw [afterInvoke_of_dangling hok hconnected]
      exact ⟨rfl, rfl, rfl, fun hlinked => ⟨hlinked.closing, hlinked.connected_lt,
        hlinked.shutdown_lt⟩⟩

end Handler

/-! ## One login -/

section Finish

variable {pMessage : Option SValidateLoginResponse} {nErrorCode : UInt32}

theorem listDangling_afterInvoke_iff (hdangling : service.listDangling = []) :
    (service.afterInvoke nSocketID nLogin nErrorCode pMessage).listDangling = [] ↔
      (nErrorCode ≠ eRRT_OK → service.Connected nSocketID) := by
  by_cases hok : nErrorCode = eRRT_OK
  · rw [afterInvoke_of_ok hok]
    refine iff_of_true ?_ fun hfailed => absurd hok hfailed
    exact (sameLogins_onLoginResponse pMessage).dangling.trans hdangling
  · by_cases hconnected : service.Connected nSocketID
    · rw [afterInvoke_of_failed hok hconnected]
      refine iff_of_true ?_ fun _ => hconnected
      exact (sameLogins_invokeError.trans (sameLogins_onLoginResponse pMessage)).dangling.trans
        hdangling
    · rw [afterInvoke_of_dangling hok hconnected]
      refine iff_of_false ?_ fun h => hconnected (h hok)
      show service.listDangling ++ [nLogin] ≠ []
      simp

/-- A call that has not failed is answered once if its connection is there. -/
theorem responses_afterInvoke_of_ok (hok : nErrorCode = eRRT_OK) (n : ℕ) :
    (service.afterInvoke nSocketID nLogin nErrorCode pMessage).responses n =
      service.responses n + if nLogin = n then
        if (service.finishing nSocketID nLogin).bConnected then 1 else 0 else 0 := by
  rw [afterInvoke_of_ok hok]
  by_cases hconnected : service.Connected nSocketID
  · have hopen : (service.finishing nSocketID nLogin).bConnected = true := hconnected
    rw [if_pos hopen]
    exact responses_onLoginResponse pMessage (connected_finish_iff.mpr hconnected) n
  · have hclosed : ¬(service.finishing nSocketID nLogin).bConnected = true := hconnected
    rw [if_neg hclosed, ite_self,
      onLoginResponse_of_not_connected pMessage (connected_finish_iff.not.mpr hconnected)]
    rfl

/-- A call that has failed is answered twice. -/
theorem responses_afterInvoke_of_failed (hok : nErrorCode ≠ eRRT_OK)
    (hconnected : service.Connected nSocketID) (n : ℕ) :
    (service.afterInvoke nSocketID nLogin nErrorCode pMessage).responses n =
      service.responses n + if nLogin = n then 2 else 0 := by
  rw [afterInvoke_of_failed hok hconnected,
    responses_onLoginResponse pMessage (connected_invokeError hconnected), responses_invokeError]
  show service.responses n + _ + _ = _
  split
  · rfl
  · rfl

/-- What goes out does not depend on the error code: the second answer to a failed call
comes behind the shutdown. -/
theorem received_afterInvoke (h : service.Linked)
    (hvalid : nErrorCode ≠ eRRT_OK → service.Connected nSocketID) (n : ℕ) :
    (service.afterInvoke nSocketID nLogin nErrorCode pMessage).received n =
      service.received n + if nLogin = n then
        if (service.finishing nSocketID nLogin).isOpen then 1 else 0 else 0 := by
  by_cases hconnected : service.Connected nSocketID
  · have hcount : (if (service.finishing nSocketID nLogin).isOpen then 1 else 0) =
        if nSocketID ∈ service.net.listShutdown then 0 else 1 := by
      rw [if_congr (isOpen_finishing_iff h hconnected) rfl rfl, ite_not]
    rw [hcount]
    by_cases hok : nErrorCode = eRRT_OK
    · rw [afterInvoke_of_ok hok]
      exact received_onLoginResponse pMessage (connected_finish_iff.mpr hconnected) n
    · rw [afterInvoke_of_failed hok hconnected,
        received_onLoginResponse pMessage (connected_invokeError hconnected),
        if_pos (mem_listShutdown_invokeError h.finish hconnected), received_invokeError, ite_self]
      rfl
  · have hok : nErrorCode = eRRT_OK := by
      by_contra hfailed
      exact hconnected (hvalid hfailed)
    rw [afterInvoke_of_ok hok, isOpen_finishing_of_not_connected hconnected,
      if_neg Bool.false_ne_true, ite_self,
      onLoginResponse_of_not_connected pMessage (connected_finish_iff.not.mpr hconnected)]
    rfl

/-- Behind its call, a handler answers once if and only if the call has not failed. -/
theorem answeredOnce_responses_iff (hdangling : service.listDangling = [])
    (h : AnsweredOnce service.listFinished service.responses SFinishedLogin.bConnected)
    (hfresh : nLogin ∉ service.listFinished.map SFinishedLogin.nLogin) :
    ((service.afterInvoke nSocketID nLogin nErrorCode pMessage).listDangling = [] ∧
        AnsweredOnce (service.afterInvoke nSocketID nLogin nErrorCode pMessage).listFinished
          (service.afterInvoke nSocketID nLogin nErrorCode pMessage).responses
          SFinishedLogin.bConnected) ↔ nErrorCode = eRRT_OK := by
  rw [listDangling_afterInvoke_iff hdangling, finishes_afterInvoke.finished]
  by_cases hok : nErrorCode = eRRT_OK
  · refine iff_of_true ⟨fun hfailed => absurd hok hfailed, ?_⟩ hok
    exact (answeredOnce_append h hfresh (responses_afterInvoke_of_ok hok)).mpr rfl
  · apply iff_of_false ?_ hok
    rintro ⟨hvalid, honce⟩
    have hconnected := hvalid hok
    have hopen : (service.finishing nSocketID nLogin).bConnected = true := hconnected
    have htwo := (answeredOnce_append h hfresh
      (responses_afterInvoke_of_failed hok hconnected)).mp honce
    rw [if_pos hopen] at htwo
    contradiction

/-- Behind its call, what the client gets is one answer, unless the call has failed on a
connection that is gone. -/
theorem answeredOnce_received_iff (hlinked : service.Linked)
    (hdangling : service.listDangling = [])
    (h : AnsweredOnce service.listFinished service.received SFinishedLogin.isOpen)
    (hfresh : nLogin ∉ service.listFinished.map SFinishedLogin.nLogin) :
    ((service.afterInvoke nSocketID nLogin nErrorCode pMessage).listDangling = [] ∧
        AnsweredOnce (service.afterInvoke nSocketID nLogin nErrorCode pMessage).listFinished
          (service.afterInvoke nSocketID nLogin nErrorCode pMessage).received
          SFinishedLogin.isOpen) ↔
      (nErrorCode ≠ eRRT_OK → service.Connected nSocketID) := by
  rw [listDangling_afterInvoke_iff hdangling, finishes_afterInvoke.finished]
  apply and_iff_left_of_imp
  intro hvalid
  exact (answeredOnce_append h hfresh (received_afterInvoke hlinked hvalid)).mpr rfl

end Finish

/-! ## The places of a login -/

/-- How often a login waits or is finished. -/
def total (service : CLoginService) (n : ℕ) : ℕ :=
  service.waiting n + service.finished n

theorem Finishes.total {after : CLoginService} (h : Finishes service after nSocketID nLogin)
    (n : ℕ) : after.total n = service.total n + if nLogin = n then 1 else 0 := by
  unfold CLoginService.total waiting CLoginService.finished
  rw [h.pending, h.finished, List.countP_append, List.countP_singleton]
  have hdecide : (if decide ((service.finishing nSocketID nLogin).nLogin = n) = true then 1 else 0) =
      if nLogin = n then 1 else 0 := if_congr decide_eq_true_iff rfl rfl
  omega

theorem total_suspend (n : ℕ) :
    (service.suspend nSocketID nLogin).total n =
      service.total n + if nLogin = n then 1 else 0 := by
  unfold total waiting suspend
  rw [List.countP_append, List.countP_singleton]
  simp only [decide_eq_true_eq]
  show _ + _ + service.finished n = _
  omega

theorem not_mem_of_finished_eq_zero (h : service.finished nLogin = 0) :
    nLogin ∉ service.listFinished.map SFinishedLogin.nLogin := by
  intro hmem
  obtain ⟨finished, hmem, heq⟩ := List.mem_map.mp hmem
  simpa [heq] using List.countP_eq_zero.mp h finished hmem

/-! ## Events -/

/-- What every event keeps. -/
structure Consistent (service : CLoginService) : Prop where
  linked : service.Linked
  accounted : service.Accounted

/-- The calls that come back with an event, or that cannot be sent, have not failed. -/
def Event.Invokes (service : CLoginService) : Event → Prop
  | .login nSocketID _ _ bSend => service.Connected nSocketID → bSend = true
  | .result nSessionID nErrorCode _ =>
      ∀ pending, service.findPending nSessionID = some pending → nErrorCode = eRRT_OK
  | _ => True

/-- A call that fails comes back before its connection is destroyed. -/
def Event.InTime (service : CLoginService) : Event → Prop
  | .result nSessionID nErrorCode _ =>
      ∀ pending, service.findPending nSessionID = some pending →
        nErrorCode ≠ eRRT_OK → service.Connected pending.nSocketID
  | _ => True

/-- A handler goes on in `before`, where its login neither waits nor is finished. -/
structure Resumable (before : CLoginService) (nLogin : ℕ) : Prop where
  linked : before.Linked
  total : ∀ n, before.total n + (if nLogin = n then 1 else 0) =
    if n < before.nNextLogin then 1 else 0

namespace Resumable

theorem fresh (h : service.Resumable nLogin) :
    nLogin ∉ service.listFinished.map SFinishedLogin.nLogin := by
  apply not_mem_of_finished_eq_zero
  have htotal := h.total nLogin
  unfold CLoginService.total at htotal
  split at htotal
  · split at htotal <;> omega
  · contradiction

variable {pMessage : Option SValidateLoginResponse} {nErrorCode : UInt32}

theorem consistent_afterInvoke (h : service.Resumable nLogin) :
    (service.afterInvoke nSocketID nLogin nErrorCode pMessage).Consistent where
  linked := finishes_afterInvoke.linked h.linked
  accounted n := by
    rw [finishes_afterInvoke.nextLogin]
    exact (finishes_afterInvoke.total n).trans (h.total n)

theorem sendsOnce_iff (h : service.Resumable nLogin) (hdangling : service.listDangling = [])
    (honce : AnsweredOnce service.listFinished service.responses SFinishedLogin.bConnected) :
    (service.afterInvoke nSocketID nLogin nErrorCode pMessage).SendsOnce ↔
      nErrorCode = eRRT_OK := by
  rw [← answeredOnce_responses_iff hdangling honce h.fresh]
  exact and_congr_right fun _ => and_iff_right h.consistent_afterInvoke.accounted

theorem reachesOnce_iff (h : service.Resumable nLogin) (hdangling : service.listDangling = [])
    (honce : AnsweredOnce service.listFinished service.received SFinishedLogin.isOpen) :
    (service.afterInvoke nSocketID nLogin nErrorCode pMessage).ReachesOnce ↔
      (nErrorCode ≠ eRRT_OK → service.Connected nSocketID) := by
  rw [← answeredOnce_received_iff h.linked hdangling honce h.fresh]
  exact and_congr_right fun _ => and_iff_right h.consistent_afterInvoke.accounted

end Resumable

/-- The service without a suspended handler that goes on. -/
def taken (service : CLoginService) (nSessionID : ℕ) : CLoginService :=
  { service with
    listPending := service.listPending.eraseP fun pending => pending.nSessionID = nSessionID }

theorem resumable_taken (h : service.Consistent) {nSessionID : ℕ} {pending : SPendingLogin}
    (hpending : service.findPending nSessionID = some pending) :
    (service.taken nSessionID).Resumable pending.nLogin where
  linked := ⟨h.linked.closing, h.linked.connected_lt, h.linked.shutdown_lt⟩
  total n := by
    have hcount := countP_eraseP_of_find?
      (q := fun pending : SPendingLogin => decide (pending.nLogin = n)) hpending
    simp only [decide_eq_true_eq] at hcount
    have hbefore := h.accounted n
    unfold waiting CLoginService.finished at hbefore
    unfold total waiting CLoginService.finished taken
    dsimp only
    omega

section Login

variable {connection : CLoginConnectionFromClient} (szAccountName : Bytes) (nServerID : UInt32)

theorem linked_setAccountInfo (h : service.Linked)
    (hget : service.mapConnection[nSocketID]? = some connection) :
    (service.setAccountInfo nSocketID connection szAccountName nServerID).Linked where
  closing n other hother := by
    have hinsert : (service.mapConnection.insert nSocketID
        { connection with szAccountName, nServerID })[n]? = some other := hother
    rw [StdMap.getElem?_insert] at hinsert
    split at hinsert
    · rename_i heq
      cases heq
      cases hinsert
      exact h.closing nSocketID connection hget
    · exact h.closing n other hinsert
  connected_lt n hn := h.connected_lt n ((connected_insert_iff hget rfl n).mp hn)
  shutdown_lt := h.shutdown_lt

theorem resumable_setAccountInfo (h : service.Consistent)
    (hget : service.mapConnection[nSocketID]? = some connection) :
    (service.setAccountInfo nSocketID connection szAccountName nServerID).Resumable
      service.nNextLogin where
  linked := linked_setAccountInfo szAccountName nServerID h.linked hget
  total n := by
    have hbefore : service.total n = _ := h.accounted n
    show service.total n + _ = if n < service.nNextLogin + 1 then 1 else 0
    rw [hbefore]
    split <;> split <;> split <;> omega

end Login

theorem consistent_login (h : service.Consistent) (szAccountName : Bytes) (nServerID : UInt32)
    (bSend : Bool) : (service.login nSocketID szAccountName nServerID bSend).Consistent := by
  unfold CLoginService.login
  split
  · exact h
  · rename_i connection hget
    have hnoted := resumable_setAccountInfo szAccountName nServerID h hget
    dsimp only
    split
    · exact ⟨⟨hnoted.linked.closing, hnoted.linked.connected_lt, hnoted.linked.shutdown_lt⟩,
        fun n => (total_suspend n).trans (hnoted.total n)⟩
    · exact hnoted.consistent_afterInvoke

theorem consistent_onResult (h : service.Consistent) (nSessionID : ℕ) (nErrorCode : UInt32)
    (pMessage : Option SValidateLoginResponse) :
    (service.onResult nSessionID nErrorCode pMessage).Consistent := by
  unfold onResult
  split
  · exact h
  · rename_i pending hpending
    exact (resumable_taken h hpending).consistent_afterInvoke

theorem linked_connect (h : service.Linked) : (service.step .connect).Linked where
  closing n other hother := by
    have hinsert : (service.mapConnection.insert service.nNextSocketID {})[n]? = some other :=
      hother
    rw [StdMap.getElem?_insert] at hinsert
    split at hinsert
    · rename_i heq
      cases hinsert
      refine iff_of_false Bool.false_ne_true fun hmem => ?_
      exact absurd (h.shutdown_lt n hmem) (heq ▸ Nat.lt_irrefl service.nNextSocketID)
    · exact h.closing n other hinsert
  connected_lt n hn := by
    have hinsert : (service.mapConnection.insert service.nNextSocketID {})[n]?.isSome = true := hn
    rw [StdMap.getElem?_insert] at hinsert
    show n < service.nNextSocketID + 1
    split at hinsert
    · omega
    · exact Nat.lt_succ_of_lt (h.connected_lt n hinsert)
  shutdown_lt n hn := Nat.lt_succ_of_lt (h.shutdown_lt n hn)

theorem linked_disconnect (h : service.Linked) :
    (service.step (.disconnect nSocketID)).Linked where
  closing n other hother := by
    have herase : (service.mapConnection.erase nSocketID)[n]? = some other := hother
    rw [StdMap.getElem?_erase] at herase
    split at herase
    · contradiction
    · exact h.closing n other herase
  connected_lt n hn := by
    have herase : (service.mapConnection.erase nSocketID)[n]?.isSome = true := hn
    rw [StdMap.getElem?_erase] at herase
    split at herase
    · contradiction
    · exact h.connected_lt n herase
  shutdown_lt := h.shutdown_lt

theorem Consistent.step (h : service.Consistent) (e : Event) : (service.step e).Consistent := by
  cases e with
  | connect => exact ⟨linked_connect h.linked, h.accounted⟩
  | disconnect nSocketID => exact ⟨linked_disconnect h.linked, h.accounted⟩
  | unknownMessage nSocketID =>
      exact ⟨h.linked.shutdown, sameLogins_shutdown.accounted.mpr h.accounted⟩
  | login nSocketID szAccountName nServerID bSend =>
      exact consistent_login h szAccountName nServerID bSend
  | result nSessionID nErrorCode pMessage =>
      exact consistent_onResult h nSessionID nErrorCode pMessage

theorem consistent_initial : initial.Consistent where
  linked := by
    constructor
    · intro n connection hget
      cases hget
    · intro n hconnected
      cases hconnected
    · intro n hmem
      cases hmem
  accounted n := rfl

/-! ## Runs -/

/-- The handler that goes on with an event, in the state where it does. -/
def Event.Resumes (service : CLoginService)
    (P : CLoginService → ℕ → ℕ → UInt32 → Option SValidateLoginResponse → Prop) : Event → Prop
  | .login nSocketID szAccountName nServerID bSend =>
      ∀ connection, service.mapConnection[nSocketID]? = some connection → bSend = false →
        P (service.setAccountInfo nSocketID connection szAccountName nServerID) nSocketID
          service.nNextLogin eRRT_ERROR none
  | .result nSessionID nErrorCode pMessage =>
      ∀ pending, service.findPending nSessionID = some pending →
        P (service.taken nSessionID) pending.nSocketID pending.nLogin nErrorCode pMessage
  | _ => True

/-- A way to count responses: it looks at the commands, and not at the shutdowns. -/
structure CountsResponses (responses : CLoginService → ℕ → ℕ) : Prop where
  commands : ∀ {before after : CLoginService}, after.commands = before.commands →
    responses after = responses before
  shutdown : ∀ (before : CLoginService) nSocketID bForce,
    responses (before.shutdown nSocketID bForce) = responses before

theorem countsResponses_responses : CountsResponses responses where
  commands h := by
    funext n
    rw [responses, h, responses]
  shutdown before nSocketID bForce := funext responses_shutdown

theorem countsResponses_received : CountsResponses received where
  commands h := by
    funext n
    rw [received, net, h, received, net]
  shutdown before nSocketID bForce := funext received_shutdown

theorem CountsResponses.answeredOnce {responses : CLoginService → ℕ → ℕ}
    {isOpen : SFinishedLogin → Bool} (hcounts : CountsResponses responses)
    (service : CLoginService) {after : CLoginService}
    (hcommands : after.commands = service.commands)
    (hfinished : after.listFinished = service.listFinished)
    (h : AnsweredOnce service.listFinished (responses service) isOpen) :
    AnsweredOnce after.listFinished (responses after) isOpen := by
  rw [hfinished, hcounts.commands hcommands]
  exact h

/-- The logins stay answered once if the handler that goes on sees to it. -/
theorem once_step {responses : CLoginService → ℕ → ℕ} {isOpen : SFinishedLogin → Bool}
    (hcounts : CountsResponses responses) (h : service.Consistent)
    (honce : service.Once responses isOpen) (e : Event) :
    (service.step e).Once responses isOpen ↔
      e.Resumes service fun before nSocketID nLogin nErrorCode pMessage =>
        (before.afterInvoke nSocketID nLogin nErrorCode pMessage).Once responses isOpen := by
  obtain ⟨hdangling, haccounted, hresponses⟩ := honce
  cases e with
  | connect =>
      exact iff_of_true ⟨hdangling, haccounted, hcounts.answeredOnce service rfl rfl hresponses⟩ trivial
  | disconnect nSocketID =>
      exact iff_of_true ⟨hdangling, haccounted, hcounts.answeredOnce service rfl rfl hresponses⟩ trivial
  | unknownMessage nSocketID =>
      refine iff_of_true ⟨?_, (h.step (.unknownMessage nSocketID)).accounted, ?_⟩ trivial
      · exact sameLogins_shutdown.dangling.trans hdangling
      · show AnsweredOnce (service.shutdown nSocketID true).listFinished
          (responses (service.shutdown nSocketID true)) isOpen
        rw [sameLogins_shutdown.finished, hcounts.shutdown]
        exact hresponses
  | login nSocketID szAccountName nServerID bSend =>
      have haccounted' := (h.step (.login nSocketID szAccountName nServerID bSend)).accounted
      unfold Event.Resumes CLoginService.step CLoginService.login at *
      dsimp only at *
      split
      · rename_i hnone
        refine iff_of_true ⟨hdangling, haccounted, hresponses⟩ fun connection hget => ?_
        rw [hnone] at hget
        cases hget
      · rename_i connection hget
        rw [hget] at haccounted'
        cases bSend with
        | true =>
            refine iff_of_true ⟨hdangling, haccounted', ?_⟩ fun other hother hsend => ?_
            · exact hcounts.answeredOnce service rfl rfl hresponses
            · cases hsend
        | false =>
            rw [if_neg Bool.false_ne_true]
            constructor
            · intro hafter other hother hsend
              obtain rfl := Option.some.inj (hget.symm.trans hother)
              exact hafter
            · intro hafter
              exact hafter connection hget rfl
  | result nSessionID nErrorCode pMessage =>
      show (service.onResult nSessionID nErrorCode pMessage).Once responses isOpen ↔
        ∀ pending, service.findPending nSessionID = some pending → _
      unfold onResult
      split
      · rename_i hnone
        refine iff_of_true ⟨hdangling, haccounted, hresponses⟩ fun pending hpending => ?_
        rw [hnone] at hpending
        cases hpending
      · rename_i pending hpending
        constructor
        · intro hafter other hother
          obtain rfl := Option.some.inj (hpending.symm.trans hother)
          exact hafter
        · intro hafter
          exact hafter pending hpending

theorem sendsOnce_step (h : service.Consistent) (honce : service.SendsOnce) (e : Event) :
    (service.step e).SendsOnce ↔ e.Invokes service := by
  rw [SendsOnce, once_step countsResponses_responses h honce]
  obtain ⟨hdangling, -, hresponses⟩ := honce
  cases e with
  | login nSocketID szAccountName nServerID bSend =>
      constructor
      · intro hresumes hconnected
        obtain ⟨connection, hget⟩ := Option.isSome_iff_exists.mp hconnected
        by_contra hsend
        have hnoted := resumable_setAccountInfo szAccountName nServerID h hget
        have hok := (hnoted.sendsOnce_iff hdangling hresponses).mp
          (hresumes connection hget (eq_false_of_ne_true hsend))
        contradiction
      · intro hinvokes connection hget hsend
        have htrue := hinvokes (connected_of_getElem? hget)
        rw [hsend] at htrue
        contradiction
  | result nSessionID nErrorCode pMessage =>
      apply forall₂_congr
      intro pending hpending
      exact (resumable_taken h hpending).sendsOnce_iff hdangling hresponses
  | _ => exact Iff.rfl

theorem reachesOnce_step (h : service.Consistent) (honce : service.ReachesOnce) (e : Event) :
    (service.step e).ReachesOnce ↔ e.InTime service := by
  rw [ReachesOnce, once_step countsResponses_received h honce]
  obtain ⟨hdangling, -, hresponses⟩ := honce
  cases e with
  | login nSocketID szAccountName nServerID bSend =>
      refine iff_of_true (fun connection hget _ => ?_) trivial
      have hnoted := resumable_setAccountInfo szAccountName nServerID h hget
      apply (hnoted.reachesOnce_iff hdangling hresponses).mpr
      intro _
      exact (connected_insert_iff hget rfl nSocketID).mpr (connected_of_getElem? hget)
  | result nSessionID nErrorCode pMessage =>
      apply forall₂_congr
      intro pending hpending
      exact (resumable_taken h hpending).reachesOnce_iff hdangling hresponses
  | _ => exact Iff.rfl

theorem once_initial (responses : CLoginService → ℕ → ℕ) (isOpen : SFinishedLogin → Bool)
    (h : responses initial = 0) : initial.Once responses isOpen := by
  refine ⟨rfl, consistent_initial.accounted, ?_, ?_⟩
  · intro finished hmem
    cases hmem
  · intro nLogin _
    rw [h]
    rfl

theorem sendsOnce_throughout_iff (events : List Event) :
    (∀ ks, ks <+: events → (ks.foldl step initial).SendsOnce) ↔
      ∀ ks e, ks ++ [e] <+: events → e.Invokes (ks.foldl step initial) := by
  apply throughout_iff (I := Consistent)
  · intro service e h
    exact h.step e
  · intro service e h honce
    exact sendsOnce_step h honce e
  · exact consistent_initial
  · exact once_initial responses SFinishedLogin.bConnected rfl

theorem reachesOnce_throughout_iff (events : List Event) :
    (∀ ks, ks <+: events → (ks.foldl step initial).ReachesOnce) ↔
      ∀ ks e, ks ++ [e] <+: events → e.InTime (ks.foldl step initial) := by
  apply throughout_iff (I := Consistent)
  · intro service e h
    exact h.step e
  · intro service e h honce
    exact reachesOnce_step h honce e
  · exact consistent_initial
  · exact once_initial received SFinishedLogin.isOpen rfl

end CLoginService

/-! ## Both services -/

open RealtimeEx.Dispatch.CDispatchService in
/-- In every run, the dispatch service answers every request exactly once if and only if no
assertion of its handler fails, and the login service sends one response on a connection
that is there if and only if no call to the dispatch service fails.  What the client gets is
right as long as a failed call comes back before the connection is destroyed. -/
theorem answers_throughout_iff (nAccountTblCount : UInt32) (collate : Bytes → Bytes)
    (accountTbl : AccountTbl) (events : List CDispatchService.Event)
    (loginEvents : List CLoginService.Event) :
    ((∀ ks, ks <+: events →
        (ks.foldl step (initial nAccountTblCount collate accountTbl)).AnsweredOnce) ↔
      ∀ ks e, ks ++ [e] <+: events →
        e.Asserts (ks.foldl step (initial nAccountTblCount collate accountTbl))) ∧
    ((∀ ks, ks <+: loginEvents → (ks.foldl CLoginService.step .initial).SendsOnce) ↔
      ∀ ks e, ks ++ [e] <+: loginEvents → e.Invokes (ks.foldl CLoginService.step .initial)) ∧
    ((∀ ks, ks <+: loginEvents → (ks.foldl CLoginService.step .initial).ReachesOnce) ↔
      ∀ ks e, ks ++ [e] <+: loginEvents →
        e.InTime (ks.foldl CLoginService.step .initial)) :=
  ⟨answeredOnce_throughout_iff nAccountTblCount collate accountTbl events,
    CLoginService.sendsOnce_throughout_iff loginEvents,
    CLoginService.reachesOnce_throughout_iff loginEvents⟩

/-- The game database answers the creation of a player without a row. -/
def noRow : List CDispatchService.Event :=
  [.ucActiveCount 80001 0, .validateLogin ⟨1, 1⟩ [97] 1 true, .execute 0, .answer 0 true 0,
    .respond 1 ⟨eRRT_OK, some (.resultSet [])⟩ true 0]

/-- A validation takes too long. -/
def timeOut : List CLoginService.Event :=
  [.connect, .login 0 [97] 1 true, .result 0 2 none]

/-- Meanwhile the client has disconnected. -/
def timeOutBehindDisconnect : List CLoginService.Event :=
  [.connect, .login 0 [97] 1 true, .disconnect 0, .result 0 2 none]

/-- A request without an answer, a login with two, and a handler that uses a destroyed
connection. -/
theorem not_answers_once :
    ¬(noRow.foldl CDispatchService.step
        (CDispatchService.initial 4 id fun _ => none)).AnsweredOnce ∧
      ¬(timeOut.foldl CLoginService.step .initial).SendsOnce ∧
      ¬(timeOutBehindDisconnect.foldl CLoginService.step .initial).ReachesOnce := by
  refine ⟨fun h => ?_, fun h => ?_, fun h => ?_⟩
  · have hone := h 0 (by decide)
    revert hone
    decide
  · have hone := h.2.2.1 ⟨0, true, false⟩ (by decide)
    revert hone
    decide
  · have hdangling := h.1
    revert hdangling
    decide

end RealtimeEx.Login
