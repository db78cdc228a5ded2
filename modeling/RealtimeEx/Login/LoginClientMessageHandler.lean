import Mathlib.Algebra.Order.Ring.Int
import RealtimeEx.Dispatch.ValidateLoginAnswer

/-!
# The logins of a login service

A client asks to log in.  The handler asks a dispatch service to validate the login, and is
suspended until the answer comes.  Meanwhile the client can disconnect, and with that its
connection object is destroyed.

When the call has failed, the handler uses the object it was called with, and then goes on
as if the call had not failed.
-/

namespace RealtimeEx.Login

open RealtimeEx.Db (Bytes)
open RealtimeEx.Dispatch (SValidateLoginResponse eRRT_OK eRRT_ERROR)

/-! ## Connections -/

/-- `CLoginConnectionFromClient`. -/
structure CLoginConnectionFromClient where
  szAccountName : Bytes := []
  nServerID : UInt32 := 0
  bClosing : Bool := false
  deriving DecidableEq

/-- `c2l_player_login_response`. -/
structure SPlayerLoginResponse where
  nResult : UInt32
  szKey : Bytes
  szGateAddr : Bytes
  deriving DecidableEq

/-- `eEC_Login_InvokeDispatchError`. -/
def eEC_Login_InvokeDispatchError : UInt32 := 105

/-- The commands to the net thread: a response of a login, and `shutdown`. -/
inductive NetCommand
  | send (nSocketID nLogin : ℕ) (message : SPlayerLoginResponse)
  | shutdown (nSocketID : ℕ) (bForce : Bool)
  deriving DecidableEq

/-- The net thread, as far as the responses go: the sockets that are shut down, and the
logins whose responses went out. -/
structure NetThread where
  listShutdown : List ℕ := []
  listSent : List ℕ := []
  deriving DecidableEq

/-- `CNetConnecter::send` drops what comes behind a shutdown. -/
def NetThread.handle (net : NetThread) : NetCommand → NetThread
  | .send nSocketID nLogin _ =>
      if nSocketID ∈ net.listShutdown then net
      else { net with listSent := net.listSent ++ [nLogin] }
  | .shutdown nSocketID _ => { net with listShutdown := net.listShutdown ++ [nSocketID] }

/-! ## The service -/

/-- A suspended handler: the session of its call, and the id of the socket, which also
stands for the pointer to the connection, since an id is used once. -/
structure SPendingLogin where
  nSessionID : ℕ
  nSocketID : ℕ
  nLogin : ℕ
  deriving DecidableEq

/-- A login whose answer has come, and its connection at that time: whether it was still
there, and whether it was closing. -/
structure SFinishedLogin where
  nLogin : ℕ
  bConnected : Bool
  bClosing : Bool
  deriving DecidableEq

/-- `CLoginService`.  The source does not store the last two: the logins whose answers have
come, and those that used a destroyed connection. -/
structure CLoginService where
  mapConnection : StdMap ℕ CLoginConnectionFromClient := ∅
  listPending : List SPendingLogin := []
  commands : List NetCommand := []
  nNextSocketID : ℕ := 0
  nNextSessionID : ℕ := 0
  nNextLogin : ℕ := 0
  listFinished : List SFinishedLogin := []
  listDangling : List ℕ := []

namespace CLoginService

/-- The service before its first connection. -/
def initial : CLoginService := {}

variable (service : CLoginService)

/-- `CBaseConnection::shutdown` of a connection. -/
def shutdown (nSocketID : ℕ) (bForce : Bool) : CLoginService :=
  match service.mapConnection[nSocketID]? with
  | none => service
  | some connection =>
      if connection.bClosing then service
      else
        { service with
          mapConnection :=
            service.mapConnection.insert nSocketID { connection with bClosing := true }
          commands := service.commands ++ [.shutdown nSocketID bForce] }

/-- `sendClientMessage`.  The responses are small enough for the buffer. -/
def sendClientMessage (nSocketID nLogin : ℕ) (message : SPlayerLoginResponse) :
    CLoginService :=
  { service with commands := service.commands ++ [.send nSocketID nLogin message] }

/-- The client is told that the dispatch service cannot be reached. -/
def invokeError (nSocketID nLogin : ℕ) : CLoginService :=
  (service.sendClientMessage nSocketID nLogin
    { nResult := eEC_Login_InvokeDispatchError, szKey := [], szGateAddr := [] }).shutdown
      nSocketID false

/-- A login whose answer comes. -/
def finish (nSocketID nLogin : ℕ) : CLoginService :=
  { service with
    listFinished := service.listFinished ++
      [{ nLogin
         bConnected := (service.mapConnection[nSocketID]?).isSome
         bClosing := (service.mapConnection[nSocketID]?).elim false
           CLoginConnectionFromClient.bClosing }] }

/-- The branch of `login` for a call that has failed: it uses the pointer. -/
def onInvokeError (nSocketID nLogin : ℕ) : CLoginService :=
  match service.mapConnection[nSocketID]? with
  | none => { service with listDangling := service.listDangling ++ [nLogin] }
  | some _ => service.invokeError nSocketID nLogin

/-- The rest of `login`: the connection is looked up. -/
def onLoginResponse (nSocketID nLogin : ℕ) (pMessage : Option SValidateLoginResponse) :
    CLoginService :=
  match service.mapConnection[nSocketID]? with
  | none => service
  | some _ =>
      match pMessage with
      | none => service.invokeError nSocketID nLogin
      | some message =>
          service.sendClientMessage nSocketID nLogin
            { nResult := message.nResult, szKey := message.szKey, szGateAddr := message.szGateAddr }

/-- `login` behind its call. -/
def afterInvoke (nSocketID nLogin : ℕ) (nErrorCode : UInt32)
    (pMessage : Option SValidateLoginResponse) : CLoginService :=
  if nErrorCode ≠ eRRT_OK then
    ((service.finish nSocketID nLogin).onInvokeError nSocketID nLogin).onLoginResponse
      nSocketID nLogin pMessage
  else
    (service.finish nSocketID nLogin).onLoginResponse nSocketID nLogin pMessage

/-- The account is noted at the connection, and the login gets a number. -/
def setAccountInfo (nSocketID : ℕ) (connection : CLoginConnectionFromClient)
    (szAccountName : Bytes) (nServerID : UInt32) : CLoginService :=
  { service with
    mapConnection := service.mapConnection.insert nSocketID
      { connection with szAccountName, nServerID }
    nNextLogin := service.nNextLogin + 1 }

/-- The handler of a login is suspended in its call. -/
def suspend (nSocketID nLogin : ℕ) : CLoginService :=
  { service with
    listPending := service.listPending ++
      [{ nSessionID := service.nNextSessionID, nSocketID, nLogin }]
    nNextSessionID := service.nNextSessionID + 1 }

/-- `login` up to its call, of a connection that is there.  `bSend` says whether a dispatch
service can be reached. -/
def login (nSocketID : ℕ) (szAccountName : Bytes) (nServerID : UInt32) (bSend : Bool) :
    CLoginService :=
  match service.mapConnection[nSocketID]? with
  | none => service
  | some connection =>
      let noted := service.setAccountInfo nSocketID connection szAccountName nServerID
      if bSend then noted.suspend nSocketID service.nNextLogin
      else noted.afterInvoke nSocketID service.nNextLogin eRRT_ERROR none

/-- The suspended handler of a session. -/
def findPending (nSessionID : ℕ) : Option SPendingLogin :=
  service.listPending.find? fun pending => pending.nSessionID = nSessionID

/-- The answer of the dispatch service arrives, or the time is over. -/
def onResult (nSessionID : ℕ) (nErrorCode : UInt32) (pMessage : Option SValidateLoginResponse) :
    CLoginService :=
  match service.findPending nSessionID with
  | none => service
  | some pending =>
      { service with
        listPending := service.listPending.eraseP fun pending =>
          pending.nSessionID = nSessionID }.afterInvoke pending.nSocketID pending.nLogin
        nErrorCode pMessage

/-- The events of the service. -/
inductive Event
  | connect
  | disconnect (nSocketID : ℕ)
  | unknownMessage (nSocketID : ℕ)
  | login (nSocketID : ℕ) (szAccountName : Bytes) (nServerID : UInt32) (bSend : Bool)
  | result (nSessionID : ℕ) (nErrorCode : UInt32) (pMessage : Option SValidateLoginResponse)
  deriving DecidableEq

/-- One event.  `disconnect` is `CBaseConnectionMgrImpl::onDisconnect`. -/
def step : Event → CLoginService
  | .connect =>
      { service with
        mapConnection := service.mapConnection.insert service.nNextSocketID {}
        nNextSocketID := service.nNextSocketID + 1 }
  | .disconnect nSocketID =>
      { service with mapConnection := service.mapConnection.erase nSocketID }
  | .unknownMessage nSocketID => service.shutdown nSocketID true
  | .login nSocketID szAccountName nServerID bSend =>
      service.login nSocketID szAccountName nServerID bSend
  | .result nSessionID nErrorCode pMessage => service.onResult nSessionID nErrorCode pMessage

end CLoginService

end RealtimeEx.Login
