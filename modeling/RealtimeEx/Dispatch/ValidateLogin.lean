import Mathlib.Algebra.Order.Ring.Int
import RealtimeEx.Db.DbConnection
import RealtimeEx.Db.NumberText
import RealtimeEx.Support.StdContainers

/-!
# The logins of a dispatch service

A login service asks the dispatch service to validate a login.  The handler of the request
looks the account up in the global database; an account that is not there gets a player
from a game database, and a row in the global one.  Then the player takes a place at its
user center, and the request is answered with a key.

Each of these steps is a call during which the handler is suspended.  Meanwhile other
requests are handled, also for the same account.
-/

namespace RealtimeEx.Dispatch

open RealtimeEx.Db (Bytes natText textNat stringBytes)

/-! ## The loads of the other services -/

/-- `COnlineCountMgr`. -/
structure COnlineCountMgr where
  mapGasOnline : StdMap UInt32 UInt32 := ∅
  mapGateOnline : StdMap UInt32 UInt32 := ∅
  mapGateAddr : StdMap UInt32 Bytes := ∅
  mapUCActive : StdMap UInt32 UInt32 := ∅

/-- The service with the smallest count, or zero. -/
def suitableID (mapCount : StdMap UInt32 UInt32) : UInt32 :=
  (mapCount.toList.foldl (fun best entry =>
    if entry.2 < best.1 then (entry.2, entry.1) else best) ((0xFFFFFFFF : UInt32), (0 : UInt32))).2

namespace COnlineCountMgr

variable (mgr : COnlineCountMgr)

def getSuitableGasID : UInt32 := suitableID mgr.mapGasOnline

def getSuitableGateID : UInt32 := suitableID mgr.mapGateOnline

def getSuitableUCID : UInt32 := suitableID mgr.mapUCActive

def getGateAddr (nGateID : UInt32) : Bytes :=
  (mgr.mapGateAddr[nGateID]?).getD []

end COnlineCountMgr

/-! ## Accounts -/

/-- A character of a C string as the source adds it to a number: it is signed. -/
def charValue (c : UInt8) : UInt32 :=
  if c < 128 then c.toUInt32 else c.toUInt32 + 0xFFFFFF00

/-- `base::function_util::hash` of a C string. -/
def hash (szKey : Bytes) : UInt32 :=
  (szKey.takeWhile (· ≠ 0)).foldl (fun (nHash : UInt32) c =>
    nHash ^^^ ((nHash <<< 5) + charValue c + (nHash >>> 2))) 1315423911 &&& 0x7FFFFFFF

/-- A row's place: the table of the account, its name and the server. -/
structure AccountKey where
  nTblIndex : UInt32
  szAccountName : Bytes
  nServerID : UInt32
  deriving DecidableEq

/-- The tables `account_base_` of the global database: the player of each row.  The name
and the server are a unique key of each table. -/
abbrev AccountTbl := AccountKey → Option UInt64

/-- The statements of the handler. -/
inductive AccountStatement
  | select (key : AccountKey)
  | insert (key : AccountKey) (nPlayerID : UInt64)
  deriving DecidableEq

/-- The messages that answer the calls of the handler. -/
inductive ResponseMessage
  | resultSet (rows : List (List Bytes))
  | playerLogin (nGasID : UInt32)
  | other
  deriving DecidableEq

/-- `eRRT_OK`. -/
def eRRT_OK : UInt32 := 1

/-- `eRRT_ERROR`. -/
def eRRT_ERROR : UInt32 := 3

/-- `eDBRC_MysqlError`. -/
def eDBRC_MysqlError : UInt32 := 12

/-- The answer to a call: its error code and its message. -/
structure CallResult where
  nErrorCode : UInt32
  pMessage : Option ResponseMessage
  deriving DecidableEq

/-- The row of a key; `collate` is what the collation of the database tells apart of a
name. -/
def AccountKey.row (collate : Bytes → Bytes) (key : AccountKey) : AccountKey :=
  { key with szAccountName := collate key.szAccountName }

/-- The rows that a select finds. -/
def AccountTbl.select (accountTbl : AccountTbl) (row : AccountKey) : CallResult :=
  match accountTbl row with
  | none => ⟨eRRT_OK, some (.resultSet [])⟩
  | some nPlayerID => ⟨eRRT_OK, some (.resultSet [[natText nPlayerID.toNat]])⟩

/-- A second row with a key is refused. -/
def AccountTbl.insert (accountTbl : AccountTbl) (row : AccountKey) (nPlayerID : UInt64) :
    CallResult × AccountTbl :=
  match accountTbl row with
  | none => (⟨eRRT_OK, none⟩, Function.update accountTbl row (some nPlayerID))
  | some _ => (⟨eDBRC_MysqlError, none⟩, accountTbl)

/-- The global database executes a statement. -/
def AccountStatement.execute (collate : Bytes → Bytes) (accountTbl : AccountTbl) :
    AccountStatement → CallResult × AccountTbl
  | .select key => (accountTbl.select (key.row collate), accountTbl)
  | .insert key nPlayerID => accountTbl.insert (key.row collate) nPlayerID

/-! ## The handler -/

/-- `SSessionInfo`. -/
structure SSessionInfo where
  nFromServiceID : UInt32
  nSessionID : UInt64
  deriving DecidableEq

/-- `l2d_validate_login_request` with its sender; `nRequest` tells the requests apart. -/
structure SValidateLogin where
  nRequest : ℕ
  sSessionInfo : SSessionInfo
  szAccountName : Bytes
  nServerID : UInt32
  deriving DecidableEq

/-- `l2d_validate_login_response`. -/
structure SValidateLoginResponse where
  szKey : Bytes
  nResult : UInt32
  szGateAddr : Bytes
  deriving DecidableEq

/-- The results of a login. -/
def eEC_Sucess : UInt32 := 0

def eEC_Login_QueryGlobalDbError : UInt32 := 100

def eEC_Login_GetSuitableUCIDError : UInt32 := 101

def eEC_Login_InsertGameDbError : UInt32 := 102

def eEC_Login_InsertGbloalDbError : UInt32 := 103

def eEC_Login_InvokeUCError : UInt32 := 104

/-- `_UC_SERVICE_DELTA`. -/
def ucServiceDelta : UInt32 := 80000

/-- `_GAME_DB_SERVICE_DELTA`. -/
def gameDbServiceDelta : UInt32 := 70000

/-- `_GET_PLAYER_DB_ID`. -/
def getPlayerDbID (nPlayerID : UInt64) : UInt32 := (nPlayerID >>> 54).toUInt32

/-- The calls during which a handler is suspended, with what it has found so far. -/
inductive LoginStep
  | select
  | createPlayer (nUCServiceID : UInt32)
  | insert (nUCServiceID : UInt32) (nPlayerID : UInt64)
  | userCenter (nUCServiceID : UInt32) (nPlayerID : UInt64) (nGasID : UInt32)
  deriving DecidableEq

/-- `d2g_player_token_notify`. -/
structure SPlayerTokenNotify where
  nPlayerID : UInt64
  nGasID : UInt32
  szToken : Bytes
  deriving DecidableEq

/-- What a handler does when it goes on: it makes the next call, it answers the request, or
an assertion ends it. -/
inductive LoginProgress
  | call (step : LoginStep)
  | response (message : SValidateLoginResponse)
  | login (nGateID : UInt32) (notify : SPlayerTokenNotify) (message : SValidateLoginResponse)
  | assertFailed
  deriving DecidableEq

/-- The answer of an early exit. -/
def loginError (nResult : UInt32) : LoginProgress :=
  .response { szKey := [], nResult, szGateAddr := [] }

/-- The number in the first column of a row. -/
def rowValue (row : List Bytes) : Option UInt64 :=
  (textNat 64 (row.headD [])).map UInt64.ofNat

/-- The key of a login: the player and a token. -/
def loginKey (nPlayerID : UInt64) (szToken : Bytes) : Bytes :=
  natText nPlayerID.toNat ++ [124] ++ szToken

namespace COnlineCountMgr

variable (mgr : COnlineCountMgr)

/-- The handler asks the user center for a place. -/
def enterUserCenter (nUCServiceID : UInt32) (nPlayerID : UInt64) : LoginProgress :=
  .call (.userCenter nUCServiceID nPlayerID mgr.getSuitableGasID)

/-- The account has no row. -/
def chooseUserCenter : LoginProgress :=
  let nUCServiceID := mgr.getSuitableUCID
  if nUCServiceID = 0 then loginError eEC_Login_GetSuitableUCIDError
  else
    let nDBID := nUCServiceID - ucServiceDelta
    if nDBID = 0 then .assertFailed
    else if nDBID + gameDbServiceDelta = 0 then .assertFailed
    else .call (.createPlayer nUCServiceID)

/-- The select has been answered. -/
def onSelect (result : CallResult) : LoginProgress :=
  if result.nErrorCode ≠ eRRT_OK then loginError eEC_Login_QueryGlobalDbError
  else
    match result.pMessage with
    | some (.resultSet rows) =>
        if 1 < rows.length then .assertFailed
        else
          match rows with
          | [] => mgr.chooseUserCenter
          | row :: _ =>
              match rowValue row with
              | none => .assertFailed
              | some nPlayerID =>
                  if getPlayerDbID nPlayerID + ucServiceDelta = 0 then .assertFailed
                  else mgr.enterUserCenter (getPlayerDbID nPlayerID + ucServiceDelta) nPlayerID
    | _ => loginError eEC_Login_QueryGlobalDbError

/-- The game database has answered. -/
def onCreatePlayer (nUCServiceID : UInt32) (result : CallResult) : LoginProgress :=
  if result.nErrorCode ≠ eRRT_OK then loginError eEC_Login_InsertGameDbError
  else
    match result.pMessage with
    | some (.resultSet rows) =>
        match rows with
        | [row] =>
            match rowValue row with
            | none => .assertFailed
            | some nPlayerID => .call (.insert nUCServiceID nPlayerID)
        | _ => .assertFailed
    | _ => loginError eEC_Login_InsertGameDbError

/-- The insert has been answered. -/
def onInsert (nUCServiceID : UInt32) (nPlayerID : UInt64) (result : CallResult) :
    LoginProgress :=
  if result.nErrorCode ≠ eRRT_OK then loginError eEC_Login_InsertGbloalDbError
  else mgr.enterUserCenter nUCServiceID nPlayerID

/-- The user center has answered. -/
def onUserCenter (nPlayerID : UInt64) (result : CallResult) (nRand : UInt32) : LoginProgress :=
  if result.nErrorCode ≠ eRRT_OK then loginError eEC_Login_InvokeUCError
  else
    match result.pMessage with
    | some (.playerLogin nGasID) =>
        if nGasID = 0 then loginError eEC_Login_InvokeUCError
        else
          let nGateID := mgr.getSuitableGateID
          let szToken := natText nRand.toNat
          .login nGateID { nPlayerID, nGasID, szToken }
            { szKey := loginKey nPlayerID szToken
              nResult := eEC_Sucess
              szGateAddr := mgr.getGateAddr nGateID }
    | _ => loginError eEC_Login_InvokeUCError

/-- A handler goes on with the answer to its call. -/
def resume (step : LoginStep) (result : CallResult) (nRand : UInt32) : LoginProgress :=
  match step with
  | .select => mgr.onSelect result
  | .createPlayer nUCServiceID => onCreatePlayer nUCServiceID result
  | .insert nUCServiceID nPlayerID => mgr.onInsert nUCServiceID nPlayerID result
  | .userCenter _ nPlayerID _ => mgr.onUserCenter nPlayerID result nRand

end COnlineCountMgr

/-! ## The service and the global database -/

/-- A suspended handler and the session of its call. -/
structure SPendingLogin where
  nSessionID : ℕ
  login : SValidateLogin
  step : LoginStep
  deriving DecidableEq

/-- What the service does outside.  `assertFailed` is a request that gets no answer. -/
inductive DispatchOutput
  | playerTokenNotify (nGateID : UInt32) (notify : SPlayerTokenNotify)
  | validateLoginResponse (login : SValidateLogin) (message : SValidateLoginResponse)
  | assertFailed (login : SValidateLogin)
  deriving DecidableEq

/-- `CDispatchService`, with the global database: the statements it has not executed, and
its answers that have not arrived.  A call that failed may still be executed. -/
structure CDispatchService where
  nAccountTblCount : UInt32
  collate : Bytes → Bytes
  accountTbl : AccountTbl
  onlineCountMgr : COnlineCountMgr := {}
  listPending : List SPendingLogin := []
  listStatement : List (ℕ × AccountStatement) := []
  listAnswer : List (ℕ × CallResult) := []
  nNextSessionID : ℕ := 0
  nNextRequest : ℕ := 0
  outputs : List DispatchOutput := []

namespace CDispatchService

variable (dispatch : CDispatchService)

/-- The place of an account in the tables. -/
def accountKey (szAccountName : Bytes) (nServerID : UInt32) : AccountKey where
  nTblIndex := hash szAccountName % dispatch.nAccountTblCount
  szAccountName := szAccountName
  nServerID := nServerID

/-- The player that is stored for an account. -/
def storedPlayer (szAccountName : Bytes) (nServerID : UInt32) : Option UInt64 :=
  dispatch.accountTbl ((dispatch.accountKey szAccountName nServerID).row dispatch.collate)

/-- The statement of a call to the global database. -/
def statement (login : SValidateLogin) : LoginStep → Option AccountStatement
  | .select => some (.select (dispatch.accountKey login.szAccountName login.nServerID))
  | .insert _ nPlayerID =>
      some (.insert (dispatch.accountKey login.szAccountName login.nServerID) nPlayerID)
  | .createPlayer _ => none
  | .userCenter _ _ _ => none

/-- Something is done outside. -/
def output (out : DispatchOutput) : CDispatchService :=
  { dispatch with outputs := dispatch.outputs ++ [out] }

/-- A call is sent, and its handler is suspended. -/
def suspend (login : SValidateLogin) (step : LoginStep) : CDispatchService :=
  { dispatch with
    listPending := dispatch.listPending ++
      [{ nSessionID := dispatch.nNextSessionID, login, step }]
    listStatement := dispatch.listStatement ++
      ((dispatch.statement login step).map fun statement =>
        (dispatch.nNextSessionID, statement)).toList
    nNextSessionID := dispatch.nNextSessionID + 1 }

/-- The end of a handler. -/
def finish (login : SValidateLogin) : LoginProgress → CDispatchService
  | .call _ => dispatch
  | .response message => dispatch.output (.validateLoginResponse login message)
  | .login nGateID notify message =>
      (dispatch.output (.playerTokenNotify nGateID notify)).output
        (.validateLoginResponse login message)
  | .assertFailed => dispatch.output (.assertFailed login)

/-- A handler makes its next call or ends.  `sync_invoke` returns an error at once if the
call cannot be sent. -/
def go (login : SValidateLogin) (progress : LoginProgress) (bSend : Bool) : CDispatchService :=
  match progress with
  | .call step =>
      if bSend then dispatch.suspend login step
      else
        dispatch.finish login (dispatch.onlineCountMgr.resume step ⟨eRRT_ERROR, none⟩ 0)
  | progress => dispatch.finish login progress

/-- `l2d_validate_login_request_handler` up to its first call. -/
def validateLogin (sSessionInfo : SSessionInfo) (szAccountName : Bytes) (nServerID : UInt32)
    (bSend : Bool) : CDispatchService :=
  { dispatch with nNextRequest := dispatch.nNextRequest + 1 }.go
    { nRequest := dispatch.nNextRequest, sSessionInfo, szAccountName, nServerID }
    (.call .select) bSend

/-- The suspended handler of a session. -/
def findPending (nSessionID : ℕ) : Option SPendingLogin :=
  dispatch.listPending.find? fun pending => pending.nSessionID = nSessionID

/-- The answer to a call arrives, or the time is over. -/
def onResult (nSessionID : ℕ) (result : CallResult) (bSend : Bool) (nRand : UInt32) :
    CDispatchService :=
  match dispatch.findPending nSessionID with
  | none => dispatch
  | some pending =>
      { dispatch with
        listPending := dispatch.listPending.eraseP fun pending =>
          pending.nSessionID = nSessionID }.go pending.login
        (dispatch.onlineCountMgr.resume pending.step result nRand) bSend

/-- The global database executes the statement of a session. -/
def execute (nSessionID : ℕ) : CDispatchService :=
  match dispatch.listStatement.find? fun entry => entry.1 = nSessionID with
  | none => dispatch
  | some entry =>
      { dispatch with
        accountTbl := (entry.2.execute dispatch.collate dispatch.accountTbl).2
        listStatement := dispatch.listStatement.eraseP fun entry => entry.1 = nSessionID
        listAnswer := dispatch.listAnswer ++
          [(nSessionID, (entry.2.execute dispatch.collate dispatch.accountTbl).1)] }

/-- An answer of the global database arrives. -/
def answer (nSessionID : ℕ) (bSend : Bool) (nRand : UInt32) : CDispatchService :=
  match dispatch.listAnswer.find? fun entry => entry.1 = nSessionID with
  | none => dispatch
  | some entry => dispatch.onResult nSessionID entry.2 bSend nRand

/-- A handler waits for the global database. -/
def waitsForGlobalDb (nSessionID : ℕ) : Bool :=
  match dispatch.findPending nSessionID with
  | none => false
  | some pending => (dispatch.statement pending.login pending.step).isSome

/-- The events: a request arrives, the global database executes a statement or its answer
arrives, another call is answered, or a call fails.  `bSend` says whether the next call of
the handler can be sent. -/
inductive Event
  | validateLogin (sSessionInfo : SSessionInfo) (szAccountName : Bytes) (nServerID : UInt32)
      (bSend : Bool)
  | execute (nSessionID : ℕ)
  | answer (nSessionID : ℕ) (bSend : Bool) (nRand : UInt32)
  | respond (nSessionID : ℕ) (result : CallResult) (bSend : Bool) (nRand : UInt32)
  | gasOnlineCount (nGasID nCount : UInt32)
  | gateOnlineCount (nGateID nCount : UInt32)
  | gateAddr (nGateID : UInt32) (szAddr : Bytes)
  | ucActiveCount (nUCID nCount : UInt32)

/-- One event.  What a statement returns comes from the global database; a `respond` to a
handler that waits for it is a failure of the call. -/
def step : Event → CDispatchService
  | .validateLogin sSessionInfo szAccountName nServerID bSend =>
      dispatch.validateLogin sSessionInfo szAccountName nServerID bSend
  | .execute nSessionID => dispatch.execute nSessionID
  | .answer nSessionID bSend nRand => dispatch.answer nSessionID bSend nRand
  | .respond nSessionID result bSend nRand =>
      if dispatch.waitsForGlobalDb nSessionID ∧ result.nErrorCode = eRRT_OK then dispatch
      else dispatch.onResult nSessionID result bSend nRand
  | .gasOnlineCount nGasID nCount =>
      { dispatch with
        onlineCountMgr := { dispatch.onlineCountMgr with
          mapGasOnline := dispatch.onlineCountMgr.mapGasOnline.insert nGasID nCount } }
  | .gateOnlineCount nGateID nCount =>
      { dispatch with
        onlineCountMgr := { dispatch.onlineCountMgr with
          mapGateOnline := dispatch.onlineCountMgr.mapGateOnline.insert nGateID nCount } }
  | .gateAddr nGateID szAddr =>
      { dispatch with
        onlineCountMgr := { dispatch.onlineCountMgr with
          mapGateAddr := dispatch.onlineCountMgr.mapGateAddr.insert nGateID szAddr } }
  | .ucActiveCount nUCID nCount =>
      { dispatch with
        onlineCountMgr := { dispatch.onlineCountMgr with
          mapUCActive := dispatch.onlineCountMgr.mapUCActive.insert nUCID nCount } }

end CDispatchService

end RealtimeEx.Dispatch
