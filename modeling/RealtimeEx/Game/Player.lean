import Mathlib.Algebra.Order.Ring.Int
import Mathlib.Data.Finset.Basic
import RealtimeEx.Support.StdContainers

/-!
# The players of a game service

A player enters through a gate.  The game service creates it and loads its modules from
the database; `createPlayer` is suspended until the database has answered a last, empty
request.  Meanwhile other messages are handled: the player can be destroyed, and created
again under the same id.

The database service answers the requests for one player in their order, because they go
to one of its threads.  An answer can come too late.  The data of the modules is left out.
-/

namespace RealtimeEx.Game

/-! ## Players -/

/-- `EPlayerModuleType`. -/
inductive EPlayerModuleType
  | attribute
  | item
  | hero
  deriving DecidableEq

/-- The modules in the order of `m_zPlayerModule`. -/
def zPlayerModule : List EPlayerModuleType :=
  [.attribute, .item, .hero]

theorem mem_zPlayerModule (eModuleType : EPlayerModuleType) : eModuleType ∈ zPlayerModule := by
  cases eModuleType <;> decide

/-- `EPlayerStatusType`. -/
inductive EPlayerStatusType
  | none
  | init
  | loadData
  | login
  | normal
  | logout
  | destroy
  deriving DecidableEq

/-- `CPlayer`.  `nObject` tells the objects of one player apart, `nHeartbeat` counts the
heartbeat requests that wait for an answer, `bBackup` says whether `m_tickerBackup` is
registered.  The source does not store `setModuleLoadData`: the modules whose answer from
the database has come without an error. -/
structure CPlayer where
  nObject : ℕ
  nPlayerID : UInt64
  nGateServiceID : UInt32
  eStatus : EPlayerStatusType := .none
  setModuleLoadData : Finset EPlayerModuleType := ∅
  setModuleLoadDataError : Finset EPlayerModuleType := ∅
  nHeartbeat : ℕ := 0
  bBackup : Bool := false
  deriving DecidableEq

namespace CPlayer

variable (player : CPlayer)

/-- `hasModuleLoadDataError`. -/
def hasModuleLoadDataError : Bool :=
  player.setModuleLoadDataError ≠ ∅

/-- `setModuleLoadDataError`. -/
def addModuleLoadDataError (eModuleType : EPlayerModuleType) : CPlayer :=
  { player with
    setModuleLoadDataError := insert eModuleType player.setModuleLoadDataError }

/-- `eDBRC_EmptyRecordset`. -/
def eDBRC_EmptyRecordset : UInt32 := 10

/-- The callback of `onLoadData` of a module; `bMessage` says whether the answer has a
message of the module's table. -/
def onLoadData (eModuleType : EPlayerModuleType) (nErrorCode : UInt32) (bMessage : Bool) :
    CPlayer :=
  if nErrorCode ≠ eDBRC_EmptyRecordset ∧ bMessage = false then
    player.addModuleLoadDataError eModuleType
  else
    { player with setModuleLoadData := insert eModuleType player.setModuleLoadData }

/-- `getDbID`. -/
def getDbID : UInt32 :=
  (player.nPlayerID >>> 54).toUInt32

/-- `getUCServiceID`. -/
def getUCServiceID : UInt32 :=
  player.getDbID + 80000

end CPlayer

/-! ## The service -/

/-- `SSessionInfo`. -/
structure SSessionInfo where
  nFromServiceID : UInt32
  nSessionID : UInt64
  deriving DecidableEq

/-- The messages that a client gets when its player is ready. -/
inductive ClientMessage
  | playerModuleNotify (eModuleType : EPlayerModuleType)
  | playerLoginCompleteNotify
  deriving DecidableEq

/-- What the service does outside: the messages it sends, and the ends of objects.
`createPlayer` is what a call of `createPlayer` returns, after the object it created. -/
inductive GameOutput
  | playerEnterResponse (sSessionInfo : SSessionInfo) (nPlayerID : UInt64) (nResult : UInt32)
  | kickPlayerNotify (nGateServiceID : UInt32) (nPlayerID : UInt64)
  | playerHeartbeatRequest (nUCServiceID : UInt32) (nPlayerID : UInt64)
  | playerLeaveNotify (nUCServiceID : UInt32) (nPlayerID : UInt64)
  | clientMessage (nGateServiceID : UInt32) (nSessionID : UInt64) (message : ClientMessage)
  | update (player : CPlayer) (eModuleType : EPlayerModuleType)
  | createPlayer (nObject : ℕ) (pPlayer : Option CPlayer)
  | destroyPlayer (player : CPlayer) (szMsg : String)
  deriving DecidableEq

/-- What runs when the database service answers: the callback of a module of an object, or
the rest of the call of `createPlayer` that created the object. -/
inductive DbCallback
  | loadModule (nObject : ℕ) (eModuleType : EPlayerModuleType)
  | createPlayer (nObject : ℕ) (sSessionInfo : SSessionInfo)
  deriving DecidableEq

/-- A request that the database service has not answered.  Without a callback the answer
is ignored: the time is over, or the holder of the request was destroyed. -/
structure SDbRequest where
  nSessionID : ℕ
  nPlayerID : UInt64
  callback : Option DbCallback
  deriving DecidableEq

/-- `CGameService` with its `CPlayerMgr`. -/
structure CGameService where
  mapPlayer : StdMap UInt64 CPlayer := ∅
  listDbRequest : List SDbRequest := []
  nNextObject : ℕ := 0
  nNextSessionID : ℕ := 0
  outputs : List GameOutput := []
  bQuit : Bool := false

namespace CGameService

/-- `eRRT_OK`. -/
def eRRT_OK : UInt32 := 1

/-- `eRRT_TIME_OUT`. -/
def eRRT_TIME_OUT : UInt32 := 2

/-- `eRRT_ERROR`. -/
def eRRT_ERROR : UInt32 := 3

/-- `eEC_Sucess`. -/
def eEC_Sucess : UInt32 := 0

/-- `eEC_Login_CreatePlayerError`. -/
def eEC_Login_CreatePlayerError : UInt32 := 107

variable (game : CGameService)

/-- What `m_mapPlayer` has for a player. -/
def findPlayer (nPlayerID : UInt64) : Option CPlayer :=
  game.mapPlayer[nPlayerID]?

/-- `getPlayer`: only players who are ready. -/
def getPlayer (nPlayerID : UInt64) : Option CPlayer :=
  (game.findPlayer nPlayerID).filter fun player => player.eStatus = .normal

/-- Something is done outside. -/
def output (out : GameOutput) : CGameService :=
  { game with outputs := game.outputs ++ [out] }

/-- A player is stored. -/
def setPlayer (nPlayerID : UInt64) (player : CPlayer) : CGameService :=
  { game with mapPlayer := game.mapPlayer.insert nPlayerID player }

/-- Requests whose answers are ignored from now on. -/
def dropRequests (drop : SDbRequest → Bool) : CGameService :=
  { game with
    listDbRequest := game.listDbRequest.map fun request =>
      if drop request then { request with callback := none } else request }

/-- A request to the database service. -/
def addRequest (nPlayerID : UInt64) (callback : DbCallback) : CGameService :=
  { game with
    listDbRequest := game.listDbRequest ++
      [{ nSessionID := game.nNextSessionID, nPlayerID, callback := some callback }]
    nNextSessionID := game.nNextSessionID + 1 }

/-! ## A player -/

/-- The request of a module of an object. -/
def ofObject (nObject : ℕ) (request : SDbRequest) : Bool :=
  match request.callback with
  | some (.loadModule nObject' _) => nObject' = nObject
  | _ => false

/-- `destroyPlayer`.  The holders of the player go with it, that of `createPlayer` is the
manager's. -/
def destroyPlayer (nPlayerID : UInt64) (szMsg : String) : CGameService :=
  match game.findPlayer nPlayerID with
  | none => game
  | some player =>
      ({ game with mapPlayer := game.mapPlayer.erase nPlayerID }.dropRequests
        (ofObject player.nObject)).output (.destroyPlayer player szMsg)

/-- `onBackup`: every module sends an update. -/
def onBackup (player : CPlayer) : CGameService :=
  { game with outputs := game.outputs ++ zPlayerModule.map (.update player) }

/-- `onPlayerLogin`.  The player is in the status `login` while the messages are sent, so
that `sendClientMessage` does not refuse them. -/
def onPlayerLogin (nPlayerID : UInt64) (player : CPlayer) : CGameService :=
  { game.setPlayer nPlayerID { player with eStatus := .normal, bBackup := true } with
    outputs := game.outputs ++
      (zPlayerModule.map ClientMessage.playerModuleNotify ++
          [ClientMessage.playerLoginCompleteNotify]).map
        (.clientMessage player.nGateServiceID player.nPlayerID) }

/-- A player after `onPlayerLogout`. -/
def loggedOut (player : CPlayer) : CPlayer :=
  { player with eStatus := .logout, bBackup := false }

/-- `onPlayerLogout`. -/
def onPlayerLogout (nPlayerID : UInt64) (player : CPlayer) : CGameService :=
  (game.setPlayer nPlayerID (loggedOut player)).onBackup (loggedOut player)

/-- `onHeartbeat`; `bInvoke` says whether the user center can be asked. -/
def onHeartbeat (nPlayerID : UInt64) (bInvoke : Bool) : CGameService :=
  match game.findPlayer nPlayerID with
  | none => game
  | some player =>
      if bInvoke then
        (game.setPlayer nPlayerID { player with nHeartbeat := player.nHeartbeat + 1 }).output
          (.playerHeartbeatRequest player.getUCServiceID player.nPlayerID)
      else
        game.destroyPlayer nPlayerID "heartbeat timeout"

/-- The callback of `onHeartbeat`. -/
def onHeartbeatResponse (nPlayerID : UInt64) (nErrorType : UInt32) : CGameService :=
  match game.findPlayer nPlayerID with
  | none => game
  | some player =>
      if player.nHeartbeat = 0 then
        game
      else if nErrorType = eRRT_OK then
        game.setPlayer nPlayerID { player with nHeartbeat := player.nHeartbeat - 1 }
      else
        game.destroyPlayer nPlayerID "heartbeat timeout"

/-! ## `createPlayer` -/

/-- What can be asked when a player is created: the user center, the database service for
each module, and for the last, empty request. -/
structure Invokes where
  bHeartbeat : Bool := true
  bLoadData : EPlayerModuleType → Bool := fun _ => true
  bNop : Bool := true

/-- `onLoadData` of a module of a new player; what cannot be asked is an error at once. -/
def loadModule (nPlayerID : UInt64) (nObject : ℕ) (bInvoke : Bool)
    (eModuleType : EPlayerModuleType) : CGameService :=
  if bInvoke then
    game.addRequest nPlayerID (.loadModule nObject eModuleType)
  else
    match game.findPlayer nPlayerID with
    | none => game
    | some player =>
        game.setPlayer nPlayerID (player.onLoadData eModuleType eRRT_ERROR false)

/-- `createPlayer` before it is suspended, for a player that is not in the manager: a new
object after `onInit`, and `onLoadData`.  A heartbeat that fails at once finds no player
in the manager. -/
def beginCreatePlayer (nPlayerID : UInt64) (nGateServiceID : UInt32) (invokes : Invokes) :
    CGameService :=
  let nObject := game.nNextObject
  let player : CPlayer :=
    { nObject, nPlayerID, nGateServiceID, eStatus := .init
      nHeartbeat := if invokes.bHeartbeat then 1 else 0 }
  let game := { game with nNextObject := nObject + 1 }
  let game := if invokes.bHeartbeat then
      game.output (.playerHeartbeatRequest player.getUCServiceID nPlayerID)
    else
      game
  zPlayerModule.foldl
    (fun game eModuleType =>
      game.loadModule nPlayerID nObject (invokes.bLoadData eModuleType) eModuleType)
    (game.setPlayer nPlayerID { player with eStatus := .loadData })

/-- The player that `createPlayer` returns at last: the one that the manager has then. -/
def createdPlayer (nPlayerID : UInt64) (nErrorCode : UInt32) : Option CPlayer :=
  (game.findPlayer nPlayerID).filter fun player =>
    nErrorCode = eRRT_OK ∧ player.hasModuleLoadDataError = false

/-- `createPlayer` after its last request was answered. -/
def endCreatePlayer (nPlayerID : UInt64) (nErrorCode : UInt32) : CGameService :=
  match game.findPlayer nPlayerID with
  | none => game
  | some player =>
      if nErrorCode ≠ eRRT_OK then
        game.destroyPlayer nPlayerID "nop error"
      else if player.hasModuleLoadDataError then
        game.destroyPlayer nPlayerID "load player data error"
      else
        game

/-- The rest of `g2s_player_enter_request_handler` from there. -/
def onCreatePlayer (nPlayerID : UInt64) (nObject : ℕ) (sSessionInfo : SSessionInfo)
    (nErrorCode : UInt32) : CGameService :=
  let pPlayer := game.createdPlayer nPlayerID nErrorCode
  let game := (game.endCreatePlayer nPlayerID nErrorCode).output (.createPlayer nObject pPlayer)
  match pPlayer with
  | none =>
      game.output (.playerEnterResponse sSessionInfo nPlayerID eEC_Login_CreatePlayerError)
  | some player =>
      (game.output (.playerEnterResponse sSessionInfo nPlayerID eEC_Sucess)).onPlayerLogin
        nPlayerID player

/-! ## Handlers -/

/-- `g2s_player_enter_request_handler`. -/
def playerEnterRequest (sSessionInfo : SSessionInfo) (nPlayerID : UInt64) (invokes : Invokes) :
    CGameService :=
  match game.getPlayer nPlayerID with
  | none =>
      if (game.findPlayer nPlayerID).isSome then
        game.output (.playerEnterResponse sSessionInfo nPlayerID eEC_Login_CreatePlayerError)
      else
        let nObject := game.nNextObject
        let game := game.beginCreatePlayer nPlayerID sSessionInfo.nFromServiceID invokes
        if invokes.bNop then
          game.addRequest nPlayerID (.createPlayer nObject sSessionInfo)
        else
          game.onCreatePlayer nPlayerID nObject sSessionInfo eRRT_ERROR
  | some player =>
      let game := game.onPlayerLogout nPlayerID player
      let game := if player.nGateServiceID ≠ sSessionInfo.nFromServiceID then
          game.output (.kickPlayerNotify player.nGateServiceID nPlayerID)
        else
          game
      (game.output (.playerEnterResponse sSessionInfo nPlayerID eEC_Sucess)).onPlayerLogin
        nPlayerID { loggedOut player with nGateServiceID := sSessionInfo.nFromServiceID }

/-- A player who is ready is logged out, and somebody is told. -/
def logoutReady (nPlayerID : UInt64) (notify : CPlayer → GameOutput) : CGameService :=
  match game.getPlayer nPlayerID with
  | none => game
  | some player => (game.onPlayerLogout nPlayerID player).output (notify player)

/-- `g2s_player_leave_notify_handler`. -/
def playerLeaveNotify (nPlayerID : UInt64) : CGameService :=
  (game.logoutReady nPlayerID fun player =>
    .playerLeaveNotify player.getUCServiceID nPlayerID).destroyPlayer
      nPlayerID "gate notify leave"

/-- `u2s_kick_player_notify_handler`. -/
def kickPlayerNotify (nPlayerID : UInt64) : CGameService :=
  (game.logoutReady nPlayerID fun player =>
    .kickPlayerNotify player.nGateServiceID nPlayerID).destroyPlayer nPlayerID "uc kick"

/-- `g2s_player_heartbeat_notify_handler`. -/
def playerHeartbeatNotify (nFromServiceID : UInt32) (nPlayerID : UInt64) : CGameService :=
  match game.getPlayer nPlayerID with
  | none => game.output (.kickPlayerNotify nFromServiceID nPlayerID)
  | some player =>
      if player.nGateServiceID ≠ nFromServiceID then
        game.output (.kickPlayerNotify nFromServiceID nPlayerID)
      else
        game

/-- The players of a gate, in the order of `m_mapPlayer`. -/
def playersOfGate (nGateServiceID : UInt32) : List CPlayer :=
  (game.mapPlayer.toList.map Prod.snd).filter fun player =>
    player.nGateServiceID = nGateServiceID

/-- The first loop of `onGateDisconnect`, for one player. -/
def gateLogout (player : CPlayer) : CGameService :=
  (game.onPlayerLogout player.nPlayerID player).output
    (.playerLeaveNotify player.getUCServiceID player.nPlayerID)

/-- `onGateDisconnect`. -/
def onGateDisconnect (nGateServiceID : UInt32) : CGameService :=
  (game.playersOfGate nGateServiceID).foldl
    (fun game player => game.destroyPlayer player.nPlayerID "gate disconnect")
    ((game.playersOfGate nGateServiceID).foldl gateLogout game)

/-- `onBackup` of `m_tickerBackup`, when it is registered. -/
def onBackupTicker (nPlayerID : UInt64) : CGameService :=
  match game.findPlayer nPlayerID with
  | none => game
  | some player => if player.bBackup then game.onBackup player else game

/-- The callback of a request. -/
def runCallback (nPlayerID : UInt64) (nErrorCode : UInt32) (bMessage : Bool) :
    Option DbCallback → CGameService
  | none => game
  | some (.loadModule nObject eModuleType) =>
      match game.findPlayer nPlayerID with
      | none => game
      | some player =>
          if player.nObject = nObject then
            game.setPlayer nPlayerID (player.onLoadData eModuleType nErrorCode bMessage)
          else
            game
  | some (.createPlayer nObject sSessionInfo) =>
      game.onCreatePlayer nPlayerID nObject sSessionInfo nErrorCode

/-- The first request for a player that the database service has not answered. -/
def firstRequest (nPlayerID : UInt64) : Option SDbRequest :=
  game.listDbRequest.find? fun request => request.nPlayerID = nPlayerID

/-- The database service answers the first request for a player. -/
def onDbResponse (nPlayerID : UInt64) (nErrorCode : UInt32) (bMessage : Bool) : CGameService :=
  match game.firstRequest nPlayerID with
  | none => game
  | some request =>
      { game with listDbRequest := game.listDbRequest.erase request }.runCallback
        request.nPlayerID nErrorCode bMessage request.callback

/-- The request of a session. -/
def requestOfSession (nSessionID : ℕ) : Option SDbRequest :=
  game.listDbRequest.find? fun request => request.nSessionID = nSessionID

/-- The time of a request is over. -/
def onDbTimeout (nSessionID : ℕ) : CGameService :=
  match game.requestOfSession nSessionID with
  | none => game
  | some request =>
      (game.dropRequests fun other => other = request).runCallback
        request.nPlayerID eRRT_TIME_OUT false request.callback

/-- `onQuit`; the service is released with its manager, whose players nobody destroys. -/
def onQuit : CGameService :=
  { game with mapPlayer := ∅, listDbRequest := [], bQuit := true }

/-! ## Histories -/

/-- What happens at the service. -/
inductive Event
  | playerEnterRequest (sSessionInfo : SSessionInfo) (nPlayerID : UInt64) (invokes : Invokes)
  | playerLeaveNotify (nFromServiceID : UInt32) (nPlayerID : UInt64)
  | playerHeartbeatNotify (nFromServiceID : UInt32) (nPlayerID : UInt64)
  | kickPlayerNotify (nPlayerID : UInt64)
  | gateDisconnect (nGateServiceID : UInt32)
  | heartbeat (nPlayerID : UInt64) (bInvoke : Bool)
  | heartbeatResponse (nPlayerID : UInt64) (nErrorType : UInt32)
  | backup (nPlayerID : UInt64)
  | dbResponse (nPlayerID : UInt64) (nErrorCode : UInt32) (bMessage : Bool)
  | dbTimeout (nSessionID : ℕ)
  | quit

/-- The service that runs handles an event. -/
def handle (game : CGameService) : Event → CGameService
  | .playerEnterRequest sSessionInfo nPlayerID invokes =>
      game.playerEnterRequest sSessionInfo nPlayerID invokes
  | .playerLeaveNotify _ nPlayerID => game.playerLeaveNotify nPlayerID
  | .playerHeartbeatNotify nFromServiceID nPlayerID =>
      game.playerHeartbeatNotify nFromServiceID nPlayerID
  | .kickPlayerNotify nPlayerID => game.kickPlayerNotify nPlayerID
  | .gateDisconnect nGateServiceID => game.onGateDisconnect nGateServiceID
  | .heartbeat nPlayerID bInvoke => game.onHeartbeat nPlayerID bInvoke
  | .heartbeatResponse nPlayerID nErrorType => game.onHeartbeatResponse nPlayerID nErrorType
  | .backup nPlayerID => game.onBackupTicker nPlayerID
  | .dbResponse nPlayerID nErrorCode bMessage =>
      game.onDbResponse nPlayerID nErrorCode bMessage
  | .dbTimeout nSessionID => game.onDbTimeout nSessionID
  | .quit => game.onQuit

/-- The service after an event. -/
def step (game : CGameService) (e : Event) : CGameService :=
  if game.bQuit then game else game.handle e

/-! ## Players after an operation -/

variable {game : CGameService} {nPlayerID n : UInt64} {player p : CPlayer}

theorem getPlayer_eq_some_iff :
    game.getPlayer n = some p ↔ game.findPlayer n = some p ∧ p.eStatus = .normal := by
  rw [getPlayer, Option.filter_eq_some_iff, decide_eq_true_iff]

@[simp] theorem findPlayer_output (out : GameOutput) :
    (game.output out).findPlayer n = game.findPlayer n := rfl

@[simp] theorem findPlayer_onBackup : (game.onBackup p).findPlayer n = game.findPlayer n := rfl

@[simp] theorem findPlayer_dropRequests (drop : SDbRequest → Bool) :
    (game.dropRequests drop).findPlayer n = game.findPlayer n := rfl

@[simp] theorem findPlayer_addRequest (callback : DbCallback) :
    (game.addRequest nPlayerID callback).findPlayer n = game.findPlayer n := rfl

@[simp] theorem findPlayer_setPlayer :
    (game.setPlayer nPlayerID p).findPlayer n =
      if nPlayerID = n then some p else game.findPlayer n :=
  StdMap.getElem?_insert

theorem destroyPlayer_of_none (h : game.findPlayer nPlayerID = none) (szMsg : String) :
    game.destroyPlayer nPlayerID szMsg = game := by
  rw [destroyPlayer, h]

theorem destroyPlayer_of_some (h : game.findPlayer nPlayerID = some p) (szMsg : String) :
    game.destroyPlayer nPlayerID szMsg =
      ({ game with mapPlayer := game.mapPlayer.erase nPlayerID }.dropRequests
        (ofObject p.nObject)).output (.destroyPlayer p szMsg) := by
  rw [destroyPlayer, h]

@[simp] theorem findPlayer_destroyPlayer (szMsg : String) :
    (game.destroyPlayer nPlayerID szMsg).findPlayer n =
      if nPlayerID = n then none else game.findPlayer n := by
  cases h : game.findPlayer nPlayerID with
  | none =>
      rw [destroyPlayer_of_none h]
      split
      · rename_i hn
        rw [← hn, h]
      · rfl
  | some player =>
      rw [destroyPlayer_of_some h]
      exact StdMap.getElem?_erase

theorem findPlayer_onPlayerLogin :
    (game.onPlayerLogin nPlayerID p).findPlayer n =
      if nPlayerID = n then some { p with eStatus := .normal, bBackup := true }
      else game.findPlayer n :=
  StdMap.getElem?_insert

theorem findPlayer_onPlayerLogout :
    (game.onPlayerLogout nPlayerID p).findPlayer n =
      if nPlayerID = n then some (loggedOut p) else game.findPlayer n :=
  StdMap.getElem?_insert

end CGameService

end RealtimeEx.Game
