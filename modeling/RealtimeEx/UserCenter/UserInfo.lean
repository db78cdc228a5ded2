import Mathlib.Algebra.Order.Ring.Int
import RealtimeEx.Support.StdContainers

/-!
# The user center

The user center knows for every player the game service that has the player.  The
dispatcher asks for a place when a player logs in, the game service sends heartbeats while
it has the player and a notice when the player leaves.  The count of users that the
service reports to the dispatcher is left out.
-/

namespace RealtimeEx.UserCenter

/-! ## Users -/

/-- `CUserInfo`; `bTimeout` says whether `m_tickerTimeout` is registered. -/
structure CUserInfo where
  nPlayerID : UInt64
  nGasID : UInt32
  bTimeout : Bool := false
  deriving DecidableEq

namespace CUserInfo

variable (user : CUserInfo)

/-- `setGasID`. -/
def setGasID (nGasID : UInt32) : CUserInfo :=
  { user with nGasID }

/-- `onHeartbeat`: the ticker is unregistered. -/
def onHeartbeat : CUserInfo :=
  { user with bTimeout := false }

/-- `startTimout`: the ticker is registered anew. -/
def startTimout : CUserInfo :=
  { user with bTimeout := true }

end CUserInfo

/-- What the service sends. -/
inductive UCOutput
  | loginResponse (nServiceID : UInt32) (nPlayerID : UInt64) (nGasID : UInt32)
  | heartbeatResponse (nServiceID : UInt32)
  | kickPlayerNotify (nServiceID : UInt32) (nPlayerID : UInt64)
  deriving DecidableEq

/-- `CUCService` with its `CUserInfoMgr`. -/
structure CUCService where
  mapUserInfo : StdMap UInt64 CUserInfo := ∅
  outputs : List UCOutput := []

namespace CUCService

variable (uc : CUCService)

/-- `getUserInfo`. -/
def getUserInfo (nPlayerID : UInt64) : Option CUserInfo :=
  uc.mapUserInfo[nPlayerID]?

/-- The user of a player is stored. -/
def setUserInfo (nPlayerID : UInt64) (user : CUserInfo) : CUCService :=
  { uc with mapUserInfo := uc.mapUserInfo.insert nPlayerID user }

/-- `destroyUserInfo`. -/
def destroyUserInfo (nPlayerID : UInt64) : CUCService :=
  { uc with mapUserInfo := uc.mapUserInfo.erase nPlayerID }

/-- Something is sent. -/
def output (out : UCOutput) : CUCService :=
  { uc with outputs := uc.outputs ++ [out] }

/-! ## Handlers -/

/-- The user that a login request finds or creates, with a place for the player. -/
def loginUser (nPlayerID : UInt64) (nGasID : UInt32) : CUserInfo :=
  match uc.getUserInfo nPlayerID with
  | none => { nPlayerID, nGasID : CUserInfo }.startTimout
  | some user => if user.nGasID = 0 then (user.setGasID nGasID).startTimout else user

/-- `d2u_player_login_request_handler`. -/
def playerLoginRequest (nFromServiceID : UInt32) (nPlayerID : UInt64) (nGasID : UInt32) :
    CUCService :=
  let user := uc.loginUser nPlayerID nGasID
  (uc.setUserInfo nPlayerID user).output
    (.loginResponse nFromServiceID user.nPlayerID user.nGasID)

/-- `s2u_player_heartbeat_request_handler`. -/
def playerHeartbeatRequest (nFromServiceID : UInt32) (nPlayerID : UInt64) : CUCService :=
  let uc := uc.output (.heartbeatResponse nFromServiceID)
  match uc.getUserInfo nPlayerID with
  | none => uc.output (.kickPlayerNotify nFromServiceID nPlayerID)
  | some user =>
      if user.nGasID ≠ nFromServiceID then
        (uc.setUserInfo nPlayerID (user.setGasID 0)).output
          (.kickPlayerNotify nFromServiceID nPlayerID)
      else
        uc.setUserInfo nPlayerID user.onHeartbeat

/-- `s2u_player_leave_notify_handler`. -/
def playerLeaveNotify (nPlayerID : UInt64) : CUCService :=
  match uc.getUserInfo nPlayerID with
  | none => uc
  | some user => uc.setUserInfo nPlayerID (user.setGasID 0)

/-- `onTimeout` of the ticker of a user, when it is registered. -/
def onTimeout (nPlayerID : UInt64) : CUCService :=
  match uc.getUserInfo nPlayerID with
  | none => uc
  | some user => if user.bTimeout then uc.destroyUserInfo nPlayerID else uc

/-! ## Histories -/

/-- What happens at the user center.  It has no callback for a game service that
disconnects. -/
inductive Event
  | playerLoginRequest (nFromServiceID : UInt32) (nPlayerID : UInt64) (nGasID : UInt32)
  | playerHeartbeatRequest (nFromServiceID : UInt32) (nPlayerID : UInt64)
  | playerLeaveNotify (nFromServiceID : UInt32) (nPlayerID : UInt64)
  | timeout (nPlayerID : UInt64)
  | serviceDisconnect (nServiceID : UInt32)

/-- The user center after an event. -/
def step (uc : CUCService) : Event → CUCService
  | .playerLoginRequest nFromServiceID nPlayerID nGasID =>
      uc.playerLoginRequest nFromServiceID nPlayerID nGasID
  | .playerHeartbeatRequest nFromServiceID nPlayerID =>
      uc.playerHeartbeatRequest nFromServiceID nPlayerID
  | .playerLeaveNotify _ nPlayerID => uc.playerLeaveNotify nPlayerID
  | .timeout nPlayerID => uc.onTimeout nPlayerID
  | .serviceDisconnect _ => uc

/-! ## Users after an event -/

variable {uc} {nPlayerID n : UInt64}

@[simp] theorem getUserInfo_output (out : UCOutput) :
    (uc.output out).getUserInfo n = uc.getUserInfo n := rfl

@[simp] theorem getUserInfo_setUserInfo (user : CUserInfo) :
    (uc.setUserInfo nPlayerID user).getUserInfo n =
      if nPlayerID = n then some user else uc.getUserInfo n :=
  StdMap.getElem?_insert

@[simp] theorem getUserInfo_destroyUserInfo :
    (uc.destroyUserInfo nPlayerID).getUserInfo n =
      if nPlayerID = n then none else uc.getUserInfo n :=
  StdMap.getElem?_erase

theorem getUserInfo_playerLoginRequest (nFromServiceID nGasID : UInt32) :
    (uc.playerLoginRequest nFromServiceID nPlayerID nGasID).getUserInfo n =
      if nPlayerID = n then some (uc.loginUser nPlayerID nGasID) else uc.getUserInfo n := by
  rw [playerLoginRequest, getUserInfo_output, getUserInfo_setUserInfo]

/-- A heartbeat of the game service of the player unregisters the ticker, one of another
service takes the place away. -/
theorem getUserInfo_playerHeartbeatRequest (nFromServiceID : UInt32) :
    (uc.playerHeartbeatRequest nFromServiceID nPlayerID).getUserInfo n =
      if nPlayerID = n then
        (uc.getUserInfo n).map fun user =>
          if user.nGasID ≠ nFromServiceID then user.setGasID 0 else user.onHeartbeat
      else
        uc.getUserInfo n := by
  rw [playerHeartbeatRequest]
  cases hsome : uc.getUserInfo nPlayerID with
  | none =>
      simp only [getUserInfo_output, hsome]
      split
      · rename_i hn
        rw [← hn, hsome]
        rfl
      · rfl
  | some user =>
      simp only [getUserInfo_output, hsome]
      by_cases hn : nPlayerID = n
      · subst hn
        rw [if_pos rfl, hsome, Option.map_some]
        split
        · rw [getUserInfo_output, getUserInfo_setUserInfo, if_pos rfl]
        · rw [getUserInfo_setUserInfo, if_pos rfl]
      · rw [if_neg hn]
        split
        · rw [getUserInfo_output, getUserInfo_setUserInfo, if_neg hn, getUserInfo_output]
        · rw [getUserInfo_setUserInfo, if_neg hn, getUserInfo_output]

theorem getUserInfo_playerLeaveNotify :
    (uc.playerLeaveNotify nPlayerID).getUserInfo n =
      if nPlayerID = n then (uc.getUserInfo n).map fun user => user.setGasID 0
      else uc.getUserInfo n := by
  rw [playerLeaveNotify]
  split
  · rename_i hnone
    split
    · rename_i hn
      rw [← hn, hnone]
      rfl
    · rfl
  · rename_i user hsome
    rw [getUserInfo_setUserInfo]
    split
    · rename_i hn
      rw [← hn, hsome]
      rfl
    · rfl

theorem getUserInfo_onTimeout :
    (uc.onTimeout nPlayerID).getUserInfo n =
      if nPlayerID = n then (uc.getUserInfo n).filter fun user => !user.bTimeout
      else uc.getUserInfo n := by
  rw [onTimeout]
  split
  · rename_i hnone
    split
    · rename_i hn
      rw [← hn, hnone]
      rfl
    · rfl
  · rename_i user hsome
    split
    · rename_i htimeout
      rw [getUserInfo_destroyUserInfo]
      split
      · rename_i hn
        rw [← hn, hsome, Option.filter_some, htimeout]
        rfl
      · rfl
    · rename_i htimeout
      split
      · rename_i hn
        rw [Bool.not_eq_true] at htimeout
        rw [← hn, hsome, Option.filter_some, htimeout]
        rfl
      · rfl

end CUCService

end RealtimeEx.UserCenter
