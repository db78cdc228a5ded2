import RealtimeEx.Base.TokenParser
import RealtimeEx.Gate.GateClientMessageDispatcher

/-!
# How a player logs in at a gate

A session is created by whichever comes first, the handshake of the client or the
token that the dispatch service sends.  When both have come, the gate asks the game
service of the player; the handler is suspended until the answer.  Meanwhile other
messages are handled.

The model has everything of the sessions but their ids, which only the log shows, and
their heartbeats.
-/

namespace RealtimeEx.Gate.Login

open Base

/-! ## Sessions -/

/-- `eCSS_None`. -/
def eCSS_None : UInt32 := 0

/-- `eCSS_ClientEnter`. -/
def eCSS_ClientEnter : UInt32 := 2

/-- `eCSS_TokenEnter`. -/
def eCSS_TokenEnter : UInt32 := 4

/-- `eEC_Sucess`. -/
def eEC_Sucess : UInt32 := 0

/-- `eEC_Login_InvokeGasError`. -/
def eEC_Login_InvokeGasError : UInt32 := 106

/-- `CGateClientSession`.  `bTokenTimeout` says whether the ticker of the token is
registered, and `nEnterGas` counts the runs of `enterGas` that wait for the game
service; they end with the session, which holds their invocations.  `szClientToken` is
the token that the client of the bound socket sent; the source does not store it. -/
structure CGateClientSession where
  nSocketID : UInt64 := 0
  szToken : StdString
  nGasID : UInt32 := 0
  nPlayerID : UInt64
  nState : UInt32 := eCSS_None
  bKick : Bool := false
  bTokenTimeout : Bool := true
  nEnterGas : ℕ := 0
  szClientToken : Option StdString := none
  deriving DecidableEq

/-- A flag of the state. -/
def CGateClientSession.hasState (session : CGateClientSession) (nFlag : UInt32) : Bool :=
  session.nState &&& nFlag ≠ 0

/-- `CGateClientSessionMgr`. -/
structure CGateClientSessionMgr where
  mapClientSessionByPlayerID : StdMap UInt64 CGateClientSession := ∅
  mapPlayerIDBySocketID : StdMap UInt64 UInt64 := ∅

namespace CGateClientSessionMgr

variable (mgr : CGateClientSessionMgr)

/-- `getSessionByPlayerID`. -/
def getSessionByPlayerID (nPlayerID : UInt64) : Option CGateClientSession :=
  mgr.mapClientSessionByPlayerID[nPlayerID]?

/-- `getSessionBySocketID`. -/
def getSessionBySocketID (nSocketID : UInt64) : Option CGateClientSession :=
  match mgr.mapPlayerIDBySocketID[nSocketID]? with
  | none => none
  | some nPlayerID => mgr.getSessionByPlayerID nPlayerID

/-- A session of the table is changed. -/
def modifySession (nPlayerID : UInt64) (f : CGateClientSession → CGateClientSession) :
    CGateClientSessionMgr :=
  match mgr.getSessionByPlayerID nPlayerID with
  | none => mgr
  | some session =>
      { mgr with
        mapClientSessionByPlayerID :=
          mgr.mapClientSessionByPlayerID.insert nPlayerID (f session) }

/-- `createSession` of a player without a session, with `init`. -/
def createSession (nPlayerID : UInt64) (szToken : StdString) : CGateClientSessionMgr :=
  { mgr with
    mapClientSessionByPlayerID :=
      mgr.mapClientSessionByPlayerID.insert nPlayerID { nPlayerID, szToken } }

/-- `bindSocketID`. -/
def bindSocketID (nPlayerID nSocketID : UInt64) : CGateClientSessionMgr :=
  match mgr.getSessionByPlayerID nPlayerID with
  | none => mgr
  | some session =>
      { mgr with
        mapPlayerIDBySocketID := mgr.mapPlayerIDBySocketID.insert nSocketID nPlayerID
        mapClientSessionByPlayerID :=
          mgr.mapClientSessionByPlayerID.insert nPlayerID { session with nSocketID } }

/-- `unbindSocketID`. -/
def unbindSocketID (nPlayerID : UInt64) : CGateClientSessionMgr :=
  match mgr.getSessionByPlayerID nPlayerID with
  | none => mgr
  | some session =>
      { mgr with
        mapPlayerIDBySocketID := mgr.mapPlayerIDBySocketID.erase session.nSocketID
        mapClientSessionByPlayerID :=
          mgr.mapClientSessionByPlayerID.insert nPlayerID { session with nSocketID := 0 } }

/-- What the message dispatcher sees of the manager. -/
def toDispatcher : Gate.CGateClientSessionMgr where
  mapClientSessionByPlayerID := mgr.mapClientSessionByPlayerID.map fun _ session =>
    { nPlayerID := session.nPlayerID, nGasID := session.nGasID, nState := session.nState }
  mapPlayerIDBySocketID := mgr.mapPlayerIDBySocketID

end CGateClientSessionMgr

/-! ## The gate -/

/-- What the gate sends. -/
inductive GateOutput
  | shutdown (nSocketID : UInt64) (bForce : Bool) (szMsg : String)
  | handshakeResponse (nSocketID nPlayerID : UInt64) (nResult : UInt32)
  | playerEnterRequest (nGasID : UInt32) (nPlayerID : UInt64)
  | playerLeaveNotify (nGasID : UInt32) (nPlayerID : UInt64)

/-- A run of `enterGas`: the token of the client, and the token that was last dispatched
for the player. -/
structure EnterGas where
  nPlayerID : UInt64
  szClientToken : Option StdString
  szDispatchedToken : Option StdString

/-- `CGateService`.  `mapBaseConnectionByID` are the client connections, with their
`m_bClosing`.  The last two fields are for statements about runs: the tokens that were
last dispatched, and the runs of `enterGas` so far. -/
structure CGateService where
  mapBaseConnectionByID : StdMap UInt64 Bool := ∅
  sessionMgr : CGateClientSessionMgr := {}
  outputs : List GateOutput := []
  mapDispatchedToken : StdMap UInt64 StdString := ∅
  enterGasLog : List EnterGas := []

namespace CGateService

variable (gate : CGateService)

/-- `shutdown` of a connection, if it is there; a connection that is closing ignores
it. -/
def shutdown (nSocketID : UInt64) (bForce : Bool) (szMsg : String) : CGateService :=
  match gate.mapBaseConnectionByID[nSocketID]? with
  | some false =>
      { gate with
        mapBaseConnectionByID := gate.mapBaseConnectionByID.insert nSocketID true
        outputs := gate.outputs ++ [.shutdown nSocketID bForce szMsg] }
  | _ => gate

/-- Something is sent. -/
def output (out : GateOutput) : CGateService :=
  { gate with outputs := gate.outputs ++ [out] }

/-- A session is changed. -/
def modifySession (nPlayerID : UInt64) (f : CGateClientSession → CGateClientSession) :
    CGateService :=
  { gate with sessionMgr := gate.sessionMgr.modifySession nPlayerID f }

/-- `bindSocketID`. -/
def bindSocketID (nPlayerID nSocketID : UInt64) : CGateService :=
  { gate with sessionMgr := gate.sessionMgr.bindSocketID nPlayerID nSocketID }

/-- `unbindSocketID`. -/
def unbindSocketID (nPlayerID : UInt64) : CGateService :=
  { gate with sessionMgr := gate.sessionMgr.unbindSocketID nPlayerID }

/-- `destroySession`.  A player that the game service kicked is not reported to it. -/
def destroySession (nPlayerID : UInt64) : CGateService :=
  match gate.sessionMgr.getSessionByPlayerID nPlayerID with
  | none => gate
  | some session =>
      let gate := { gate with
        sessionMgr :=
          { mapClientSessionByPlayerID :=
              gate.sessionMgr.mapClientSessionByPlayerID.erase nPlayerID
            mapPlayerIDBySocketID :=
              gate.sessionMgr.mapPlayerIDBySocketID.erase session.nSocketID } }
      let gate := if session.nSocketID ≠ 0 then
          gate.shutdown session.nSocketID true "kick"
        else
          gate
      if session.bKick then
        gate
      else
        gate.output (.playerLeaveNotify session.nGasID nPlayerID)

/-- `onGasDisconnect`. -/
def onGasDisconnect (nGasID : UInt32) : CGateService :=
  ((gate.sessionMgr.mapClientSessionByPlayerID.toList.filter
      fun e => e.2.nGasID = nGasID).map fun e => e.2.nPlayerID).foldl destroySession gate

/-! ## Logging in at the game service -/

/-- The end of `enterGas` when the game service cannot be asked or does not answer. -/
def enterGasError (session : CGateClientSession) : CGateService :=
  if gate.mapBaseConnectionByID.contains session.nSocketID then
    (gate.output (.handshakeResponse session.nSocketID session.nPlayerID
      eEC_Login_InvokeGasError)).destroySession session.nPlayerID
  else
    gate

/-- `enterGas` up to the answer of the game service.  `bInvoke` says whether the request
could be sent. -/
def enterGas (nPlayerID : UInt64) (bInvoke : Bool) : CGateService :=
  match gate.sessionMgr.getSessionByPlayerID nPlayerID with
  | none => gate
  | some session =>
      if session.nState ≠ eCSS_ClientEnter ||| eCSS_TokenEnter then
        gate
      else
        let gate : CGateService := { gate with
          enterGasLog := gate.enterGasLog ++
            [{ nPlayerID
               szClientToken := session.szClientToken
               szDispatchedToken := gate.mapDispatchedToken[nPlayerID]? }] }
        let gate := gate.modifySession nPlayerID fun session =>
          { session with bTokenTimeout := false }
        if bInvoke then
          (gate.modifySession nPlayerID fun session =>
            { session with nEnterGas := session.nEnterGas + 1 }).output
              (.playerEnterRequest session.nGasID nPlayerID)
        else
          gate.enterGasError session

/-- What a suspended `enterGas` is resumed with: an error or no message, or the result
of the game service. -/
inductive EnterResponse
  | invokeError
  | noMessage
  | result (nResult : UInt32)

/-- `enterGas` from the answer of the game service on. -/
def onEnterResponse (nPlayerID : UInt64) (response : EnterResponse) : CGateService :=
  match gate.sessionMgr.getSessionByPlayerID nPlayerID with
  | none => gate
  | some session =>
      if session.nEnterGas = 0 then
        gate
      else
        let gate := gate.modifySession nPlayerID fun session =>
          { session with nEnterGas := session.nEnterGas - 1 }
        match response with
        | .invokeError => gate.enterGasError session
        | .noMessage => gate.enterGasError session
        | .result nResult =>
            if !gate.mapBaseConnectionByID.contains session.nSocketID then
              gate
            else if nResult ≠ eEC_Sucess then
              (gate.output (.handshakeResponse session.nSocketID nPlayerID nResult)).shutdown
                session.nSocketID false "player enter gas error"
            else
              (gate.modifySession nPlayerID fun session =>
                { session with nState := eCSS_Normal }).output
                  (.handshakeResponse session.nSocketID nPlayerID nResult)

/-! ## Handlers -/

/-- The key of a handshake: the player and the token. -/
def parseKey (szKey : StdString) : Option (UInt64 × StdString) :=
  let sTokenParser := CTokenParser.parse szKey 124
  if sTokenParser.getElementCount ≠ 2 then
    none
  else
    match sTokenParser.getUint64Element 0, sTokenParser.getStringElement 1 256 with
    | some nPlayerID, some szToken => some (nPlayerID, szToken)
    | _, _ => none

/-- The client of a connection sends its token and takes the session over. -/
def enterClient (nPlayerID nSocketID : UInt64) (szToken : StdString) (nState : UInt32) :
    CGateService :=
  (gate.bindSocketID nPlayerID nSocketID).modifySession nPlayerID fun session =>
    { session with nState, szClientToken := some szToken }

/-- `handshake` of a connection. -/
def handshake (nSocketID : UInt64) (szKey : StdString) (bInvoke : Bool) : CGateService :=
  match parseKey szKey with
  | none => gate.shutdown nSocketID true "token error"
  | some (nPlayerID, szToken) =>
      match gate.sessionMgr.getSessionByPlayerID nPlayerID with
      | some session =>
          if session.hasState eCSS_TokenEnter then
            if session.szToken ≠ szToken then
              gate.shutdown nSocketID true "token error"
            else
              (gate.enterClient nPlayerID nSocketID szToken
                (eCSS_ClientEnter ||| eCSS_TokenEnter)).enterGas nPlayerID bInvoke
          else if session.nState ≠ eCSS_Normal then
            gate.shutdown nSocketID true "state error"
          else
            let gate := gate.unbindSocketID nPlayerID
            let gate := gate.shutdown session.nSocketID true "dup"
            let gate := gate.modifySession nPlayerID fun session => { session with szToken }
            gate.enterClient nPlayerID nSocketID szToken eCSS_ClientEnter
      | none =>
          { gate with
            sessionMgr := gate.sessionMgr.createSession nPlayerID szToken }.enterClient
              nPlayerID nSocketID szToken eCSS_ClientEnter

/-- A session whose connection is gone is destroyed, otherwise the connection is closed
(the two branches of `d2g_player_token_notify_handler` that refuse a token). -/
def refuseToken (session : CGateClientSession) (szMsg : String) : CGateService :=
  if gate.mapBaseConnectionByID.contains session.nSocketID then
    gate.shutdown session.nSocketID true szMsg
  else
    gate.destroySession session.nPlayerID

/-- `d2g_player_token_notify_handler`. -/
def playerTokenNotify (nPlayerID : UInt64) (szToken : StdString) (nGasID : UInt32)
    (bInvoke : Bool) : CGateService :=
  match gate.sessionMgr.getSessionByPlayerID nPlayerID with
  | some session =>
      if session.hasState eCSS_ClientEnter then
        if session.szToken ≠ szToken then
          gate.refuseToken session "token error"
        else
          (gate.modifySession nPlayerID fun session =>
            { session with nGasID, nState := eCSS_TokenEnter ||| eCSS_ClientEnter }).enterGas
              nPlayerID bInvoke
      else if session.nState ≠ eCSS_Normal then
        gate.refuseToken session "dup"
      else
        let gate := gate.unbindSocketID nPlayerID
        let gate := gate.shutdown session.nSocketID true "dup"
        gate.modifySession nPlayerID fun session =>
          { session with szToken, nState := eCSS_TokenEnter }
  | none =>
      { gate with
        sessionMgr := gate.sessionMgr.createSession nPlayerID szToken }.modifySession
          nPlayerID fun session => { session with nGasID, nState := eCSS_TokenEnter }

/-- `s2g_kick_player_notify_handler`. -/
def kickPlayerNotify (nPlayerID : UInt64) : CGateService :=
  (gate.modifySession nPlayerID fun session =>
    { session with bKick := true }).destroySession nPlayerID

/-- `onDisconnect` of the connection manager and of the connection. -/
def onDisconnect (nSocketID : UInt64) : CGateService :=
  if !gate.mapBaseConnectionByID.contains nSocketID then
    gate
  else
    let gate := { gate with
      mapBaseConnectionByID := gate.mapBaseConnectionByID.erase nSocketID }
    match gate.sessionMgr.getSessionBySocketID nSocketID with
    | none => gate
    | some session =>
        if session.nSocketID = nSocketID then
          (gate.unbindSocketID session.nPlayerID).destroySession session.nPlayerID
        else
          gate

/-- `onTokenTimeout`, when the ticker is registered. -/
def onTokenTimeout (nPlayerID : UInt64) : CGateService :=
  match gate.sessionMgr.getSessionByPlayerID nPlayerID with
  | none => gate
  | some session =>
      if session.bTokenTimeout then
        gate.destroySession nPlayerID
      else
        gate

/-! ## Histories -/

/-- What happens at a gate.  Socket ids are not zero and are not used again while their
connection is there. -/
inductive Event
  | connect (nSocketID : UInt64)
  | handshake (nSocketID : UInt64) (szKey : StdString) (bInvoke : Bool)
  | playerTokenNotify (nPlayerID : UInt64) (szToken : StdString) (nGasID : UInt32)
      (bInvoke : Bool)
  | enterResponse (nPlayerID : UInt64) (response : EnterResponse)
  | kickPlayerNotify (nPlayerID : UInt64)
  | gasDisconnect (nGasID : UInt32)
  | disconnect (nSocketID : UInt64)
  | tokenTimeout (nPlayerID : UInt64)

/-- The gate after an event.  A message of a connection that is gone is dropped. -/
def step (gate : CGateService) : Event → CGateService
  | .connect nSocketID =>
      if nSocketID = 0 ∨ gate.mapBaseConnectionByID.contains nSocketID then
        gate
      else
        { gate with
          mapBaseConnectionByID := gate.mapBaseConnectionByID.insert nSocketID false }
  | .handshake nSocketID szKey bInvoke =>
      if gate.mapBaseConnectionByID.contains nSocketID then
        gate.handshake nSocketID szKey bInvoke
      else
        gate
  | .playerTokenNotify nPlayerID szToken nGasID bInvoke =>
      { gate with
        mapDispatchedToken :=
          gate.mapDispatchedToken.insert nPlayerID szToken }.playerTokenNotify
            nPlayerID szToken nGasID bInvoke
  | .enterResponse nPlayerID response => gate.onEnterResponse nPlayerID response
  | .kickPlayerNotify nPlayerID => gate.kickPlayerNotify nPlayerID
  | .gasDisconnect nGasID => gate.onGasDisconnect nGasID
  | .disconnect nSocketID => gate.onDisconnect nSocketID
  | .tokenTimeout nPlayerID => gate.onTokenTimeout nPlayerID

end CGateService

end RealtimeEx.Gate.Login
