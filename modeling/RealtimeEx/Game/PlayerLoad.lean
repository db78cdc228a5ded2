import RealtimeEx.Game.PlayerBackup

/-!
# Players are loaded before they are used

A call of `createPlayer` that is not overtaken returns the object it created, with every
module loaded.  When it is answered it looks the player up again by the id, so that it can
find a younger object.  The end of a gate logs out the players that are still loading.
-/

namespace RealtimeEx.Game

/-- Every module has been loaded. -/
def CPlayer.Loaded (player : CPlayer) : Prop :=
  ∀ eModuleType, eModuleType ∈ player.setModuleLoadData

instance (player : CPlayer) : Decidable player.Loaded :=
  decidable_of_iff (∀ eModuleType ∈ zPlayerModule, eModuleType ∈ player.setModuleLoadData)
    ⟨fun h m => h m (mem_zPlayerModule m), fun h m _ => h m⟩

/-- `createPlayer` returns the object that it created, and a player that is returned or
backed up is loaded. -/
def GameOutput.UsesLoaded : GameOutput → Prop
  | .createPlayer nObject (some player) => player.nObject = nObject ∧ player.Loaded
  | .update player _ => player.Loaded
  | _ => True

namespace CGameService

variable {game : CGameService} {nPlayerID n : UInt64} {p p' : CPlayer}

theorem loaded_loggedOut (h : p.Loaded) : (loggedOut p).Loaded := h

theorem loaded_of_settled (h : ∀ eModuleType, p.Settled eModuleType)
    (herror : p.hasModuleLoadDataError = false) : p.Loaded := by
  intro m
  rcases h m with hloaded | hfailed
  · exact hloaded
  · rw [CPlayer.hasModuleLoadDataError, decide_eq_false_iff_not, not_not] at herror
    rw [herror] at hfailed
    exact absurd hfailed (Finset.notMem_empty m)

/-! ## The property -/

/-- No player has been used before it was loaded, and those who are ready are loaded. -/
structure LoadedFirst (game : CGameService) : Prop where
  used : ∀ out ∈ game.outputs, out.UsesLoaded
  ready : ∀ {n p}, game.findPlayer n = some p → p.eStatus = .normal ∨ p.bBackup = true →
    p.Loaded

theorem loadedFirst_empty : CGameService.LoadedFirst {} where
  used out hout := by cases hout
  ready h := by simp [findPlayer] at h

theorem LoadedFirst.outputs (h : game.LoadedFirst) {outs : List GameOutput}
    (houts : ∀ out ∈ outs, out.UsesLoaded) :
    CGameService.LoadedFirst { game with outputs := game.outputs ++ outs } where
  used out hout := by
    rcases List.mem_append.mp hout with hold | hnew
    · exact h.used out hold
    · exact houts out hnew
  ready := h.ready

theorem LoadedFirst.output (h : game.LoadedFirst) {out : GameOutput} (hout : out.UsesLoaded) :
    (game.output out).LoadedFirst := by
  refine h.outputs fun out' hout' => ?_
  rw [List.mem_singleton.mp hout']
  exact hout

theorem LoadedFirst.requests (h : game.LoadedFirst) (requests : List SDbRequest) :
    CGameService.LoadedFirst { game with listDbRequest := requests } :=
  ⟨h.used, h.ready⟩

theorem LoadedFirst.dropRequests (h : game.LoadedFirst) (drop : SDbRequest → Bool) :
    (game.dropRequests drop).LoadedFirst :=
  h.requests _

theorem LoadedFirst.addRequest (h : game.LoadedFirst) (nPlayerID : UInt64)
    (callback : DbCallback) : (game.addRequest nPlayerID callback).LoadedFirst :=
  ⟨h.used, h.ready⟩

theorem LoadedFirst.setPlayer (h : game.LoadedFirst)
    (hp : p.eStatus = .normal ∨ p.bBackup = true → p.Loaded) :
    (game.setPlayer nPlayerID p).LoadedFirst where
  used := h.used
  ready hq hready := by
    rw [findPlayer_setPlayer] at hq
    split at hq
    · obtain rfl := Option.some.inj hq
      exact hp hready
    · exact h.ready hq hready

/-- The record of an object is replaced by one that is as ready. -/
theorem LoadedFirst.stays (h : game.LoadedFirst) (hp : game.findPlayer n = some p)
    (hstays : p.Stays p') : (game.setPlayer n p').LoadedFirst := by
  refine h.setPlayer fun hready m => ?_
  rw [hstays.eStatus, hstays.bBackup] at hready
  exact hstays.loaded (h.ready hp hready m)

theorem LoadedFirst.destroyPlayer (h : game.LoadedFirst) (nPlayerID : UInt64)
    (szMsg : String) : (game.destroyPlayer nPlayerID szMsg).LoadedFirst where
  used out hout := by
    rw [outputs_destroyPlayer] at hout
    rcases List.mem_append.mp hout with hold | hnew
    · exact h.used out hold
    · obtain ⟨q, -, rfl⟩ := Option.map_eq_some_iff.mp (Option.mem_toList.mp hnew)
      trivial
  ready hq hready := by
    rw [findPlayer_destroyPlayer] at hq
    split at hq
    · cases hq
    · exact h.ready hq hready

theorem usesLoaded_update (hp : p.Loaded) :
    ∀ out ∈ zPlayerModule.map (.update p), GameOutput.UsesLoaded out := by
  intro out hout
  obtain ⟨m, -, rfl⟩ := List.mem_map.mp hout
  exact hp

theorem LoadedFirst.onPlayerLogin (h : game.LoadedFirst) (hp : p.Loaded) :
    (game.onPlayerLogin nPlayerID p).LoadedFirst := by
  have hset : (game.setPlayer nPlayerID
      { p with eStatus := .normal, bBackup := true }).LoadedFirst :=
    h.setPlayer fun _ => hp
  refine hset.outputs fun out hout => ?_
  obtain ⟨message, -, rfl⟩ := List.mem_map.mp hout
  trivial

theorem LoadedFirst.onPlayerLogout (h : game.LoadedFirst) (hp : p.Loaded) :
    (game.onPlayerLogout nPlayerID p).LoadedFirst := by
  have hset : (game.setPlayer nPlayerID (loggedOut p)).LoadedFirst :=
    h.setPlayer fun _ => loaded_loggedOut hp
  exact hset.outputs (usesLoaded_update (loaded_loggedOut hp))

/-- Players who are ready are loaded. -/
theorem LoadedFirst.getPlayer (h : game.LoadedFirst) (hp : game.getPlayer n = some p) :
    p.Loaded := by
  obtain ⟨hfind, hnormal⟩ := getPlayer_eq_some_iff.mp hp
  exact h.ready hfind (.inl hnormal)

theorem LoadedFirst.logoutReady (h : game.LoadedFirst) {notify : CPlayer → GameOutput}
    (hnotify : ∀ player, (notify player).UsesLoaded) :
    (game.logoutReady nPlayerID notify).LoadedFirst := by
  rw [CGameService.logoutReady]
  split
  · exact h
  · rename_i p hp
    exact (h.onPlayerLogout (h.getPlayer hp)).output (hnotify p)

/-! ## `createPlayer` -/

theorem LoadedFirst.loadModule (h : game.LoadedFirst) (nObject : ℕ) (bInvoke : Bool)
    (eModuleType : EPlayerModuleType) :
    (game.loadModule nPlayerID nObject bInvoke eModuleType).LoadedFirst := by
  rw [CGameService.loadModule]
  split
  · exact h.addRequest _ _
  · split
    · exact h
    · rename_i p hp
      exact h.stays hp (p.stays_onLoadData _ _ _)

theorem LoadedFirst.beginCreatePlayer (h : game.LoadedFirst) (nPlayerID : UInt64)
    (nGateServiceID : UInt32) (invokes : Invokes) :
    (game.beginCreatePlayer nPlayerID nGateServiceID invokes).LoadedFirst := by
  have hfold : ∀ (nObject : ℕ) (modules : List EPlayerModuleType) {game : CGameService},
      game.LoadedFirst → (modules.foldl (fun game eModuleType => game.loadModule nPlayerID
        nObject (invokes.bLoadData eModuleType) eModuleType) game).LoadedFirst := by
    intro nObject modules
    induction modules with
    | nil => exact id
    | cons eModuleType modules ih => exact fun hgame => ih (hgame.loadModule _ _ _)
  have hnew : CGameService.LoadedFirst { game with nNextObject := game.nNextObject + 1 } :=
    ⟨h.used, h.ready⟩
  have hidle : EPlayerStatusType.loadData ≠ .normal := by decide
  rw [CGameService.beginCreatePlayer]
  dsimp only
  apply hfold
  apply LoadedFirst.setPlayer
  · split
    · exact hnew.output trivial
    · exact hnew
  · rintro (hstatus | hbackup)
    · exact absurd hstatus hidle
    · cases hbackup

/-- The rest of `createPlayer` is right just if it returns the object that was created,
loaded, or nothing. -/
theorem loadedFirst_onCreatePlayer_iff (h : game.LoadedFirst) (nPlayerID : UInt64)
    (nObject : ℕ) (sSessionInfo : SSessionInfo) (nErrorCode : UInt32) :
    (game.onCreatePlayer nPlayerID nObject sSessionInfo nErrorCode).LoadedFirst ↔
      ∀ p, game.createdPlayer nPlayerID nErrorCode = some p →
        p.nObject = nObject ∧ p.Loaded := by
  have hend : (game.endCreatePlayer nPlayerID nErrorCode).LoadedFirst := by
    rcases endCreatePlayer_cases nPlayerID nErrorCode with hsame | ⟨szMsg, hdestroy⟩
    · rw [hsame]
      exact h
    · rw [hdestroy]
      exact h.destroyPlayer _ _
  cases hcreated : game.createdPlayer nPlayerID nErrorCode with
  | none =>
      simp only [onCreatePlayer, hcreated]
      refine iff_of_true ((hend.output ?_).output ?_) ?_
      · trivial
      · trivial
      · intro p hp
        cases hp
  | some p =>
      simp only [onCreatePlayer, hcreated]
      constructor
      · intro hafter q hq
        obtain rfl := Option.some.inj hq
        have hout : GameOutput.createPlayer nObject (some p) ∈
            ((((game.endCreatePlayer nPlayerID nErrorCode).output
              (.createPlayer nObject (some p))).output
                (.playerEnterResponse sSessionInfo nPlayerID eEC_Sucess)).onPlayerLogin
                  nPlayerID p).outputs := by
          simp [CGameService.onPlayerLogin, CGameService.output]
        exact hafter.used _ hout
      · intro hloaded
        have hp := hloaded p rfl
        refine ((hend.output ?_).output ?_).onPlayerLogin hp.2
        · exact hp
        · trivial

/-! ## Answers of the database service -/

/-- No module of the object has a request before the first one for its player. -/
theorem Sound.not_requested_of_first (h : game.Sound) {request : SDbRequest}
    (hfirst : game.firstRequest nPlayerID = some request) (nObject : ℕ)
    (eModuleType : EPlayerModuleType) :
    ¬ game.Requested request.nSessionID request.nPlayerID nObject eModuleType := by
  rintro ⟨r, hr, hless, hid, -⟩
  obtain ⟨hplayer, before, after, hlist, hbefore⟩ :=
    List.find?_eq_some_iff_append.mp hfirst
  have hfirstID := of_decide_eq_true hplayer
  rw [hlist] at hr
  have hordered := h.ordered
  rw [hlist] at hordered
  obtain ⟨-, htail, -⟩ := List.pairwise_append.mp hordered
  rcases List.mem_append.mp hr with hmem | hmem
  · have hother := hbefore r hmem
    rw [hid, hfirstID] at hother
    simp at hother
  · rcases List.mem_cons.mp hmem with rfl | hlater
    · exact lt_irrefl _ hless
    · exact lt_asymm hless ((List.pairwise_cons.mp htail).1 r hlater)

/-- The object of a call of `createPlayer` whose answer comes without an error is loaded. -/
theorem Sound.loaded_of_first (h : game.Sound) {request : SDbRequest} {nObject : ℕ}
    {sSessionInfo : SSessionInfo} (hfirst : game.firstRequest nPlayerID = some request)
    (hcallback : request.callback = some (.createPlayer nObject sSessionInfo))
    (hp : game.findPlayer request.nPlayerID = some p) (hobject : p.nObject = nObject)
    (herror : p.hasModuleLoadDataError = false) : p.Loaded := by
  have hmem := List.mem_of_find?_eq_some hfirst
  refine loaded_of_settled (fun m => ?_) herror
  rcases h.awaited hmem hcallback hp hobject m with hsettled | hrequested
  · exact hsettled
  · exact absurd hrequested (h.not_requested_of_first hfirst nObject m)

/-- A callback is right just if it is not the end of a `createPlayer` that goes wrong. -/
theorem loadedFirst_runCallback_iff (h : game.LoadedFirst) (nPlayerID : UInt64)
    (nErrorCode : UInt32) (bMessage : Bool) (callback : Option DbCallback) :
    (game.runCallback nPlayerID nErrorCode bMessage callback).LoadedFirst ↔
      ∀ nObject sSessionInfo, callback = some (.createPlayer nObject sSessionInfo) →
        ∀ p, game.createdPlayer nPlayerID nErrorCode = some p →
          p.nObject = nObject ∧ p.Loaded := by
  cases callback with
  | none =>
      refine iff_of_true h fun nObject sSessionInfo hcallback => ?_
      cases hcallback
  | some callback =>
      cases callback with
      | loadModule nObject m =>
          refine iff_of_true ?_ fun nObject' sSessionInfo hcallback => ?_
          · rw [runCallback]
            split
            · exact h
            · rename_i p hp
              split
              · exact h.stays hp (p.stays_onLoadData _ _ _)
              · exact h
          · cases hcallback
      | createPlayer nObject sSessionInfo =>
          rw [runCallback, loadedFirst_onCreatePlayer_iff h]
          constructor
          · intro hall nObject' sSessionInfo' hcallback
            obtain ⟨rfl, rfl⟩ := DbCallback.createPlayer.inj (Option.some.inj hcallback)
            exact hall
          · exact fun hall => hall nObject sSessionInfo rfl

/-! ## Every event -/

/-- An event uses no player that is not loaded: no gate ends while a player of it is
loading, and the answer that ends a call of `createPlayer` does not find a younger object
of the same player. -/
def Event.AfterLoad (game : CGameService) : Event → Prop
  | .gateDisconnect nGateServiceID => ∀ n p, game.findPlayer n = some p →
      p.nGateServiceID = nGateServiceID → p.Loaded
  | .dbResponse nPlayerID nErrorCode _ => ∀ request nObject sSessionInfo,
      game.firstRequest nPlayerID = some request →
        request.callback = some (.createPlayer nObject sSessionInfo) → nErrorCode = eRRT_OK →
          ∀ p, game.findPlayer request.nPlayerID = some p →
            p.hasModuleLoadDataError = false → p.nObject = nObject
  | _ => True

theorem loadedFirst_gateDisconnect_iff (hsound : game.Sound) (h : game.LoadedFirst)
    (nGateServiceID : UInt32) : (game.onGateDisconnect nGateServiceID).LoadedFirst ↔
      (Event.gateDisconnect nGateServiceID).AfterLoad game := by
  obtain ⟨outs, houts, hdestroyed, -⟩ := outputs_foldl_destroyPlayer
    (game.playersOfGate nGateServiceID) "gate disconnect"
    ((game.playersOfGate nGateServiceID).foldl gateLogout game)
  rw [outputs_foldl_gateLogout, List.append_assoc, ← onGateDisconnect] at houts
  rw [Event.AfterLoad]
  constructor
  · intro hafter n p hp hgate
    have hmem : p ∈ game.playersOfGate nGateServiceID := mem_playersOfGate.mpr ⟨⟨n, hp⟩, hgate⟩
    have hout : GameOutput.update (loggedOut p) .item ∈
        (game.onGateDisconnect nGateServiceID).outputs := by
      rw [houts]
      apply List.mem_append_right
      apply List.mem_append_left
      refine List.mem_flatMap.mpr ⟨p, hmem, List.mem_append_left _ ?_⟩
      exact List.mem_map_of_mem (mem_zPlayerModule _)
    exact hafter.used _ hout
  · intro hall
    constructor
    · intro out hout
      rw [houts] at hout
      rcases List.mem_append.mp hout with hold | hnew
      · exact h.used out hold
      · rcases List.mem_append.mp hnew with hlogout | hend
        · obtain ⟨p, hmem, hone⟩ := List.mem_flatMap.mp hlogout
          obtain ⟨⟨n, hp⟩, hgate⟩ := mem_playersOfGate.mp hmem
          rcases List.mem_append.mp hone with hupdate | hleave
          · exact usesLoaded_update (loaded_loggedOut (hall n p hp hgate)) out hupdate
          · rw [List.mem_singleton.mp hleave]
            trivial
        · obtain ⟨q, rfl⟩ := hdestroyed out hend
          trivial
    · intro n p hp hready
      rw [hsound.findPlayer_onGateDisconnect, Option.filter_eq_some_iff] at hp
      exact h.ready hp.1 hready

theorem LoadedFirst.playerEnterRequest (h : game.LoadedFirst) (sSessionInfo : SSessionInfo)
    (nPlayerID : UInt64) (invokes : Invokes) :
    (game.playerEnterRequest sSessionInfo nPlayerID invokes).LoadedFirst := by
  rw [CGameService.playerEnterRequest]
  split
  · split
    · exact h.output trivial
    · have hbegin := h.beginCreatePlayer nPlayerID sSessionInfo.nFromServiceID invokes
      dsimp only
      split
      · exact hbegin.addRequest _ _
      · rw [loadedFirst_onCreatePlayer_iff hbegin]
        intro p hp
        exact absurd (createdPlayer_eq_some_iff.mp hp).2.1 (by decide)
  · rename_i p hready
    have hp := h.getPlayer hready
    have hout : (game.onPlayerLogout nPlayerID p).LoadedFirst := h.onPlayerLogout hp
    dsimp only
    split
    · refine ((hout.output ?_).output ?_).onPlayerLogin (loaded_loggedOut hp)
      · trivial
      · trivial
    · refine (hout.output ?_).onPlayerLogin (loaded_loggedOut hp)
      trivial

theorem LoadedFirst.onHeartbeat (h : game.LoadedFirst) (nPlayerID : UInt64) (bInvoke : Bool) :
    (game.onHeartbeat nPlayerID bInvoke).LoadedFirst := by
  rw [CGameService.onHeartbeat]
  split
  · exact h
  · rename_i p hp
    split
    · refine (h.stays hp ?_).output trivial
      exact ⟨⟨rfl, rfl, fun _ h => h, fun _ h => h⟩, rfl, rfl, rfl⟩
    · exact h.destroyPlayer _ _

theorem LoadedFirst.onHeartbeatResponse (h : game.LoadedFirst) (nPlayerID : UInt64)
    (nErrorType : UInt32) : (game.onHeartbeatResponse nPlayerID nErrorType).LoadedFirst := by
  rw [CGameService.onHeartbeatResponse]
  split
  · exact h
  · rename_i p hp
    split
    · exact h
    · split
      · apply h.stays hp
        exact ⟨⟨rfl, rfl, fun _ h => h, fun _ h => h⟩, rfl, rfl, rfl⟩
      · exact h.destroyPlayer _ _

theorem LoadedFirst.onBackupTicker (h : game.LoadedFirst) (nPlayerID : UInt64) :
    (game.onBackupTicker nPlayerID).LoadedFirst := by
  rw [CGameService.onBackupTicker]
  split
  · exact h
  · rename_i p hp
    split
    · rename_i hticker
      exact h.outputs (usesLoaded_update (h.ready hp (.inr hticker)))
    · exact h

theorem loadedFirst_dbResponse_iff (hsound : game.Sound) (h : game.LoadedFirst)
    (nPlayerID : UInt64) (nErrorCode : UInt32) (bMessage : Bool) :
    (game.onDbResponse nPlayerID nErrorCode bMessage).LoadedFirst ↔
      (Event.dbResponse nPlayerID nErrorCode bMessage).AfterLoad game := by
  rw [Event.AfterLoad, onDbResponse]
  cases hfirst : game.firstRequest nPlayerID with
  | none =>
      refine iff_of_true h fun request nObject sSessionInfo hrequest => ?_
      cases hrequest
  | some request =>
      dsimp only
      rw [loadedFirst_runCallback_iff (h.requests _)]
      constructor
      · intro hall request' nObject sSessionInfo hrequest hcallback hcode p hp herror
        obtain rfl := Option.some.inj hrequest
        exact (hall nObject sSessionInfo hcallback p
          (createdPlayer_eq_some_iff.mpr ⟨hp, hcode, herror⟩)).1
      · intro hall nObject sSessionInfo hcallback p hcreated
        obtain ⟨hp, hcode, herror⟩ := createdPlayer_eq_some_iff.mp hcreated
        have hobject := hall request nObject sSessionInfo rfl hcallback hcode p hp herror
        exact ⟨hobject, hsound.loaded_of_first hfirst hcallback hp hobject herror⟩

theorem LoadedFirst.onDbTimeout (h : game.LoadedFirst) (nSessionID : ℕ) :
    (game.onDbTimeout nSessionID).LoadedFirst := by
  rw [CGameService.onDbTimeout]
  split
  · exact h
  · rw [loadedFirst_runCallback_iff (h.dropRequests _)]
    intro nObject sSessionInfo hcallback p hp
    exact absurd (createdPlayer_eq_some_iff.mp hp).2.1 (by decide)

theorem loadedFirst_step_iff (hsound : game.Sound) (h : game.LoadedFirst) (e : Event) :
    (game.step e).LoadedFirst ↔ e.AfterLoad game := by
  rw [step]
  split
  · rename_i hquit
    refine iff_of_true h ?_
    have hnone : ∀ {n p}, game.findPlayer n ≠ some p := by
      intro n p hp
      rw [hsound.released hquit] at hp
      cases hp
    cases e with
    | gateDisconnect nGateServiceID => exact fun n p hp => absurd hp hnone
    | dbResponse nPlayerID nErrorCode bMessage =>
        exact fun request nObject sSessionInfo _ _ _ p hp => absurd hp hnone
    | _ => trivial
  · cases e with
    | playerEnterRequest sSessionInfo nPlayerID invokes =>
        exact iff_of_true (h.playerEnterRequest sSessionInfo nPlayerID invokes) trivial
    | playerLeaveNotify nFromServiceID nPlayerID =>
        refine iff_of_true (LoadedFirst.destroyPlayer (h.logoutReady fun player => ?_) _ _) trivial
        trivial
    | playerHeartbeatNotify nFromServiceID nPlayerID =>
        refine iff_of_true ?_ trivial
        rw [handle, playerHeartbeatNotify]
        split
        · exact h.output trivial
        · split
          · exact h.output trivial
          · exact h
    | kickPlayerNotify nPlayerID =>
        refine iff_of_true (LoadedFirst.destroyPlayer (h.logoutReady fun player => ?_) _ _) trivial
        trivial
    | gateDisconnect nGateServiceID => exact loadedFirst_gateDisconnect_iff hsound h _
    | heartbeat nPlayerID bInvoke =>
        exact iff_of_true (h.onHeartbeat nPlayerID bInvoke) trivial
    | heartbeatResponse nPlayerID nErrorType =>
        exact iff_of_true (h.onHeartbeatResponse nPlayerID nErrorType) trivial
    | backup nPlayerID => exact iff_of_true (h.onBackupTicker nPlayerID) trivial
    | dbResponse nPlayerID nErrorCode bMessage => exact loadedFirst_dbResponse_iff hsound h _ _ _
    | dbTimeout nSessionID => exact iff_of_true (h.onDbTimeout nSessionID) trivial
    | quit =>
        refine iff_of_true ⟨h.used, fun hp => ?_⟩ trivial
        simp [findPlayer, handle, onQuit] at hp

/-- In every history, no player is used before it is loaded if and only if no gate ends
while a player of it is loading, and no call of `createPlayer` is answered when a younger
object has its place. -/
theorem loadedFirst_throughout_iff (events : List Event) :
    (∀ ks, ks <+: events → (ks.foldl step {}).LoadedFirst) ↔
      ∀ ks e, ks ++ [e] <+: events → e.AfterLoad (ks.foldl step {}) :=
  throughout_iff (I := Sound) (P := LoadedFirst) (C := fun game e => e.AfterLoad game)
    (fun _ e h => h.step e) (fun _ e hsound h => loadedFirst_step_iff hsound h e)
    sound_empty loadedFirst_empty events

/-- Player 7 leaves the gate 1 while it is loading and enters through the gate 2; then the
requests of the first object are answered. -/
def recreated : List Event :=
  [.playerEnterRequest ⟨1, 10⟩ 7 {}, .playerLeaveNotify 1 7, .playerEnterRequest ⟨2, 11⟩ 7 {},
    .dbResponse 7 1 true, .dbResponse 7 1 true, .dbResponse 7 1 true, .dbResponse 7 1 false]

/-- The gate 1 ends while player 7 is loading. -/
def gateGone : List Event :=
  [.playerEnterRequest ⟨1, 10⟩ 7 {}, .gateDisconnect 1]

/-- The first call returns the second object, of which nothing is loaded, and a player that
is loading is backed up. -/
theorem not_loadedFirst_recreated :
    ¬ (recreated.foldl step {}).LoadedFirst ∧ ¬ (gateGone.foldl step {}).LoadedFirst := by
  constructor
  · intro h
    have hout : ∃ player, GameOutput.createPlayer 0 (some player) ∈
        (recreated.foldl step {}).outputs ∧ player.nObject = 1 := by
      refine ⟨{ nObject := 1, nPlayerID := 7, nGateServiceID := 2, eStatus := .loadData,
                nHeartbeat := 1 }, by decide, rfl⟩
    obtain ⟨player, hmem, hobject⟩ := hout
    have hused := h.used _ hmem
    exact absurd (hobject.symm.trans hused.1) (by decide)
  · intro h
    have hout : GameOutput.update
        { nObject := 0, nPlayerID := 7, nGateServiceID := 1, eStatus := .logout,
          nHeartbeat := 1 } .item ∈ (gateGone.foldl step {}).outputs := by
      decide
    have hloaded : CPlayer.Loaded _ := h.used _ hout
    exact absurd hloaded (by decide)

end CGameService

end RealtimeEx.Game
