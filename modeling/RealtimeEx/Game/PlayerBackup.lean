import RealtimeEx.Game.PlayerInvariant

/-!
# How players who are ready leave the manager

A leave notice, a kick and the end of a gate log the player out, and logging out sends the
updates of all modules.  A heartbeat that fails, the end of the service and the end of a
call of `createPlayer` do without.
-/

namespace RealtimeEx.Game

namespace CGameService

variable {game : CGameService} {nPlayerID n : UInt64} {p : CPlayer}

/-! ## Logging out and destroying -/

theorem findPlayer_logoutReady_of_ne (hn : nPlayerID ≠ n) (notify : CPlayer → GameOutput) :
    (game.logoutReady nPlayerID notify).findPlayer n = game.findPlayer n := by
  rw [logoutReady]
  split
  · rfl
  · rw [findPlayer_output, findPlayer_onPlayerLogout, if_neg hn]

theorem outputs_logoutReady (h : game.getPlayer nPlayerID = some p)
    (notify : CPlayer → GameOutput) (szMsg : String) :
    ((game.logoutReady nPlayerID notify).destroyPlayer nPlayerID szMsg).outputs =
      game.outputs ++ (zPlayerModule.map (.update (loggedOut p)) ++
        [notify p, .destroyPlayer (loggedOut p) szMsg]) := by
  have hfind : ((game.onPlayerLogout nPlayerID p).output (notify p)).findPlayer nPlayerID =
      some (loggedOut p) := by
    rw [findPlayer_output, findPlayer_onPlayerLogout, if_pos rfl]
  rw [logoutReady, h]
  dsimp only
  rw [destroyPlayer_of_some hfind]
  simp [output, onPlayerLogout, onBackup, setPlayer, dropRequests]

/-- The players that are destroyed one after the other. -/
theorem findPlayer_foldl_destroyPlayer (players : List CPlayer) (szMsg : String)
    (game : CGameService) :
    (players.foldl (fun game player => game.destroyPlayer player.nPlayerID szMsg)
      game).findPlayer n =
        if n ∈ players.map CPlayer.nPlayerID then none else game.findPlayer n := by
  induction players generalizing game with
  | nil => rfl
  | cons player players ih =>
      rw [List.foldl_cons, ih, findPlayer_destroyPlayer, List.map_cons]
      by_cases hmem : n ∈ players.map CPlayer.nPlayerID
      · rw [if_pos hmem, if_pos (List.mem_cons_of_mem _ hmem)]
      · rw [if_neg hmem]
        by_cases hn : player.nPlayerID = n
        · rw [if_pos hn, if_pos (List.mem_cons.mpr (.inl hn.symm))]
        · rw [if_neg hn, if_neg]
          rw [List.mem_cons, not_or]
          exact ⟨Ne.symm hn, hmem⟩

theorem outputs_destroyPlayer (nPlayerID : UInt64) (szMsg : String) :
    (game.destroyPlayer nPlayerID szMsg).outputs =
      game.outputs ++ ((game.findPlayer nPlayerID).map (.destroyPlayer · szMsg)).toList := by
  cases hp : game.findPlayer nPlayerID with
  | none =>
      rw [destroyPlayer_of_none hp]
      simp
  | some p =>
      rw [destroyPlayer_of_some hp]
      rfl

/-- Each of them is destroyed as the manager has it. -/
theorem outputs_foldl_destroyPlayer (players : List CPlayer) (szMsg : String)
    (game : CGameService) :
    ∃ outs, (players.foldl (fun game player => game.destroyPlayer player.nPlayerID szMsg)
        game).outputs = game.outputs ++ outs ∧
      (∀ out ∈ outs, ∃ q, out = .destroyPlayer q szMsg) ∧
      ∀ p q, p ∈ players → game.findPlayer p.nPlayerID = some q →
        GameOutput.destroyPlayer q szMsg ∈ outs := by
  induction players generalizing game with
  | nil =>
      refine ⟨[], (List.append_nil _).symm, ?_, ?_⟩
      · intro out hout
        cases hout
      · intro p q hp
        cases hp
  | cons player players ih =>
      obtain ⟨outs, houts, hall, hmem⟩ := ih (game.destroyPlayer player.nPlayerID szMsg)
      rw [outputs_destroyPlayer, List.append_assoc] at houts
      refine ⟨_, houts, ?_, ?_⟩
      · intro out hout
        rcases List.mem_append.mp hout with hfirst | hrest
        · obtain ⟨q, -, rfl⟩ := Option.map_eq_some_iff.mp (Option.mem_toList.mp hfirst)
          exact ⟨q, rfl⟩
        · exact hall out hrest
      · intro p q hp hq
        by_cases hid : player.nPlayerID = p.nPlayerID
        · rw [hid, hq]
          exact List.mem_append_left _ (List.mem_singleton.mpr rfl)
        · rcases List.mem_cons.mp hp with rfl | hrest
          · exact absurd rfl hid
          · apply List.mem_append_right
            apply hmem p q hrest
            rw [findPlayer_destroyPlayer, if_neg hid]
            exact hq

/-- What the first loop of `onGateDisconnect` sends for one player. -/
def logoutOutputs (player : CPlayer) : List GameOutput :=
  zPlayerModule.map (.update (loggedOut player)) ++
    [.playerLeaveNotify player.getUCServiceID player.nPlayerID]

theorem outputs_foldl_gateLogout (players : List CPlayer) (game : CGameService) :
    (players.foldl gateLogout game).outputs =
      game.outputs ++ players.flatMap logoutOutputs := by
  induction players generalizing game with
  | nil => exact (List.append_nil _).symm
  | cons player players ih =>
      rw [List.foldl_cons, ih, List.flatMap_cons, ← List.append_assoc]
      congr 1
      exact List.append_assoc _ _ _

/-- After the loop, the players of the gate are logged out. -/
theorem Sound.findPlayer_foldl_gateLogout (h : game.Sound) {nGateServiceID : UInt32}
    (hp : p ∈ game.playersOfGate nGateServiceID) :
    ((game.playersOfGate nGateServiceID).foldl gateLogout game).findPlayer p.nPlayerID =
      some (loggedOut p) := by
  obtain ⟨outputs, heq⟩ := foldl_gateLogout_eq (game.playersOfGate nGateServiceID) game
  obtain ⟨q, hq, hid, hfind⟩ := StdMap.exists_getElem?_foldl_insert
    (f := CPlayer.nPlayerID) (g := loggedOut) game.mapPlayer hp
  obtain ⟨⟨n, hn⟩, -⟩ := mem_playersOfGate.mp hp
  obtain ⟨⟨n', hn'⟩, -⟩ := mem_playersOfGate.mp hq
  have hsame : q = p := by
    have hkey := h.keyed hn
    have hkey' := h.keyed hn'
    rw [hid, hkey] at hkey'
    subst hkey'
    exact Option.some.inj (hn'.symm.trans hn)
  rw [heq]
  rw [hsame] at hfind
  exact hfind

theorem Sound.findPlayer_onGateDisconnect (h : game.Sound) (nGateServiceID : UInt32) :
    (game.onGateDisconnect nGateServiceID).findPlayer n =
      (game.findPlayer n).filter fun player => player.nGateServiceID ≠ nGateServiceID := by
  obtain ⟨outputs, heq⟩ := foldl_gateLogout_eq (game.playersOfGate nGateServiceID) game
  have hlogout : n ∉ (game.playersOfGate nGateServiceID).map CPlayer.nPlayerID →
      ((game.playersOfGate nGateServiceID).foldl gateLogout game).findPlayer n =
        game.findPlayer n := by
    intro hnot
    rw [heq]
    apply StdMap.getElem?_foldl_insert_of_forall_ne
    intro p hp hid
    exact hnot (List.mem_map.mpr ⟨p, hp, hid⟩)
  rw [CGameService.onGateDisconnect, findPlayer_foldl_destroyPlayer]
  split
  · rename_i hmem
    obtain ⟨p, hp, rfl⟩ := List.mem_map.mp hmem
    obtain ⟨⟨n, hn⟩, hgate⟩ := mem_playersOfGate.mp hp
    have hkey := h.keyed hn
    rw [hkey, hn, Option.filter_some, if_neg]
    simp [hgate]
  · rename_i hnot
    rw [hlogout hnot]
    cases hn : game.findPlayer n with
    | none => rfl
    | some p =>
        rw [Option.filter_some, if_pos]
        rw [decide_eq_true_iff]
        intro hgate
        apply hnot
        rw [← h.keyed hn]
        exact List.mem_map_of_mem (mem_playersOfGate.mpr ⟨⟨n, hn⟩, hgate⟩)

/-! ## Backups -/

/-- Before an event ends the object of a player who is ready, every module of the player
sends an update. -/
def Event.BacksUp (game : CGameService) (e : Event) : Prop :=
  ∀ n p, game.getPlayer n = some p →
    ((game.step e).findPlayer n).map CPlayer.nObject ≠ some p.nObject →
      ∃ outs szMsg, (game.step e).outputs = game.outputs ++ outs ∧ ∀ eModuleType,
        List.Sublist [.update (loggedOut p) eModuleType, .destroyPlayer (loggedOut p) szMsg] outs

/-- An event does not end a player who is ready without logging it out: no heartbeat fails
for such a player, the service does not quit, and no call of `createPlayer` ends in an
error that is to destroy an older object of the player. -/
def Event.Spares (game : CGameService) : Event → Prop
  | .heartbeat nPlayerID bInvoke => bInvoke = false → game.getPlayer nPlayerID = none
  | .heartbeatResponse nPlayerID nErrorType => nErrorType ≠ eRRT_OK →
      ∀ p, game.getPlayer nPlayerID = some p → p.nHeartbeat = 0
  | .dbResponse nPlayerID nErrorCode _ => ∀ request nObject sSessionInfo,
      game.firstRequest nPlayerID = some request →
        request.callback = some (.createPlayer nObject sSessionInfo) →
          ∀ p, game.getPlayer request.nPlayerID = some p →
            nErrorCode = eRRT_OK ∧ p.hasModuleLoadDataError = false
  | .dbTimeout nSessionID => ∀ request nObject sSessionInfo,
      game.requestOfSession nSessionID = some request →
        request.callback = some (.createPlayer nObject sSessionInfo) →
          game.getPlayer request.nPlayerID = none
  | .quit => ∀ n, game.getPlayer n = none
  | _ => True

/-- An event ends no player who is ready. -/
theorem backsUp_of_kept {e : Event} (h : ∀ n p, game.getPlayer n = some p →
    ∃ p', (game.step e).findPlayer n = some p' ∧ p'.nObject = p.nObject) :
    e.BacksUp game := by
  intro n p hp hgone
  obtain ⟨p', hp', hobject⟩ := h n p hp
  rw [hp', Option.map_some, hobject] at hgone
  exact absurd rfl hgone

/-- An event ends a player who is ready and sends no update. -/
theorem not_backsUp_of_gone {e : Event} (outs : List GameOutput)
    (hp : game.getPlayer n = some p) (hgone : (game.step e).findPlayer n = none)
    (houts : (game.step e).outputs = game.outputs ++ outs)
    (hquiet : ∀ q eModuleType, GameOutput.update q eModuleType ∉ outs) : ¬ e.BacksUp game := by
  intro h
  obtain ⟨outs', szMsg, houts', hall⟩ := h n p hp (by
    rw [hgone]
    exact (Option.some_ne_none _).symm)
  rw [houts] at houts'
  obtain rfl := List.append_cancel_left houts'
  exact hquiet _ .item ((hall .item).subset (List.mem_cons_self ..))

/-- A player who is ready is destroyed at once. -/
theorem not_backsUp_of_destroyPlayer {e : Event} (szMsg : String)
    (hp : game.getPlayer n = some p) (hstep : game.step e = game.destroyPlayer n szMsg) :
    ¬ e.BacksUp game := by
  refine not_backsUp_of_gone [.destroyPlayer p szMsg] hp ?_ ?_ ?_
  · rw [hstep, findPlayer_destroyPlayer, if_pos rfl]
  · rw [hstep, outputs_destroyPlayer, (getPlayer_eq_some_iff.mp hp).1]
    rfl
  · intro q m hm
    cases List.mem_singleton.mp hm

/-- A leave notice and a kick log out. -/
theorem backsUp_of_logoutReady {e : Event} {notify : CPlayer → GameOutput} {szMsg : String}
    (hstep : game.step e = (game.logoutReady nPlayerID notify).destroyPlayer nPlayerID szMsg) :
    e.BacksUp game := by
  intro n p hp hgone
  by_cases hn : nPlayerID = n
  · subst hn
    have houts := outputs_logoutReady hp notify szMsg
    rw [← hstep] at houts
    refine ⟨_, szMsg, houts, fun m => ?_⟩
    have hupdate : List.Sublist [.update (loggedOut p) m]
        (zPlayerModule.map (GameOutput.update (loggedOut p))) :=
      List.singleton_sublist.mpr (List.mem_map_of_mem (mem_zPlayerModule m))
    exact hupdate.append (List.singleton_sublist.mpr (by simp))
  · rw [hstep, findPlayer_destroyPlayer, if_neg hn, findPlayer_logoutReady_of_ne hn,
      (getPlayer_eq_some_iff.mp hp).1] at hgone
    exact absurd rfl hgone

/-- The end of a gate logs its players out. -/
theorem backsUp_gateDisconnect (h : game.Sound) {e : Event} {nGateServiceID : UInt32}
    (hstep : game.step e = game.onGateDisconnect nGateServiceID) : e.BacksUp game := by
  intro n p hp hgone
  have hfind := (getPlayer_eq_some_iff.mp hp).1
  have hgate : p.nGateServiceID = nGateServiceID := by
    by_contra hne
    rw [hstep, h.findPlayer_onGateDisconnect, hfind, Option.filter_some, if_pos] at hgone
    · exact hgone rfl
    · exact decide_eq_true hne
  have hmem : p ∈ game.playersOfGate nGateServiceID :=
    mem_playersOfGate.mpr ⟨⟨n, hfind⟩, hgate⟩
  obtain ⟨outs, houts, -, hdestroyed⟩ := outputs_foldl_destroyPlayer
    (game.playersOfGate nGateServiceID) "gate disconnect"
    ((game.playersOfGate nGateServiceID).foldl gateLogout game)
  rw [outputs_foldl_gateLogout, List.append_assoc, ← CGameService.onGateDisconnect,
    ← hstep] at houts
  refine ⟨_, "gate disconnect", houts, fun m => ?_⟩
  have hupdate : List.Sublist [.update (loggedOut p) m]
      ((game.playersOfGate nGateServiceID).flatMap logoutOutputs) := by
    apply List.singleton_sublist.mpr
    refine List.mem_flatMap.mpr ⟨p, hmem, List.mem_append_left _ ?_⟩
    exact List.mem_map_of_mem (mem_zPlayerModule m)
  exact hupdate.append
    (List.singleton_sublist.mpr (hdestroyed p _ hmem (h.findPlayer_foldl_gateLogout hmem)))

/-! ## The end of `createPlayer` -/

theorem findPlayer_endCreatePlayer_of_ne (hn : nPlayerID ≠ n) (nErrorCode : UInt32) :
    (game.endCreatePlayer nPlayerID nErrorCode).findPlayer n = game.findPlayer n := by
  rcases endCreatePlayer_cases nPlayerID nErrorCode with hsame | ⟨szMsg, hdestroy⟩
  · rw [hsame]
  · rw [hdestroy, findPlayer_destroyPlayer, if_neg hn]

theorem findPlayer_onCreatePlayer_of_ne (hn : nPlayerID ≠ n) (nObject : ℕ)
    (sSessionInfo : SSessionInfo) (nErrorCode : UInt32) :
    (game.onCreatePlayer nPlayerID nObject sSessionInfo nErrorCode).findPlayer n =
      game.findPlayer n := by
  rw [onCreatePlayer]
  split
  · rw [findPlayer_output, findPlayer_output, findPlayer_endCreatePlayer_of_ne hn]
  · rw [findPlayer_onPlayerLogin, if_neg hn, findPlayer_output, findPlayer_output,
      findPlayer_endCreatePlayer_of_ne hn]

/-- The player that is returned is logged in. -/
theorem findPlayer_onCreatePlayer_of_created {nErrorCode : UInt32}
    (h : game.createdPlayer n nErrorCode = some p) (nObject : ℕ)
    (sSessionInfo : SSessionInfo) :
    (game.onCreatePlayer n nObject sSessionInfo nErrorCode).findPlayer n =
      some { p with eStatus := .normal, bBackup := true } := by
  simp only [onCreatePlayer, h]
  rw [findPlayer_onPlayerLogin, if_pos rfl]

/-- A player that is there and not returned is destroyed. -/
theorem endCreatePlayer_of_not_created {nErrorCode : UInt32} (hp : game.findPlayer n = some p)
    (h : game.createdPlayer n nErrorCode = none) :
    ∃ szMsg, game.endCreatePlayer n nErrorCode = game.destroyPlayer n szMsg := by
  rw [endCreatePlayer, hp]
  dsimp only
  split
  · exact ⟨_, rfl⟩
  · rename_i hcode
    split
    · exact ⟨_, rfl⟩
    · rename_i herror
      rw [not_not] at hcode
      rw [Bool.not_eq_true] at herror
      rw [createdPlayer_eq_some_iff.mpr ⟨hp, hcode, herror⟩] at h
      cases h

/-- The callback of a request ends a player who is ready just if it is the end of
`createPlayer` and an error. -/
theorem backsUp_runCallback_iff {e : Event} {game' : CGameService} {request : SDbRequest}
    {nErrorCode : UInt32} {bMessage : Bool}
    (hstep : game.step e =
      game'.runCallback request.nPlayerID nErrorCode bMessage request.callback)
    (hfind : ∀ n, game'.findPlayer n = game.findPlayer n)
    (hsame : game'.outputs = game.outputs) :
    e.BacksUp game ↔ ∀ nObject sSessionInfo,
      request.callback = some (.createPlayer nObject sSessionInfo) →
        ∀ p, game.getPlayer request.nPlayerID = some p →
          nErrorCode = eRRT_OK ∧ p.hasModuleLoadDataError = false := by
  have hkept : ∀ {n p}, game.getPlayer n = some p → game'.findPlayer n = some p :=
    fun hp => (hfind _).trans (getPlayer_eq_some_iff.mp hp).1
  cases hcallback : request.callback with
  | none =>
      rw [hcallback] at hstep
      refine iff_of_true (backsUp_of_kept fun n p hp => ?_) ?_
      · exact ⟨p, hstep ▸ hkept hp, rfl⟩
      · intro nObject sSessionInfo hcreate
        cases hcreate
  | some callback =>
      rw [hcallback] at hstep
      cases callback with
      | loadModule nObject m =>
          refine iff_of_true (backsUp_of_kept fun n p hp => ?_) ?_
          · have hold := hkept hp
            rw [hstep, runCallback]
            split
            · exact ⟨p, hold, rfl⟩
            · rename_i q hq
              split
              · rw [findPlayer_setPlayer]
                split
                · rename_i hn
                  rw [hn, hold] at hq
                  obtain rfl := Option.some.inj hq
                  exact ⟨_, rfl, (p.stays_onLoadData m nErrorCode bMessage).nObject⟩
                · exact ⟨p, hold, rfl⟩
              · exact ⟨p, hold, rfl⟩
          · intro nObject' sSessionInfo hcreate
            cases hcreate
      | createPlayer nObject sSessionInfo =>
          rw [runCallback] at hstep
          constructor
          · intro h nObject' sSessionInfo' _ p hp
            by_contra hbad
            have hold := hkept hp
            have hnone : game'.createdPlayer request.nPlayerID nErrorCode = none := by
              cases hcreated : game'.createdPlayer request.nPlayerID nErrorCode with
              | none => rfl
              | some q =>
                  obtain ⟨hq, hcode, herror⟩ := createdPlayer_eq_some_iff.mp hcreated
                  rw [hold] at hq
                  obtain rfl := Option.some.inj hq
                  exact absurd ⟨hcode, herror⟩ hbad
            obtain ⟨szMsg, hend⟩ := endCreatePlayer_of_not_created hold hnone
            simp only [onCreatePlayer, hnone, hend] at hstep
            refine not_backsUp_of_gone [.destroyPlayer p szMsg, .createPlayer nObject none,
              .playerEnterResponse sSessionInfo request.nPlayerID
                eEC_Login_CreatePlayerError] hp ?_ ?_ ?_ h
            · rw [hstep, findPlayer_output, findPlayer_output, findPlayer_destroyPlayer,
                if_pos rfl]
            · rw [hstep, output, output, outputs_destroyPlayer, hold, hsame]
              simp
            · intro q m hm
              simp at hm
          · intro h
            refine backsUp_of_kept fun n p hp => ?_
            by_cases hn : request.nPlayerID = n
            · subst hn
              obtain ⟨hcode, herror⟩ := h nObject sSessionInfo rfl p hp
              refine ⟨{ p with eStatus := .normal, bBackup := true }, ?_, rfl⟩
              rw [hstep]
              exact findPlayer_onCreatePlayer_of_created
                (createdPlayer_eq_some_iff.mpr ⟨hkept hp, hcode, herror⟩) _ _
            · refine ⟨p, ?_, rfl⟩
              rw [hstep, findPlayer_onCreatePlayer_of_ne hn]
              exact hkept hp

/-! ## Every event -/

/-- Entering ends nobody. -/
theorem exists_findPlayer_playerEnterRequest (hp : game.getPlayer n = some p)
    (sSessionInfo : SSessionInfo) (nPlayerID : UInt64) (invokes : Invokes) :
    ∃ p', (game.playerEnterRequest sSessionInfo nPlayerID invokes).findPlayer n = some p' ∧
      p'.nObject = p.nObject := by
  have hold := (getPlayer_eq_some_iff.mp hp).1
  by_cases hn : nPlayerID = n
  · subst hn
    rw [playerEnterRequest, hp]
    refine ⟨{ p with
      nGateServiceID := sSessionInfo.nFromServiceID, eStatus := .normal, bBackup := true }, ?_,
      rfl⟩
    dsimp only
    split
    · rw [findPlayer_onPlayerLogin, if_pos rfl]
      rfl
    · rw [findPlayer_onPlayerLogin, if_pos rfl]
      rfl
  · refine ⟨p, ?_, rfl⟩
    rw [playerEnterRequest]
    split
    · split
      · exact hold
      · dsimp only
        split
        · rw [findPlayer_addRequest, findPlayer_beginCreatePlayer_of_ne (Ne.symm hn)]
          exact hold
        · rw [findPlayer_onCreatePlayer_of_ne hn,
            findPlayer_beginCreatePlayer_of_ne (Ne.symm hn)]
          exact hold
    · dsimp only
      split
      · rw [findPlayer_onPlayerLogin, if_neg hn, findPlayer_output, findPlayer_output,
          findPlayer_onPlayerLogout, if_neg hn]
        exact hold
      · rw [findPlayer_onPlayerLogin, if_neg hn, findPlayer_output, findPlayer_onPlayerLogout,
          if_neg hn]
        exact hold

/-- Where nobody is ready, nobody is to be spared. -/
theorem spares_of_none (h : ∀ n, game.getPlayer n = none) (e : Event) : e.Spares game := by
  have hnot : ∀ {n p}, game.getPlayer n ≠ some p := by
    intro n p hp
    rw [h n] at hp
    cases hp
  cases e with
  | heartbeat nPlayerID bInvoke => exact fun _ => h nPlayerID
  | heartbeatResponse nPlayerID nErrorType => exact fun _ p hp => absurd hp hnot
  | dbResponse nPlayerID nErrorCode bMessage =>
      exact fun request nObject sSessionInfo _ _ p hp => absurd hp hnot
  | dbTimeout nSessionID => exact fun request nObject sSessionInfo _ _ => h _
  | quit => exact h
  | _ => trivial

/-- A player other than the one that is destroyed goes on. -/
theorem backsUp_of_destroyPlayer {e : Event} {szMsg : String}
    (hnone : game.getPlayer nPlayerID = none)
    (hstep : game.step e = game.destroyPlayer nPlayerID szMsg) : e.BacksUp game := by
  refine backsUp_of_kept fun n p hp => ⟨p, ?_, rfl⟩
  rw [hstep, findPlayer_destroyPlayer, if_neg]
  · exact (getPlayer_eq_some_iff.mp hp).1
  · rintro rfl
    rw [hnone] at hp
    cases hp

theorem getPlayer_of_none (h : game.findPlayer n = none) : game.getPlayer n = none := by
  rw [getPlayer, h]
  rfl

/-- An event that changes no player. -/
theorem backsUp_of_same {e : Event}
    (hsame : ∀ n, (game.step e).findPlayer n = game.findPlayer n) : e.BacksUp game := by
  refine backsUp_of_kept fun n p hp => ⟨p, ?_, rfl⟩
  rw [hsame]
  exact (getPlayer_eq_some_iff.mp hp).1

/-- An event that replaces the record of one object. -/
theorem backsUp_of_setPlayer {e : Event} (p' : CPlayer)
    (hp : game.findPlayer nPlayerID = some p)
    (hstep : ∀ n, (game.step e).findPlayer n = (game.setPlayer nPlayerID p').findPlayer n)
    (hobject : p'.nObject = p.nObject) : e.BacksUp game := by
  refine backsUp_of_kept fun n q hq => ?_
  have hold := (getPlayer_eq_some_iff.mp hq).1
  rw [hstep, findPlayer_setPlayer]
  split
  · rename_i hn
    rw [hn, hold] at hp
    obtain rfl := Option.some.inj hp
    exact ⟨p', rfl, hobject⟩
  · exact ⟨q, hold, rfl⟩

theorem backsUp_heartbeat_iff {bInvoke : Bool}
    (hstep : game.step (.heartbeat nPlayerID bInvoke) = game.onHeartbeat nPlayerID bInvoke) :
    (Event.heartbeat nPlayerID bInvoke).BacksUp game ↔
      (bInvoke = false → game.getPlayer nPlayerID = none) := by
  rw [onHeartbeat] at hstep
  cases hold : game.findPlayer nPlayerID with
  | none =>
      refine iff_of_true (backsUp_of_same fun n => ?_) fun _ => getPlayer_of_none hold
      rw [hstep, hold]
  | some q =>
      rw [hold] at hstep
      cases bInvoke with
      | true =>
          refine iff_of_true (backsUp_of_setPlayer { q with nHeartbeat := q.nHeartbeat + 1 } hold
            (fun n => ?_) rfl) Bool.noConfusion
          rw [hstep]
          rfl
      | false =>
          constructor
          · intro hbacks _
            cases hready : game.getPlayer nPlayerID with
            | none => rfl
            | some p => exact absurd hbacks (not_backsUp_of_destroyPlayer _ hready hstep)
          · exact fun hnone => backsUp_of_destroyPlayer (hnone rfl) hstep

theorem backsUp_heartbeatResponse_iff {nErrorType : UInt32}
    (hstep : game.step (.heartbeatResponse nPlayerID nErrorType) =
      game.onHeartbeatResponse nPlayerID nErrorType) :
    (Event.heartbeatResponse nPlayerID nErrorType).BacksUp game ↔
      (nErrorType ≠ eRRT_OK → ∀ p, game.getPlayer nPlayerID = some p → p.nHeartbeat = 0) := by
  rw [onHeartbeatResponse] at hstep
  cases hold : game.findPlayer nPlayerID with
  | none =>
      refine iff_of_true (backsUp_of_same fun n => ?_) fun _ p hp => ?_
      · rw [hstep, hold]
      · rw [getPlayer_of_none hold] at hp
        cases hp
  | some q =>
      have hready : ∀ {p}, game.getPlayer nPlayerID = some p → p = q := by
        intro p hp
        have hfind := (getPlayer_eq_some_iff.mp hp).1
        exact Option.some.inj (hfind.symm.trans hold)
      simp only [hold] at hstep
      by_cases hwait : q.nHeartbeat = 0
      · rw [if_pos hwait] at hstep
        refine iff_of_true (backsUp_of_same fun n => by rw [hstep]) fun _ p hp => ?_
        rw [hready hp]
        exact hwait
      · rw [if_neg hwait] at hstep
        by_cases hok : nErrorType = eRRT_OK
        · rw [if_pos hok] at hstep
          refine iff_of_true (backsUp_of_setPlayer { q with nHeartbeat := q.nHeartbeat - 1 } hold
            (fun n => ?_) rfl) fun hne => absurd hok hne
          rw [hstep]
        · rw [if_neg hok] at hstep
          constructor
          · intro hbacks _ p hp
            exact absurd hbacks (not_backsUp_of_destroyPlayer _ hp hstep)
          · intro hzero
            refine backsUp_of_destroyPlayer ?_ hstep
            cases hp : game.getPlayer nPlayerID with
            | none => rfl
            | some p =>
                have hnone := hzero hok p hp
                rw [hready hp] at hnone
                exact absurd hnone hwait

theorem backsUp_dbResponse_iff {nErrorCode : UInt32} {bMessage : Bool}
    (hstep : game.step (.dbResponse nPlayerID nErrorCode bMessage) =
      game.onDbResponse nPlayerID nErrorCode bMessage) :
    (Event.dbResponse nPlayerID nErrorCode bMessage).BacksUp game ↔
      (Event.dbResponse nPlayerID nErrorCode bMessage).Spares game := by
  rw [Event.Spares]
  rw [onDbResponse] at hstep
  cases hfirst : game.firstRequest nPlayerID with
  | none =>
      refine iff_of_true (backsUp_of_same fun n => ?_) ?_
      · rw [hstep, hfirst]
      · intro request nObject sSessionInfo hrequest
        cases hrequest
  | some request =>
      simp only [hfirst] at hstep
      rw [backsUp_runCallback_iff hstep (fun n => rfl) rfl]
      constructor
      · intro hall request' nObject sSessionInfo hrequest hcallback
        obtain rfl := Option.some.inj hrequest
        exact hall nObject sSessionInfo hcallback
      · intro hall nObject sSessionInfo hcallback
        exact hall request nObject sSessionInfo rfl hcallback

theorem backsUp_dbTimeout_iff {nSessionID : ℕ}
    (hstep : game.step (.dbTimeout nSessionID) = game.onDbTimeout nSessionID) :
    (Event.dbTimeout nSessionID).BacksUp game ↔ (Event.dbTimeout nSessionID).Spares game := by
  rw [Event.Spares]
  rw [onDbTimeout] at hstep
  cases hfirst : game.requestOfSession nSessionID with
  | none =>
      refine iff_of_true (backsUp_of_same fun n => ?_) ?_
      · rw [hstep, hfirst]
      · intro request nObject sSessionInfo hrequest
        cases hrequest
  | some request =>
      simp only [hfirst] at hstep
      rw [backsUp_runCallback_iff hstep (fun n => rfl) rfl]
      constructor
      · intro hall request' nObject sSessionInfo hrequest hcallback
        obtain rfl := Option.some.inj hrequest
        cases hready : game.getPlayer request.nPlayerID with
        | none => rfl
        | some p => exact absurd (hall nObject sSessionInfo hcallback p hready).1 (by decide)
      · intro hall nObject sSessionInfo hcallback p hp
        rw [hall request nObject sSessionInfo rfl hcallback] at hp
        cases hp

theorem backsUp_quit_iff (hstep : game.step .quit = game.onQuit) :
    Event.quit.BacksUp game ↔ ∀ n, game.getPlayer n = none := by
  constructor
  · intro hbacks n
    cases hready : game.getPlayer n with
    | none => rfl
    | some p =>
        refine absurd hbacks (not_backsUp_of_gone [] hready ?_ ?_ ?_)
        · rw [hstep]
          simp [findPlayer, onQuit]
        · rw [hstep, List.append_nil]
          rfl
        · exact fun q m hm => List.not_mem_nil hm
  · intro hnone n p hp
    rw [hnone n] at hp
    cases hp

theorem backsUp_iff (h : game.Sound) (e : Event) : e.BacksUp game ↔ e.Spares game := by
  cases hquit : game.bQuit with
  | true =>
      have hnone : ∀ n, game.getPlayer n = none :=
        fun n => getPlayer_of_none (h.released hquit n)
      refine iff_of_true (fun n p hp => ?_) (spares_of_none hnone e)
      rw [hnone n] at hp
      cases hp
  | false =>
      have hstep : game.step e = game.handle e := by
        rw [step, hquit]
        rfl
      cases e with
      | playerEnterRequest sSessionInfo nPlayerID invokes =>
          refine iff_of_true (backsUp_of_kept fun n p hp => ?_) trivial
          rw [hstep]
          exact exists_findPlayer_playerEnterRequest hp sSessionInfo nPlayerID invokes
      | playerLeaveNotify nFromServiceID nPlayerID =>
          exact iff_of_true (backsUp_of_logoutReady hstep) trivial
      | playerHeartbeatNotify nFromServiceID nPlayerID =>
          refine iff_of_true (backsUp_of_same fun n => ?_) trivial
          rw [hstep, handle, playerHeartbeatNotify]
          split
          · rfl
          · split <;> rfl
      | kickPlayerNotify nPlayerID => exact iff_of_true (backsUp_of_logoutReady hstep) trivial
      | gateDisconnect nGateServiceID =>
          exact iff_of_true (backsUp_gateDisconnect h hstep) trivial
      | heartbeat nPlayerID bInvoke => exact backsUp_heartbeat_iff hstep
      | heartbeatResponse nPlayerID nErrorType => exact backsUp_heartbeatResponse_iff hstep
      | backup nPlayerID =>
          refine iff_of_true (backsUp_of_same fun n => ?_) trivial
          rw [hstep, handle, onBackupTicker]
          split
          · rfl
          · split <;> rfl
      | dbResponse nPlayerID nErrorCode bMessage => exact backsUp_dbResponse_iff hstep
      | dbTimeout nSessionID => exact backsUp_dbTimeout_iff hstep
      | quit => exact backsUp_quit_iff hstep

/-- In every history, every player who is ready is backed up before its object ends if and
only if no event ends such a player without logging it out. -/
theorem backsUp_throughout_iff (events : List Event) :
    (∀ ks e, ks ++ [e] <+: events → e.BacksUp (ks.foldl step {})) ↔
      ∀ ks e, ks ++ [e] <+: events → e.Spares (ks.foldl step {}) := by
  constructor
  · intro h ks e hks
    exact (backsUp_iff (sound_foldl ks) e).mp (h ks e hks)
  · intro h ks e hks
    exact (backsUp_iff (sound_foldl ks) e).mpr (h ks e hks)

/-- Player 7 enters through the gate 1 and is loaded. -/
def enterEvents : List Event :=
  [.playerEnterRequest ⟨1, 10⟩ 7 {}, .dbResponse 7 1 true, .dbResponse 7 1 true,
    .dbResponse 7 1 true, .dbResponse 7 1 false]

/-- The user center does not answer the heartbeat of the player. -/
theorem not_backsUp_heartbeatTimeout :
    ¬ ∀ ks e, ks ++ [e] <+: enterEvents ++ [.heartbeatResponse 7 eRRT_TIME_OUT] →
      e.BacksUp (ks.foldl step {}) := by
  intro h
  have hready : ∃ p, (enterEvents.foldl step {}).getPlayer 7 = some p := ⟨_, rfl⟩
  obtain ⟨p, hp⟩ := hready
  have hbacks := h enterEvents (.heartbeatResponse 7 eRRT_TIME_OUT) List.prefix_rfl
  exact not_backsUp_of_destroyPlayer "heartbeat timeout" hp rfl hbacks

end CGameService

end RealtimeEx.Game
