import RealtimeEx.Game.Player
import RealtimeEx.Support.History

/-!
# What holds of the players at all times

Every object in the manager is there once, under the id of its player.  While a call of
`createPlayer` is suspended, every module of the object it created has been loaded, has
failed, or has a request that the database service answers first.
-/

namespace RealtimeEx.Game

/-! ## Records of one object -/

/-- The record of an object is replaced by another one that has lost nothing. -/
structure CPlayer.Continues (p p' : CPlayer) : Prop where
  nObject : p'.nObject = p.nObject
  nPlayerID : p'.nPlayerID = p.nPlayerID
  loaded : p.setModuleLoadData ⊆ p'.setModuleLoadData
  failed : p.setModuleLoadDataError ⊆ p'.setModuleLoadDataError

/-- Besides, the player is as ready as before, and at the same gate. -/
structure CPlayer.Stays (p p' : CPlayer) : Prop extends CPlayer.Continues p p' where
  nGateServiceID : p'.nGateServiceID = p.nGateServiceID
  eStatus : p'.eStatus = p.eStatus
  bBackup : p'.bBackup = p.bBackup

theorem CPlayer.Continues.refl (p : CPlayer) : p.Continues p :=
  ⟨rfl, rfl, fun _ h => h, fun _ h => h⟩

theorem CPlayer.Continues.trans {p p' p'' : CPlayer} (h : p.Continues p')
    (h' : p'.Continues p'') : p.Continues p'' where
  nObject := h'.nObject.trans h.nObject
  nPlayerID := h'.nPlayerID.trans h.nPlayerID
  loaded := h.loaded.trans h'.loaded
  failed := h.failed.trans h'.failed

theorem CPlayer.stays_onLoadData (p : CPlayer) (eModuleType : EPlayerModuleType)
    (nErrorCode : UInt32) (bMessage : Bool) :
    p.Stays (p.onLoadData eModuleType nErrorCode bMessage) := by
  rw [CPlayer.onLoadData]
  split
  · exact ⟨⟨rfl, rfl, fun _ h => h, Finset.subset_insert _ _⟩, rfl, rfl, rfl⟩
  · exact ⟨⟨rfl, rfl, Finset.subset_insert _ _, fun _ h => h⟩, rfl, rfl, rfl⟩

/-- A module has been loaded, or has failed. -/
def CPlayer.Settled (p : CPlayer) (eModuleType : EPlayerModuleType) : Prop :=
  eModuleType ∈ p.setModuleLoadData ∨ eModuleType ∈ p.setModuleLoadDataError

theorem CPlayer.Settled.continues {p p' : CPlayer} {eModuleType : EPlayerModuleType}
    (h : p.Settled eModuleType) (hp : p.Continues p') : p'.Settled eModuleType :=
  h.imp (hp.loaded ·) (hp.failed ·)

theorem CPlayer.settled_onLoadData (p : CPlayer) (eModuleType : EPlayerModuleType)
    (nErrorCode : UInt32) (bMessage : Bool) :
    (p.onLoadData eModuleType nErrorCode bMessage).Settled eModuleType := by
  rw [CPlayer.onLoadData]
  split
  · exact .inr (Finset.mem_insert_self _ _)
  · exact .inl (Finset.mem_insert_self _ _)

/-- The object that a callback belongs to. -/
def DbCallback.nObject : DbCallback → ℕ
  | .loadModule nObject _ => nObject
  | .createPlayer nObject _ => nObject

namespace CGameService

variable {game game' : CGameService} {nPlayerID n : UInt64} {player p p' : CPlayer}
  {nObject : ℕ} {eModuleType : EPlayerModuleType}

theorem continues_loggedOut (p : CPlayer) : p.Continues (loggedOut p) :=
  ⟨rfl, rfl, fun _ h => h, fun _ h => h⟩

/-! ## The invariant -/

/-- A module of the object of a player has a request with a smaller session. -/
def Requested (game : CGameService) (nSession : ℕ) (nPlayerID : UInt64) (nObject : ℕ)
    (eModuleType : EPlayerModuleType) : Prop :=
  ∃ request ∈ game.listDbRequest, request.nSessionID < nSession ∧
    request.nPlayerID = nPlayerID ∧ request.callback = some (.loadModule nObject eModuleType)

/-- What holds of the manager and of the requests at all times. -/
structure Sound (game : CGameService) : Prop where
  keyed : ∀ {n p}, game.findPlayer n = some p → p.nPlayerID = n
  created : ∀ {n p}, game.findPlayer n = some p → p.nObject < game.nNextObject
  unique : ∀ {n n' p p'}, game.findPlayer n = some p → game.findPlayer n' = some p' →
    p.nObject = p'.nObject → n = n'
  ordered : game.listDbRequest.Pairwise fun r r' => r.nSessionID < r'.nSessionID
  issued : ∀ {r}, r ∈ game.listDbRequest → r.nSessionID < game.nNextSessionID
  asked : ∀ {r callback}, r ∈ game.listDbRequest → r.callback = some callback →
    callback.nObject < game.nNextObject
  awaited : ∀ {r nObject sSessionInfo p}, r ∈ game.listDbRequest →
    r.callback = some (.createPlayer nObject sSessionInfo) →
      game.findPlayer r.nPlayerID = some p → p.nObject = nObject → ∀ eModuleType,
        p.Settled eModuleType ∨ game.Requested r.nSessionID r.nPlayerID nObject eModuleType
  released : game.bQuit = true → ∀ n, game.findPlayer n = none

theorem sound_empty : CGameService.Sound {} where
  keyed h := by simp [findPlayer] at h
  created h := by simp [findPlayer] at h
  unique h := by simp [findPlayer] at h
  ordered := List.Pairwise.nil
  issued h := by simp at h
  asked h := by simp at h
  awaited h := by simp at h
  released h := by cases h

/-- Objects go on or end, and the requests stay. -/
theorem Sound.of_continues (h : game.Sound)
    (hmap : ∀ n p', game'.findPlayer n = some p' →
      ∃ p, game.findPlayer n = some p ∧ p.Continues p')
    (hlist : game'.listDbRequest = game.listDbRequest)
    (hobject : game'.nNextObject = game.nNextObject)
    (hsession : game'.nNextSessionID = game.nNextSessionID)
    (hquit : game'.bQuit = game.bQuit) : game'.Sound where
  keyed hp' := by
    obtain ⟨p, hp, hcont⟩ := hmap _ _ hp'
    rw [hcont.nPlayerID]
    exact h.keyed hp
  created hp' := by
    obtain ⟨p, hp, hcont⟩ := hmap _ _ hp'
    rw [hcont.nObject, hobject]
    exact h.created hp
  unique hp' hq' hsame := by
    obtain ⟨p, hp, hcont⟩ := hmap _ _ hp'
    obtain ⟨q, hq, hcont'⟩ := hmap _ _ hq'
    apply h.unique hp hq
    rw [← hcont.nObject, ← hcont'.nObject]
    exact hsame
  ordered := by
    rw [hlist]
    exact h.ordered
  issued hr := by
    rw [hlist] at hr
    rw [hsession]
    exact h.issued hr
  asked hr := by
    rw [hlist] at hr
    rw [hobject]
    exact h.asked hr
  awaited hr hcallback hp' hsame eModuleType := by
    rw [hlist] at hr
    obtain ⟨p, hp, hcont⟩ := hmap _ _ hp'
    rw [Requested, hlist]
    exact (h.awaited hr hcallback hp (hcont.nObject.symm.trans hsame) eModuleType).imp_left
      (·.continues hcont)
  released hq n := by
    rw [hquit] at hq
    cases hfind : game'.findPlayer n with
    | none => rfl
    | some p' =>
        obtain ⟨p, hp, -⟩ := hmap _ _ hfind
        rw [h.released hq n] at hp
        cases hp

/-- Outputs do not matter. -/
theorem Sound.output (h : game.Sound) (outputs : List GameOutput) :
    CGameService.Sound { game with outputs } :=
  h.of_continues (fun _ p' hp' => ⟨p', hp', .refl p'⟩) rfl rfl rfl rfl

theorem Sound.setPlayer (h : game.Sound) (hp : game.findPlayer n = some p)
    (hcont : p.Continues p') : (game.setPlayer n p').Sound := by
  refine h.of_continues ?_ rfl rfl rfl rfl
  intro n' q' hq'
  rw [findPlayer_setPlayer] at hq'
  split at hq'
  · rename_i hn
    obtain rfl := Option.some.inj hq'
    rw [← hn]
    exact ⟨p, hp, hcont⟩
  · exact ⟨q', hq', .refl q'⟩

/-- Requests are answered or dropped; those of modules only when they are settled, or with
their object. -/
theorem Sound.of_requests (h : game.Sound) {requests : List SDbRequest}
    (hordered : requests.Pairwise fun r r' => r.nSessionID < r'.nSessionID)
    (hissued : ∀ r ∈ requests, r.nSessionID < game.nNextSessionID)
    (hold : ∀ r ∈ requests, ∀ callback, r.callback = some callback → r ∈ game.listDbRequest)
    (hgone : ∀ r ∈ game.listDbRequest, ∀ nObject eModuleType,
      r.callback = some (.loadModule nObject eModuleType) → r ∈ requests ∨
        ∀ p, game.findPlayer r.nPlayerID = some p → p.nObject = nObject →
          p.Settled eModuleType) :
    CGameService.Sound { game with listDbRequest := requests } where
  keyed := h.keyed
  created := h.created
  unique := h.unique
  ordered := hordered
  issued hr := hissued _ hr
  asked hr hcallback := h.asked (hold _ hr _ hcallback) hcallback
  awaited hr hcallback hp hsame eModuleType := by
    have hbefore := hold _ hr _ hcallback
    rcases h.awaited hbefore hcallback hp hsame eModuleType with hdone | hwait
    · exact .inl hdone
    · obtain ⟨r', hr', hless, hid, hload⟩ := hwait
      rcases hgone r' hr' _ _ hload with hstays | hdone
      · exact .inr ⟨r', hstays, hless, hid, hload⟩
      · rw [hid] at hdone
        exact .inl (hdone _ hp hsame)
  released := h.released

/-- What the callback of a request is to do has been done. -/
def SettledBy (game : CGameService) (request : SDbRequest) : Prop :=
  ∀ nObject eModuleType, request.callback = some (.loadModule nObject eModuleType) →
    ∀ p, game.findPlayer request.nPlayerID = some p → p.nObject = nObject →
      p.Settled eModuleType

theorem Sound.erase (h : game.Sound) {request : SDbRequest} (hdone : game.SettledBy request) :
    CGameService.Sound { game with listDbRequest := game.listDbRequest.erase request } := by
  apply h.of_requests
  · exact h.ordered.sublist List.erase_sublist
  · intro r hr
    exact h.issued (List.mem_of_mem_erase hr)
  · intro r hr callback hcallback
    exact List.mem_of_mem_erase hr
  · intro r hr nObject eModuleType hload
    by_cases hsame : r = request
    · subst hsame
      exact .inr (hdone nObject eModuleType hload)
    · exact .inl ((List.mem_erase_of_ne hsame).mpr hr)

theorem Sound.dropRequests (h : game.Sound) {drop : SDbRequest → Bool}
    (hdone : ∀ request ∈ game.listDbRequest, drop request = true → game.SettledBy request) :
    (game.dropRequests drop).Sound := by
  apply h.of_requests
  · rw [List.pairwise_map]
    refine h.ordered.imp ?_
    intro r r' hless
    split <;> split <;> exact hless
  · intro r hr
    obtain ⟨r₀, hr₀, rfl⟩ := List.mem_map.mp hr
    have hissued := h.issued hr₀
    split <;> exact hissued
  · intro r hr callback hcallback
    obtain ⟨r₀, hr₀, rfl⟩ := List.mem_map.mp hr
    split at hcallback
    · cases hcallback
    · rename_i hkept
      rw [if_neg hkept]
      exact hr₀
  · intro r hr nObject eModuleType hload
    by_cases hdrop : drop r = true
    · exact .inr (hdone r hr hdrop nObject eModuleType hload)
    · refine .inl (List.mem_map.mpr ⟨r, hr, ?_⟩)
      rw [if_neg hdrop]

theorem Sound.destroyPlayer (h : game.Sound) (nPlayerID : UInt64) (szMsg : String) :
    (game.destroyPlayer nPlayerID szMsg).Sound := by
  cases hp : game.findPlayer nPlayerID with
  | none =>
      rw [destroyPlayer_of_none hp]
      exact h
  | some p =>
      rw [destroyPlayer_of_some hp]
      have hfind : ∀ n, CGameService.findPlayer { game with
          mapPlayer := game.mapPlayer.erase nPlayerID } n =
            if nPlayerID = n then none else game.findPlayer n :=
        fun n => StdMap.getElem?_erase
      have herased : CGameService.Sound { game with
          mapPlayer := game.mapPlayer.erase nPlayerID } := by
        refine h.of_continues ?_ rfl rfl rfl rfl
        intro n p' hp'
        rw [hfind] at hp'
        split at hp'
        · cases hp'
        · exact ⟨p', hp', .refl p'⟩
      refine (herased.dropRequests ?_).output _
      -- The object of a dropped request was the one that is gone.
      intro request hmem hdrop nObject eModuleType hload q hq hsame
      have hobject : nObject = p.nObject := by
        rw [ofObject, hload] at hdrop
        exact of_decide_eq_true hdrop
      rw [hfind] at hq
      split at hq
      · cases hq
      · rename_i hn
        exact absurd (h.unique hp hq (hobject.symm.trans hsame.symm)) hn

/-! ## Creating a player -/

theorem Sound.addRequest (h : game.Sound) {callback : DbCallback}
    (hobject : callback.nObject < game.nNextObject)
    (hcreate : ∀ nObject sSessionInfo, callback = .createPlayer nObject sSessionInfo →
      ∀ p, game.findPlayer nPlayerID = some p → p.nObject = nObject → ∀ eModuleType,
        p.Settled eModuleType ∨
          game.Requested game.nNextSessionID nPlayerID nObject eModuleType) :
    (game.addRequest nPlayerID callback).Sound where
  keyed := h.keyed
  created := h.created
  unique := h.unique
  ordered := by
    refine List.pairwise_append.mpr ⟨h.ordered, List.pairwise_singleton _ _, ?_⟩
    intro r hr r' hr'
    obtain rfl := List.mem_singleton.mp hr'
    exact h.issued hr
  issued hr := by
    rcases List.mem_append.mp hr with hold | hnew
    · exact Nat.lt_succ_of_lt (h.issued hold)
    · obtain rfl := List.mem_singleton.mp hnew
      exact Nat.lt_succ_self _
  asked hr hcallback := by
    rcases List.mem_append.mp hr with hold | hnew
    · exact h.asked hold hcallback
    · obtain rfl := List.mem_singleton.mp hnew
      obtain rfl := Option.some.inj hcallback
      exact hobject
  awaited hr hcallback hp hsame eModuleType := by
    have hmore : ∀ {nSession nPlayerID' nObject}, game.Requested nSession nPlayerID' nObject
        eModuleType → (game.addRequest nPlayerID callback).Requested nSession nPlayerID'
          nObject eModuleType := by
      rintro nSession nPlayerID' nObject ⟨r, hr, hrest⟩
      exact ⟨r, List.mem_append_left _ hr, hrest⟩
    rcases List.mem_append.mp hr with hold | hnew
    · exact (h.awaited hold hcallback hp hsame eModuleType).imp_right hmore
    · obtain rfl := List.mem_singleton.mp hnew
      exact (hcreate _ _ (Option.some.inj hcallback) _ hp hsame eModuleType).imp_right hmore
  released := h.released

/-- The player that `createPlayer` has put into the manager: not ready, and each of the
modules has failed or is requested. -/
structure Creating (game : CGameService) (nPlayerID : UInt64) (nObject : ℕ)
    (modules : List EPlayerModuleType) : Prop extends Sound game where
  exists_player : ∃ p, game.findPlayer nPlayerID = some p ∧ p.nObject = nObject ∧
    p.eStatus = .loadData ∧ p.bBackup = false ∧ ∀ eModuleType ∈ modules,
      p.Settled eModuleType ∨
        game.Requested game.nNextSessionID nPlayerID nObject eModuleType

theorem Creating.loadModule {modules : List EPlayerModuleType}
    (h : game.Creating nPlayerID nObject modules) (bInvoke : Bool)
    (eModuleType : EPlayerModuleType) :
    (game.loadModule nPlayerID nObject bInvoke eModuleType).Creating nPlayerID nObject
      (modules ++ [eModuleType]) := by
  obtain ⟨p, hp, hobject, hstatus, hbackup, hall⟩ := h.exists_player
  have hcreated := h.created hp
  rw [hobject] at hcreated
  rw [CGameService.loadModule]
  split
  · constructor
    · refine h.addRequest ?_ ?_
      · exact hcreated
      · intro nObject' sSessionInfo hcallback
        cases hcallback
    · refine ⟨p, hp, hobject, hstatus, hbackup, ?_⟩
      intro m hm
      rcases List.mem_append.mp hm with hold | hnew
      · refine (hall m hold).imp_right ?_
        rintro ⟨r, hr, hless, hrest⟩
        exact ⟨r, List.mem_append_left _ hr, Nat.lt_succ_of_lt hless, hrest⟩
      · obtain rfl := List.mem_singleton.mp hnew
        refine .inr ⟨_, List.mem_append_right _ (List.mem_singleton.mpr rfl), ?_, rfl, rfl⟩
        exact Nat.lt_succ_self _
  · rw [hp]
    have hstays := p.stays_onLoadData eModuleType eRRT_ERROR false
    constructor
    · exact h.setPlayer hp hstays.toContinues
    · refine ⟨_, by rw [findPlayer_setPlayer, if_pos rfl], hstays.nObject.trans hobject,
        hstays.eStatus.trans hstatus, hstays.bBackup.trans hbackup, ?_⟩
      intro m hm
      rcases List.mem_append.mp hm with hold | hnew
      · exact (hall m hold).imp_left (·.continues hstays.toContinues)
      · obtain rfl := List.mem_singleton.mp hnew
        exact .inl (p.settled_onLoadData _ _ _)

theorem Creating.foldl_loadModule {modules : List EPlayerModuleType}
    (h : game.Creating nPlayerID nObject modules) (bInvoke : EPlayerModuleType → Bool)
    (more : List EPlayerModuleType) :
    (more.foldl (fun game eModuleType =>
      game.loadModule nPlayerID nObject (bInvoke eModuleType) eModuleType) game).Creating
        nPlayerID nObject (modules ++ more) := by
  induction more generalizing game modules with
  | nil =>
      rw [List.append_nil]
      exact h
  | cons eModuleType more ih =>
      have hnext := ih (h.loadModule (bInvoke eModuleType) eModuleType)
      rw [List.append_assoc] at hnext
      exact hnext

/-- A new object is put into the manager. -/
theorem Sound.newPlayer (h : game.Sound) (hquit : game.bQuit = false)
    (outputs : List GameOutput) (hid : player.nPlayerID = nPlayerID)
    (hobject : player.nObject = game.nNextObject) : CGameService.Sound
      ({ game with nNextObject := game.nNextObject + 1, outputs }.setPlayer nPlayerID player) := by
  have hfind : ∀ n p, CGameService.findPlayer
      ({ game with nNextObject := game.nNextObject + 1, outputs }.setPlayer nPlayerID player)
        n = some p → n = nPlayerID ∧ p = player ∨ game.findPlayer n = some p := by
    intro n p hp
    rw [findPlayer_setPlayer] at hp
    split at hp
    · rename_i hn
      exact .inl ⟨hn.symm, (Option.some.inj hp).symm⟩
    · exact .inr hp
  -- No older object is the new one.
  have holder : ∀ n p, game.findPlayer n = some p → p.nObject ≠ player.nObject := by
    intro n p hp hsame
    have hless := h.created hp
    rw [hsame, hobject] at hless
    exact lt_irrefl _ hless
  constructor
  case keyed =>
    intro n p hp
    rcases hfind n p hp with ⟨rfl, rfl⟩ | hold
    · exact hid
    · exact h.keyed hold
  case created =>
    intro n p hp
    rcases hfind n p hp with ⟨rfl, rfl⟩ | hold
    · rw [hobject]
      exact Nat.lt_succ_self _
    · exact Nat.lt_succ_of_lt (h.created hold)
  case unique =>
    intro n n' p p' hp hp' hsame
    rcases hfind n p hp with ⟨rfl, rfl⟩ | hold
    · rcases hfind n' p' hp' with ⟨rfl, rfl⟩ | hold'
      · rfl
      · exact absurd hsame.symm (holder _ _ hold')
    · rcases hfind n' p' hp' with ⟨rfl, rfl⟩ | hold'
      · exact absurd hsame (holder _ _ hold)
      · exact h.unique hold hold' hsame
  case ordered => exact h.ordered
  case issued => exact h.issued
  case asked =>
    intro r callback hr hcallback
    exact Nat.lt_succ_of_lt (h.asked hr hcallback)
  case awaited =>
    intro r nObject sSessionInfo p hr hcallback hp hsame
    rcases hfind r.nPlayerID p hp with ⟨-, rfl⟩ | hold
    · -- Nobody waits for the new object yet.
      have hless := h.asked hr hcallback
      rw [DbCallback.nObject, ← hsame, hobject] at hless
      exact absurd hless (lt_irrefl _)
    · exact h.awaited hr hcallback hold hsame
  case released =>
    intro hq
    exact absurd (hq.symm.trans hquit) Bool.noConfusion

theorem Sound.beginCreatePlayer (h : game.Sound) (hquit : game.bQuit = false)
    (nPlayerID : UInt64) (nGateServiceID : UInt32) (invokes : Invokes) :
    (game.beginCreatePlayer nPlayerID nGateServiceID invokes).Creating nPlayerID
      game.nNextObject zPlayerModule := by
  have hcreating : ∀ (outputs : List GameOutput) (nHeartbeat : ℕ),
      CGameService.Creating
        ({ game with nNextObject := game.nNextObject + 1, outputs }.setPlayer nPlayerID
          { nObject := game.nNextObject, nPlayerID, nGateServiceID, nHeartbeat,
            eStatus := .loadData }) nPlayerID game.nNextObject [] := by
    intro outputs nHeartbeat
    refine ⟨h.newPlayer hquit outputs rfl rfl, _, by rw [findPlayer_setPlayer, if_pos rfl],
      rfl, rfl, rfl, ?_⟩
    intro m hm
    cases hm
  rw [CGameService.beginCreatePlayer]
  dsimp only
  split
  · exact (hcreating _ _).foldl_loadModule invokes.bLoadData zPlayerModule
  · exact (hcreating _ _).foldl_loadModule invokes.bLoadData zPlayerModule

/-! ## What creating a player leaves alone -/

theorem findPlayer_loadModule_of_ne (hn : n ≠ nPlayerID) (bInvoke : Bool) :
    (game.loadModule nPlayerID nObject bInvoke eModuleType).findPlayer n =
      game.findPlayer n := by
  rw [loadModule]
  split
  · rfl
  · split
    · rfl
    · rw [findPlayer_setPlayer, if_neg (Ne.symm hn)]

theorem findPlayer_beginCreatePlayer_of_ne (hn : n ≠ nPlayerID) (nGateServiceID : UInt32)
    (invokes : Invokes) :
    (game.beginCreatePlayer nPlayerID nGateServiceID invokes).findPlayer n =
      game.findPlayer n := by
  have hfold : ∀ (nObject : ℕ) (modules : List EPlayerModuleType) (game : CGameService),
      (modules.foldl (fun game eModuleType => game.loadModule nPlayerID nObject
        (invokes.bLoadData eModuleType) eModuleType) game).findPlayer n =
          game.findPlayer n := by
    intro nObject modules
    induction modules with
    | nil => exact fun _ => rfl
    | cons eModuleType modules ih =>
        intro game
        rw [List.foldl_cons, ih, findPlayer_loadModule_of_ne hn]
  rw [beginCreatePlayer]
  dsimp only
  rw [hfold, findPlayer_setPlayer, if_neg (Ne.symm hn)]
  split <;> rfl

/-! ## Every event keeps the invariant -/

theorem Sound.onPlayerLogin (h : game.Sound) (hp : game.findPlayer n = some p)
    (hcont : p.Continues p') : (game.onPlayerLogin n p').Sound := by
  have hready : p.Continues { p' with eStatus := .normal, bBackup := true } :=
    hcont.trans ⟨rfl, rfl, fun _ h => h, fun _ h => h⟩
  exact (h.setPlayer hp hready).output _

theorem Sound.onPlayerLogout (h : game.Sound) (hp : game.findPlayer n = some p) :
    (game.onPlayerLogout n p).Sound :=
  (h.setPlayer hp (continues_loggedOut p)).output _

theorem Sound.onHeartbeat (h : game.Sound) (nPlayerID : UInt64) (bInvoke : Bool) :
    (game.onHeartbeat nPlayerID bInvoke).Sound := by
  rw [CGameService.onHeartbeat]
  split
  · exact h
  · rename_i p hp
    split
    · have hcont : p.Continues { p with nHeartbeat := p.nHeartbeat + 1 } :=
        ⟨rfl, rfl, fun _ h => h, fun _ h => h⟩
      exact (h.setPlayer hp hcont).output _
    · exact h.destroyPlayer _ _

theorem Sound.onHeartbeatResponse (h : game.Sound) (nPlayerID : UInt64)
    (nErrorType : UInt32) : (game.onHeartbeatResponse nPlayerID nErrorType).Sound := by
  rw [CGameService.onHeartbeatResponse]
  split
  · exact h
  · rename_i p hp
    split
    · exact h
    · split
      · have hcont : p.Continues { p with nHeartbeat := p.nHeartbeat - 1 } :=
          ⟨rfl, rfl, fun _ h => h, fun _ h => h⟩
        exact h.setPlayer hp hcont
      · exact h.destroyPlayer _ _

theorem createdPlayer_eq_some_iff {nErrorCode : UInt32} :
    game.createdPlayer n nErrorCode = some p ↔
      game.findPlayer n = some p ∧ nErrorCode = eRRT_OK ∧ p.hasModuleLoadDataError = false := by
  rw [createdPlayer, Option.filter_eq_some_iff, decide_eq_true_iff]

/-- `createPlayer` ends with the player as it is, or destroys it. -/
theorem endCreatePlayer_cases (nPlayerID : UInt64) (nErrorCode : UInt32) :
    game.endCreatePlayer nPlayerID nErrorCode = game ∨
      ∃ szMsg, game.endCreatePlayer nPlayerID nErrorCode = game.destroyPlayer nPlayerID szMsg := by
  rw [CGameService.endCreatePlayer]
  split
  · exact .inl rfl
  · split
    · exact .inr ⟨_, rfl⟩
    · split
      · exact .inr ⟨_, rfl⟩
      · exact .inl rfl

/-- A player that is returned stays in the manager. -/
theorem endCreatePlayer_of_created {nErrorCode : UInt32}
    (h : game.createdPlayer n nErrorCode = some p) : game.endCreatePlayer n nErrorCode = game := by
  obtain ⟨hp, rfl, herror⟩ := createdPlayer_eq_some_iff.mp h
  rw [endCreatePlayer, hp]
  simp only [ne_eq, not_true_eq_false, if_false, herror, Bool.false_eq_true]

theorem Sound.endCreatePlayer (h : game.Sound) (nPlayerID : UInt64) (nErrorCode : UInt32) :
    (game.endCreatePlayer nPlayerID nErrorCode).Sound := by
  rcases endCreatePlayer_cases nPlayerID nErrorCode with hsame | ⟨szMsg, hdestroy⟩
  · rw [hsame]
    exact h
  · rw [hdestroy]
    exact h.destroyPlayer _ _

theorem Sound.onCreatePlayer (h : game.Sound) (nPlayerID : UInt64) (nObject : ℕ)
    (sSessionInfo : SSessionInfo) (nErrorCode : UInt32) :
    (game.onCreatePlayer nPlayerID nObject sSessionInfo nErrorCode).Sound := by
  have hend := h.endCreatePlayer nPlayerID nErrorCode
  rw [CGameService.onCreatePlayer]
  split
  · exact (hend.output _).output _
  · rename_i p hcreated
    have hp := (createdPlayer_eq_some_iff.mp hcreated).1
    rw [endCreatePlayer_of_created hcreated]
    exact ((h.output _).output _).onPlayerLogin hp (.refl p)

theorem Sound.playerEnterRequest (h : game.Sound) (hquit : game.bQuit = false)
    (sSessionInfo : SSessionInfo) (nPlayerID : UInt64) (invokes : Invokes) :
    (game.playerEnterRequest sSessionInfo nPlayerID invokes).Sound := by
  rw [CGameService.playerEnterRequest]
  split
  · split
    · exact h.output _
    · have hbegin := h.beginCreatePlayer hquit nPlayerID sSessionInfo.nFromServiceID invokes
      obtain ⟨p, hp, hobject, -, -, hall⟩ := hbegin.exists_player
      dsimp only
      split
      · refine hbegin.addRequest ?_ ?_
        · rw [DbCallback.nObject, ← hobject]
          exact hbegin.created hp
        · intro nObject sSessionInfo' hcallback q hq hsame m
          obtain ⟨rfl, -⟩ := DbCallback.createPlayer.inj hcallback
          rw [hp] at hq
          obtain rfl := Option.some.inj hq
          exact hall m (mem_zPlayerModule m)
      · exact hbegin.toSound.onCreatePlayer _ _ _ _
  · rename_i p hready
    have hp := (getPlayer_eq_some_iff.mp hready).1
    have hout := h.onPlayerLogout hp
    have hfind : (game.onPlayerLogout nPlayerID p).findPlayer nPlayerID = some (loggedOut p) := by
      rw [findPlayer_onPlayerLogout, if_pos rfl]
    have hcont : (loggedOut p).Continues
        { loggedOut p with nGateServiceID := sSessionInfo.nFromServiceID } :=
      ⟨rfl, rfl, fun _ h => h, fun _ h => h⟩
    dsimp only
    split
    · exact ((hout.output _).output _).onPlayerLogin hfind hcont
    · exact (hout.output _).onPlayerLogin hfind hcont

theorem Sound.logoutReady (h : game.Sound) (nPlayerID : UInt64)
    (notify : CPlayer → GameOutput) : (game.logoutReady nPlayerID notify).Sound := by
  rw [CGameService.logoutReady]
  split
  · exact h
  · rename_i p hready
    exact (h.onPlayerLogout (getPlayer_eq_some_iff.mp hready).1).output _

theorem mem_playersOfGate {nGateServiceID : UInt32} :
    p ∈ game.playersOfGate nGateServiceID ↔
      (∃ n, game.findPlayer n = some p) ∧ p.nGateServiceID = nGateServiceID := by
  rw [playersOfGate, List.mem_filter, decide_eq_true_iff, List.mem_map]
  refine and_congr_left fun _ => ?_
  constructor
  · rintro ⟨entry, hentry, rfl⟩
    exact ⟨entry.1, Std.ExtTreeMap.mem_toList_iff_getElem?_eq_some.mp hentry⟩
  · rintro ⟨n, hp⟩
    exact ⟨(n, p), Std.ExtTreeMap.mem_toList_iff_getElem?_eq_some.mpr hp, rfl⟩

/-- The first loop of `onGateDisconnect` only replaces players. -/
theorem foldl_gateLogout_eq (players : List CPlayer) (game : CGameService) :
    ∃ outputs, players.foldl gateLogout game = { game with
      mapPlayer := players.foldl
        (fun m player => m.insert player.nPlayerID (loggedOut player)) game.mapPlayer
      outputs } := by
  induction players generalizing game with
  | nil => exact ⟨game.outputs, rfl⟩
  | cons player players ih =>
      obtain ⟨outputs, heq⟩ := ih (game.gateLogout player)
      exact ⟨outputs, heq⟩

theorem Sound.onGateDisconnect (h : game.Sound) (nGateServiceID : UInt32) :
    (game.onGateDisconnect nGateServiceID).Sound := by
  have hdestroy : ∀ (players : List CPlayer) {game : CGameService}, game.Sound →
      (players.foldl (fun game player =>
        game.destroyPlayer player.nPlayerID "gate disconnect") game).Sound := by
    intro players
    induction players with
    | nil => exact id
    | cons player players ih => exact fun hsound => ih (hsound.destroyPlayer _ _)
  rw [CGameService.onGateDisconnect]
  apply hdestroy
  obtain ⟨outputs, heq⟩ := foldl_gateLogout_eq (game.playersOfGate nGateServiceID) game
  rw [heq]
  refine h.of_continues ?_ rfl rfl rfl rfl
  intro n p' hp'
  rcases StdMap.exists_of_getElem?_foldl_insert hp' with hold | ⟨p, hmem, hid, rfl⟩
  · exact ⟨p', hold, .refl p'⟩
  · obtain ⟨⟨n', hp⟩, -⟩ := mem_playersOfGate.mp hmem
    have hn := h.keyed hp
    rw [hid] at hn
    subst hn
    exact ⟨p, hp, continues_loggedOut p⟩

theorem Sound.onBackupTicker (h : game.Sound) (nPlayerID : UInt64) :
    (game.onBackupTicker nPlayerID).Sound := by
  rw [CGameService.onBackupTicker]
  split
  · exact h
  · split
    · exact h.output _
    · exact h

/-- A request is taken off the list and its callback runs. -/
theorem Sound.runCallback (h : game.Sound) {request : SDbRequest} {requests : List SDbRequest}
    (hremove : ∀ game' : CGameService, game'.Sound →
      game'.listDbRequest = game.listDbRequest → game'.SettledBy request →
        CGameService.Sound { game' with listDbRequest := requests })
    (nErrorCode : UInt32) (bMessage : Bool) :
    (CGameService.runCallback { game with listDbRequest := requests } request.nPlayerID
      nErrorCode bMessage request.callback).Sound := by
  cases hcallback : request.callback with
  | none =>
      apply hremove game h rfl
      intro nObject m hload
      rw [hcallback] at hload
      cases hload
  | some callback =>
      cases callback with
      | createPlayer nObject sSessionInfo =>
          apply Sound.onCreatePlayer
          apply hremove game h rfl
          intro nObject' m hload
          rw [hcallback] at hload
          cases hload
      | loadModule nObject m =>
          -- The callback is the only one that settles the module.
          have hother : (∀ p, game.findPlayer request.nPlayerID = some p → p.nObject ≠ nObject) →
              CGameService.Sound { game with listDbRequest := requests } := by
            intro hne
            apply hremove game h rfl
            intro nObject' m' hload p hp hsame
            rw [hcallback] at hload
            obtain ⟨rfl, rfl⟩ := DbCallback.loadModule.inj (Option.some.inj hload)
            exact absurd hsame (hne p hp)
          rw [CGameService.runCallback]
          split
          · rename_i hnone
            apply hother
            intro p hp
            exact absurd (hnone.symm.trans hp) (by simp)
          · rename_i p hp
            have hold : game.findPlayer request.nPlayerID = some p := hp
            split
            · have hstays := p.stays_onLoadData m nErrorCode bMessage
              apply hremove _ (h.setPlayer hold hstays.toContinues) rfl
              intro nObject' m' hload q hq hsame
              rw [hcallback] at hload
              obtain ⟨rfl, rfl⟩ := DbCallback.loadModule.inj (Option.some.inj hload)
              rw [findPlayer_setPlayer, if_pos rfl] at hq
              obtain rfl := Option.some.inj hq
              exact p.settled_onLoadData _ _ _
            · rename_i hne
              apply hother
              intro q hq
              rw [hold] at hq
              obtain rfl := Option.some.inj hq
              exact hne

theorem Sound.onDbResponse (h : game.Sound) (nPlayerID : UInt64) (nErrorCode : UInt32)
    (bMessage : Bool) : (game.onDbResponse nPlayerID nErrorCode bMessage).Sound := by
  rw [CGameService.onDbResponse]
  split
  · exact h
  · refine h.runCallback ?_ nErrorCode bMessage
    intro game' hgame' hlist hsettled
    rw [← hlist]
    exact hgame'.erase hsettled

theorem Sound.onDbTimeout (h : game.Sound) (nSessionID : ℕ) :
    (game.onDbTimeout nSessionID).Sound := by
  rw [CGameService.onDbTimeout]
  split
  · exact h
  · refine h.runCallback ?_ eRRT_TIME_OUT false
    intro game' hgame' hlist hsettled
    rw [← hlist]
    apply hgame'.dropRequests
    intro request hmem hdrop
    obtain rfl := of_decide_eq_true hdrop
    exact hsettled

theorem Sound.onQuit (game : CGameService) : game.onQuit.Sound where
  keyed h := by simp [findPlayer, CGameService.onQuit] at h
  created h := by simp [findPlayer, CGameService.onQuit] at h
  unique h := by simp [findPlayer, CGameService.onQuit] at h
  ordered := List.Pairwise.nil
  issued h := by simp [CGameService.onQuit] at h
  asked h := by simp [CGameService.onQuit] at h
  awaited h := by simp [CGameService.onQuit] at h
  released _ n := by simp [findPlayer, CGameService.onQuit]

theorem Sound.step (h : game.Sound) (e : Event) : (game.step e).Sound := by
  rw [CGameService.step]
  split
  · exact h
  · rename_i hquit
    rw [Bool.not_eq_true] at hquit
    cases e with
    | playerEnterRequest sSessionInfo nPlayerID invokes =>
        exact h.playerEnterRequest hquit sSessionInfo nPlayerID invokes
    | playerLeaveNotify nFromServiceID nPlayerID => exact (h.logoutReady _ _).destroyPlayer _ _
    | playerHeartbeatNotify nFromServiceID nPlayerID =>
        rw [handle, playerHeartbeatNotify]
        split
        · exact h.output _
        · split
          · exact h.output _
          · exact h
    | kickPlayerNotify nPlayerID => exact (h.logoutReady _ _).destroyPlayer _ _
    | gateDisconnect nGateServiceID => exact h.onGateDisconnect nGateServiceID
    | heartbeat nPlayerID bInvoke => exact h.onHeartbeat nPlayerID bInvoke
    | heartbeatResponse nPlayerID nErrorType => exact h.onHeartbeatResponse nPlayerID nErrorType
    | backup nPlayerID => exact h.onBackupTicker nPlayerID
    | dbResponse nPlayerID nErrorCode bMessage =>
        exact h.onDbResponse nPlayerID nErrorCode bMessage
    | dbTimeout nSessionID => exact h.onDbTimeout nSessionID
    | quit => exact .onQuit game

/-- The invariant holds after every history. -/
theorem sound_foldl (events : List Event) : (events.foldl CGameService.step {}).Sound :=
  foldl_invariant (fun _ e h => h.step e) sound_empty events

end CGameService

end RealtimeEx.Game
