import RealtimeEx.UserCenter.UserInfoAssignment

/-!
# Players whose game service is gone

The ticker of a user frees the place of a player whose game service does not answer.  The
first heartbeat of the service unregisters it, and nothing registers it again before the
place is free.
-/

namespace RealtimeEx.UserCenter

namespace CUCService

variable {uc : CUCService} {n p : UInt64} {nGasID nFromServiceID : UInt32}

/-- Every user with a game service has its ticker registered. -/
def AllPending (uc : CUCService) : Prop :=
  ∀ n user, uc.getUserInfo n = some user → user.nGasID ≠ 0 → user.bTimeout = true

/-- When the ticker has fired, the next login request gets the place it asks for. -/
def Assignable (uc : CUCService) (n : UInt64) : Prop :=
  ∀ nFromServiceID nGasID, ((uc.step (.timeout n)).step
    (.playerLoginRequest nFromServiceID n nGasID)).assigned n = nGasID

/-- The tickers make every player assignable again, and nothing else does. -/
theorem allPending_iff_assignable : uc.AllPending ↔ ∀ n, uc.Assignable n := by
  constructor
  · intro h n nFromServiceID nGasID
    rw [assigned_step_login, if_pos]
    refine ⟨rfl, ?_⟩
    rw [assigned_step_timeout]
    split
    · rfl
    · rename_i hnot
      cases hsome : uc.getUserInfo n with
      | none => exact assigned_of_none hsome
      | some user =>
          rw [assigned_of_some hsome]
          by_contra hne
          apply hnot
          rw [timeoutPending, hsome]
          exact ⟨rfl, h n user hsome hne⟩
  · intro h n user hsome hne
    by_contra hticker
    have hnot : ¬ (n = n ∧ uc.timeoutPending n = true) := by
      rw [timeoutPending, hsome]
      exact fun hpending => hticker hpending.2
    -- A request for another service is answered with the old one.
    have hanswer := h n 0 (user.nGasID + 1)
    rw [assigned_step_login, assigned_step_timeout, if_neg hnot, assigned_of_some hsome,
      if_neg fun hzero => hne hzero.2] at hanswer
    exact absurd hanswer (by simp)

/-- A heartbeat does not come from the game service that has the player. -/
def Event.NotFromOwner (uc : CUCService) : Event → Prop
  | .playerHeartbeatRequest nFromServiceID nPlayerID =>
      uc.assigned nPlayerID = nFromServiceID → nFromServiceID = 0
  | _ => True

theorem bTimeout_loginUser (h : uc.AllPending) (hne : (uc.loginUser n nGasID).nGasID ≠ 0) :
    (uc.loginUser n nGasID).bTimeout = true := by
  rw [loginUser] at hne ⊢
  split
  · rfl
  · rename_i user hsome
    rw [hsome] at hne
    dsimp only at hne
    split
    · rfl
    · rename_i hgas
      rw [if_neg hgas] at hne
      exact h n user hsome hne

/-- A step keeps the tickers registered just if it is not such a heartbeat. -/
theorem allPending_step_iff (h : uc.AllPending) (e : Event) :
    (uc.step e).AllPending ↔ e.NotFromOwner uc := by
  cases e with
  | playerLoginRequest nFromServiceID p nGasID =>
      refine iff_of_true ?_ trivial
      intro n user hsome hne
      rw [step, getUserInfo_playerLoginRequest] at hsome
      split at hsome
      · rename_i hn
        obtain rfl := Option.some.inj hsome
        exact bTimeout_loginUser h hne
      · exact h n user hsome hne
  | playerHeartbeatRequest nFromServiceID p =>
      rw [Event.NotFromOwner]
      constructor
      · intro hafter howner
        by_contra hne
        cases hsome : uc.getUserInfo p with
        | none =>
            rw [assigned_of_none hsome] at howner
            exact hne howner.symm
        | some user =>
            rw [assigned_of_some hsome] at howner
            have hbeat : (uc.step (.playerHeartbeatRequest nFromServiceID p)).getUserInfo p =
                some user.onHeartbeat := by
              rw [step, getUserInfo_playerHeartbeatRequest, if_pos rfl, hsome,
                Option.map_some, if_neg (not_not.mpr howner)]
            have hticker := hafter p user.onHeartbeat hbeat (by
              rw [← howner] at hne
              exact hne)
            cases hticker
      · intro hforeign n user hsome hne
        rw [step, getUserInfo_playerHeartbeatRequest] at hsome
        split at hsome
        · rename_i hn
          obtain ⟨user₁, hsome₁, rfl⟩ := Option.map_eq_some_iff.mp hsome
          by_cases hgas : user₁.nGasID = nFromServiceID
          · rw [if_neg (not_not.mpr hgas)] at hne
            apply absurd _ hne
            show user₁.nGasID = 0
            rw [hgas]
            apply hforeign
            rw [hn, assigned_of_some hsome₁, hgas]
          · rw [if_pos hgas] at hne
            exact absurd rfl hne
        · exact h n user hsome hne
  | playerLeaveNotify nFromServiceID p =>
      refine iff_of_true ?_ trivial
      intro n user hsome hne
      rw [step, getUserInfo_playerLeaveNotify] at hsome
      split at hsome
      · obtain ⟨user₁, -, rfl⟩ := Option.map_eq_some_iff.mp hsome
        exact absurd rfl hne
      · exact h n user hsome hne
  | timeout p =>
      refine iff_of_true ?_ trivial
      intro n user hsome hne
      rw [step, getUserInfo_onTimeout] at hsome
      split at hsome
      · exact h n user (Option.filter_eq_some_iff.mp hsome).1 hne
      · exact h n user hsome hne
  | serviceDisconnect nServiceID => exact iff_of_true h trivial

/-- In every history, every user with a game service has its ticker registered, and every
player is assignable again when the ticker has fired, if and only if no heartbeat comes
from a game service that has the player. -/
theorem allPending_throughout_iff (events : List Event) :
    (∀ ks, ks <+: events → (ks.foldl step {}).AllPending ∧
        ∀ n, (ks.foldl step {}).Assignable n) ↔
      ∀ ks e, ks ++ [e] <+: events → e.NotFromOwner (ks.foldl step {}) := by
  have hempty : AllPending {} := by
    intro n user hsome
    simp [getUserInfo] at hsome
  simp only [← allPending_iff_assignable, and_self]
  exact throughout_iff (I := fun _ => True) (P := AllPending)
    (C := fun uc e => e.NotFromOwner uc) (fun _ _ _ => trivial)
    (fun _ e _ h => allPending_step_iff h e) trivial hempty events

/-- Player 7 is at the game service 3, which sends one heartbeat and crashes. -/
def heartbeatCrash : List Event :=
  [.playerLoginRequest 9 7 3, .playerHeartbeatRequest 3 7, .serviceDisconnect 3]

/-- No ticker frees the place of the player. -/
theorem not_allPending_heartbeatCrash : ¬ ∀ events : List Event,
    (events.foldl step {}).AllPending := by
  intro h
  have hticker := h heartbeatCrash 7 { nPlayerID := 7, nGasID := 3 } (by decide) (by decide)
  cases hticker

end CUCService

end RealtimeEx.UserCenter
