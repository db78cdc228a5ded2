import RealtimeEx.UserCenter.UserInfo
import RealtimeEx.Support.History

/-!
# Who has a player

The place of a player belongs to one game service: the one that the user center named when
it answered the dispatcher.  It is given up by the notice or the timeout of that service,
but the user center listens to the other services too.
-/

namespace RealtimeEx.UserCenter

namespace CUCService

variable {uc : CUCService} {n p : UInt64} {nGasID nFromServiceID : UInt32}

/-! ## The assignment -/

/-- The game service that has the player, 0 if there is none. -/
def assigned (uc : CUCService) (nPlayerID : UInt64) : UInt32 :=
  ((uc.getUserInfo nPlayerID).map CUserInfo.nGasID).getD 0

theorem assigned_of_some {user : CUserInfo} (h : uc.getUserInfo n = some user) :
    uc.assigned n = user.nGasID := by
  rw [assigned, h]
  rfl

theorem assigned_of_none (h : uc.getUserInfo n = none) : uc.assigned n = 0 := by
  rw [assigned, h]
  rfl

theorem nGasID_loginUser :
    (uc.loginUser n nGasID).nGasID = if uc.assigned n = 0 then nGasID else uc.assigned n := by
  rw [loginUser]
  split
  · rename_i hnone
    rw [assigned_of_none hnone, if_pos rfl]
    rfl
  · rename_i user hsome
    rw [assigned_of_some hsome]
    split
    · rfl
    · rfl

theorem assigned_step_login : (uc.step (.playerLoginRequest nFromServiceID p nGasID)).assigned n =
    if p = n ∧ uc.assigned n = 0 then nGasID else uc.assigned n := by
  rw [step, assigned, getUserInfo_playerLoginRequest]
  by_cases hn : p = n
  · subst hn
    rw [if_pos rfl, Option.map_some, Option.getD_some, nGasID_loginUser]
    simp
  · rw [if_neg hn, if_neg fun h => hn h.1, assigned]

theorem assigned_step_heartbeat :
    (uc.step (.playerHeartbeatRequest nFromServiceID p)).assigned n =
      if p = n ∧ uc.assigned n ≠ nFromServiceID then 0 else uc.assigned n := by
  rw [step, assigned, getUserInfo_playerHeartbeatRequest]
  by_cases hn : p = n
  · subst hn
    rw [if_pos rfl]
    cases hsome : uc.getUserInfo p with
    | none =>
        rw [assigned_of_none hsome]
        split <;> rfl
    | some user =>
        rw [assigned_of_some hsome, Option.map_some, Option.map_some, Option.getD_some]
        by_cases hgas : user.nGasID = nFromServiceID
        · rw [if_neg (not_not.mpr hgas), if_neg fun h => h.2 hgas]
          rfl
        · rw [if_pos hgas, if_pos ⟨rfl, hgas⟩]
          rfl
  · rw [if_neg hn, if_neg fun h => hn h.1, assigned]

theorem assigned_step_leave : (uc.step (.playerLeaveNotify nFromServiceID p)).assigned n =
    if p = n then 0 else uc.assigned n := by
  rw [step, assigned, getUserInfo_playerLeaveNotify]
  split
  · cases uc.getUserInfo n with
    | none => rfl
    | some user => rfl
  · rfl

/-- The ticker of the player is registered. -/
def timeoutPending (uc : CUCService) (nPlayerID : UInt64) : Bool :=
  (uc.getUserInfo nPlayerID).any CUserInfo.bTimeout

theorem assigned_step_timeout : (uc.step (.timeout p)).assigned n =
    if p = n ∧ uc.timeoutPending n = true then 0 else uc.assigned n := by
  rw [step, assigned, getUserInfo_onTimeout]
  by_cases hn : p = n
  · subst hn
    rw [if_pos rfl, timeoutPending, assigned]
    cases uc.getUserInfo p with
    | none => simp
    | some user =>
        cases hticker : user.bTimeout with
        | true => simp [Option.filter_some, hticker]
        | false => simp [Option.filter_some, hticker]
  · rw [if_neg hn, if_neg fun h => hn h.1, assigned]

/-! ## Messages of other game services -/

/-- The sender of a heartbeat or of a leave notice, and the player. -/
def Event.notice : Event → Option (UInt32 × UInt64)
  | .playerHeartbeatRequest nFromServiceID nPlayerID => some (nFromServiceID, nPlayerID)
  | .playerLeaveNotify nFromServiceID nPlayerID => some (nFromServiceID, nPlayerID)
  | _ => none

/-- A heartbeat or a leave notice of a game service that does not have the player leaves
the assignment unchanged. -/
def Event.KeepsAssignment (uc : CUCService) (e : Event) : Prop :=
  ∀ nFromServiceID nPlayerID, e.notice = some (nFromServiceID, nPlayerID) →
    nFromServiceID ≠ uc.assigned nPlayerID →
      (uc.step e).assigned nPlayerID = uc.assigned nPlayerID

/-- A heartbeat or a leave notice of a game service that does not have the player finds
that nobody has the player. -/
def Event.FindsUnassigned (uc : CUCService) (e : Event) : Prop :=
  ∀ nFromServiceID nPlayerID, e.notice = some (nFromServiceID, nPlayerID) →
    nFromServiceID ≠ uc.assigned nPlayerID → uc.assigned nPlayerID = 0

/-- The message of a game service that does not have the player takes the place away. -/
theorem assigned_step_of_notice {e : Event} (he : e.notice = some (nFromServiceID, n))
    (hforeign : nFromServiceID ≠ uc.assigned n) : (uc.step e).assigned n = 0 := by
  cases e with
  | playerHeartbeatRequest from' p =>
      obtain ⟨rfl, rfl⟩ := Prod.mk.inj (Option.some.inj he)
      rw [assigned_step_heartbeat, if_pos ⟨rfl, hforeign.symm⟩]
  | playerLeaveNotify from' p =>
      obtain ⟨rfl, rfl⟩ := Prod.mk.inj (Option.some.inj he)
      rw [assigned_step_leave, if_pos rfl]
  | playerLoginRequest => cases he
  | timeout => cases he
  | serviceDisconnect => cases he

theorem keepsAssignment_iff (uc : CUCService) (e : Event) :
    e.KeepsAssignment uc ↔ e.FindsUnassigned uc := by
  constructor
  · intro h nFromServiceID nPlayerID he hforeign
    rw [← h nFromServiceID nPlayerID he hforeign]
    exact assigned_step_of_notice he hforeign
  · intro h nFromServiceID nPlayerID he hforeign
    rw [h nFromServiceID nPlayerID he hforeign]
    exact assigned_step_of_notice he hforeign

/-! ## Game services that have a player -/

/-- The event ends what a game service was told about a player: its own notice, a
heartbeat that is answered by a kick, or the timeout. -/
def Event.Ends (uc : CUCService) (n : UInt64) (nGasID : UInt32) : Event → Prop
  | .playerLeaveNotify nFromServiceID nPlayerID => nPlayerID = n ∧ nFromServiceID = nGasID
  | .playerHeartbeatRequest nFromServiceID nPlayerID =>
      nPlayerID = n ∧ nFromServiceID = nGasID ∧ uc.assigned n ≠ nGasID
  | .timeout nPlayerID => nPlayerID = n ∧ uc.timeoutPending n = true
  | _ => False

/-- After some events, a game service has a player: it was named in an answer to the
dispatcher, and nothing has ended that since. -/
inductive Holds (n : UInt64) (nGasID : UInt32) : List Event → Prop
  | given {ks : List Event} {nServiceID nGasID' : UInt32} :
      ((ks.foldl step {}).loginUser n nGasID').nGasID = nGasID → nGasID ≠ 0 →
        Holds n nGasID (ks ++ [.playerLoginRequest nServiceID n nGasID'])
  | kept {ks : List Event} {e : Event} :
      Holds n nGasID ks → ¬ e.Ends (ks.foldl step {}) n nGasID → Holds n nGasID (ks ++ [e])

/-- Where no other game service is listened to, the one that has the player is the one
that is assigned. -/
theorem Holds.assigned_eq {events : List Event} (h : Holds n nGasID events)
    (hfinds : ∀ ks e, ks ++ [e] <+: events → e.FindsUnassigned (ks.foldl step {})) :
    nGasID ≠ 0 ∧ (events.foldl step {}).assigned n = nGasID := by
  induction h with
  | given hgiven hne =>
      rename_i ks nServiceID nGasID'
      refine ⟨hne, ?_⟩
      rw [List.foldl_append, List.foldl_cons, List.foldl_nil, assigned_step_login, ← hgiven,
        nGasID_loginUser]
      simp
  | kept hbefore hends ih =>
      rename_i ks e
      obtain ⟨hne, hold⟩ := ih fun ks' e' hks =>
        hfinds ks' e' (hks.trans (List.prefix_append ks [e]))
      have hquiet := hfinds ks e List.prefix_rfl
      refine ⟨hne, ?_⟩
      rw [List.foldl_append, List.foldl_cons, List.foldl_nil]
      -- Only the service itself and its ticker can change the assignment.
      cases e with
      | playerLoginRequest nServiceID nPlayerID nGasID' =>
          rw [assigned_step_login, if_neg, hold]
          rintro ⟨-, hzero⟩
          exact hne (hold.symm.trans hzero)
      | playerHeartbeatRequest nFromServiceID nPlayerID =>
          rw [assigned_step_heartbeat, if_neg, hold]
          rintro ⟨rfl, hforeign⟩
          exact hne (hold.symm.trans (hquiet _ _ rfl hforeign.symm))
      | playerLeaveNotify nFromServiceID nPlayerID =>
          rw [assigned_step_leave, if_neg, hold]
          rintro rfl
          by_cases hown : nFromServiceID = nGasID
          · exact hends ⟨rfl, hown⟩
          · apply hne
            rw [← hold]
            apply hquiet _ _ rfl
            rw [hold]
            exact hown
      | timeout nPlayerID =>
          rw [assigned_step_timeout, if_neg, hold]
          rintro ⟨rfl, hpending⟩
          exact hends ⟨rfl, hpending⟩
      | serviceDisconnect nServiceID => exact hold

/-- In every history, the messages of game services that do not have a player leave its
assignment alone if and only if they find that nobody has the player; and then no player
is had by two game services. -/
theorem assignment_owned_iff (events : List Event) :
    ((∀ ks e, ks ++ [e] <+: events → e.KeepsAssignment (ks.foldl step {})) ↔
      ∀ ks e, ks ++ [e] <+: events → e.FindsUnassigned (ks.foldl step {})) ∧
    ((∀ ks e, ks ++ [e] <+: events → e.FindsUnassigned (ks.foldl step {})) →
      ∀ ks, ks <+: events → ∀ n nGasID nGasID', Holds n nGasID ks → Holds n nGasID' ks →
        nGasID = nGasID') := by
  constructor
  · simp only [keepsAssignment_iff]
  · intro hfinds ks hks n nGasID nGasID' hholds hholds'
    have hbefore : ∀ ks' e, ks' ++ [e] <+: ks → e.FindsUnassigned (ks'.foldl step {}) :=
      fun ks' e h => hfinds ks' e (h.trans hks)
    rw [← (hholds.assigned_eq hbefore).2, ← (hholds'.assigned_eq hbefore).2]

/-- Player 7 is at the game service 3, and a late notice of the service 4 arrives before
the next login. -/
def lateLeave : List Event :=
  [.playerLoginRequest 9 7 3, .playerLeaveNotify 4 7, .playerLoginRequest 9 7 5]

/-- The notice clears the assignment, and two game services have the player. -/
theorem not_keepsAssignment_lateLeave :
    (¬ ∀ ks e, ks ++ [e] <+: lateLeave → e.KeepsAssignment (ks.foldl step {})) ∧
      Holds 7 3 lateLeave ∧ Holds 7 5 lateLeave := by
  refine ⟨fun h => ?_, ?_, ?_⟩
  · have hkeeps := h [.playerLoginRequest 9 7 3] (.playerLeaveNotify 4 7)
      (by simp [lateLeave]) 4 7 rfl (by decide)
    exact absurd hkeeps (by decide)
  · have hgiven : Holds 7 3 ([] ++ [.playerLoginRequest 9 7 3]) :=
      .given (by decide) (by decide)
    have hleave := hgiven.kept (e := .playerLeaveNotify 4 7) fun h => absurd h.2 (by decide)
    exact hleave.kept (e := .playerLoginRequest 9 7 5) id
  · have hgiven : Holds 7 5 ([.playerLoginRequest 9 7 3, .playerLeaveNotify 4 7] ++
        [.playerLoginRequest 9 7 5]) :=
      .given (by decide) (by decide)
    exact hgiven

end CUCService

end RealtimeEx.UserCenter
