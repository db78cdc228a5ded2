import Mathlib.Algebra.Order.Ring.Int
import Mathlib.Data.List.TakeWhile
import RealtimeEx.Gate.GateClientSession

/-!
# Messages for the clients of a gate

`CGateClientMessageDispatcher::onToGateMessage` sends a message to the client of one
player, `onToGateBroadcastMessage` to the clients of a list of players.  The loop of the
second one is left, not continued, at the first player that cannot be reached.
-/

namespace RealtimeEx.Gate.Login

open Base

/-- A message that is sent on the connection of a client, and the player it is for. -/
structure ToClient where
  nSessionID : UInt64
  nSocketID : UInt64
  pData : List UInt8
  deriving DecidableEq

namespace CGateService

variable (gate : CGateService) (pData : List UInt8)

/-- `onToGateMessage`. -/
def onToGateMessage (nSessionID : UInt64) : List ToClient :=
  match gate.sessionMgr.getSessionByPlayerID nSessionID with
  | none => []
  | some session =>
      if session.nState ≠ eCSS_Normal then
        []
      else if !gate.mapBaseConnectionByID.contains session.nSocketID then
        []
      else
        [{ nSessionID, nSocketID := session.nSocketID, pData }]

/-- The loop of `onToGateBroadcastMessage`. -/
def onToGateBroadcastMessage : List UInt64 → List ToClient
  | [] => []
  | nSessionID :: rest =>
      match gate.sessionMgr.getSessionByPlayerID nSessionID with
      | none => []
      | some session =>
          if session.nState ≠ eCSS_Normal then
            []
          else if !gate.mapBaseConnectionByID.contains session.nSocketID then
            []
          else
            { nSessionID, nSocketID := session.nSocketID, pData } ::
              onToGateBroadcastMessage rest

/-- The player is in the game, and its client is connected. -/
def Online (nSessionID : UInt64) : Prop :=
  ∃ session, gate.sessionMgr.getSessionByPlayerID nSessionID = some session ∧
    session.nState = eCSS_Normal ∧
      gate.mapBaseConnectionByID.contains session.nSocketID = true

/-- Each player of the list whose client is connected gets the message once, and nobody
else gets it. -/
def BroadcastExact (vecSessionID : List UInt64) : Prop :=
  ∀ nSessionID,
    (gate.onToGateBroadcastMessage pData vecSessionID).filter (·.nSessionID = nSessionID) =
      if nSessionID ∈ vecSessionID then gate.onToGateMessage pData nSessionID else []

variable {gate pData}

theorem onToGateMessage_of_online (pData : List UInt8) {nSessionID : UInt64}
    (h : gate.Online nSessionID) :
    ∃ nSocketID, gate.onToGateMessage pData nSessionID = [{ nSessionID, nSocketID, pData }] := by
  obtain ⟨session, hsession, hstate, hconnected⟩ := h
  refine ⟨session.nSocketID, ?_⟩
  unfold onToGateMessage
  rw [hsession]
  dsimp only
  rw [if_neg (not_not.mpr hstate), hconnected]
  rfl

theorem onToGateMessage_of_not_online {nSessionID : UInt64} (h : ¬ gate.Online nSessionID) :
    gate.onToGateMessage pData nSessionID = [] := by
  unfold onToGateMessage
  cases hsession : gate.sessionMgr.getSessionByPlayerID nSessionID with
  | none => rfl
  | some session =>
      dsimp only
      by_cases hstate : session.nState = eCSS_Normal
      · rw [if_neg (not_not.mpr hstate)]
        have hgone : gate.mapBaseConnectionByID.contains session.nSocketID = false := by
          by_contra hconnected
          exact h ⟨session, hsession, hstate, by simpa using hconnected⟩
        rw [hgone]
        rfl
      · rw [if_pos hstate]

/-- A round of the loop: the message is sent as to a single player, and the loop goes on
if that player is online. -/
theorem onToGateBroadcastMessage_cons (nSessionID : UInt64) (rest : List UInt64)
    [Decidable (gate.Online nSessionID)] :
    gate.onToGateBroadcastMessage pData (nSessionID :: rest) =
      if gate.Online nSessionID then
        gate.onToGateMessage pData nSessionID ++ gate.onToGateBroadcastMessage pData rest
      else
        [] := by
  by_cases honline : gate.Online nSessionID
  · rw [if_pos honline]
    obtain ⟨session, hsession, hstate, hconnected⟩ := honline
    rw [onToGateBroadcastMessage, onToGateMessage, hsession]
    dsimp only
    rw [if_neg (not_not.mpr hstate), if_neg (not_not.mpr hstate), hconnected]
    rfl
  · rw [if_neg honline, onToGateBroadcastMessage]
    cases hsession : gate.sessionMgr.getSessionByPlayerID nSessionID with
    | none => rfl
    | some session =>
        dsimp only
        by_cases hstate : session.nState = eCSS_Normal
        · have hgone : gate.mapBaseConnectionByID.contains session.nSocketID = false := by
            by_contra hconnected
            exact honline ⟨session, hsession, hstate, by simpa using hconnected⟩
          rw [if_neg (not_not.mpr hstate), hgone]
          rfl
        · rw [if_pos hstate]

section

open scoped Classical in
/-- The players that the loop comes to: those in front of the first one that is not
online. -/
noncomputable def reached (gate : CGateService) (vecSessionID : List UInt64) : List UInt64 :=
  vecSessionID.takeWhile fun nSessionID => gate.Online nSessionID

open scoped Classical in
theorem onToGateBroadcastMessage_eq (vecSessionID : List UInt64) :
    gate.onToGateBroadcastMessage pData vecSessionID =
      (gate.reached vecSessionID).flatMap (gate.onToGateMessage pData) := by
  induction vecSessionID with
  | nil => rfl
  | cons nSessionID rest ih =>
      rw [onToGateBroadcastMessage_cons]
      unfold reached at ih ⊢
      by_cases honline : gate.Online nSessionID
      · rw [if_pos honline, List.takeWhile_cons_of_pos (by simpa using honline),
          List.flatMap_cons, ih]
      · rw [if_neg honline, List.takeWhile_cons_of_neg (by simpa using honline)]
        rfl

theorem online_of_mem_reached {vecSessionID : List UInt64} {nSessionID : UInt64}
    (h : nSessionID ∈ gate.reached vecSessionID) : gate.Online nSessionID := by
  simpa using List.mem_takeWhile_imp h

theorem mem_of_mem_reached {vecSessionID : List UInt64} {nSessionID : UInt64}
    (h : nSessionID ∈ gate.reached vecSessionID) : nSessionID ∈ vecSessionID :=
  List.takeWhile_subset _ h

end

/-- What is sent for one player: the message as often as the player is in the list. -/
theorem filter_flatMap_onToGateMessage {vecSessionID : List UInt64} (nSessionID : UInt64)
    (honline : ∀ other ∈ vecSessionID, gate.Online other) :
    (vecSessionID.flatMap (gate.onToGateMessage pData)).filter (·.nSessionID = nSessionID) =
      (List.replicate (vecSessionID.count nSessionID)
        (gate.onToGateMessage pData nSessionID)).flatten := by
  induction vecSessionID with
  | nil => rfl
  | cons other rest ih =>
      have hrest := ih fun other hother => honline other (List.mem_cons_of_mem _ hother)
      obtain ⟨nSocketID, hsent⟩ :=
        onToGateMessage_of_online pData (honline other List.mem_cons_self)
      rw [List.flatMap_cons, List.filter_append, hrest, hsent]
      by_cases heq : other = nSessionID
      · rw [← heq, List.count_cons_self, List.replicate_succ, List.flatten_cons, hsent]
        simp
      · rw [List.count_cons_of_ne heq]
        simp [heq]

/-- The message reaches each player of the list that is online exactly once, just if every
one of them is in front of the first player that is not, and is there once. -/
theorem broadcastExact_iff (gate : CGateService) (pData : List UInt8)
    (vecSessionID : List UInt64) :
    gate.BroadcastExact pData vecSessionID ↔
      ∀ nSessionID ∈ vecSessionID, gate.Online nSessionID →
        (gate.reached vecSessionID).count nSessionID = 1 := by
  unfold BroadcastExact
  rw [onToGateBroadcastMessage_eq]
  refine forall_congr' fun nSessionID => ?_
  rw [filter_flatMap_onToGateMessage nSessionID fun _ => online_of_mem_reached]
  by_cases hmem : nSessionID ∈ vecSessionID
  · rw [if_pos hmem]
    by_cases honline : gate.Online nSessionID
    · obtain ⟨nSocketID, hsent⟩ := onToGateMessage_of_online pData honline
      rw [hsent]
      constructor
      · intro heq _ _
        simpa using congrArg List.length heq
      · intro hone
        rw [hone hmem honline]
        rfl
    · rw [onToGateMessage_of_not_online honline]
      refine iff_of_true ?_ fun _ h => absurd h honline
      simp
  · rw [if_neg hmem, List.count_eq_zero_of_not_mem fun h => hmem (mem_of_mem_reached h)]
    exact iff_of_true rfl fun h => absurd h hmem

/-! ## A list with a player that is not there -/

/-- A gate with the client of one player. -/
def oneClient : CGateService where
  mapBaseConnectionByID := (∅ : StdMap _ _).insert 11 false
  sessionMgr :=
    { mapClientSessionByPlayerID := (∅ : StdMap _ _).insert 1
        { nPlayerID := 1, nSocketID := 11, nState := eCSS_Normal, szToken := [] }
      mapPlayerIDBySocketID := (∅ : StdMap _ _).insert 11 1 }

example :
    oneClient.onToGateBroadcastMessage [1, 2] [1, 2] =
      [{ nSessionID := 1, nSocketID := 11, pData := [1, 2] }] := by
  decide

/-- The player behind the one that is not there gets nothing. -/
theorem not_broadcastExact_oneClient : ¬ oneClient.BroadcastExact [1, 2] [2, 1] := by
  intro h
  have hone := h 1
  rw [if_pos (by decide)] at hone
  revert hone
  decide

end CGateService

end RealtimeEx.Gate.Login
