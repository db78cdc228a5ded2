import RealtimeEx.Game.PlayerInvariant
import RealtimeEx.Gate.GateClientSessionHalfOpen

/-!
# Messages of a gate that a player has left

A player who enters through another gate is taken over: the old gate is told, but a notice
that its client has gone may already be on the way.  The handler of heartbeats compares
the gate of a player with the sender, that of leave notices does not.
-/

namespace RealtimeEx.Game

namespace CGameService

variable {game : CGameService} {n : UInt64} {p : CPlayer}

/-- The gate that sends a leave notice or a heartbeat, and the player. -/
def Event.notice : Event → Option (UInt32 × UInt64)
  | .playerLeaveNotify nFromServiceID nPlayerID => some (nFromServiceID, nPlayerID)
  | .playerHeartbeatNotify nFromServiceID nPlayerID => some (nFromServiceID, nPlayerID)
  | _ => none

/-- A leave notice or a heartbeat of a gate that is not the gate of the player leaves the
player in the manager as it is: its status, its gate and its modules. -/
def Event.LeavesAlone (game : CGameService) (e : Event) : Prop :=
  ∀ nFromServiceID n p, e.notice = some (nFromServiceID, n) → game.findPlayer n = some p →
    p.nGateServiceID ≠ nFromServiceID → (game.step e).findPlayer n = some p

/-- A leave notice comes from the gate of the player. -/
def Event.FromItsGate (game : CGameService) : Event → Prop
  | .playerLeaveNotify nFromServiceID nPlayerID =>
      ∀ p, game.findPlayer nPlayerID = some p → p.nGateServiceID = nFromServiceID
  | _ => True

theorem findPlayer_playerHeartbeatNotify (nFromServiceID : UInt32) (nPlayerID : UInt64) :
    (game.playerHeartbeatNotify nFromServiceID nPlayerID).findPlayer n = game.findPlayer n := by
  rw [playerHeartbeatNotify]
  split
  · rfl
  · split <;> rfl

/-- A leave notice ends the player in any case. -/
theorem findPlayer_playerLeaveNotify (nPlayerID : UInt64) :
    (game.playerLeaveNotify nPlayerID).findPlayer nPlayerID = none := by
  rw [playerLeaveNotify, findPlayer_destroyPlayer, if_pos rfl]

theorem leavesAlone_iff (h : game.Sound) (e : Event) :
    e.LeavesAlone game ↔ e.FromItsGate game := by
  cases e with
  | playerLeaveNotify nFromServiceID nPlayerID =>
      rw [Event.FromItsGate]
      constructor
      · intro halone p hp
        by_contra hgate
        have hafter := halone nFromServiceID nPlayerID p rfl hp hgate
        rw [step] at hafter
        split at hafter
        · rename_i hquit
          rw [h.released hquit] at hp
          cases hp
        · rw [handle, findPlayer_playerLeaveNotify] at hafter
          cases hafter
      · intro hfrom g n p hnotice hp hgate
        obtain ⟨rfl, rfl⟩ := Prod.mk.inj (Option.some.inj hnotice)
        exact absurd (hfrom p hp) hgate
  | playerHeartbeatNotify nFromServiceID nPlayerID =>
      refine iff_of_true ?_ trivial
      intro g n p hnotice hp hgate
      rw [step]
      split
      · exact hp
      · rw [handle, findPlayer_playerHeartbeatNotify]
        exact hp
  | _ =>
      refine iff_of_true ?_ trivial
      intro g n p hnotice
      cases hnotice

/-- In every history, the notices and heartbeats of gates that players have left leave them
alone if and only if no leave notice comes from such a gate. -/
theorem leavesAlone_throughout_iff (events : List Event) :
    (∀ ks e, ks ++ [e] <+: events → e.LeavesAlone (ks.foldl step {})) ↔
      ∀ ks e, ks ++ [e] <+: events → e.FromItsGate (ks.foldl step {}) := by
  constructor
  · intro h ks e hks
    exact (leavesAlone_iff (sound_foldl ks) e).mp (h ks e hks)
  · intro h ks e hks
    exact (leavesAlone_iff (sound_foldl ks) e).mpr (h ks e hks)

/-- Player 7 enters through the gate 1 and is loaded, enters again through the gate 2, and
the leave notice of the gate 1 comes late. -/
def lateLeave : List Event :=
  [.playerEnterRequest ⟨1, 10⟩ 7 {}, .dbResponse 7 1 true, .dbResponse 7 1 true,
    .dbResponse 7 1 true, .dbResponse 7 1 false, .playerEnterRequest ⟨2, 11⟩ 7 {},
    .playerLeaveNotify 1 7]

/-- What happens at the gate 1, whose client disconnects before the game service's kick
arrives. -/
def gateEvents : List Gate.Login.CGateService.Event :=
  Gate.Login.CGateService.loginEvents ++ [.disconnect 1]

/-- The gate 1 asks for the player and sends the notice, and the notice destroys the player
at the gate 2. -/
theorem not_leavesAlone_lateLeave :
    (∃ out, (gateEvents.foldl Gate.Login.CGateService.step {}).outputs =
      [.playerEnterRequest 3 7] ++ [out] ++ [.playerLeaveNotify 3 7]) ∧
    ¬ ∀ ks e, ks ++ [e] <+: lateLeave → e.LeavesAlone (ks.foldl step {}) := by
  constructor
  · exact ⟨_, rfl⟩
  · intro h
    have hready : ∃ p, (lateLeave.dropLast.foldl step {}).findPlayer 7 = some p ∧
        p.nGateServiceID = 2 ∧ p.eStatus = .normal := by
      refine ⟨_, rfl, ?_⟩
      decide
    obtain ⟨p, hp, hgate, -⟩ := hready
    have hafter := h lateLeave.dropLast (.playerLeaveNotify 1 7) (by simp [lateLeave]) 1 7 p rfl
      hp (by rw [hgate]; decide)
    rw [show (lateLeave.dropLast.foldl step {}).step (.playerLeaveNotify 1 7) =
      (lateLeave.dropLast.foldl step {}).playerLeaveNotify 7 from rfl,
      findPlayer_playerLeaveNotify] at hafter
    cases hafter

end CGameService

end RealtimeEx.Game
