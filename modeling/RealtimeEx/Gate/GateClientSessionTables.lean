import RealtimeEx.Gate.GateClientSession
import RealtimeEx.Support.InverseTables

/-!
# The tables of sessions and sockets

The manager finds the player of a socket in one table and the socket of a player in its
session.  All changes of the two are bindings and releases of the tables as a whole.
-/

namespace RealtimeEx.Gate.Login

open Base

namespace CGateClientSessionMgr

variable {mgr : CGateClientSessionMgr} {nPlayerID nSocketID : UInt64}
  {session : CGateClientSession}

/-! ## The two tables -/

/-- The player of a socket, and the socket of a player.  No connection has the id 0; a
session with socket 0 is not bound. -/
def tables (mgr : CGateClientSessionMgr) : Tables UInt64 UInt64 where
  holder nSocketID := if nSocketID = 0 then none else mgr.mapPlayerIDBySocketID[nSocketID]?
  key nPlayerID := (mgr.getSessionByPlayerID nPlayerID).bind fun session =>
    if session.nSocketID = 0 then none else some session.nSocketID

/-- A socket is mapped to a player exactly when the session of the player exists and has
that socket. -/
def SocketsInverse (mgr : CGateClientSessionMgr) : Prop :=
  ∀ nSocketID nPlayerID : UInt64, nSocketID ≠ 0 →
    (mgr.mapPlayerIDBySocketID[nSocketID]? = some nPlayerID ↔
      ∃ session, mgr.getSessionByPlayerID nPlayerID = some session ∧
        session.nSocketID = nSocketID)

theorem key_tables_eq_some_iff :
    mgr.tables.key nPlayerID = some nSocketID ↔ nSocketID ≠ 0 ∧
      ∃ session, mgr.getSessionByPlayerID nPlayerID = some session ∧
        session.nSocketID = nSocketID := by
  simp only [tables, Option.bind_eq_some_iff, Option.ite_none_left_eq_some,
    Option.some.injEq]
  constructor
  · rintro ⟨session, hsession, hne, rfl⟩
    exact ⟨hne, session, hsession, rfl⟩
  · rintro ⟨hne, session, hsession, rfl⟩
    exact ⟨session, hsession, hne, rfl⟩

theorem holder_tables_eq_some_iff :
    mgr.tables.holder nSocketID = some nPlayerID ↔
      nSocketID ≠ 0 ∧ mgr.mapPlayerIDBySocketID[nSocketID]? = some nPlayerID := by
  simp [tables]

theorem socketsInverse_iff : mgr.SocketsInverse ↔ mgr.tables.Inverse := by
  simp only [SocketsInverse, Tables.Inverse, key_tables_eq_some_iff,
    holder_tables_eq_some_iff]
  refine forall_congr' fun nSocketID => forall_congr' fun nPlayerID => ?_
  by_cases hzero : nSocketID = 0
  · simp [hzero]
  · simp [hzero]

/-! ## Sessions after an operation -/

/-- The session table without a session, and the socket table without its socket. -/
def eraseSession (mgr : CGateClientSessionMgr) (nPlayerID : UInt64) :
    CGateClientSessionMgr :=
  match mgr.getSessionByPlayerID nPlayerID with
  | none => mgr
  | some session =>
      { mapClientSessionByPlayerID := mgr.mapClientSessionByPlayerID.erase nPlayerID
        mapPlayerIDBySocketID := mgr.mapPlayerIDBySocketID.erase session.nSocketID }

section GetSession

variable (n : UInt64)

theorem getSession_modifySession (f : CGateClientSession → CGateClientSession) :
    (mgr.modifySession nPlayerID f).getSessionByPlayerID n =
      if nPlayerID = n then (mgr.getSessionByPlayerID n).map f
      else mgr.getSessionByPlayerID n := by
  rw [modifySession]
  split
  · rename_i hnone
    split
    · rename_i hn
      rw [← hn, hnone]
      rfl
    · rfl
  · rename_i session hsession
    rw [getSessionByPlayerID, StdMap.getElem?_insert]
    split
    · rename_i hn
      rw [← hn, hsession]
      rfl
    · rfl

theorem getSession_createSession (szToken : StdString) :
    (mgr.createSession nPlayerID szToken).getSessionByPlayerID n =
      if nPlayerID = n then some { nPlayerID, szToken } else mgr.getSessionByPlayerID n := by
  rw [getSessionByPlayerID, createSession, StdMap.getElem?_insert]
  rfl

/-- Binding a socket changes the session as `modifySession` does. -/
theorem getSession_bindSocketID :
    (mgr.bindSocketID nPlayerID nSocketID).getSessionByPlayerID n =
      (mgr.modifySession nPlayerID fun session =>
        { session with nSocketID }).getSessionByPlayerID n := by
  rw [bindSocketID, modifySession]
  split <;> rfl

theorem getSession_unbindSocketID :
    (mgr.unbindSocketID nPlayerID).getSessionByPlayerID n =
      (mgr.modifySession nPlayerID fun session =>
        { session with nSocketID := 0 }).getSessionByPlayerID n := by
  rw [unbindSocketID, modifySession]
  split <;> rfl

theorem getSession_eraseSession :
    (mgr.eraseSession nPlayerID).getSessionByPlayerID n =
      if nPlayerID = n then none else mgr.getSessionByPlayerID n := by
  rw [eraseSession]
  split
  · rename_i hnone
    split
    · rename_i hn
      rw [← hn, hnone]
    · rfl
  · rw [getSessionByPlayerID, StdMap.getElem?_erase]
    rfl

end GetSession

/-! ## The operations as bindings and releases -/

theorem key_tables_of_getSession (hsession : mgr.getSessionByPlayerID nPlayerID = some session) :
    mgr.tables.key nPlayerID =
      if session.nSocketID = 0 then none else some session.nSocketID := by
  simp only [tables, hsession, Option.bind_some]

theorem key_tables_of_getSession_eq_none (hnone : mgr.getSessionByPlayerID nPlayerID = none) :
    mgr.tables.key nPlayerID = none := by
  simp only [tables, hnone, Option.bind_none]

theorem tables_modifySession {f : CGateClientSession → CGateClientSession}
    (hf : ∀ session, (f session).nSocketID = session.nSocketID) :
    (mgr.modifySession nPlayerID f).tables = mgr.tables := by
  apply Tables.ext
  · rw [modifySession]
    split <;> rfl
  · funext n
    simp only [tables, getSession_modifySession]
    split
    · cases mgr.getSessionByPlayerID n with
      | none => rfl
      | some session => simp [hf]
    · rfl

theorem tables_createSession (hnone : mgr.getSessionByPlayerID nPlayerID = none)
    (szToken : StdString) : (mgr.createSession nPlayerID szToken).tables = mgr.tables := by
  apply Tables.ext
  · rfl
  · funext n
    simp only [tables, getSession_createSession]
    split
    · rename_i hn
      rw [← hn, hnone]
      rfl
    · rfl

theorem tables_bindSocketID (hsession : mgr.getSessionByPlayerID nPlayerID = some session)
    (hne : nSocketID ≠ 0) :
    (mgr.bindSocketID nPlayerID nSocketID).tables = mgr.tables.bind nPlayerID nSocketID := by
  apply Tables.ext
  · funext k
    rw [Tables.holder_bind]
    simp only [tables, bindSocketID, hsession, StdMap.getElem?_insert]
    by_cases hk : nSocketID = k
    · subst hk
      rw [Function.update_self, if_neg hne, if_pos rfl]
    · rw [Function.update_of_ne (Ne.symm hk), if_neg hk]
  · funext n
    rw [Tables.key_bind]
    by_cases hn : nPlayerID = n
    · subst hn
      simp only [tables, getSession_bindSocketID, getSession_modifySession, if_true, hsession,
        Function.update_self]
      exact if_neg hne
    · rw [Function.update_of_ne (Ne.symm hn)]
      simp only [tables, getSession_bindSocketID, getSession_modifySession, if_neg hn]

/-- Without its socket, and without its entry in the socket table, a session has released
the socket; whether the session stays makes no difference. -/
theorem tables_eq_release {mgr' : CGateClientSessionMgr}
    (hsession : mgr.getSessionByPlayerID nPlayerID = some session)
    (hsockets : mgr'.mapPlayerIDBySocketID =
      mgr.mapPlayerIDBySocketID.erase session.nSocketID)
    (hself : mgr'.tables.key nPlayerID = none)
    (hothers : ∀ n, nPlayerID ≠ n →
      mgr'.getSessionByPlayerID n = mgr.getSessionByPlayerID n) :
    mgr'.tables = mgr.tables.release nPlayerID := by
  apply Tables.ext
  · funext k
    rw [Tables.release, key_tables_of_getSession hsession]
    by_cases hzero : session.nSocketID = 0
    · simp only [hzero, if_true, tables, hsockets, StdMap.getElem?_erase]
      by_cases hk : k = 0
      · simp [hk]
      · simp [hk, Ne.symm hk]
    · simp only [if_neg hzero, tables, hsockets, StdMap.getElem?_erase]
      by_cases hk : session.nSocketID = k
      · simp [hk]
      · rw [if_neg hk, Function.update_of_ne (Ne.symm hk)]
  · funext n
    rw [Tables.key_release]
    by_cases hn : nPlayerID = n
    · subst hn
      rw [Function.update_self, hself]
    · rw [Function.update_of_ne (Ne.symm hn)]
      simp only [tables, hothers n hn]

theorem release_tables_of_getSession_eq_none
    (hnone : mgr.getSessionByPlayerID nPlayerID = none) :
    mgr.tables.release nPlayerID = mgr.tables := by
  rw [Tables.release, key_tables_of_getSession_eq_none hnone]

theorem tables_unbindSocketID :
    (mgr.unbindSocketID nPlayerID).tables = mgr.tables.release nPlayerID := by
  cases hsession : mgr.getSessionByPlayerID nPlayerID with
  | none =>
      rw [release_tables_of_getSession_eq_none hsession, unbindSocketID, hsession]
  | some session =>
      apply tables_eq_release hsession
      · rw [unbindSocketID, hsession]
      · simp only [tables, getSession_unbindSocketID, getSession_modifySession, if_true,
          hsession]
        rfl
      · intro n hn
        rw [getSession_unbindSocketID, getSession_modifySession, if_neg hn]

theorem tables_eraseSession :
    (mgr.eraseSession nPlayerID).tables = mgr.tables.release nPlayerID := by
  cases hsession : mgr.getSessionByPlayerID nPlayerID with
  | none =>
      rw [release_tables_of_getSession_eq_none hsession, eraseSession, hsession]
  | some session =>
      apply tables_eq_release hsession
      · rw [eraseSession, hsession]
      · apply key_tables_of_getSession_eq_none
        rw [getSession_eraseSession, if_pos rfl]
      · intro n hn
        rw [getSession_eraseSession, if_neg hn]

end CGateClientSessionMgr

/-! ## The gate -/

namespace CGateService

open RealtimeEx.Gate.Login.CGateClientSessionMgr

variable {gate : CGateService} {nPlayerID nSocketID : UInt64}

/-- The connection is there. -/
def Connected (gate : CGateService) (nSocketID : UInt64) : Prop :=
  gate.mapBaseConnectionByID.contains nSocketID = true

instance : Decidable (gate.Connected nSocketID) :=
  inferInstanceAs (Decidable (_ = true))

@[simp] theorem sessionMgr_shutdown (bForce : Bool) (szMsg : String) :
    (gate.shutdown nSocketID bForce szMsg).sessionMgr = gate.sessionMgr := by
  rw [shutdown]
  split <;> rfl

@[simp] theorem sessionMgr_output (out : GateOutput) :
    (gate.output out).sessionMgr = gate.sessionMgr := rfl

@[simp] theorem sessionMgr_modifySession (f : CGateClientSession → CGateClientSession) :
    (gate.modifySession nPlayerID f).sessionMgr =
      gate.sessionMgr.modifySession nPlayerID f := rfl

@[simp] theorem sessionMgr_bindSocketID :
    (gate.bindSocketID nPlayerID nSocketID).sessionMgr =
      gate.sessionMgr.bindSocketID nPlayerID nSocketID := rfl

@[simp] theorem sessionMgr_unbindSocketID :
    (gate.unbindSocketID nPlayerID).sessionMgr =
      gate.sessionMgr.unbindSocketID nPlayerID := rfl

@[simp] theorem sessionMgr_destroySession :
    (gate.destroySession nPlayerID).sessionMgr =
      gate.sessionMgr.eraseSession nPlayerID := by
  cases hsession : gate.sessionMgr.getSessionByPlayerID nPlayerID with
  | none => simp only [destroySession, eraseSession, hsession]
  | some session =>
      simp only [destroySession, eraseSession, hsession]
      split <;> split <;> simp

@[simp] theorem connected_shutdown (n : UInt64) (bForce : Bool) (szMsg : String) :
    (gate.shutdown nSocketID bForce szMsg).Connected n ↔ gate.Connected n := by
  rw [shutdown]
  split
  · rename_i hclosing
    simp only [Connected, Std.ExtTreeMap.contains_insert, Bool.or_eq_true,
      Std.LawfulEqCmp.compare_eq_iff_eq, beq_iff_eq, or_iff_right_iff_imp]
    rintro rfl
    rw [Std.ExtTreeMap.contains_eq_isSome_getElem?, hclosing]
    rfl
  · rfl

@[simp] theorem connected_output (n : UInt64) (out : GateOutput) :
    (gate.output out).Connected n ↔ gate.Connected n := Iff.rfl

@[simp] theorem connected_modifySession (n : UInt64)
    (f : CGateClientSession → CGateClientSession) :
    (gate.modifySession nPlayerID f).Connected n ↔ gate.Connected n := Iff.rfl

@[simp] theorem connected_bindSocketID (n : UInt64) :
    (gate.bindSocketID nPlayerID nSocketID).Connected n ↔ gate.Connected n := Iff.rfl

@[simp] theorem connected_unbindSocketID (n : UInt64) :
    (gate.unbindSocketID nPlayerID).Connected n ↔ gate.Connected n := Iff.rfl

/-! ## What the operations leave alone -/

/-- A part of the gate that does not depend on the sessions, on what is closing or on what is
answered. -/
structure Untouched {α : Type*} (f : CGateService → α) : Prop where
  sessions : ∀ (gate : CGateService) (sessionMgr : CGateClientSessionMgr),
    f { gate with sessionMgr } = f gate
  closing : ∀ (gate : CGateService) (nSocketID : UInt64) (bForce : Bool) (szMsg : String),
    f (gate.shutdown nSocketID bForce szMsg) = f gate
  answer : ∀ (gate : CGateService) (nSocketID nPlayerID : UInt64) (nResult : UInt32),
    f (gate.output (.handshakeResponse nSocketID nPlayerID nResult)) = f gate
  leave : ∀ (gate : CGateService) (nGasID : UInt32) (nPlayerID : UInt64),
    f (gate.output (.playerLeaveNotify nGasID nPlayerID)) = f gate

namespace Untouched

variable {α : Type*} {f : CGateService → α}

theorem destroySession (h : Untouched f) (gate : CGateService) (nPlayerID : UInt64) :
    f (gate.destroySession nPlayerID) = f gate := by
  rw [CGateService.destroySession]
  split
  · rfl
  · rename_i session hsession
    have hclosed (gate : CGateService) :
        f (if session.nSocketID ≠ 0 then gate.shutdown session.nSocketID true "kick"
          else gate) = f gate := by
      split
      · exact h.closing gate _ _ _
      · rfl
    dsimp only
    split
    · rw [hclosed, h.sessions]
    · rw [h.leave, hclosed, h.sessions]

theorem foldl_destroySession (h : Untouched f) (gate : CGateService) (players : List UInt64) :
    f (players.foldl CGateService.destroySession gate) = f gate := by
  induction players generalizing gate with
  | nil => rfl
  | cons nPlayerID players ih => exact (ih _).trans (h.destroySession gate nPlayerID)

theorem enterGasError (h : Untouched f) (gate : CGateService) (session : CGateClientSession) :
    f (gate.enterGasError session) = f gate := by
  rw [CGateService.enterGasError]
  split
  · rw [h.destroySession, h.answer]
  · rfl

theorem refuseToken (h : Untouched f) (gate : CGateService) (session : CGateClientSession)
    (szMsg : String) : f (gate.refuseToken session szMsg) = f gate := by
  rw [CGateService.refuseToken]
  split
  · exact h.closing gate _ _ _
  · exact h.destroySession gate _

theorem modifySession (h : Untouched f) (gate : CGateService) (nPlayerID : UInt64)
    (g : CGateClientSession → CGateClientSession) :
    f (gate.modifySession nPlayerID g) = f gate :=
  h.sessions gate _

theorem onEnterResponse (h : Untouched f) (gate : CGateService) (nPlayerID : UInt64)
    (response : EnterResponse) : f (gate.onEnterResponse nPlayerID response) = f gate := by
  rw [CGateService.onEnterResponse]
  split
  · rfl
  · dsimp only
    split
    · rfl
    · split
      · rw [h.enterGasError, h.modifySession]
      · rw [h.enterGasError, h.modifySession]
      · split
        · exact h.modifySession gate _ _
        · split
          · rw [h.closing, h.answer, h.modifySession]
          · rw [h.answer, h.modifySession, h.modifySession]

/-- A connection that is gone takes its session with it. -/
theorem onDisconnect (h : Untouched f) (gate : CGateService) (nSocketID : UInt64)
    (herase : f { gate with
      mapBaseConnectionByID := gate.mapBaseConnectionByID.erase nSocketID } = f gate) :
    f (gate.onDisconnect nSocketID) = f gate := by
  rw [CGateService.onDisconnect]
  split
  · rfl
  · dsimp only
    split
    · exact herase
    · split
      · rw [h.destroySession, unbindSocketID, h.sessions, herase]
      · exact herase

end Untouched

theorem untouched_connected (n : UInt64) : Untouched fun gate => gate.Connected n where
  sessions := fun _ _ => rfl
  closing := fun _ _ bForce szMsg => propext (connected_shutdown n bForce szMsg)
  answer := fun _ _ _ _ => rfl
  leave := fun _ _ _ => rfl

@[simp] theorem connected_destroySession (n : UInt64) :
    (gate.destroySession nPlayerID).Connected n ↔ gate.Connected n :=
  Iff.of_eq ((untouched_connected n).destroySession gate nPlayerID)

end CGateService

end RealtimeEx.Gate.Login
