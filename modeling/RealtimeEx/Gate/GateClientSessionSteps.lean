import RealtimeEx.Gate.GateClientSessionTables
import RealtimeEx.Support.History

/-!
# What an event makes of a session

Every handler of the gate changes the session of one player at most.  What it can make of
it is said once here.
-/

namespace RealtimeEx.Gate.Login

open Base

namespace CGateService

open RealtimeEx.Gate.Login.CGateClientSessionMgr

variable {gate : CGateService} {nPlayerID nSocketID n : UInt64}
  {session session' : CGateClientSession}

/-- The session of a player, if there is one. -/
def getSession (gate : CGateService) (n : UInt64) : Option CGateClientSession :=
  gate.sessionMgr.getSessionByPlayerID n

/-! ## Sessions after an operation -/

@[simp] theorem getSession_shutdown (bForce : Bool) (szMsg : String) :
    (gate.shutdown nSocketID bForce szMsg).getSession n = gate.getSession n := by
  rw [getSession, sessionMgr_shutdown, getSession]

@[simp] theorem getSession_output (out : GateOutput) :
    (gate.output out).getSession n = gate.getSession n := rfl

theorem getSession_modifySession (f : CGateClientSession → CGateClientSession) :
    (gate.modifySession nPlayerID f).getSession n =
      if nPlayerID = n then (gate.getSession n).map f else gate.getSession n :=
  CGateClientSessionMgr.getSession_modifySession n f

theorem getSession_destroySession :
    (gate.destroySession nPlayerID).getSession n =
      if nPlayerID = n then none else gate.getSession n := by
  rw [getSession, sessionMgr_destroySession, getSession_eraseSession, getSession]

theorem of_getSession_destroySession
    (h : (gate.destroySession nPlayerID).getSession n = some session') :
    nPlayerID ≠ n ∧ gate.getSession n = some session' := by
  rw [getSession_destroySession] at h
  split at h
  · cases h
  · rename_i hn
    exact ⟨hn, h⟩

theorem getSession_unbindSocketID :
    (gate.unbindSocketID nPlayerID).getSession n =
      if nPlayerID = n then
        (gate.getSession n).map fun session => { session with nSocketID := 0 }
      else
        gate.getSession n :=
  (CGateClientSessionMgr.getSession_unbindSocketID n).trans
    (CGateClientSessionMgr.getSession_modifySession n _)

theorem getSession_enterClient (szToken : StdString) (nState : UInt32) :
    (gate.enterClient nPlayerID nSocketID szToken nState).getSession n =
      if nPlayerID = n then
        (gate.getSession n).map fun session =>
          { session with nSocketID, nState, szClientToken := some szToken }
      else
        gate.getSession n := by
  rw [enterClient, getSession_modifySession]
  have hbind : (gate.bindSocketID nPlayerID nSocketID).getSession n =
      if nPlayerID = n then
        (gate.getSession n).map fun session => { session with nSocketID }
      else
        gate.getSession n :=
    (CGateClientSessionMgr.getSession_bindSocketID n).trans
      (CGateClientSessionMgr.getSession_modifySession n _)
  rw [hbind]
  split
  · rw [Option.map_map]
    rfl
  · rfl

theorem getSession_createSession (szToken : StdString) :
    ({ gate with sessionMgr := gate.sessionMgr.createSession nPlayerID szToken } :
      CGateService).getSession n =
      if nPlayerID = n then some { nPlayerID, szToken } else gate.getSession n :=
  CGateClientSessionMgr.getSession_createSession n szToken

theorem of_getSession_enterGasError
    (h : (gate.enterGasError session).getSession n = some session') :
    gate.getSession n = some session' := by
  rw [enterGasError] at h
  split at h
  · exact (of_getSession_destroySession h).2
  · exact h

/-- A session whose `enterGas` runs. -/
def entered (session : CGateClientSession) (bInvoke : Bool) : CGateClientSession :=
  { session with
    bTokenTimeout := false
    nEnterGas := if bInvoke then session.nEnterGas + 1 else session.nEnterGas }

theorem of_getSession_enterGas (hsession : gate.getSession nPlayerID = some session)
    (hstate : session.nState = eCSS_ClientEnter ||| eCSS_TokenEnter) {bInvoke : Bool}
    (h : (gate.enterGas nPlayerID bInvoke).getSession n = some session') :
    nPlayerID ≠ n ∧ gate.getSession n = some session' ∨
      nPlayerID = n ∧ session' = entered session bInvoke := by
  have hmgr : gate.sessionMgr.getSessionByPlayerID nPlayerID = some session := hsession
  simp only [enterGas, hmgr, hstate, ne_eq, not_true_eq_false, if_false] at h
  by_cases hn : nPlayerID = n
  · subst hn
    refine .inr ⟨rfl, ?_⟩
    cases bInvoke with
    | true =>
        rw [if_pos rfl, getSession_output, getSession_modifySession,
          getSession_modifySession, if_pos rfl, if_pos rfl] at h
        change ((gate.getSession nPlayerID).map _).map _ = some session' at h
        rw [hsession] at h
        exact (Option.some.inj h).symm
    | false =>
        rw [if_neg Bool.false_ne_true] at h
        have h := of_getSession_enterGasError h
        rw [getSession_modifySession, if_pos rfl] at h
        change (gate.getSession nPlayerID).map _ = some session' at h
        rw [hsession] at h
        exact (Option.some.inj h).symm
  · refine .inl ⟨hn, ?_⟩
    split at h
    · rw [getSession_output, getSession_modifySession, getSession_modifySession,
        if_neg hn, if_neg hn] at h
      exact h
    · have h := of_getSession_enterGasError h
      rw [getSession_modifySession, if_neg hn] at h
      exact h

/-- A session for which a run of `enterGas` ends; it may be logged in by that. -/
inductive Answered (session : CGateClientSession) : CGateClientSession → Prop
  | refused : Answered session { session with nEnterGas := session.nEnterGas - 1 }
  | accepted : Answered session
      { session with nEnterGas := session.nEnterGas - 1, nState := eCSS_Normal }

theorem of_getSession_onEnterResponse {response : EnterResponse}
    (h : (gate.onEnterResponse nPlayerID response).getSession n = some session') :
    gate.getSession n = some session' ∨
      nPlayerID = n ∧ ∃ session, gate.getSession n = some session ∧
        session.nEnterGas ≠ 0 ∧ Answered session session' := by
  rw [onEnterResponse] at h
  split at h
  · exact .inl h
  · rename_i session hsession
    dsimp only at h
    split at h
    · exact .inl h
    · rename_i hwait
      -- What is left of the sessions when the run of `enterGas` is over.
      have hless : ∀ session₁, (gate.modifySession nPlayerID fun session =>
          { session with nEnterGas := session.nEnterGas - 1 }).getSession n = some session₁ →
          nPlayerID ≠ n ∧ gate.getSession n = some session₁ ∨ nPlayerID = n ∧
            session₁ = { session with nEnterGas := session.nEnterGas - 1 } := by
        intro session₁ h'
        rw [getSession_modifySession] at h'
        split at h'
        · rename_i hn
          rw [← hn, getSession, hsession] at h'
          exact .inr ⟨hn, (Option.some.inj h').symm⟩
        · rename_i hn
          exact .inl ⟨hn, h'⟩
      have hkept : (gate.modifySession nPlayerID fun session =>
          { session with nEnterGas := session.nEnterGas - 1 }).getSession n = some session' →
          gate.getSession n = some session' ∨ nPlayerID = n ∧
            ∃ session, gate.getSession n = some session ∧ session.nEnterGas ≠ 0 ∧
              Answered session session' := by
        intro h'
        rcases hless session' h' with ⟨-, hold⟩ | ⟨rfl, rfl⟩
        · exact .inl hold
        · exact .inr ⟨rfl, session, hsession, hwait, .refused⟩
      split at h
      · exact hkept (of_getSession_enterGasError h)
      · exact hkept (of_getSession_enterGasError h)
      · split at h
        · exact hkept h
        · split at h
          · rw [getSession_shutdown, getSession_output] at h
            exact hkept h
          · rw [getSession_output, getSession_modifySession] at h
            split at h
            · rename_i hn
              obtain ⟨session₁, hsession₁, rfl⟩ := Option.map_eq_some_iff.mp h
              rcases hless session₁ hsession₁ with ⟨hne, -⟩ | ⟨-, rfl⟩
              · exact absurd hn hne
              · subst hn
                exact .inr ⟨rfl, session, hsession, hwait, .accepted⟩
            · exact hkept h

/-! ## Sessions after an event -/

/-- What an event can make of the session `old` of the player `n`. -/
inductive Becomes (n : UInt64) (old : Option CGateClientSession) :
    Event → CGateClientSession → Prop
  | kept {e session} : old = some session → Becomes n old e session
  | enter {nSocketID szKey bInvoke szToken session} :
      parseKey szKey = some (n, szToken) → old = some session →
      session.hasState eCSS_TokenEnter = true → session.szToken = szToken →
      Becomes n old (.handshake nSocketID szKey bInvoke)
        (entered
          { session with
            nSocketID
            nState := eCSS_ClientEnter ||| eCSS_TokenEnter
            szClientToken := some szToken } bInvoke)
  | replace {nSocketID szKey bInvoke szToken session} :
      parseKey szKey = some (n, szToken) → old = some session →
      session.nState = eCSS_Normal →
      Becomes n old (.handshake nSocketID szKey bInvoke)
        { session with
          nSocketID
          szToken
          nState := eCSS_ClientEnter
          szClientToken := some szToken }
  | create {nSocketID szKey bInvoke szToken} :
      parseKey szKey = some (n, szToken) → old = none →
      Becomes n old (.handshake nSocketID szKey bInvoke)
        { nPlayerID := n
          szToken
          nSocketID
          nState := eCSS_ClientEnter
          szClientToken := some szToken }
  | notifyEnter {szToken nGasID bInvoke session} :
      old = some session → session.hasState eCSS_ClientEnter = true →
      session.szToken = szToken →
      Becomes n old (.playerTokenNotify n szToken nGasID bInvoke)
        (entered
          { session with nGasID, nState := eCSS_TokenEnter ||| eCSS_ClientEnter } bInvoke)
  | notifyReplace {szToken nGasID bInvoke session} :
      old = some session → session.nState = eCSS_Normal →
      Becomes n old (.playerTokenNotify n szToken nGasID bInvoke)
        { session with nSocketID := 0, szToken, nState := eCSS_TokenEnter }
  | notifyCreate {szToken nGasID bInvoke} :
      old = none →
      Becomes n old (.playerTokenNotify n szToken nGasID bInvoke)
        { nPlayerID := n, szToken, nGasID, nState := eCSS_TokenEnter }
  | answer {response session session'} :
      old = some session → session.nEnterGas ≠ 0 → Answered session session' →
      Becomes n old (.enterResponse n response) session'

theorem becomes_handshake {szKey : StdString} {bInvoke : Bool}
    (h : (gate.handshake nSocketID szKey bInvoke).getSession n = some session') :
    Becomes n (gate.getSession n) (.handshake nSocketID szKey bInvoke) session' := by
  rw [handshake] at h
  split at h
  · rw [getSession_shutdown] at h
    exact .kept h
  · rename_i nPlayerID szToken hparse
    split at h
    · rename_i session hsession
      split at h
      · rename_i hflag
        split at h
        · rw [getSession_shutdown] at h
          exact .kept h
        · rename_i htoken
          have hold : gate.getSession nPlayerID = some session := hsession
          have hclient : (gate.enterClient nPlayerID nSocketID szToken
              (eCSS_ClientEnter ||| eCSS_TokenEnter)).getSession nPlayerID =
                some { session with
                  nSocketID
                  nState := eCSS_ClientEnter ||| eCSS_TokenEnter
                  szClientToken := some szToken } := by
            rw [getSession_enterClient, if_pos rfl, hold]
            rfl
          rcases of_getSession_enterGas hclient rfl h with ⟨hn, hkept⟩ | ⟨rfl, rfl⟩
          · rw [getSession_enterClient, if_neg hn] at hkept
            exact .kept hkept
          · exact .enter hparse hsession hflag (not_not.mp htoken)
      · split at h
        · rw [getSession_shutdown] at h
          exact .kept h
        · rename_i hstate
          dsimp only at h
          rw [getSession_enterClient] at h
          split at h
          · rename_i hn
            subst hn
            rw [getSession_modifySession, if_pos rfl, getSession_shutdown,
              getSession_unbindSocketID, if_pos rfl, getSession, hsession] at h
            have hreplace : Becomes nPlayerID (gate.getSession nPlayerID)
                (.handshake nSocketID szKey bInvoke)
                { session with
                  nSocketID
                  szToken
                  nState := eCSS_ClientEnter
                  szClientToken := some szToken } :=
              .replace hparse hsession (not_not.mp hstate)
            rw [← Option.some.inj h]
            exact hreplace
          · rename_i hn
            rw [getSession_modifySession, if_neg hn, getSession_shutdown,
              getSession_unbindSocketID, if_neg hn] at h
            exact .kept h
    · rename_i hnone
      rw [getSession_enterClient] at h
      rw [getSession_createSession] at h
      split at h
      · rename_i hn
        subst hn
        obtain rfl := Option.some.inj h
        exact .create hparse hnone
      · exact .kept h

theorem of_getSession_refuseToken {szMsg : String}
    (h : (gate.refuseToken session szMsg).getSession n = some session') :
    gate.getSession n = some session' := by
  rw [refuseToken] at h
  split at h
  · rw [getSession_shutdown] at h
    exact h
  · exact (of_getSession_destroySession h).2

theorem becomes_playerTokenNotify {szToken : StdString} {nGasID : UInt32} {bInvoke : Bool}
    (h : (gate.playerTokenNotify nPlayerID szToken nGasID bInvoke).getSession n =
      some session') :
    Becomes n (gate.getSession n) (.playerTokenNotify nPlayerID szToken nGasID bInvoke)
      session' := by
  rw [playerTokenNotify] at h
  split at h
  · rename_i session hsession
    have hold : gate.getSession nPlayerID = some session := hsession
    split at h
    · rename_i hflag
      split at h
      · exact .kept (of_getSession_refuseToken h)
      · rename_i htoken
        have hmatch : (gate.modifySession nPlayerID fun session =>
            { session with
              nGasID, nState := eCSS_TokenEnter ||| eCSS_ClientEnter }).getSession nPlayerID =
                some { session with
                  nGasID, nState := eCSS_TokenEnter ||| eCSS_ClientEnter } := by
          rw [getSession_modifySession, if_pos rfl, hold]
          rfl
        rcases of_getSession_enterGas hmatch rfl h with ⟨hn, hkept⟩ | ⟨rfl, rfl⟩
        · rw [getSession_modifySession, if_neg hn] at hkept
          exact .kept hkept
        · exact .notifyEnter hold hflag (not_not.mp htoken)
    · split at h
      · exact .kept (of_getSession_refuseToken h)
      · rename_i hstate
        dsimp only at h
        rw [getSession_modifySession, getSession_shutdown, getSession_unbindSocketID] at h
        split at h
        · rename_i hn
          subst hn
          rw [hold] at h
          have hreplace : Becomes nPlayerID (gate.getSession nPlayerID)
              (.playerTokenNotify nPlayerID szToken nGasID bInvoke)
              { session with nSocketID := 0, szToken, nState := eCSS_TokenEnter } :=
            .notifyReplace hold (not_not.mp hstate)
          rw [← Option.some.inj h]
          exact hreplace
        · exact .kept h
  · rename_i hnone
    rw [getSession_modifySession, getSession_createSession] at h
    split at h
    · rename_i hn
      subst hn
      obtain rfl := Option.some.inj h
      exact .notifyCreate hnone
    · exact .kept h

theorem of_getSession_foldl_destroySession {players : List UInt64}
    (h : (players.foldl destroySession gate).getSession n = some session') :
    gate.getSession n = some session' := by
  induction players generalizing gate with
  | nil => exact h
  | cons nPlayerID players ih => exact (of_getSession_destroySession (ih h)).2

theorem of_getSession_onDisconnect
    (h : (gate.onDisconnect nSocketID).getSession n = some session') :
    gate.getSession n = some session' := by
  rw [onDisconnect] at h
  split at h
  · exact h
  · dsimp only at h
    split at h
    · exact h
    · split at h
      · obtain ⟨hn, hkept⟩ := of_getSession_destroySession h
        rw [getSession_unbindSocketID, if_neg hn] at hkept
        exact hkept
      · exact h

/-- After an event every session is one that the event can make. -/
theorem becomes_of_step {e : Event} (h : (gate.step e).getSession n = some session') :
    Becomes n (gate.getSession n) e session' := by
  cases e with
  | connect nSocketID =>
      rw [step] at h
      split at h
      · exact .kept h
      · exact .kept h
  | handshake nSocketID szKey bInvoke =>
      rw [step] at h
      split at h
      · exact becomes_handshake h
      · exact .kept h
  | playerTokenNotify nPlayerID szToken nGasID bInvoke =>
      rw [step] at h
      have hbecomes := becomes_playerTokenNotify h
      exact hbecomes
  | enterResponse nPlayerID response =>
      rcases of_getSession_onEnterResponse h with hkept | ⟨rfl, session, hsession, hwait, hdone⟩
      · exact .kept hkept
      · exact .answer hsession hwait hdone
  | kickPlayerNotify nPlayerID =>
      obtain ⟨hn, hkept⟩ := of_getSession_destroySession h
      rw [getSession_modifySession, if_neg hn] at hkept
      exact .kept hkept
  | gasDisconnect nGasID => exact .kept (of_getSession_foldl_destroySession h)
  | disconnect nSocketID => exact .kept (of_getSession_onDisconnect h)
  | tokenTimeout nPlayerID =>
      rw [step, onTokenTimeout] at h
      split at h
      · exact .kept h
      · split at h
        · exact .kept (of_getSession_destroySession h).2
        · exact .kept h

end CGateService

end RealtimeEx.Gate.Login
