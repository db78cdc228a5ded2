import RealtimeEx.Gate.GateClientSessionSteps

/-!
# Which sockets act for which players

The tables of the gate stay inverse to each other exactly while every handshake that
binds a connection finds neither the session nor the connection bound elsewhere.
-/

namespace RealtimeEx.Gate.Login

open Base

namespace CGateService

open RealtimeEx.Gate.Login.CGateClientSessionMgr

variable {gate : CGateService} {nPlayerID nSocketID n : UInt64}
  {session : CGateClientSession}

/-- The two tables of the manager. -/
def tables (gate : CGateService) : Tables UInt64 UInt64 := gate.sessionMgr.tables

/-- Every session is stored under its player, and no connection has the id 0. -/
structure Sound (gate : CGateService) : Prop where
  keyed : ∀ {n session}, gate.getSession n = some session → session.nPlayerID = n
  nonzero : ¬ gate.Connected 0

/-! ## Operations that bind nothing -/

@[simp] theorem tables_shutdown (bForce : Bool) (szMsg : String) :
    (gate.shutdown nSocketID bForce szMsg).tables = gate.tables := by
  rw [tables, sessionMgr_shutdown, tables]

@[simp] theorem tables_output (out : GateOutput) : (gate.output out).tables = gate.tables :=
  rfl

theorem tables_modifySession {f : CGateClientSession → CGateClientSession}
    (hf : ∀ session, (f session).nSocketID = session.nSocketID) :
    (gate.modifySession nPlayerID f).tables = gate.tables :=
  CGateClientSessionMgr.tables_modifySession hf

theorem tables_unbindSocketID :
    (gate.unbindSocketID nPlayerID).tables = gate.tables.release nPlayerID :=
  CGateClientSessionMgr.tables_unbindSocketID

theorem tables_destroySession :
    (gate.destroySession nPlayerID).tables = gate.tables.release nPlayerID := by
  rw [tables, sessionMgr_destroySession, tables_eraseSession, tables]

theorem releases_destroySession :
    gate.tables.Releases (gate.destroySession nPlayerID).tables := by
  rw [tables_destroySession]
  exact Tables.releases_release _ _

theorem releases_foldl_destroySession (players : List UInt64) :
    gate.tables.Releases (players.foldl destroySession gate).tables := by
  induction players generalizing gate with
  | nil => exact .refl _
  | cons nPlayerID players ih => exact releases_destroySession.trans ih

theorem tables_enterGasError (session : CGateClientSession) :
    (gate.enterGasError session).tables = gate.tables ∨
      (gate.enterGasError session).tables = gate.tables.release session.nPlayerID := by
  rw [enterGasError]
  split
  · right
    rw [tables_destroySession, tables_output]
  · exact .inl rfl

theorem releases_enterGasError (session : CGateClientSession) :
    gate.tables.Releases (gate.enterGasError session).tables := by
  rcases tables_enterGasError session with heq | heq
  · rw [heq]
    exact .refl _
  · rw [heq]
    exact Tables.releases_release _ _

theorem releases_modifySession {f : CGateClientSession → CGateClientSession}
    (hf : ∀ session, (f session).nSocketID = session.nSocketID) :
    gate.tables.Releases (gate.modifySession nPlayerID f).tables := by
  rw [tables_modifySession hf]
  exact .refl _

theorem tables_enterGas
    (hkeyed : ∀ session, gate.getSession nPlayerID = some session →
      session.nPlayerID = nPlayerID) (bInvoke : Bool) :
    (gate.enterGas nPlayerID bInvoke).tables = gate.tables ∨
      (gate.enterGas nPlayerID bInvoke).tables = gate.tables.release nPlayerID := by
  rw [enterGas]
  split
  · exact .inl rfl
  · rename_i session hsession
    dsimp only
    split
    · exact .inl rfl
    · split
      · left
        rw [tables_output, tables_modifySession, tables_modifySession]
        · rfl
        · intro session
          rfl
        · intro session
          rfl
      · rw [← hkeyed session hsession]
        have hsame : (({ gate with
            enterGasLog := gate.enterGasLog ++
              [{ nPlayerID := session.nPlayerID
                 szClientToken := session.szClientToken
                 szDispatchedToken := gate.mapDispatchedToken[session.nPlayerID]? }] } :
            CGateService).modifySession session.nPlayerID fun session =>
              { session with bTokenTimeout := false }).tables = gate.tables :=
          CGateClientSessionMgr.tables_modifySession fun _ => rfl
        rw [← hsame]
        exact tables_enterGasError session

theorem releases_onEnterResponse (response : EnterResponse) :
    gate.tables.Releases (gate.onEnterResponse nPlayerID response).tables := by
  rw [onEnterResponse]
  split
  · exact .refl _
  · rename_i session hsession
    dsimp only
    split
    · exact .refl _
    · have hless : gate.tables.Releases (gate.modifySession nPlayerID fun session =>
          { session with nEnterGas := session.nEnterGas - 1 }).tables :=
        releases_modifySession fun _ => rfl
      split
      · exact hless.trans (releases_enterGasError session)
      · exact hless.trans (releases_enterGasError session)
      · split
        · exact hless
        · split
          · rw [tables_shutdown, tables_output]
            exact hless
          · rw [tables_output]
            exact hless.trans (releases_modifySession fun _ => rfl)

theorem releases_refuseToken (szMsg : String) :
    gate.tables.Releases (gate.refuseToken session szMsg).tables := by
  rw [refuseToken]
  split
  · rw [tables_shutdown]
    exact .refl _
  · exact releases_destroySession

theorem releases_onDisconnect :
    gate.tables.Releases (gate.onDisconnect nSocketID).tables := by
  rw [onDisconnect]
  split
  · exact .refl _
  · dsimp only
    split
    · exact .refl _
    · split
      · rw [tables_destroySession, tables_unbindSocketID]
        exact (Tables.releases_release _ _).trans (Tables.releases_release _ _)
      · exact .refl _

theorem releases_playerTokenNotify
    (hkeyed : ∀ {n session}, gate.getSession n = some session → session.nPlayerID = n)
    (szToken : StdString) (nGasID : UInt32) (bInvoke : Bool) :
    gate.tables.Releases (gate.playerTokenNotify nPlayerID szToken nGasID bInvoke).tables := by
  rw [playerTokenNotify]
  split
  · rename_i session hsession
    split
    · split
      · exact releases_refuseToken _
      · have hmatch : gate.tables.Releases (gate.modifySession nPlayerID fun session =>
            { session with
              nGasID, nState := eCSS_TokenEnter ||| eCSS_ClientEnter }).tables :=
          releases_modifySession fun _ => rfl
        have hkeyed' : ∀ session', (gate.modifySession nPlayerID fun session =>
            { session with
              nGasID, nState := eCSS_TokenEnter ||| eCSS_ClientEnter }).getSession nPlayerID =
                some session' → session'.nPlayerID = nPlayerID := by
          intro session' hsession'
          rw [getSession_modifySession, if_pos rfl] at hsession'
          obtain ⟨session₁, hsession₁, rfl⟩ := Option.map_eq_some_iff.mp hsession'
          have hid := hkeyed hsession₁
          exact hid
        rcases tables_enterGas hkeyed' bInvoke with heq | heq
        · rw [heq]
          exact hmatch
        · rw [heq]
          exact hmatch.trans (Tables.releases_release _ _)
    · split
      · exact releases_refuseToken _
      · have hunbind : gate.tables.Releases ((gate.unbindSocketID nPlayerID).shutdown
            session.nSocketID true "dup").tables := by
          rw [tables_shutdown, tables_unbindSocketID]
          exact Tables.releases_release _ _
        exact hunbind.trans (releases_modifySession fun _ => rfl)
  · rename_i hnone
    have hcreate : ({ gate with
        sessionMgr := gate.sessionMgr.createSession nPlayerID szToken } :
          CGateService).tables = gate.tables :=
      CGateClientSessionMgr.tables_createSession hnone szToken
    rw [← hcreate]
    exact releases_modifySession fun _ => rfl

/-! ## Handshakes -/

/-- The handshake of a player with this token binds its connection. -/
def Binds (gate : CGateService) (nPlayerID : UInt64) (szToken : StdString) : Prop :=
  match gate.getSession nPlayerID with
  | none => True
  | some session =>
      if session.hasState eCSS_TokenEnter then session.szToken = szToken
      else session.nState = eCSS_Normal

/-- No other player has the connection, and a session that is not logged in yet has no
other connection. -/
def Unbound (gate : CGateService) (nPlayerID nSocketID : UInt64) : Prop :=
  (∀ p, gate.sessionMgr.mapPlayerIDBySocketID[nSocketID]? = some p → p = nPlayerID) ∧
    ∀ session, gate.getSession nPlayerID = some session →
      session.nState ≠ eCSS_Normal → session.nSocketID = 0 ∨ session.nSocketID = nSocketID

theorem tables_enterClient (hsession : gate.getSession nPlayerID = some session)
    (hne : nSocketID ≠ 0) (szToken : StdString) (nState : UInt32) :
    (gate.enterClient nPlayerID nSocketID szToken nState).tables =
      gate.tables.bind nPlayerID nSocketID := by
  rw [enterClient, tables_modifySession]
  · exact CGateClientSessionMgr.tables_bindSocketID hsession hne
  · intro session
    rfl

theorem forall_holder_iff (hne : nSocketID ≠ 0) :
    (∀ p, gate.tables.holder nSocketID = some p → p = nPlayerID) ↔
      ∀ p, gate.sessionMgr.mapPlayerIDBySocketID[nSocketID]? = some p → p = nPlayerID := by
  simp only [tables, holder_tables_eq_some_iff, hne, ne_eq, not_false_eq_true, true_and]

theorem free_tables_iff (hne : nSocketID ≠ 0)
    (hstate : ∀ session, gate.getSession nPlayerID = some session →
      session.nState ≠ eCSS_Normal) :
    gate.tables.Free nPlayerID nSocketID ↔ gate.Unbound nPlayerID nSocketID := by
  rw [Tables.Free, forall_holder_iff hne, Unbound, and_comm]
  refine and_congr_right fun _ => ?_
  simp only [tables, key_tables_eq_some_iff]
  constructor
  · intro hfree session hsession _
    by_cases hzero : session.nSocketID = 0
    · exact .inl hzero
    · exact .inr (hfree session.nSocketID ⟨hzero, session, hsession, rfl⟩)
  · rintro hunbound k ⟨hk, session, hsession, rfl⟩
    exact (hunbound session hsession (hstate session hsession)).resolve_left hk

/-- The session of the player is logged in. -/
def LoggedIn (gate : CGateService) (nPlayerID : UInt64) : Prop :=
  ∃ session, gate.getSession nPlayerID = some session ∧ session.nState = eCSS_Normal

instance : Decidable (gate.LoggedIn nPlayerID) :=
  inferInstanceAs (Decidable (∃ session ∈ gate.getSession nPlayerID,
    session.nState = eCSS_Normal))

/-- A handshake that does not bind leaves the tables alone. -/
theorem tables_handshake_of_not_binds {szKey : StdString} {szToken : StdString}
    (hparse : parseKey szKey = some (nPlayerID, szToken))
    (hbinds : ¬ gate.Binds nPlayerID szToken) (bInvoke : Bool) :
    (gate.handshake nSocketID szKey bInvoke).tables = gate.tables := by
  rw [Binds] at hbinds
  cases hsession : gate.getSession nPlayerID with
  | none =>
      rw [hsession] at hbinds
      exact absurd trivial hbinds
  | some session =>
      have hmgr : gate.sessionMgr.getSessionByPlayerID nPlayerID = some session := hsession
      rw [hsession] at hbinds
      dsimp only at hbinds
      simp only [handshake, hparse, hmgr]
      split
      · rename_i hflag
        rw [if_pos hflag] at hbinds
        rw [if_pos hbinds, tables_shutdown]
      · rename_i hflag
        rw [if_neg hflag] at hbinds
        rw [if_pos hbinds, tables_shutdown]

/-- A handshake that binds: a player who is logged in gives up its connection first, and
the session may be destroyed at once. -/
theorem tables_handshake_of_binds
    (hkeyed : ∀ {n session}, gate.getSession n = some session → session.nPlayerID = n)
    (hne : nSocketID ≠ 0) {szKey szToken : StdString}
    (hparse : parseKey szKey = some (nPlayerID, szToken))
    (hbinds : gate.Binds nPlayerID szToken) (bInvoke : Bool) :
    gate.LoggedIn nPlayerID ∧ (gate.handshake nSocketID szKey bInvoke).tables =
        (gate.tables.release nPlayerID).bind nPlayerID nSocketID ∨
      ¬ gate.LoggedIn nPlayerID ∧
        ((gate.handshake nSocketID szKey bInvoke).tables =
            gate.tables.bind nPlayerID nSocketID ∨
          (gate.handshake nSocketID szKey bInvoke).tables =
            (gate.tables.bind nPlayerID nSocketID).release nPlayerID) := by
  rw [Binds] at hbinds
  cases hsession : gate.getSession nPlayerID with
  | none =>
      have hmgr : gate.sessionMgr.getSessionByPlayerID nPlayerID = none := hsession
      have hout : ¬ gate.LoggedIn nPlayerID := by
        rintro ⟨session, hsession', -⟩
        rw [hsession] at hsession'
        cases hsession'
      have hcreate : ({ gate with
          sessionMgr := gate.sessionMgr.createSession nPlayerID szToken } :
            CGateService).tables = gate.tables :=
        CGateClientSessionMgr.tables_createSession hmgr szToken
      simp only [handshake, hparse, hmgr]
      rw [tables_enterClient (by rw [getSession_createSession, if_pos rfl]) hne, hcreate]
      exact .inr ⟨hout, .inl rfl⟩
  | some session =>
      have hmgr : gate.sessionMgr.getSessionByPlayerID nPlayerID = some session := hsession
      rw [hsession] at hbinds
      dsimp only at hbinds
      simp only [handshake, hparse, hmgr]
      split
      · rename_i hflag
        rw [if_pos hflag] at hbinds
        have hout : ¬ gate.LoggedIn nPlayerID := by
          rintro ⟨session', hsession', hstate⟩
          obtain rfl := Option.some.inj (hsession.symm.trans hsession')
          rw [CGateClientSession.hasState, hstate] at hflag
          exact absurd hflag (by decide)
        have hkeyed' : ∀ session', (gate.enterClient nPlayerID nSocketID szToken
            (eCSS_ClientEnter ||| eCSS_TokenEnter)).getSession nPlayerID =
              some session' → session'.nPlayerID = nPlayerID := by
          intro session' hsession'
          rw [getSession_enterClient, if_pos rfl, hsession] at hsession'
          obtain rfl := Option.some.inj hsession'
          have hid := hkeyed hsession
          exact hid
        rw [if_neg (not_not.mpr hbinds),
          ← tables_enterClient hsession hne szToken (eCSS_ClientEnter ||| eCSS_TokenEnter)]
        exact .inr ⟨hout, tables_enterGas hkeyed' bInvoke⟩
      · rename_i hflag
        rw [if_neg hflag] at hbinds
        -- The session gives up its connection first.
        have hrelease : ((((gate.unbindSocketID nPlayerID).shutdown session.nSocketID true
            "dup").modifySession nPlayerID fun session =>
              { session with szToken })).tables = gate.tables.release nPlayerID := by
          rw [tables_modifySession, tables_shutdown, tables_unbindSocketID]
          intro session
          rfl
        have hsession' : ((((gate.unbindSocketID nPlayerID).shutdown session.nSocketID true
            "dup").modifySession nPlayerID fun session =>
              { session with szToken })).getSession nPlayerID =
                some { session with nSocketID := 0, szToken } := by
          rw [getSession_modifySession, if_pos rfl, getSession_shutdown,
            getSession_unbindSocketID, if_pos rfl, hsession]
          rfl
        rw [if_neg (not_not.mpr hbinds), tables_enterClient hsession' hne, hrelease]
        exact .inl ⟨⟨session, hsession, hbinds⟩, rfl⟩

/-- A handshake keeps the tables inverse just if it binds nothing that is bound
elsewhere. -/
theorem inverse_handshake_iff (h : gate.tables.Inverse)
    (hkeyed : ∀ {n session}, gate.getSession n = some session → session.nPlayerID = n)
    (hne : nSocketID ≠ 0) (szKey : StdString) (bInvoke : Bool) :
    (gate.handshake nSocketID szKey bInvoke).tables.Inverse ↔
      ∀ nPlayerID szToken, parseKey szKey = some (nPlayerID, szToken) →
        gate.Binds nPlayerID szToken → gate.Unbound nPlayerID nSocketID := by
  cases hparse : parseKey szKey with
  | none =>
      simp only [handshake, hparse, tables_shutdown]
      simp [h]
  | some key =>
      obtain ⟨nPlayerID, szToken⟩ := key
      simp only [Option.some.injEq, Prod.mk.injEq, and_imp]
      have hone : (∀ p t, nPlayerID = p → szToken = t → gate.Binds p t →
          gate.Unbound p nSocketID) ↔
            (gate.Binds nPlayerID szToken → gate.Unbound nPlayerID nSocketID) := by
        constructor
        · intro hall
          exact hall nPlayerID szToken rfl rfl
        · rintro hall p t rfl rfl
          exact hall
      rw [hone]
      by_cases hbinds : gate.Binds nPlayerID szToken
      · rw [imp_iff_right hbinds]
        rcases tables_handshake_of_binds hkeyed hne hparse hbinds bInvoke with
          ⟨⟨session, hsession, hstate⟩, heq⟩ | ⟨hout, heq⟩
        · rw [heq, (h.release _).bind_iff, h.free_release_iff, forall_holder_iff hne, Unbound]
          refine (and_iff_left ?_).symm
          intro session₁ hsession₁ hnot
          obtain rfl := Option.some.inj (hsession.symm.trans hsession₁)
          exact absurd hstate hnot
        · have hfree := free_tables_iff hne fun session hsession hstate =>
            hout ⟨session, hsession, hstate⟩
          rcases heq with heq | heq
          · rw [heq, h.bind_iff, hfree]
          · rw [heq, h.release_bind_iff, hfree]
      · rw [tables_handshake_of_not_binds hparse hbinds]
        exact iff_of_true h fun hyes => absurd hyes hbinds

/-! ## Connections -/

section Connected

variable (k : UInt64)

@[simp] theorem connected_enterGasError :
    (gate.enterGasError session).Connected k ↔ gate.Connected k :=
  Iff.of_eq ((untouched_connected k).enterGasError gate session)

@[simp] theorem connected_enterGas (bInvoke : Bool) :
    (gate.enterGas nPlayerID bInvoke).Connected k ↔ gate.Connected k := by
  rw [enterGas]
  split
  · rfl
  · dsimp only
    split
    · rfl
    · split
      · rfl
      · exact connected_enterGasError k

@[simp] theorem connected_onEnterResponse (response : EnterResponse) :
    (gate.onEnterResponse nPlayerID response).Connected k ↔ gate.Connected k :=
  Iff.of_eq ((untouched_connected k).onEnterResponse gate nPlayerID response)

@[simp] theorem connected_enterClient (szToken : StdString) (nState : UInt32) :
    (gate.enterClient nPlayerID nSocketID szToken nState).Connected k ↔ gate.Connected k :=
  Iff.rfl

theorem connected_handshake (szKey : StdString) (bInvoke : Bool) :
    (gate.handshake nSocketID szKey bInvoke).Connected k ↔ gate.Connected k := by
  rw [handshake]
  split
  · simp
  · split
    · split
      · split <;> simp
      · split <;> simp
    · rfl

theorem connected_playerTokenNotify (szToken : StdString) (nGasID : UInt32)
    (bInvoke : Bool) :
    (gate.playerTokenNotify nPlayerID szToken nGasID bInvoke).Connected k ↔
      gate.Connected k := by
  have hrefuse : ∀ session szMsg,
      (gate.refuseToken session szMsg).Connected k ↔ gate.Connected k :=
    fun session szMsg => Iff.of_eq ((untouched_connected k).refuseToken gate session szMsg)
  rw [playerTokenNotify]
  split
  · split
    · split
      · exact hrefuse _ _
      · simp
    · split
      · exact hrefuse _ _
      · simp
  · rfl

theorem connected_foldl_destroySession (players : List UInt64) :
    (players.foldl destroySession gate).Connected k ↔ gate.Connected k :=
  Iff.of_eq ((untouched_connected k).foldl_destroySession gate players)

theorem connected_of_onDisconnect (h : (gate.onDisconnect nSocketID).Connected k) :
    gate.Connected k := by
  rw [onDisconnect] at h
  have herase : ({ gate with
      mapBaseConnectionByID := gate.mapBaseConnectionByID.erase nSocketID } :
        CGateService).Connected k → gate.Connected k := by
    intro herase
    rw [Connected, Std.ExtTreeMap.contains_erase, Bool.and_eq_true] at herase
    exact herase.2
  split at h
  · exact h
  · dsimp only at h
    split at h
    · exact herase h
    · split at h
      · rw [connected_destroySession, connected_unbindSocketID] at h
        exact herase h
      · exact herase h

end Connected

/-- Connections come by their event only. -/
theorem connected_of_step {e : Event} (h : (gate.step e).Connected n) :
    gate.Connected n ∨ n ≠ 0 := by
  cases e with
  | connect nSocketID =>
      rw [step] at h
      split at h
      · exact .inl h
      · rename_i hfresh
        rw [Connected, Std.ExtTreeMap.contains_insert, Bool.or_eq_true] at h
        rcases h with heq | h
        · right
          rintro rfl
          simp only [Std.LawfulEqCmp.compare_eq_iff_eq, beq_iff_eq] at heq
          exact hfresh (.inl heq)
        · exact .inl h
  | handshake nSocketID szKey bInvoke =>
      rw [step] at h
      split at h
      · exact .inl ((connected_handshake n szKey bInvoke).mp h)
      · exact .inl h
  | playerTokenNotify nPlayerID szToken nGasID bInvoke =>
      rw [step, connected_playerTokenNotify] at h
      exact .inl h
  | enterResponse nPlayerID response =>
      exact .inl ((connected_onEnterResponse n response).mp h)
  | kickPlayerNotify nPlayerID =>
      rw [step, kickPlayerNotify, connected_destroySession] at h
      exact .inl h
  | gasDisconnect nGasID => exact .inl ((connected_foldl_destroySession n _).mp h)
  | disconnect nSocketID => exact .inl (connected_of_onDisconnect n h)
  | tokenTimeout nPlayerID =>
      rw [step, onTokenTimeout] at h
      split at h
      · exact .inl h
      · split at h
        · exact .inl ((connected_destroySession n).mp h)
        · exact .inl h

/-! ## Histories -/

theorem Sound.step (h : gate.Sound) (e : Event) : (gate.step e).Sound where
  keyed := by
    intro n session hsession
    cases becomes_of_step hsession with
    | kept hold => exact h.keyed hold
    | enter _ hold =>
        have hid := h.keyed hold
        exact hid
    | replace _ hold =>
        have hid := h.keyed hold
        exact hid
    | create => rfl
    | notifyEnter hold =>
        have hid := h.keyed hold
        exact hid
    | notifyReplace hold =>
        have hid := h.keyed hold
        exact hid
    | notifyCreate => rfl
    | answer hold _ hdone =>
        have hid := h.keyed hold
        cases hdone with
        | refused => exact hid
        | accepted => exact hid
  nonzero := by
    intro hzero
    rcases connected_of_step hzero with hold | hne
    · exact h.nonzero hold
    · exact hne rfl

theorem sound_empty : CGateService.Sound {} where
  keyed := by
    intro n session hsession
    simp [getSession, CGateClientSessionMgr.getSessionByPlayerID] at hsession
  nonzero := by simp [Connected]

/-- The handshake of a client binds neither a connection of another player nor a second
connection of a player who is logging in. -/
def Event.BindsUnbound (gate : CGateService) : Event → Prop
  | .handshake nSocketID szKey _ => gate.Connected nSocketID →
      ∀ nPlayerID szToken, parseKey szKey = some (nPlayerID, szToken) →
        gate.Binds nPlayerID szToken → gate.Unbound nPlayerID nSocketID
  | _ => True

/-- All other events only take connections away. -/
theorem releases_step (hsound : gate.Sound) {e : Event}
    (he : ∀ nSocketID szKey bInvoke, e ≠ .handshake nSocketID szKey bInvoke) :
    gate.tables.Releases (gate.step e).tables := by
  cases e with
  | connect nSocketID =>
      rw [step]
      split
      · exact .refl _
      · exact .refl _
  | handshake nSocketID szKey bInvoke => exact absurd rfl (he nSocketID szKey bInvoke)
  | playerTokenNotify nPlayerID szToken nGasID bInvoke =>
      let dispatched : CGateService :=
        { gate with
          mapDispatchedToken := gate.mapDispatchedToken.insert nPlayerID szToken }
      have hkeyed : ∀ {n session}, dispatched.getSession n = some session →
          session.nPlayerID = n := hsound.keyed
      exact releases_playerTokenNotify hkeyed szToken nGasID bInvoke
  | enterResponse nPlayerID response => exact releases_onEnterResponse response
  | kickPlayerNotify nPlayerID =>
      have hmodify : gate.tables.Releases (gate.modifySession nPlayerID fun session =>
          { session with bKick := true }).tables := releases_modifySession fun _ => rfl
      exact hmodify.trans releases_destroySession
  | gasDisconnect nGasID => exact releases_foldl_destroySession _
  | disconnect nSocketID => exact releases_onDisconnect
  | tokenTimeout nPlayerID =>
      rw [step, onTokenTimeout]
      split
      · exact .refl _
      · split
        · exact releases_destroySession
        · exact .refl _

/-- Of all events only such handshakes disturb the tables. -/
theorem inverse_step_iff (hsound : gate.Sound) (h : gate.tables.Inverse) (e : Event) :
    (gate.step e).tables.Inverse ↔ e.BindsUnbound gate := by
  by_cases he : ∃ nSocketID szKey bInvoke, e = .handshake nSocketID szKey bInvoke
  · obtain ⟨nSocketID, szKey, bInvoke, rfl⟩ := he
    rw [Event.BindsUnbound, step]
    split
    · rename_i hconnected
      have hne : nSocketID ≠ 0 := by
        rintro rfl
        exact hsound.nonzero hconnected
      rw [inverse_handshake_iff h hsound.keyed hne]
      exact ⟨fun hall _ => hall, fun hall => hall hconnected⟩
    · rename_i hconnected
      exact iff_of_true h fun hyes => absurd hyes hconnected
  · refine iff_of_true (h.releases (releases_step hsound fun nSocketID szKey bInvoke heq =>
      he ⟨nSocketID, szKey, bInvoke, heq⟩)) ?_
    cases e with
    | handshake nSocketID szKey bInvoke => exact absurd ⟨_, _, _, rfl⟩ he
    | connect => trivial
    | playerTokenNotify => trivial
    | enterResponse => trivial
    | kickPlayerNotify => trivial
    | gasDisconnect => trivial
    | disconnect => trivial
    | tokenTimeout => trivial

/-- In every history, the tables are inverse to each other after every event if and only
if no handshake binds what is bound elsewhere. -/
theorem socketsInverse_throughout_iff (events : List Event) :
    (∀ ks, ks <+: events → (ks.foldl step {}).sessionMgr.SocketsInverse) ↔
      ∀ ks e, ks ++ [e] <+: events → e.BindsUnbound (ks.foldl step {}) := by
  have hempty : CGateService.tables {} |>.Inverse := by
    rw [tables, ← socketsInverse_iff]
    intro nSocketID nPlayerID hne
    simp [CGateClientSessionMgr.getSessionByPlayerID]
  simp only [socketsInverse_iff]
  exact throughout_iff (I := Sound) (P := fun gate => gate.tables.Inverse)
    (C := fun gate e => e.BindsUnbound gate) (fun _ e h => h.step e)
    (fun _ e hsound h => inverse_step_iff hsound h e) sound_empty hempty events

/-- The message dispatcher looks the player of a connection up in the same tables. -/
theorem getSessionBySocketID_toDispatcher (mgr : CGateClientSessionMgr)
    (nSocketID : UInt64) :
    (mgr.toDispatcher.getSessionBySocketID nSocketID).map Gate.CGateClientSession.nPlayerID =
      (mgr.getSessionBySocketID nSocketID).map CGateClientSession.nPlayerID := by
  rw [Gate.CGateClientSessionMgr.getSessionBySocketID,
    CGateClientSessionMgr.getSessionBySocketID]
  simp only [CGateClientSessionMgr.toDispatcher,
    Gate.CGateClientSessionMgr.getSessionByPlayerID,
    CGateClientSessionMgr.getSessionByPlayerID]
  cases mgr.mapPlayerIDBySocketID[nSocketID]? with
  | none => rfl
  | some nPlayerID =>
      dsimp only
      rw [Std.ExtTreeMap.getElem?_map, Option.map_map]
      rfl

/-- In such a history, the messages of one player come from one connection. -/
theorem socket_unique_of_bindsUnbound {events : List Event}
    (hbinds : ∀ ks e, ks ++ [e] <+: events → e.BindsUnbound (ks.foldl step {}))
    {n₁ n₂ : UInt64} (hn₁ : n₁ ≠ 0) (hn₂ : n₂ ≠ 0)
    {s₁ s₂ : Gate.CGateClientSession}
    (h₁ : (events.foldl step {}).sessionMgr.toDispatcher.getSessionBySocketID n₁ = some s₁)
    (h₂ : (events.foldl step {}).sessionMgr.toDispatcher.getSessionBySocketID n₂ = some s₂)
    (hplayer : s₁.nPlayerID = s₂.nPlayerID) : n₁ = n₂ := by
  have hsound : (events.foldl step {}).Sound :=
    foldl_invariant (fun _ e h => h.step e) sound_empty events
  have hinverse : (events.foldl step {}).sessionMgr.SocketsInverse :=
    (socketsInverse_throughout_iff events).mpr hbinds events (List.prefix_refl _)
  have hbound {n : UInt64} {s : Gate.CGateClientSession} (hn : n ≠ 0)
      (h : (events.foldl step {}).sessionMgr.toDispatcher.getSessionBySocketID n = some s) :
      ∃ session, (events.foldl step {}).getSession s.nPlayerID = some session ∧
        session.nSocketID = n := by
    have hid := getSessionBySocketID_toDispatcher (events.foldl step {}).sessionMgr n
    rw [h, Option.map_some] at hid
    obtain ⟨session, hsession, hplayer⟩ := Option.map_eq_some_iff.mp hid.symm
    rw [CGateClientSessionMgr.getSessionBySocketID] at hsession
    split at hsession
    · exact absurd hsession nofun
    · rename_i nPlayerID hmap
      obtain ⟨session', hsession', hsocket⟩ := (hinverse n nPlayerID hn).mp hmap
      rw [hsession] at hsession'
      obtain rfl := Option.some.inj hsession'
      refine ⟨session, ?_, hsocket⟩
      rw [← hplayer, hsound.keyed hsession]
      exact hsession
  obtain ⟨session₁, hsession₁, rfl⟩ := hbound hn₁ h₁
  obtain ⟨session₂, hsession₂, rfl⟩ := hbound hn₂ h₂
  rw [hplayer, hsession₂] at hsession₁
  rw [Option.some.inj hsession₁]

/-- A client logs in on one connection and sends the key of another player on it. -/
def twoPlayers : List Event :=
  [.connect 1, .handshake 1 [55, 124, 97] true, .handshake 1 [56, 124, 98] true]

/-- The connection is the one of both sessions. -/
theorem not_socketsInverse_twoPlayers :
    ¬ ∀ events : List Event, (events.foldl step {}).sessionMgr.SocketsInverse := by
  intro h
  have hinverse := h twoPlayers
  have hsession : ((twoPlayers.foldl step {}).sessionMgr.getSessionByPlayerID 7).map
      CGateClientSession.nSocketID = some 1 := by decide
  have hmap := (hinverse 1 7 (by decide)).mpr (Option.map_eq_some_iff.mp hsession)
  have hmap' : (twoPlayers.foldl step {}).sessionMgr.mapPlayerIDBySocketID[(1 : UInt64)]? =
      some 8 := by decide
  rw [hmap'] at hmap
  exact absurd hmap (by decide)

end CGateService

end RealtimeEx.Gate.Login
