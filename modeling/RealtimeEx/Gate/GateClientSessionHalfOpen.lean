import RealtimeEx.Gate.GateClientSessionLogin

/-!
# Sessions that are not logged in

A session whose player is not logged in has to be cleaned up some day: by the ticker of
its token, by the answer of the game service, or with its connection, which is being shut
down.  The ticker is registered once, when the session is created.
-/

namespace RealtimeEx.Gate.Login

open Base

namespace CGateService

variable {gate gate' : CGateService} {nPlayerID nSocketID n : UInt64}
  {session : CGateClientSession}

/-! ## Connections stay and go on closing -/

/-- The connection is being shut down. -/
def Closing (gate : CGateService) (nSocketID : UInt64) : Prop :=
  gate.mapBaseConnectionByID[nSocketID]? = some true

instance : Decidable (gate.Closing nSocketID) :=
  inferInstanceAs (Decidable (_ = _))

/-- Every connection is still there, and the closing ones are still closing. -/
structure Stays (gate gate' : CGateService) : Prop where
  connected : ∀ nSocketID, gate.Connected nSocketID → gate'.Connected nSocketID
  closing : ∀ nSocketID, gate.Closing nSocketID → gate'.Closing nSocketID

theorem Stays.of_eq (h : gate'.mapBaseConnectionByID = gate.mapBaseConnectionByID) :
    Stays gate gate' where
  connected nSocketID hconnected := by
    rw [Connected, h]
    exact hconnected
  closing nSocketID hclosing := by
    rw [Closing, h]
    exact hclosing

theorem Stays.trans {gate'' : CGateService} (h : Stays gate gate')
    (h' : Stays gate' gate'') : Stays gate gate'' where
  connected nSocketID hconnected := h'.connected nSocketID (h.connected nSocketID hconnected)
  closing nSocketID hclosing := h'.closing nSocketID (h.closing nSocketID hclosing)

theorem stays_shutdown (gate : CGateService) (nSocketID : UInt64) (bForce : Bool)
    (szMsg : String) : Stays gate (gate.shutdown nSocketID bForce szMsg) where
  connected n := (connected_shutdown n bForce szMsg).mpr
  closing n hclosing := by
    rw [shutdown]
    split
    · rw [Closing, StdMap.getElem?_insert]
      split
      · rfl
      · exact hclosing
    · exact hclosing

/-- A connection that is there closes when it is shut down. -/
theorem closing_shutdown (h : gate.Connected nSocketID) (bForce : Bool) (szMsg : String) :
    (gate.shutdown nSocketID bForce szMsg).Closing nSocketID := by
  rw [Connected, Std.ExtTreeMap.contains_eq_isSome_getElem?] at h
  obtain ⟨bClosing, hclosing⟩ := Option.isSome_iff_exists.mp h
  rw [shutdown, hclosing]
  cases bClosing with
  | false =>
      rw [Closing, StdMap.getElem?_insert, if_pos rfl]
  | true => exact hclosing

theorem stays_destroySession (gate : CGateService) (nPlayerID : UInt64) :
    Stays gate (gate.destroySession nPlayerID) := by
  rw [destroySession]
  split
  · exact .of_eq rfl
  · dsimp only
    have hsame : ∀ mgr, Stays gate { gate with sessionMgr := mgr } := fun mgr => .of_eq rfl
    have hshut : ∀ mgr s, Stays gate
        (({ gate with sessionMgr := mgr } : CGateService).shutdown s true "kick") :=
      fun mgr s => (hsame mgr).trans (stays_shutdown _ s true "kick")
    split
    · split
      · exact hshut _ _
      · exact hsame _
    · split
      · exact (hshut _ _).trans (.of_eq rfl)
      · exact .of_eq rfl

theorem stays_enterGasError (gate : CGateService) (session : CGateClientSession) :
    Stays gate (gate.enterGasError session) := by
  rw [enterGasError]
  split
  · have houtput : Stays gate (gate.output (.handshakeResponse session.nSocketID
        session.nPlayerID eEC_Login_InvokeGasError)) := .of_eq rfl
    exact houtput.trans (stays_destroySession _ _)
  · exact .of_eq rfl

theorem stays_enterGas (gate : CGateService) (nPlayerID : UInt64) (bInvoke : Bool) :
    Stays gate (gate.enterGas nPlayerID bInvoke) := by
  rw [enterGas]
  split
  · exact .of_eq rfl
  · dsimp only
    split
    · exact .of_eq rfl
    · split
      · exact .of_eq rfl
      · refine Stays.trans (.of_eq ?_) (stays_enterGasError _ _)
        rfl

theorem stays_onEnterResponse (gate : CGateService) (nPlayerID : UInt64)
    (response : EnterResponse) : Stays gate (gate.onEnterResponse nPlayerID response) := by
  rw [onEnterResponse]
  split
  · exact .of_eq rfl
  · dsimp only
    split
    · exact .of_eq rfl
    · have hless : Stays gate (gate.modifySession nPlayerID fun session =>
          { session with nEnterGas := session.nEnterGas - 1 }) := .of_eq rfl
      split
      · exact hless.trans (stays_enterGasError _ _)
      · exact hless.trans (stays_enterGasError _ _)
      · split
        · exact hless
        · split
          · refine Stays.trans (.of_eq ?_) (stays_shutdown _ _ _ _)
            rfl
          · exact .of_eq rfl

/-- A session gives up its connection, which is shut down. -/
theorem stays_unbind_shutdown (gate : CGateService) (nPlayerID nSocketID : UInt64) :
    Stays gate ((gate.unbindSocketID nPlayerID).shutdown nSocketID true "dup") := by
  have hunbind : Stays gate (gate.unbindSocketID nPlayerID) := .of_eq rfl
  exact hunbind.trans (stays_shutdown _ _ _ _)

theorem stays_handshake (gate : CGateService) (nSocketID : UInt64) (szKey : StdString)
    (bInvoke : Bool) : Stays gate (gate.handshake nSocketID szKey bInvoke) := by
  rw [handshake]
  split
  · exact stays_shutdown _ _ _ _
  · split
    · split
      · split
        · exact stays_shutdown _ _ _ _
        · refine Stays.trans (.of_eq ?_) (stays_enterGas _ _ _)
          rfl
      · split
        · exact stays_shutdown _ _ _ _
        · exact (stays_unbind_shutdown gate _ _).trans (.of_eq rfl)
    · exact .of_eq rfl

theorem stays_refuseToken (gate : CGateService) (session : CGateClientSession)
    (szMsg : String) : Stays gate (gate.refuseToken session szMsg) := by
  rw [refuseToken]
  split
  · exact stays_shutdown _ _ _ _
  · exact stays_destroySession _ _

theorem stays_playerTokenNotify (gate : CGateService) (nPlayerID : UInt64)
    (szToken : StdString) (nGasID : UInt32) (bInvoke : Bool) :
    Stays gate (gate.playerTokenNotify nPlayerID szToken nGasID bInvoke) := by
  rw [playerTokenNotify]
  split
  · split
    · split
      · exact stays_refuseToken _ _ _
      · refine Stays.trans (.of_eq ?_) (stays_enterGas _ _ _)
        rfl
    · split
      · exact stays_refuseToken _ _ _
      · exact (stays_unbind_shutdown gate _ _).trans (.of_eq rfl)
  · exact .of_eq rfl

theorem stays_foldl_destroySession (gate : CGateService) (players : List UInt64) :
    Stays gate (players.foldl destroySession gate) := by
  induction players generalizing gate with
  | nil => exact .of_eq rfl
  | cons nPlayerID players ih => exact (stays_destroySession gate nPlayerID).trans (ih _)

theorem stays_step (gate : CGateService) {e : Event} (he : ∀ s, e ≠ .disconnect s) :
    Stays gate (gate.step e) := by
  cases e with
  | connect nSocketID =>
      rw [step]
      split
      · exact .of_eq rfl
      · rename_i hfresh
        constructor
        · intro s hs
          rw [Connected, Std.ExtTreeMap.contains_insert, Bool.or_eq_true]
          exact .inr hs
        · intro s hs
          rw [Closing, StdMap.getElem?_insert, if_neg]
          · exact hs
          · rintro rfl
            apply hfresh
            right
            rw [Std.ExtTreeMap.contains_eq_isSome_getElem?, hs]
            rfl
  | handshake nSocketID szKey bInvoke =>
      rw [step]
      split
      · exact stays_handshake _ _ _ _
      · exact .of_eq rfl
  | playerTokenNotify nPlayerID szToken nGasID bInvoke =>
      rw [step]
      refine Stays.trans (.of_eq ?_) (stays_playerTokenNotify _ _ _ _ _)
      rfl
  | enterResponse nPlayerID response => exact stays_onEnterResponse _ _ _
  | kickPlayerNotify nPlayerID =>
      rw [step, kickPlayerNotify]
      refine Stays.trans (.of_eq ?_) (stays_destroySession _ _)
      rfl
  | gasDisconnect nGasID => exact stays_foldl_destroySession _ _
  | disconnect nSocketID => exact absurd rfl (he nSocketID)
  | tokenTimeout nPlayerID =>
      rw [step, onTokenTimeout]
      split
      · exact .of_eq rfl
      · split
        · exact stays_destroySession _ _
        · exact .of_eq rfl

/-! ## What becomes of a session without a ticker -/

/-- Somebody will clean the session up: its ticker is registered, a login call waits for
the game service, or its connection is being shut down. -/
def Attended (gate : CGateService) (session : CGateClientSession) : Prop :=
  session.bTokenTimeout = true ∨ session.nEnterGas ≠ 0 ∨ gate.Closing session.nSocketID

/-- Every session is logged in or attended. -/
def NoneHalfOpen (gate : CGateService) : Prop :=
  ∀ n session, gate.getSession n = some session →
    session.nState = eCSS_Normal ∨ gate.Attended session

/-- When the game service cannot be asked, the session is destroyed. -/
theorem getSession_enterGas_of_not_invoked
    (hsession : gate.getSession nPlayerID = some session) (hid : session.nPlayerID = nPlayerID)
    (hstate : session.nState = eCSS_ClientEnter ||| eCSS_TokenEnter)
    (hconnected : gate.Connected session.nSocketID) :
    (gate.enterGas nPlayerID false).getSession nPlayerID = none := by
  have hmgr : gate.sessionMgr.getSessionByPlayerID nPlayerID = some session := hsession
  simp only [enterGas, hmgr, hstate, ne_eq, not_true_eq_false, if_false, Bool.false_eq_true]
  rw [enterGasError]
  split
  · rw [getSession_destroySession, if_pos hid]
  · rename_i hnot
    exact absurd hconnected hnot

/-- The answer of the game service logs the player in, destroys the session, or shuts its
connection down. -/
theorem closing_of_onEnterResponse (hsession : gate.getSession n = some session)
    (hid : session.nPlayerID = n) (hwait : session.nEnterGas ≠ 0)
    (hconnected : gate.Connected session.nSocketID) {response : EnterResponse}
    {session' : CGateClientSession}
    (h : (gate.onEnterResponse n response).getSession n = some session') :
    session'.nState = eCSS_Normal ∨
      (gate.onEnterResponse n response).Closing session.nSocketID := by
  have hmgr : gate.sessionMgr.getSessionByPlayerID n = some session := hsession
  have hless : (gate.modifySession n fun session =>
      { session with nEnterGas := session.nEnterGas - 1 }).Connected session.nSocketID :=
    hconnected
  have hgone : ((gate.modifySession n fun session =>
      { session with nEnterGas := session.nEnterGas - 1 }).enterGasError session).getSession n =
        none := by
    rw [enterGasError]
    split
    · rw [getSession_destroySession, if_pos hid]
    · rename_i hnot
      exact absurd hless hnot
  simp only [onEnterResponse, hmgr, if_neg hwait] at h ⊢
  cases response with
  | invokeError =>
      dsimp only at h
      rw [hgone] at h
      cases h
  | noMessage =>
      dsimp only at h
      rw [hgone] at h
      cases h
  | result nResult =>
      dsimp only at h ⊢
      split
      · rename_i hnot
        rw [Bool.not_eq_true'] at hnot
        exact absurd (hless.symm.trans hnot) Bool.noConfusion
      · rename_i hyes
        rw [if_neg hyes] at h
        split
        · right
          apply closing_shutdown
          exact hless
        · rename_i hsuccess
          left
          rw [if_neg hsuccess, getSession_output, getSession_modifySession, if_pos rfl] at h
          obtain ⟨session₁, -, rfl⟩ := Option.map_eq_some_iff.mp h
          rfl

/-- Where every session is found by its connection, none is left with a connection that
is gone. -/
theorem nSocketID_ne_of_onDisconnect (hsound : gate.Sound) (hfinds : gate.tables.Finds)
    (hconnected : gate.Connected nSocketID)
    (h : (gate.onDisconnect nSocketID).getSession n = some session) :
    session.nSocketID ≠ nSocketID := by
  rintro rfl
  have hne : session.nSocketID ≠ 0 := by
    intro hzero
    rw [hzero] at hconnected
    exact hsound.nonzero hconnected
  have hold := of_getSession_onDisconnect h
  have hkey : gate.tables.key n = some session.nSocketID :=
    CGateClientSessionMgr.key_tables_eq_some_iff.mpr ⟨hne, session, hold, rfl⟩
  have hholder :=
    (CGateClientSessionMgr.holder_tables_eq_some_iff.mp (hfinds n _ hkey)).2
  have hfound : gate.sessionMgr.getSessionBySocketID session.nSocketID = some session := by
    rw [CGateClientSessionMgr.getSessionBySocketID, hholder]
    exact hold
  have hcontains : gate.mapBaseConnectionByID.contains session.nSocketID = true := hconnected
  simp only [onDisconnect, hcontains, Bool.not_true, Bool.false_eq_true, if_false, hfound,
    if_true] at h
  exact (of_getSession_destroySession h).1 (hsound.keyed hold)

/-- Connections other than the one that is gone are as before. -/
theorem stays_of_onDisconnect {s : UInt64} (hs : s ≠ nSocketID) :
    (gate.Connected s → (gate.onDisconnect nSocketID).Connected s) ∧
      (gate.Closing s → (gate.onDisconnect nSocketID).Closing s) := by
  have herase : (gate.Connected s → ({ gate with
        mapBaseConnectionByID := gate.mapBaseConnectionByID.erase nSocketID } :
          CGateService).Connected s) ∧
      (gate.Closing s → ({ gate with
        mapBaseConnectionByID := gate.mapBaseConnectionByID.erase nSocketID } :
          CGateService).Closing s) := by
    constructor
    · intro hconnected
      rw [Connected, Std.ExtTreeMap.contains_eq_isSome_getElem?, StdMap.getElem?_erase,
        if_neg (Ne.symm hs), ← Std.ExtTreeMap.contains_eq_isSome_getElem?]
      exact hconnected
    · intro hclosing
      rw [Closing, StdMap.getElem?_erase, if_neg (Ne.symm hs)]
      exact hclosing
  rw [onDisconnect]
  split
  · exact ⟨id, id⟩
  · dsimp only
    split
    · exact herase
    · split
      · rename_i session hsession hsocket
        have hunbind : Stays { gate with
            mapBaseConnectionByID := gate.mapBaseConnectionByID.erase nSocketID }
            (({ gate with
              mapBaseConnectionByID := gate.mapBaseConnectionByID.erase nSocketID } :
                CGateService).unbindSocketID session.nPlayerID) := .of_eq rfl
        have hstays := hunbind.trans (stays_destroySession _ session.nPlayerID)
        exact ⟨fun h => hstays.connected s (herase.1 h),
          fun h => hstays.closing s (herase.2 h)⟩
      · exact herase

/-! ## Histories without a second login -/

/-- No handshake binds the connection of another player's session, and neither a
handshake nor a notification takes over the session of a player who is logged in. -/
def Event.EntersOnce (gate : CGateService) : Event → Prop
  | .handshake nSocketID szKey _ => gate.Connected nSocketID →
      ∀ nPlayerID szToken, parseKey szKey = some (nPlayerID, szToken) →
        gate.Binds nPlayerID szToken → ¬ gate.LoggedIn nPlayerID ∧
          ∀ p session, gate.getSession p = some session → session.nSocketID = nSocketID →
            p = nPlayerID
  | .playerTokenNotify nPlayerID _ _ _ => ¬ gate.LoggedIn nPlayerID
  | _ => True

/-- What holds as long as nobody logs in twice: every session is found by its connection,
a client that has entered is connected, and no session is half open. -/
structure Watched (gate : CGateService) : Prop extends Sound gate where
  finds : gate.tables.Finds
  bound : ∀ {n session}, gate.getSession n = some session →
    session.hasState eCSS_ClientEnter = true ∨ session.nEnterGas ≠ 0 →
      gate.Connected session.nSocketID
  attended : gate.NoneHalfOpen

theorem Event.EntersOnce.finds (hsound : gate.Sound) (hfinds : gate.tables.Finds) {e : Event}
    (h : e.EntersOnce gate) : (gate.step e).tables.Finds := by
  by_cases he : ∃ nSocketID szKey bInvoke, e = .handshake nSocketID szKey bInvoke
  · obtain ⟨nSocketID, szKey, bInvoke, rfl⟩ := he
    rw [CGateService.step]
    split
    · rename_i hconnected
      have hne : nSocketID ≠ 0 := by
        rintro rfl
        exact hsound.nonzero hconnected
      cases hparse : parseKey szKey with
      | none =>
          rw [CGateService.handshake, hparse]
          dsimp only
          rw [tables_shutdown]
          exact hfinds
      | some key =>
          obtain ⟨nPlayerID, szToken⟩ := key
          by_cases hbinds : gate.Binds nPlayerID szToken
          · obtain ⟨hout, hfresh⟩ := h hconnected nPlayerID szToken hparse hbinds
            have hbind : (gate.tables.bind nPlayerID nSocketID).Finds := by
              apply hfinds.bind
              intro p hp
              obtain ⟨-, session, hsession, hsocket⟩ :=
                CGateClientSessionMgr.key_tables_eq_some_iff.mp hp
              exact hfresh p session hsession hsocket
            rcases tables_handshake_of_binds hsound.keyed hne hparse hbinds bInvoke with
              ⟨hin, -⟩ | ⟨-, heq | heq⟩
            · exact absurd hin hout
            · rw [heq]
              exact hbind
            · rw [heq]
              exact hbind.release nPlayerID
          · rw [tables_handshake_of_not_binds hparse hbinds]
            exact hfinds
    · exact hfinds
  · apply hfinds.releases
    apply releases_step hsound
    intro nSocketID szKey bInvoke heq
    exact he ⟨nSocketID, szKey, bInvoke, heq⟩

/-- The connection of a session that an event leaves alone. -/
theorem Watched.kept (h : gate.Watched) {e : Event}
    (hsession : (gate.step e).getSession n = some session) :
    (gate.Connected session.nSocketID → (gate.step e).Connected session.nSocketID) ∧
      (gate.Closing session.nSocketID → (gate.step e).Closing session.nSocketID) := by
  by_cases he : ∃ s, e = .disconnect s
  · obtain ⟨s, rfl⟩ := he
    by_cases hconnected : gate.Connected s
    · exact stays_of_onDisconnect
        (nSocketID_ne_of_onDisconnect h.toSound h.finds hconnected hsession)
    · have hsame : gate.step (.disconnect s) = gate := by
        rw [Connected, Bool.not_eq_true] at hconnected
        simp only [step, onDisconnect, hconnected, Bool.not_false, if_true]
      rw [hsame]
      exact ⟨id, id⟩
  · have hstays := stays_step gate (e := e) fun s hs => he ⟨s, hs⟩
    exact ⟨hstays.connected _, hstays.closing _⟩

/-- An event after which nobody is logged in twice leaves no session half open. -/
theorem Watched.step (h : gate.Watched) {e : Event} (henters : e.EntersOnce gate) :
    (gate.step e).Watched := by
  by_cases hdropped : ∃ s szKey bInvoke, e = .handshake s szKey bInvoke ∧ ¬ gate.Connected s
  · obtain ⟨s, szKey, bInvoke, rfl, hnot⟩ := hdropped
    rw [step_handshake_of_not hnot]
    exact h
  have hconnected : ∀ {s szKey bInvoke}, e = .handshake s szKey bInvoke →
      gate.Connected s := by
    intro s szKey bInvoke heq
    by_contra hnot
    exact hdropped ⟨s, szKey, bInvoke, heq, hnot⟩
  refine ⟨h.toSound.step e, henters.finds h.toSound h.finds, ?_, ?_⟩
  · intro n session hsession hbound
    cases becomes_of_step hsession with
    | kept hold => exact (h.kept hsession).1 (h.bound hold hbound)
    | enter => exact (stays_step gate fun s => Event.noConfusion).connected _ (hconnected rfl)
    | replace => exact (stays_step gate fun s => Event.noConfusion).connected _ (hconnected rfl)
    | create => exact (stays_step gate fun s => Event.noConfusion).connected _ (hconnected rfl)
    | notifyEnter hold hclient =>
        have hbefore := h.bound hold (.inl hclient)
        exact (stays_step gate fun s => Event.noConfusion).connected _ hbefore
    | notifyReplace hold hnormal =>
        exact absurd ⟨_, hold, hnormal⟩ henters
    | notifyCreate =>
        rcases hbound with hflag | hwait
        · exact absurd hflag (not_clientEnter (.inl rfl))
        · exact absurd rfl hwait
    | answer hold hwait hdone =>
        rename_i response old
        have hbefore := h.bound hold (.inr hwait)
        have hstays : Stays gate (gate.step (.enterResponse n response)) :=
          stays_step gate fun s => Event.noConfusion
        have hafter := hstays.connected _ hbefore
        cases hdone with
        | refused => exact hafter
        | accepted => exact hafter
  · intro n session hsession
    cases becomes_of_step hsession with
    | kept hold =>
        rcases h.attended n session hold with hnormal | hticker | hwait | hclosing
        · exact .inl hnormal
        · exact .inr (.inl hticker)
        · exact .inr (.inr (.inl hwait))
        · exact .inr (.inr (.inr ((h.kept hsession).2 hclosing)))
    | enter hparse hold hflag htoken =>
        rename_i s szKey bInvoke szToken session
        cases bInvoke with
        | true => exact .inr (.inr (.inl (Nat.succ_ne_zero _)))
        | false =>
            -- The connection is there, so the session was destroyed.
            have hmgr : gate.sessionMgr.getSessionByPlayerID n = some session := hold
            have hclient : (gate.enterClient n s szToken
                (eCSS_ClientEnter ||| eCSS_TokenEnter)).getSession n =
                  some { session with
                    nSocketID := s
                    nState := eCSS_ClientEnter ||| eCSS_TokenEnter
                    szClientToken := some szToken } := by
              rw [getSession_enterClient, if_pos rfl, hold]
              rfl
            have hid := h.keyed hold
            have hgone := getSession_enterGas_of_not_invoked hclient hid rfl
              (hconnected rfl)
            rw [step_handshake (hconnected rfl)] at hsession
            simp only [handshake, hparse, hmgr, hflag, htoken, ne_eq, not_true_eq_false,
              if_false, if_true] at hsession
            rw [hgone] at hsession
            cases hsession
    | replace hparse hold hnormal =>
        rename_i s szKey bInvoke szToken session
        have hbinds : gate.Binds n szToken := by
          rw [Binds, hold]
          dsimp only
          rw [if_neg (not_tokenEnter (.inr hnormal))]
          exact hnormal
        exact absurd ⟨_, hold, hnormal⟩ (henters (hconnected rfl) n szToken hparse hbinds).1
    | create => exact .inr (.inl rfl)
    | notifyEnter hold hclient htoken =>
        rename_i szToken nGasID bInvoke session
        cases bInvoke with
        | true => exact .inr (.inr (.inl (Nat.succ_ne_zero _)))
        | false =>
            have hmgr : gate.sessionMgr.getSessionByPlayerID n = some session := hold
            have hmatch : (({ gate with
                mapDispatchedToken := gate.mapDispatchedToken.insert n szToken } :
                  CGateService).modifySession n fun session =>
                { session with
                  nGasID, nState := eCSS_TokenEnter ||| eCSS_ClientEnter }).getSession n =
                  some { session with
                    nGasID, nState := eCSS_TokenEnter ||| eCSS_ClientEnter } := by
              rw [getSession_modifySession, if_pos rfl]
              change (gate.getSession n).map _ = _
              rw [hold]
              rfl
            have hid := h.keyed hold
            have hthere := h.bound hold (.inl hclient)
            have hgone := getSession_enterGas_of_not_invoked hmatch hid rfl hthere
            simp only [CGateService.step, playerTokenNotify, hmgr, hclient, htoken, ne_eq,
              not_true_eq_false, if_false, if_true] at hsession
            rw [hgone] at hsession
            cases hsession
    | notifyReplace hold hnormal => exact absurd ⟨_, hold, hnormal⟩ henters
    | notifyCreate => exact .inr (.inl rfl)
    | answer hold hwait hdone =>
        have hanswer := closing_of_onEnterResponse hold (h.keyed hold) hwait
          (h.bound hold (.inr hwait)) hsession
        cases hdone with
        | refused =>
            rcases hanswer with hnormal | hclosing
            · exact .inl hnormal
            · exact .inr (.inr (.inr hclosing))
        | accepted => exact .inl rfl

theorem watched_empty : CGateService.Watched {} where
  toSound := sound_empty
  finds := by
    intro p k hkey
    simp [tables, CGateClientSessionMgr.tables,
      CGateClientSessionMgr.getSessionByPlayerID] at hkey
  bound := by
    intro n session hsession
    simp [getSession, CGateClientSessionMgr.getSessionByPlayerID] at hsession
  attended := by
    intro n session hsession
    simp [getSession, CGateClientSessionMgr.getSessionByPlayerID] at hsession

/-- In every history in which nobody logs in twice, every session is logged in or somebody
will clean it up. -/
theorem noneHalfOpen_of_entersOnce (events : List Event)
    (henters : ∀ ks e, ks ++ [e] <+: events → e.EntersOnce (ks.foldl step {})) :
    ∀ ks, ks <+: events → (ks.foldl step {}).NoneHalfOpen := by
  intro ks hks
  have hwatched : (ks.foldl step {}).Watched := by
    induction ks using List.reverseRecOn with
    | nil => exact watched_empty
    | append_singleton ks e ih =>
        have hbefore := ih ((List.prefix_append ks [e]).trans hks)
        rw [List.foldl_append]
        exact hbefore.step (henters ks e hks)
  exact hwatched.attended

/-- A player logs in at once. -/
def loginEvents : List Event :=
  [.playerTokenNotify 7 [97] 3 true, .connect 1, .handshake 1 [55, 124, 97] true,
    .enterResponse 7 (.result 0)]

theorem noneHalfOpen_loginEvents : (loginEvents.foldl step {}).NoneHalfOpen := by
  apply noneHalfOpen_of_entersOnce loginEvents _ loginEvents List.prefix_rfl
  rw [← meets_iff (C := fun gate e => Event.EntersOnce gate e)]
  have hout : ¬ LoggedIn {} 7 := by decide
  refine ⟨hout, trivial, ?_, trivial, trivial⟩
  intro hconnected nPlayerID szToken hparse hbinds
  have hkey : parseKey [55, 124, 97] = some (7, [97]) := by decide
  obtain ⟨rfl, rfl⟩ := Prod.mk.inj (Option.some.inj (hkey.symm.trans hparse))
  refine ⟨by decide, ?_⟩
  -- The only session has no connection yet.
  have hfresh : ∀ entry ∈ (CGateService.step (CGateService.step {}
      (.playerTokenNotify 7 [97] 3 true)) (.connect 1)).sessionMgr.mapClientSessionByPlayerID.toList,
        entry.2.nSocketID ≠ 1 := by decide
  intro p session hsession hsocket
  exact absurd hsocket (hfresh (p, session)
    (Std.ExtTreeMap.mem_toList_iff_getElem?_eq_some.mpr hsession))

/-- A player who is logged in is dispatched again and never comes. -/
theorem not_noneHalfOpen_dispatchedAgain :
    ¬ ∀ events : List Event, (events.foldl step {}).NoneHalfOpen := by
  intro h
  have hhalf := h (loginEvents ++ [.playerTokenNotify 7 [98] 3 true]) 7
    { nPlayerID := 7, nGasID := 3, szToken := [98], nState := eCSS_TokenEnter,
      bTokenTimeout := false, szClientToken := some [97] } (by decide)
  rcases hhalf with hnormal | hticker | hwait | hclosing
  · exact absurd hnormal (by decide)
  · cases hticker
  · exact hwait rfl
  · exact absurd hclosing (by decide)

end CGateService

end RealtimeEx.Gate.Login
