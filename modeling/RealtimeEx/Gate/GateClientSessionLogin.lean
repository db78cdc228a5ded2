import RealtimeEx.Gate.GateClientSessionInverse

/-!
# Whose logins reach the game service

The gate runs `enterGas` for a session whose client and whose dispatcher have sent the
same token.  While a run is suspended the session looks as it did before, so that it can
be entered again, and with a token that has been replaced by another one.
-/

namespace RealtimeEx.Gate.Login

open Base

namespace CGateService

variable {gate : CGateService} {nPlayerID nSocketID n : UInt64}
  {session : CGateClientSession}

/-! ## The runs of `enterGas` -/

/-- The tokens that were last dispatched, and the runs of `enterGas`. -/
def record (gate : CGateService) : StdMap UInt64 StdString × List EnterGas :=
  (gate.mapDispatchedToken, gate.enterGasLog)

@[simp] theorem record_shutdown (bForce : Bool) (szMsg : String) :
    (gate.shutdown nSocketID bForce szMsg).record = gate.record := by
  rw [shutdown]
  split <;> rfl

@[simp] theorem record_output (out : GateOutput) :
    (gate.output out).record = gate.record := rfl

@[simp] theorem record_modifySession (f : CGateClientSession → CGateClientSession) :
    (gate.modifySession nPlayerID f).record = gate.record := rfl

@[simp] theorem record_unbindSocketID :
    (gate.unbindSocketID nPlayerID).record = gate.record := rfl

@[simp] theorem record_enterClient (szToken : StdString) (nState : UInt32) :
    (gate.enterClient nPlayerID nSocketID szToken nState).record = gate.record := rfl

theorem untouched_record : Untouched record where
  sessions := fun _ _ => rfl
  closing := fun _ _ bForce szMsg => record_shutdown bForce szMsg
  answer := fun _ _ _ _ => rfl
  leave := fun _ _ _ => rfl

@[simp] theorem record_destroySession :
    (gate.destroySession nPlayerID).record = gate.record :=
  untouched_record.destroySession gate nPlayerID

@[simp] theorem record_enterGasError :
    (gate.enterGasError session).record = gate.record :=
  untouched_record.enterGasError gate session

@[simp] theorem record_refuseToken (szMsg : String) :
    (gate.refuseToken session szMsg).record = gate.record :=
  untouched_record.refuseToken gate session szMsg

theorem record_enterGas (hsession : gate.getSession nPlayerID = some session)
    (hstate : session.nState = eCSS_ClientEnter ||| eCSS_TokenEnter) (bInvoke : Bool) :
    (gate.enterGas nPlayerID bInvoke).record =
      (gate.mapDispatchedToken, gate.enterGasLog ++
        [{ nPlayerID
           szClientToken := session.szClientToken
           szDispatchedToken := gate.mapDispatchedToken[nPlayerID]? }]) := by
  have hmgr : gate.sessionMgr.getSessionByPlayerID nPlayerID = some session := hsession
  simp only [enterGas, hmgr, hstate, ne_eq, not_true_eq_false, if_false]
  split
  · rfl
  · rw [record_enterGasError]
    rfl

/-- The run of `enterGas` that an event starts. -/
def Event.runs (gate : CGateService) : Event → List EnterGas
  | .handshake nSocketID szKey _ =>
      match gate.mapBaseConnectionByID.contains nSocketID, parseKey szKey with
      | true, some (nPlayerID, szToken) =>
          match gate.getSession nPlayerID with
          | some session =>
              if session.hasState eCSS_TokenEnter ∧ session.szToken = szToken then
                [{ nPlayerID
                   szClientToken := some szToken
                   szDispatchedToken := gate.mapDispatchedToken[nPlayerID]? }]
              else
                []
          | none => []
      | _, _ => []
  | .playerTokenNotify nPlayerID szToken _ _ =>
      match gate.getSession nPlayerID with
      | some session =>
          if session.hasState eCSS_ClientEnter ∧ session.szToken = szToken then
            [{ nPlayerID
               szClientToken := session.szClientToken
               szDispatchedToken := some szToken }]
          else
            []
      | none => []
  | _ => []

theorem record_handshake (hconnected : gate.Connected nSocketID) (szKey : StdString)
    (bInvoke : Bool) :
    (gate.handshake nSocketID szKey bInvoke).record =
      (gate.mapDispatchedToken,
        gate.enterGasLog ++ Event.runs gate (.handshake nSocketID szKey bInvoke)) := by
  have hnone : gate.record = (gate.mapDispatchedToken, gate.enterGasLog ++ []) := by
    rw [List.append_nil, record]
  rw [Connected] at hconnected
  rw [handshake, Event.runs, hconnected]
  cases hparse : parseKey szKey with
  | none =>
      dsimp only
      rw [record_shutdown]
      exact hnone
  | some key =>
      obtain ⟨nPlayerID, szToken⟩ := key
      dsimp only
      cases hsession : gate.getSession nPlayerID with
      | none =>
          have hmgr : gate.sessionMgr.getSessionByPlayerID nPlayerID = none := hsession
          simp only [hmgr]
          exact hnone
      | some session =>
          have hmgr : gate.sessionMgr.getSessionByPlayerID nPlayerID = some session := hsession
          simp only [hmgr]
          by_cases hflag : session.hasState eCSS_TokenEnter = true
          · by_cases htoken : session.szToken = szToken
            · have hclient : (gate.enterClient nPlayerID nSocketID szToken
                  (eCSS_ClientEnter ||| eCSS_TokenEnter)).getSession nPlayerID =
                    some { session with
                      nSocketID
                      nState := eCSS_ClientEnter ||| eCSS_TokenEnter
                      szClientToken := some szToken } := by
                rw [getSession_enterClient, if_pos rfl, hsession]
                rfl
              rw [if_pos hflag, if_neg (not_not.mpr htoken), if_pos ⟨hflag, htoken⟩]
              exact record_enterGas hclient rfl bInvoke
            · rw [if_pos hflag, if_pos htoken, if_neg fun h => htoken h.2, record_shutdown]
              exact hnone
          · have hnot : ¬ (session.hasState eCSS_TokenEnter = true ∧
                session.szToken = szToken) := fun h => hflag h.1
            rw [if_neg hflag, if_neg hnot]
            split
            · rw [record_shutdown]
              exact hnone
            · rw [record_enterClient, record_modifySession, record_shutdown,
                record_unbindSocketID]
              exact hnone

theorem record_playerTokenNotify (szToken : StdString) (nGasID : UInt32) (bInvoke : Bool)
    (hdispatched : gate.mapDispatchedToken[nPlayerID]? = some szToken) :
    (gate.playerTokenNotify nPlayerID szToken nGasID bInvoke).record =
      (gate.mapDispatchedToken, gate.enterGasLog ++
        Event.runs gate (.playerTokenNotify nPlayerID szToken nGasID bInvoke)) := by
  have hnone : gate.record = (gate.mapDispatchedToken, gate.enterGasLog ++ []) := by
    rw [List.append_nil, record]
  rw [playerTokenNotify, Event.runs]
  cases hsession : gate.getSession nPlayerID with
  | none =>
      have hmgr : gate.sessionMgr.getSessionByPlayerID nPlayerID = none := hsession
      simp only [hmgr]
      exact hnone
  | some session =>
      have hmgr : gate.sessionMgr.getSessionByPlayerID nPlayerID = some session := hsession
      simp only [hmgr]
      by_cases hflag : session.hasState eCSS_ClientEnter = true
      · by_cases htoken : session.szToken = szToken
        · have hmatch : (gate.modifySession nPlayerID fun session =>
              { session with
                nGasID, nState := eCSS_TokenEnter ||| eCSS_ClientEnter }).getSession
                  nPlayerID =
                some { session with
                  nGasID, nState := eCSS_TokenEnter ||| eCSS_ClientEnter } := by
            rw [getSession_modifySession, if_pos rfl, hsession]
            rfl
          have hrecord := record_enterGas hmatch rfl bInvoke
          rw [if_pos hflag, if_neg (not_not.mpr htoken), if_pos ⟨hflag, htoken⟩, hrecord,
            ← hdispatched]
          rfl
        · rw [if_pos hflag, if_pos htoken, if_neg fun h => htoken h.2, record_refuseToken]
          exact hnone
      · have hnot : ¬ (session.hasState eCSS_ClientEnter = true ∧
            session.szToken = szToken) := fun h => hflag h.1
        rw [if_neg hflag, if_neg hnot]
        split
        · rw [record_refuseToken]
          exact hnone
        · rw [record_modifySession, record_shutdown, record_unbindSocketID]
          exact hnone

/-- The token that was last dispatched for each player, after an event. -/
def Event.dispatches (gate : CGateService) : Event → StdMap UInt64 StdString
  | .playerTokenNotify nPlayerID szToken _ _ =>
      gate.mapDispatchedToken.insert nPlayerID szToken
  | _ => gate.mapDispatchedToken

/-- Only the dispatcher changes the dispatched tokens, and an event runs `enterGas` once
at most. -/
theorem record_step (e : Event) :
    (gate.step e).record = (e.dispatches gate, gate.enterGasLog ++ e.runs gate) := by
  have hnone : gate.record = (gate.mapDispatchedToken, gate.enterGasLog ++ []) := by
    rw [List.append_nil, record]
  cases e with
  | connect nSocketID =>
      refine Eq.trans ?_ hnone
      rw [step]
      split <;> rfl
  | handshake nSocketID szKey bInvoke =>
      rw [step]
      split
      · rename_i hconnected
        exact record_handshake hconnected szKey bInvoke
      · rename_i hconnected
        rw [Bool.not_eq_true] at hconnected
        rw [Event.runs, hconnected]
        exact hnone
  | playerTokenNotify nPlayerID szToken nGasID bInvoke =>
      rw [step, record_playerTokenNotify]
      · rfl
      · rw [StdMap.getElem?_insert, if_pos rfl]
  | enterResponse nPlayerID response =>
      exact (untouched_record.onEnterResponse gate nPlayerID response).trans hnone
  | kickPlayerNotify nPlayerID =>
      rw [step, kickPlayerNotify, record_destroySession]
      exact hnone
  | gasDisconnect nGasID =>
      exact (untouched_record.foldl_destroySession gate _).trans hnone
  | disconnect nSocketID =>
      exact (untouched_record.onDisconnect gate nSocketID rfl).trans hnone
  | tokenTimeout nPlayerID =>
      refine Eq.trans ?_ hnone
      rw [step, onTokenTimeout]
      split
      · rfl
      · split
        · rw [record_destroySession]
        · rfl

/-! ## Secure gates -/

/-- Every run of `enterGas` so far was for a client with the token that was last
dispatched for the player, and at most one run is suspended for each session. -/
structure Secure (gate : CGateService) : Prop where
  authenticated : ∀ run ∈ gate.enterGasLog, ∃ szToken,
    run.szClientToken = some szToken ∧ run.szDispatchedToken = some szToken
  single : ∀ {n session}, gate.getSession n = some session → session.nEnterGas ≤ 1

/-- What the tokens of the sessions are: the client has sent the token of a session that
it entered, and a session that waits for its client has the token that was last
dispatched. -/
structure Issued (gate : CGateService) : Prop extends Sound gate where
  client : ∀ {n session}, gate.getSession n = some session →
    session.hasState eCSS_ClientEnter = true → session.szClientToken = some session.szToken
  waiting : ∀ {n session}, gate.getSession n = some session →
    session.hasState eCSS_TokenEnter = true → ¬ session.hasState eCSS_ClientEnter = true →
      session.nSocketID = 0 ∧ gate.mapDispatchedToken[n]? = some session.szToken

/-- Only the dispatcher has entered, or the player is logged in. -/
theorem not_clientEnter
    (h : session.nState = eCSS_TokenEnter ∨ session.nState = eCSS_Normal) :
    ¬ session.hasState eCSS_ClientEnter = true := by
  rw [CGateClientSession.hasState]
  rcases h with h | h
  · rw [h]
    decide
  · rw [h]
    decide

/-- Only the client has entered, or the player is logged in. -/
theorem not_tokenEnter
    (h : session.nState = eCSS_ClientEnter ∨ session.nState = eCSS_Normal) :
    ¬ session.hasState eCSS_TokenEnter = true := by
  rw [CGateClientSession.hasState]
  rcases h with h | h
  · rw [h]
    decide
  · rw [h]
    decide

theorem clientEnter_of_both (h : session.nState = eCSS_ClientEnter ||| eCSS_TokenEnter) :
    session.hasState eCSS_ClientEnter = true := by
  rw [CGateClientSession.hasState, h]
  decide

/-- A second notification destroys a session that waits for its client. -/
theorem getSession_playerTokenNotify_of_waiting
    (hsession : gate.getSession nPlayerID = some session)
    (hid : session.nPlayerID = nPlayerID) (hsocket : ¬ gate.Connected session.nSocketID)
    (htoken : session.hasState eCSS_TokenEnter = true)
    (hclient : ¬ session.hasState eCSS_ClientEnter = true) (szToken : StdString)
    (nGasID : UInt32) (bInvoke : Bool) :
    (gate.playerTokenNotify nPlayerID szToken nGasID bInvoke).getSession nPlayerID = none := by
  have hmgr : gate.sessionMgr.getSessionByPlayerID nPlayerID = some session := hsession
  have hstate : session.nState ≠ eCSS_Normal := fun h => not_tokenEnter (.inr h) htoken
  rw [Connected] at hsocket
  simp only [playerTokenNotify, hmgr]
  rw [if_neg hclient, if_pos hstate, refuseToken, if_neg hsocket, getSession_destroySession,
    if_pos hid]

theorem mapDispatchedToken_step (e : Event) :
    (gate.step e).mapDispatchedToken = e.dispatches gate :=
  congrArg Prod.fst (record_step e)

theorem Issued.step (h : gate.Issued) (e : Event) : (gate.step e).Issued where
  toSound := h.toSound.step e
  client := by
    intro n session hsession hflag
    cases becomes_of_step hsession with
    | kept hold => exact h.client hold hflag
    | enter _ _ _ htoken =>
        rw [← htoken]
        rfl
    | replace => rfl
    | create => rfl
    | notifyEnter hold hclient htoken =>
        have hknown := h.client hold hclient
        exact hknown
    | notifyReplace => exact absurd hflag (not_clientEnter (.inl rfl))
    | notifyCreate => exact absurd hflag (not_clientEnter (.inl rfl))
    | answer hold _ hdone =>
        cases hdone with
        | refused =>
            have hknown := h.client hold hflag
            exact hknown
        | accepted => exact absurd hflag (not_clientEnter (.inr rfl))
  waiting := by
    intro n session hsession htoken hclient
    rw [mapDispatchedToken_step]
    cases becomes_of_step hsession with
    | kept hold =>
        obtain ⟨hzero, hlast⟩ := h.waiting hold htoken hclient
        refine ⟨hzero, ?_⟩
        cases e with
        | playerTokenNotify nPlayerID szToken nGasID bInvoke =>
            rw [Event.dispatches, StdMap.getElem?_insert, if_neg]
            · exact hlast
            · rintro rfl
              have hgone : (gate.step (.playerTokenNotify nPlayerID szToken nGasID
                  bInvoke)).getSession nPlayerID = none := by
                rw [CGateService.step]
                apply getSession_playerTokenNotify_of_waiting
                · exact hold
                · exact h.keyed hold
                · rw [hzero]
                  exact h.nonzero
                · exact htoken
                · exact hclient
              rw [hgone] at hsession
              cases hsession
        | connect => exact hlast
        | handshake => exact hlast
        | enterResponse => exact hlast
        | kickPlayerNotify => exact hlast
        | gasDisconnect => exact hlast
        | disconnect => exact hlast
        | tokenTimeout => exact hlast
    | enter => exact absurd (clientEnter_of_both rfl) hclient
    | replace => exact absurd htoken (not_tokenEnter (.inl rfl))
    | create => exact absurd htoken (not_tokenEnter (.inl rfl))
    | notifyEnter => exact absurd (clientEnter_of_both rfl) hclient
    | notifyReplace =>
        refine ⟨rfl, ?_⟩
        rw [Event.dispatches, StdMap.getElem?_insert, if_pos rfl]
    | notifyCreate =>
        refine ⟨rfl, ?_⟩
        rw [Event.dispatches, StdMap.getElem?_insert, if_pos rfl]
    | answer hold _ hdone =>
        cases hdone with
        | refused =>
            have hlast := h.waiting hold htoken hclient
            exact hlast
        | accepted => exact absurd htoken (not_tokenEnter (.inr rfl))

theorem issued_empty : CGateService.Issued {} where
  toSound := sound_empty
  client := by
    intro n session hsession
    simp [getSession, CGateClientSessionMgr.getSessionByPlayerID] at hsession
  waiting := by
    intro n session hsession
    simp [getSession, CGateClientSessionMgr.getSessionByPlayerID] at hsession

/-- Another token has been dispatched for the player since the client and the token of
the session met. -/
def Superseded (gate : CGateService) (nPlayerID : UInt64) (session : CGateClientSession) :
    Prop :=
  session.hasState eCSS_ClientEnter = true ∧
    gate.mapDispatchedToken[nPlayerID]? ≠ some session.szToken

/-- No handshake with the token of a session finds the token superseded, and neither a
handshake nor a notification with the token asks the game service again while a run of
`enterGas` is suspended. -/
def Event.Authentic (gate : CGateService) : Event → Prop
  | .handshake nSocketID szKey bInvoke => gate.Connected nSocketID →
      ∀ nPlayerID szToken session, parseKey szKey = some (nPlayerID, szToken) →
        gate.getSession nPlayerID = some session →
          session.hasState eCSS_TokenEnter = true → session.szToken = szToken →
            ¬ gate.Superseded nPlayerID session ∧ (bInvoke = true → session.nEnterGas = 0)
  | .playerTokenNotify nPlayerID szToken _ bInvoke =>
      ∀ session, gate.getSession nPlayerID = some session →
        session.hasState eCSS_ClientEnter = true → session.szToken = szToken →
          bInvoke = true → session.nEnterGas = 0
  | _ => True

/-- The token of a session that the dispatcher entered is the last one, unless it is
superseded. -/
theorem Issued.not_superseded_iff (h : gate.Issued)
    (hsession : gate.getSession nPlayerID = some session)
    (htoken : session.hasState eCSS_TokenEnter = true) :
    ¬ gate.Superseded nPlayerID session ↔
      gate.mapDispatchedToken[nPlayerID]? = some session.szToken := by
  rw [Superseded, not_and_not_right]
  constructor
  · intro hlast
    by_cases hclient : session.hasState eCSS_ClientEnter = true
    · exact hlast hclient
    · exact (h.waiting hsession htoken hclient).2
  · exact fun hlast _ => hlast

/-- A run of `enterGas` whose request was sent waits. -/
theorem getSession_enterGas (hsession : gate.getSession nPlayerID = some session)
    (hstate : session.nState = eCSS_ClientEnter ||| eCSS_TokenEnter) :
    (gate.enterGas nPlayerID true).getSession nPlayerID = some (entered session true) := by
  have hmgr : gate.sessionMgr.getSessionByPlayerID nPlayerID = some session := hsession
  simp only [enterGas, hmgr, hstate, ne_eq, not_true_eq_false, if_false, if_true,
    getSession_output, getSession_modifySession]
  change ((gate.getSession nPlayerID).map _).map _ = _
  rw [hsession]
  rfl

theorem step_handshake (h : gate.Connected nSocketID) {szKey : StdString} {bInvoke : Bool} :
    gate.step (.handshake nSocketID szKey bInvoke) =
      gate.handshake nSocketID szKey bInvoke :=
  if_pos h

theorem step_handshake_of_not (h : ¬ gate.Connected nSocketID) {szKey : StdString}
    {bInvoke : Bool} : gate.step (.handshake nSocketID szKey bInvoke) = gate :=
  if_neg h

theorem enterGasLog_step (e : Event) :
    (gate.step e).enterGasLog = gate.enterGasLog ++ e.runs gate :=
  congrArg Prod.snd (record_step e)

/-- The runs of an event of a secure gate, when the event is authentic. -/
theorem Event.Authentic.runs (hissued : gate.Issued) {e : Event}
    (h : e.Authentic gate) : ∀ run ∈ e.runs gate, ∃ szToken,
      run.szClientToken = some szToken ∧ run.szDispatchedToken = some szToken := by
  intro run hrun
  cases e with
  | handshake nSocketID szKey bInvoke =>
      rw [Event.runs] at hrun
      split at hrun
      · rename_i nPlayerID szToken hconnected hparse
        split at hrun
        · rename_i session hsession
          split at hrun
          · rename_i hmatch
            obtain rfl := List.mem_singleton.mp hrun
            have hlast := h hconnected nPlayerID szToken session hparse hsession hmatch.1
              hmatch.2
            refine ⟨szToken, rfl, ?_⟩
            rw [← hmatch.2]
            exact (hissued.not_superseded_iff hsession hmatch.1).mp hlast.1
          · cases hrun
        · cases hrun
      · cases hrun
  | playerTokenNotify nPlayerID szToken nGasID bInvoke =>
      rw [Event.runs] at hrun
      split at hrun
      · rename_i session hsession
        split at hrun
        · rename_i hmatch
          obtain rfl := List.mem_singleton.mp hrun
          refine ⟨szToken, ?_, rfl⟩
          rw [← hmatch.2]
          exact hissued.client hsession hmatch.1
        · cases hrun
      · cases hrun
  | connect => cases hrun
  | enterResponse => cases hrun
  | kickPlayerNotify => cases hrun
  | gasDisconnect => cases hrun
  | disconnect => cases hrun
  | tokenTimeout => cases hrun

/-- An authentic event suspends no second run. -/
theorem Event.Authentic.single (hsecure : gate.Secure) {e : Event} (h : e.Authentic gate)
    (hconnected : ∀ nSocketID szKey bInvoke, e = .handshake nSocketID szKey bInvoke →
      gate.Connected nSocketID)
    (hsession : (gate.step e).getSession n = some session) : session.nEnterGas ≤ 1 := by
  cases becomes_of_step hsession with
  | kept hold => exact hsecure.single hold
  | enter hparse hold hflag htoken =>
      rename_i nSocketID szKey bInvoke szToken session
      have hone := hsecure.single hold
      have hlast := h (hconnected _ _ _ rfl) n szToken session hparse hold hflag htoken
      rw [entered]
      cases bInvoke with
      | true =>
          have hzero := hlast.2 rfl
          show session.nEnterGas + 1 ≤ 1
          omega
      | false => exact hone
  | replace _ hold =>
      have hone := hsecure.single hold
      exact hone
  | create => exact Nat.zero_le 1
  | notifyEnter hold hflag htoken =>
      rename_i szToken nGasID bInvoke session
      have hone := hsecure.single hold
      rw [entered]
      cases bInvoke with
      | true =>
          have hzero := h session hold hflag htoken rfl
          show session.nEnterGas + 1 ≤ 1
          omega
      | false => exact hone
  | notifyReplace hold =>
      have hone := hsecure.single hold
      exact hone
  | notifyCreate => exact Nat.zero_le 1
  | answer hold _ hdone =>
      have hone := hsecure.single hold
      cases hdone with
      | refused => exact Nat.le_trans (Nat.sub_le _ 1) hone
      | accepted => exact Nat.le_trans (Nat.sub_le _ 1) hone

/-- An event keeps the gate secure just if it is authentic. -/
theorem secure_step_iff (hissued : gate.Issued) (hsecure : gate.Secure) (e : Event) :
    (gate.step e).Secure ↔ e.Authentic gate := by
  constructor
  · intro hafter
    cases e with
    | handshake nSocketID szKey bInvoke =>
        intro hconnected nPlayerID szToken session hparse hsession hflag htoken
        have hruns : Event.runs gate (.handshake nSocketID szKey bInvoke) =
            [{ nPlayerID
               szClientToken := some szToken
               szDispatchedToken := gate.mapDispatchedToken[nPlayerID]? }] := by
          rw [Connected] at hconnected
          simp only [Event.runs, hconnected, hparse, hsession]
          rw [if_pos ⟨hflag, htoken⟩]
        constructor
        · obtain ⟨szToken', hclient, hdispatched⟩ := hafter.authenticated _ (by
            rw [enterGasLog_step, hruns]
            exact List.mem_append_right _ (List.mem_singleton_self _))
          rw [hissued.not_superseded_iff hsession hflag, htoken, Option.some.inj hclient]
          exact hdispatched
        · rintro rfl
          have hmgr : gate.sessionMgr.getSessionByPlayerID nPlayerID = some session := hsession
          have hclient : (gate.enterClient nPlayerID nSocketID szToken
              (eCSS_ClientEnter ||| eCSS_TokenEnter)).getSession nPlayerID =
                some { session with
                  nSocketID
                  nState := eCSS_ClientEnter ||| eCSS_TokenEnter
                  szClientToken := some szToken } := by
            rw [getSession_enterClient, if_pos rfl, hsession]
            rfl
          have hstep : gate.step (.handshake nSocketID szKey true) =
              (gate.enterClient nPlayerID nSocketID szToken
                (eCSS_ClientEnter ||| eCSS_TokenEnter)).enterGas nPlayerID true := by
            rw [step_handshake hconnected]
            simp only [handshake, hparse, hmgr, hflag, htoken, ne_eq, not_true_eq_false,
              if_false, if_true]
          have hwait := getSession_enterGas hclient rfl
          rw [← hstep] at hwait
          have hone := hafter.single hwait
          change session.nEnterGas + 1 ≤ 1 at hone
          omega
    | playerTokenNotify nPlayerID szToken nGasID bInvoke =>
        rintro session hsession hflag htoken rfl
        have hmgr : gate.sessionMgr.getSessionByPlayerID nPlayerID = some session := hsession
        have hmatch : ({ gate with
            mapDispatchedToken := gate.mapDispatchedToken.insert nPlayerID szToken } :
              CGateService).playerTokenNotify nPlayerID szToken nGasID true =
            (({ gate with
              mapDispatchedToken := gate.mapDispatchedToken.insert nPlayerID szToken } :
                CGateService).modifySession nPlayerID fun session =>
              { session with
                nGasID, nState := eCSS_TokenEnter ||| eCSS_ClientEnter }).enterGas
                  nPlayerID true := by
          simp only [playerTokenNotify, hmgr, hflag, htoken, ne_eq, not_true_eq_false,
            if_false, if_true]
        have hentered : (({ gate with
            mapDispatchedToken := gate.mapDispatchedToken.insert nPlayerID szToken } :
              CGateService).modifySession nPlayerID fun session =>
            { session with
              nGasID, nState := eCSS_TokenEnter ||| eCSS_ClientEnter }).getSession nPlayerID =
                some { session with
                  nGasID, nState := eCSS_TokenEnter ||| eCSS_ClientEnter } := by
          rw [getSession_modifySession, if_pos rfl]
          change (gate.getSession nPlayerID).map _ = _
          rw [hsession]
          rfl
        have hwait := getSession_enterGas hentered rfl
        rw [← hmatch] at hwait
        have hone := hafter.single hwait
        change session.nEnterGas + 1 ≤ 1 at hone
        omega
    | connect => trivial
    | enterResponse => trivial
    | kickPlayerNotify => trivial
    | gasDisconnect => trivial
    | disconnect => trivial
    | tokenTimeout => trivial
  · intro hauthentic
    by_cases hdropped : ∃ nSocketID szKey bInvoke,
        e = .handshake nSocketID szKey bInvoke ∧ ¬ gate.Connected nSocketID
    · obtain ⟨nSocketID, szKey, bInvoke, rfl, hnot⟩ := hdropped
      rw [step_handshake_of_not hnot]
      exact hsecure
    · have hconnected : ∀ nSocketID szKey bInvoke,
          e = .handshake nSocketID szKey bInvoke → gate.Connected nSocketID := by
        intro nSocketID szKey bInvoke heq
        by_contra hnot
        exact hdropped ⟨nSocketID, szKey, bInvoke, heq, hnot⟩
      refine ⟨?_, fun hsession => hauthentic.single hsecure hconnected hsession⟩
      intro run hrun
      rw [enterGasLog_step, List.mem_append] at hrun
      rcases hrun with hold | hnew
      · exact hsecure.authenticated run hold
      · exact hauthentic.runs hissued run hnew

/-- In every history, `enterGas` runs for clients with the last dispatched token only, and
once at a time for each session, if and only if every event is authentic. -/
theorem secure_throughout_iff (events : List Event) :
    (∀ ks, ks <+: events → (ks.foldl step {}).Secure) ↔
      ∀ ks e, ks ++ [e] <+: events → e.Authentic (ks.foldl step {}) := by
  apply throughout_iff (I := Issued) (P := Secure)
    (C := fun gate e => e.Authentic gate) (fun _ e h => h.step e)
    (fun _ e hissued hsecure => secure_step_iff hissued hsecure e)
  · exact issued_empty
  · constructor
    · intro run hrun
      cases hrun
    · intro n session hsession
      simp [getSession, CGateClientSessionMgr.getSessionByPlayerID] at hsession

/-- A client repeats its handshake while its login is suspended. -/
def repeatedHandshake : List Event :=
  [.connect 1, .playerTokenNotify 7 [97] 3 true, .handshake 1 [55, 124, 97] true,
    .handshake 1 [55, 124, 97] true]

/-- Two logins of the session are in progress. -/
theorem not_secure_repeatedHandshake :
    ¬ ∀ events : List Event, (events.foldl step {}).Secure := by
  intro h
  have hwait : ((repeatedHandshake.foldl step {}).getSession 7).map
      CGateClientSession.nEnterGas = some 2 := by decide
  obtain ⟨session, hsession, htwo⟩ := Option.map_eq_some_iff.mp hwait
  have hone := (h repeatedHandshake).single hsession
  omega

/-! ## Players that are logged in -/

/-- The session of the player is still there, with its state, its socket and its game
service. -/
def Undisturbed (gate : CGateService) (n : UInt64) (session : CGateClientSession) : Prop :=
  ∃ session', gate.getSession n = some session' ∧ session'.nState = session.nState ∧
    session'.nSocketID = session.nSocketID ∧ session'.nGasID = session.nGasID

theorem getSession_enterGasError_of_ne (hid : session.nPlayerID ≠ n) :
    (gate.enterGasError session).getSession n = gate.getSession n := by
  rw [enterGasError]
  split
  · rw [getSession_destroySession, if_neg hid, getSession_output]
  · rfl

theorem getSession_enterGas_of_ne (hne : nPlayerID ≠ n)
    (hid : ∀ session, gate.getSession nPlayerID = some session →
      session.nPlayerID = nPlayerID) (bInvoke : Bool) :
    (gate.enterGas nPlayerID bInvoke).getSession n = gate.getSession n := by
  rw [enterGas]
  split
  · rfl
  · rename_i session hsession
    dsimp only
    split
    · rfl
    · split
      · rw [getSession_output, getSession_modifySession, if_neg hne,
          getSession_modifySession, if_neg hne]
        rfl
      · rw [getSession_enterGasError_of_ne (by rw [hid session hsession]; exact hne),
          getSession_modifySession, if_neg hne]
        rfl

/-- A handshake concerns the session of the player it names only. -/
theorem getSession_handshake_of_ne (hsound : gate.Sound) {szKey : StdString}
    (hother : ∀ szToken, parseKey szKey ≠ some (n, szToken)) (bInvoke : Bool) :
    (gate.handshake nSocketID szKey bInvoke).getSession n = gate.getSession n := by
  rw [handshake]
  split
  · rw [getSession_shutdown]
  · rename_i nPlayerID szToken hparse
    have hne : nPlayerID ≠ n := by
      rintro rfl
      exact hother szToken hparse
    split
    · rename_i session hsession
      split
      · split
        · rw [getSession_shutdown]
        · rw [getSession_enterGas_of_ne hne, getSession_enterClient, if_neg hne]
          intro session' hsession'
          rw [getSession_enterClient, if_pos rfl] at hsession'
          obtain ⟨session₁, hsession₁, rfl⟩ := Option.map_eq_some_iff.mp hsession'
          have hid := hsound.keyed hsession₁
          exact hid
      · split
        · rw [getSession_shutdown]
        · rw [getSession_enterClient, if_neg hne, getSession_modifySession, if_neg hne,
            getSession_shutdown, getSession_unbindSocketID, if_neg hne]
    · rw [getSession_enterClient, if_neg hne, getSession_createSession, if_neg hne]

/-- In every reachable gate, a handshake leaves a player who is logged in alone if and
only if its key does not name the player, whatever the token. -/
theorem undisturbed_handshake_iff (events : List Event)
    (hsession : (events.foldl step {}).getSession n = some session)
    (hnormal : session.nState = eCSS_Normal)
    (hconnected : (events.foldl step {}).Connected nSocketID) (szKey : StdString)
    (bInvoke : Bool) :
    ((events.foldl step {}).step (.handshake nSocketID szKey bInvoke)).Undisturbed n session ↔
      ∀ szToken, parseKey szKey ≠ some (n, szToken) := by
  have hsound : (events.foldl step {}).Sound :=
    foldl_invariant (fun _ e h => h.step e) sound_empty events
  rw [step_handshake hconnected]
  generalize events.foldl step {} = gate at hsession hsound
  constructor
  · rintro ⟨session', hsession', hstate, -⟩ szToken hparse
    have hmgr : gate.sessionMgr.getSessionByPlayerID n = some session := hsession
    have hflag : ¬ session.hasState eCSS_TokenEnter = true := not_tokenEnter (.inr hnormal)
    simp only [handshake, hparse, hmgr, if_neg hflag, hnormal, ne_eq, not_true_eq_false,
      if_false] at hsession'
    rw [getSession_enterClient, if_pos rfl] at hsession'
    obtain ⟨session₁, -, rfl⟩ := Option.map_eq_some_iff.mp hsession'
    rw [hnormal] at hstate
    change eCSS_ClientEnter = eCSS_Normal at hstate
    exact absurd hstate (by decide)
  · intro hother
    refine ⟨session, ?_, rfl, rfl, rfl⟩
    rw [getSession_handshake_of_ne hsound hother]
    exact hsession

/-- A player logs in, and somebody else connects. -/
def loggedInPlayer : List Event :=
  [.connect 1, .handshake 1 [55, 124, 97] true, .playerTokenNotify 7 [97] 3 true,
    .enterResponse 7 (.result 0), .connect 2]

/-- The session of that player. -/
def loggedInSession : CGateClientSession :=
  { nSocketID := 1, szToken := [97], nGasID := 3, nPlayerID := 7, nState := eCSS_Normal,
    bTokenTimeout := false, szClientToken := some [97] }

/-- The handshake of another player does not concern the first one. -/
theorem undisturbed_loggedInPlayer :
    ((loggedInPlayer.foldl step {}).step (.handshake 2 [56, 124, 98] true)).Undisturbed 7
      loggedInSession :=
  (undisturbed_handshake_iff loggedInPlayer (by decide) rfl (by decide) [56, 124, 98]
    true).mpr (by
      intro szToken
      have hkey : (parseKey [56, 124, 98]).map Prod.fst ≠ some 7 := by decide
      exact fun hparse => hkey (by rw [hparse]; rfl))

/-- The dispatcher never sent this token for the player. -/
def NeverIssued (events : List Event) (n : UInt64) (szToken : StdString) : Prop :=
  ∀ nGasID bInvoke, Event.playerTokenNotify n szToken nGasID bInvoke ∉ events

/-- A handshake with the token that nobody issued takes the session over. -/
theorem not_undisturbed_loggedInPlayer :
    ¬ ∀ (events : List Event) (n nSocketID : UInt64) (szToken szKey : StdString)
      (session : CGateClientSession), parseKey szKey = some (n, szToken) →
        NeverIssued events n szToken → (events.foldl step {}).getSession n = some session →
          session.nState = eCSS_Normal → (events.foldl step {}).Connected nSocketID →
            ((events.foldl step {}).step (.handshake nSocketID szKey true)).Undisturbed n
              session := by
  intro h
  have hnever : NeverIssued loggedInPlayer 7 [120] := by
    intro nGasID bInvoke hmem
    simp [loggedInPlayer] at hmem
  obtain ⟨session, hsession, hstate, -⟩ := h loggedInPlayer 7 2 [120] [55, 124, 120]
    loggedInSession (by decide) hnever (by decide) rfl (by decide)
  have htaken : (((loggedInPlayer.foldl step {}).step
      (.handshake 2 [55, 124, 120] true)).getSession 7).map CGateClientSession.nState =
        some eCSS_ClientEnter := by decide
  rw [hsession] at htaken
  rw [Option.map_some, hstate] at htaken
  exact absurd htaken (by decide)

end CGateService

end RealtimeEx.Gate.Login
