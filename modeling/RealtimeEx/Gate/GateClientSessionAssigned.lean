import RealtimeEx.Gate.GateClientSessionLogin

/-!
# The game service that a login goes to

The dispatcher names the game service of a player together with the token.  A session
stores both, so that whichever comes last, client or dispatcher, finds the service of the
token; only a session that is logged in takes a new token without its service.
-/

namespace RealtimeEx.Gate.Login

open Base

/-- The game service and the player of a login request. -/
def GateOutput.enterRequest? : GateOutput → Option (UInt32 × UInt64)
  | .playerEnterRequest nGasID nPlayerID => some (nGasID, nPlayerID)
  | _ => none

namespace CGateService

variable {gate : CGateService} {nPlayerID nSocketID n : UInt64}
  {session : CGateClientSession}

/-! ## Login requests -/

/-- The login requests that were sent. -/
def enterRequests (gate : CGateService) : List (UInt32 × UInt64) :=
  gate.outputs.filterMap GateOutput.enterRequest?

theorem enterRequests_output (out : GateOutput) :
    (gate.output out).enterRequests = gate.enterRequests ++ out.enterRequest?.toList := by
  rw [enterRequests, output, List.filterMap_append]
  congr 1

@[simp] theorem enterRequests_shutdown (bForce : Bool) (szMsg : String) :
    (gate.shutdown nSocketID bForce szMsg).enterRequests = gate.enterRequests := by
  rw [shutdown]
  split
  · rw [enterRequests, List.filterMap_append, enterRequests]
    exact List.append_nil _
  · rfl

@[simp] theorem enterRequests_modifySession (f : CGateClientSession → CGateClientSession) :
    (gate.modifySession nPlayerID f).enterRequests = gate.enterRequests := rfl

@[simp] theorem enterRequests_unbindSocketID :
    (gate.unbindSocketID nPlayerID).enterRequests = gate.enterRequests := rfl

@[simp] theorem enterRequests_enterClient (szToken : StdString) (nState : UInt32) :
    (gate.enterClient nPlayerID nSocketID szToken nState).enterRequests =
      gate.enterRequests := rfl

theorem untouched_enterRequests : Untouched enterRequests where
  sessions := fun _ _ => rfl
  closing := fun _ _ bForce szMsg => enterRequests_shutdown bForce szMsg
  answer := fun _ _ _ _ => (enterRequests_output _).trans (List.append_nil _)
  leave := fun _ _ _ => (enterRequests_output _).trans (List.append_nil _)

@[simp] theorem enterRequests_destroySession :
    (gate.destroySession nPlayerID).enterRequests = gate.enterRequests :=
  untouched_enterRequests.destroySession gate nPlayerID

@[simp] theorem enterRequests_enterGasError :
    (gate.enterGasError session).enterRequests = gate.enterRequests :=
  untouched_enterRequests.enterGasError gate session

@[simp] theorem enterRequests_refuseToken (szMsg : String) :
    (gate.refuseToken session szMsg).enterRequests = gate.enterRequests :=
  untouched_enterRequests.refuseToken gate session szMsg

/-! ## The requests of an event -/

/-- What is sent for a login: nothing, or a request to the game service of a session that
client and dispatcher have entered. -/
structure Requests (gate gate' : CGateService) (new : List (UInt32 × UInt64)) : Prop where
  requests : gate'.enterRequests = gate.enterRequests ++ new
  entered : ∀ nGasID nPlayerID, (nGasID, nPlayerID) ∈ new → ∃ session,
    gate'.getSession nPlayerID = some session ∧ session.nGasID = nGasID ∧
      session.nState = eCSS_ClientEnter ||| eCSS_TokenEnter

theorem requests_none {gate' : CGateService} (h : gate'.enterRequests = gate.enterRequests) :
    ∃ new, Requests gate gate' new := by
  refine ⟨[], ?_, ?_⟩
  · rw [h, List.append_nil]
  · intro nGasID nPlayerID hmem
    exact absurd hmem List.not_mem_nil

/-- `enterGas` asks the game service of the session. -/
theorem requests_enterGas (hsession : gate.getSession nPlayerID = some session)
    (hstate : session.nState = eCSS_ClientEnter ||| eCSS_TokenEnter) (bInvoke : Bool) :
    ∃ new, Requests gate (gate.enterGas nPlayerID bInvoke) new := by
  have hmgr : gate.sessionMgr.getSessionByPlayerID nPlayerID = some session := hsession
  cases bInvoke with
  | true =>
      refine ⟨[(session.nGasID, nPlayerID)], ?_, ?_⟩
      · simp only [enterGas, hmgr, hstate, ne_eq, not_true_eq_false, if_false, if_true]
        exact enterRequests_output _
      · intro nGasID p hmem
        obtain ⟨rfl, rfl⟩ := Prod.mk.inj (List.mem_singleton.mp hmem)
        refine ⟨entered session true, getSession_enterGas hsession hstate, rfl, hstate⟩
  | false =>
      apply requests_none
      simp only [enterGas, hmgr, hstate, ne_eq, not_true_eq_false, if_false,
        Bool.false_eq_true]
      exact enterRequests_enterGasError

theorem requests_handshake (szKey : StdString) (bInvoke : Bool) :
    ∃ new, Requests gate (gate.handshake nSocketID szKey bInvoke) new := by
  rw [handshake]
  split
  · exact requests_none (enterRequests_shutdown _ _)
  · rename_i nPlayerID szToken hparse
    split
    · rename_i session hsession
      split
      · split
        · exact requests_none (enterRequests_shutdown _ _)
        · have hclient : (gate.enterClient nPlayerID nSocketID szToken
              (eCSS_ClientEnter ||| eCSS_TokenEnter)).getSession nPlayerID =
                some { session with
                  nSocketID
                  nState := eCSS_ClientEnter ||| eCSS_TokenEnter
                  szClientToken := some szToken } := by
            have hold : gate.getSession nPlayerID = some session := hsession
            rw [getSession_enterClient, if_pos rfl, hold]
            rfl
          obtain ⟨new, hnew⟩ := requests_enterGas hclient rfl bInvoke
          exact ⟨new, hnew.requests, hnew.entered⟩
      · split
        · exact requests_none (enterRequests_shutdown _ _)
        · apply requests_none
          rw [enterRequests_enterClient, enterRequests_modifySession, enterRequests_shutdown,
            enterRequests_unbindSocketID]
    · exact requests_none rfl

/-- The session that a notification with the token of the client enters. -/
theorem getSession_notifyEnter (hsession : gate.getSession nPlayerID = some session)
    (nGasID : UInt32) :
    (gate.modifySession nPlayerID fun session =>
      { session with nGasID, nState := eCSS_TokenEnter ||| eCSS_ClientEnter }).getSession
        nPlayerID =
      some { session with nGasID, nState := eCSS_TokenEnter ||| eCSS_ClientEnter } := by
  rw [getSession_modifySession, if_pos rfl, hsession]
  rfl

theorem requests_playerTokenNotify (szToken : StdString) (nGasID : UInt32)
    (bInvoke : Bool) :
    ∃ new, Requests gate (gate.playerTokenNotify nPlayerID szToken nGasID bInvoke) new := by
  rw [playerTokenNotify]
  split
  · rename_i session hsession
    split
    · split
      · exact requests_none (enterRequests_refuseToken _)
      · have hmatch := getSession_notifyEnter hsession nGasID
        obtain ⟨new, hnew⟩ := requests_enterGas hmatch rfl bInvoke
        exact ⟨new, hnew.requests, hnew.entered⟩
    · split
      · exact requests_none (enterRequests_refuseToken _)
      · apply requests_none
        rw [enterRequests_modifySession, enterRequests_shutdown,
          enterRequests_unbindSocketID]
  · exact requests_none rfl

/-- Every request of an event goes to the game service that the session has then. -/
theorem requests_step (gate : CGateService) (e : Event) :
    ∃ new, Requests gate (gate.step e) new := by
  cases e with
  | connect nSocketID =>
      apply requests_none
      rw [step]
      split <;> rfl
  | handshake nSocketID szKey bInvoke =>
      rw [step]
      split
      · exact requests_handshake szKey bInvoke
      · exact requests_none rfl
  | playerTokenNotify nPlayerID szToken nGasID bInvoke =>
      rw [step]
      obtain ⟨new, hnew⟩ := requests_playerTokenNotify szToken nGasID bInvoke
      exact ⟨new, hnew.requests, hnew.entered⟩
  | enterResponse nPlayerID response =>
      exact requests_none (untouched_enterRequests.onEnterResponse gate nPlayerID response)
  | kickPlayerNotify nPlayerID =>
      apply requests_none
      rw [step, kickPlayerNotify, enterRequests_destroySession]
      rfl
  | gasDisconnect nGasID =>
      exact requests_none (untouched_enterRequests.foldl_destroySession gate _)
  | disconnect nSocketID =>
      exact requests_none (untouched_enterRequests.onDisconnect gate nSocketID rfl)
  | tokenTimeout nPlayerID =>
      apply requests_none
      rw [step, onTokenTimeout]
      split
      · rfl
      · split
        · exact enterRequests_destroySession
        · rfl

/-- The event, when the game service can be asked. -/
def Event.invoked : Event → Event
  | .handshake nSocketID szKey _ => .handshake nSocketID szKey true
  | .playerTokenNotify nPlayerID szToken nGasID _ =>
      .playerTokenNotify nPlayerID szToken nGasID true
  | e => e

/-- The game services that `enterGas` calls during an event, with the players, whether or
not the requests can be sent. -/
def enterGasCalls (gate : CGateService) (e : Event) : List (UInt32 × UInt64) :=
  (gate.step e.invoked).enterRequests.drop gate.enterRequests.length

/-- The session for which `enterGas` calls a game service. -/
theorem exists_session_of_mem_enterGasCalls {e : Event} {nGasID : UInt32}
    (h : (nGasID, n) ∈ gate.enterGasCalls e) :
    ∃ session, (gate.step e.invoked).getSession n = some session ∧
      session.nGasID = nGasID ∧ session.nState = eCSS_ClientEnter ||| eCSS_TokenEnter := by
  obtain ⟨new, hrequests, hentered⟩ := requests_step gate e.invoked
  rw [enterGasCalls, hrequests, List.drop_left] at h
  exact hentered nGasID n h

/-! ## What the dispatcher named -/

/-- The game service that an event names for a player and a token. -/
def Event.names (n : UInt64) (szToken : StdString) : Event → Option UInt32
  | .playerTokenNotify nPlayerID szToken' nGasID _ =>
      if nPlayerID = n ∧ szToken' = szToken then some nGasID else none
  | _ => none

/-- The game service of the last notification of a player with a token. -/
def notifiedGas (events : List Event) (n : UInt64) (szToken : StdString) : Option UInt32 :=
  (events.filterMap (Event.names n szToken)).getLast?

theorem notifiedGas_append (ks : List Event) (e : Event) (n : UInt64) (szToken : StdString) :
    notifiedGas (ks ++ [e]) n szToken = (e.names n szToken).or (notifiedGas ks n szToken) := by
  rw [notifiedGas, List.filterMap_append, List.getLast?_append, notifiedGas]
  cases hnames : e.names n szToken with
  | none => simp [hnames]
  | some nGasID => simp [hnames]

theorem names_invoked (e : Event) (n : UInt64) (szToken : StdString) :
    e.invoked.names n szToken = e.names n szToken := by
  cases e <;> rfl

/-- A session that the dispatcher has entered has the game service that was last named
with its token. -/
def Assigned (last : UInt64 → StdString → Option UInt32) (gate : CGateService) : Prop :=
  ∀ n session, gate.getSession n = some session → session.hasState eCSS_TokenEnter = true →
    last n session.szToken = some session.nGasID

/-- The notification of a player who is logged in names the game service that the session
has. -/
def Event.KeepsGas (gate : CGateService) : Event → Prop
  | .playerTokenNotify nPlayerID _ nGasID _ => ∀ session ∈ gate.getSession nPlayerID,
      session.nState = eCSS_Normal → session.nGasID = nGasID
  | _ => True

instance (gate : CGateService) (e : Event) : Decidable (e.KeepsGas gate) := by
  cases e with
  | playerTokenNotify nPlayerID szToken nGasID bInvoke =>
      exact inferInstanceAs (Decidable (∀ session ∈ gate.getSession nPlayerID,
        session.nState = eCSS_Normal → session.nGasID = nGasID))
  | connect => exact inferInstanceAs (Decidable True)
  | handshake => exact inferInstanceAs (Decidable True)
  | enterResponse => exact inferInstanceAs (Decidable True)
  | kickPlayerNotify => exact inferInstanceAs (Decidable True)
  | gasDisconnect => exact inferInstanceAs (Decidable True)
  | disconnect => exact inferInstanceAs (Decidable True)
  | tokenTimeout => exact inferInstanceAs (Decidable True)

/-- A notification with the token of the client leaves the session with the service it
names. -/
theorem nGasID_of_playerTokenNotify (hsession : gate.getSession nPlayerID = some session)
    (hclient : session.hasState eCSS_ClientEnter = true) {nGasID : UInt32} {bInvoke : Bool}
    {session' : CGateClientSession}
    (h : (gate.playerTokenNotify nPlayerID session.szToken nGasID bInvoke).getSession
      nPlayerID = some session') : session'.nGasID = nGasID := by
  have hmgr : gate.sessionMgr.getSessionByPlayerID nPlayerID = some session := hsession
  simp only [playerTokenNotify, hmgr, hclient, if_true, ne_eq, not_true_eq_false,
    if_false] at h
  rcases of_getSession_enterGas (getSession_notifyEnter hsession nGasID) rfl h with
    ⟨hne, -⟩ | ⟨-, rfl⟩
  · exact absurd rfl hne
  · rfl

/-- A notification of a session that stays as it is names its service, if it carries its
token. -/
theorem nGasID_of_kept (hissued : gate.Issued)
    (hsession : gate.getSession nPlayerID = some session)
    (htoken : session.hasState eCSS_TokenEnter = true) {nGasID : UInt32} {bInvoke : Bool}
    (h : (gate.step (.playerTokenNotify nPlayerID session.szToken nGasID
      bInvoke)).getSession nPlayerID = some session) : session.nGasID = nGasID := by
  rw [step] at h
  by_cases hclient : session.hasState eCSS_ClientEnter = true
  · apply nGasID_of_playerTokenNotify _ hclient h
    exact hsession
  · -- A session that waits for its client is destroyed.
    have hzero := (hissued.waiting hsession htoken hclient).1
    have hsocket : ¬ gate.Connected session.nSocketID := by
      rw [hzero]
      exact hissued.nonzero
    rw [getSession_playerTokenNotify_of_waiting _ (hissued.keyed hsession) _ htoken
      hclient] at h
    · cases h
    · exact hsession
    · exact hsocket

theorem Assigned.step {last : UInt64 → StdString → Option UInt32} (h : Assigned last gate)
    (hissued : gate.Issued) {e : Event} (hkeeps : e.KeepsGas gate) :
    Assigned (fun n szToken => (e.names n szToken).or (last n szToken)) (gate.step e) := by
  intro n session hsession hflag
  dsimp only
  cases becomes_of_step hsession with
  | kept hold =>
      cases hnames : e.names n session.szToken with
      | none => exact h n session hold hflag
      | some nGasID =>
          cases e with
          | playerTokenNotify nPlayerID szToken nGasID' bInvoke =>
              rw [Event.names] at hnames
              split at hnames
              · rename_i hmatch
                obtain ⟨rfl, rfl⟩ := hmatch
                obtain rfl := Option.some.inj hnames
                rw [Option.some_or]
                exact congrArg some (nGasID_of_kept hissued hold hflag hsession).symm
              · cases hnames
          | connect => cases hnames
          | handshake => cases hnames
          | enterResponse => cases hnames
          | kickPlayerNotify => cases hnames
          | gasDisconnect => cases hnames
          | disconnect => cases hnames
          | tokenTimeout => cases hnames
  | enter _ hold htoken =>
      have hlast := h n _ hold htoken
      exact hlast
  | replace => exact absurd hflag (not_tokenEnter (.inl rfl))
  | create => exact absurd hflag (not_tokenEnter (.inl rfl))
  | notifyEnter _ _ htoken =>
      rw [Event.names, if_pos ⟨rfl, htoken.symm⟩]
      rfl
  | notifyReplace hold hnormal =>
      rw [Event.names, if_pos ⟨rfl, rfl⟩]
      exact congrArg some (hkeeps _ hold hnormal).symm
  | notifyCreate =>
      rw [Event.names, if_pos ⟨rfl, rfl⟩]
      rfl
  | answer hold _ hdone =>
      cases hdone with
      | refused =>
          have hlast := h n _ hold hflag
          exact hlast
      | accepted => exact absurd hflag (not_tokenEnter (.inr rfl))

theorem issued_foldl (events : List Event) : (events.foldl step {}).Issued :=
  foldl_invariant (fun _ e h => h.step e) issued_empty events

theorem assigned_foldl {events : List Event}
    (hkeeps : ∀ ks e, ks ++ [e] <+: events → e.KeepsGas (ks.foldl step {})) :
    ∀ ks, ks <+: events → Assigned (notifiedGas ks) (ks.foldl step {}) := by
  intro ks hks
  induction ks using List.reverseRecOn with
  | nil =>
      intro n session hsession
      simp [getSession, CGateClientSessionMgr.getSessionByPlayerID] at hsession
  | append_singleton ks e ih =>
      have hbefore := ih ((List.prefix_append ks [e]).trans hks)
      have hafter := hbefore.step (issued_foldl ks) (hkeeps ks e hks)
      rw [List.foldl_append]
      intro n session hsession hflag
      rw [notifiedGas_append]
      exact hafter n session hsession hflag

/-! ## Logins -/

/-- Every game service that `enterGas` calls during the event is the one named by the last
notification of the player with the token that the client presented. -/
def CallsNotified (ks : List Event) (e : Event) : Prop :=
  ∀ nGasID nPlayerID, (nGasID, nPlayerID) ∈ (ks.foldl step {}).enterGasCalls e →
    ∃ session szToken,
      ((ks.foldl step {}).step e.invoked).getSession nPlayerID = some session ∧
        session.szClientToken = some szToken ∧
          notifiedGas (ks ++ [e]) nPlayerID szToken = some nGasID

theorem keepsGas_invoked {e : Event} : e.invoked.KeepsGas gate ↔ e.KeepsGas gate := by
  cases e <;> exact Iff.rfl

/-- In every history in which the players who are logged in keep their game service, each
login goes to the service that the dispatcher named with the token of the client. -/
theorem callsNotified_of_keepsGas (events : List Event)
    (hkeeps : ∀ ks e, ks ++ [e] <+: events → e.KeepsGas (ks.foldl step {})) :
    ∀ ks e, ks ++ [e] <+: events → CallsNotified ks e := by
  intro ks e hks nGasID nPlayerID hcall
  obtain ⟨session, hsession, rfl, hstate⟩ := exists_session_of_mem_enterGasCalls hcall
  have hissued := issued_foldl ks
  have hassigned := assigned_foldl hkeeps ks ((List.prefix_append ks [e]).trans hks)
  have hafter := hassigned.step hissued (keepsGas_invoked.mpr (hkeeps ks e hks))
  have hflag : session.hasState eCSS_TokenEnter = true := by
    rw [CGateClientSession.hasState, hstate]
    decide
  refine ⟨session, session.szToken, hsession, ?_, ?_⟩
  · exact (hissued.step e.invoked).client hsession (clientEnter_of_both hstate)
  · rw [notifiedGas_append, ← names_invoked]
    exact hafter nPlayerID session hsession hflag

/-- A player logs in, and is dispatched again. -/
def dispatchedAgain (nGasID : UInt32) : List Event :=
  [.connect 1, .playerTokenNotify 7 [97] 3 true, .handshake 1 [55, 124, 97] true,
    .enterResponse 7 (.result 0), .playerTokenNotify 7 [98] nGasID true, .connect 2]

/-- Dispatched to the same game service, the player is sent there. -/
theorem callsNotified_dispatchedAgain :
    CallsNotified (dispatchedAgain 3) (.handshake 2 [55, 124, 98] true) := by
  apply callsNotified_of_keepsGas (dispatchedAgain 3 ++ [.handshake 2 [55, 124, 98] true])
  · rw [← meets_iff (C := fun gate e => Event.KeepsGas gate e)]
    decide
  · exact List.prefix_rfl

/-- Dispatched to another one, the player is sent to the old one. -/
theorem not_callsNotified_dispatchedAgain :
    ¬ ∀ ks e, CallsNotified ks e := by
  intro h
  obtain ⟨session, szToken, hsession, hclient, hnamed⟩ :=
    h (dispatchedAgain 4) (.handshake 2 [55, 124, 98] true) 3 7 (by decide)
  have htoken : ((((dispatchedAgain 4).foldl step {}).step
      (.handshake 2 [55, 124, 98] true)).getSession 7).bind
        CGateClientSession.szClientToken = some [98] := by decide
  change (((dispatchedAgain 4).foldl step {}).step
    (.handshake 2 [55, 124, 98] true)).getSession 7 = some session at hsession
  rw [hsession] at htoken
  change session.szClientToken = some [98] at htoken
  obtain rfl := Option.some.inj (hclient.symm.trans htoken)
  exact absurd hnamed (by decide)

end CGateService

end RealtimeEx.Gate.Login
