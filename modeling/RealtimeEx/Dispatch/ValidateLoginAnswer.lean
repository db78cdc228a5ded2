import Mathlib.Algebra.Order.Ring.Int
import RealtimeEx.Dispatch.ValidateLoginAccount

/-!
# Every request is answered once

A handler ends with one answer, unless an assertion of it fails.  The early exits answer;
the assertions return without an answer.
-/

namespace RealtimeEx.Dispatch

open RealtimeEx.Db (Bytes natText textNat_natText)

/-! ## Assertions -/

/-- The assertions of a handler that goes on with an answer hold.  The service id of a new
player's user center must not make an id of its database zero, and the game database
returns one row with a number. -/
def Asserts (mgr : COnlineCountMgr) (result : CallResult) : LoginStep → Prop
  | .select =>
      result.nErrorCode = eRRT_OK → result.pMessage = some (.resultSet []) →
        mgr.getSuitableUCID ≠ 80000 ∧ mgr.getSuitableUCID ≠ 10000
  | .createPlayer _ =>
      result.nErrorCode = eRRT_OK → ∀ rows, result.pMessage = some (.resultSet rows) →
        ∃ row n, rows = [row] ∧ rowValue row = some n
  | _ => True

section

variable {stored : Option UInt64} {mgr : COnlineCountMgr} {result : CallResult}

theorem loginError_ne_assertFailed (nResult : UInt32) : loginError nResult ≠ .assertFailed := by
  unfold loginError
  simp

theorem resume_of_failed (mgr : COnlineCountMgr) (result : CallResult)
    (h : result.nErrorCode ≠ eRRT_OK) (step : LoginStep) (nRand : UInt32) :
    ∃ nResult, mgr.resume step result nRand = loginError nResult := by
  cases step with
  | select => exact ⟨_, if_pos h⟩
  | createPlayer nUCServiceID => exact ⟨_, if_pos h⟩
  | insert nUCServiceID n => exact ⟨_, if_pos h⟩
  | userCenter nUCServiceID n nGasID => exact ⟨_, if_pos h⟩

theorem dbID_eq_zero_iff (nUCServiceID : UInt32) :
    nUCServiceID - ucServiceDelta = 0 ↔ nUCServiceID = 80000 := by
  unfold ucServiceDelta
  constructor
  · intro h
    grind
  · rintro rfl
    rfl

theorem dbsID_eq_zero_iff (nUCServiceID : UInt32) :
    nUCServiceID - ucServiceDelta + gameDbServiceDelta = 0 ↔ nUCServiceID = 10000 := by
  unfold ucServiceDelta gameDbServiceDelta
  constructor
  · intro h
    grind
  · rintro rfl
    rfl

theorem chooseUserCenter_eq_assertFailed_iff :
    mgr.chooseUserCenter = .assertFailed ↔
      mgr.getSuitableUCID = 80000 ∨ mgr.getSuitableUCID = 10000 := by
  unfold COnlineCountMgr.chooseUserCenter
  simp only [ite_eq_iff, loginError_ne_assertFailed, dbID_eq_zero_iff, dbsID_eq_zero_iff,
    and_false, false_or, reduceCtorEq, or_false, and_true]
  constructor
  · rintro ⟨-, h | ⟨-, h⟩⟩
    · exact .inl h
    · exact .inr h
  · rintro (h | h)
    · rw [h]
      decide
    · rw [h]
      decide

/-- The user center of a stored player has a service id. -/
theorem userCenterOfPlayer_ne_zero (n : UInt64) : getPlayerDbID n + ucServiceDelta ≠ 0 := by
  intro h
  have hn := n.toNat_lt
  have htoNat := congrArg UInt32.toNat h
  unfold getPlayerDbID ucServiceDelta at htoNat
  rw [UInt32.toNat_add, UInt64.toNat_toUInt32, UInt64.toNat_shiftRight,
    show UInt64.toNat 54 % 64 = 54 from rfl, show UInt32.toNat 80000 = 80000 from rfl,
    show UInt32.toNat 0 = 0 from rfl, Nat.shiftRight_eq_div_pow] at htoNat
  omega

theorem onSelect_eq_assertFailed_iff (hanswers : Answers stored result .select) :
    mgr.onSelect result = .assertFailed ↔ ¬Asserts mgr result .select := by
  unfold COnlineCountMgr.onSelect Asserts
  split
  · rename_i hcode
    exact iff_of_false (loginError_ne_assertFailed _) fun h => h fun hok => absurd hok hcode
  · rename_i hcode
    have hok := not_not.mp hcode
    split
    · rename_i rows hrows
      rcases hanswers hok rows hrows with rfl | ⟨n, hstored, rfl⟩
      · rw [if_neg (by decide)]
        show mgr.chooseUserCenter = .assertFailed ↔ _
        rw [chooseUserCenter_eq_assertFailed_iff]
        constructor
        · intro h hasserts
          obtain ⟨h80000, h10000⟩ := hasserts hok hrows
          rcases h with h | h
          · exact h80000 h
          · exact h10000 h
        · intro h
          by_contra hne
          exact h fun _ _ => not_or.mp hne
      · rw [List.length_singleton, if_neg (Nat.lt_irrefl 1)]
        dsimp only
        rw [rowValue_natText]
        dsimp only
        rw [if_neg (userCenterOfPlayer_ne_zero n)]
        refine iff_of_false ?_ fun h => h fun _ hnil => ?_
        · unfold COnlineCountMgr.enterUserCenter
          simp
        · rw [hrows] at hnil
          simp at hnil
    · rename_i hother
      exact iff_of_false (loginError_ne_assertFailed _) fun h => h fun _ hnil =>
        absurd hnil (hother [])

theorem onCreatePlayer_eq_assertFailed_iff (nUCServiceID : UInt32) :
    COnlineCountMgr.onCreatePlayer nUCServiceID result = .assertFailed ↔
      ¬Asserts mgr result (.createPlayer nUCServiceID) := by
  unfold COnlineCountMgr.onCreatePlayer Asserts
  split
  · rename_i hcode
    exact iff_of_false (loginError_ne_assertFailed _) fun h => h fun hok => absurd hok hcode
  · rename_i hcode
    have hok := not_not.mp hcode
    split
    · rename_i rows hrows
      split
      · rename_i row
        split
        · rename_i hvalue
          refine iff_of_true rfl fun h => ?_
          obtain ⟨row', n, hrow, hn⟩ := h hok _ hrows
          obtain rfl := List.singleton_inj.mp hrow
          rw [hvalue] at hn
          cases hn
        · rename_i n hvalue
          refine iff_of_false (by simp) fun h => h fun _ rows' hrows' => ?_
          rw [hrows] at hrows'
          cases hrows'
          exact ⟨row, n, rfl, hvalue⟩
      · rename_i hrow
        refine iff_of_true rfl fun h => ?_
        obtain ⟨row, n, rfl, -⟩ := h hok _ hrows
        exact hrow row rfl
    · rename_i hother
      exact iff_of_false (loginError_ne_assertFailed _) fun h => h fun _ rows hrows =>
        absurd hrows (hother rows)

theorem onInsert_ne_assertFailed (nUCServiceID : UInt32) (n : UInt64) :
    mgr.onInsert nUCServiceID n result ≠ .assertFailed := by
  unfold COnlineCountMgr.onInsert
  split
  · exact loginError_ne_assertFailed _
  · unfold COnlineCountMgr.enterUserCenter
    simp

theorem onUserCenter_ne_assertFailed (n : UInt64) (nRand : UInt32) :
    mgr.onUserCenter n result nRand ≠ .assertFailed := by
  unfold COnlineCountMgr.onUserCenter
  split
  · exact loginError_ne_assertFailed _
  · split
    · split
      · exact loginError_ne_assertFailed _
      · simp
    · exact loginError_ne_assertFailed _

theorem resume_eq_assertFailed_iff {step : LoginStep} (hanswers : Answers stored result step)
    (nRand : UInt32) :
    mgr.resume step result nRand = .assertFailed ↔ ¬Asserts mgr result step := by
  cases step with
  | select => exact onSelect_eq_assertFailed_iff hanswers
  | createPlayer nUCServiceID => exact onCreatePlayer_eq_assertFailed_iff nUCServiceID
  | insert nUCServiceID n =>
      exact iff_of_false (onInsert_ne_assertFailed nUCServiceID n) fun h => h trivial
  | userCenter nUCServiceID n nGasID =>
      exact iff_of_false (onUserCenter_ne_assertFailed n nRand) fun h => h trivial

end

/-! ## Counting answers -/

/-- The answer to a request. -/
def DispatchOutput.answersRequest (nRequest : ℕ) : DispatchOutput → Bool
  | .validateLoginResponse login _ => login.nRequest = nRequest
  | _ => false

/-- The end of a request without an answer. -/
def DispatchOutput.abandonsRequest (nRequest : ℕ) : DispatchOutput → Bool
  | .assertFailed login => login.nRequest = nRequest
  | _ => false

namespace CDispatchService

variable (dispatch : CDispatchService) (nRequest : ℕ)

def answered : ℕ :=
  dispatch.outputs.countP fun out => out.answersRequest nRequest

def abandoned : ℕ :=
  dispatch.outputs.countP fun out => out.abandonsRequest nRequest

def waiting : ℕ :=
  dispatch.listPending.countP fun pending => pending.login.nRequest = nRequest

/-- Every request that has arrived is answered exactly once, or still waits for a call and
is not answered. -/
def AnsweredOnce : Prop :=
  ∀ nRequest < dispatch.nNextRequest,
    dispatch.answered nRequest + dispatch.waiting nRequest = 1

/-- A request is in one place: it is answered, abandoned or waiting. -/
def Accounted : Prop :=
  ∀ nRequest, dispatch.answered nRequest + dispatch.waiting nRequest +
    dispatch.abandoned nRequest = if nRequest < dispatch.nNextRequest then 1 else 0

/-- No request has been abandoned. -/
def NoneAbandoned : Prop :=
  ∀ login, .assertFailed login ∉ dispatch.outputs

variable {dispatch} {nRequest} {login : SValidateLogin} {progress : LoginProgress}

/-- The place of a request, counted. -/
def total (dispatch : CDispatchService) (nRequest : ℕ) : ℕ :=
  dispatch.answered nRequest + dispatch.waiting nRequest + dispatch.abandoned nRequest

theorem total_output (out : DispatchOutput) :
    (dispatch.output out).total nRequest = dispatch.total nRequest +
      ((if out.answersRequest nRequest then 1 else 0) +
        if out.abandonsRequest nRequest then 1 else 0) := by
  unfold total answered abandoned waiting CDispatchService.output
  rw [List.countP_append, List.countP_singleton, List.countP_append, List.countP_singleton]
  dsimp only
  omega

theorem total_finish (hend : ∀ step, progress ≠ .call step) :
    (dispatch.finish login progress).total nRequest =
      dispatch.total nRequest + if login.nRequest = nRequest then 1 else 0 := by
  cases progress with
  | call step => exact absurd rfl (hend step)
  | response message =>
      rw [finish, total_output]
      simp [DispatchOutput.answersRequest, DispatchOutput.abandonsRequest]
  | login nGateID notify message =>
      rw [finish, total_output, total_output]
      simp [DispatchOutput.answersRequest, DispatchOutput.abandonsRequest]
  | assertFailed =>
      rw [finish, total_output]
      simp [DispatchOutput.answersRequest, DispatchOutput.abandonsRequest]

theorem total_suspend (step : LoginStep) :
    (dispatch.suspend login step).total nRequest =
      dispatch.total nRequest + if login.nRequest = nRequest then 1 else 0 := by
  unfold total answered abandoned waiting suspend
  rw [List.countP_append, List.countP_singleton]
  simp only [decide_eq_true_eq]
  omega

/-- Wherever a handler goes, its request is counted once more. -/
theorem total_go (bSend : Bool) :
    (dispatch.go login progress bSend).total nRequest =
      dispatch.total nRequest + if login.nRequest = nRequest then 1 else 0 := by
  cases progress with
  | call step =>
      show CDispatchService.total (if bSend = true then dispatch.suspend login step else _) _ = _
      split
      · exact total_suspend step
      · obtain ⟨nResult, hresume⟩ := resume_of_failed dispatch.onlineCountMgr
          ⟨eRRT_ERROR, none⟩ (by decide) step 0
        rw [hresume]
        apply total_finish
        intro step' hcall
        cases hcall
  | response message => exact total_finish fun step hcall => by cases hcall
  | login nGateID notify message => exact total_finish fun step hcall => by cases hcall
  | assertFailed => exact total_finish fun step hcall => by cases hcall

theorem total_onResult (nSessionID : ℕ) (result : CallResult) (bSend : Bool) (nRand : UInt32) :
    (dispatch.onResult nSessionID result bSend nRand).total nRequest =
      dispatch.total nRequest := by
  unfold onResult
  split
  · rfl
  · rename_i pending hpending
    have hcount := countP_eraseP_of_find?
      (q := fun pending : SPendingLogin => decide (pending.login.nRequest = nRequest)) hpending
    simp only [decide_eq_true_eq] at hcount
    rw [total_go]
    unfold total answered abandoned waiting
    dsimp only
    omega

theorem nNextRequest_finish : (dispatch.finish login progress).nNextRequest =
    dispatch.nNextRequest := by
  cases progress with
  | _ => rfl

theorem nNextRequest_go (bSend : Bool) :
    (dispatch.go login progress bSend).nNextRequest = dispatch.nNextRequest := by
  unfold go
  split
  · split
    · rfl
    · exact nNextRequest_finish
  · exact nNextRequest_finish

theorem nNextRequest_onResult (nSessionID : ℕ) (result : CallResult) (bSend : Bool)
    (nRand : UInt32) :
    (dispatch.onResult nSessionID result bSend nRand).nNextRequest = dispatch.nNextRequest := by
  unfold onResult
  split
  · rfl
  · exact nNextRequest_go bSend

theorem accounted_onResult (h : dispatch.Accounted) (nSessionID : ℕ) (result : CallResult)
    (bSend : Bool) (nRand : UInt32) :
    (dispatch.onResult nSessionID result bSend nRand).Accounted := by
  intro nRequest
  have htotal : (dispatch.onResult nSessionID result bSend nRand).total nRequest =
      dispatch.total nRequest := total_onResult nSessionID result bSend nRand
  rw [nNextRequest_onResult]
  exact htotal.trans (h nRequest)

theorem accounted_step (h : dispatch.Accounted) (e : Event) : (dispatch.step e).Accounted := by
  cases e with
  | validateLogin sSessionInfo szAccountName nServerID bSend =>
      intro nRequest
      show CDispatchService.total (dispatch.validateLogin _ _ _ _) nRequest =
        if nRequest < (dispatch.validateLogin _ _ _ _).nNextRequest then 1 else 0
      unfold CDispatchService.validateLogin
      rw [total_go, nNextRequest_go]
      have hbefore : dispatch.total nRequest = _ := h nRequest
      show dispatch.total nRequest + (if dispatch.nNextRequest = nRequest then 1 else 0) =
        if nRequest < dispatch.nNextRequest + 1 then 1 else 0
      rw [hbefore]
      split <;> split <;> split <;> omega
  | execute nSessionID =>
      show (dispatch.execute nSessionID).Accounted
      unfold CDispatchService.execute
      split
      · exact h
      · exact h
  | answer nSessionID bSend nRand =>
      show (dispatch.answer nSessionID bSend nRand).Accounted
      unfold CDispatchService.answer
      split
      · exact h
      · exact accounted_onResult h nSessionID _ bSend nRand
  | respond nSessionID result bSend nRand =>
      show (if _ then dispatch else _).Accounted
      split
      · exact h
      · exact accounted_onResult h nSessionID result bSend nRand
  | _ => exact h

/-! ## Requests without an answer -/

theorem noneAbandoned_output (out : DispatchOutput) :
    (dispatch.output out).NoneAbandoned ↔
      dispatch.NoneAbandoned ∧ ∀ login, out ≠ .assertFailed login := by
  unfold NoneAbandoned CDispatchService.output
  simp only [List.mem_append, List.mem_singleton, not_or, forall_and, ne_eq, eq_comm]

theorem noneAbandoned_finish :
    (dispatch.finish login progress).NoneAbandoned ↔
      dispatch.NoneAbandoned ∧ progress ≠ .assertFailed := by
  cases progress with
  | call step => simp [finish]
  | response message => simp [finish, noneAbandoned_output]
  | login nGateID notify message => simp [finish, noneAbandoned_output]
  | assertFailed => simp [finish, noneAbandoned_output]

theorem noneAbandoned_go (bSend : Bool) :
    (dispatch.go login progress bSend).NoneAbandoned ↔
      dispatch.NoneAbandoned ∧ progress ≠ .assertFailed := by
  unfold go
  split
  · rename_i step
    split
    · show dispatch.NoneAbandoned ↔ _
      simp
    · obtain ⟨nResult, hresume⟩ := resume_of_failed dispatch.onlineCountMgr
        ⟨eRRT_ERROR, none⟩ (by decide) step 0
      rw [noneAbandoned_finish, hresume]
      simp [loginError_ne_assertFailed]
  · exact noneAbandoned_finish

/-- The assertions of a handler hold when its call is answered. -/
def AssertsOn (dispatch : CDispatchService) (nSessionID : ℕ) (result : CallResult) : Prop :=
  ∀ pending, dispatch.findPending nSessionID = some pending →
    Asserts dispatch.onlineCountMgr result pending.step

theorem noneAbandoned_onResult {nSessionID : ℕ} {result : CallResult}
    (hanswers : ∀ pending, dispatch.findPending nSessionID = some pending →
      Answers (dispatch.stored pending.login) result pending.step) (bSend : Bool)
    (nRand : UInt32) :
    (dispatch.onResult nSessionID result bSend nRand).NoneAbandoned ↔
      dispatch.NoneAbandoned ∧ dispatch.AssertsOn nSessionID result := by
  unfold onResult AssertsOn
  split
  · rename_i hnone
    simp [hnone]
  · rename_i pending hpending
    rw [noneAbandoned_go, hpending, ne_eq, resume_eq_assertFailed_iff (hanswers pending hpending),
      not_not]
    simp [NoneAbandoned]

/-- The assertions of the handler that goes on with an event hold. -/
def Event.Asserts (dispatch : CDispatchService) : Event → Prop
  | .answer nSessionID _ _ =>
      ∀ entry, (dispatch.listAnswer.find? fun entry => entry.1 = nSessionID) = some entry →
        dispatch.AssertsOn nSessionID entry.2
  | .respond nSessionID result _ _ =>
      dispatch.waitsForGlobalDb nSessionID = false → dispatch.AssertsOn nSessionID result
  | _ => True

theorem noneAbandoned_answer (h : dispatch.Consistent) (nSessionID : ℕ) (bSend : Bool)
    (nRand : UInt32) :
    (dispatch.answer nSessionID bSend nRand).NoneAbandoned ↔
      dispatch.NoneAbandoned ∧ (Event.answer nSessionID bSend nRand).Asserts dispatch := by
  unfold CDispatchService.answer Event.Asserts
  split
  · rename_i hnone
    simp [hnone]
  · rename_i entry hentry
    have hmem := List.mem_of_find?_eq_some hentry
    have hsession : entry.1 = nSessionID := by simpa using List.find?_some hentry
    rw [noneAbandoned_onResult]
    · simp [hentry]
    · intro pending hpending
      obtain ⟨hpendingMem, heq⟩ := mem_of_findPending hpending
      exact h.answers pending hpendingMem entry hmem (hsession.trans heq.symm)

theorem assertsOn_of_failed {nSessionID : ℕ} {result : CallResult}
    (h : result.nErrorCode ≠ eRRT_OK) : dispatch.AssertsOn nSessionID result := by
  intro pending _
  cases pending.step with
  | select =>
      intro hok
      exact absurd hok h
  | createPlayer nUCServiceID =>
      intro hok
      exact absurd hok h
  | _ => trivial

theorem noneAbandoned_respond {nSessionID : ℕ} {result : CallResult} (bSend : Bool)
    (nRand : UInt32) :
    (dispatch.step (.respond nSessionID result bSend nRand)).NoneAbandoned ↔
      dispatch.NoneAbandoned ∧
        (Event.respond nSessionID result bSend nRand).Asserts dispatch := by
  show CDispatchService.NoneAbandoned (if _ then dispatch else _) ↔ _
  unfold Event.Asserts
  split
  · rename_i hignored
    simp [hignored.1]
  · rename_i hresult
    rw [noneAbandoned_onResult (answers_of_respond hresult)]
    by_cases hok : result.nErrorCode = eRRT_OK
    · have hwaits : dispatch.waitsForGlobalDb nSessionID = false := by
        simpa [hok] using hresult
      simp [hwaits]
    · simp [assertsOn_of_failed hok]

theorem noneAbandoned_step (h : dispatch.Consistent) (e : Event) :
    (dispatch.step e).NoneAbandoned ↔ dispatch.NoneAbandoned ∧ e.Asserts dispatch := by
  cases e with
  | validateLogin sSessionInfo szAccountName nServerID bSend =>
      show (dispatch.validateLogin sSessionInfo szAccountName nServerID bSend).NoneAbandoned ↔ _
      unfold CDispatchService.validateLogin
      rw [noneAbandoned_go]
      simp [NoneAbandoned, Event.Asserts]
  | execute nSessionID =>
      have houtputs : (dispatch.execute nSessionID).outputs = dispatch.outputs := by
        unfold CDispatchService.execute
        split
        · rfl
        · rfl
      show (dispatch.execute nSessionID).NoneAbandoned ↔ _
      unfold NoneAbandoned
      rw [houtputs]
      simp [Event.Asserts]
  | answer nSessionID bSend nRand => exact noneAbandoned_answer h nSessionID bSend nRand
  | respond nSessionID result bSend nRand => exact noneAbandoned_respond bSend nRand
  | _ => exact (and_iff_left trivial).symm

theorem noneAbandoned_iff :
    dispatch.NoneAbandoned ↔ ∀ nRequest, dispatch.abandoned nRequest = 0 := by
  unfold NoneAbandoned abandoned
  simp only [List.countP_eq_zero]
  constructor
  · intro h nRequest out hout
    cases out with
    | assertFailed login => exact absurd hout (h login)
    | _ => simp [DispatchOutput.abandonsRequest]
  · intro h login hmem
    simpa [DispatchOutput.abandonsRequest] using h login.nRequest _ hmem

theorem answeredOnce_iff (h : dispatch.Accounted) :
    dispatch.AnsweredOnce ↔ dispatch.NoneAbandoned := by
  rw [noneAbandoned_iff]
  constructor
  · intro honce nRequest
    have hone := h nRequest
    split at hone
    · rename_i hlt
      have hanswered := honce nRequest hlt
      omega
    · omega
  · intro hnone nRequest hlt
    have hone := h nRequest
    rw [if_pos hlt, hnone nRequest] at hone
    exact hone

/-- In every run, the requests are answered exactly once if and only if no assertion of a
handler fails. -/
theorem answeredOnce_throughout_iff (nAccountTblCount : UInt32) (collate : Bytes → Bytes)
    (accountTbl : AccountTbl) (events : List Event) :
    (∀ ks, ks <+: events →
        (ks.foldl step (initial nAccountTblCount collate accountTbl)).AnsweredOnce) ↔
      ∀ ks e, ks ++ [e] <+: events →
        e.Asserts (ks.foldl step (initial nAccountTblCount collate accountTbl)) := by
  apply throughout_iff (I := fun dispatch => dispatch.Consistent ∧ dispatch.Accounted)
  · intro dispatch e h
    exact ⟨h.1.step e, accounted_step h.2 e⟩
  · intro dispatch e h honce
    rw [answeredOnce_iff (accounted_step h.2 e), noneAbandoned_step h.1]
    exact and_iff_right ((answeredOnce_iff h.2).mp honce)
  · refine ⟨consistent_initial nAccountTblCount collate accountTbl, ?_⟩
    intro nRequest
    rfl
  · intro nRequest hlt
    exact absurd hlt (Nat.not_lt_zero nRequest)

end CDispatchService

end RealtimeEx.Dispatch
