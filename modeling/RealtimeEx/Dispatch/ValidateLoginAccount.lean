import Mathlib.Algebra.Order.Ring.Int
import RealtimeEx.Dispatch.ValidateLogin
import RealtimeEx.Support.History

/-!
# One player for each account

Several requests for a new account can all find no row, and each gets a player from a game
database.  Only one of them adds its row.  The rows are never changed, so what a handler
knows of the row of its account stays true: the player with which it goes to the user
center is the one that is stored.
-/

namespace RealtimeEx.Dispatch

open RealtimeEx.Db (Bytes natText textNat_natText EndsNumber readNumber_natText)

/-! ## Rows -/

section

variable {accountTbl : AccountTbl} {row row' : AccountKey} {n n' : UInt64}

theorem AccountTbl.insert_grows (h : accountTbl row = some n) :
    (accountTbl.insert row' n').2 row = some n := by
  unfold AccountTbl.insert
  split
  · rename_i hnone
    have hne : row ≠ row' := by
      rintro rfl
      rw [hnone] at h
      cases h
    exact (Function.update_of_ne hne _ _).trans h
  · exact h

/-- An insert that succeeds has stored its player. -/
theorem AccountTbl.insert_stores (h : (accountTbl.insert row n).1.nErrorCode = eRRT_OK) :
    (accountTbl.insert row n).2 row = some n := by
  unfold AccountTbl.insert at h ⊢
  split at h
  · exact Function.update_self row (some n) accountTbl
  · exact absurd h (by decide : eDBRC_MysqlError ≠ eRRT_OK)

/-- A statement changes no row that is there. -/
theorem AccountStatement.execute_grows {collate : Bytes → Bytes} (statement : AccountStatement)
    (h : accountTbl row = some n) :
    (statement.execute collate accountTbl).2 row = some n := by
  cases statement with
  | select key => exact h
  | insert key n' => exact AccountTbl.insert_grows h

end

/-! ## What a handler knows -/

/-- An answer of the global database is true of the player that is stored. -/
def Answers (stored : Option UInt64) (result : CallResult) : LoginStep → Prop
  | .select =>
      result.nErrorCode = eRRT_OK → ∀ rows, result.pMessage = some (.resultSet rows) →
        rows = [] ∨ ∃ n, stored = some n ∧ rows = [[natText n.toNat]]
  | .insert _ nPlayerID => result.nErrorCode = eRRT_OK → stored = some nPlayerID
  | .createPlayer _ => True
  | .userCenter _ _ _ => True

/-- A call with which a handler goes to the user center is made with the stored player. -/
def Enters (stored : Option UInt64) : LoginStep → Prop
  | .userCenter _ nPlayerID _ => stored = some nPlayerID
  | _ => True

/-- A handler that goes to the user center, or answers with a key, does so with the player
that is stored. -/
inductive Knows (stored : Option UInt64) : LoginProgress → Prop
  | call {step : LoginStep} (h : Enters stored step) : Knows stored (.call step)
  | response {message : SValidateLoginResponse} (h : message.nResult ≠ eEC_Sucess) :
      Knows stored (.response message)
  | login {nGateID : UInt32} {notify : SPlayerTokenNotify} {message : SValidateLoginResponse}
      (hstored : stored = some notify.nPlayerID)
      (hkey : message.szKey = loginKey notify.nPlayerID notify.szToken) :
      Knows stored (.login nGateID notify message)
  | assertFailed : Knows stored .assertFailed

section

variable {stored : Option UInt64} {result : CallResult}

theorem knows_loginError {nResult : UInt32} (h : nResult ≠ eEC_Sucess) :
    Knows stored (loginError nResult) := .response h

theorem rowValue_natText (n : UInt64) : rowValue [natText n.toNat] = some n := by
  unfold rowValue
  rw [List.headD_cons, textNat_natText n.toNat_lt, Option.map_some, UInt64.ofNat_toNat]

theorem knows_ite {c : Prop} [Decidable c] {progress progress' : LoginProgress}
    (h : Knows stored progress) (h' : Knows stored progress') :
    Knows stored (if c then progress else progress') := by
  split
  · exact h
  · exact h'

theorem knows_chooseUserCenter {mgr : COnlineCountMgr} :
    Knows stored mgr.chooseUserCenter := by
  unfold COnlineCountMgr.chooseUserCenter
  apply knows_ite
  · exact knows_loginError (by decide)
  · apply knows_ite
    · exact .assertFailed
    · apply knows_ite
      · exact .assertFailed
      · exact .call trivial

theorem knows_onSelect {mgr : COnlineCountMgr}
    (h : Answers stored result .select) :
    Knows stored (mgr.onSelect result) := by
  unfold COnlineCountMgr.onSelect
  split
  · exact knows_loginError (by decide)
  · rename_i hok
    split
    · rename_i rows hrows
      rcases h (not_not.mp hok) rows hrows with rfl | ⟨n, hstored, rfl⟩
      · rw [if_neg (by decide)]
        exact knows_chooseUserCenter
      · rw [List.length_singleton, if_neg (Nat.lt_irrefl 1)]
        dsimp only
        rw [rowValue_natText]
        dsimp only
        apply knows_ite
        · exact .assertFailed
        · exact .call hstored
    · exact knows_loginError (by decide)

theorem knows_onCreatePlayer (nUCServiceID : UInt32) (result : CallResult) :
    Knows stored (COnlineCountMgr.onCreatePlayer nUCServiceID result) := by
  unfold COnlineCountMgr.onCreatePlayer
  split
  · exact knows_loginError (by decide)
  · split
    · split
      · split
        · exact .assertFailed
        · exact .call trivial
      · exact .assertFailed
    · exact knows_loginError (by decide)

theorem knows_onInsert {mgr : COnlineCountMgr} {nUCServiceID : UInt32}
    {n : UInt64} (h : Answers stored result (.insert nUCServiceID n)) :
    Knows stored (mgr.onInsert nUCServiceID n result) := by
  unfold COnlineCountMgr.onInsert
  split
  · exact knows_loginError (by decide)
  · rename_i hok
    exact .call (h (not_not.mp hok))

theorem knows_onUserCenter {mgr : COnlineCountMgr} {n : UInt64}
    (h : stored = some n) (result : CallResult) (nRand : UInt32) :
    Knows stored (mgr.onUserCenter n result nRand) := by
  unfold COnlineCountMgr.onUserCenter
  split
  · exact knows_loginError (by decide)
  · split
    · split
      · exact knows_loginError (by decide)
      · exact .login h rfl
    · exact knows_loginError (by decide)

theorem knows_resume {mgr : COnlineCountMgr} {step : LoginStep}
    (henters : Enters stored step) (hanswers : Answers stored result step)
    (nRand : UInt32) : Knows stored (mgr.resume step result nRand) := by
  cases step with
  | select => exact knows_onSelect hanswers
  | createPlayer nUCServiceID => exact knows_onCreatePlayer nUCServiceID result
  | insert nUCServiceID n => exact knows_onInsert hanswers
  | userCenter nUCServiceID n nGasID => exact knows_onUserCenter henters result nRand

theorem AccountTbl.answers_select {accountTbl : AccountTbl} {row : AccountKey} :
    Answers (accountTbl row) (accountTbl.select row) .select := by
  intro _ rows hrows
  unfold AccountTbl.select at hrows
  split at hrows
  · cases hrows
    exact .inl rfl
  · rename_i n hn
    cases hrows
    exact .inr ⟨n, hn, rfl⟩

theorem answers_of_failed (h : result.nErrorCode ≠ eRRT_OK)
    (step : LoginStep) : Answers stored result step := by
  cases step with
  | select =>
      intro hok
      exact absurd hok h
  | createPlayer nUCServiceID => trivial
  | insert nUCServiceID n =>
      intro hok
      exact absurd hok h
  | userCenter nUCServiceID n nGasID => trivial

theorem Enters.mono {stored' : Option UInt64} (hstored : ∀ n, stored = some n → stored' = some n)
    {step : LoginStep} (h : Enters stored step) : Enters stored' step := by
  cases step with
  | userCenter nUCServiceID n nGasID => exact hstored n h
  | _ => trivial

theorem Answers.mono {stored' : Option UInt64} (hstored : ∀ n, stored = some n → stored' = some n)
    {step : LoginStep} (h : Answers stored result step) : Answers stored' result step := by
  cases step with
  | select =>
      intro hok rows hrows
      rcases h hok rows hrows with hnil | ⟨n, hn, hrow⟩
      · exact .inl hnil
      · exact .inr ⟨n, hstored n hn, hrow⟩
  | insert nUCServiceID n =>
      intro hok
      exact hstored n (h hok)
  | _ => trivial

end

namespace CDispatchService

variable {dispatch : CDispatchService} {login : SValidateLogin}

/-- The player that is stored for the account of a request. -/
def stored (dispatch : CDispatchService) (login : SValidateLogin) : Option UInt64 :=
  dispatch.storedPlayer login.szAccountName login.nServerID

/-- What the global database returns is true of the row afterwards. -/
theorem answers_execute {step : LoginStep} {statement : AccountStatement}
    (h : dispatch.statement login step = some statement) :
    Answers
      (({ dispatch with
        accountTbl := (statement.execute dispatch.collate dispatch.accountTbl).2 } :
          CDispatchService).stored login)
      (statement.execute dispatch.collate dispatch.accountTbl).1 step := by
  cases step with
  | select =>
      obtain rfl := Option.some.inj h
      exact AccountTbl.answers_select
  | createPlayer nUCServiceID => cases h
  | insert nUCServiceID n =>
      obtain rfl := Option.some.inj h
      exact AccountTbl.insert_stores
  | userCenter nUCServiceID n nGasID => cases h

theorem mem_of_findPending {nSessionID : ℕ} {pending : SPendingLogin}
    (h : dispatch.findPending nSessionID = some pending) :
    pending ∈ dispatch.listPending ∧ pending.nSessionID = nSessionID := by
  constructor
  · exact List.mem_of_find?_eq_some h
  · simpa using List.find?_some h

/-- An answer of another service, or a failed call, says nothing about a row. -/
theorem answers_of_respond {nSessionID : ℕ} {result : CallResult}
    (hresult : ¬(dispatch.waitsForGlobalDb nSessionID = true ∧ result.nErrorCode = eRRT_OK)) :
    ∀ pending, dispatch.findPending nSessionID = some pending →
      Answers (dispatch.stored pending.login) result pending.step := by
  intro pending hpending
  by_cases hok : result.nErrorCode = eRRT_OK
  · have hwaits : (dispatch.statement pending.login pending.step).isSome = false := by
      unfold waitsForGlobalDb at hresult
      rw [hpending] at hresult
      simpa [hok] using hresult
    cases hstep : pending.step with
    | select =>
        rw [hstep] at hwaits
        cases hwaits
    | createPlayer nUCServiceID => trivial
    | insert nUCServiceID n =>
        rw [hstep] at hwaits
        cases hwaits
    | userCenter nUCServiceID n nGasID => trivial
  · exact answers_of_failed hok pending.step

/-! ## The invariant -/

/-- Sessions are new, statements and answers belong to the handlers that wait for them, and
what the handlers and the answers say of a row is true. -/
structure Consistent (dispatch : CDispatchService) : Prop where
  pending_lt : ∀ pending ∈ dispatch.listPending, pending.nSessionID < dispatch.nNextSessionID
  statement_lt : ∀ entry ∈ dispatch.listStatement, entry.1 < dispatch.nNextSessionID
  answer_lt : ∀ entry ∈ dispatch.listAnswer, entry.1 < dispatch.nNextSessionID
  statements : ∀ pending ∈ dispatch.listPending, ∀ entry ∈ dispatch.listStatement,
    entry.1 = pending.nSessionID →
      dispatch.statement pending.login pending.step = some entry.2
  answers : ∀ pending ∈ dispatch.listPending, ∀ entry ∈ dispatch.listAnswer,
    entry.1 = pending.nSessionID → Answers (dispatch.stored pending.login) entry.2 pending.step
  enters : ∀ pending ∈ dispatch.listPending, Enters (dispatch.stored pending.login) pending.step
  keys : ∀ login message, .validateLoginResponse login message ∈ dispatch.outputs →
    message.nResult = eEC_Sucess →
      ∃ n szToken, dispatch.stored login = some n ∧ message.szKey = loginKey n szToken

/-- The service before its first request; the tables may hold any accounts. -/
def initial (nAccountTblCount : UInt32) (collate : Bytes → Bytes) (accountTbl : AccountTbl) :
    CDispatchService where
  nAccountTblCount := nAccountTblCount
  collate := collate
  accountTbl := accountTbl

theorem consistent_initial (nAccountTblCount : UInt32) (collate : Bytes → Bytes)
    (accountTbl : AccountTbl) : (initial nAccountTblCount collate accountTbl).Consistent := by
  constructor <;> simp [initial]

namespace Consistent

variable (h : dispatch.Consistent)

include h

theorem output {out : DispatchOutput}
    (hout : ∀ login message, out = .validateLoginResponse login message →
      message.nResult = eEC_Sucess →
        ∃ n szToken, dispatch.stored login = some n ∧ message.szKey = loginKey n szToken) :
    (dispatch.output out).Consistent where
  pending_lt := h.pending_lt
  statement_lt := h.statement_lt
  answer_lt := h.answer_lt
  statements := h.statements
  answers := h.answers
  enters := h.enters
  keys := by
    intro login message hmem
    rcases List.mem_append.mp hmem with hmem | hmem
    · exact h.keys login message hmem
    · exact hout login message (List.mem_singleton.mp hmem).symm

theorem finish {progress : LoginProgress} (hknows : Knows (dispatch.stored login) progress) :
    (dispatch.finish login progress).Consistent := by
  cases hknows with
  | call henters => exact h
  | response hresult =>
      apply h.output
      rintro login' message' ⟨⟩ hsuccess
      exact absurd hsuccess hresult
  | @login nGateID notify message hstored hkey =>
      have hnotify : (dispatch.output (.playerTokenNotify nGateID notify)).Consistent := by
        apply h.output
        rintro login' message' ⟨⟩
      apply hnotify.output
      rintro login' message' ⟨⟩ -
      exact ⟨notify.nPlayerID, notify.szToken, hstored, hkey⟩
  | assertFailed =>
      apply h.output
      rintro login' message' ⟨⟩

theorem suspend {step : LoginStep} (henters : Enters (dispatch.stored login) step) :
    (dispatch.suspend login step).Consistent := by
  have hstatement : ∀ entry ∈ ((dispatch.statement login step).map fun statement =>
      (dispatch.nNextSessionID, statement)).toList,
        entry.1 = dispatch.nNextSessionID ∧ dispatch.statement login step = some entry.2 := by
    intro entry hentry
    obtain ⟨statement, hstatement, rfl⟩ := Option.map_eq_some_iff.mp (Option.mem_toList.mp hentry)
    exact ⟨rfl, hstatement⟩
  constructor
  · intro pending hpending
    rcases List.mem_append.mp hpending with hpending | hpending
    · exact Nat.lt_succ_of_lt (h.pending_lt pending hpending)
    · rw [List.mem_singleton.mp hpending]
      exact Nat.lt_succ_self _
  · intro entry hentry
    rcases List.mem_append.mp hentry with hentry | hentry
    · exact Nat.lt_succ_of_lt (h.statement_lt entry hentry)
    · rw [(hstatement entry hentry).1]
      exact Nat.lt_succ_self _
  · intro entry hentry
    exact Nat.lt_succ_of_lt (h.answer_lt entry hentry)
  · intro pending hpending entry hentry heq
    rcases List.mem_append.mp hpending with hpending | hpending
    · rcases List.mem_append.mp hentry with hentry | hentry
      · exact h.statements pending hpending entry hentry heq
      · have hlt := h.pending_lt pending hpending
        rw [← heq, (hstatement entry hentry).1] at hlt
        exact absurd hlt (Nat.lt_irrefl _)
    · obtain rfl := List.mem_singleton.mp hpending
      rcases List.mem_append.mp hentry with hentry | hentry
      · have hlt := h.statement_lt entry hentry
        rw [heq] at hlt
        exact absurd hlt (Nat.lt_irrefl _)
      · exact (hstatement entry hentry).2
  · intro pending hpending entry hentry heq
    rcases List.mem_append.mp hpending with hpending | hpending
    · exact h.answers pending hpending entry hentry heq
    · obtain rfl := List.mem_singleton.mp hpending
      have hlt := h.answer_lt entry hentry
      rw [heq] at hlt
      exact absurd hlt (Nat.lt_irrefl _)
  · intro pending hpending
    rcases List.mem_append.mp hpending with hpending | hpending
    · exact h.enters pending hpending
    · obtain rfl := List.mem_singleton.mp hpending
      exact henters
  · exact h.keys

theorem go {progress : LoginProgress} (hknows : Knows (dispatch.stored login) progress) (bSend : Bool) :
    (dispatch.go login progress bSend).Consistent := by
  cases hknows with
  | @call step henters =>
      show (if bSend = true then dispatch.suspend login step else _).Consistent
      split
      · exact h.suspend henters
      · apply h.finish
        apply knows_resume henters
        exact answers_of_failed (by decide) step
  | response hresult => exact h.finish (.response hresult)
  | login hstored hkey => exact h.finish (.login hstored hkey)
  | assertFailed => exact h.finish .assertFailed

theorem validateLogin (sSessionInfo : SSessionInfo) (szAccountName : Bytes) (nServerID : UInt32)
    (bSend : Bool) :
    (dispatch.validateLogin sSessionInfo szAccountName nServerID bSend).Consistent := by
  have hnext : ({ dispatch with nNextRequest := dispatch.nNextRequest + 1 } :
      CDispatchService).Consistent :=
    ⟨h.pending_lt, h.statement_lt, h.answer_lt, h.statements, h.answers, h.enters, h.keys⟩
  apply hnext.go
  exact .call True.intro

theorem onResult {nSessionID : ℕ} {result : CallResult}
    (hresult : ∀ pending, dispatch.findPending nSessionID = some pending →
      Answers (dispatch.stored pending.login) result pending.step) (bSend : Bool) (nRand : UInt32) :
    (dispatch.onResult nSessionID result bSend nRand).Consistent := by
  unfold CDispatchService.onResult
  split
  · exact h
  · rename_i pending hpending
    have hmem := List.mem_of_find?_eq_some hpending
    have hrest : ({ dispatch with
        listPending := dispatch.listPending.eraseP fun pending =>
          decide (pending.nSessionID = nSessionID) } : CDispatchService).Consistent :=
      ⟨fun p hp => h.pending_lt p (List.mem_of_mem_eraseP hp), h.statement_lt, h.answer_lt,
        fun p hp => h.statements p (List.mem_of_mem_eraseP hp),
        fun p hp => h.answers p (List.mem_of_mem_eraseP hp),
        fun p hp => h.enters p (List.mem_of_mem_eraseP hp), h.keys⟩
    apply hrest.go
    exact knows_resume (h.enters pending hmem) (hresult pending hpending) nRand

/-- A statement is executed: the rows that are there stay, and the answer is true of the
row of its handler. -/
theorem execute (nSessionID : ℕ) : (dispatch.execute nSessionID).Consistent := by
  unfold CDispatchService.execute
  split
  · exact h
  · rename_i entry hentry
    have hmem := List.mem_of_find?_eq_some hentry
    have hsession : entry.1 = nSessionID := by simpa using List.find?_some hentry
    have hgrows : ∀ login n, dispatch.stored login = some n →
        ({ dispatch with
          accountTbl := (entry.2.execute dispatch.collate dispatch.accountTbl).2 } :
            CDispatchService).stored login = some n :=
      fun login n hn => entry.2.execute_grows hn
    constructor
    · exact h.pending_lt
    · intro e he
      exact h.statement_lt e (List.mem_of_mem_eraseP he)
    · intro e he
      rcases List.mem_append.mp he with he | he
      · exact h.answer_lt e he
      · rw [List.mem_singleton.mp he, ← hsession]
        exact h.statement_lt entry hmem
    · intro pending hpending e he heq
      exact h.statements pending hpending e (List.mem_of_mem_eraseP he) heq
    · intro pending hpending e he heq
      rcases List.mem_append.mp he with he | he
      · exact (h.answers pending hpending e he heq).mono (hgrows pending.login)
      · obtain rfl := List.mem_singleton.mp he
        exact answers_execute (h.statements pending hpending entry hmem (hsession.trans heq))
    · intro pending hpending
      exact (h.enters pending hpending).mono (hgrows pending.login)
    · intro login message hmessage hsuccess
      obtain ⟨n, szToken, hstored, hkey⟩ := h.keys login message hmessage hsuccess
      exact ⟨n, szToken, hgrows login n hstored, hkey⟩

theorem answer (nSessionID : ℕ) (bSend : Bool) (nRand : UInt32) :
    (dispatch.answer nSessionID bSend nRand).Consistent := by
  unfold CDispatchService.answer
  split
  · exact h
  · rename_i entry hentry
    have hmem := List.mem_of_find?_eq_some hentry
    have hsession : entry.1 = nSessionID := by simpa using List.find?_some hentry
    apply h.onResult
    intro pending hpending
    obtain ⟨hpendingMem, heq⟩ := mem_of_findPending hpending
    exact h.answers pending hpendingMem entry hmem (hsession.trans heq.symm)

theorem respond {nSessionID : ℕ} {result : CallResult}
    (hresult : ¬(dispatch.waitsForGlobalDb nSessionID = true ∧ result.nErrorCode = eRRT_OK))
    (bSend : Bool) (nRand : UInt32) :
    (dispatch.onResult nSessionID result bSend nRand).Consistent :=
  h.onResult (answers_of_respond hresult) bSend nRand

theorem step (e : Event) : (dispatch.step e).Consistent := by
  cases e with
  | validateLogin sSessionInfo szAccountName nServerID bSend =>
      exact h.validateLogin sSessionInfo szAccountName nServerID bSend
  | execute nSessionID => exact h.execute nSessionID
  | answer nSessionID bSend nRand => exact h.answer nSessionID bSend nRand
  | respond nSessionID result bSend nRand =>
      show (if _ then dispatch else _).Consistent
      split
      · exact h
      · rename_i hresult
        exact h.respond hresult bSend nRand
  | _ =>
      exact ⟨h.pending_lt, h.statement_lt, h.answer_lt, h.statements, h.answers, h.enters, h.keys⟩

end Consistent

theorem consistent_foldl (nAccountTblCount : UInt32) (collate : Bytes → Bytes)
    (accountTbl : AccountTbl) (events : List Event) :
    (events.foldl step (initial nAccountTblCount collate accountTbl)).Consistent :=
  foldl_invariant (I := Consistent) (fun _ e h => h.step e)
    (consistent_initial nAccountTblCount collate accountTbl) events

/-- In every run, the successful answers for an account carry one player id, the one that
is stored for the account. -/
theorem one_player_for_account (nAccountTblCount : UInt32)
    (collate : Bytes → Bytes) (accountTbl : AccountTbl) (events : List Event)
    (szAccountName : Bytes) (nServerID : UInt32) :
    ∃ nPlayerID, ∀ login message,
      .validateLoginResponse login message ∈
          (events.foldl step (initial nAccountTblCount collate accountTbl)).outputs →
        login.szAccountName = szAccountName → login.nServerID = nServerID →
        message.nResult = eEC_Sucess →
          (events.foldl step (initial nAccountTblCount collate accountTbl)).storedPlayer
              szAccountName nServerID = some nPlayerID ∧
            ∃ szToken, message.szKey = loginKey nPlayerID szToken := by
  have h := consistent_foldl nAccountTblCount collate accountTbl events
  cases hstored : (events.foldl step
      (initial nAccountTblCount collate accountTbl)).storedPlayer szAccountName nServerID with
  | none =>
      refine ⟨0, ?_⟩
      rintro login message hmem rfl rfl hsuccess
      obtain ⟨n, szToken, hn, -⟩ := h.keys login message hmem hsuccess
      exact absurd (hstored.symm.trans hn) (by simp)
  | some nPlayerID =>
      refine ⟨nPlayerID, ?_⟩
      rintro login message hmem rfl rfl hsuccess
      obtain ⟨n, szToken, hn, hkey⟩ := h.keys login message hmem hsuccess
      obtain rfl : nPlayerID = n := Option.some.inj (hstored.symm.trans hn)
      exact ⟨rfl, szToken, hkey⟩

/-- Two first logins of an account at once: each gets a player from the game database. -/
def bothFirst : List Event :=
  [.ucActiveCount 80001 0, .gasOnlineCount 3 0, .gateOnlineCount 4 0,
    .validateLogin ⟨1, 1⟩ [97] 1 true, .validateLogin ⟨1, 2⟩ [97] 1 true,
    .execute 0, .execute 1, .answer 0 true 0, .answer 1 true 0,
    .respond 2 ⟨eRRT_OK, some (.resultSet [[[55]]])⟩ true 0,
    .respond 3 ⟨eRRT_OK, some (.resultSet [[[57]]])⟩ true 0,
    .execute 4, .execute 5, .answer 4 true 0, .answer 5 true 0,
    .respond 6 ⟨eRRT_OK, some (.playerLogin 3)⟩ true 5]

example : (bothFirst.foldl step (initial 4 id fun _ => none)).outputs =
    [.validateLoginResponse ⟨1, ⟨1, 2⟩, [97], 1⟩ ⟨[], eEC_Login_InsertGbloalDbError, []⟩,
      .playerTokenNotify 4 ⟨7, 3, [53]⟩,
      .validateLoginResponse ⟨0, ⟨1, 1⟩, [97], 1⟩ ⟨loginKey 7 [53], eEC_Sucess, []⟩] := by
  decide

end CDispatchService

end RealtimeEx.Dispatch
