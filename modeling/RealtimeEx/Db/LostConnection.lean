import RealtimeEx.Db.DbThreadOwnership

/-!
# Lost connections

The client library reports a lost connection by its own error numbers, and the
handlers compare what `execute` returns with `eMET_LostConnection`, which is
one.  No error number of a lost connection is one, so no loss that the client
reports is taken for a loss: the command is answered with an error, or with
the result the connection was lost behind.
-/

set_option linter.unusedSectionVars false

namespace RealtimeEx.Db

/-! ## What the client reports -/

/-- `CR_SERVER_GONE_ERROR`, `CR_SERVER_LOST` and `CR_SERVER_LOST_EXTENDED` of
the client library. -/
def isLossError (nError : UInt32) : Bool :=
  nError = 2006 || nError = 2013 || nError = 2055

/-- The errors that come up while a statement is executed; the first one ends
the execution. -/
def MysqlReply.errors (reply : MysqlReply) : List UInt32 :=
  match reply.realQuery with
  | some nError => [nError]
  | none =>
      match reply.storeResult with
      | .error nError => [nError]
      | .ok _ =>
          (reply.nextResult.find? fun r => r ≠ .result).elim [] fun r =>
            match r with
            | .error nError => [nError]
            | .result => []

/-- The client reports that the connection is lost. -/
def MysqlReply.reportsLoss (reply : MysqlReply) : Bool :=
  reply.errors.any isLossError

/-- The replies of the client to one more command. -/
def commandReplies {σ : Type*} (env : HandlerEnv σ) (command : DbCommand)
    (conn : DbConnection σ) : List MysqlReply :=
  (onDbCommand env command conn).2.2.replies.drop conn.replies.length

/-! ## How the handlers map a loss -/

/-- A lost connection is not the error `eMET_LostConnection`, nor the error
that a call tries again after. -/
theorem execute_of_reportsLoss {reply : MysqlReply} (wantsRecordset : Bool)
    (h : reply.reportsLoss) :
    (reply.execute wantsRecordset).1 ≠ eMET_LostConnection ∧
      (reply.execute wantsRecordset).1 ≠ eMET_Deadloop := by
  have hloss : ∀ nError, isLossError nError →
      nError ≠ eMET_LostConnection ∧ nError ≠ eMET_Deadloop := by
    intro nError herror
    constructor
    · rintro rfl
      cases herror
    · rintro rfl
      cases herror
  unfold MysqlReply.reportsLoss MysqlReply.errors at h
  unfold MysqlReply.execute
  cases hquery : reply.realQuery with
  | some nError =>
      rw [hquery] at h
      exact hloss nError (by simpa using h)
  | none =>
      rw [hquery] at h
      cases hstore : reply.storeResult with
      | error nError =>
          rw [hstore] at h
          exact hloss nError (by simpa using h)
      | ok recordset =>
          have hok : eMET_OK ≠ eMET_LostConnection ∧ eMET_OK ≠ eMET_Deadloop :=
            by decide
          have hunknown : eMET_Unknwon ≠ eMET_LostConnection ∧
            eMET_Unknwon ≠ eMET_Deadloop := by decide
          cases wantsRecordset with
          | true => exact hok
          | false => exact hunknown

theorem resultCode_eq_lost_iff (nErrorType : UInt32) :
    resultCode nErrorType = eDBRC_LostConnection ↔
      nErrorType = eMET_LostConnection := by
  unfold resultCode
  split
  · rename_i h
    simp [h]
  · rename_i h
    split
    · simp [h, eDBRC_MysqlError, eDBRC_LostConnection]
    · simp [h, eDBRC_OK, eDBRC_LostConnection]

theorem protobufError_ne_lost : eDBRC_ProtobufError ≠ eDBRC_LostConnection := by
  decide

theorem mysqlError_ne_lost : eDBRC_MysqlError ≠ eDBRC_LostConnection := by
  decide

theorem emptyRecordset_ne_lost :
    eDBRC_EmptyRecordset ≠ eDBRC_LostConnection := by
  decide

theorem unknown_ne_lost : eDBRC_Unknown ≠ eDBRC_LostConnection := by decide

theorem ok_ne_lost : eDBRC_OK ≠ eDBRC_LostConnection := by decide

section

variable {σ : Type*} (env : HandlerEnv σ) (conn : DbConnection σ)

/-- What one execution of a statement adds to the replies. -/
theorem replies_execute (client : MysqlClient σ) (statement : Statement)
    (wantsRecordset : Bool) :
    (conn.execute client statement wantsRecordset).2.2.replies =
      conn.replies ++ [(client.query statement conn.mysql).1] := rfl

/-- A handler that reports a lost connection saw the code's own number in the
last reply, and no reply before it or itself reported a loss. -/
structure LossFree (code : UInt32) (conn' : DbConnection σ) : Prop where
  exists_replies : ∃ replies, conn'.replies = conn.replies ++ replies ∧
    (code = eDBRC_LostConnection →
      ∀ reply ∈ replies, reply.reportsLoss = false)

theorem LossFree.of_no_statement {code : UInt32}
    (h : code ≠ eDBRC_LostConnection) : LossFree conn code conn :=
  ⟨[], by simp, fun heq => absurd heq h⟩

/-- One statement, whose error decides whether the connection is lost. -/
theorem LossFree.of_execute {code : UInt32} (statement : Statement)
    (wantsRecordset : Bool)
    (h : code = eDBRC_LostConnection →
      resultCode (conn.execute env.client statement wantsRecordset).1.1 =
        eDBRC_LostConnection) :
    LossFree conn code
      (conn.execute env.client statement wantsRecordset).2.2 := by
  refine ⟨[_], replies_execute conn env.client statement wantsRecordset, ?_⟩
  intro hcode reply hreply
  rw [List.mem_singleton] at hreply
  subst hreply
  have herror := (resultCode_eq_lost_iff _).mp (h hcode)
  cases hloss : MysqlReply.reportsLoss
      (env.client.query statement conn.mysql).1 with
  | false => rfl
  | true =>
      exact absurd herror (execute_of_reportsLoss wantsRecordset hloss).1

theorem LossFree.of_ne {code : UInt32} (statement : Statement)
    (wantsRecordset : Bool) (h : code ≠ eDBRC_LostConnection) :
    LossFree conn code
      (conn.execute env.client statement wantsRecordset).2.2 :=
  LossFree.of_execute env conn statement wantsRecordset fun heq =>
    absurd heq h

theorem lossFree_executeFields (statement : String → List FieldInfo → Statement)
    (accepts : UInt64 → Bool) (m : Message) :
    LossFree conn (executeFields env statement accepts m conn).1
      (executeFields env statement accepts m conn).2 := by
  unfold executeFields
  split
  · rename_i table fields htable hfields
    dsimp only
    split
    · exact LossFree.of_execute env conn _ false fun h => h
    · rename_i hok
      split
      · exact LossFree.of_ne env conn _ false ok_ne_lost
      · exact LossFree.of_ne env conn _ false mysqlError_ne_lost
  · exact LossFree.of_no_statement conn protobufError_ne_lost

theorem lossFree_deleteHandler (id : UInt64) (tableName : String) :
    LossFree conn (deleteHandler env id tableName conn).1
      (deleteHandler env id tableName conn).2 := by
  unfold deleteHandler
  split
  · exact LossFree.of_no_statement conn protobufError_ne_lost
  · split
    · exact LossFree.of_no_statement conn protobufError_ne_lost
    · exact LossFree.of_execute env conn _ false fun h => h

theorem lossFree_selectHandler (id : UInt64) (tableName : String) :
    LossFree conn (selectHandler env id tableName conn).1
      (selectHandler env id tableName conn).2.2 := by
  unfold selectHandler
  split
  · exact LossFree.of_no_statement conn protobufError_ne_lost
  · split
    · exact LossFree.of_no_statement conn protobufError_ne_lost
    · dsimp only
      split
      · exact LossFree.of_execute env conn _ true fun h => h
      · split
        · exact LossFree.of_ne env conn _ true mysqlError_ne_lost
        · split
          · exact LossFree.of_ne env conn _ true emptyRecordset_ne_lost
          · split
            · exact LossFree.of_ne env conn _ true protobufError_ne_lost
            · exact LossFree.of_ne env conn _ true ok_ne_lost

theorem lossFree_queryHandler (tableName : String) (whereClause : Bytes)
    (args : List Bytes) :
    LossFree conn (queryHandler env tableName whereClause args conn).1
      (queryHandler env tableName whereClause args conn).2.2 := by
  unfold queryHandler
  dsimp only
  split
  · exact LossFree.of_execute env conn _ true fun h => h
  · split
    · exact LossFree.of_ne env conn _ true mysqlError_ne_lost
    · split
      · exact LossFree.of_ne env conn _ true protobufError_ne_lost
      · split
        · exact LossFree.of_ne env conn _ true protobufError_ne_lost
        · exact LossFree.of_ne env conn _ true ok_ne_lost

/-- The statements of a call before the last one failed with the error that is
tried again after. -/
theorem lossFree_callExecute (sql : Bytes) (n : ℕ) :
    LossFree conn (callExecute env sql n conn).1
      (callExecute env sql n conn).2.2 := by
  induction n generalizing conn with
  | zero => exact LossFree.of_no_statement conn mysqlError_ne_lost
  | succ n ih =>
      unfold callExecute
      dsimp only
      split
      · rename_i hdead
        obtain ⟨replies, hreplies, hfree⟩ :=
          (ih (conn.execute env.client (.call sql) true).2.2).exists_replies
        rw [replies_execute, List.append_assoc] at hreplies
        refine ⟨_, hreplies, fun hcode reply hreply => ?_⟩
        rcases List.mem_append.mp hreply with hfirst | hrest
        · rw [List.mem_singleton] at hfirst
          subst hfirst
          cases hloss : MysqlReply.reportsLoss
              (env.client.query (.call sql) conn.mysql).1 with
          | false => rfl
          | true => exact absurd hdead (execute_of_reportsLoss true hloss).2
        · exact hfree hcode reply hrest
      · split
        · exact LossFree.of_execute env conn _ true fun h => h
        · exact LossFree.of_ne env conn _ true ok_ne_lost

theorem lossFree_onDbCommand (command : DbCommand) :
    LossFree conn (onDbCommand env command conn).1
      (onDbCommand env command conn).2.2 := by
  cases command with
  | query _ tableName whereClause args =>
      exact lossFree_queryHandler env conn tableName whereClause args
  | select id tableName => exact lossFree_selectHandler env conn id tableName
  | insert m => exact lossFree_executeFields env conn .insert (fun n => n = 1) m
  | delete id tableName => exact lossFree_deleteHandler env conn id tableName
  | update m => exact lossFree_executeFields env conn .upsert (fun n => 1 ≤ n) m
  | call _ sql args =>
      exact lossFree_callExecute env conn
        (substituteArgs env.client.escape args sql) nTryDeadloopCount
  | flush => exact LossFree.of_no_statement conn unknown_ne_lost
  | nop => exact LossFree.of_no_statement conn ok_ne_lost

/-- No handler takes a loss the client reports for a lost connection. -/
theorem not_lost_of_reportsLoss {command : DbCommand} {reply : MysqlReply}
    (hreply : reply ∈ commandReplies env command conn)
    (hloss : reply.reportsLoss) :
    (onDbCommand env command conn).1 ≠ eDBRC_LostConnection := by
  intro hcode
  obtain ⟨replies, hreplies, hfree⟩ :=
    (lossFree_onDbCommand env conn command).exists_replies
  rw [commandReplies, hreplies, List.drop_left] at hreply
  rw [hfree hcode reply hreply] at hloss
  cases hloss

end

/-! ## The thread -/

namespace DbThread

variable {σ χ : Type*} (env : HandlerEnv σ) (cache : CacheOps σ χ)
  (t : DbThread DbCommand (DbConnection σ × χ)) (c : SDbCommand DbCommand)
  (rest : List (SDbCommand DbCommand))

/-- The client reports a lost connection while the thread executes the command
because the cache does not answer it. -/
def LossReported : Prop :=
  c.command.isFlush = false ∧
    ∃ response s, cache.onPreCache c.command t.env = (false, response, s) ∧
      ∃ reply ∈ commandReplies env c.command s.1, reply.reportsLoss

/-- The command waits again, before all others, and has no result. -/
def Retried : Prop :=
  (t.process (handlerWork env cache) c rest).1 = .lost ∧
    (t.process (handlerWork env cache) c rest).2.listCommand =
      c :: rest ++ t.listCommand

/-- A command during which the client reports a loss has a result, and never
waits again. -/
theorem exists_result_of_lossReported (h : LossReported env cache t c) :
    ∃ nErrorCode response,
      (t.process (handlerWork env cache) c rest).1 =
          .done nErrorCode response ∧
        (t.process (handlerWork env cache) c rest).2.listCommand =
          t.listCommand := by
  obtain ⟨hflush, response, s, hpre, reply, hreply, hloss⟩ := h
  have hcode := not_lost_of_reportsLoss env s.1 hreply hloss
  have hne : (attempt (handlerWork env cache) c.command t.env).1 ≠ .lost := by
    unfold attempt
    simp only [handlerWork, hpre]
    rw [if_neg (by simp), if_neg hcode]
    split <;> simp
  have hwork : (handlerWork env cache).isFlush c.command = false := hflush
  rcases attempt_cases (handlerWork env cache) c.command t.env with
    hlost | ⟨nErrorCode, result, hdone⟩
  · exact absurd hlost hne
  · obtain ⟨stale, hstale⟩ := exists_readMessage_eq t c.id
    rw [process_of_done _ t c rest hwork hdone, hstale]
    exact ⟨nErrorCode, result, rfl, rfl⟩

/-- A lost connection is retried exactly when the client does not report
it. -/
theorem retried_of_lossReported_iff :
    (LossReported env cache t c → Retried env cache t c rest) ↔
      ¬ LossReported env cache t c := by
  constructor
  · intro h hloss
    obtain ⟨nErrorCode, response, hdone, -⟩ :=
      exists_result_of_lossReported env cache t c rest hloss
    rw [(h hloss).1] at hdone
    cases hdone
  · intro h hloss
    exact absurd hloss h

/-- The server is gone when a call is sent: the call is answered with an error
of the database. -/
theorem not_retried_serverGone :
    LossReported ⟨plainFormat, emptySchema, failingClient 2006⟩ (noCache ℕ)
        (initial (⟨0, []⟩, ())) plainCall ∧
      ¬ Retried ⟨plainFormat, emptySchema, failingClient 2006⟩ (noCache ℕ)
        (initial (⟨0, []⟩, ())) plainCall [] ∧
      ((initial (⟨0, []⟩, ())).process (failingWork 2006) plainCall []).1 =
        .done eDBRC_MysqlError none := by
  have hdone : ((initial (⟨0, []⟩, ())).process (failingWork 2006)
      plainCall []).1 = .done eDBRC_MysqlError none := rfl
  refine ⟨⟨rfl, none, _, rfl, ⟨some 2006, .error 0, [], 0⟩, ?_, rfl⟩, ?_, hdone⟩
  · exact List.mem_cons_self
  · intro h
    have hlost := h.1
    change ((initial (⟨0, []⟩, ())).process (failingWork 2006)
      plainCall []).1 = .lost at hlost
    rw [hdone] at hlost
    cases hlost

end DbThread

end RealtimeEx.Db
