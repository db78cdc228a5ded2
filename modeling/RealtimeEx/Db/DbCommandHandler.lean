import RealtimeEx.Db.DbConnection

/-!
# The command handlers

This file models `onDbCommand` of the seven command handlers: the statement
each builds, how it maps the error of the connection to a result code, and the
response it makes of the record set.
-/

namespace RealtimeEx.Db

/-! ## Commands and results -/

/-- `EDbResultCode`. -/
def eDBRC_OK : UInt32 := 1

def eDBRC_EmptyRecordset : UInt32 := 10

def eDBRC_ProtobufError : UInt32 := 11

def eDBRC_MysqlError : UInt32 := 12

def eDBRC_LostConnection : UInt32 := 14

def eDBRC_Unknown : UInt32 := 15

/-- A command with its request message. -/
inductive DbCommand
  | query (channelID : UInt32) (tableName : String) (whereClause : Bytes)
      (args : List Bytes)
  | select (id : UInt64) (tableName : String)
  | insert (message : Message)
  | delete (id : UInt64) (tableName : String)
  | update (message : Message)
  | call (channelID : UInt32) (sql : Bytes) (args : List Bytes)
  | flush
  | nop (channelID : UInt32)

/-- `eDBCT_Flush` has no request message. -/
def DbCommand.isFlush : DbCommand → Bool
  | .flush => true
  | _ => false

/-- The response messages. -/
inductive DbResponse
  | record (message : Message)
  | recordSet (messages : List Message)
  | resultSet (fieldName : List String) (rows : List (List Bytes))

/-- The message types `createMessage` knows: records, and sets that consist of
one repeated field of records. -/
structure Schema where
  descriptor : String → Option Descriptor
  setOf : String → Option Descriptor

/-- What the handlers work with. -/
structure HandlerEnv (σ : Type*) where
  fmt : TextFormat
  schema : Schema
  client : MysqlClient σ

/-! ## Records as messages -/

/-- The columns of a row are set one after the other. -/
def fillColumns (fmt : TextFormat) (r : Recordset)
    (row : List (Option Bytes)) : List (String × ℕ) → Message →
      Option Message
  | [], m => some m
  | (szFieldName, nCol) :: columns, m => do
      let f ← m.descriptor.findFieldByName szFieldName
      let v ← setFieldValue fmt f (r.getData row nCol)
      fillColumns fmt r row columns (m.setField f.name v)

/-- One row as a message of the given type. -/
def fillRow (fmt : TextFormat) (r : Recordset) (d : Descriptor)
    (row : List (Option Bytes)) : Option Message :=
  fillColumns fmt r row r.fieldName.zipIdx (.empty d)

/-- `fillNormalMessage`, of a record set with at most one row. -/
def fillNormalMessage (fmt : TextFormat) (r : Recordset) (d : Descriptor) :
    Option Message :=
  match r.rows with
  | [] => some (.empty d)
  | [row] => fillRow fmt r d row
  | _ => none

/-- `fillRepeatMessage`; the set must be named after its records. -/
def fillRepeatMessage (fmt : TextFormat) (r : Recordset)
    (szMessageName : String) (d : Descriptor) : Option (List Message) :=
  r.rows.mapM fun row =>
    if d.typeName = szMessageName then fillRow fmt r d row else none

/-! ## Arguments -/

/-- The placeholders of a text are replaced from left to right by the quoted
arguments; what was inserted is not looked at again. -/
def substituteArgs (escape : Bytes → Bytes) : List Bytes → Bytes → Bytes
  | arg :: args, a :: b :: c :: text =>
      if a = 123 ∧ b = 63 ∧ c = 125 then
        [39] ++ escape arg ++ [39] ++ substituteArgs escape args text
      else
        a :: substituteArgs escape (arg :: args) (b :: c :: text)
  | _, text => text

/-! ## The handlers -/

section

variable {σ : Type*} (env : HandlerEnv σ)

/-- How every handler maps an error of the connection. -/
def resultCode (nErrorType : UInt32) : UInt32 :=
  if nErrorType = eMET_LostConnection then eDBRC_LostConnection
  else if nErrorType ≠ eMET_OK then eDBRC_MysqlError
  else eDBRC_OK

/-- The insert and the update handler: a statement made of the fields that are
set, and a condition on the number of affected rows. -/
def executeFields (statement : String → List FieldInfo → Statement)
    (accepts : UInt64 → Bool) (m : Message) (conn : DbConnection σ) :
    UInt32 × DbConnection σ :=
  match getTableNameByMessageName m.descriptor.typeName,
      getMessageFieldInfos env.fmt m with
  | some szTableName, some vecFieldInfo =>
      let ((nErrorType, _), reply, conn) :=
        conn.execute env.client (statement szTableName vecFieldInfo) false
      if resultCode nErrorType ≠ eDBRC_OK then
        (resultCode nErrorType, conn)
      else if accepts reply.affectedRows then
        (eDBRC_OK, conn)
      else
        (eDBRC_MysqlError, conn)
  | _, _ => (eDBRC_ProtobufError, conn)

/-- `CDbCommandInsertHandler`. -/
def insertHandler (m : Message) (conn : DbConnection σ) :
    UInt32 × DbConnection σ :=
  executeFields env .insert (fun n => n = 1) m conn

/-- `CDbCommandUpdateHandler`. -/
def updateHandler (m : Message) (conn : DbConnection σ) :
    UInt32 × DbConnection σ :=
  executeFields env .upsert (fun n => 1 ≤ n) m conn

/-- `CDbCommandDeleteHandler`. -/
def deleteHandler (id : UInt64) (tableName : String) (conn : DbConnection σ) :
    UInt32 × DbConnection σ :=
  match env.schema.descriptor (getMessageNameByTableName tableName) with
  | none => (eDBRC_ProtobufError, conn)
  | some d =>
      if d.primaryKey = "" then
        (eDBRC_ProtobufError, conn)
      else
        let ((nErrorType, _), _, conn) :=
          conn.execute env.client (.delete tableName d.primaryKey id) false
        (resultCode nErrorType, conn)

/-- `CDbCommandSelectHandler`. -/
def selectHandler (id : UInt64) (tableName : String) (conn : DbConnection σ) :
    UInt32 × Option DbResponse × DbConnection σ :=
  match env.schema.descriptor (getMessageNameByTableName tableName) with
  | none => (eDBRC_ProtobufError, none, conn)
  | some d =>
      if d.primaryKey = "" then
        (eDBRC_ProtobufError, none, conn)
      else
        let ((nErrorType, recordset), _, conn) :=
          conn.execute env.client (.select tableName d.primaryKey id) true
        if resultCode nErrorType ≠ eDBRC_OK then
          (resultCode nErrorType, none, conn)
        else
          match recordset with
          | none => (eDBRC_MysqlError, none, conn)
          | some r =>
              if r.rows = [] then
                (eDBRC_EmptyRecordset, none, conn)
              else
                match fillNormalMessage env.fmt r d with
                | none => (eDBRC_ProtobufError, none, conn)
                | some m => (eDBRC_OK, some (.record m), conn)

/-- `CDbCommandQueryHandler`. -/
def queryHandler (tableName : String) (whereClause : Bytes)
    (args : List Bytes) (conn : DbConnection σ) :
    UInt32 × Option DbResponse × DbConnection σ :=
  let clause := substituteArgs env.client.escape args whereClause
  let ((nErrorType, recordset), _, conn) :=
    conn.execute env.client (.query tableName clause) true
  if resultCode nErrorType ≠ eDBRC_OK then
    (resultCode nErrorType, none, conn)
  else
    match recordset with
    | none => (eDBRC_MysqlError, none, conn)
    | some r =>
        let szMessageName := getMessageNameByTableName tableName
        match env.schema.setOf (szMessageName ++ "_set") with
        | none => (eDBRC_ProtobufError, none, conn)
        | some d =>
            match fillRepeatMessage env.fmt r szMessageName d with
            | none => (eDBRC_ProtobufError, none, conn)
            | some ms => (eDBRC_OK, some (.recordSet ms), conn)

/-- `nTryDeadloopCount`. -/
def nTryDeadloopCount : ℕ := 5

/-- The loop of the call handler: a statement the server rolled back is tried
again. -/
def callExecute (sql : Bytes) : ℕ → DbConnection σ →
    UInt32 × Option Recordset × DbConnection σ
  | 0, conn => (eDBRC_MysqlError, none, conn)
  | n + 1, conn =>
      let ((nErrorType, recordset), _, conn) :=
        conn.execute env.client (.call sql) true
      if nErrorType = eMET_Deadloop then
        callExecute sql n conn
      else if resultCode nErrorType ≠ eDBRC_OK then
        (resultCode nErrorType, none, conn)
      else
        (eDBRC_OK, recordset, conn)

/-- The response of a call: the names of the columns and all cells. -/
def resultSet (r : Recordset) : DbResponse :=
  .resultSet r.fieldName
    (r.rows.map fun row =>
      (List.range r.fieldName.length).map fun nCol => r.getData row nCol)

/-- `CDbCommandCallHandler`. -/
def callHandler (sql : Bytes) (args : List Bytes) (conn : DbConnection σ) :
    UInt32 × Option DbResponse × DbConnection σ :=
  let szSQL := substituteArgs env.client.escape args sql
  let (code, recordset, conn) := callExecute env szSQL nTryDeadloopCount conn
  (code, if code = eDBRC_OK then recordset.map resultSet else none, conn)

/-- `CDbCommandHandlerProxy::onDbCommand`. -/
def onDbCommand (command : DbCommand) (conn : DbConnection σ) :
    UInt32 × Option DbResponse × DbConnection σ :=
  match command with
  | .query _ tableName whereClause args =>
      queryHandler env tableName whereClause args conn
  | .select id tableName => selectHandler env id tableName conn
  | .insert m =>
      let (code, conn) := insertHandler env m conn
      (code, none, conn)
  | .delete id tableName =>
      let (code, conn) := deleteHandler env id tableName conn
      (code, none, conn)
  | .update m =>
      let (code, conn) := updateHandler env m conn
      (code, none, conn)
  | .call _ sql args => callHandler env sql args conn
  | .nop _ => (eDBRC_OK, none, conn)
  | .flush => (eDBRC_Unknown, none, conn)

end

end RealtimeEx.Db
