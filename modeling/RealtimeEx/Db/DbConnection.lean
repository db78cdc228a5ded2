import RealtimeEx.Db.Protobuf

/-!
# The connection to the database

This file models `CDbConnection` and `CDbRecordset`.  The MySQL client library
is a parameter: it answers a statement with a reply that says what each of its
functions returns while the statement is executed.

Statements keep their structure, so that a model of the server can say what
they do; `Statement.sql` is the text that is sent.
-/

namespace RealtimeEx.Db

/-! ## Statements -/

/-- The statements the command handlers build. -/
inductive Statement
  | insert (table : String) (fields : List FieldInfo)
  | upsert (table : String) (fields : List FieldInfo)
  | delete (table primaryName : String) (id : UInt64)
  | select (table primaryName : String) (id : UInt64)
  | query (table : String) (clause : Bytes)
  | call (sql : Bytes)
  deriving DecidableEq

def stringBytes (s : String) : Bytes := s.toUTF8.data.toList

/-- The value of a field in a statement. -/
def FieldInfo.sqlValue (escape : Bytes → Bytes) (f : FieldInfo) : Bytes :=
  if f.bStr then [39] ++ escape f.szValue ++ [39] else f.szValue

/-- Texts separated by commas. -/
def commaSeparated : List Bytes → Bytes
  | [] => []
  | [t] => t
  | t :: ts => t ++ [44] ++ commaSeparated ts

/-- The names and the values of an inserted row. -/
def insertClause (escape : Bytes → Bytes) (fields : List FieldInfo) : Bytes :=
  stringBytes "(" ++
    commaSeparated (fields.map fun f => stringBytes f.szName) ++
    stringBytes ") values (" ++
    commaSeparated (fields.map (FieldInfo.sqlValue escape)) ++ stringBytes ")"

/-- The assignments of an update. -/
def updateClause (escape : Bytes → Bytes) (fields : List FieldInfo) : Bytes :=
  commaSeparated (fields.map fun f =>
    stringBytes f.szName ++ stringBytes "=" ++ f.sqlValue escape)

/-- The text of a statement. -/
def Statement.sql (escape : Bytes → Bytes) : Statement → Bytes
  | .insert table fields =>
      stringBytes "insert into " ++ stringBytes table ++
        insertClause escape fields
  | .upsert table fields =>
      stringBytes "insert into " ++ stringBytes table ++
        insertClause escape fields ++
        stringBytes " on duplicate key update " ++ updateClause escape fields
  | .delete table primaryName id =>
      stringBytes "delete from " ++ stringBytes table ++
        stringBytes " where " ++ stringBytes primaryName ++ stringBytes "=" ++
        natText id.toNat ++ stringBytes " limit 1"
  | .select table primaryName id =>
      stringBytes "select * from " ++ stringBytes table ++
        stringBytes " where " ++ stringBytes primaryName ++ stringBytes "=" ++
        natText id.toNat ++ stringBytes " limit 1"
  | .query table clause =>
      if clause = [] then stringBytes "select * from " ++ stringBytes table
      else
        stringBytes "select * from " ++ stringBytes table ++
          stringBytes " where " ++ clause
  | .call sql => sql

/-! ## Record sets -/

/-- A stored result: the names of its columns, and the cells of its rows, in
which `none` is a null.  `behind` is what happens to lie behind a row in
memory. -/
structure Recordset where
  fieldName : List String
  rows : List (List (Option Bytes))
  behind : List (Option Bytes) → ℕ → UInt8 := fun _ _ => 0

/-- The `max_length` of a column: the length of its longest cell. -/
def Recordset.maxLength (r : Recordset) (nCol : ℕ) : ℕ :=
  r.rows.foldl (fun n row =>
    max n (((row[nCol]?).getD none).elim 0 List.length)) 0

/-- The memory of a row from a cell on: the cells follow each other, each with
a zero behind it. -/
def rowMemory : List (Option Bytes) → Bytes
  | [] => []
  | none :: cells => rowMemory cells
  | some cell :: cells => cell ++ 0 :: rowMemory cells

/-- As many bytes as are asked for, from some that are known and others behind
them. -/
def readMemory (bytes : Bytes) (behind : ℕ → UInt8) (nSize : ℕ) : Bytes :=
  (List.range nSize).map fun i => (bytes[i]?).getD (behind (i - bytes.length))

theorem length_readMemory (bytes : Bytes) (behind : ℕ → UInt8) (nSize : ℕ) :
    (readMemory bytes behind nSize).length = nSize := by
  rw [readMemory, List.length_map, List.length_range]

/-- What is known is read as it is. -/
theorem readMemory_append (cell more : Bytes) (behind : ℕ → UInt8) :
    readMemory (cell ++ more) behind cell.length = cell := by
  refine List.ext_getElem (length_readMemory _ _ _) fun i _ hi => ?_
  simp only [readMemory, List.getElem_map, List.getElem_range,
    List.getElem?_append_left hi, List.getElem?_eq_getElem hi, Option.getD_some]

/-- `CDbRecordset::getData` of a row. -/
def Recordset.getData (r : Recordset) (row : List (Option Bytes))
    (nCol : ℕ) : Bytes :=
  match row[nCol]? with
  | some (some _) =>
      readMemory (rowMemory (row.drop nCol)) (r.behind row) (r.maxLength nCol)
  | _ => []

/-- A cell that is as long as its column is read as it is. -/
theorem Recordset.getData_of_length {r : Recordset} {row : List (Option Bytes)}
    {nCol : ℕ} {cell : Bytes} (hcell : row[nCol]? = some (some cell))
    (hlength : r.maxLength nCol = cell.length) : r.getData row nCol = cell := by
  have hdrop : row.drop nCol = some cell :: row.drop (nCol + 1) := by
    obtain ⟨hlt, heq⟩ := List.getElem?_eq_some_iff.mp hcell
    rw [List.drop_eq_getElem_cons hlt, heq]
  unfold Recordset.getData
  rw [hcell]
  dsimp only
  rw [hdrop, hlength, rowMemory, readMemory_append]

/-- The cells of the only row are read as they are. -/
theorem Recordset.getData_of_single {r : Recordset} {row : List (Option Bytes)}
    (h : r.rows = [row]) (nCol : ℕ) :
    r.getData row nCol = ((row[nCol]?).getD none).getD [] := by
  cases hcell : row[nCol]? with
  | none => simp only [Recordset.getData, hcell, Option.getD_none]
  | some cell =>
      cases cell with
      | none => simp only [Recordset.getData, hcell, Option.getD_some, Option.getD_none]
      | some cell =>
          have hlength : r.maxLength nCol = cell.length := by
            unfold Recordset.maxLength
            rw [h, List.foldl_cons, List.foldl_nil, hcell]
            exact Nat.zero_max _
          exact Recordset.getData_of_length hcell hlength

/-! ## The client library -/

/-- What `mysql_next_result` returns for one more result. -/
inductive NextResult
  | result
  | error (nError : UInt32)
  deriving DecidableEq, Repr

/-- What the client reports while one statement is executed. -/
structure MysqlReply where
  /-- The error of `mysql_real_query`, if it fails. -/
  realQuery : Option UInt32
  /-- The result of `mysql_store_result`, or the error number it leaves. -/
  storeResult : Except UInt32 Recordset
  nextResult : List NextResult
  affectedRows : UInt64

/-- The MySQL client library on one connection. -/
structure MysqlClient (σ : Type*) where
  escape : Bytes → Bytes
  query : Statement → σ → MysqlReply × σ

/-- `EMysqlErrorType`, as far as the code tells them apart. -/
def eMET_OK : UInt32 := 0

def eMET_LostConnection : UInt32 := 1

def eMET_Deadloop : UInt32 := 1205

def eMET_Unknwon : UInt32 := 0xFFFFFFFF

/-- A connection: the state of the client, and the replies it has given. -/
structure DbConnection (σ : Type*) where
  mysql : σ
  replies : List MysqlReply

/-- What `execute` returns for a reply.  An error of `mysql_next_result` only
ends the loop over the remaining results. -/
def MysqlReply.execute (reply : MysqlReply) (wantsRecordset : Bool) :
    UInt32 × Option Recordset :=
  match reply.realQuery with
  | some nError => (nError, none)
  | none =>
      match reply.storeResult with
      | .error nError => (nError, none)
      | .ok recordset =>
          if wantsRecordset then (eMET_OK, some recordset)
          else (eMET_Unknwon, none)

/-- `CDbConnection::execute`. -/
def DbConnection.execute {σ : Type*} (client : MysqlClient σ)
    (conn : DbConnection σ) (statement : Statement) (wantsRecordset : Bool) :
    (UInt32 × Option Recordset) × MysqlReply × DbConnection σ :=
  let (reply, mysql) := client.query statement conn.mysql
  (reply.execute wantsRecordset, reply,
    { mysql := mysql, replies := conn.replies ++ [reply] })

end RealtimeEx.Db
