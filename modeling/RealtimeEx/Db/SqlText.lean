import Mathlib.Data.List.Forall2
import RealtimeEx.Db.MessageRoundTrip
import RealtimeEx.Db.Placeholder
import RealtimeEx.Support.Lexer
import RealtimeEx.Support.Wrapping

/-!
# What the texts of statements say

The insert, the update, the delete and the select handler write a statement as text.  This
file reads such a text the way a server does, first as tokens and then as a statement.
-/

namespace RealtimeEx.Db

/-! ## A server's reading -/

/-- The characters of a statement, and what they mean behind a backslash. -/
def mysqlLexicon : Lexicon UInt8 where
  blank := isSpace
  mark c := c = 40 || c = 41 || c = 44 || c = 59 || c = 61
  quote := 39
  escape := 92
  unescape c :=
    if c = 48 then 0
    else if c = 98 then 8
    else if c = 110 then 10
    else if c = 114 then 13
    else if c = 116 then 9
    else if c = 90 then 26
    else c
  quote_plain := by decide
  mark_not_blank := by
    intro b hb
    simp only [Bool.or_eq_true, decide_eq_true_eq] at hb
    obtain (((rfl | rfl) | rfl) | rfl) | rfl := hb <;> decide

/-- A value as it is written. -/
inductive SqlValue
  | number (szValue : Bytes)
  | string (szValue : Bytes)
  deriving DecidableEq

/-- A statement as a server reads it. -/
inductive SqlStatement
  | insert (table : Bytes) (row : List (Bytes × SqlValue))
  | upsert (table : Bytes) (row assignments : List (Bytes × SqlValue))
  | delete (table name : Bytes) (value : SqlValue)
  | select (table name : Bytes) (value : SqlValue)
  deriving DecidableEq

abbrev SqlToken := Token UInt8

/-- A word of the language. -/
def keyword (s : String) : SqlToken := .word (stringBytes s)

def readName : SqlToken → Option Bytes
  | .word w => some w
  | _ => none

def readValue : SqlToken → Option SqlValue
  | .word w => some (.number w)
  | .literal v => some (.string v)
  | .mark _ => none

/-- Items up to a closing bracket, and what follows. -/
def readItems {α : Type} (read : SqlToken → Option α) :
    List SqlToken → Option (List α × List SqlToken)
  | item :: .mark c :: rest => do
      let first ← read item
      if c = 41 then
        some ([first], rest)
      else if c = 44 then
        let (items, rest) ← readItems read rest
        some (first :: items, rest)
      else
        none
  | _ => none

/-- Items in brackets. -/
def readBrackets {α : Type} (read : SqlToken → Option α) :
    List SqlToken → Option (List α × List SqlToken)
  | .mark 40 :: .mark 41 :: rest => some ([], rest)
  | .mark 40 :: rest => readItems read rest
  | _ => none

/-- Assignments up to the end. -/
def readAssignments : List SqlToken → Option (List (Bytes × SqlValue))
  | [.word name, .mark 61, value] => (readValue value).map fun value => [(name, value)]
  | .word name :: .mark 61 :: value :: .mark 44 :: rest => do
      let value ← readValue value
      let assignments ← readAssignments rest
      some ((name, value) :: assignments)
  | _ => none

/-- The names and the values of an insert, and what follows. -/
def readRow (ts : List SqlToken) : Option (List (Bytes × SqlValue) × List SqlToken) := do
  let (names, ts) ← readBrackets readName ts
  match ts with
  | values :: ts =>
      if values = keyword "values" then
        let (values, ts) ← readBrackets readValue ts
        if names.length = values.length then some (names.zip values, ts) else none
      else
        none
  | [] => none

/-- A condition of a single row. -/
def readCondition : List SqlToken → Option (Bytes × SqlValue)
  | [whereWord, .word name, .mark 61, value, limitWord, one] =>
      if whereWord = keyword "where" ∧ limitWord = keyword "limit" ∧ one = keyword "1" then
        (readValue value).map (name, ·)
      else
        none
  | _ => none

def readInsert (table : Bytes) (ts : List SqlToken) : Option SqlStatement := do
  let (row, ts) ← readRow ts
  match ts with
  | [] => some (.insert table row)
  | on :: duplicate :: key :: update :: ts =>
      if on = keyword "on" ∧ duplicate = keyword "duplicate" ∧ key = keyword "key" ∧
          update = keyword "update" then
        (readAssignments ts).map (.upsert table row)
      else
        none
  | _ => none

def readStatement : List SqlToken → Option SqlStatement
  | first :: second :: third :: fourth :: ts =>
      if first = keyword "insert" ∧ second = keyword "into" then
        (readName third).bind fun table => readInsert table (fourth :: ts)
      else if first = keyword "delete" ∧ second = keyword "from" then do
        let table ← readName third
        let (name, value) ← readCondition (fourth :: ts)
        some (.delete table name value)
      else if first = keyword "select" ∧ second = keyword "*" ∧ third = keyword "from" then do
        let table ← readName fourth
        let (name, value) ← readCondition ts
        some (.select table name value)
      else
        none
  | _ => none

/-- The statement a text says. -/
def readSql (sql : Bytes) : Option SqlStatement := (mysqlLexicon.lex sql).bind readStatement

/-! ## What the handlers mean -/

def FieldInfo.sqlMeaning (f : FieldInfo) : SqlValue :=
  if f.bStr then .string f.szValue else .number f.szValue

/-- The columns that are written. -/
def sqlRow (fields : List FieldInfo) : List (Bytes × SqlValue) :=
  fields.map fun f => (stringBytes f.szName, f.sqlMeaning)

/-- The statements that are made of fields or of a key. -/
def Statement.meaning : Statement → Option SqlStatement
  | .insert table fields => some (.insert (stringBytes table) (sqlRow fields))
  | .upsert table fields => some (.upsert (stringBytes table) (sqlRow fields) (sqlRow fields))
  | .delete table primaryName id =>
      some (.delete (stringBytes table) (stringBytes primaryName) (.number (natText id.toNat)))
  | .select table primaryName id =>
      some (.select (stringBytes table) (stringBytes primaryName) (.number (natText id.toNat)))
  | .query _ _ => none
  | .call _ => none

/-- A name that can be written as it is. -/
def IsName (s : String) : Prop := mysqlLexicon.IsWord (stringBytes s)

/-- The name of a field can be written as it is, and so can its value if it is no string. -/
structure FieldInfo.Writable (f : FieldInfo) : Prop where
  name : IsName f.szName
  value : f.bStr = false → mysqlLexicon.IsWord f.szValue

/-- The names and the numbers of a statement can be written as they are, and an update sets
something. -/
def Statement.Writable : Statement → Prop
  | .insert table fields => IsName table ∧ ∀ f ∈ fields, f.Writable
  | .upsert table fields => IsName table ∧ fields ≠ [] ∧ ∀ f ∈ fields, f.Writable
  | .delete table primaryName _ => IsName table ∧ IsName primaryName
  | .select table primaryName _ => IsName table ∧ IsName primaryName
  | .query _ _ => False
  | .call _ => False

/-! ## Tokens of a statement -/

section

variable {escape : Bytes → Bytes} {f : FieldInfo} {fields : List FieldInfo}

def FieldInfo.nameToken (f : FieldInfo) : SqlToken := .word (stringBytes f.szName)

def FieldInfo.valueToken (f : FieldInfo) : SqlToken :=
  if f.bStr then .literal f.szValue else .word f.szValue

theorem commaSeparated_eq (ts : List Bytes) : commaSeparated ts = [44].intercalate ts := by
  induction ts with
  | nil => rfl
  | cons t ts ih =>
      cases ts with
      | nil => rw [List.intercalate_singleton]; rfl
      | cons t' ts => rw [commaSeparated, ih, List.intercalate_cons_cons]; simp

theorem lex_sqlValue (hescape : ∀ v, mysqlLexicon.Escapes (escape v) v) (h : f.Writable) :
    mysqlLexicon.lex (f.sqlValue escape) = some [f.valueToken] := by
  rw [FieldInfo.sqlValue, FieldInfo.valueToken]
  split
  · exact Lexicon.lex_literal (hescape f.szValue)
  · rename_i hnumber
    exact Lexicon.lex_word (h.value (eq_false_of_ne_true hnumber))

/-- Tokens with commas between them. -/
def listed (tokens : List (List SqlToken)) : List SqlToken := [Token.mark 44].intercalate tokens

/-- A list of fields, each written in some way. -/
theorem lex_commaSeparated (text : FieldInfo → Bytes) (tokens : FieldInfo → List SqlToken)
    (h : ∀ f ∈ fields, mysqlLexicon.lex (text f) = some (tokens f)) :
    mysqlLexicon.lex (commaSeparated (fields.map text)) = some (listed (fields.map tokens)) := by
  rw [commaSeparated_eq]
  refine Lexicon.lex_intercalate (by decide) ?_
  rw [List.forall₂_map_left_iff, List.forall₂_map_right_iff, List.forall₂_same]
  exact h

/-- The tokens of the names and the values. -/
def rowTokens (fields : List FieldInfo) : List SqlToken :=
  [.mark 40] ++ listed (fields.map fun f => [f.nameToken]) ++
    [.mark 41, keyword "values", .mark 40] ++ listed (fields.map fun f => [f.valueToken]) ++
    [.mark 41]

theorem lex_insertClause (hescape : ∀ v, mysqlLexicon.Escapes (escape v) v)
    (h : ∀ f ∈ fields, f.Writable) :
    mysqlLexicon.lex (insertClause escape fields) = some (rowTokens fields) := by
  have hnames := lex_commaSeparated (fun f => stringBytes f.szName)
    (fun f => [f.nameToken]) fun f hf => Lexicon.lex_word (h f hf).name
  have hvalues := lex_commaSeparated (FieldInfo.sqlValue escape)
    (fun f => [f.valueToken]) fun f hf => lex_sqlValue hescape (h f hf)
  have hopen : mysqlLexicon.Separates (stringBytes "(") [.mark 40] := rfl
  have hmiddle : mysqlLexicon.Separates (stringBytes ") values (")
      [.mark 41, keyword "values", .mark 40] := rfl
  have hclose : mysqlLexicon.lex (stringBytes ")") = some [.mark 41] := rfl
  have hends : mysqlLexicon.Ends (stringBytes ")") := by
    rw [← List.append_nil (stringBytes ")")]
    exact Lexicon.ends_append rfl
  rw [insertClause, List.append_assoc, List.append_assoc, List.append_assoc,
    Lexicon.lex_append_of_separates hopen,
    Lexicon.lex_append_of_ends hnames (Lexicon.ends_append rfl),
    Lexicon.lex_append_of_separates hmiddle, Lexicon.lex_append_of_ends hvalues hends, hclose]
  simp [rowTokens]

/-! ## Reading the tokens -/

theorem readName_nameToken (f : FieldInfo) : readName f.nameToken = some (stringBytes f.szName) :=
  rfl

theorem readValue_valueToken (f : FieldInfo) : readValue f.valueToken = some f.sqlMeaning := by
  rw [FieldInfo.valueToken, FieldInfo.sqlMeaning]
  split <;> rfl

theorem listed_cons (ts ts' : List SqlToken) (tokens : List (List SqlToken)) :
    listed (ts :: ts' :: tokens) = ts ++ .mark 44 :: listed (ts' :: tokens) := by
  rw [listed, List.intercalate_cons_cons, List.append_assoc]
  rfl

/-- A list of fields with a token for each is read up to its bracket. -/
theorem readItems_listed {α : Type} {read : SqlToken → Option α} {token : FieldInfo → SqlToken}
    {value : FieldInfo → α} (hread : ∀ f, read (token f) = some (value f)) (f : FieldInfo)
    (fields : List FieldInfo) (rest : List SqlToken) :
    readItems read (listed ((f :: fields).map fun f => [token f]) ++ .mark 41 :: rest) =
      some ((f :: fields).map value, rest) := by
  induction fields generalizing f with
  | nil => simp [listed, readItems, hread]
  | cons g fields ih =>
      have hrest := ih g
      simp only [List.map_cons] at hrest ⊢
      rw [listed_cons, List.append_assoc, List.singleton_append, List.cons_append, readItems,
        hread, hrest]
      rfl

theorem readBrackets_listed {α : Type} {read : SqlToken → Option α}
    {token : FieldInfo → SqlToken} {value : FieldInfo → α}
    (hread : ∀ f, read (token f) = some (value f)) (hmark : read (.mark 41) = none)
    (fields : List FieldInfo) (rest : List SqlToken) :
    readBrackets read (.mark 40 :: (listed (fields.map fun f => [token f]) ++ .mark 41 :: rest)) =
      some (fields.map value, rest) := by
  cases fields with
  | nil => rfl
  | cons f fields =>
      have hitems := readItems_listed hread f fields rest
      have hhead : ∃ more, listed ((f :: fields).map fun f => [token f]) ++ .mark 41 :: rest =
          token f :: more := by
        cases fields with
        | nil => exact ⟨_, rfl⟩
        | cons g fields => exact ⟨_, by rw [List.map_cons, List.map_cons, listed_cons]; rfl⟩
      obtain ⟨more, hmore⟩ := hhead
      have hne : token f ≠ .mark 41 := by
        intro heq
        have hvalue := hread f
        rw [heq, hmark] at hvalue
        cases hvalue
      rw [hmore] at hitems ⊢
      rw [readBrackets, hitems]
      intro rest' heq
      exact hne (List.cons.inj heq).1

theorem readRow_rowTokens (fields : List FieldInfo) (rest : List SqlToken) :
    readRow (rowTokens fields ++ rest) = some (sqlRow fields, rest) := by
  have hnames := readBrackets_listed readName_nameToken rfl fields
    (keyword "values" :: .mark 40 ::
      (listed (fields.map fun f => [f.valueToken]) ++ .mark 41 :: rest))
  have hvalues := readBrackets_listed readValue_valueToken rfl fields rest
  have htokens : rowTokens fields ++ rest =
      .mark 40 :: (listed (fields.map fun f => [f.nameToken]) ++
        .mark 41 :: keyword "values" :: .mark 40 ::
          (listed (fields.map fun f => [f.valueToken]) ++ .mark 41 :: rest)) := by
    simp [rowTokens]
  have hrow : (fields.map fun f => stringBytes f.szName).zip (fields.map FieldInfo.sqlMeaning) =
      sqlRow fields := List.zip_map' ..
  rw [htokens, readRow, hnames]
  simp only [Option.bind_eq_bind, Option.bind_some, hvalues, if_true, List.length_map, hrow]

/-- The tokens of an assignment. -/
def FieldInfo.assignmentTokens (f : FieldInfo) : List SqlToken :=
  [f.nameToken, .mark 61, f.valueToken]

theorem readAssignments_listed (f : FieldInfo) :
    readAssignments (listed ((f :: fields).map FieldInfo.assignmentTokens)) =
      some (sqlRow (f :: fields)) := by
  induction fields generalizing f with
  | nil =>
      rw [List.map_singleton, listed, List.intercalate_singleton, FieldInfo.assignmentTokens,
        FieldInfo.nameToken, readAssignments, readValue_valueToken]
      rfl
  | cons g fields ih =>
      have hrest := ih g
      simp only [List.map_cons] at hrest ⊢
      rw [listed_cons, FieldInfo.assignmentTokens, FieldInfo.nameToken]
      simp only [List.cons_append, List.nil_append, readAssignments, readValue_valueToken]
      rw [hrest]
      rfl

/-! ## Statements -/

theorem lex_assignment (hescape : ∀ v, mysqlLexicon.Escapes (escape v) v) (h : f.Writable) :
    mysqlLexicon.lex (stringBytes f.szName ++ stringBytes "=" ++ f.sqlValue escape) =
      some f.assignmentTokens := by
  have hequal : mysqlLexicon.Separates (stringBytes "=") [.mark 61] := rfl
  rw [List.append_assoc, Lexicon.lex_append_of_ends (Lexicon.lex_word h.name)
    (Lexicon.ends_append rfl), Lexicon.lex_append_of_separates hequal, lex_sqlValue hescape h]
  rfl

theorem lex_insert (hescape : ∀ v, mysqlLexicon.Escapes (escape v) v) {table : String}
    (htable : IsName table) (h : ∀ f ∈ fields, f.Writable) (back : Bytes)
    (hback : mysqlLexicon.Ends back) :
    mysqlLexicon.lex (stringBytes "insert into " ++
        (stringBytes table ++ (insertClause escape fields ++ back))) =
      (mysqlLexicon.lex back).map (keyword "insert" :: keyword "into" ::
        .word (stringBytes table) :: rowTokens fields ++ ·) := by
  have hinsert : mysqlLexicon.Separates (stringBytes "insert into ")
      [keyword "insert", keyword "into"] := rfl
  have hclause : mysqlLexicon.Ends (insertClause escape fields ++ back) := by
    rw [insertClause, List.append_assoc, List.append_assoc, List.append_assoc,
      List.append_assoc]
    exact Lexicon.ends_append rfl
  rw [Lexicon.lex_append_of_separates hinsert,
    Lexicon.lex_append_of_ends (Lexicon.lex_word htable) hclause,
    Lexicon.lex_append_of_ends (lex_insertClause hescape h) hback, Option.map_map,
    Option.map_map]
  rfl

/-- The tokens of a condition of a single row. -/
def conditionTokens (primaryName : String) (id : UInt64) : List SqlToken :=
  [keyword "where", .word (stringBytes primaryName), .mark 61, .word (natText id.toNat),
    keyword "limit", keyword "1"]

theorem isWord_natText (n : ℕ) : mysqlLexicon.IsWord (natText n) := by
  refine ⟨natText_ne_nil n, fun c hc => ?_⟩
  have hdigit := isDigit_of_mem_natText c hc
  clear hc
  revert c
  refine forall_byte ?_
  decide +kernel

theorem lex_condition {table primaryName : String} (htable : IsName table)
    (hprimary : IsName primaryName) (id : UInt64) :
    mysqlLexicon.lex (stringBytes table ++ (stringBytes " where " ++ (stringBytes primaryName ++
        (stringBytes "=" ++ (natText id.toNat ++ stringBytes " limit 1"))))) =
      some (.word (stringBytes table) :: conditionTokens primaryName id) := by
  have hwhere : mysqlLexicon.Separates (stringBytes " where ") [keyword "where"] := rfl
  have hequal : mysqlLexicon.Separates (stringBytes "=") [.mark 61] := rfl
  have hlimit : mysqlLexicon.lex (stringBytes " limit 1") = some [keyword "limit", keyword "1"] :=
    rfl
  have hends : mysqlLexicon.Ends (stringBytes " limit 1") := by
    rw [← List.append_nil (stringBytes " limit 1")]
    exact Lexicon.ends_append rfl
  rw [Lexicon.lex_append_of_ends (Lexicon.lex_word htable) (Lexicon.ends_append rfl),
    Lexicon.lex_append_of_separates hwhere,
    Lexicon.lex_append_of_ends (Lexicon.lex_word hprimary) (Lexicon.ends_append rfl),
    Lexicon.lex_append_of_separates hequal,
    Lexicon.lex_append_of_ends (Lexicon.lex_word (isWord_natText _)) hends, hlimit]
  rfl

theorem readStatement_insert (table : String) (fields : List FieldInfo)
    (rest : List SqlToken) :
    readStatement (keyword "insert" :: keyword "into" :: .word (stringBytes table) ::
        (rowTokens fields ++ rest)) =
      readInsert (stringBytes table) (rowTokens fields ++ rest) := by
  have hbracket : ∃ more, rowTokens fields ++ rest = .mark 40 :: more := ⟨_, rfl⟩
  obtain ⟨more, hmore⟩ := hbracket
  rw [hmore]
  rfl

/-- The text of a statement says what is meant. -/
theorem readSql_sql (hescape : ∀ v, mysqlLexicon.Escapes (escape v) v) {statement : Statement}
    (h : statement.Writable) : readSql (statement.sql escape) = statement.meaning := by
  cases statement with
  | insert table fields =>
      obtain ⟨htable, hfields⟩ := h
      have hlex := lex_insert hescape htable hfields [] (fun b hb => nomatch hb)
      have hrow := readRow_rowTokens fields []
      have hnothing : mysqlLexicon.lex [] = some [] := rfl
      rw [List.append_nil, hnothing] at hlex
      rw [readSql, Statement.sql, List.append_assoc, hlex, Option.map_some, Option.bind_some]
      rw [List.cons_append, List.cons_append, List.cons_append, readStatement_insert, readInsert,
        hrow]
      rfl
  | upsert table fields =>
      obtain ⟨htable, hne, hfields⟩ := h
      obtain ⟨f, fields, rfl⟩ := List.exists_cons_of_ne_nil hne
      have hupdate : mysqlLexicon.Separates (stringBytes " on duplicate key update ")
          [keyword "on", keyword "duplicate", keyword "key", keyword "update"] := rfl
      have hassignments : mysqlLexicon.lex (updateClause escape (f :: fields)) =
          some (listed ((f :: fields).map FieldInfo.assignmentTokens)) :=
        lex_commaSeparated _ _ fun g hg => lex_assignment hescape (hfields g hg)
      have hlex := lex_insert hescape htable hfields
        (stringBytes " on duplicate key update " ++ updateClause escape (f :: fields))
        (Lexicon.ends_append rfl)
      have hrow := readRow_rowTokens (f :: fields)
        ([keyword "on", keyword "duplicate", keyword "key", keyword "update"] ++
          listed ((f :: fields).map FieldInfo.assignmentTokens))
      rw [Lexicon.lex_append_of_separates hupdate, hassignments] at hlex
      rw [readSql, Statement.sql, List.append_assoc, List.append_assoc, List.append_assoc, hlex,
        Option.map_some, Option.map_some, Option.bind_some, List.cons_append, List.cons_append,
        List.cons_append, readStatement_insert, readInsert, hrow]
      simp only [Option.bind_eq_bind, Option.bind_some, List.cons_append, List.nil_append,
        and_self, if_true, readAssignments_listed]
      rfl
  | delete table primaryName id =>
      obtain ⟨htable, hprimary⟩ := h
      have hdelete : mysqlLexicon.Separates (stringBytes "delete from ")
          [keyword "delete", keyword "from"] := rfl
      have hcondition := lex_condition htable hprimary id
      rw [readSql, Statement.sql]
      simp only [List.append_assoc]
      rw [Lexicon.lex_append_of_separates hdelete, hcondition]
      rfl
  | select table primaryName id =>
      obtain ⟨htable, hprimary⟩ := h
      have hselect : mysqlLexicon.Separates (stringBytes "select * from ")
          [keyword "select", keyword "*", keyword "from"] := rfl
      have hcondition := lex_condition htable hprimary id
      rw [readSql, Statement.sql]
      simp only [List.append_assoc]
      rw [Lexicon.lex_append_of_separates hselect, hcondition]
      rfl
  | query table clause => exact h.elim
  | call sql => exact h.elim

end

/-! ## What the handlers send -/

section

variable {σ : Type*}

/-- What is assumed of the libraries: an escaped value is read as the value, a floating point
number is written as a word, and the names of message types are words. -/
structure HandlerEnv.Writes (env : HandlerEnv σ) : Prop where
  escape : ∀ v, mysqlLexicon.Escapes (env.client.escape v) v
  double : ∀ bits, mysqlLexicon.IsWord (env.fmt.doubleText bits)
  float : ∀ bits, mysqlLexicon.IsWord (env.fmt.floatText bits)
  table : ∀ t d, env.schema.descriptor (getMessageNameByTableName t) = some d →
    IsName t ∧ (d.primaryKey ≠ "" → IsName d.primaryKey)

/-- The names of a message are words, and its fields have values of their kinds. -/
structure Message.Writable (m : Message) : Prop where
  typed : m.Typed
  unique : m.descriptor.NamesUnique
  table : ∀ t, getTableNameByMessageName m.descriptor.typeName = some t → IsName t
  fields : ∀ f ∈ m.descriptor.fields, IsName f.name

/-- The commands that are about records. -/
def DbCommand.Writable : DbCommand → Prop
  | .insert m => m.Writable
  | .update m => m.Writable ∧ ∃ f ∈ m.descriptor.fields, m.field f.name ≠ none
  | .delete _ _ => True
  | .select _ _ => True
  | .nop _ => True
  | .flush => True
  | .query _ _ _ _ => False
  | .call _ _ _ => False

/-- The statement that is meant by a command, if the handler does not refuse it. -/
def DbCommand.meaning (env : HandlerEnv σ) : DbCommand → Option SqlStatement
  | .insert m => do
      let table ← getTableNameByMessageName m.descriptor.typeName
      let fields ← getMessageFieldInfos env.fmt m
      some (.insert (stringBytes table) (sqlRow fields))
  | .update m => do
      let table ← getTableNameByMessageName m.descriptor.typeName
      let fields ← getMessageFieldInfos env.fmt m
      some (.upsert (stringBytes table) (sqlRow fields) (sqlRow fields))
  | .delete id tableName => do
      let d ← env.schema.descriptor (getMessageNameByTableName tableName)
      if d.primaryKey = "" then
        none
      else
        some (.delete (stringBytes tableName) (stringBytes d.primaryKey)
          (.number (natText id.toNat)))
  | .select id tableName => do
      let d ← env.schema.descriptor (getMessageNameByTableName tableName)
      if d.primaryKey = "" then
        none
      else
        some (.select (stringBytes tableName) (stringBytes d.primaryKey)
          (.number (natText id.toNat)))
  | _ => none

variable {env : HandlerEnv σ} {m : Message}

theorem isWord_intText (n : ℤ) : mysqlLexicon.IsWord (intText n) := by
  rw [intText]
  split
  · obtain ⟨-, hplain⟩ := isWord_natText n.natAbs
    refine ⟨List.cons_ne_nil _ _, fun c hc => ?_⟩
    rcases List.mem_cons.mp hc with rfl | hc
    · decide
    · exact hplain c hc
  · exact isWord_natText _

/-- What is written without quotes is a number. -/
theorem writable_getFieldInfo (henv : env.Writes) {f : FieldDescriptor} {v : FieldValue}
    {info : FieldInfo} (hname : IsName f.name) (htype : v.hasType f.type)
    (h : getFieldInfo env.fmt f v = some info) : info.Writable := by
  refine ⟨szName_getFieldInfo h ▸ hname, fun hnumber => ?_⟩
  obtain ⟨name, type, serializeType, required⟩ := f
  have hbasic : ∀ szValue, mysqlLexicon.IsWord szValue →
      getBasicTypeFieldValue env.fmt v = some szValue → type ≠ .message →
      mysqlLexicon.IsWord info.szValue := by
    intro szValue hword hvalue hother
    have hinfo : getFieldInfo env.fmt ⟨name, type, serializeType, required⟩ v =
        (getBasicTypeFieldValue env.fmt v).map fun szValue =>
          ⟨name, szValue, type = .string ∨ type = .bytes⟩ := by
      cases type <;> first | rfl | exact absurd rfl hother
    rw [hinfo, hvalue] at h
    obtain rfl := Option.some.inj h
    exact hword
  cases v with
  | int32 v =>
      refine hbasic _ (isWord_intText v.toInt) rfl ?_
      rintro rfl
      cases htype
  | uint32 v =>
      refine hbasic _ (isWord_natText v.toNat) rfl ?_
      rintro rfl
      cases htype
  | int64 v =>
      refine hbasic _ (isWord_intText v.toInt) rfl ?_
      rintro rfl
      cases htype
  | uint64 v =>
      refine hbasic _ (isWord_natText v.toNat) rfl ?_
      rintro rfl
      cases htype
  | double bits =>
      refine hbasic _ (henv.double bits) rfl ?_
      rintro rfl
      cases htype
  | float bits =>
      refine hbasic _ (henv.float bits) rfl ?_
      rintro rfl
      cases htype
  | string v =>
      -- only strings and bytes have such a value, and they are quoted
      have hquoted : type = .string ∨ type = .bytes := by
        cases type <;> first | exact .inl rfl | exact .inr rfl | cases htype
      rcases hquoted with rfl | rfl
      · obtain rfl := Option.some.inj h
        cases (show true = false from hnumber)
      · obtain rfl := Option.some.inj h
        cases (show true = false from hnumber)
  | message data =>
      have hkind : type = .message ∨ type = .group := by
        cases type <;> first | exact .inl rfl | exact .inr rfl | cases htype
      rcases hkind with rfl | rfl
      · cases serializeType with
        | unknown => cases h
        | json =>
            obtain ⟨szBuf, -, rfl⟩ := Option.map_eq_some_iff.mp h
            cases (show true = false from hnumber)
        | protobufBin =>
            obtain ⟨szBuf, -, rfl⟩ := Option.map_eq_some_iff.mp h
            cases (show true = false from hnumber)
      · cases h
  | bool v =>
      rw [getFieldInfo.eq_def] at h
      cases type <;> cases h
  | enum v =>
      rw [getFieldInfo.eq_def] at h
      cases type <;> cases h

theorem writable_getFieldInfos (henv : env.Writes) (hm : m.Writable)
    {fs : List FieldDescriptor} (hfs : ∀ f ∈ fs, f ∈ m.descriptor.fields)
    {infos : List FieldInfo} (h : getFieldInfos env.fmt m fs = some infos) :
    ∀ info ∈ infos, info.Writable := by
  induction fs generalizing infos with
  | nil =>
      obtain rfl := Option.some.inj h
      intro info hinfo
      cases hinfo
  | cons f fs ih =>
      have hrest : ∀ g ∈ fs, g ∈ m.descriptor.fields :=
        fun g hg => hfs g (List.mem_cons_of_mem f hg)
      have hfield := hfs f List.mem_cons_self
      rcases getFieldInfos_cons h with ⟨-, hlater⟩ | ⟨v, info, infos, hv, hinfo, hlater, rfl⟩
      · exact ih hrest hlater
      · have htype := hm.typed.hasType (find_name_of_nodup hm.unique hfield) hv
        intro other hother
        rcases List.mem_cons.mp hother with rfl | hother
        · exact writable_getFieldInfo henv (hm.fields f hfield) htype hinfo
        · exact ih hrest hlater other hother

/-- A message in which a field is set has a text. -/
theorem getFieldInfos_ne_nil {fs : List FieldDescriptor} {infos : List FieldInfo}
    (h : getFieldInfos env.fmt m fs = some infos) {f : FieldDescriptor} (hf : f ∈ fs)
    (hset : m.field f.name ≠ none) : infos ≠ [] := by
  induction fs generalizing infos with
  | nil => cases hf
  | cons g fs ih =>
      rcases getFieldInfos_cons h with ⟨hnone, hlater⟩ | ⟨v, info, infos, -, -, -, rfl⟩
      · rcases List.mem_cons.mp hf with rfl | hf
        · exact absurd hnone hset
        · exact ih hlater hf
      · exact List.cons_ne_nil _ _

variable (env m) in
/-- The insert and the update handler send one statement, or they refuse the message. -/
theorem sentStatements_executeFields (statement : String → List FieldInfo → Statement)
    (accepts : UInt64 → Bool) (mysql : σ) :
    (executeFields env.noting statement accepts m
        { mysql := (mysql, []), replies := [] }).2.mysql.2 =
      match getTableNameByMessageName m.descriptor.typeName, getMessageFieldInfos env.fmt m with
      | some table, some fields => [statement table fields]
      | _, _ => [] := by
  unfold executeFields
  have hfmt : env.noting.fmt = env.fmt := rfl
  rw [hfmt]
  cases getTableNameByMessageName m.descriptor.typeName with
  | none => rfl
  | some table =>
      cases getMessageFieldInfos env.fmt m with
      | none => rfl
      | some fields =>
          dsimp only
          split
          · rfl
          · split <;> rfl

theorem sentStatements_delete (id : UInt64) (tableName : String) (mysql : σ) :
    sentStatements env (.delete id tableName) mysql =
      match env.schema.descriptor (getMessageNameByTableName tableName) with
      | none => []
      | some d => if d.primaryKey = "" then [] else [.delete tableName d.primaryKey id] := by
  have hschema : env.noting.schema = env.schema := rfl
  unfold sentStatements onDbCommand deleteHandler
  rw [hschema]
  cases hd : env.schema.descriptor (getMessageNameByTableName tableName) with
  | none => simp only [hd]
  | some d =>
      simp only [hd]
      split
      · rfl
      · rfl

theorem sentStatements_select (id : UInt64) (tableName : String) (mysql : σ) :
    sentStatements env (.select id tableName) mysql =
      match env.schema.descriptor (getMessageNameByTableName tableName) with
      | none => []
      | some d => if d.primaryKey = "" then [] else [.select tableName d.primaryKey id] := by
  have hschema : env.noting.schema = env.schema := rfl
  unfold sentStatements onDbCommand selectHandler
  rw [hschema]
  cases hd : env.schema.descriptor (getMessageNameByTableName tableName) with
  | none => simp only [hd]
  | some d =>
      simp only [hd]
      split
      · rfl
      · split
        · rfl
        · split
          · rfl
          · split
            · rfl
            · split <;> rfl

/-- A statement made of the fields of a message is read, if there is one. -/
theorem map_readSql_record {statement : String → List FieldInfo → Statement}
    {said : String → List FieldInfo → SqlStatement}
    (h : ∀ table fields, getTableNameByMessageName m.descriptor.typeName = some table →
      getMessageFieldInfos env.fmt m = some fields →
        readSql ((statement table fields).sql env.client.escape) = some (said table fields)) :
    (match getTableNameByMessageName m.descriptor.typeName, getMessageFieldInfos env.fmt m with
      | some table, some fields => [statement table fields]
      | _, _ => []).map (fun st : Statement => readSql (st.sql env.client.escape)) =
      ((getTableNameByMessageName m.descriptor.typeName).bind fun table =>
        (getMessageFieldInfos env.fmt m).bind fun fields =>
          some (said table fields)).toList.map some := by
  cases htable : getTableNameByMessageName m.descriptor.typeName with
  | none => rfl
  | some table =>
      cases hfields : getMessageFieldInfos env.fmt m with
      | none => rfl
      | some fields => exact congrArg (fun r => [r]) (h table fields htable hfields)

variable (env) in
/-- A statement made of a key is read, if there is one. -/
theorem map_readSql_key {tableName : String} (statement : String → Statement)
    (said : String → SqlStatement)
    (h : ∀ d, env.schema.descriptor (getMessageNameByTableName tableName) = some d →
      d.primaryKey ≠ "" →
        readSql ((statement d.primaryKey).sql env.client.escape) = some (said d.primaryKey)) :
    (match env.schema.descriptor (getMessageNameByTableName tableName) with
      | none => []
      | some d => if d.primaryKey = "" then [] else [statement d.primaryKey]).map
        (fun st : Statement => readSql (st.sql env.client.escape)) =
      ((env.schema.descriptor (getMessageNameByTableName tableName)).bind fun d =>
        if d.primaryKey = "" then none else some (said d.primaryKey)).toList.map some := by
  cases hd : env.schema.descriptor (getMessageNameByTableName tableName) with
  | none => rfl
  | some d =>
      by_cases hkey : d.primaryKey = ""
      · simp [hkey]
      · simpa [hkey] using h d hd hkey

/-- A server reads the statement that is meant by an insert, an update, a delete or a select,
whatever is written into the fields; a command that is refused sends nothing. -/
theorem readSql_sentStatements (henv : env.Writes) {command : DbCommand}
    (h : command.Writable) (mysql : σ) :
    (sentStatements env command mysql).map (fun st => readSql (st.sql env.client.escape)) =
      (command.meaning env).toList.map some := by
  cases command with
  | insert m =>
      have hread : ∀ table fields, getTableNameByMessageName m.descriptor.typeName = some table →
          getMessageFieldInfos env.fmt m = some fields →
            readSql ((Statement.insert table fields).sql env.client.escape) =
              some (.insert (stringBytes table) (sqlRow fields)) :=
        fun table fields htable hfields => readSql_sql henv.escape
          ⟨h.table table htable, writable_getFieldInfos henv h (fun _ hf => hf) hfields⟩
      have hsent : sentStatements env (.insert m) mysql = _ :=
        sentStatements_executeFields env m .insert (fun n => n = 1) mysql
      rw [hsent]
      exact map_readSql_record hread
  | update m =>
      obtain ⟨hm, f, hf, hset⟩ := h
      have hread : ∀ table fields, getTableNameByMessageName m.descriptor.typeName = some table →
          getMessageFieldInfos env.fmt m = some fields →
            readSql ((Statement.upsert table fields).sql env.client.escape) =
              some (.upsert (stringBytes table) (sqlRow fields) (sqlRow fields)) :=
        fun table fields htable hfields => readSql_sql henv.escape
          ⟨hm.table table htable, getFieldInfos_ne_nil hfields hf hset,
            writable_getFieldInfos henv hm (fun _ hf => hf) hfields⟩
      have hsent : sentStatements env (.update m) mysql = _ :=
        sentStatements_executeFields env m .upsert (fun n => 1 ≤ n) mysql
      rw [hsent]
      exact map_readSql_record hread
  | delete id tableName =>
      rw [sentStatements_delete]
      refine map_readSql_key env (fun name => .delete tableName name id)
        (fun name => .delete (stringBytes tableName) (stringBytes name)
          (.number (natText id.toNat))) ?_
      intro d hd hkey
      obtain ⟨htable, hprimary⟩ := henv.table tableName d hd
      exact readSql_sql henv.escape ⟨htable, hprimary hkey⟩
  | select id tableName =>
      rw [sentStatements_select]
      refine map_readSql_key env (fun name => .select tableName name id)
        (fun name => .select (stringBytes tableName) (stringBytes name)
          (.number (natText id.toNat))) ?_
      intro d hd hkey
      obtain ⟨htable, hprimary⟩ := henv.table tableName d hd
      exact readSql_sql henv.escape ⟨htable, hprimary hkey⟩
  | nop channelID => rfl
  | flush => rfl
  | query channelID tableName whereClause args => exact h.elim
  | call channelID sql args => exact h.elim

end

/-! ## Values with quotes and backslashes -/

/-- `mysql_real_escape_string`, of a character. -/
def realEscapeChar (c : UInt8) : Bytes :=
  if c = 0 then [92, 48]
  else if c = 10 then [92, 110]
  else if c = 13 then [92, 114]
  else if c = 26 then [92, 90]
  else if c = 34 ∨ c = 39 ∨ c = 92 then [92, c]
  else [c]

/-- `mysql_real_escape_string`. -/
def realEscape (szValue : Bytes) : Bytes := szValue.flatMap realEscapeChar

theorem escapes_realEscapeChar (c : UInt8) : mysqlLexicon.Escapes (realEscapeChar c) [c] := by
  have hbehind : ∀ b, mysqlLexicon.Escapes [92, b] [mysqlLexicon.unescape b] := fun _ _ => rfl
  rw [realEscapeChar]
  split
  · rename_i heq
    exact heq ▸ hbehind 48
  · split
    · rename_i heq
      exact heq ▸ hbehind 110
    · split
      · rename_i heq
        exact heq ▸ hbehind 114
      · split
        · rename_i heq
          exact heq ▸ hbehind 90
        · split
          · rename_i hspecial
            rcases hspecial with rfl | rfl | rfl
            · exact hbehind 34
            · exact hbehind 39
            · exact hbehind 92
          · rename_i hplain
            have hquote : c ≠ mysqlLexicon.quote := fun heq => hplain (.inr (.inl heq))
            have hescape : c ≠ mysqlLexicon.escape := fun heq => hplain (.inr (.inr heq))
            intro front
            rw [Lexicon.run, Lexicon.step, if_neg hquote, if_neg hescape]
            rfl

theorem escapes_realEscape (szValue : Bytes) :
    mysqlLexicon.Escapes (realEscape szValue) szValue := by
  induction szValue with
  | nil => exact Lexicon.Escapes.nil
  | cons c szValue ih => exact (escapes_realEscapeChar c).append ih

/-- A client that answers nothing, and a single table. -/
def rateEnv : HandlerEnv Unit where
  fmt := bitsFormat
  schema :=
    { descriptor := fun name => if name = "proto.db.rate" then some rateTable else none
      setOf := fun _ => none }
  client :=
    { escape := realEscape
      query := fun _ _ => (⟨none, .error 0, [], 1⟩, ()) }

theorem isName_rateTable : IsName "rate" ∧ ∀ f ∈ rateTable.fields, IsName f.name := by
  have hname : ∀ s ∈ ["rate", "id", "name", "data"],
      stringBytes s ≠ [] ∧ ∀ b ∈ stringBytes s, mysqlLexicon.plain b = true := by
    decide +kernel
  refine ⟨hname "rate" (by decide), fun f hf => hname f.name ?_⟩
  revert f
  decide

theorem writes_rateEnv : rateEnv.Writes where
  escape := escapes_realEscape
  double bits := isWord_natText bits.toNat
  float bits := isWord_natText bits.toNat
  table t d h := by
    have hname : getMessageNameByTableName t = getMessageNameByTableName "rate" := by
      by_contra hne
      have hnone : rateEnv.schema.descriptor (getMessageNameByTableName t) = none := if_neg hne
      rw [hnone] at h
      cases h
    have hrate := congrArg getTableNameByMessageName hname
    rw [getTableNameByMessageName_getMessageNameByTableName,
      getTableNameByMessageName_getMessageNameByTableName] at hrate
    obtain rfl := Option.some.inj hrate
    obtain rfl := Option.some.inj h
    exact ⟨isName_rateTable.1, fun _ => isName_rateTable.2 _ List.mem_cons_self⟩

theorem writable_rateMessage (rate : Option UInt32) : (rateMessage rate).Writable where
  typed := typed_rateMessage rate
  unique := namesUnique_rateTable
  table t h := by
    have hrate := getTableNameByMessageName_getMessageNameByTableName "rate"
    obtain rfl : t = "rate" := Option.some.inj (h.symm.trans hrate)
    exact isName_rateTable.1
  fields := isName_rateTable.2

theorem readSql_sentStatements_rateMessage :
    (sentStatements rateEnv (.insert (rateMessage none)) ()).map
        (fun st => readSql (st.sql rateEnv.client.escape)) =
      [some (.insert (stringBytes "rate")
        [(stringBytes "id", .number [45, 53]), (stringBytes "name", .string [97, 0]),
          (stringBytes "data", .string [8, 1])])] :=
  have hcommand : DbCommand.Writable (.insert (rateMessage none)) := writable_rateMessage none
  (readSql_sentStatements writes_rateEnv hcommand ()).trans rfl

end RealtimeEx.Db
