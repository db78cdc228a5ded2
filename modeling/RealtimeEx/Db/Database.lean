import RealtimeEx.Db.DbThread

/-!
# The requests of the database layer

This file models `db::query`: how a request message becomes a command, and
which index it is handed to the thread manager with.  A request that cannot be
parsed, or that has no primary key, is refused before any thread hears of it.
-/

namespace RealtimeEx.Db

/-- The request messages of `db::query`. -/
inductive DbRequest
  | update (messageName : String) (messageContent : Bytes)
  | select (id : UInt64) (tableName : String)
  | query (channelID : UInt32) (tableName : String) (whereClause : Bytes)
      (args : List Bytes)
  | insert (messageName : String) (messageContent : Bytes)
  | flush
  | call (channelID : UInt32) (sql : Bytes) (args : List Bytes)
  | delete (id : UInt64) (tableName : String)
  | nop (channelID : UInt32)
  | unknown

/-- What `db::query` needs of the protobuf library. -/
structure RequestEnv where
  schema : Schema
  parse : Descriptor → Bytes → Option Message

namespace RequestEnv

variable (env : RequestEnv)

/-- The message of an insert or an update, and its primary key. -/
def parseRecord (messageName : String) (messageContent : Bytes) :
    Option (Message × UInt64) := do
  let d ← env.schema.descriptor messageName
  let m ← env.parse d messageContent
  let nValue ← getPrimaryValue m
  some (m, nValue)

/-- A request without a payload of its own is copied; its message type must be
known. -/
def copyCommand (szMessageName : String) (command : DbCommand)
    (nThreadIndex : UInt32) : Option (DbCommand × UInt32) :=
  if (env.schema.descriptor szMessageName).isSome then
    some (command, nThreadIndex)
  else
    none

/-- The command of a request and its thread index.  A flush is handled
apart. -/
def accept : DbRequest → Option (DbCommand × UInt32)
  | .update messageName messageContent =>
      (env.parseRecord messageName messageContent).map fun (m, nValue) =>
        (.update m, nValue.toUInt32)
  | .select id tableName =>
      env.copyCommand "proto.db.select_command" (.select id tableName)
        id.toUInt32
  | .query channelID tableName whereClause args =>
      env.copyCommand "proto.db.query_command"
        (.query channelID tableName whereClause args) channelID
  | .insert messageName messageContent =>
      (env.parseRecord messageName messageContent).map fun (m, nValue) =>
        (.insert m, nValue.toUInt32)
  | .flush => none
  | .call channelID sql args =>
      env.copyCommand "proto.db.call_command" (.call channelID sql args)
        channelID
  | .delete id tableName =>
      env.copyCommand "proto.db.delete_command" (.delete id tableName)
        id.toUInt32
  | .nop channelID =>
      env.copyCommand "proto.db.nop_command" (.nop channelID) channelID
  | .unknown => none

end RequestEnv

/-- The primary key or the channel of a command. -/
def DbCommand.key : DbCommand → Option UInt64
  | .query channelID _ _ _ => some channelID.toUInt64
  | .select id _ => some id
  | .insert m => getPrimaryValue m
  | .delete id _ => some id
  | .update m => getPrimaryValue m
  | .call channelID _ _ => some channelID.toUInt64
  | .flush => none
  | .nop channelID => some channelID.toUInt64

/-- The thread index of a command is its key. -/
theorem RequestEnv.exists_key_of_accept {env : RequestEnv}
    {request : DbRequest} {command : DbCommand} {nThreadIndex : UInt32}
    (h : env.accept request = some (command, nThreadIndex)) :
    command.isFlush = false ∧
      ∃ key, command.key = some key ∧ nThreadIndex = key.toUInt32 := by
  have hcopy : ∀ name c index,
      env.copyCommand name c index = some (command, nThreadIndex) →
        command = c ∧ nThreadIndex = index := by
    intro name c index hcopy
    unfold copyCommand at hcopy
    split at hcopy
    · cases hcopy
      exact ⟨rfl, rfl⟩
    · cases hcopy
  have hrecord : ∀ name content m nValue,
      env.parseRecord name content = some (m, nValue) →
        getPrimaryValue m = some nValue := by
    intro name content m nValue hparse
    simp only [parseRecord, Option.bind_eq_bind, Option.bind_eq_some_iff,
      Option.some.injEq, Prod.mk.injEq] at hparse
    obtain ⟨d, -, m', -, value, hvalue, rfl, rfl⟩ := hparse
    exact hvalue
  cases request with
  | update name content =>
      obtain ⟨⟨m, nValue⟩, hparse, heq⟩ := Option.map_eq_some_iff.mp h
      cases heq
      exact ⟨rfl, nValue, hrecord name content m nValue hparse, rfl⟩
  | insert name content =>
      obtain ⟨⟨m, nValue⟩, hparse, heq⟩ := Option.map_eq_some_iff.mp h
      cases heq
      exact ⟨rfl, nValue, hrecord name content m nValue hparse, rfl⟩
  | select id tableName =>
      obtain ⟨rfl, rfl⟩ := hcopy _ _ _ h
      exact ⟨rfl, id, rfl, rfl⟩
  | delete id tableName =>
      obtain ⟨rfl, rfl⟩ := hcopy _ _ _ h
      exact ⟨rfl, id, rfl, rfl⟩
  | query channelID tableName whereClause args =>
      obtain ⟨rfl, rfl⟩ := hcopy _ _ _ h
      exact ⟨rfl, _, rfl, (UInt32.toUInt32_toUInt64 _).symm⟩
  | call channelID sql args =>
      obtain ⟨rfl, rfl⟩ := hcopy _ _ _ h
      exact ⟨rfl, _, rfl, (UInt32.toUInt32_toUInt64 _).symm⟩
  | nop channelID =>
      obtain ⟨rfl, rfl⟩ := hcopy _ _ _ h
      exact ⟨rfl, _, rfl, (UInt32.toUInt32_toUInt64 _).symm⟩
  | flush => cases h
  | unknown => cases h

end RealtimeEx.Db
