import RealtimeEx.Core.ProtoSystem
import RealtimeEx.Core.Transporter

/-!
# The native messages

The commands for a database service and the probes of a service's health are not protobuf
messages: each of them is a class with its own `pack` and `unpack` over `CWriteBuf` and
`CReadBuf`, and `CNativeSerializer` finds the class of a message by its name.
-/

namespace RealtimeEx.Core

open Base Base.CReadBuf Base.CWriteBuf

/-! ## Fields -/

/-- `readBuf.read(primary_id)`. -/
def readUInt64 : UInt64 → StateM CReadBuf UInt64 :=
  CReadBuf.read 8 fun bytes => UInt64.ofNat (leNat bytes)

/-- `writeBuf.write(primary_id)`. -/
def writeUInt64 (val : UInt64) : StateM CWriteBuf Unit := write (leBytes 8 val.toNat)

/-- `native_pack_begin`. -/
def nativePackBegin : StateM CWriteBuf Unit := modify clear

/-- The arguments behind their number, of which two bytes are written. -/
def packArgs (args : List StdString) : StateM CWriteBuf Unit := do
  let argCount := UInt16.ofNat args.length
  writeUInt16 argCount
  (args.take argCount.toNat).forM writeString

/-- `args` is resized to what is read as its size. -/
def unpackArgs (args : List StdString) : StateM CReadBuf (List StdString) := do
  let argCount ← readUInt16 0
  (resize argCount.toNat args).mapM readString

/-! ## Messages -/

@[ext] structure CallCommand where
  channelID : UInt32
  sql : StdString
  args : List StdString
  deriving DecidableEq

@[ext] structure DeleteCommand where
  primaryID : UInt64
  tableName : StdString
  deriving DecidableEq

structure FlushCommand where
  deriving DecidableEq

@[ext] structure InsertCommand where
  messageName : StdString
  messageContent : StdString
  deriving DecidableEq

@[ext] structure NopCommand where
  channelID : UInt32
  deriving DecidableEq

@[ext] structure QueryCommand where
  channelID : UInt32
  tableName : StdString
  whereClause : StdString
  args : List StdString
  deriving DecidableEq

@[ext] structure SelectCommand where
  primaryID : UInt64
  tableName : StdString
  deriving DecidableEq

@[ext] structure UpdateCommand where
  messageName : StdString
  messageContent : StdString
  deriving DecidableEq

structure ServiceHealthRequest where
  deriving DecidableEq

structure ServiceHealthResponse where
  deriving DecidableEq

def CallCommand.pack (m : CallCommand) : StateM CWriteBuf Unit := do
  nativePackBegin
  writeUInt32 m.channelID
  writeString m.sql
  packArgs m.args

def DeleteCommand.pack (m : DeleteCommand) : StateM CWriteBuf Unit := do
  nativePackBegin
  writeUInt64 m.primaryID
  writeString m.tableName

def FlushCommand.pack (_ : FlushCommand) : StateM CWriteBuf Unit :=
  nativePackBegin

def InsertCommand.pack (m : InsertCommand) : StateM CWriteBuf Unit := do
  nativePackBegin
  writeString m.messageName
  writeString m.messageContent

def NopCommand.pack (m : NopCommand) : StateM CWriteBuf Unit := do
  nativePackBegin
  writeUInt32 m.channelID

def QueryCommand.pack (m : QueryCommand) : StateM CWriteBuf Unit := do
  nativePackBegin
  writeUInt32 m.channelID
  writeString m.tableName
  writeString m.whereClause
  packArgs m.args

def SelectCommand.pack (m : SelectCommand) : StateM CWriteBuf Unit := do
  nativePackBegin
  writeUInt64 m.primaryID
  writeString m.tableName

def UpdateCommand.pack (m : UpdateCommand) : StateM CWriteBuf Unit := do
  nativePackBegin
  writeString m.messageName
  writeString m.messageContent

def ServiceHealthRequest.pack (_ : ServiceHealthRequest) : StateM CWriteBuf Unit :=
  nativePackBegin

def ServiceHealthResponse.pack (_ : ServiceHealthResponse) : StateM CWriteBuf Unit :=
  nativePackBegin

def CallCommand.unpack (m : CallCommand) : StateM CReadBuf CallCommand := do
  let channelID ← readUInt32 m.channelID
  let sql ← readString m.sql
  let args ← unpackArgs m.args
  return { channelID, sql, args }

def DeleteCommand.unpack (m : DeleteCommand) : StateM CReadBuf DeleteCommand := do
  let primaryID ← readUInt64 m.primaryID
  let tableName ← readString m.tableName
  return { primaryID, tableName }

def FlushCommand.unpack (m : FlushCommand) : StateM CReadBuf FlushCommand :=
  return m

def InsertCommand.unpack (m : InsertCommand) : StateM CReadBuf InsertCommand := do
  let messageName ← readString m.messageName
  let messageContent ← readString m.messageContent
  return { messageName, messageContent }

def NopCommand.unpack (m : NopCommand) : StateM CReadBuf NopCommand := do
  let channelID ← readUInt32 m.channelID
  return { channelID }

def QueryCommand.unpack (m : QueryCommand) : StateM CReadBuf QueryCommand := do
  let channelID ← readUInt32 m.channelID
  let tableName ← readString m.tableName
  let whereClause ← readString m.whereClause
  let args ← unpackArgs m.args
  return { channelID, tableName, whereClause, args }

def SelectCommand.unpack (m : SelectCommand) : StateM CReadBuf SelectCommand := do
  let primaryID ← readUInt64 m.primaryID
  let tableName ← readString m.tableName
  return { primaryID, tableName }

def UpdateCommand.unpack (m : UpdateCommand) : StateM CReadBuf UpdateCommand := do
  let messageName ← readString m.messageName
  let messageContent ← readString m.messageContent
  return { messageName, messageContent }

def ServiceHealthRequest.unpack (m : ServiceHealthRequest) :
    StateM CReadBuf ServiceHealthRequest :=
  return m

def ServiceHealthResponse.unpack (m : ServiceHealthResponse) :
    StateM CReadBuf ServiceHealthResponse :=
  return m

/-- `native_message_header`: a message of one of the registered classes. -/
inductive NativeMessage
  | callCommand (m : CallCommand)
  | deleteCommand (m : DeleteCommand)
  | flushCommand (m : FlushCommand)
  | insertCommand (m : InsertCommand)
  | nopCommand (m : NopCommand)
  | queryCommand (m : QueryCommand)
  | selectCommand (m : SelectCommand)
  | updateCommand (m : UpdateCommand)
  | serviceHealthRequest (m : ServiceHealthRequest)
  | serviceHealthResponse (m : ServiceHealthResponse)
  deriving DecidableEq

/-- The bytes of a name. -/
def nativeName (name : String) : List UInt8 := name.toList.map fun c => UInt8.ofNat c.toNat

namespace NativeMessage

/-- `getMessageName`. -/
def getMessageName : NativeMessage → List UInt8
  | callCommand _ => nativeName "call_command"
  | deleteCommand _ => nativeName "delete_command"
  | flushCommand _ => nativeName "flush_command"
  | insertCommand _ => nativeName "insert_command"
  | nopCommand _ => nativeName "nop_command"
  | queryCommand _ => nativeName "query_command"
  | selectCommand _ => nativeName "select_command"
  | updateCommand _ => nativeName "update_command"
  | serviceHealthRequest _ => nativeName "service_health_request"
  | serviceHealthResponse _ => nativeName "service_health_response"

def pack : NativeMessage → StateM CWriteBuf Unit
  | callCommand m => m.pack
  | deleteCommand m => m.pack
  | flushCommand m => m.pack
  | insertCommand m => m.pack
  | nopCommand m => m.pack
  | queryCommand m => m.pack
  | selectCommand m => m.pack
  | updateCommand m => m.pack
  | serviceHealthRequest m => m.pack
  | serviceHealthResponse m => m.pack

def unpack : NativeMessage → StateM CReadBuf NativeMessage
  | callCommand m => callCommand <$> m.unpack
  | deleteCommand m => deleteCommand <$> m.unpack
  | flushCommand m => flushCommand <$> m.unpack
  | insertCommand m => insertCommand <$> m.unpack
  | nopCommand m => nopCommand <$> m.unpack
  | queryCommand m => queryCommand <$> m.unpack
  | selectCommand m => selectCommand <$> m.unpack
  | updateCommand m => updateCommand <$> m.unpack
  | serviceHealthRequest m => serviceHealthRequest <$> m.unpack
  | serviceHealthResponse m => serviceHealthResponse <$> m.unpack

/-- The registered classes with what `new` makes of them: strings and vectors are empty and
numbers zero, because the classes have no constructors of their own. -/
def registered : List NativeMessage :=
  [callCommand ⟨0, [], []⟩, deleteCommand ⟨0, []⟩, flushCommand {}, insertCommand ⟨[], []⟩,
    nopCommand ⟨0⟩, queryCommand ⟨0, [], [], []⟩, selectCommand ⟨0, []⟩,
    updateCommand ⟨[], []⟩, serviceHealthRequest {}, serviceHealthResponse {}]

/-- `createNativeMessage`. -/
def createNativeMessage (szName : List UInt8) : Option NativeMessage :=
  registered.find? fun m => m.getMessageName = szName

end NativeMessage

/-! ## `CNativeSerializer` -/

namespace CNativeSerializer

/-- `serializeMessageToBuf`; the state is `m_writeBuf`, and `none` is the result `-1`. -/
def serializeMessageToBuf (message : NativeMessage) (nSize : ℕ) :
    StateM CWriteBuf (Option (List UInt8)) := do
  message.pack
  let writeBuf ← get
  if nSize < writeBuf.curPos then
    return none
  else
    return some writeBuf.written

/-- `unserializeMessageFromBuf`; of the size two bytes are used, and `unpack` does not
fail. -/
def unserializeMessageFromBuf (szMessageName pData : List UInt8) : Option NativeMessage :=
  (NativeMessage.createNativeMessage szMessageName).map fun message =>
    (message.unpack.run ⟨pData.take (pData.length % 2 ^ 16), 0⟩).1

end CNativeSerializer

end RealtimeEx.Core
