import Mathlib.Algebra.Order.Ring.Int
import Mathlib.Data.Int.Notation
import Mathlib.Data.List.Basic
import Mathlib.Logic.Function.Basic

/-!
# Messages and their columns

This file models the part of the protobuf library that the database layer
relies on, descriptors and reflection, and `db_protobuf.cpp` on top of it: the
names of tables and messages, the primary key, and the text of a field in a
statement and in a record set.

Numbers are written and read as the standard streams do it.  The text of
floating point numbers, and the two forms in which a sub-message is stored,
are parameters.
-/

namespace RealtimeEx.Db

abbrev Bytes := List UInt8

/-! ## Descriptors and messages -/

/-- The types of a protobuf field. -/
inductive FieldType
  | int32 | sint32 | sfixed32
  | uint32 | fixed32
  | int64 | sint64 | sfixed64
  | uint64 | fixed64
  | double | float
  | string | bytes
  | message
  | bool | enum | group
  deriving DecidableEq, Repr

/-- `ESerializeType`. -/
inductive SerializeType
  | unknown
  | json
  | protobufBin
  deriving DecidableEq, Repr

structure FieldDescriptor where
  name : String
  type : FieldType
  serializeType : SerializeType
  required : Bool
  deriving DecidableEq, Repr

/-- A message type; the name of its primary key is empty if it has none. -/
structure Descriptor where
  typeName : String
  fields : List FieldDescriptor
  primaryKey : String
  deriving DecidableEq, Repr

def Descriptor.findFieldByName (d : Descriptor) (name : String) :
    Option FieldDescriptor :=
  d.fields.find? fun f => f.name = name

/-- The value of a field.  Floating point numbers are their bits, a
sub-message its serialized form. -/
inductive FieldValue
  | int32 (v : Int32)
  | uint32 (v : UInt32)
  | int64 (v : Int64)
  | uint64 (v : UInt64)
  | double (bits : UInt64)
  | float (bits : UInt32)
  | string (v : Bytes)
  | message (v : Bytes)
  | bool (v : Bool)
  | enum (v : Int32)
  deriving DecidableEq

/-- The values a field of the given type can have. -/
def FieldValue.hasType : FieldValue → FieldType → Bool
  | .int32 _, .int32 | .int32 _, .sint32 | .int32 _, .sfixed32 => true
  | .uint32 _, .uint32 | .uint32 _, .fixed32 => true
  | .int64 _, .int64 | .int64 _, .sint64 | .int64 _, .sfixed64 => true
  | .uint64 _, .uint64 | .uint64 _, .fixed64 => true
  | .double _, .double => true
  | .float _, .float => true
  | .string _, .string | .string _, .bytes => true
  | .message _, .message | .message _, .group => true
  | .bool _, .bool => true
  | .enum _, .enum => true
  | _, _ => false

/-- A message; `none` is a field that is not set. -/
structure Message where
  descriptor : Descriptor
  field : String → Option FieldValue

def Message.empty (d : Descriptor) : Message where
  descriptor := d
  field _ := none

/-- Only fields of the message's type are set, and the required ones are; the
protobuf library parses no other messages. -/
structure Message.WellFormed (m : Message) : Prop where
  typed : ∀ name v, m.field name = some v →
    ∃ f, m.descriptor.findFieldByName name = some f ∧ v.hasType f.type
  required : ∀ f ∈ m.descriptor.fields, f.required →
    (m.field f.name).isSome

def Message.setField (m : Message) (name : String) (v : FieldValue) : Message :=
  { m with field := Function.update m.field name (some v) }

/-- What the conversions of fields need of other libraries. -/
structure TextFormat where
  doubleText : UInt64 → Bytes
  textDouble : Bytes → Option UInt64
  floatText : UInt32 → Bytes
  messageText : FieldDescriptor → Bytes → Option Bytes
  textMessage : FieldDescriptor → Bytes → Option Bytes

/-! ## Numbers as text -/

def isSpace (c : UInt8) : Bool := c = 32 || (9 ≤ c && c ≤ 13)

def isDigit (c : UInt8) : Bool := 48 ≤ c && c ≤ 57

def natText (n : ℕ) : Bytes :=
  (Nat.toDigits 10 n).map fun c => c.toNat.toUInt8

def intText (n : ℤ) : Bytes :=
  if n < 0 then 45 :: natText n.natAbs else natText n.natAbs

/-- The sign and the digits `operator>>` reads, leading blanks skipped. -/
def readNumber (text : Bytes) : Option (Bool × ℕ) :=
  let text := text.dropWhile isSpace
  let negative := text.head? = some 45
  let text := if negative ∨ text.head? = some 43 then text.tail else text
  let digits := text.takeWhile isDigit
  if digits = [] then none
  else
    some (negative,
      digits.foldl (fun n c => 10 * n + (c.toNat - 48)) 0)

/-- `operator>>` of a signed number of the given width. -/
def textInt (bits : ℕ) (text : Bytes) : Option ℤ := do
  let (negative, magnitude) ← readNumber text
  if negative then
    if magnitude ≤ 2 ^ (bits - 1) then some (-magnitude) else none
  else
    if magnitude < 2 ^ (bits - 1) then some magnitude else none

/-- `operator>>` of an unsigned number: a negative one wraps. -/
def textNat (bits : ℕ) (text : Bytes) : Option ℕ := do
  let (negative, magnitude) ← readNumber text
  if magnitude < 2 ^ bits then
    some (if negative then (2 ^ bits - magnitude) % 2 ^ bits else magnitude)
  else
    none

/-! ## Fields as text -/

/-- `getBasicTypeFieldValue`; the kinds it does not know have no text. -/
def getBasicTypeFieldValue (fmt : TextFormat) : FieldValue → Option Bytes
  | .int32 v => some (intText v.toInt)
  | .uint32 v => some (natText v.toNat)
  | .int64 v => some (intText v.toInt)
  | .uint64 v => some (natText v.toNat)
  | .double bits => some (fmt.doubleText bits)
  | .float bits => some (fmt.floatText bits)
  | .string v => some v
  | .message _ => none
  | .bool _ => none
  | .enum _ => none

/-- `setBasicTypeFieldValue`.  A float field is set as a double, which the
protobuf library refuses. -/
def setBasicTypeFieldValue (fmt : TextFormat) (type : FieldType)
    (szValue : Bytes) : Option FieldValue :=
  match type with
  | .int32 | .sint32 | .sfixed32 =>
      (textInt 32 szValue).map fun n => .int32 (Int32.ofInt n)
  | .uint32 | .fixed32 =>
      (textNat 32 szValue).map fun n => .uint32 (UInt32.ofNat n)
  | .int64 | .sint64 | .sfixed64 =>
      (textInt 64 szValue).map fun n => .int64 (Int64.ofInt n)
  | .uint64 | .fixed64 =>
      (textNat 64 szValue).map fun n => .uint64 (UInt64.ofNat n)
  | .double => (fmt.textDouble szValue).map .double
  | .float => none
  | .string | .bytes => some (.string szValue)
  | .message | .bool | .enum | .group => none

/-- `setFieldValue`; an empty text leaves a sub-message empty. -/
def setFieldValue (fmt : TextFormat) (f : FieldDescriptor) (szValue : Bytes) :
    Option FieldValue :=
  if f.type = .message then
    match f.serializeType with
    | .unknown => none
    | .protobufBin | .json =>
        if szValue = [] then some (.message [])
        else (fmt.textMessage f szValue).map .message
  else
    setBasicTypeFieldValue fmt f.type szValue

/-- `SFieldInfo`. -/
structure FieldInfo where
  szName : String
  szValue : Bytes
  bStr : Bool
  deriving DecidableEq

/-- The text of one field that is set. -/
def getFieldInfo (fmt : TextFormat) (f : FieldDescriptor) (v : FieldValue) :
    Option FieldInfo :=
  match f.type, v with
  | .message, .message data =>
      match f.serializeType with
      | .unknown => none
      | .protobufBin | .json =>
          (fmt.messageText f data).map fun szBuf => ⟨f.name, szBuf, true⟩
  | .message, _ => none
  | type, v =>
      (getBasicTypeFieldValue fmt v).map fun szValue =>
        ⟨f.name, szValue, type = .string ∨ type = .bytes⟩

/-- The loop of `getMessageFieldInfos`. -/
def getFieldInfos (fmt : TextFormat) (m : Message) :
    List FieldDescriptor → Option (List FieldInfo)
  | [] => some []
  | f :: fs =>
      match m.field f.name with
      | none => getFieldInfos fmt m fs
      | some v => do
          let info ← getFieldInfo fmt f v
          let infos ← getFieldInfos fmt m fs
          some (info :: infos)

/-- `getMessageFieldInfos`. -/
def getMessageFieldInfos (fmt : TextFormat) (m : Message) :
    Option (List FieldInfo) :=
  getFieldInfos fmt m m.descriptor.fields

/-! ## Names and keys -/

/-- `_DB_NAMESPACE`. -/
def dbNamespace : String := "proto.db."

/-- What follows the first occurrence of a pattern. -/
def afterFirst (pattern : List Char) : List Char → Option (List Char)
  | [] => if pattern = [] then some [] else none
  | c :: cs =>
      if pattern.isPrefixOf (c :: cs) then
        some ((c :: cs).drop pattern.length)
      else
        afterFirst pattern cs

/-- `getMessageNameByTableName`. -/
def getMessageNameByTableName (szTableName : String) : String :=
  dbNamespace ++ szTableName

/-- `getTableNameByMessageName`. -/
def getTableNameByMessageName (szMessageName : String) : Option String :=
  (afterFirst dbNamespace.toList szMessageName.toList).map String.ofList

theorem getTableNameByMessageName_getMessageNameByTableName (t : String) :
    getTableNameByMessageName (getMessageNameByTableName t) = some t := by
  have hfirst : ∀ cs : List Char,
      afterFirst dbNamespace.toList (dbNamespace.toList ++ cs) = some cs := by
    intro cs
    simp [dbNamespace, afterFirst]
  unfold getTableNameByMessageName getMessageNameByTableName
  rw [String.toList_append, hfirst, Option.map_some, String.ofList_toList]

/-- `getPrimaryName`. -/
def getPrimaryName (m : Message) : String := m.descriptor.primaryKey

/-- `getPrimaryValue`; a key that is not set is zero, and a negative one
wraps. -/
def getPrimaryValue (m : Message) : Option UInt64 :=
  if m.descriptor.primaryKey = "" then
    none
  else
    match m.descriptor.findFieldByName m.descriptor.primaryKey with
    | none => none
    | some f =>
        match f.type, m.field f.name with
        | .int32, some (.int32 v) | .sint32, some (.int32 v)
        | .sfixed32, some (.int32 v) => some v.toInt64.toUInt64
        | .uint32, some (.uint32 v) | .fixed32, some (.uint32 v) =>
            some v.toUInt64
        | .int64, some (.int64 v) | .sint64, some (.int64 v)
        | .sfixed64, some (.int64 v) => some v.toUInt64
        | .uint64, some (.uint64 v) | .fixed64, some (.uint64 v) => some v
        | .int32, _ | .sint32, _ | .sfixed32, _ | .uint32, _ | .fixed32, _
        | .int64, _ | .sint64, _ | .sfixed64, _ | .uint64, _ | .fixed64, _ =>
            some 0
        | _, _ => none

end RealtimeEx.Db
