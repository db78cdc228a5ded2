import Mathlib.Algebra.Order.Ring.Int
import RealtimeEx.Db.MessageText
import RealtimeEx.Db.NumberText
import RealtimeEx.Db.RecordsetFields

/-!
# Messages are read as they are written

The texts of the fields of a message, stored as the columns of a row and read
back, give the message again.  Only a float field is not read: it is set by the
accessor of a double, which the protobuf library refuses.
-/

namespace RealtimeEx.Db

/-! ## What is assumed of the library -/

/-- The texts of floating point numbers are read exactly, and a sub-message is
parsed from what it was serialized to; only an empty one is serialized to
nothing. -/
structure TextFormat.Lawful (fmt : TextFormat) : Prop where
  double : ∀ bits, fmt.textDouble (fmt.doubleText bits) = some bits
  message : ∀ f data szBuf, fmt.messageText f data = some szBuf → szBuf ≠ [] →
    fmt.textMessage f szBuf = some data
  empty : ∀ f data, fmt.messageText f data = some [] → data = []

/-- No two fields of a message type have one name. -/
def Descriptor.NamesUnique (d : Descriptor) : Prop :=
  (d.fields.map FieldDescriptor.name).Nodup

/-- Only fields of the message's type are set, each to a value of its kind. -/
def Message.Typed (m : Message) : Prop :=
  ∀ name v, m.field name = some v →
    ∃ f, m.descriptor.findFieldByName name = some f ∧ v.hasType f.type

theorem find_name_of_nodup {fs : List FieldDescriptor}
    (h : (fs.map FieldDescriptor.name).Nodup) {f : FieldDescriptor} (hf : f ∈ fs) :
    fs.find? (fun g => g.name = f.name) = some f := by
  induction fs with
  | nil => cases hf
  | cons g fs ih =>
      obtain ⟨hnew, hrest⟩ := List.nodup_cons.mp h
      rcases List.mem_cons.mp hf with rfl | hf
      · exact List.find?_cons_of_pos (decide_eq_true rfl)
      · have hne : g.name ≠ f.name := by
          intro heq
          exact hnew (heq ▸ List.mem_map_of_mem hf)
        rw [List.find?_cons_of_neg (by simp [hne]), ih hrest hf]

/-! ## One field -/

section

variable {fmt : TextFormat} {f : FieldDescriptor} {v : FieldValue}

/-- A number, a string or bytes are read by the accessor of the kind they were
written by, a float excepted. -/
theorem setBasicTypeFieldValue_getBasicTypeFieldValue (hlawful : fmt.Lawful)
    {type : FieldType} {szValue : Bytes} (htype : v.hasType type)
    (h : getBasicTypeFieldValue fmt v = some szValue) :
    setBasicTypeFieldValue fmt type szValue = if type = .float then none else some v := by
  cases v with
  | int32 v =>
      obtain rfl := Option.some.inj h
      have hset : (textInt 32 (intText v.toInt)).map
          (fun n => FieldValue.int32 (Int32.ofInt n)) = some (.int32 v) := by
        rw [textInt_intText v.le_toInt v.toInt_lt, Option.map_some, Int32.ofInt_toInt]
      cases type <;> first | exact hset | simp [FieldValue.hasType] at htype
  | uint32 v =>
      obtain rfl := Option.some.inj h
      have hset : (textNat 32 (natText v.toNat)).map
          (fun n => FieldValue.uint32 (UInt32.ofNat n)) = some (.uint32 v) := by
        rw [textNat_natText v.toNat_lt, Option.map_some, UInt32.ofNat_toNat]
      cases type <;> first | exact hset | simp [FieldValue.hasType] at htype
  | int64 v =>
      obtain rfl := Option.some.inj h
      have hset : (textInt 64 (intText v.toInt)).map
          (fun n => FieldValue.int64 (Int64.ofInt n)) = some (.int64 v) := by
        rw [textInt_intText v.le_toInt v.toInt_lt, Option.map_some, Int64.ofInt_toInt]
      cases type <;> first | exact hset | simp [FieldValue.hasType] at htype
  | uint64 v =>
      obtain rfl := Option.some.inj h
      have hset : (textNat 64 (natText v.toNat)).map
          (fun n => FieldValue.uint64 (UInt64.ofNat n)) = some (.uint64 v) := by
        rw [textNat_natText v.toNat_lt, Option.map_some, UInt64.ofNat_toNat]
      cases type <;> first | exact hset | simp [FieldValue.hasType] at htype
  | double bits =>
      obtain rfl := Option.some.inj h
      have hset : (fmt.textDouble (fmt.doubleText bits)).map FieldValue.double =
          some (.double bits) := by
        rw [hlawful.double, Option.map_some]
      cases type <;> first | exact hset | simp [FieldValue.hasType] at htype
  | float bits =>
      cases type <;> first | rfl | simp [FieldValue.hasType] at htype
  | string v =>
      obtain rfl := Option.some.inj h
      cases type <;> first | rfl | simp [FieldValue.hasType] at htype
  | message v => cases h
  | bool v => cases h
  | enum v => cases h

/-- A sub-message is parsed from what it was serialized to. -/
theorem setFieldValue_of_messageText (hlawful : fmt.Lawful) (hmessage : f.type = .message)
    (hserialize : f.serializeType ≠ .unknown) {data szBuf : Bytes}
    (h : fmt.messageText f data = some szBuf) :
    setFieldValue fmt f szBuf = some (.message data) := by
  have hvalue : (if szBuf = [] then some (FieldValue.message [])
      else (fmt.textMessage f szBuf).map .message) = some (.message data) := by
    by_cases hempty : szBuf = []
    · subst hempty
      rw [if_pos rfl, hlawful.empty f data h]
    · rw [if_neg hempty, hlawful.message f data szBuf h hempty, Option.map_some]
  unfold setFieldValue
  rw [if_pos hmessage]
  cases hkind : f.serializeType with
  | unknown => exact absurd hkind hserialize
  | json => exact hvalue
  | protobufBin => exact hvalue

/-- The text of a field is read by the accessor of its own kind, a float
excepted. -/
theorem setFieldValue_getFieldInfo {info : FieldInfo} (hlawful : fmt.Lawful)
    (htype : v.hasType f.type) (h : getFieldInfo fmt f v = some info) :
    setFieldValue fmt f info.szValue = if f.type = .float then none else some v := by
  unfold getFieldInfo at h
  split at h
  · rename_i data hmessage
    rw [hmessage, if_neg (by decide)]
    split at h
    · cases h
    · rename_i hkind
      obtain ⟨szBuf, htext, rfl⟩ := Option.map_eq_some_iff.mp h
      exact setFieldValue_of_messageText hlawful hmessage (by simp [hkind]) htext
    · rename_i hkind
      obtain ⟨szBuf, htext, rfl⟩ := Option.map_eq_some_iff.mp h
      exact setFieldValue_of_messageText hlawful hmessage (by simp [hkind]) htext
  · cases h
  · rename_i hother _
    obtain ⟨szValue, htext, rfl⟩ := Option.map_eq_some_iff.mp h
    unfold setFieldValue
    rw [if_neg hother]
    exact setBasicTypeFieldValue_getBasicTypeFieldValue hlawful htype htext

end

/-! ## A whole message -/

section

variable {fmt : TextFormat} {m dst : Message}

/-- The texts of a message, by the names of its fields. -/
def columnTexts (infos : List FieldInfo) : List (String × Bytes) :=
  infos.map fun info => (info.szName, info.szValue)

/-- The text of the first field is read first. -/
theorem setFields_cons (hlawful : fmt.Lawful) {f : FieldDescriptor} {v : FieldValue}
    {info : FieldInfo} {infos : List FieldInfo} (hfind : dst.descriptor.findFieldByName f.name = some f)
    (htype : v.hasType f.type) (hinfo : getFieldInfo fmt f v = some info) :
    setFields fmt (columnTexts (info :: infos)) dst =
      if f.type = .float then none
      else setFields fmt (columnTexts infos) (dst.setField f.name v) := by
  have hset := setFieldValue_getFieldInfo hlawful htype hinfo
  unfold columnTexts
  rw [List.map_cons, setFields, szName_getFieldInfo hinfo, hfind, Option.bind_eq_bind,
    Option.bind_some, hset]
  split
  · rfl
  · rfl

/-- The texts of a message start with that of its first field, if it is set. -/
theorem getFieldInfos_cons {f : FieldDescriptor} {fs : List FieldDescriptor}
    {infos : List FieldInfo} (h : getFieldInfos fmt m (f :: fs) = some infos) :
    (m.field f.name = none ∧ getFieldInfos fmt m fs = some infos) ∨
      ∃ v info rest, m.field f.name = some v ∧ getFieldInfo fmt f v = some info ∧
        getFieldInfos fmt m fs = some rest ∧ infos = info :: rest := by
  unfold getFieldInfos at h
  split at h
  · exact Or.inl ⟨‹_›, h⟩
  · rename_i v hv
    simp only [Option.bind_eq_bind, Option.bind_eq_some_iff, Option.some.injEq] at h
    obtain ⟨info, hinfo, rest, hrest, rfl⟩ := h
    exact Or.inr ⟨v, info, rest, hv, hinfo, hrest, rfl⟩

theorem Message.Typed.hasType (htyped : m.Typed) {f : FieldDescriptor} {v : FieldValue}
    (hfind : m.descriptor.findFieldByName f.name = some f) (hv : m.field f.name = some v) :
    v.hasType f.type := by
  obtain ⟨g, hg, htype⟩ := htyped f.name v hv
  rw [hfind] at hg
  cases hg
  exact htype

/-- A float that is written is not read.  The induction is on the fields of the
message that are still to come, here and below. -/
theorem setFields_of_float (hlawful : fmt.Lawful) (htyped : m.Typed)
    {fs : List FieldDescriptor} {infos : List FieldInfo}
    (hfind : ∀ f ∈ fs, m.descriptor.findFieldByName f.name = some f)
    (hinfos : getFieldInfos fmt m fs = some infos) (hdst : dst.descriptor = m.descriptor)
    {g : FieldDescriptor} (hg : g ∈ fs) (hkind : g.type = .float)
    (hset : m.field g.name ≠ none) : setFields fmt (columnTexts infos) dst = none := by
  induction fs generalizing dst infos with
  | nil => cases hg
  | cons f fs ih =>
      have hfirst := hfind f List.mem_cons_self
      have hfind' : ∀ g ∈ fs, m.descriptor.findFieldByName g.name = some g :=
        fun g hg => hfind g (List.mem_cons_of_mem f hg)
      rcases getFieldInfos_cons hinfos with
        ⟨hnone, hrest⟩ | ⟨v, info, rest, hv, hinfo, hrest, rfl⟩
      · rcases List.mem_cons.mp hg with rfl | hg
        · exact absurd hnone hset
        · exact ih hfind' hrest hdst hg
      · rw [setFields_cons hlawful (hdst ▸ hfirst) (htyped.hasType hfirst hv) hinfo]
        rcases List.mem_cons.mp hg with rfl | hg
        · rw [if_pos hkind]
        · have hnext : (dst.setField f.name v).descriptor = m.descriptor := hdst
          rw [ih hfind' hrest hnext hg, ite_self]

/-- Without floats, the fields that are set in the message are set. -/
theorem exists_setFields (hlawful : fmt.Lawful) (htyped : m.Typed)
    {fs : List FieldDescriptor} {infos : List FieldInfo}
    (hfind : ∀ f ∈ fs, m.descriptor.findFieldByName f.name = some f)
    (hinfos : getFieldInfos fmt m fs = some infos) (hdst : dst.descriptor = m.descriptor)
    (hfloat : ∀ f ∈ fs, f.type = .float → m.field f.name = none) :
    ∃ m', setFields fmt (columnTexts infos) dst = some m' ∧
      m'.descriptor = m.descriptor ∧ ∀ name, m'.field name =
        ((fs.find? fun f => f.name = name).bind fun _ => m.field name).or
          (dst.field name) := by
  induction fs generalizing dst infos with
  | nil =>
      cases hinfos
      exact ⟨dst, rfl, hdst, fun _ => rfl⟩
  | cons f fs ih =>
      have hfirst := hfind f List.mem_cons_self
      have hfind' : ∀ g ∈ fs, m.descriptor.findFieldByName g.name = some g :=
        fun g hg => hfind g (List.mem_cons_of_mem f hg)
      have hfloat' : ∀ g ∈ fs, g.type = .float → m.field g.name = none :=
        fun g hg => hfloat g (List.mem_cons_of_mem f hg)
      rcases getFieldInfos_cons hinfos with
        ⟨hnone, hrest⟩ | ⟨v, info, rest, hv, hinfo, hrest, rfl⟩
      · obtain ⟨m', hm', hdescriptor, hfield⟩ := ih hfind' hrest hdst hfloat'
        refine ⟨m', hm', hdescriptor, fun name => ?_⟩
        rw [hfield, List.find?_cons]
        by_cases heq : f.name = name
        · subst heq
          simp [hnone]
        · simp [heq]
      · have hother : f.type ≠ .float := by
          intro hkind
          have hnone := hfloat f List.mem_cons_self hkind
          rw [hv] at hnone
          cases hnone
        have hnext : (dst.setField f.name v).descriptor = m.descriptor := hdst
        obtain ⟨m', hm', hdescriptor, hfield⟩ := ih hfind' hrest hnext hfloat'
        rw [setFields_cons hlawful (hdst ▸ hfirst) (htyped.hasType hfirst hv) hinfo,
          if_neg hother]
        refine ⟨m', hm', hdescriptor, fun name => ?_⟩
        rw [hfield, List.find?_cons]
        by_cases heq : f.name = name
        · subst heq
          cases fs.find? fun g => g.name = f.name with
          | none => simp [hv, Message.setField]
          | some g => simp [hv]
        · simp [heq, Message.setField, Function.update_of_ne (Ne.symm heq)]

end

/-! ## The row of a message -/

/-- The row a database keeps of a message, as it is selected again. -/
def storedRecord (infos : List FieldInfo) : Recordset where
  fieldName := infos.map FieldInfo.szName
  rows := [infos.map fun info => some info.szValue]

section

variable {fmt : TextFormat} {m : Message} {infos : List FieldInfo}

theorem rowTexts_storedRecord (infos : List FieldInfo) :
    (storedRecord infos).rowTexts (infos.map fun info => some info.szValue) =
      columnTexts infos := by
  unfold Recordset.rowTexts columnTexts
  refine List.ext_getElem (by simp [storedRecord]) fun i hi _ => ?_
  have hinfo : i < infos.length := by simpa [storedRecord] using hi
  rw [List.getElem_map, List.getElem_zipIdx, List.getElem_map,
    Recordset.getData_of_single rfl]
  simp [storedRecord, List.getElem?_eq_getElem hinfo]

theorem fillNormalMessage_storedRecord (infos : List FieldInfo) (d : Descriptor) :
    fillNormalMessage fmt (storedRecord infos) d =
      setFields fmt (columnTexts infos) (.empty d) := by
  have hrow : fillNormalMessage fmt (storedRecord infos) d =
      fillRow fmt (storedRecord infos) d (infos.map fun info => some info.szValue) := rfl
  rw [hrow, fillRow_eq_setFields, rowTexts_storedRecord]

/-- A message that was written and stored is read as it was exactly when no float
is set in it. -/
theorem fillNormalMessage_storedRecord_iff (hlawful : fmt.Lawful)
    (hnames : m.descriptor.NamesUnique) (htyped : m.Typed)
    (h : getMessageFieldInfos fmt m = some infos) :
    fillNormalMessage fmt (storedRecord infos) m.descriptor = some m ↔
      ∀ f ∈ m.descriptor.fields, f.type = .float → m.field f.name = none := by
  have hfind : ∀ f ∈ m.descriptor.fields, m.descriptor.findFieldByName f.name = some f :=
    fun f hf => find_name_of_nodup hnames hf
  have hempty : (Message.empty m.descriptor).descriptor = m.descriptor := rfl
  rw [fillNormalMessage_storedRecord]
  constructor
  · intro hread f hf hkind
    by_contra hset
    rw [setFields_of_float hlawful htyped hfind h hempty hf hkind hset] at hread
    cases hread
  · intro hfloat
    obtain ⟨m', hm', hdescriptor, hfield⟩ :=
      exists_setFields hlawful htyped hfind h hempty hfloat
    have hsame : m'.field = m.field := by
      funext name
      rw [hfield]
      cases hv : m.field name with
      | none =>
          cases m.descriptor.fields.find? fun f => f.name = name with
          | none => rfl
          | some f => rfl
      | some v =>
          obtain ⟨f, hf, -⟩ := htyped name v hv
          unfold Descriptor.findFieldByName at hf
          rw [hf]
          rfl
    rw [hm']
    cases m
    cases m'
    cases hdescriptor
    cases hsame
    rfl

end

/-! ## A table with a float column -/

/-- A library that keeps sub-messages in serialized form, with the bits of a
floating point number for its text. -/
def bitsFormat : TextFormat where
  doubleText bits := natText bits.toNat
  textDouble szValue := (textNat 64 szValue).map UInt64.ofNat
  floatText bits := natText bits.toNat
  messageText _ data := some data
  textMessage _ szBuf := some szBuf

theorem bitsFormat_lawful : bitsFormat.Lawful where
  double bits := by
    show (textNat 64 (natText bits.toNat)).map UInt64.ofNat = some bits
    rw [textNat_natText bits.toNat_lt, Option.map_some, UInt64.ofNat_toNat]
  message _ _ _ h _ := h.symm
  empty _ _ h := Option.some.inj h

/-- A table with a key, a name, a sub-message and a rate. -/
def rateTable : Descriptor where
  typeName := "proto.db.rate"
  fields :=
    [{ name := "id", type := .sint64, serializeType := .unknown, required := true },
      { name := "name", type := .string, serializeType := .unknown, required := false },
      { name := "data", type := .message, serializeType := .protobufBin, required := false },
      { name := "rate", type := .float, serializeType := .unknown, required := false }]
  primaryKey := "id"

theorem namesUnique_rateTable : rateTable.NamesUnique := by
  unfold Descriptor.NamesUnique
  decide

/-- A row of the table, with a rate or without. -/
def rateMessage (rate : Option UInt32) : Message where
  descriptor := rateTable
  field name :=
    if name = "id" then some (.int64 (-5))
    else if name = "name" then some (.string [97, 0])
    else if name = "data" then some (.message [8, 1])
    else if name = "rate" then rate.map .float
    else none

theorem typed_rateMessage (rate : Option UInt32) : (rateMessage rate).Typed := by
  intro name v hv
  unfold rateMessage at hv
  dsimp only at hv
  split at hv
  · rename_i hname
    subst hname
    cases hv
    exact ⟨_, rfl, rfl⟩
  · split at hv
    · rename_i hname
      subst hname
      cases hv
      exact ⟨_, rfl, rfl⟩
    · split at hv
      · rename_i hname
        subst hname
        cases hv
        exact ⟨_, rfl, rfl⟩
      · split at hv
        · rename_i hname
          subst hname
          obtain ⟨bits, -, rfl⟩ := Option.map_eq_some_iff.mp hv
          exact ⟨_, rfl, rfl⟩
        · cases hv

/-- The texts of a row without a rate. -/
def rateInfos : List FieldInfo :=
  [⟨"id", intText (-5 : Int64).toInt, false⟩, ⟨"name", [97, 0], true⟩, ⟨"data", [8, 1], true⟩]

/-- A row without a rate is read as it was. -/
theorem fillNormalMessage_rateMessage_none :
    fillNormalMessage bitsFormat (storedRecord rateInfos) rateTable = some (rateMessage none) :=
  (fillNormalMessage_storedRecord_iff bitsFormat_lawful namesUnique_rateTable
    (typed_rateMessage none) rfl).mpr (by
      intro f hf hkind
      simp only [rateMessage, rateTable, List.mem_cons, List.not_mem_nil, or_false] at hf
      rcases hf with rfl | rfl | rfl | rfl
      · cases hkind
      · cases hkind
      · cases hkind
      · rfl)

/-- A rate is written, and the row is not read again. -/
theorem fillNormalMessage_rateMessage_some :
    ∃ infos, getMessageFieldInfos bitsFormat (rateMessage (some 0)) = some infos ∧
      fillNormalMessage bitsFormat (storedRecord infos) rateTable ≠
        some (rateMessage (some 0)) := by
  have hinfos : getMessageFieldInfos bitsFormat (rateMessage (some 0)) =
      some (rateInfos ++ [⟨"rate", natText 0, false⟩]) := rfl
  have hlost : setFields bitsFormat (columnTexts (rateInfos ++ [⟨"rate", natText 0, false⟩]))
      (.empty rateTable) = none := by
    have hfind : ∀ f ∈ rateTable.fields, rateTable.findFieldByName f.name = some f :=
      fun f hf => find_name_of_nodup namesUnique_rateTable hf
    have hrate : { name := "rate", type := .float, serializeType := .unknown, required := false } ∈
        rateTable.fields := by decide
    exact setFields_of_float bitsFormat_lawful (typed_rateMessage (some 0)) hfind hinfos rfl
      hrate rfl (Option.some_ne_none _)
  refine ⟨_, hinfos, ?_⟩
  rw [fillNormalMessage_storedRecord, hlost]
  exact Option.some_ne_none _ ∘ Eq.symm

end RealtimeEx.Db
