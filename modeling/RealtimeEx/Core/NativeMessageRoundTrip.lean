import RealtimeEx.Core.NativeMessage
import RealtimeEx.Core.ProtoSystemRoundTrip

/-!
# Unserializing a native message

What a serialized message becomes at the other side.  A string of `UINT16_MAX` bytes or
more is left out by `pack`, and of the number of arguments two bytes are kept; nothing
else keeps a message from coming back.
-/

namespace RealtimeEx.Core

open Base Base.CReadBuf Base.CWriteBuf

/-! ## Layout -/

/-- What `write` leaves of a string. -/
def packedString (s : StdString) : List UInt8 :=
  if s.length < uint16Max then encodeString s else []

/-- What `packArgs` leaves of the arguments. -/
def packedArgs (args : List StdString) : List UInt8 :=
  leBytes 2 (args.length % 2 ^ 16) ++ (args.take (args.length % 2 ^ 16)).flatMap packedString

/-- The arguments fit into their length fields, and so does their number. -/
def ShortArgs (args : List StdString) : Prop :=
  AllShort (fun s : StdString => s.length < uint16Max) args

namespace NativeMessage

/-- The bytes of a message. -/
def packed : NativeMessage → List UInt8
  | callCommand m =>
      leBytes 4 m.channelID.toNat ++ (packedString m.sql ++ packedArgs m.args)
  | deleteCommand m => leBytes 8 m.primaryID.toNat ++ packedString m.tableName
  | flushCommand _ => []
  | insertCommand m => packedString m.messageName ++ packedString m.messageContent
  | nopCommand m => leBytes 4 m.channelID.toNat
  | queryCommand m =>
      leBytes 4 m.channelID.toNat ++ (packedString m.tableName ++
        (packedString m.whereClause ++ packedArgs m.args))
  | selectCommand m => leBytes 8 m.primaryID.toNat ++ packedString m.tableName
  | updateCommand m => packedString m.messageName ++ packedString m.messageContent
  | serviceHealthRequest _ => []
  | serviceHealthResponse _ => []

/-- The strings and the number of arguments fit into their length fields. -/
def Short : NativeMessage → Prop
  | callCommand m => m.sql.length < uint16Max ∧ ShortArgs m.args
  | deleteCommand m => m.tableName.length < uint16Max
  | flushCommand _ => True
  | insertCommand m =>
      m.messageName.length < uint16Max ∧ m.messageContent.length < uint16Max
  | nopCommand _ => True
  | queryCommand m =>
      m.tableName.length < uint16Max ∧ m.whereClause.length < uint16Max ∧ ShortArgs m.args
  | selectCommand m => m.tableName.length < uint16Max
  | updateCommand m =>
      m.messageName.length < uint16Max ∧ m.messageContent.length < uint16Max
  | serviceHealthRequest _ => True
  | serviceHealthResponse _ => True

end NativeMessage

/-! ## Writing the layout -/

theorem toNat_ofNat_mod (n : ℕ) : (UInt16.ofNat n).toNat = n % 2 ^ 16 :=
  UInt16.toNat_ofNat'

theorem writes_packedString (s : StdString) :
    Writes output (writeString s) (packedString s) := by
  rw [packedString]
  split
  · rename_i hs
    exact writes_writeString hs
  · rename_i hs
    rw [writeString, if_neg hs]
    exact Writes.pure

theorem writes_packArgs (args : List StdString) :
    Writes output (packArgs args) (packedArgs args) := by
  rw [packedArgs, ← toNat_ofNat_mod]
  exact (writes_write _).bind (Writes.forM fun s _ => writes_packedString s)

/-- `native_pack_begin` drops what an earlier message has left. -/
theorem written_begin {m : StateM CWriteBuf Unit} {bytes : List UInt8}
    (hm : Writes output m bytes) (w : CWriteBuf) :
    ((nativePackBegin >>= fun _ => m).run w).2.written = bytes := by
  have hwritten : (m.run w.clear).2.written = w.clear.written ++ bytes := (hm w.clear).1
  rw [written_clear, List.nil_append] at hwritten
  exact hwritten

theorem NativeMessage.written_pack (message : NativeMessage) (w : CWriteBuf) :
    (message.pack.run w).2.written = message.packed := by
  cases message with
  | callCommand m =>
      exact written_begin ((writes_write _).bind
        ((writes_packedString m.sql).bind (writes_packArgs m.args))) w
  | deleteCommand m =>
      exact written_begin ((writes_write _).bind (writes_packedString m.tableName)) w
  | flushCommand m => exact written_clear w
  | insertCommand m =>
      exact written_begin
        ((writes_packedString m.messageName).bind (writes_packedString m.messageContent)) w
  | nopCommand m => exact written_begin (writes_write _) w
  | queryCommand m =>
      exact written_begin ((writes_write _).bind ((writes_packedString m.tableName).bind
        ((writes_packedString m.whereClause).bind (writes_packArgs m.args)))) w
  | selectCommand m =>
      exact written_begin ((writes_write _).bind (writes_packedString m.tableName)) w
  | updateCommand m =>
      exact written_begin
        ((writes_packedString m.messageName).bind (writes_packedString m.messageContent)) w
  | serviceHealthRequest m => exact written_clear w
  | serviceHealthResponse m => exact written_clear w

/-- What was serialized before does not matter. -/
theorem CNativeSerializer.serializeMessageToBuf_eq (message : NativeMessage) (nSize : ℕ)
    (w : CWriteBuf) :
    ((serializeMessageToBuf message nSize).run w).1 =
      if nSize < message.packed.length then none else some message.packed := by
  have hwritten := message.written_pack w
  have hsize : (message.pack.run w).2.curPos = message.packed.length := by
    rw [← hwritten, length_written]
  have hrun : ((serializeMessageToBuf message nSize).run w).1 =
      if nSize < (message.pack.run w).2.curPos then none
      else some (message.pack.run w).2.written := by
    show (StateT.run (if nSize < (message.pack.run w).2.curPos then pure none
      else pure (some (message.pack.run w).2.written) :
        StateM CWriteBuf (Option (List UInt8))) _).1 = _
    split
    · rfl
    · rfl
  rw [hrun, hsize, hwritten]

/-! ## Reading the layout -/

theorem reads_readUInt64 (val v : UInt64) :
    Reads (readUInt64 val) (leBytes 8 v.toNat) v := by
  have h := reads_read (fun bytes => UInt64.ofNat (leNat bytes)) (leBytes 8 v.toNat) val
  have hlt : v.toNat < 256 ^ 8 := v.toNat_lt
  rw [leNat_leBytes, Nat.mod_eq_of_lt hlt, UInt64.ofNat_toNat] at h
  exact h

theorem reads_packedString (old : StdString) {s : StdString} (hs : s.length < uint16Max) :
    Reads (readString old) (packedString s) s := by
  rw [packedString, if_pos hs]
  exact reads_readString old s hs

theorem reads_unpackArgs (old : List StdString) {args : List StdString}
    (hargs : ShortArgs args) : Reads (unpackArgs old) (packedArgs args) args := by
  have hcount := toNat_count hargs.1
  rw [packedArgs, ← toNat_ofNat_mod, hcount, List.take_length]
  refine (reads_readCount hargs.1 0).bind ?_
  rw [hcount]
  refine Reads.mapM (List.forall₂_iff_get.mpr ⟨length_resize _ _, ?_⟩)
  intro i _ hi
  exact reads_packedString _ (hargs.2 _ (List.get_mem args ⟨i, hi⟩))

theorem reads_callCommand (old : CallCommand) {m : CallCommand}
    (hm : (NativeMessage.callCommand m).Short) :
    Reads old.unpack (NativeMessage.callCommand m).packed m :=
  (reads_readUInt32 _ m.channelID).bind
    ((reads_packedString _ hm.1).bind ((reads_unpackArgs _ hm.2).bind_pure _))

/-- `delete_command` and `select_command` are read in the same way. -/
theorem reads_primary {α : Type} (oldID : UInt64) (oldName : StdString) (id : UInt64)
    {name : StdString} (hname : name.length < uint16Max) (make : UInt64 → StdString → α) :
    Reads (do
      let id ← readUInt64 oldID
      let name ← readString oldName
      return make id name) (leBytes 8 id.toNat ++ packedString name) (make id name) :=
  (reads_readUInt64 oldID id).bind ((reads_packedString oldName hname).bind_pure _)

/-- `insert_command` and `update_command` are read in the same way. -/
theorem reads_record {α : Type} (oldName oldContent : StdString) {name content : StdString}
    (hname : name.length < uint16Max) (hcontent : content.length < uint16Max)
    (make : StdString → StdString → α) :
    Reads (do
      let name ← readString oldName
      let content ← readString oldContent
      return make name content) (packedString name ++ packedString content)
      (make name content) :=
  (reads_packedString oldName hname).bind ((reads_packedString oldContent hcontent).bind_pure _)

theorem reads_queryCommand (old : QueryCommand) {m : QueryCommand}
    (hm : (NativeMessage.queryCommand m).Short) :
    Reads old.unpack (NativeMessage.queryCommand m).packed m :=
  (reads_readUInt32 _ m.channelID).bind
    ((reads_packedString _ hm.1).bind
      ((reads_packedString _ hm.2.1).bind ((reads_unpackArgs _ hm.2.2).bind_pure _)))

namespace NativeMessage

/-- A new message of the class is found by the name, and it reads the message back. -/
theorem exists_created {message : NativeMessage} (hshort : message.Short) :
    ∃ created, createNativeMessage message.getMessageName = some created ∧
      Reads created.unpack message.packed message := by
  cases message with
  | callCommand m => exact ⟨_, rfl, (reads_callCommand _ hshort).map callCommand⟩
  | deleteCommand m =>
      exact ⟨_, rfl, (reads_primary _ _ _ hshort DeleteCommand.mk).map deleteCommand⟩
  | flushCommand m => exact ⟨_, rfl, Reads.pure _⟩
  | insertCommand m =>
      exact ⟨_, rfl, (reads_record _ _ hshort.1 hshort.2 InsertCommand.mk).map insertCommand⟩
  | nopCommand m =>
      exact ⟨_, rfl, ((reads_readUInt32 _ m.channelID).bind_pure NopCommand.mk).map nopCommand⟩
  | queryCommand m => exact ⟨_, rfl, (reads_queryCommand _ hshort).map queryCommand⟩
  | selectCommand m =>
      exact ⟨_, rfl, (reads_primary _ _ _ hshort SelectCommand.mk).map selectCommand⟩
  | updateCommand m =>
      exact ⟨_, rfl, (reads_record _ _ hshort.1 hshort.2 UpdateCommand.mk).map updateCommand⟩
  | serviceHealthRequest m => exact ⟨_, rfl, Reads.pure _⟩
  | serviceHealthResponse m => exact ⟨_, rfl, Reads.pure _⟩

end NativeMessage

/-! ## What `unpack` makes of any bytes -/

/-- A buffer of at most `UINT16_MAX` bytes. -/
def SmallBuf (content : List UInt8) : Prop := content.length ≤ uint16Max

theorem returnsOver_read {α : Type} (n : ℕ) (decode : List UInt8 → α) (val : α) :
    ReturnsOver SmallBuf (CReadBuf.read n decode val) fun _ => True := by
  intro c _
  refine ⟨trivial, ?_⟩
  show (CReadBuf.read n decode val c).2.content = _
  rw [CReadBuf.read]
  split
  · rfl
  · rfl

/-- In front of a string there are the two bytes of its length. -/
theorem returnsOver_readString {szBuf : StdString} (h : szBuf.length < uint16Max) :
    ReturnsOver SmallBuf (readString szBuf) fun s => s.length < uint16Max := by
  intro c hc
  show (readString szBuf c).1.length < uint16Max ∧ (readString szBuf c).2.content = _
  rw [readString]
  split
  · exact ⟨h, rfl⟩
  · rename_i size _
    split
    · exact ⟨h, rfl⟩
    · rename_i bytes hbytes
      refine ⟨?_, rfl⟩
      rw [Cursor.next?] at hbytes
      split at hbytes
      · rename_i hle
        have hlength := congrArg List.length (Option.some.inj hbytes)
        simp only [List.length_take, List.length_drop, Cursor.advance, SmallBuf] at hlength hle hc
        show bytes.length < uint16Max
        omega
      · cases hbytes

theorem returnsOver_unpackArgs : ReturnsOver SmallBuf (unpackArgs []) ShortArgs := by
  refine (returnsOver_read _ _ _).bind fun argCount _ => ?_
  have hread : ∀ s ∈ resize argCount.toNat ([] : List StdString),
      ReturnsOver SmallBuf (readString s) fun s => s.length < uint16Max := by
    intro s hs
    have hempty : s = [] := by
      rw [resize, List.nil_append] at hs
      exact List.eq_of_mem_replicate (List.mem_of_mem_take hs)
    rw [hempty]
    exact returnsOver_readString (by decide)
  intro c hc
  obtain ⟨⟨hlength, hshort⟩, hcontent⟩ := ReturnsOver.mapM hread c hc
  rw [length_resize] at hlength
  have hlt := argCount.toNat_lt
  exact ⟨⟨by rw [hlength, uint16Max]; omega, hshort⟩, hcontent⟩

/-- The two readers of a key and a name. -/
theorem returnsOver_primary {α : Type} (oldID : UInt64) {make : UInt64 → StdString → α}
    {Q : α → Prop} (hmake : ∀ id name, name.length < uint16Max → Q (make id name)) :
    ReturnsOver SmallBuf (do
      let id ← readUInt64 oldID
      let name ← readString []
      return make id name) Q :=
  (returnsOver_read _ _ _).bind fun id _ =>
    (returnsOver_readString (by decide)).bind fun name hname => .pure (hmake id name hname)

/-- The two readers of a name and a content. -/
theorem returnsOver_record {α : Type} {make : StdString → StdString → α} {Q : α → Prop}
    (hmake : ∀ name content, name.length < uint16Max → content.length < uint16Max →
      Q (make name content)) :
    ReturnsOver SmallBuf (do
      let name ← readString []
      let content ← readString []
      return make name content) Q :=
  (returnsOver_readString (by decide)).bind fun name hname =>
    (returnsOver_readString (by decide)).bind fun content hcontent =>
      .pure (hmake name content hname hcontent)

namespace NativeMessage

theorem returnsOver_unpack {created : NativeMessage} (h : created ∈ registered) :
    ReturnsOver SmallBuf created.unpack Short := by
  simp only [registered, List.mem_cons, List.not_mem_nil, or_false] at h
  rcases h with rfl | rfl | rfl | rfl | rfl | rfl | rfl | rfl | rfl | rfl
  · have hread : ReturnsOver SmallBuf (CallCommand.unpack ⟨0, [], []⟩)
        fun m => (callCommand m).Short :=
      (returnsOver_read _ _ _).bind fun _ _ =>
        (returnsOver_readString (by decide)).bind fun _ hsql =>
          returnsOver_unpackArgs.bind fun _ hargs => .pure ⟨hsql, hargs⟩
    exact hread.map fun _ hm => hm
  · have hread : ReturnsOver SmallBuf (DeleteCommand.unpack ⟨0, []⟩)
        fun m => (deleteCommand m).Short := returnsOver_primary 0 fun _ _ hname => hname
    exact hread.map fun _ hm => hm
  · exact .pure trivial
  · have hread : ReturnsOver SmallBuf (InsertCommand.unpack ⟨[], []⟩)
        fun m => (insertCommand m).Short :=
      returnsOver_record fun _ _ hname hcontent => ⟨hname, hcontent⟩
    exact hread.map fun _ hm => hm
  · have hread : ReturnsOver SmallBuf (NopCommand.unpack ⟨0⟩)
        fun m => (nopCommand m).Short :=
      (returnsOver_read _ _ _).bind fun _ _ => .pure trivial
    exact hread.map fun _ hm => hm
  · have hread : ReturnsOver SmallBuf (QueryCommand.unpack ⟨0, [], [], []⟩)
        fun m => (queryCommand m).Short :=
      (returnsOver_read _ _ _).bind fun _ _ =>
        (returnsOver_readString (by decide)).bind fun _ htable =>
          (returnsOver_readString (by decide)).bind fun _ hwhere =>
            returnsOver_unpackArgs.bind fun _ hargs => .pure ⟨htable, hwhere, hargs⟩
    exact hread.map fun _ hm => hm
  · have hread : ReturnsOver SmallBuf (SelectCommand.unpack ⟨0, []⟩)
        fun m => (selectCommand m).Short := returnsOver_primary 0 fun _ _ hname => hname
    exact hread.map fun _ hm => hm
  · have hread : ReturnsOver SmallBuf (UpdateCommand.unpack ⟨[], []⟩)
        fun m => (updateCommand m).Short :=
      returnsOver_record fun _ _ hname hcontent => ⟨hname, hcontent⟩
    exact hread.map fun _ hm => hm
  · exact .pure trivial
  · exact .pure trivial

end NativeMessage

namespace CNativeSerializer

/-- Whatever comes over a link, a message that is made of it is short. -/
theorem short_of_unserialize {szMessageName pData : List UInt8} {message : NativeMessage}
    (h : unserializeMessageFromBuf szMessageName pData = some message) : message.Short := by
  rw [unserializeMessageFromBuf] at h
  obtain ⟨created, hcreated, rfl⟩ := Option.map_eq_some_iff.mp h
  have hregistered := List.mem_of_find?_eq_some hcreated
  refine (NativeMessage.returnsOver_unpack hregistered _ ?_).1
  simp only [SmallBuf, List.length_take, uint16Max]
  omega

/-- A message that was serialized into a buffer of at most `UINT16_MAX` bytes comes back if
and only if its strings and the number of its arguments fit into their length fields,
whatever the serializer was used for before. -/
theorem unserialize_serialize_iff {message : NativeMessage} {nSize : ℕ} {w : CWriteBuf}
    {bytes : List UInt8} (hsize : nSize ≤ uint16Max)
    (h : ((serializeMessageToBuf message nSize).run w).1 = some bytes) :
    unserializeMessageFromBuf message.getMessageName bytes = some message ↔ message.Short := by
  refine ⟨short_of_unserialize, fun hshort => ?_⟩
  rw [serializeMessageToBuf_eq] at h
  split at h
  · cases h
  · rename_i hfits
    cases h
    obtain ⟨created, hcreated, hreads⟩ := NativeMessage.exists_created hshort
    have hmod : message.packed.length % 2 ^ 16 = message.packed.length := by
      rw [uint16Max] at hsize
      exact Nat.mod_eq_of_lt (by omega)
    rw [unserializeMessageFromBuf, hcreated, Option.map_some, hmod, List.take_length,
      hreads.run_eq]

/-- A call with one argument comes back. -/
theorem unserialize_serialize_callCommand :
    unserializeMessageFromBuf (nativeName "call_command")
        [7, 0, 0, 0, 2, 0, 99, 123, 1, 0, 1, 0, 49] =
      some (.callCommand ⟨7, [99, 123], [[49]]⟩) := by
  have hbytes : ((serializeMessageToBuf (.callCommand ⟨7, [99, 123], [[49]]⟩) 100).run
      (CWriteBuf.new 8)).1 = some [7, 0, 0, 0, 2, 0, 99, 123, 1, 0, 1, 0, 49] :=
    serializeMessageToBuf_eq _ _ _
  exact (unserialize_serialize_iff (by decide) hbytes).mpr ⟨by decide, by decide, by decide⟩

end CNativeSerializer

end RealtimeEx.Core
