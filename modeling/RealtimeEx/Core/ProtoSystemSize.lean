import RealtimeEx.Core.ProtoSystemRoundTrip

/-!
# The size of a system message

`pack` cuts the size of the message and the sizes of its containers to sixteen
bits.  If the size of the message fits, then the containers and the strings fit as
well, and whatever the size is, no more than `UINT16_MAX` bytes are sent.
-/

namespace RealtimeEx.Core

open Base Base.CReadBuf Base.CWriteBuf

/-! ## What fits into a message -/

section

variable {α : Type} {encode : α → List UInt8} {values : List α}

theorem length_encodeString (s : StdString) : (encodeString s).length = 2 + s.length := by
  rw [encodeString, List.length_append, length_leBytes]

theorem length_encodeAll (encode : α → List UInt8) (values : List α) :
    (encodeAll encode values).length = 2 + (values.map fun v => (encode v).length).sum := by
  rw [encodeAll, List.length_append, length_leBytes, List.length_flatMap]

/-- Every element of a container takes at least one byte. -/
theorem length_le_length_encodeAll (hpos : ∀ v, 0 < (encode v).length) :
    values.length ≤ (encodeAll encode values).length := by
  rw [length_encodeAll]
  induction values with
  | nil => exact Nat.zero_le _
  | cons v values ih =>
      have hv := hpos v
      rw [List.map_cons, List.sum_cons, List.length_cons]
      omega

theorem length_encode_le_length_encodeAll {v : α} (hv : v ∈ values) :
    (encode v).length ≤ (encodeAll encode values).length := by
  obtain ⟨front, back, rfl⟩ := List.append_of_mem hv
  rw [length_encodeAll, List.map_append, List.sum_append, List.map_cons, List.sum_cons]
  omega

/-- A container that fits into a message has few elements that are short. -/
theorem allShort_of_length_le {Short : α → Prop} (hpos : ∀ v, 0 < (encode v).length)
    (hshort : ∀ v, (encode v).length ≤ uint16Max → Short v)
    (hle : (encodeAll encode values).length ≤ uint16Max) : AllShort Short values := by
  constructor
  · exact (length_le_length_encodeAll hpos).trans hle
  · intro v hv
    exact hshort v ((length_encode_le_length_encodeAll hv).trans hle)

end

theorem length_encodeNodeBaseInfo (s : SNodeBaseInfo) :
    (encodeNodeBaseInfo s).length =
      20 + s.szName.length + s.szGroup.length + s.szHost.length := by
  simp only [encodeNodeBaseInfo, List.length_append, length_leBytes, length_encodeString]
  omega

theorem length_encodeServiceBaseInfo (s : SServiceBaseInfo) :
    (encodeServiceBaseInfo s).length = 8 + s.szName.length + s.szType.length := by
  simp only [encodeServiceBaseInfo, List.length_append, length_leBytes, length_encodeString]
  omega

theorem SNodeBaseInfo.short_of_length_le {s : SNodeBaseInfo}
    (h : (encodeNodeBaseInfo s).length ≤ uint16Max) : s.Short := by
  rw [length_encodeNodeBaseInfo] at h
  exact ⟨by omega, by omega, by omega⟩

theorem SServiceBaseInfo.short_of_length_le (s : SServiceBaseInfo)
    (h : (encodeServiceBaseInfo s).length ≤ uint16Max) : s.Short := by
  rw [length_encodeServiceBaseInfo] at h
  exact ⟨by omega, by omega⟩

theorem allShort_services_of_length_le {vec : List SServiceBaseInfo}
    (h : (encodeAll encodeServiceBaseInfo vec).length ≤ uint16Max) :
    AllShort SServiceBaseInfo.Short vec := by
  refine allShort_of_length_le (fun s => ?_) SServiceBaseInfo.short_of_length_le h
  rw [length_encodeServiceBaseInfo]
  omega

theorem SNodeInfo.short_of_length_le (s : SNodeInfo)
    (h : (encodeNodeInfo s).length ≤ uint16Max) : s.Short := by
  rw [encodeNodeInfo, List.length_append] at h
  exact ⟨SNodeBaseInfo.short_of_length_le (by omega),
    allShort_services_of_length_le (by omega)⟩

theorem allShort_strings_of_length_le {names : List StdString}
    (h : (encodeAll encodeString names).length ≤ uint16Max) :
    AllShort (fun s : StdString => s.length < uint16Max) names := by
  refine allShort_of_length_le (fun s => ?_) (fun s hs => ?_) h
  · rw [length_encodeString]
    omega
  · rw [length_encodeString] at hs
    omega

namespace SystemMessage

/-- A message whose size fits has no string and no container that does not. -/
theorem short_of_size_le {m : SystemMessage} (h : m.size ≤ uint16Max) : m.Short := by
  cases m with
  | registerNodeBaseInfo m =>
      simp only [size, fields, List.length_append] at h
      exact ⟨SNodeBaseInfo.short_of_length_le (by omega),
        allShort_services_of_length_le (by omega), allShort_strings_of_length_le (by omega),
        allShort_strings_of_length_le (by omega)⟩
  | unregisterNodeBaseInfo m =>
      simp only [size, fields, length_encodeString, sizeofMessageHeader] at h
      show m.szName.length < uint16Max
      omega
  | syncNodeBaseInfo m =>
      simp only [size, fields, List.length_append] at h
      exact ⟨SNodeBaseInfo.short_of_length_le (by omega),
        allShort_services_of_length_le (by omega)⟩
  | syncAllNodeBaseInfo m =>
      simp only [size, fields, List.length_append] at h
      refine ⟨allShort_of_length_le (fun s => ?_) SNodeInfo.short_of_length_le (by omega), ?_⟩
      · rw [encodeNodeInfo, List.length_append, length_encodeNodeBaseInfo]
        omega
      · have hpos : ∀ n : UInt32, 0 < (leBytes 4 n.toNat).length := by
          intro n
          rw [length_leBytes]
          exact Nat.succ_pos 3
        exact (length_le_length_encodeAll hpos).trans (by omega)
  | _ => trivial

/-- The sizes of the containers of a message, each of which is written in front of its
container. -/
def counts : SystemMessage → List ℕ
  | registerNodeBaseInfo m =>
      [m.vecServiceBaseInfo.length, m.setConnectServiceName.toList.length,
        m.setConnectServiceType.toList.length]
  | syncNodeBaseInfo m => [m.vecServiceBaseInfo.length]
  | syncAllNodeBaseInfo m =>
      (nodeInfos m.mapNodeInfo).length :: m.setExcludeConnectNodeID.toList.length ::
        (nodeInfos m.mapNodeInfo).map fun s => s.vecServiceBaseInfo.length
  | _ => []

/-- A message whose size fits has no container whose size is cut. -/
theorem toNat_of_mem_counts {m : SystemMessage} (h : m.size ≤ uint16Max) {n : ℕ}
    (hn : n ∈ m.counts) : (UInt16.ofNat n).toNat = n := by
  refine toNat_count ?_
  have hshort := short_of_size_le h
  cases m with
  | registerNodeBaseInfo m =>
      obtain ⟨-, hservices, hnames, htypes⟩ := hshort
      simp only [counts, List.mem_cons, List.not_mem_nil, or_false] at hn
      rcases hn with rfl | rfl | rfl
      · exact hservices.1
      · exact hnames.1
      · exact htypes.1
  | syncNodeBaseInfo m =>
      obtain rfl := List.mem_singleton.mp hn
      exact hshort.2.1
  | syncAllNodeBaseInfo m =>
      obtain ⟨hinfos, hexclude⟩ := hshort
      simp only [counts, List.mem_cons, List.mem_map] at hn
      rcases hn with rfl | rfl | ⟨s, hs, rfl⟩
      · exact hinfos.1
      · exact hexclude
      · exact (hinfos.2 s hs).2.1
  | _ => exact absurd hn List.not_mem_nil

/-! ## What is sent -/

/-- The end of every `pack`. -/
theorem exists_run_pack (m : SystemMessage) (w : CWriteBuf) :
    ∃ w', (m.pack.run w).2 = (packEnd.run w').2 := by
  cases m with
  | _ => exact ⟨_, rfl⟩

theorem curPos_packEnd_le (w : CWriteBuf) : (packEnd.run w).2.curPos ≤ uint16Max := by
  have hlt := (UInt16.ofNat w.curPos).toNat_lt
  have hle : (UInt16.ofNat w.curPos).toNat ≤ uint16Max := Nat.le_of_lt_succ hlt
  refine Nat.le_trans ?_ hle
  show (if _ ≤ _ then _ - 1 else (UInt16.ofNat w.curPos).toNat) ≤ _
  split <;> omega

/-- However long a message is, sixteen bits count the bytes that are sent. -/
theorem length_packet_le (m : SystemMessage) (w : CWriteBuf) :
    (m.packet w).length ≤ uint16Max := by
  obtain ⟨w', hrun⟩ := m.exists_run_pack w
  rw [packet, length_written, hrun]
  exact curPos_packEnd_le w'

end SystemMessage

/-! ## The buffer -/

/-- The buffer does not get smaller. -/
def Grows {α : Type} (p : StateM CWriteBuf α) : Prop :=
  ∀ w : CWriteBuf, w.bufSize ≤ (p.run w).2.bufSize

namespace Grows

theorem pure {α : Type} (a : α) : Grows (Pure.pure a) := fun _ => Nat.le_refl _

theorem bind {α γ : Type} {p : StateM CWriteBuf α} {f : α → StateM CWriteBuf γ}
    (hp : Grows p) (hf : ∀ a, Grows (f a)) : Grows (p >>= f) :=
  fun w => (hp w).trans (hf (p.run w).1 (p.run w).2)

theorem forM {α : Type} {f : α → StateM CWriteBuf Unit} {values : List α}
    (hf : ∀ v, Grows (f v)) : Grows (values.forM f) := by
  induction values with
  | nil => exact pure ()
  | cons v values ih => exact (hf v).bind fun _ => ih

theorem write (bytes : List UInt8) : Grows (CWriteBuf.write bytes) := by
  intro w
  show w.bufSize ≤ (put bytes w).bufSize
  rw [bufSize_put]
  exact Nat.le_max_left _ _

theorem writeString (s : StdString) : Grows (CWriteBuf.writeString s) := by
  unfold CWriteBuf.writeString
  split
  · exact write _
  · exact pure ()

theorem packNodeBaseInfo (s : SNodeBaseInfo) : Grows (Core.packNodeBaseInfo s) := by
  refine (write _).bind fun _ => ?_
  refine (writeString _).bind fun _ => ?_
  refine (writeString _).bind fun _ => ?_
  refine (writeString _).bind fun _ => ?_
  refine (write _).bind fun _ => ?_
  exact (write _).bind fun _ => write _

theorem packServices (vec : List SServiceBaseInfo) : Grows (Core.packServices vec) := by
  refine (write _).bind fun _ => forM fun s => ?_
  refine (write _).bind fun _ => ?_
  exact (writeString _).bind fun _ => writeString _

theorem packAll {α : Type} {packOne : α → StateM CWriteBuf Unit}
    (hone : ∀ v, Grows (packOne v)) (values : List α) :
    Grows (Core.packAll packOne values) :=
  (write _).bind fun _ => forM hone

theorem packMessage (header : MessageHeader) {packFields : StateM CWriteBuf Unit}
    (hfields : Grows packFields) : Grows (Core.packMessage header packFields) := by
  have hclear : Grows (modify CWriteBuf.clear) := fun _ => Nat.le_refl _
  have hseek : ∀ n, Grows (modify (seekBegin n)) := fun _ _ => Nat.le_refl _
  have hget : Grows (get : StateM CWriteBuf CWriteBuf) := fun _ => Nat.le_refl _
  refine (hclear.bind fun _ => write _).bind fun _ => hfields.bind fun _ => ?_
  refine hget.bind fun _ => (hseek 0).bind fun _ => ?_
  exact (write _).bind fun _ => hseek _

end Grows

theorem SystemMessage.grows_pack (m : SystemMessage) : Grows m.pack := by
  cases m with
  | registerNodeBaseInfo m =>
      refine .packMessage _ ((Grows.packNodeBaseInfo _).bind fun _ => ?_)
      refine (Grows.packServices _).bind fun _ => ?_
      exact (Grows.packAll .writeString _).bind fun _ => .packAll .writeString _
  | unregisterNodeBaseInfo m => exact .packMessage _ (.writeString _)
  | syncNodeBaseInfo m =>
      refine .packMessage _ ((Grows.packNodeBaseInfo _).bind fun _ => ?_)
      exact (Grows.packServices _).bind fun _ => .write _
  | syncAllNodeBaseInfo m =>
      have hnode : ∀ s, Grows (packNodeInfo s) :=
        fun s => (Grows.packNodeBaseInfo _).bind fun _ => .packServices _
      exact .packMessage _ ((Grows.packAll hnode _).bind fun _ => .packAll (fun _ => .write _) _)
  | _ => exact .packMessage _ (.write _)

/-- The buffer of a service that has packed messages. -/
def bufferAfter (packed : List SystemMessage) : CWriteBuf :=
  packed.foldl (fun w m => (m.pack.run w).2) (.new uint16Max)

theorem le_bufSize_bufferAfter (packed : List SystemMessage) :
    uint16Max ≤ (bufferAfter packed).bufSize := by
  unfold bufferAfter
  induction packed using List.reverseRecOn with
  | nil =>
      show uint16Max ≤ (List.replicate uint16Max (0 : UInt8)).length
      rw [List.length_replicate]
  | append_singleton packed m ih =>
      rw [List.foldl_append, List.foldl_cons, List.foldl_nil]
      exact ih.trans (m.grows_pack _)

end RealtimeEx.Core
