import RealtimeEx.Db.DbCache

/-!
# Messages as texts by column

A message is written as the list of the texts of its fields.  What a statement
sees of the list is the text it gives for a column.  Merging two messages
overrides the texts of the one by those of the other.
-/

namespace RealtimeEx.Db

/-! ## The text of a column -/

/-- The text a list of fields has for a column. -/
def fieldText (fields : List FieldInfo) (szName : String) : Option Bytes :=
  (fields.find? fun f => f.szName = szName).map FieldInfo.szValue

/-- The text of a field of a message. -/
def Message.text (fmt : TextFormat) (m : Message) (szName : String) :
    Option Bytes := do
  let f ← m.descriptor.findFieldByName szName
  let v ← m.field szName
  let info ← getFieldInfo fmt f v
  some info.szValue

theorem szName_getFieldInfo {fmt : TextFormat} {f : FieldDescriptor}
    {v : FieldValue} {info : FieldInfo}
    (h : getFieldInfo fmt f v = some info) : info.szName = f.name := by
  unfold getFieldInfo at h
  repeat' split at h
  all_goals
    first
    | cases h
    | (obtain ⟨text, -, rfl⟩ := Option.map_eq_some_iff.mp h
       rfl)

theorem Descriptor.name_of_find {d : Descriptor} {name : String}
    {f : FieldDescriptor} (h : d.findFieldByName name = some f) :
    f.name = name := by
  simpa using List.find?_some h

/-- The fields of a message that are set can be turned into texts, and the
texts are those of the message. -/
theorem getFieldInfos_spec {fmt : TextFormat} {m : Message}
    {fs : List FieldDescriptor} {infos : List FieldInfo}
    (h : getFieldInfos fmt m fs = some infos) :
    (∀ f ∈ fs, ∀ v, m.field f.name = some v →
        (getFieldInfo fmt f v).isSome) ∧
      ∀ szName, fieldText infos szName =
        (fs.find? fun f => f.name = szName).bind fun f =>
          (m.field szName).bind fun v =>
            (getFieldInfo fmt f v).map FieldInfo.szValue := by
  induction fs generalizing infos with
  | nil =>
      cases h
      exact ⟨by simp, fun _ => rfl⟩
  | cons f fs ih =>
      unfold getFieldInfos at h
      split at h
      · rename_i hnone
        obtain ⟨hall, htext⟩ := ih h
        constructor
        · intro g hg v hv
          rcases List.mem_cons.mp hg with rfl | hg
          · rw [hnone] at hv
            cases hv
          · exact hall g hg v hv
        · intro szName
          rw [htext, List.find?_cons]
          by_cases hname : f.name = szName
          · subst hname
            simp [hnone]
          · simp [hname]
      · rename_i v hv
        simp only [Option.bind_eq_bind, Option.bind_eq_some_iff,
          Option.some.injEq] at h
        obtain ⟨info, hinfo, rest, hrest, rfl⟩ := h
        obtain ⟨hall, htext⟩ := ih hrest
        have hname := szName_getFieldInfo hinfo
        constructor
        · intro g hg w hw
          rcases List.mem_cons.mp hg with rfl | hg
          · rw [hv] at hw
            cases hw
            rw [hinfo]
            rfl
          · exact hall g hg w hw
        · intro szName
          rw [fieldText, List.find?_cons, List.find?_cons, hname]
          by_cases heq : f.name = szName
          · subst heq
            simp [hv, hinfo]
          · have hrest := htext szName
            rw [fieldText] at hrest
            simpa [heq] using hrest

theorem getFieldInfos_of_forall {fmt : TextFormat} {m : Message}
    {fs : List FieldDescriptor}
    (h : ∀ f ∈ fs, ∀ v, m.field f.name = some v →
      (getFieldInfo fmt f v).isSome) :
    ∃ infos, getFieldInfos fmt m fs = some infos := by
  induction fs with
  | nil => exact ⟨[], rfl⟩
  | cons f fs ih =>
      obtain ⟨rest, hrest⟩ :=
        ih fun g hg => h g (List.mem_cons_of_mem _ hg)
      unfold getFieldInfos
      cases hv : m.field f.name with
      | none => exact ⟨rest, hrest⟩
      | some v =>
          obtain ⟨info, hinfo⟩ :=
            Option.isSome_iff_exists.mp (h f List.mem_cons_self v hv)
          exact ⟨info :: rest, by simp [hinfo, hrest]⟩

section

variable {fmt : TextFormat} {m : Message} {fields : List FieldInfo}

theorem fieldText_eq_text (h : getMessageFieldInfos fmt m = some fields)
    (szName : String) : fieldText fields szName = m.text fmt szName := by
  rw [(getFieldInfos_spec h).2 szName]
  unfold Message.text Descriptor.findFieldByName
  cases hf : m.descriptor.fields.find? fun f => f.name = szName with
  | none => rfl
  | some f =>
      cases hv : m.field szName with
      | none => rfl
      | some v =>
          cases hinfo : getFieldInfo fmt f v with
          | none => simp [hinfo]
          | some info => simp [hinfo]

/-- A message that can be written has a text for every field that is set. -/
theorem isSome_text_iff (h : getMessageFieldInfos fmt m = some fields)
    (hm : m.WellFormed) (szName : String) :
    (m.text fmt szName).isSome ↔ (m.field szName).isSome := by
  constructor
  · intro htext
    unfold Message.text at htext
    simp only [Option.bind_eq_bind, Option.isSome_iff_exists,
      Option.bind_eq_some_iff] at htext
    obtain ⟨_, f, -, v, hv, -⟩ := htext
    rw [hv]
    rfl
  · intro hfield
    obtain ⟨v, hv⟩ := Option.isSome_iff_exists.mp hfield
    obtain ⟨f, hf, -⟩ := hm.typed szName v hv
    have hname := Descriptor.name_of_find hf
    have hmem : f ∈ m.descriptor.fields := List.mem_of_find?_eq_some hf
    obtain ⟨info, hinfo⟩ := Option.isSome_iff_exists.mp
      ((getFieldInfos_spec h).1 f hmem v (by rw [hname]; exact hv))
    simp [Message.text, hf, hv, hinfo]

end

/-! ## Merging -/

theorem mergeFields_spec {src dst m : Message} {fs : List FieldDescriptor}
    (h : mergeFields src fs dst = some m) :
    m.descriptor = dst.descriptor ∧
      ∀ szName, m.field szName =
        ((fs.find? fun f => f.name = szName).bind fun _ =>
          src.field szName).or (dst.field szName) := by
  induction fs generalizing dst with
  | nil =>
      cases h
      exact ⟨rfl, fun _ => rfl⟩
  | cons f fs ih =>
      simp only [mergeFields, Option.bind_eq_bind,
        Option.bind_eq_some_iff] at h
      obtain ⟨g, hg, h⟩ := h
      have hgname := Descriptor.name_of_find hg
      split at h
      · rename_i hnone
        obtain ⟨hdescriptor, hfield⟩ := ih h
        refine ⟨hdescriptor, fun szName => ?_⟩
        rw [hfield, List.find?_cons]
        by_cases heq : f.name = szName
        · subst heq
          simp [hnone]
        · simp [heq]
      · rename_i v hv
        have hset : mergeFields src fs (dst.setField g.name v) = some m := by
          split at h
          all_goals
            first
            | cases h
            | exact h
        obtain ⟨hdescriptor, hfield⟩ := ih hset
        refine ⟨hdescriptor, fun szName => ?_⟩
        rw [hfield, List.find?_cons, hgname]
        by_cases heq : f.name = szName
        · subst heq
          cases hfind : fs.find? fun g => g.name = f.name with
          | none => simp [hv, Message.setField]
          | some g' => simp [hv]
        · simp [heq, Message.setField, Function.update_of_ne (Ne.symm heq)]

section

variable {src dst m : Message}

/-- Merging overrides the fields of one message by those of the other. -/
theorem mergeData_spec (h : mergeData src dst = some m)
    (hsrc : src.WellFormed) :
    m.descriptor = dst.descriptor ∧
      ∀ szName, m.field szName =
        (src.field szName).or (dst.field szName) := by
  obtain ⟨hdescriptor, hfield⟩ := mergeFields_spec h
  refine ⟨hdescriptor, fun szName => ?_⟩
  rw [hfield]
  cases hv : src.field szName with
  | none =>
      cases src.descriptor.fields.find? fun f => f.name = szName with
      | none => rfl
      | some f => rfl
  | some v =>
      obtain ⟨f, hf, -⟩ := hsrc.typed szName v hv
      unfold Descriptor.findFieldByName at hf
      rw [hf]
      rfl

theorem wellFormed_mergeData (h : mergeData src dst = some m)
    (hsame : src.descriptor = dst.descriptor)
    (hsrc : src.WellFormed) (hdst : dst.WellFormed) : m.WellFormed := by
  obtain ⟨hdescriptor, hfield⟩ := mergeData_spec h hsrc
  constructor
  · intro name v hv
    rw [hfield, Option.or_eq_some_iff] at hv
    rw [hdescriptor]
    rcases hv with hv | ⟨-, hv⟩
    · rw [← hsame]
      exact hsrc.typed name v hv
    · exact hdst.typed name v hv
  · intro f hf hrequired
    rw [hdescriptor] at hf
    rw [hfield, Option.isSome_or, hdst.required f hf hrequired,
      Bool.or_true]

/-- A merged message can be written, and its texts are those of the first
message where it has any. -/
theorem getMessageFieldInfos_mergeData {fmt : TextFormat}
    {fs gs : List FieldInfo}
    (h : mergeData src dst = some m)
    (hsame : src.descriptor = dst.descriptor)
    (hsrc : src.WellFormed)
    (hfs : getMessageFieldInfos fmt src = some fs)
    (hgs : getMessageFieldInfos fmt dst = some gs) :
    ∃ fields, getMessageFieldInfos fmt m = some fields ∧
      ∀ szName, fieldText fields szName =
        (fieldText fs szName).or (fieldText gs szName) := by
  obtain ⟨hdescriptor, hfield⟩ := mergeData_spec h hsrc
  obtain ⟨fields, hfields⟩ : ∃ fields,
      getMessageFieldInfos fmt m = some fields := by
    apply getFieldInfos_of_forall
    intro f hf v hv
    rw [hfield, Option.or_eq_some_iff] at hv
    rw [hdescriptor] at hf
    rcases hv with hv | ⟨-, hv⟩
    · exact (getFieldInfos_spec hfs).1 f (by rw [hsame]; exact hf) v hv
    · exact (getFieldInfos_spec hgs).1 f hf v hv
  refine ⟨fields, hfields, fun szName => ?_⟩
  rw [fieldText_eq_text hfields, fieldText_eq_text hgs]
  cases hv : src.field szName with
  | some v =>
      have hsome : (fieldText fs szName).isSome := by
        rw [fieldText_eq_text hfs, isSome_text_iff hfs hsrc, hv]
        rfl
      obtain ⟨text, htext⟩ := Option.isSome_iff_exists.mp hsome
      rw [htext, Option.some_or, ← htext, fieldText_eq_text hfs]
      unfold Message.text
      rw [hfield, hv, hdescriptor, hsame]
      rfl
  | none =>
      have hnone : fieldText fs szName = none := by
        rw [← Option.not_isSome_iff_eq_none, fieldText_eq_text hfs,
          isSome_text_iff hfs hsrc, hv]
        simp
      rw [hnone, Option.none_or]
      unfold Message.text
      rw [hfield, hv, hdescriptor, Option.none_or]

end

end RealtimeEx.Db
