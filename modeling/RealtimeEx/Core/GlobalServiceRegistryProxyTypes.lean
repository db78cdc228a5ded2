import RealtimeEx.Core.GlobalServiceRegistryProxy

/-!
# The services of each type in the proxy registry

Every operation of the proxy first changes the sets of some types and then
rebuilds the vectors of these types.  In between the vectors are stale, so the
invariant is stated relative to the types that are being changed.
-/

namespace RealtimeEx.Core

open Base

namespace CGlobalServiceRegistryProxy

/-- The ids of the services of a type. -/
def serviceIDs (p : CGlobalServiceRegistryProxy) (szType : StdString) :
    StdSet UInt32 :=
  (p.mapServiceIDInfoByType[szType]?.getD {}).setServiceID

/-- The active ids of every type are ids of the type, and except for the types
in `Stale` the vector is the sorted active set. -/
def TypesOk (Stale : StdString → Prop) (p : CGlobalServiceRegistryProxy) : Prop :=
  ∀ (szType : StdString) (info : SServiceIDInfo),
    p.mapServiceIDInfoByType[szType]? = some info →
      (∀ id ∈ info.setActiveServiceID, id ∈ info.setServiceID) ∧
        (¬ Stale szType → info.vecActiveServiceID = info.setActiveServiceID.toList)

theorem TypesOk.mono {Stale Stale' : StdString → Prop}
    {p : CGlobalServiceRegistryProxy} (h : TypesOk Stale p)
    (hsub : ∀ t, Stale t → Stale' t) : TypesOk Stale' p :=
  fun t info hinfo =>
    ⟨(h t info hinfo).1, fun hfresh => (h t info hinfo).2 fun ht => hfresh (hsub t ht)⟩

theorem TypesOk.active_subset {Stale : StdString → Prop}
    {p : CGlobalServiceRegistryProxy} (h : TypesOk Stale p) (szType : StdString) :
    ∀ id ∈ (p.mapServiceIDInfoByType[szType]?.getD {}).setActiveServiceID,
      id ∈ p.serviceIDs szType := by
  intro id hid
  rw [serviceIDs]
  cases hinfo : p.mapServiceIDInfoByType[szType]? with
  | none =>
      rw [hinfo] at hid
      simp at hid
  | some info =>
      rw [hinfo] at hid
      exact (h szType info hinfo).1 id hid

/-- Changing the sets of one type makes its vector stale. -/
theorem TypesOk.modify {Stale : StdString → Prop}
    {p : CGlobalServiceRegistryProxy} (h : TypesOk Stale p) {szType : StdString}
    {f : SServiceIDInfo → SServiceIDInfo}
    (hf : ∀ id ∈ (f (p.mapServiceIDInfoByType[szType]?.getD {})).setActiveServiceID,
      id ∈ (f (p.mapServiceIDInfoByType[szType]?.getD {})).setServiceID) :
    TypesOk (fun t => Stale t ∨ szType = t) (p.modifyType szType f) := by
  intro t info hinfo
  rw [modifyType, StdMap.getElem?_insert] at hinfo
  split at hinfo
  · rename_i ht
    obtain rfl := Option.some.inj hinfo
    exact ⟨hf, fun hfresh => absurd (.inr ht) hfresh⟩
  · obtain ⟨hsub, hsorted⟩ := h t info hinfo
    exact ⟨hsub, fun hfresh => hsorted fun hstale => hfresh (.inl hstale)⟩

theorem serviceIDs_modifyType {p : CGlobalServiceRegistryProxy}
    {szType t : StdString} {f : SServiceIDInfo → SServiceIDInfo} :
    (p.modifyType szType f).serviceIDs t =
      if szType = t then (f (p.mapServiceIDInfoByType[szType]?.getD {})).setServiceID
      else p.serviceIDs t := by
  rw [serviceIDs, modifyType, StdMap.getElem?_insert]
  split <;> rfl

/-! ## Rebuilding the vectors -/

/-- One round of `updateActiveServiceID`. -/
def updateType (p : CGlobalServiceRegistryProxy) (szType : StdString) :
    CGlobalServiceRegistryProxy :=
  p.modifyType szType fun info =>
    { info with vecActiveServiceID := info.setActiveServiceID.toList }

theorem TypesOk.update {Stale : StdString → Prop}
    {p : CGlobalServiceRegistryProxy} (h : TypesOk Stale p) (szType : StdString) :
    TypesOk (fun t => Stale t ∧ szType ≠ t) (p.updateType szType) := by
  intro t info hinfo
  rw [updateType, modifyType, StdMap.getElem?_insert] at hinfo
  split at hinfo
  · obtain rfl := Option.some.inj hinfo
    exact ⟨h.active_subset szType, fun _ => rfl⟩
  · rename_i ht
    obtain ⟨hsub, hsorted⟩ := h t info hinfo
    exact ⟨hsub, fun hfresh => hsorted fun hstale => hfresh ⟨hstale, ht⟩⟩

theorem TypesOk.foldl_update {Stale : StdString → Prop}
    {p : CGlobalServiceRegistryProxy} (h : TypesOk Stale p) (types : List StdString) :
    TypesOk (fun t => Stale t ∧ t ∉ types) (types.foldl updateType p) := by
  induction types generalizing Stale p with
  | nil => exact h.mono fun t ht => ⟨ht, List.not_mem_nil⟩
  | cons szType types ih =>
      refine (ih (h.update szType)).mono fun t ht => ⟨ht.1.1, ?_⟩
      rw [List.mem_cons]
      rintro (rfl | hmem)
      · exact ht.1.2 rfl
      · exact ht.2 hmem

/-- After `updateActiveServiceID` of all stale types no vector is stale. -/
theorem TypesOk.updateActive {setType : StdSet StdString}
    {p : CGlobalServiceRegistryProxy} (h : TypesOk (· ∈ setType) p) :
    TypesOk (fun _ => False) (p.updateActiveServiceID setType) := by
  have hfold := h.foldl_update setType.toList
  exact hfold.mono fun t ht => ht.2 (Std.ExtTreeSet.mem_toList.mpr ht.1)

theorem foldl_updateType_parts (types : List StdString)
    (p : CGlobalServiceRegistryProxy) :
    (types.foldl updateType p).mapNodeProxyInfo = p.mapNodeProxyInfo ∧
      (types.foldl updateType p).mapServiceProxyInfo = p.mapServiceProxyInfo ∧
      (types.foldl updateType p).mapServiceNameByID = p.mapServiceNameByID ∧
      (types.foldl updateType p).mapServiceIDByName = p.mapServiceIDByName ∧
      ∀ t, (types.foldl updateType p).serviceIDs t = p.serviceIDs t := by
  induction types generalizing p with
  | nil => exact ⟨rfl, rfl, rfl, rfl, fun _ => rfl⟩
  | cons szType types ih =>
      obtain ⟨hnode, hproxy, hname, hid, hids⟩ := ih (p.updateType szType)
      refine ⟨hnode, hproxy, hname, hid, fun t => (hids t).trans ?_⟩
      rw [updateType, serviceIDs_modifyType]
      split
      · rename_i ht
        rw [← ht]
        rfl
      · rfl

section UpdateActiveServiceID

variable (setType : StdSet StdString) (p : CGlobalServiceRegistryProxy)

@[simp] theorem mapNodeProxyInfo_updateActiveServiceID :
    (p.updateActiveServiceID setType).mapNodeProxyInfo = p.mapNodeProxyInfo :=
  (foldl_updateType_parts setType.toList p).1

@[simp] theorem mapServiceProxyInfo_updateActiveServiceID :
    (p.updateActiveServiceID setType).mapServiceProxyInfo = p.mapServiceProxyInfo :=
  (foldl_updateType_parts setType.toList p).2.1

@[simp] theorem mapServiceNameByID_updateActiveServiceID :
    (p.updateActiveServiceID setType).mapServiceNameByID = p.mapServiceNameByID :=
  (foldl_updateType_parts setType.toList p).2.2.1

@[simp] theorem mapServiceIDByName_updateActiveServiceID :
    (p.updateActiveServiceID setType).mapServiceIDByName = p.mapServiceIDByName :=
  (foldl_updateType_parts setType.toList p).2.2.2.1

@[simp] theorem serviceIDs_updateActiveServiceID (t : StdString) :
    (p.updateActiveServiceID setType).serviceIDs t = p.serviceIDs t :=
  (foldl_updateType_parts setType.toList p).2.2.2.2 t

end UpdateActiveServiceID

/-! ## Services that join and leave -/

theorem mem_serviceTypes {vec : List SServiceBaseInfo} {t : StdString} :
    t ∈ serviceTypes vec ↔ ∃ s ∈ vec, s.szType = t := by
  have hfold (set : StdSet StdString) :
      t ∈ vec.foldl (fun set s => set.insert s.szType) set ↔
        t ∈ set ∨ ∃ s ∈ vec, s.szType = t := by
    induction vec generalizing set with
    | nil => simp
    | cons s vec ih =>
        rw [List.foldl_cons, ih, StdSet.mem_insert]
        simp only [List.mem_cons, exists_eq_or_imp]
        tauto
  rw [serviceTypes, hfold]
  simp

theorem TypesOk.add {Stale : StdString → Prop}
    {p : CGlobalServiceRegistryProxy} (h : TypesOk Stale p) (s : SServiceBaseInfo) :
    TypesOk (fun t => Stale t ∨ s.szType = t) (addServiceID s p) := by
  refine h.modify fun id hid => ?_
  rw [StdSet.mem_insert] at hid ⊢
  exact hid.imp_right (h.active_subset s.szType id)

theorem TypesOk.erase {Stale : StdString → Prop}
    {p : CGlobalServiceRegistryProxy} (h : TypesOk Stale p) (s : SServiceBaseInfo) :
    TypesOk (fun t => Stale t ∨ s.szType = t) (eraseServiceID s p) := by
  refine h.modify fun id hid => ?_
  rw [StdSet.mem_erase] at hid ⊢
  exact hid.imp_right (h.active_subset s.szType id)

theorem mem_serviceIDs_addServiceID {p : CGlobalServiceRegistryProxy}
    {s : SServiceBaseInfo} {t : StdString} {id : UInt32} :
    id ∈ (addServiceID s p).serviceIDs t ↔
      id ∈ p.serviceIDs t ∨ s.nID = id ∧ s.szType = t := by
  rw [addServiceID, serviceIDs_modifyType]
  split
  · rename_i ht
    rw [StdSet.mem_insert, ← ht]
    show _ ∨ id ∈ p.serviceIDs s.szType ↔ _
    tauto
  · tauto

theorem mem_serviceIDs_eraseServiceID {p : CGlobalServiceRegistryProxy}
    {s : SServiceBaseInfo} {t : StdString} {id : UInt32} :
    id ∈ (eraseServiceID s p).serviceIDs t ↔
      id ∈ p.serviceIDs t ∧ (s.szType = t → s.nID ≠ id) := by
  rw [eraseServiceID, serviceIDs_modifyType]
  split
  · rename_i ht
    rw [StdSet.mem_erase, ← ht]
    show _ ∧ id ∈ p.serviceIDs s.szType ↔ _
    tauto
  · tauto

end CGlobalServiceRegistryProxy

end RealtimeEx.Core
