import RealtimeEx.Core.GlobalServiceRegistryProxyTypes

/-!
# Consistency of the proxy registry

The five containers of the proxy agree with each other after every history of
calls, provided that no accepted list of services uses a name for two ids or an
id for two names.  The checks of `addNodeProxyInfo` keep the services of
different nodes apart; inside one list nothing is checked.
-/

namespace RealtimeEx.Core

open Base

namespace CGlobalServiceRegistryProxy

/-! ## The invariant -/

/-- A known node with one of its services. -/
def Knows (p : CGlobalServiceRegistryProxy) (nNodeID : UInt32)
    (s : SServiceBaseInfo) : Prop :=
  ∃ info : SNodeProxyInfo, p.mapNodeProxyInfo[nNodeID]? = some info ∧
    s ∈ info.vecServiceBaseInfo

/-- A service of the node itself or of a known node. -/
def Announced (own : List SServiceBaseInfo) (p : CGlobalServiceRegistryProxy)
    (s : SServiceBaseInfo) : Prop :=
  s ∈ own ∨ ∃ nNodeID, p.Knows nNodeID s

/-- The maps agree; `own` are the services of the node itself. -/
structure Linked (own : List SServiceBaseInfo)
    (p : CGlobalServiceRegistryProxy) : Prop where
  names : ∀ (szName : StdString) (id : UInt32),
    p.mapServiceNameByID[szName]? = some id ↔
      ∃ s, p.Announced own s ∧ s.szName = szName ∧ s.nID = id
  ids : ∀ (id : UInt32) (szName : StdString),
    p.mapServiceIDByName[id]? = some szName ↔
      ∃ s, p.Announced own s ∧ s.szName = szName ∧ s.nID = id
  sockets : ∀ {n : UInt32} {info : SNodeProxyInfo} {s : SServiceBaseInfo},
    p.mapNodeProxyInfo[n]? = some info → s ∈ info.vecServiceBaseInfo →
      ∃ q : SServiceProxyInfo, p.mapServiceProxyInfo[s.nID]? = some q ∧
        q.nSocketID = info.nSocketID
  remote : ∀ {id : UInt32} {q : SServiceProxyInfo},
    p.mapServiceProxyInfo[id]? = some q →
      ∃ (n : UInt32) (info : SNodeProxyInfo), p.mapNodeProxyInfo[n]? = some info ∧
        q.sServiceBaseInfo ∈ info.vecServiceBaseInfo ∧
        q.sServiceBaseInfo.nID = id ∧ q.nSocketID = info.nSocketID

/-- All containers agree. -/
structure Consistent (own : List SServiceBaseInfo)
    (p : CGlobalServiceRegistryProxy) : Prop extends Linked own p where
  types : TypesOk (fun _ => False) p

/-- The two maps between names and ids are inverse to each other. -/
theorem Linked.inverse {own : List SServiceBaseInfo}
    {p : CGlobalServiceRegistryProxy} (h : p.Linked own) (szName : StdString)
    (id : UInt32) :
    p.mapServiceNameByID[szName]? = some id ↔
      p.mapServiceIDByName[id]? = some szName := by
  rw [h.names, h.ids]

/-- Agreement of the maps with what keeps it: every remote service is filed
under its type, and services of different nodes differ in id and name. -/
structure Kept (own : List SServiceBaseInfo) (p : CGlobalServiceRegistryProxy) : Prop
    extends Linked own p where
  typed : ∀ {id : UInt32} {q : SServiceProxyInfo},
    p.mapServiceProxyInfo[id]? = some q →
      q.sServiceBaseInfo.nID ∈ p.serviceIDs q.sServiceBaseInfo.szType
  apart : ∀ {n n' s s'}, p.Knows n s → p.Knows n' s' →
    s.nID = s'.nID ∨ s.szName = s'.szName → n = n'
  ownApart : ∀ {n s s'}, s ∈ own → p.Knows n s' →
    s.nID ≠ s'.nID ∧ s.szName ≠ s'.szName

/-- The agreement of the maps does not concern the vectors. -/
theorem Kept.updateActive {own : List SServiceBaseInfo}
    {p : CGlobalServiceRegistryProxy} (h : Kept own p) (setType : StdSet StdString) :
    Kept own (p.updateActiveServiceID setType) := by
  have hknows (n : UInt32) (s : SServiceBaseInfo) :
      (p.updateActiveServiceID setType).Knows n s ↔ p.Knows n s := by
    simp [Knows]
  have hannounced (s : SServiceBaseInfo) :
      (p.updateActiveServiceID setType).Announced own s ↔ p.Announced own s := by
    simp only [Announced, hknows]
  exact {
    names := by simpa [hannounced] using h.names
    ids := by simpa [hannounced] using h.ids
    sockets := by simpa using @h.sockets
    remote := by simpa using @h.remote
    typed := by simpa using @h.typed
    apart := by simpa only [hknows] using @h.apart
    ownApart := by simpa only [hknows] using @h.ownApart }

/-- No name stands for two ids and no id for two names. -/
def Coherent (vec : List SServiceBaseInfo) : Prop :=
  ∀ s ∈ vec, ∀ s' ∈ vec, s.nID = s'.nID ↔ s.szName = s'.szName

/-! ## Services of a new node -/

section AddService

variable (vec : List SServiceBaseInfo) (p : CGlobalServiceRegistryProxy)

@[simp] theorem mapNodeProxyInfo_foldl_addService :
    (vec.foldl addService p).mapNodeProxyInfo = p.mapNodeProxyInfo := by
  induction vec generalizing p with
  | nil => rfl
  | cons s vec ih => exact ih _

theorem mapServiceNameByID_foldl_addService :
    (vec.foldl addService p).mapServiceNameByID =
      vec.foldl (fun m s => m.insert s.szName s.nID) p.mapServiceNameByID :=
  (List.foldl_hom mapServiceNameByID fun _ _ => rfl).symm

theorem mapServiceIDByName_foldl_addService :
    (vec.foldl addService p).mapServiceIDByName =
      vec.foldl (fun m s => m.insert s.nID s.szName) p.mapServiceIDByName :=
  (List.foldl_hom mapServiceIDByName fun _ _ => rfl).symm

theorem mapServiceProxyInfo_foldl_addService :
    (vec.foldl addService p).mapServiceProxyInfo =
      vec.foldl (fun m s => m.insert s.nID { sServiceBaseInfo := s, nSocketID := 0 })
        p.mapServiceProxyInfo :=
  (List.foldl_hom mapServiceProxyInfo fun _ _ => rfl).symm

variable {vec p}

theorem mem_serviceIDs_foldl_addService {t : StdString} {id : UInt32} :
    id ∈ (vec.foldl addService p).serviceIDs t ↔
      id ∈ p.serviceIDs t ∨ ∃ s ∈ vec, s.nID = id ∧ s.szType = t := by
  induction vec generalizing p with
  | nil => simp
  | cons s vec ih =>
      rw [List.foldl_cons, ih, addService, mem_serviceIDs_addServiceID]
      show (id ∈ p.serviceIDs t ∨ _) ∨ _ ↔ _
      simp only [List.mem_cons, exists_eq_or_imp]
      tauto

theorem TypesOk.foldl_addService {Stale : StdString → Prop} (h : TypesOk Stale p)
    (vec : List SServiceBaseInfo) :
    TypesOk (fun t => Stale t ∨ ∃ s ∈ vec, s.szType = t) (vec.foldl addService p) := by
  induction vec generalizing p Stale with
  | nil => exact h.mono fun _ => .inl
  | cons s vec ih =>
      have hadd : TypesOk (fun t => Stale t ∨ s.szType = t) (addService p s) :=
        TypesOk.add (p := addServiceName s { p with
          mapServiceProxyInfo := p.mapServiceProxyInfo.insert s.nID
            { sServiceBaseInfo := s, nSocketID := 0 } }) h s
      refine (ih hadd).mono fun t ht => ?_
      rcases ht with (ht | ht) | ⟨s', hs', ht⟩
      · exact .inl ht
      · exact .inr ⟨s, List.mem_cons_self, ht⟩
      · exact .inr ⟨s', List.mem_cons_of_mem s hs', ht⟩

end AddService

section AddNode

variable {own : List SServiceBaseInfo} {p : CGlobalServiceRegistryProxy}

/-- The state behind the checks of `addNodeProxyInfo`, up to the vectors. -/
def withNode (p : CGlobalServiceRegistryProxy) (nNodeID : UInt32)
    (info : SNodeProxyInfo) : CGlobalServiceRegistryProxy :=
  info.vecServiceBaseInfo.foldl addService
    { p with mapNodeProxyInfo := p.mapNodeProxyInfo.insert nNodeID info }

theorem mapServiceNameByID_withNode (nNodeID : UInt32) (info : SNodeProxyInfo) :
    (p.withNode nNodeID info).mapServiceNameByID =
      info.vecServiceBaseInfo.foldl (fun m s => m.insert s.szName s.nID)
        p.mapServiceNameByID :=
  mapServiceNameByID_foldl_addService _ _

theorem mapServiceIDByName_withNode (nNodeID : UInt32) (info : SNodeProxyInfo) :
    (p.withNode nNodeID info).mapServiceIDByName =
      info.vecServiceBaseInfo.foldl (fun m s => m.insert s.nID s.szName)
        p.mapServiceIDByName :=
  mapServiceIDByName_foldl_addService _ _

theorem mapServiceProxyInfo_withNode (nNodeID : UInt32) (info : SNodeProxyInfo) :
    (p.withNode nNodeID info).mapServiceProxyInfo =
      info.vecServiceBaseInfo.foldl
        (fun m s => m.insert s.nID { sServiceBaseInfo := s, nSocketID := 0 })
        p.mapServiceProxyInfo :=
  mapServiceProxyInfo_foldl_addService _ _

/-- A remote service is one of the new node or was there before. -/
theorem of_getElem?_mapServiceProxyInfo_withNode {nNodeID : UInt32}
    {info : SNodeProxyInfo} {id : UInt32} {q : SServiceProxyInfo}
    (hq : (p.withNode nNodeID info).mapServiceProxyInfo[id]? = some q) :
    (∃ s ∈ info.vecServiceBaseInfo, s.nID = id ∧ q = ⟨s, 0⟩) ∨
      p.mapServiceProxyInfo[id]? = some q := by
  rw [mapServiceProxyInfo_withNode] at hq
  by_cases hid : ∃ s ∈ info.vecServiceBaseInfo, s.nID = id
  · obtain ⟨s, hs, rfl⟩ := hid
    obtain ⟨s', hs', hkey, hget⟩ := StdMap.exists_getElem?_foldl_insert
      p.mapServiceProxyInfo hs
    exact .inl ⟨s', hs', hkey, Option.some.inj (hq.symm.trans hget)⟩
  · have hne : ∀ s ∈ info.vecServiceBaseInfo, s.nID ≠ id :=
      fun s hs heq => hid ⟨s, hs, heq⟩
    rw [StdMap.getElem?_foldl_insert_of_forall_ne _ hne] at hq
    exact .inr hq

theorem mem_serviceIDs_withNode {nNodeID : UInt32} {info : SNodeProxyInfo}
    {t : StdString} {id : UInt32} :
    id ∈ (p.withNode nNodeID info).serviceIDs t ↔
      id ∈ p.serviceIDs t ∨
        ∃ s ∈ info.vecServiceBaseInfo, s.nID = id ∧ s.szType = t :=
  mem_serviceIDs_foldl_addService

theorem getElem?_mapNodeProxyInfo_withNode {nNodeID n : UInt32}
    {info : SNodeProxyInfo} :
    (p.withNode nNodeID info).mapNodeProxyInfo[n]? =
      if nNodeID = n then some info else p.mapNodeProxyInfo[n]? := by
  rw [withNode, mapNodeProxyInfo_foldl_addService, StdMap.getElem?_insert]

theorem knows_withNode {nNodeID n : UInt32} {info : SNodeProxyInfo}
    (hnew : p.mapNodeProxyInfo[nNodeID]? = none) {s : SServiceBaseInfo} :
    (p.withNode nNodeID info).Knows n s ↔
      p.Knows n s ∨ nNodeID = n ∧ s ∈ info.vecServiceBaseInfo := by
  simp only [Knows, getElem?_mapNodeProxyInfo_withNode]
  split
  · rename_i hn
    subst hn
    simp [hnew]
  · rename_i hn
    simp [hn]

theorem announced_withNode {nNodeID : UInt32} {info : SNodeProxyInfo}
    (hnew : p.mapNodeProxyInfo[nNodeID]? = none) {s : SServiceBaseInfo} :
    (p.withNode nNodeID info).Announced own s ↔
      p.Announced own s ∨ s ∈ info.vecServiceBaseInfo := by
  simp only [Announced, knows_withNode hnew, exists_or, or_assoc,
    exists_eq_left']

theorem isFree_iff {s : SServiceBaseInfo} :
    p.isFree s = true ↔ p.mapServiceNameByID[s.szName]? = none ∧
      p.mapServiceIDByName[s.nID]? = none ∧ p.mapServiceProxyInfo[s.nID]? = none := by
  simp only [isFree, Bool.and_eq_true, Bool.not_eq_true', and_assoc,
    ← Std.ExtTreeMap.isSome_getElem?_eq_contains, Option.isSome_eq_false_iff,
    Option.isNone_iff_eq_none]

/-- A free service shares neither name nor id with an announced one. -/
theorem Linked.apart_of_isFree (h : p.Linked own) {s s' : SServiceBaseInfo}
    (hfree : p.isFree s = true) (hs' : p.Announced own s') :
    s.nID ≠ s'.nID ∧ s.szName ≠ s'.szName := by
  obtain ⟨hname, hid, -⟩ := isFree_iff.mp hfree
  constructor
  · intro heq
    have hget := (h.ids s'.nID s'.szName).mpr ⟨s', hs', rfl, rfl⟩
    rw [← heq, hid] at hget
    simp at hget
  · intro heq
    have hget := (h.names s'.szName s'.nID).mpr ⟨s', hs', rfl, rfl⟩
    rw [← heq, hname] at hget
    simp at hget

/-- Services that pass the checks and are coherent among themselves join. -/
theorem Kept.withNode (h : Kept own p) {nNodeID : UInt32} {info : SNodeProxyInfo}
    (hnew : p.mapNodeProxyInfo[nNodeID]? = none)
    (hfree : ∀ s ∈ info.vecServiceBaseInfo, p.isFree s = true)
    (hvec : Coherent info.vecServiceBaseInfo) (hsocket : info.nSocketID = 0) :
    Kept own (p.withNode nNodeID info) := by
  have hknown {n s} (hs : p.Knows n s) : p.Announced own s := .inr ⟨n, hs⟩
  refine { names := ?_, ids := ?_, sockets := ?_, remote := ?_,
           typed := ?_, apart := ?_, ownApart := ?_ }
  · intro szName id
    rw [mapServiceNameByID_withNode, StdMap.getElem?_foldl_insert_eq_some
        (fun s hs s' hs' => (hvec s hs s' hs').mpr)
        (fun s hs => (isFree_iff.mp (hfree s hs)).1), h.names]
    simp only [announced_withNode hnew, or_and_right, exists_or]
  · intro id szName
    rw [mapServiceIDByName_withNode, StdMap.getElem?_foldl_insert_eq_some
        (fun s hs s' hs' => (hvec s hs s' hs').mp)
        (fun s hs => (isFree_iff.mp (hfree s hs)).2.1), h.ids]
    simp only [announced_withNode hnew, or_and_right, exists_or,
      and_comm (a := SServiceBaseInfo.nID _ = id)]
  · intro n info' s hinfo hs
    rw [getElem?_mapNodeProxyInfo_withNode] at hinfo
    rw [mapServiceProxyInfo_withNode]
    split at hinfo
    · obtain rfl := Option.some.inj hinfo
      obtain ⟨s', -, -, hget⟩ := StdMap.exists_getElem?_foldl_insert
        p.mapServiceProxyInfo hs
      exact ⟨_, hget, hsocket.symm⟩
    · have hapart : ∀ s' ∈ info.vecServiceBaseInfo, s'.nID ≠ s.nID :=
        fun s' hs' => (h.apart_of_isFree (hfree s' hs') (hknown ⟨info', hinfo, hs⟩)).1
      rw [StdMap.getElem?_foldl_insert_of_forall_ne _ hapart]
      exact h.sockets hinfo hs
  · intro id q hq
    rcases of_getElem?_mapServiceProxyInfo_withNode hq with
      ⟨s, hs, hid, rfl⟩ | hq
    · exact ⟨nNodeID, info, by rw [getElem?_mapNodeProxyInfo_withNode, if_pos rfl],
        hs, hid, hsocket.symm⟩
    · obtain ⟨n, info', hinfo, hold⟩ := h.remote hq
      have hn : nNodeID ≠ n := by
        rintro rfl
        rw [hnew] at hinfo
        simp at hinfo
      exact ⟨n, info', by rw [getElem?_mapNodeProxyInfo_withNode, if_neg hn, hinfo], hold⟩
  · intro id q hq
    rw [mem_serviceIDs_withNode]
    rcases of_getElem?_mapServiceProxyInfo_withNode hq with
      ⟨s, hs, -, rfl⟩ | hq
    · exact .inr ⟨s, hs, rfl, rfl⟩
    · exact .inl (h.typed hq)
  · intro n n' s s' hs hs' heq
    rw [knows_withNode hnew] at hs hs'
    rcases hs with hs | ⟨rfl, hs⟩ <;> rcases hs' with hs' | ⟨rfl, hs'⟩
    · exact h.apart hs hs' heq
    · have hne := h.apart_of_isFree (hfree s' hs') (hknown hs)
      rcases heq with heq | heq
      · exact absurd heq.symm hne.1
      · exact absurd heq.symm hne.2
    · have hne := h.apart_of_isFree (hfree s hs) (hknown hs')
      rcases heq with heq | heq
      · exact absurd heq hne.1
      · exact absurd heq hne.2
    · rfl
  · intro n s s' hs hs'
    rw [knows_withNode hnew] at hs'
    rcases hs' with hs' | ⟨-, hs'⟩
    · exact h.ownApart hs hs'
    · have hne := h.apart_of_isFree (hfree s' hs') (.inl hs)
      exact ⟨Ne.symm hne.1, Ne.symm hne.2⟩

end AddNode

/-! ## The socket of a node -/

section SetSocketID

variable (nSocketID : UInt64)

/-- What the loop of `setOtherNodeSocketIDByNodeID` leaves alone. -/
theorem foldl_setServiceSocketID_parts (vec : List SServiceBaseInfo)
    (acc : CGlobalServiceRegistryProxy × StdSet StdString) :
    let p := (vec.foldl (setServiceSocketID nSocketID) acc).1
    p.mapNodeProxyInfo = acc.1.mapNodeProxyInfo ∧
      p.mapServiceNameByID = acc.1.mapServiceNameByID ∧
      p.mapServiceIDByName = acc.1.mapServiceIDByName ∧
      ∀ t, p.serviceIDs t = acc.1.serviceIDs t := by
  induction vec generalizing acc with
  | nil => exact ⟨rfl, rfl, rfl, fun _ => rfl⟩
  | cons s vec ih =>
      obtain ⟨hnode, hname, hid, hids⟩ := ih (setServiceSocketID nSocketID acc s)
      have hstep : (setServiceSocketID nSocketID acc s).1.mapNodeProxyInfo =
            acc.1.mapNodeProxyInfo ∧
          (setServiceSocketID nSocketID acc s).1.mapServiceNameByID =
            acc.1.mapServiceNameByID ∧
          (setServiceSocketID nSocketID acc s).1.mapServiceIDByName =
            acc.1.mapServiceIDByName ∧
          ∀ t, (setServiceSocketID nSocketID acc s).1.serviceIDs t =
            acc.1.serviceIDs t := by
        rw [setServiceSocketID]
        split
        · exact ⟨rfl, rfl, rfl, fun _ => rfl⟩
        · refine ⟨rfl, rfl, rfl, fun t => ?_⟩
          rw [serviceIDs_modifyType]
          split
          · rename_i ht
            rw [← ht]
            rfl
          · rfl
      exact ⟨hnode.trans hstep.1, hname.trans hstep.2.1, hid.trans hstep.2.2.1,
        fun t => (hids t).trans (hstep.2.2.2 t)⟩

/-- The loop gives the remote services of the vector the new socket. -/
theorem getElem?_foldl_setServiceSocketID (vec : List SServiceBaseInfo)
    (acc : CGlobalServiceRegistryProxy × StdSet StdString) (id : UInt32) :
    (vec.foldl (setServiceSocketID nSocketID) acc).1.mapServiceProxyInfo[id]? =
      if id ∈ vec.map SServiceBaseInfo.nID then
        acc.1.mapServiceProxyInfo[id]?.map fun q => { q with nSocketID }
      else
        acc.1.mapServiceProxyInfo[id]? := by
  induction vec generalizing acc with
  | nil => simp
  | cons s vec ih =>
      have hstep : (setServiceSocketID nSocketID acc s).1.mapServiceProxyInfo[id]? =
          if s.nID = id then
            acc.1.mapServiceProxyInfo[id]?.map fun q => { q with nSocketID }
          else
            acc.1.mapServiceProxyInfo[id]? := by
        rw [setServiceSocketID]
        split
        · rename_i hnone
          split
          · rename_i hid
            rw [← hid, hnone]
            rfl
          · rfl
        · rename_i q hq
          show (acc.1.mapServiceProxyInfo.insert s.nID { q with nSocketID })[id]? = _
          rw [StdMap.getElem?_insert]
          split
          · rename_i hid
            rw [← hid, hq]
            rfl
          · rfl
      rw [List.foldl_cons, ih, hstep]
      by_cases hid : s.nID = id
      · cases acc.1.mapServiceProxyInfo[id]? <;> simp [hid]
      · simp [hid, Ne.symm hid]

/-- A service of a type becomes active or inactive. -/
theorem TypesOk.setActive {Stale : StdString → Prop}
    {p : CGlobalServiceRegistryProxy} (h : TypesOk Stale p) {s : SServiceBaseInfo}
    (hmem : s.nID ∈ p.serviceIDs s.szType) :
    TypesOk (fun t => Stale t ∨ s.szType = t)
      (p.modifyType s.szType fun info =>
        { info with
          setActiveServiceID :=
            if nSocketID ≠ 0 then
              info.setActiveServiceID.insert s.nID
            else
              info.setActiveServiceID.erase s.nID }) := by
  refine h.modify fun id hid => ?_
  dsimp only at hid ⊢
  split at hid
  · rw [StdSet.mem_insert] at hid
    rcases hid with hid | hid
    · rw [← hid]
      exact hmem
    · exact h.active_subset s.szType id hid
  · rw [StdSet.mem_erase] at hid
    exact h.active_subset s.szType id hid.2

/-- The types of the services whose activity changed are the stale ones. -/
theorem typesOk_foldl_setServiceSocketID (vec : List SServiceBaseInfo)
    {acc : CGlobalServiceRegistryProxy × StdSet StdString}
    (htyped : ∀ {id : UInt32} {q : SServiceProxyInfo},
      acc.1.mapServiceProxyInfo[id]? = some q →
        q.sServiceBaseInfo.nID ∈ acc.1.serviceIDs q.sServiceBaseInfo.szType)
    (h : TypesOk (· ∈ acc.2) acc.1) :
    TypesOk (· ∈ (vec.foldl (setServiceSocketID nSocketID) acc).2)
      (vec.foldl (setServiceSocketID nSocketID) acc).1 := by
  induction vec generalizing acc with
  | nil => exact h
  | cons s vec ih =>
      have hids := (foldl_setServiceSocketID_parts nSocketID [s] acc).2.2.2
      have hproxy := getElem?_foldl_setServiceSocketID nSocketID [s] acc
      refine ih ?_ ?_
      · intro id q hq
        have hids' := hids q.sServiceBaseInfo.szType
        rw [List.foldl_cons, List.foldl_nil] at hids'
        rw [hids']
        have hq' := (hproxy id).symm.trans hq
        split at hq'
        · obtain ⟨q₀, hq₀, rfl⟩ := Option.map_eq_some_iff.mp hq'
          have hold := htyped hq₀
          exact hold
        · exact htyped hq'
      · rw [setServiceSocketID]
        split
        · exact h
        · rename_i q hq
          refine (h.setActive nSocketID (htyped hq)).mono fun t ht => ?_
          rw [StdSet.mem_insert]
          exact ht.symm

variable {own : List SServiceBaseInfo} {p : CGlobalServiceRegistryProxy}
  {nNodeID : UInt32} {info : SNodeProxyInfo}

/-- `setSocketID` up to the vectors. -/
def withSocketID (p : CGlobalServiceRegistryProxy) (nNodeID : UInt32)
    (info : SNodeProxyInfo) (nSocketID : UInt64) : CGlobalServiceRegistryProxy :=
  { (info.vecServiceBaseInfo.foldl (setServiceSocketID nSocketID) (p, ∅)).1 with
    mapNodeProxyInfo :=
      p.mapNodeProxyInfo.insert nNodeID { info with nSocketID } }

theorem setSocketID_eq :
    p.setSocketID nNodeID info nSocketID =
      (p.withSocketID nNodeID info nSocketID).updateActiveServiceID
        (info.vecServiceBaseInfo.foldl (setServiceSocketID nSocketID) (p, ∅)).2 := by
  have hnode := (foldl_setServiceSocketID_parts nSocketID
    info.vecServiceBaseInfo (p, ∅)).1
  rw [setSocketID, withSocketID]
  dsimp only at hnode ⊢
  rw [hnode]

theorem knows_withSocketID (hinfo : p.mapNodeProxyInfo[nNodeID]? = some info)
    {n : UInt32} {s : SServiceBaseInfo} :
    (p.withSocketID nNodeID info nSocketID).Knows n s ↔ p.Knows n s := by
  simp only [Knows, withSocketID, StdMap.getElem?_insert]
  split
  · rename_i hn
    subst hn
    simp [hinfo]
  · rfl

theorem getElem?_mapServiceProxyInfo_withSocketID (id : UInt32) :
    (p.withSocketID nNodeID info nSocketID).mapServiceProxyInfo[id]? =
      if id ∈ info.vecServiceBaseInfo.map SServiceBaseInfo.nID then
        p.mapServiceProxyInfo[id]?.map fun q => { q with nSocketID }
      else
        p.mapServiceProxyInfo[id]? :=
  getElem?_foldl_setServiceSocketID nSocketID info.vecServiceBaseInfo (p, ∅) id

/-- The services of the other nodes have other ids. -/
theorem Kept.notMem_ids (h : Kept own p)
    (hinfo : p.mapNodeProxyInfo[nNodeID]? = some info) {n : UInt32}
    {s : SServiceBaseInfo} (hs : p.Knows n s) (hn : nNodeID ≠ n) :
    s.nID ∉ info.vecServiceBaseInfo.map SServiceBaseInfo.nID := by
  intro hmem
  obtain ⟨s', hs', hid⟩ := List.mem_map.mp hmem
  exact hn (h.apart ⟨info, hinfo, hs'⟩ hs (.inl hid))

/-- A node and its services change their socket together. -/
theorem Kept.withSocketID (h : Kept own p)
    (hinfo : p.mapNodeProxyInfo[nNodeID]? = some info) :
    Kept own (p.withSocketID nNodeID info nSocketID) := by
  obtain ⟨-, hname, hid, hids⟩ := foldl_setServiceSocketID_parts nSocketID
    info.vecServiceBaseInfo (p, ∅)
  have hannounced (s : SServiceBaseInfo) :
      (p.withSocketID nNodeID info nSocketID).Announced own s ↔
        p.Announced own s := by
    simp only [Announced, knows_withSocketID nSocketID hinfo]
  refine { names := ?_, ids := ?_, sockets := ?_, remote := ?_,
           typed := ?_, apart := ?_, ownApart := ?_ }
  · intro szName id
    simp only [hannounced]
    rw [← h.names]
    exact iff_of_eq (by rw [CGlobalServiceRegistryProxy.withSocketID, hname])
  · intro id szName
    simp only [hannounced]
    rw [← h.ids]
    exact iff_of_eq (by rw [CGlobalServiceRegistryProxy.withSocketID, hid])
  · intro n info' s hinfo' hs
    rw [getElem?_mapServiceProxyInfo_withSocketID]
    rw [CGlobalServiceRegistryProxy.withSocketID, StdMap.getElem?_insert] at hinfo'
    split at hinfo'
    · obtain rfl := Option.some.inj hinfo'
      obtain ⟨q, hq, -⟩ := h.sockets hinfo hs
      rw [if_pos (List.mem_map_of_mem hs), hq]
      exact ⟨_, rfl, rfl⟩
    · rename_i hn
      rw [if_neg (h.notMem_ids hinfo ⟨info', hinfo', hs⟩ hn)]
      exact h.sockets hinfo' hs
  · intro id q hq
    rw [getElem?_mapServiceProxyInfo_withSocketID] at hq
    split at hq
    · rename_i hmem
      obtain ⟨q₀, hq₀, rfl⟩ := Option.map_eq_some_iff.mp hq
      obtain ⟨n, info₀, hinfo₀, hs, rfl, -⟩ := h.remote hq₀
      by_cases hn : nNodeID = n
      · subst hn
        obtain rfl := Option.some.inj (hinfo.symm.trans hinfo₀)
        refine ⟨nNodeID, { info with nSocketID }, ?_, hs, rfl, rfl⟩
        rw [CGlobalServiceRegistryProxy.withSocketID, StdMap.getElem?_insert,
          if_pos rfl]
      · exact absurd hmem (h.notMem_ids hinfo ⟨info₀, hinfo₀, hs⟩ hn)
    · rename_i hmem
      obtain ⟨n, info₀, hinfo₀, hs, rfl, hsocket⟩ := h.remote hq
      have hn : nNodeID ≠ n := by
        rintro rfl
        obtain rfl := Option.some.inj (hinfo.symm.trans hinfo₀)
        exact hmem (List.mem_map_of_mem hs)
      refine ⟨n, info₀, ?_, hs, rfl, hsocket⟩
      rw [CGlobalServiceRegistryProxy.withSocketID, StdMap.getElem?_insert,
        if_neg hn, hinfo₀]
  · intro id q hq
    have hids' : (p.withSocketID nNodeID info nSocketID).serviceIDs
        q.sServiceBaseInfo.szType = _ := hids q.sServiceBaseInfo.szType
    rw [hids']
    rw [getElem?_mapServiceProxyInfo_withSocketID] at hq
    split at hq
    · obtain ⟨q₀, hq₀, rfl⟩ := Option.map_eq_some_iff.mp hq
      have hold := h.typed hq₀
      exact hold
    · exact h.typed hq
  · intro n n' s s'
    simpa only [knows_withSocketID nSocketID hinfo] using h.apart
  · intro n s s'
    simpa only [knows_withSocketID nSocketID hinfo] using h.ownApart

end SetSocketID

end CGlobalServiceRegistryProxy

end RealtimeEx.Core
