import RealtimeEx.Core.GlobalServiceRegistryProxyChanges

/-!
# The active services of the proxy registry

The selectors choose among the active services of a type.  The socket of a node
decides which of its services are active, but only once it has been set: until
then the services of a node that was taken in are all active.
-/

namespace RealtimeEx.Core

open Base

namespace CGlobalServiceRegistryProxy

/-- `getActiveServiceIDByType`. -/
def getActiveServiceIDByType (p : CGlobalServiceRegistryProxy) (szType : StdString) :
    List UInt32 :=
  match p.mapServiceIDInfoByType[szType]? with
  | none => []
  | some sServiceIDInfo => sServiceIDInfo.vecActiveServiceID

/-- `CHashServiceSelector::select`. -/
def select (p : CGlobalServiceRegistryProxy) (szServiceType : StdString)
    (nContext : UInt64) : UInt32 :=
  let vecServiceID := p.getActiveServiceIDByType szServiceType
  if vecServiceID.isEmpty then
    0
  else
    vecServiceID.getD (UInt32.ofNat (nContext.toNat % vecServiceID.length)).toNat 0

/-- The ids of the active services of a type. -/
def activeIDs (p : CGlobalServiceRegistryProxy) (szType : StdString) : StdSet UInt32 :=
  (p.mapServiceIDInfoByType[szType]?.getD {}).setActiveServiceID

/-- The vector of a type whose sets did not change lists the active ids. -/
theorem TypesOk.getActiveServiceIDByType_eq {p : CGlobalServiceRegistryProxy}
    (h : TypesOk (fun _ => False) p) (szType : StdString) :
    p.getActiveServiceIDByType szType = (p.activeIDs szType).toList := by
  rw [getActiveServiceIDByType, activeIDs]
  split
  · rename_i hnone
    rw [hnone]
    simp
  · rename_i info hinfo
    rw [hinfo]
    exact (h szType info hinfo).2 id

/-- The hash selector chooses an active service, if there is one. -/
theorem select_mem {p : CGlobalServiceRegistryProxy} {szType : StdString}
    (hne : p.getActiveServiceIDByType szType ≠ []) (nContext : UInt64) :
    p.select szType nContext ∈ p.getActiveServiceIDByType szType := by
  have hpos : 0 < (p.getActiveServiceIDByType szType).length :=
    List.length_pos_iff.mpr hne
  have hindex : (UInt32.ofNat (nContext.toNat %
      (p.getActiveServiceIDByType szType).length)).toNat <
        (p.getActiveServiceIDByType szType).length := by
    apply Nat.lt_of_le_of_lt _ (Nat.mod_lt nContext.toNat hpos)
    rw [UInt32.toNat_ofNat']
    exact Nat.mod_le _ _
  have hsome : (p.getActiveServiceIDByType szType).isEmpty = false := by
    simpa using hne
  simp only [select, hsome, Bool.false_eq_true, if_false]
  rw [List.getD_eq_getElem?_getD, List.getElem?_eq_getElem hindex]
  exact List.getElem_mem hindex

/-! ## Changes of the active ids -/

theorem activeIDs_modifyType {p : CGlobalServiceRegistryProxy}
    {szType t : StdString} {f : SServiceIDInfo → SServiceIDInfo} :
    (p.modifyType szType f).activeIDs t =
      if szType = t then
        (f (p.mapServiceIDInfoByType[szType]?.getD {})).setActiveServiceID
      else
        p.activeIDs t := by
  rw [activeIDs, modifyType, StdMap.getElem?_insert]
  split <;> rfl

@[simp] theorem activeIDs_updateActiveServiceID (setType : StdSet StdString)
    (p : CGlobalServiceRegistryProxy) (t : StdString) :
    (p.updateActiveServiceID setType).activeIDs t = p.activeIDs t := by
  have hfold (types : List StdString) (p : CGlobalServiceRegistryProxy) :
      (types.foldl updateType p).activeIDs t = p.activeIDs t := by
    induction types generalizing p with
    | nil => rfl
    | cons szType types ih =>
        rw [List.foldl_cons, ih, updateType, activeIDs_modifyType]
        split
        · rename_i ht
          rw [← ht]
          rfl
        · rfl
  exact hfold setType.toList p

section Services

variable {p : CGlobalServiceRegistryProxy} {t : StdString} {id : UInt32}

theorem mem_activeIDs_addServiceID {s : SServiceBaseInfo} :
    id ∈ (addServiceID s p).activeIDs t ↔
      id ∈ p.activeIDs t ∨ s.nID = id ∧ s.szType = t := by
  rw [addServiceID, activeIDs_modifyType]
  split
  · rename_i ht
    rw [StdSet.mem_insert, ← ht]
    show _ ∨ id ∈ p.activeIDs s.szType ↔ _
    tauto
  · tauto

theorem mem_activeIDs_eraseServiceID {s : SServiceBaseInfo} :
    id ∈ (eraseServiceID s p).activeIDs t ↔
      id ∈ p.activeIDs t ∧ (s.szType = t → s.nID ≠ id) := by
  rw [eraseServiceID, activeIDs_modifyType]
  split
  · rename_i ht
    rw [StdSet.mem_erase, ← ht]
    show _ ∧ id ∈ p.activeIDs s.szType ↔ _
    tauto
  · tauto

theorem mem_activeIDs_foldl_addService {vec : List SServiceBaseInfo} :
    id ∈ (vec.foldl addService p).activeIDs t ↔
      id ∈ p.activeIDs t ∨ ∃ s ∈ vec, s.nID = id ∧ s.szType = t := by
  induction vec generalizing p with
  | nil => simp
  | cons s vec ih =>
      rw [List.foldl_cons, ih, addService, mem_activeIDs_addServiceID]
      show (id ∈ p.activeIDs t ∨ _) ∨ _ ↔ _
      simp only [List.mem_cons, exists_eq_or_imp]
      tauto

theorem mem_activeIDs_foldl_delService {vec : List SServiceBaseInfo} :
    id ∈ (vec.foldl delService p).activeIDs t ↔
      id ∈ p.activeIDs t ∧ ∀ s ∈ vec, s.szType = t → s.nID ≠ id := by
  induction vec generalizing p with
  | nil => simp
  | cons s vec ih =>
      rw [List.foldl_cons, ih, delService, mem_activeIDs_eraseServiceID]
      show (id ∈ p.activeIDs t ∧ _) ∧ _ ↔ _
      rw [List.forall_mem_cons, and_assoc]

end Services

/-- Remote services are stored under their ids. -/
def Keyed (p : CGlobalServiceRegistryProxy) : Prop :=
  ∀ (id : UInt32) (q : SServiceProxyInfo), p.mapServiceProxyInfo[id]? = some q →
    q.sServiceBaseInfo.nID = id

/-- One round of the loop changes the activity of one remote service. -/
theorem mem_activeIDs_setServiceSocketID {nSocketID : UInt64}
    {acc : CGlobalServiceRegistryProxy × StdSet StdString} (hkeyed : acc.1.Keyed)
    (s : SServiceBaseInfo) {id : UInt32} {q : SServiceProxyInfo}
    (hq : acc.1.mapServiceProxyInfo[id]? = some q) :
    id ∈ (setServiceSocketID nSocketID acc s).1.activeIDs q.sServiceBaseInfo.szType ↔
      if s.nID = id then nSocketID ≠ 0
      else id ∈ acc.1.activeIDs q.sServiceBaseInfo.szType := by
  rw [setServiceSocketID]
  split
  · rename_i hnone
    rw [if_neg]
    rintro rfl
    rw [hnone] at hq
    cases hq
  · rename_i q' hq'
    have hid' := hkeyed _ q' hq'
    rw [activeIDs_modifyType]
    split
    · rename_i htype
      show id ∈ (if nSocketID ≠ 0 then
          (acc.1.activeIDs q'.sServiceBaseInfo.szType).insert q'.sServiceBaseInfo.nID
        else
          (acc.1.activeIDs q'.sServiceBaseInfo.szType).erase q'.sServiceBaseInfo.nID) ↔ _
      rw [hid', htype]
      by_cases hid : s.nID = id
      · by_cases hsocket : nSocketID = 0
        · simp [hid, hsocket]
        · simp [hid, hsocket]
      · by_cases hsocket : nSocketID = 0
        · simp [hid, hsocket]
        · simp [hid, hsocket]
    · rename_i htype
      rw [if_neg]
      · rfl
      · rintro rfl
        rw [hq] at hq'
        exact htype (by rw [Option.some.inj hq'])

theorem keyed_setServiceSocketID {nSocketID : UInt64}
    {acc : CGlobalServiceRegistryProxy × StdSet StdString} (hkeyed : acc.1.Keyed)
    (s : SServiceBaseInfo) : (setServiceSocketID nSocketID acc s).1.Keyed := by
  intro id q hq
  rw [setServiceSocketID] at hq
  split at hq
  · exact hkeyed id q hq
  · rename_i q' hq'
    change (acc.1.mapServiceProxyInfo.insert s.nID _)[id]? = some q at hq
    rw [StdMap.getElem?_insert] at hq
    split at hq
    · rename_i hid
      obtain rfl := Option.some.inj hq
      exact (hkeyed _ q' hq').trans hid
    · exact hkeyed id q hq

/-- The loop makes the remote services of the vector active or inactive. -/
theorem mem_activeIDs_foldl_setServiceSocketID {nSocketID : UInt64}
    {acc : CGlobalServiceRegistryProxy × StdSet StdString} (hkeyed : acc.1.Keyed)
    (vec : List SServiceBaseInfo) {id : UInt32} {q : SServiceProxyInfo}
    (hq : acc.1.mapServiceProxyInfo[id]? = some q) :
    id ∈ (vec.foldl (setServiceSocketID nSocketID) acc).1.activeIDs
        q.sServiceBaseInfo.szType ↔
      if id ∈ vec.map SServiceBaseInfo.nID then nSocketID ≠ 0
      else id ∈ acc.1.activeIDs q.sServiceBaseInfo.szType := by
  induction vec generalizing acc q with
  | nil => simp
  | cons s vec ih =>
      have hstep : id ∈ (setServiceSocketID nSocketID acc s).1.activeIDs
          q.sServiceBaseInfo.szType ↔
            if s.nID = id then nSocketID ≠ 0
            else id ∈ acc.1.activeIDs q.sServiceBaseInfo.szType :=
        mem_activeIDs_setServiceSocketID hkeyed s hq
      have hget := getElem?_foldl_setServiceSocketID nSocketID [s] acc id
      rw [List.foldl_cons, List.foldl_nil, hq] at hget
      have hkeyed' : (setServiceSocketID nSocketID acc s).1.Keyed :=
        keyed_setServiceSocketID hkeyed s
      -- The entry keeps its type.
      obtain ⟨q', hq', htype⟩ : ∃ q' : SServiceProxyInfo,
          (setServiceSocketID nSocketID acc s).1.mapServiceProxyInfo[id]? = some q' ∧
            q'.sServiceBaseInfo.szType = q.sServiceBaseInfo.szType := by
        split at hget
        · exact ⟨_, hget, rfl⟩
        · exact ⟨_, hget, rfl⟩
      have hrest := ih hkeyed' hq'
      rw [htype] at hrest
      rw [List.foldl_cons, hrest, hstep]
      by_cases hid : s.nID = id
      · simp [hid]
      · simp [hid, Ne.symm hid]

/-! ## Which nodes had their socket set -/

/-- The nodes whose socket has been set since they were taken in, after a call.
They are followed beside the proxy, which does not store them. -/
def reportedBy (p : CGlobalServiceRegistryProxy) (setReported : StdSet UInt32) :
    Call → StdSet UInt32
  | .setOtherNodeSocketIDByNodeID nNodeID _ =>
      if p.mapNodeProxyInfo.contains nNodeID then
        setReported.insert nNodeID
      else
        setReported
  | .delNodeProxyInfo nNodeID => setReported.erase nNodeID
  | .setNodeProxyInfo mapNodeInfo _ =>
      setReported.filter fun nNodeID => mapNodeInfo.contains nNodeID
  | _ => setReported

/-- The nodes whose socket has been set since they were taken in, after a
history of calls. -/
def reported (p : CGlobalServiceRegistryProxy) (setReported : StdSet UInt32) :
    List Call → StdSet UInt32
  | [] => setReported
  | call :: calls => (p.exec call).reported (p.reportedBy setReported call) calls

/-- A service of another node is active exactly while its node is connected. -/
def OnlyConnected (p : CGlobalServiceRegistryProxy) : Prop :=
  ∀ (id : UInt32) (q : SServiceProxyInfo) (n : UInt32) (info : SNodeProxyInfo),
    p.mapServiceProxyInfo[id]? = some q → p.mapNodeProxyInfo[n]? = some info →
      q.sServiceBaseInfo ∈ info.vecServiceBaseInfo →
        (id ∈ p.getActiveServiceIDByType q.sServiceBaseInfo.szType ↔ info.nSocketID ≠ 0)

/-- The socket of a node decides about its services, except that all services
of a node whose socket was never set are active. -/
structure Tracked (Reported : UInt32 → Prop) (p : CGlobalServiceRegistryProxy) :
    Prop where
  held : p.Held
  keyed : p.Keyed
  typed : ∀ {id : UInt32} {q : SServiceProxyInfo},
    p.mapServiceProxyInfo[id]? = some q →
      q.sServiceBaseInfo.nID ∈ p.serviceIDs q.sServiceBaseInfo.szType
  remote : ∀ {id : UInt32} {q : SServiceProxyInfo},
    p.mapServiceProxyInfo[id]? = some q → ∃ n, p.Knows n q.sServiceBaseInfo
  active : ∀ {id : UInt32} {q : SServiceProxyInfo} {n : UInt32} {info : SNodeProxyInfo},
    p.mapServiceProxyInfo[id]? = some q → p.mapNodeProxyInfo[n]? = some info →
      q.sServiceBaseInfo ∈ info.vecServiceBaseInfo →
        (id ∈ p.activeIDs q.sServiceBaseInfo.szType ↔ info.nSocketID ≠ 0 ∨ ¬ Reported n)
  connected : ∀ {n : UInt32} {info : SNodeProxyInfo},
    p.mapNodeProxyInfo[n]? = some info → info.nSocketID ≠ 0 → Reported n
  known : ∀ {n : UInt32}, Reported n → n ∈ p.mapNodeProxyInfo

section Tracked

variable {p : CGlobalServiceRegistryProxy} {Reported : UInt32 → Prop}

theorem Tracked.congr {Reported' : UInt32 → Prop} (h : Tracked Reported p)
    (hiff : ∀ n, Reported n ↔ Reported' n) : Tracked Reported' p := by
  obtain rfl : Reported = Reported' := funext fun n => propext (hiff n)
  exact h

theorem Tracked.updateActive (h : Tracked Reported p) (setType : StdSet StdString) :
    Tracked Reported (p.updateActiveServiceID setType) where
  held := ((Changes.refl (fun _ => False) (fun _ => False) p).updateActive setType).held h.held
  keyed := by simpa [Keyed] using h.keyed
  typed := by simpa using @h.typed
  remote := by simpa [Knows] using @h.remote
  active := by simpa using @h.active
  connected := by simpa using @h.connected
  known := by simpa using @h.known

/-- Whose service a remote service is decides the whole property. -/
theorem Tracked.onlyConnected_iff (h : Tracked Reported p)
    (htypes : TypesOk (fun _ => False) p) :
    p.OnlyConnected ↔ ∀ (n : UInt32) (info : SNodeProxyInfo),
      p.mapNodeProxyInfo[n]? = some info → info.vecServiceBaseInfo ≠ [] → Reported n := by
  have hlist (id : UInt32) (t : StdString) :
      id ∈ p.getActiveServiceIDByType t ↔ id ∈ p.activeIDs t := by
    rw [htypes.getActiveServiceIDByType_eq, Std.ExtTreeSet.mem_toList]
  constructor
  · intro honly n info hinfo hne
    obtain ⟨s, hs⟩ := List.exists_mem_of_ne_nil _ hne
    have hmem := h.held.known ⟨info, hinfo, hs⟩
    rw [← Std.ExtTreeMap.contains_iff_mem, Std.ExtTreeMap.contains_eq_isSome_getElem?,
      Option.isSome_iff_exists] at hmem
    obtain ⟨q, hq⟩ := hmem
    obtain ⟨n', info', hinfo', hq'⟩ := h.remote hq
    -- Another service of the same node may be stored under the id.
    obtain rfl := h.held.apart ⟨info, hinfo, hs⟩ ⟨info', hinfo', hq'⟩ (h.keyed _ q hq).symm
    obtain rfl := Option.some.inj (hinfo.symm.trans hinfo')
    have hactive := honly s.nID q n info hq hinfo hq'
    rw [hlist, h.active hq hinfo hq'] at hactive
    by_contra hnot
    exact hnot (h.connected hinfo (hactive.mp (.inr hnot)))
  · intro hall id q n info hq hinfo hs
    have hreported := hall n info hinfo (List.ne_nil_of_mem hs)
    rw [hlist, h.active hq hinfo hs]
    simp [hreported]

/-! ## Calls -/

variable {nNodeID : UInt32} {info : SNodeProxyInfo}

/-- A node that was taken in has its services active, connected or not. -/
theorem Tracked.withNode (h : Tracked Reported p)
    (hnew : p.mapNodeProxyInfo[nNodeID]? = none)
    (hfree : ∀ s ∈ info.vecServiceBaseInfo, p.isFree s = true)
    (hsocket : info.nSocketID = 0) :
    Tracked Reported (p.withNode nNodeID info) := by
  have hfresh : ∀ s ∈ info.vecServiceBaseInfo, p.mapServiceProxyInfo[s.nID]? = none :=
    fun s hs => (isFree_iff.mp (hfree s hs)).2.2
  have hunreported : ¬ Reported nNodeID := by
    intro hreported
    obtain ⟨info', hinfo'⟩ := mem_mapNodeProxyInfo_iff.mp (h.known hreported)
    rw [hnew] at hinfo'
    cases hinfo'
  refine { held := ?_, keyed := ?_, typed := ?_, remote := ?_, active := ?_,
           connected := ?_, known := ?_ }
  · have hchanges : Changes (fun _ => False) (· = nNodeID) p (p.withNode nNodeID info) :=
      changes_withNode hnew hfree
    exact hchanges.held h.held
  · intro id q hq
    rcases of_getElem?_mapServiceProxyInfo_withNode hq with ⟨s, -, hid, rfl⟩ | hq
    · exact hid
    · exact h.keyed id q hq
  · intro id q hq
    rw [mem_serviceIDs_withNode]
    rcases of_getElem?_mapServiceProxyInfo_withNode hq with ⟨s, hs, -, rfl⟩ | hq
    · exact .inr ⟨s, hs, rfl, rfl⟩
    · exact .inl (h.typed hq)
  · intro id q hq
    simp only [knows_withNode hnew]
    rcases of_getElem?_mapServiceProxyInfo_withNode hq with ⟨s, hs, -, rfl⟩ | hq
    · exact ⟨nNodeID, .inr ⟨rfl, hs⟩⟩
    · obtain ⟨n, hn⟩ := h.remote hq
      exact ⟨n, .inl hn⟩
  · intro id q n info' hq hinfo' hs
    show id ∈ (info.vecServiceBaseInfo.foldl addService _).activeIDs _ ↔ _
    rw [mem_activeIDs_foldl_addService]
    rw [getElem?_mapNodeProxyInfo_withNode] at hinfo'
    rcases of_getElem?_mapServiceProxyInfo_withNode hq with ⟨s, hmem, hid, rfl⟩ | hq
    · -- The service is new, and so is its node.
      split at hinfo'
      · rename_i hn
        subst hn
        have hleft : ∃ s' ∈ info.vecServiceBaseInfo, s'.nID = id ∧ s'.szType = s.szType :=
          ⟨s, hmem, hid, rfl⟩
        exact ⟨fun _ => .inr hunreported, fun _ => .inr hleft⟩
      · have hknown := h.held.known ⟨info', hinfo', hs⟩
        rw [← Std.ExtTreeMap.contains_iff_mem,
          Std.ExtTreeMap.contains_eq_isSome_getElem?, hfresh s hmem] at hknown
        cases hknown
    · -- The service was there before; no new service has its id.
      have hapart : ∀ s ∈ info.vecServiceBaseInfo, s.nID ≠ id := by
        rintro s hmem rfl
        rw [hfresh s hmem] at hq
        cases hq
      split at hinfo'
      · obtain rfl := Option.some.inj hinfo'
        exact absurd (h.keyed id q hq) (hapart _ hs)
      · rw [← h.active hq hinfo' hs]
        refine ⟨fun hid => hid.resolve_right ?_, .inl⟩
        rintro ⟨s, hmem, hid, -⟩
        exact hapart s hmem hid
  · intro n info' hinfo' hne
    rw [getElem?_mapNodeProxyInfo_withNode] at hinfo'
    split at hinfo'
    · obtain rfl := Option.some.inj hinfo'
      exact absurd hsocket hne
    · exact h.connected hinfo' hne
  · intro n hreported
    rw [mem_mapNodeProxyInfo_iff, getElem?_mapNodeProxyInfo_withNode]
    split
    · exact ⟨info, rfl⟩
    · exact mem_mapNodeProxyInfo_iff.mp (h.known hreported)

/-- From its first socket on, a node is tracked. -/
theorem Tracked.withSocketID (h : Tracked Reported p)
    (hinfo : p.mapNodeProxyInfo[nNodeID]? = some info) (nSocketID : UInt64) :
    Tracked (fun n => Reported n ∨ n = nNodeID) (p.withSocketID nNodeID info nSocketID) := by
  have hgetNode (n : UInt32) :
      (p.withSocketID nNodeID info nSocketID).mapNodeProxyInfo[n]? =
        if nNodeID = n then some { info with nSocketID } else p.mapNodeProxyInfo[n]? :=
    StdMap.getElem?_insert
  have hservice {id : UInt32} {q : SServiceProxyInfo}
      (hq : (p.withSocketID nNodeID info nSocketID).mapServiceProxyInfo[id]? = some q) :
      ∃ q₀ : SServiceProxyInfo, p.mapServiceProxyInfo[id]? = some q₀ ∧
        q₀.sServiceBaseInfo = q.sServiceBaseInfo := by
    rw [getElem?_mapServiceProxyInfo_withSocketID] at hq
    split at hq
    · obtain ⟨q₀, hq₀, rfl⟩ := Option.map_eq_some_iff.mp hq
      exact ⟨q₀, hq₀, rfl⟩
    · exact ⟨q, hq, rfl⟩
  refine { held := ?_, keyed := ?_, typed := ?_, remote := ?_, active := ?_,
           connected := ?_, known := ?_ }
  · have hchanges : Changes (fun _ => False) (fun _ => False) p
        (p.withSocketID nNodeID info nSocketID) := changes_withSocketID nSocketID hinfo
    exact hchanges.held h.held
  · intro id q hq
    obtain ⟨q₀, hq₀, heq⟩ := hservice hq
    rw [← heq]
    exact h.keyed id q₀ hq₀
  · intro id q hq
    obtain ⟨q₀, hq₀, heq⟩ := hservice hq
    have hids := (foldl_setServiceSocketID_parts nSocketID info.vecServiceBaseInfo
      (p, ∅)).2.2.2 q.sServiceBaseInfo.szType
    show _ ∈ (info.vecServiceBaseInfo.foldl (setServiceSocketID nSocketID) (p, ∅)).1.serviceIDs _
    rw [hids, ← heq]
    exact h.typed hq₀
  · intro id q hq
    obtain ⟨q₀, hq₀, heq⟩ := hservice hq
    simp only [knows_withSocketID nSocketID hinfo, ← heq]
    exact h.remote hq₀
  · intro id q n info' hq hinfo' hs
    obtain ⟨q₀, hq₀, heq⟩ := hservice hq
    rw [← heq] at hs ⊢
    have hactive : id ∈ (info.vecServiceBaseInfo.foldl (setServiceSocketID nSocketID)
        (p, ∅)).1.activeIDs q₀.sServiceBaseInfo.szType ↔
          if id ∈ info.vecServiceBaseInfo.map SServiceBaseInfo.nID then nSocketID ≠ 0
          else id ∈ p.activeIDs q₀.sServiceBaseInfo.szType :=
      mem_activeIDs_foldl_setServiceSocketID h.keyed info.vecServiceBaseInfo hq₀
    refine hactive.trans ?_
    have hid := h.keyed id q₀ hq₀
    rw [hgetNode] at hinfo'
    split at hinfo'
    · rename_i hn
      obtain rfl := Option.some.inj hinfo'
      have hmem : id ∈ info.vecServiceBaseInfo.map SServiceBaseInfo.nID := by
        rw [← hid]
        exact List.mem_map_of_mem hs
      simp [hmem, hn]
    · rename_i hn
      have hmem : id ∉ info.vecServiceBaseInfo.map SServiceBaseInfo.nID := by
        intro hmem
        obtain ⟨s', hs', hid'⟩ := List.mem_map.mp hmem
        exact hn (h.held.apart ⟨info, hinfo, hs'⟩ ⟨info', hinfo', hs⟩
          (hid'.trans hid.symm))
      rw [if_neg hmem]
      refine (h.active hq₀ hinfo' hs).trans ?_
      simp [Ne.symm hn]
  · intro n info' hinfo' hne
    rw [hgetNode] at hinfo'
    split at hinfo'
    · rename_i hn
      exact .inr hn.symm
    · exact .inl (h.connected hinfo' hne)
  · intro n hreported
    rw [mem_mapNodeProxyInfo_iff, hgetNode]
    split
    · exact ⟨_, rfl⟩
    · rename_i hn
      rcases hreported with hreported | rfl
      · exact mem_mapNodeProxyInfo_iff.mp (h.known hreported)
      · exact absurd rfl hn

theorem Tracked.withoutNode (h : Tracked Reported p)
    (hinfo : p.mapNodeProxyInfo[nNodeID]? = some info) :
    Tracked (fun n => Reported n ∧ n ≠ nNodeID)
      (p.withoutNode nNodeID info.vecServiceBaseInfo) := by
  have hservice {id : UInt32} {q : SServiceProxyInfo}
      (hq : (p.withoutNode nNodeID info.vecServiceBaseInfo).mapServiceProxyInfo[id]? =
        some q) :
      p.mapServiceProxyInfo[id]? = some q ∧
        ∀ s ∈ info.vecServiceBaseInfo, s.nID ≠ id := by
    rw [getElem?_mapServiceProxyInfo_withoutNode] at hq
    split at hq
    · cases hq
    · rename_i hmem
      refine ⟨hq, fun s hs hid => hmem ?_⟩
      rw [← hid]
      exact List.mem_map_of_mem hs
  refine { held := ?_, keyed := ?_, typed := ?_, remote := ?_, active := ?_,
           connected := ?_, known := ?_ }
  · have hchanges : Changes (· = nNodeID) (fun _ => False) p
        (p.withoutNode nNodeID info.vecServiceBaseInfo) := changes_withoutNode hinfo
    exact hchanges.held h.held
  · intro id q hq
    exact h.keyed id q (hservice hq).1
  · intro id q hq
    obtain ⟨hq, hapart⟩ := hservice hq
    show _ ∈ (info.vecServiceBaseInfo.foldl delService p).serviceIDs _
    rw [mem_serviceIDs_foldl_delService, h.keyed id q hq]
    refine ⟨?_, fun s hs _ => hapart s hs⟩
    rw [← h.keyed id q hq]
    exact h.typed hq
  · intro id q hq
    obtain ⟨hq, hapart⟩ := hservice hq
    obtain ⟨n, info', hinfo', hs⟩ := h.remote hq
    refine ⟨n, knows_withoutNode.mpr ⟨?_, info', hinfo', hs⟩⟩
    rintro rfl
    obtain rfl := Option.some.inj (hinfo.symm.trans hinfo')
    exact hapart _ hs (h.keyed id q hq)
  · intro id q n info' hq hinfo' hs
    obtain ⟨hq, hapart⟩ := hservice hq
    show id ∈ (info.vecServiceBaseInfo.foldl delService p).activeIDs _ ↔ _
    rw [mem_activeIDs_foldl_delService]
    rw [getElem?_mapNodeProxyInfo_withoutNode] at hinfo'
    split at hinfo'
    · cases hinfo'
    · rename_i hn
      rw [h.active hq hinfo' hs]
      have hall : ∀ s ∈ info.vecServiceBaseInfo,
          s.szType = q.sServiceBaseInfo.szType → s.nID ≠ id :=
        fun s hmem _ => hapart s hmem
      simp only [Ne.symm hn, ne_eq, not_false_eq_true, and_true]
      exact and_iff_left hall
  · intro n info' hinfo' hne
    rw [getElem?_mapNodeProxyInfo_withoutNode] at hinfo'
    split at hinfo'
    · cases hinfo'
    · rename_i hn
      exact ⟨h.connected hinfo' hne, Ne.symm hn⟩
  · intro n hreported
    rw [mem_mapNodeProxyInfo_iff, getElem?_mapNodeProxyInfo_withoutNode,
      if_neg (Ne.symm hreported.2)]
    exact mem_mapNodeProxyInfo_iff.mp (h.known hreported.1)

/-- The two parts of the invariant between calls. -/
structure Watched (Reported : UInt32 → Prop) (p : CGlobalServiceRegistryProxy) : Prop
    extends Tracked Reported p where
  types : TypesOk (fun _ => False) p

theorem Watched.setSocketID (h : Watched Reported p)
    (hinfo : p.mapNodeProxyInfo[nNodeID]? = some info) (nSocketID : UInt64) :
    Watched (fun n => Reported n ∨ n = nNodeID) (p.setSocketID nNodeID info nSocketID) := by
  rw [setSocketID_eq]
  refine ⟨(h.toTracked.withSocketID hinfo nSocketID).updateActive _, ?_⟩
  apply TypesOk.updateActive
  apply typesOk_foldl_setServiceSocketID nSocketID info.vecServiceBaseInfo h.typed
  exact h.types.mono fun _ => False.elim

theorem Watched.withoutNode (h : Watched Reported p)
    (hinfo : p.mapNodeProxyInfo[nNodeID]? = some info) :
    Watched (fun n => Reported n ∧ n ≠ nNodeID)
      ((p.withoutNode nNodeID info.vecServiceBaseInfo).updateActiveServiceID
        (serviceTypes info.vecServiceBaseInfo)) :=
  ⟨(h.toTracked.withoutNode hinfo).updateActive _,
    h.types.updateActive_withoutNode nNodeID _⟩

theorem Watched.delNodeProxyInfo (h : Watched Reported p) (nNodeID : UInt32) :
    Watched (fun n => Reported n ∧ n ≠ nNodeID) (p.delNodeProxyInfo nNodeID) := by
  cases hinfo : p.mapNodeProxyInfo[nNodeID]? with
  | none =>
      simp only [CGlobalServiceRegistryProxy.delNodeProxyInfo, hinfo]
      refine ⟨h.toTracked.congr fun n => ?_, h.types⟩
      refine ⟨fun hn => ⟨hn, ?_⟩, And.left⟩
      rintro rfl
      obtain ⟨info, hinfo'⟩ := mem_mapNodeProxyInfo_iff.mp (h.known hn)
      rw [hinfo] at hinfo'
      cases hinfo'
  | some info =>
      rw [delNodeProxyInfo_eq hinfo]
      split
      · have hleft := (h.setSocketID hinfo 0).withoutNode (getElem?_setSocketID_self 0)
        refine ⟨hleft.toTracked.congr fun n => ?_, hleft.types⟩
        simp only [or_and_right, and_not_self, or_false, ne_eq]
      · exact h.withoutNode hinfo

theorem Watched.addNodeProxyInfo (h : Watched Reported p) (base : SNodeBaseInfo)
    (vec : List SServiceBaseInfo) (bExcludeConnect : Bool) :
    Watched Reported (p.addNodeProxyInfo base vec bExcludeConnect) := by
  cases haccepts : p.accepts base vec with
  | false =>
      rw [addNodeProxyInfo_of_not_accepts haccepts]
      exact h
  | true =>
      obtain ⟨info, rfl, hsocket, hnew, hfree, heq⟩ :=
        addNodeProxyInfo_of_accepts bExcludeConnect haccepts
      rw [heq]
      exact ⟨(h.toTracked.withNode hnew hfree hsocket).updateActive _,
        h.types.updateActive_withNode base.nID info⟩

theorem Watched.setOtherNodeSocketIDByNodeID (h : Watched Reported p)
    (nNodeID : UInt32) (nSocketID : UInt64) :
    Watched (fun n => Reported n ∨ n = nNodeID ∧ nNodeID ∈ p.mapNodeProxyInfo)
      (p.setOtherNodeSocketIDByNodeID nNodeID nSocketID).2 := by
  rw [CGlobalServiceRegistryProxy.setOtherNodeSocketIDByNodeID]
  split
  · rename_i hnone
    refine ⟨h.toTracked.congr fun n => (or_iff_left ?_).symm, h.types⟩
    rintro ⟨-, hmem⟩
    obtain ⟨info, hinfo⟩ := mem_mapNodeProxyInfo_iff.mp hmem
    rw [hnone] at hinfo
    cases hinfo
  · rename_i info hinfo
    split
    · -- The node is connected, so its socket has been set before.
      rename_i hsocket
      refine ⟨h.toTracked.congr fun n => (or_iff_left_of_imp ?_).symm, h.types⟩
      rintro ⟨rfl, -⟩
      exact h.connected hinfo hsocket.2
    · have hset := h.setSocketID hinfo nSocketID
      have hmem := mem_mapNodeProxyInfo_iff.mpr ⟨info, hinfo⟩
      refine ⟨hset.toTracked.congr fun n => ?_, hset.types⟩
      simp only [hmem, and_true]

theorem Watched.foldl_delNodeProxyInfo (h : Watched Reported p) (ids : List UInt32) :
    Watched (fun n => Reported n ∧ n ∉ ids)
      (ids.foldl CGlobalServiceRegistryProxy.delNodeProxyInfo p) := by
  induction ids generalizing p Reported with
  | nil => exact ⟨h.toTracked.congr fun n => by simp, h.types⟩
  | cons id ids ih =>
      have hrest := ih (h.delNodeProxyInfo id)
      refine ⟨hrest.toTracked.congr fun n => ?_, hrest.types⟩
      rw [List.mem_cons, not_or, and_assoc]

theorem Watched.foldl_addUnknown (h : Watched Reported p)
    (setExcludeConnectNodeID : StdSet UInt32) (es : List (UInt32 × SNodeInfo)) :
    Watched Reported
      (es.foldl (CGlobalServiceRegistryProxy.addUnknown setExcludeConnectNodeID) p) := by
  induction es generalizing p with
  | nil => exact h
  | cons e es ih =>
      apply ih
      rw [CGlobalServiceRegistryProxy.addUnknown]
      split
      · exact h
      · exact h.addNodeProxyInfo _ _ _

/-- A list of nodes from a master leaves only reported nodes that it contains. -/
theorem Watched.setNodeProxyInfo (h : Watched Reported p)
    (mapNodeInfo : StdMap UInt32 SNodeInfo) (setExcludeConnectNodeID : StdSet UInt32) :
    Watched (fun n => Reported n ∧ n ∈ mapNodeInfo)
      (p.setNodeProxyInfo mapNodeInfo setExcludeConnectNodeID) := by
  have hdel := h.foldl_delNodeProxyInfo (p.missingNodes mapNodeInfo)
  have hset := hdel.foldl_addUnknown setExcludeConnectNodeID mapNodeInfo.toList
  refine ⟨hset.toTracked.congr fun n => and_congr_right fun hn => ?_, hset.types⟩
  have hmem : n ∈ p.mapNodeProxyInfo.toList.map Prod.fst := by
    obtain ⟨info, hinfo⟩ := mem_mapNodeProxyInfo_iff.mp (h.known hn)
    exact List.mem_map_of_mem (Std.ExtTreeMap.mem_toList_iff_getElem?_eq_some.mpr hinfo)
  rw [missingNodes, List.mem_filter, ← Std.ExtTreeMap.contains_iff_mem]
  simp only [hmem, true_and, Bool.not_eq_true', Bool.not_eq_false]

/-- One call keeps the invariant for the nodes that it reports. -/
theorem Watched.exec {setReported : StdSet UInt32} (h : Watched (· ∈ setReported) p)
    (call : Call) : Watched (· ∈ p.reportedBy setReported call) (p.exec call) := by
  cases call with
  | addNodeProxyInfo base vec bExcludeConnect =>
      exact h.addNodeProxyInfo base vec bExcludeConnect
  | setNodeProxyInfo mapNodeInfo setExcludeConnectNodeID =>
      have hset := h.setNodeProxyInfo mapNodeInfo setExcludeConnectNodeID
      refine ⟨hset.toTracked.congr fun n => ?_, hset.types⟩
      simp [reportedBy, Std.ExtTreeSet.mem_filter]
  | delNodeProxyInfo nNodeID =>
      have hdel := h.delNodeProxyInfo nNodeID
      refine ⟨hdel.toTracked.congr fun n => ?_, hdel.types⟩
      rw [reportedBy, StdSet.mem_erase, and_comm, ne_comm]
  | setOtherNodeSocketIDByNodeID nNodeID nSocketID =>
      have hset := h.setOtherNodeSocketIDByNodeID nNodeID nSocketID
      refine ⟨hset.toTracked.congr fun n => ?_, hset.types⟩
      rw [reportedBy, ← Std.ExtTreeMap.contains_iff_mem]
      split
      · rename_i hmem
        rw [StdSet.mem_insert, or_comm, eq_comm]
        simp [hmem]
      · rename_i hmem
        simp [hmem]
  | onNodeConnect nNodeID => exact h
  | onNodeDisconnect nNodeID => exact h

theorem Watched.foldl_exec {setReported : StdSet UInt32}
    (h : Watched (· ∈ setReported) p) (calls : List Call) :
    Watched (· ∈ p.reported setReported calls)
      (calls.foldl CGlobalServiceRegistryProxy.exec p) := by
  induction calls generalizing p setReported with
  | nil => exact h
  | cons call calls ih => exact ih (h.exec call)

theorem watched_init (setConnectServiceName setConnectServiceType : StdSet StdString)
    (own : List SServiceBaseInfo) :
    Watched (· ∈ (∅ : StdSet UInt32))
      (init setConnectServiceName setConnectServiceType own) where
  held := held_of_empty (mapNodeProxyInfo_init _ _)
  keyed := by
    intro id q hq
    rw [mapServiceProxyInfo_init] at hq
    simp at hq
  typed := by
    intro id q hq
    rw [mapServiceProxyInfo_init] at hq
    simp at hq
  remote := by
    intro id q hq
    rw [mapServiceProxyInfo_init] at hq
    simp at hq
  active := by
    intro id q n info hq
    rw [mapServiceProxyInfo_init] at hq
    simp at hq
  connected := by
    intro n info hinfo
    rw [mapNodeProxyInfo_init] at hinfo
    simp at hinfo
  known := by simp
  types := typesOk_init _ _

end Tracked

/-! ## Histories -/

/-- After every history the services of other nodes are active exactly while
their nodes are connected, if and only if the socket of every known node with a
service has been set since the node was taken in. -/
theorem onlyConnected_foldl_exec_iff
    (setConnectServiceName setConnectServiceType : StdSet StdString)
    (own : List SServiceBaseInfo) (calls : List Call) :
    let p₀ := init setConnectServiceName setConnectServiceType own
    let p := calls.foldl exec p₀
    p.OnlyConnected ↔ ∀ (n : UInt32) (info : SNodeProxyInfo),
      p.mapNodeProxyInfo[n]? = some info → info.vecServiceBaseInfo ≠ [] →
        n ∈ p₀.reported ∅ calls := by
  intro p₀ p
  have hwatched : Watched (· ∈ p₀.reported ∅ calls) p :=
    (watched_init setConnectServiceName setConnectServiceType own).foldl_exec calls
  exact hwatched.onlyConnected_iff hwatched.types

/-- A node that a master announces, with one service. -/
def announcedCalls : List Call :=
  [.addNodeProxyInfo { (default : SNodeBaseInfo) with nID := 2 }
    [{ nID := 5, szName := [97], szType := [116] }] false]

/-- The selectors choose the service of a node that was never connected. -/
theorem not_onlyConnected_announcedCalls :
    (announcedCalls.foldl exec (init ∅ ∅ [])).select [116] 0 = 5 ∧
      ¬ ∀ (own : List SServiceBaseInfo) (calls : List Call),
        (calls.foldl exec (init ∅ ∅ own)).OnlyConnected := by
  constructor
  · decide
  · intro h
    have hproxy : (announcedCalls.foldl exec
        (init ∅ ∅ [])).mapServiceProxyInfo[(5 : UInt32)]? =
          some ⟨{ nID := 5, szName := [97], szType := [116] }, 0⟩ := by decide
    have hnode : ((announcedCalls.foldl exec
        (init ∅ ∅ [])).mapNodeProxyInfo[(2 : UInt32)]?.map fun info =>
          (info.vecServiceBaseInfo, info.nSocketID)) =
        some ([{ nID := 5, szName := [97], szType := [116] }], 0) := by decide
    obtain ⟨info, hinfo, heq⟩ := Option.map_eq_some_iff.mp hnode
    obtain ⟨hvec, hsocket⟩ := Prod.mk.inj heq
    have hactive := h [] announcedCalls 5 _ 2 info hproxy hinfo
      (by rw [hvec]; exact List.mem_singleton_self _)
    exact hactive.mp (by decide) hsocket

end CGlobalServiceRegistryProxy

end RealtimeEx.Core
