import Mathlib.Data.List.Nodup
import RealtimeEx.Master.ServiceRegistry

/-!
# The indexes of the registry

What the indexes should hold is stated against the table of nodes.  The index
by service id in the entry of a node is never filled, so it is right only for a
node without services.  The other three are right along every history in which
a node comes back with the services it had, no node registers an id or a name
twice, and the removal of a node happens to erase exactly this node from the
sets of its types.
-/

namespace RealtimeEx.Master

open Base RealtimeEx.Core

namespace CServiceRegistry

/-! ## What the indexes should hold -/

/-- A registered node with one of its services. -/
def Serves (r : CServiceRegistry) (nNodeID : UInt32) (s : SServiceBaseInfo) : Prop :=
  ∃ info : SNodeProxyInfo, r.mapNodeProxyInfo[nNodeID]? = some info ∧
    s ∈ info.vecServiceBaseInfo

/-- `m_setServiceID`, `m_mapServiceName` and `m_mapServiceType` hold exactly the
ids, names and types of the services of the registered nodes, and ids and names
are unique. -/
structure Indexed (r : CServiceRegistry) : Prop where
  ids : ∀ id, id ∈ r.setServiceID ↔ ∃ n s, r.Serves n s ∧ s.nID = id
  names : ∀ szName n, r.mapServiceName[szName]? = some n ↔
    ∃ s, r.Serves n s ∧ s.szName = szName
  types : ∀ szType n, n ∈ r.typeNodes szType ↔ ∃ s, r.Serves n s ∧ s.szType = szType
  uniqueID : ∀ {n n' s s'}, r.Serves n s → r.Serves n' s' → s.nID = s'.nID →
    n = n' ∧ s = s'
  uniqueName : ∀ {n n' s s'}, r.Serves n s → r.Serves n' s' →
    s.szName = s'.szName → n = n' ∧ s = s'
  nodup : ∀ {n : UInt32} {info : SNodeProxyInfo}, r.mapNodeProxyInfo[n]? = some info →
    (info.vecServiceBaseInfo.map SServiceBaseInfo.nID).Nodup ∧
      (info.vecServiceBaseInfo.map SServiceBaseInfo.szName).Nodup

/-- All four indexes are exact. -/
structure Exact (r : CServiceRegistry) : Prop extends Indexed r where
  byID : ∀ {n : UInt32} {info : SNodeProxyInfo}, r.mapNodeProxyInfo[n]? = some info →
    ∀ id s, info.mapServiceBaseInfo[id]? = some s ↔ s ∈ info.vecServiceBaseInfo ∧ s.nID = id

theorem indexed_empty : Indexed {} := by
  have hserves : ∀ n s, ¬ Serves {} n s := by
    rintro n s ⟨info, hinfo, -⟩
    simp at hinfo
  constructor
  · simp [hserves]
  · simp [hserves]
  · simp [hserves, typeNodes]
  · intro n n' s s' h
    exact (hserves n s h).elim
  · intro n n' s s' h
    exact (hserves n s h).elim
  · intro n info hinfo
    simp at hinfo

/-! ## The calls -/

/-- The registry after a node's entry and services have been entered. -/
def enter (r : CServiceRegistry) (nNodeID : UInt32) (info : SNodeProxyInfo)
    (vec : List SServiceBaseInfo) : CServiceRegistry :=
  vec.foldl (indexService nNodeID)
    { r with mapNodeProxyInfo := r.mapNodeProxyInfo.insert nNodeID info }

/-- Everything a call can do to the registry. -/
inductive Exec (r : CServiceRegistry) : RegistryCall → CServiceRegistry → Prop
  | refused {nSocketID base vec names types}
      (h : r.addNode nSocketID base vec names types = none) :
      Exec r (.addNode nSocketID base vec names types) r
  | again {nSocketID base vec names types} {info : SNodeProxyInfo}
      (hinfo : r.mapNodeProxyInfo[base.nID]? = some info)
      (hsocket : info.nSocketID = 0) :
      Exec r (.addNode nSocketID base vec names types)
        (r.enter base.nID { info with nSocketID } vec)
  | new {nSocketID base vec names types}
      (hinfo : r.mapNodeProxyInfo[base.nID]? = none)
      (hdup : ∀ s ∈ vec, s.nID ∉ r.setServiceID ∧ s.szName ∉ r.mapServiceName) :
      Exec r (.addNode nSocketID base vec names types)
        (r.enter base.nID ⟨base, ∅, vec, names, types, nSocketID⟩ vec)
  | delUnknown {n : UInt32} (hinfo : r.mapNodeProxyInfo[n]? = none) :
      Exec r (.delNode n) r
  | del {n : UInt32} {info : SNodeProxyInfo} (hinfo : r.mapNodeProxyInfo[n]? = some info) :
      Exec r (.delNode n)
        { info.vecServiceBaseInfo.foldl unindexService r with
          mapNodeProxyInfo := r.mapNodeProxyInfo.erase n }
  | disconnectUnknown {n : UInt32} (hinfo : r.mapNodeProxyInfo[n]? = none) :
      Exec r (.disconnectNode n) r
  | disconnect {n : UInt32} {info : SNodeProxyInfo} (hinfo : r.mapNodeProxyInfo[n]? = some info) :
      Exec r (.disconnectNode n)
        { r with
          mapNodeProxyInfo := r.mapNodeProxyInfo.insert n { info with nSocketID := 0 } }

theorem exec_spec (r : CServiceRegistry) (call : RegistryCall) :
    Exec r call (r.exec call) := by
  cases call with
  | addNode nSocketID base vec names types =>
      cases hinfo : r.mapNodeProxyInfo[base.nID]? with
      | some info =>
          by_cases hsocket : info.nSocketID = 0
          · have hrun : r.exec (.addNode nSocketID base vec names types) =
                r.enter base.nID { info with nSocketID } vec := by
              simp [exec, addNode, hinfo, hsocket, announce, enter]
            rw [hrun]
            exact .again hinfo hsocket
          · have hnone : r.addNode nSocketID base vec names types = none := by
              simp [addNode, hinfo, hsocket]
            have hrun : r.exec (.addNode nSocketID base vec names types) = r := by
              simp [exec, hnone]
            rw [hrun]
            exact .refused hnone
      | none =>
          by_cases hdup : vec.any (r.isDup ∅ ∅)
          · have hnone : r.addNode nSocketID base vec names types = none := by
              simp [addNode, hinfo, hdup]
            have hrun : r.exec (.addNode nSocketID base vec names types) = r := by
              simp [exec, hnone]
            rw [hrun]
            exact .refused hnone
          · have hrun : r.exec (.addNode nSocketID base vec names types) =
                r.enter base.nID ⟨base, ∅, vec, names, types, nSocketID⟩ vec := by
              simp [exec, addNode, hinfo, hdup, announce, enter]
            rw [hrun]
            refine .new hinfo fun s hs => ?_
            simp only [List.any_eq_true, not_exists, not_and] at hdup
            have hfree := hdup s hs
            simp [isDup] at hfree
            exact ⟨by simpa using hfree.2, by simpa using hfree.1⟩
  | delNode n =>
      cases hinfo : r.mapNodeProxyInfo[n]? with
      | none =>
          have hrun : r.exec (.delNode n) = r := by simp [exec, delNode, hinfo]
          rw [hrun]
          exact .delUnknown hinfo
      | some info =>
          have hrun : r.exec (.delNode n) =
              { info.vecServiceBaseInfo.foldl unindexService r with
                mapNodeProxyInfo := r.mapNodeProxyInfo.erase n } := by
            simp [exec, delNode, hinfo]
          rw [hrun]
          exact .del hinfo
  | disconnectNode n =>
      cases hinfo : r.mapNodeProxyInfo[n]? with
      | none =>
          have hrun : r.exec (.disconnectNode n) = r := by
            simp [exec, disconnectNode, hinfo]
          rw [hrun]
          exact .disconnectUnknown hinfo
      | some info =>
          have hrun : r.exec (.disconnectNode n) =
              { r with
                mapNodeProxyInfo :=
                  r.mapNodeProxyInfo.insert n { info with nSocketID := 0 } } := by
            simp [exec, disconnectNode, hinfo]
          rw [hrun]
          exact .disconnect hinfo

/-! ## Who serves what after a call -/

theorem getElem?_enter (r : CServiceRegistry) (n n' : UInt32) (info : SNodeProxyInfo)
    (vec : List SServiceBaseInfo) :
    (r.enter n info vec).mapNodeProxyInfo[n']? =
      if n = n' then some info else r.mapNodeProxyInfo[n']? := by
  rw [enter, mapNodeProxyInfo_foldl_indexService, StdMap.getElem?_insert]

theorem mem_setServiceID_enter {r : CServiceRegistry} {n id : UInt32}
    {info : SNodeProxyInfo} {vec : List SServiceBaseInfo} :
    id ∈ (r.enter n info vec).setServiceID ↔
      id ∈ r.setServiceID ∨ ∃ s ∈ vec, s.nID = id :=
  mem_setServiceID_foldl_indexService

theorem getElem?_mapServiceName_enter {r : CServiceRegistry} {n : UInt32}
    {info : SNodeProxyInfo} {vec : List SServiceBaseInfo} {szName : StdString} :
    (r.enter n info vec).mapServiceName[szName]? =
      if szName ∈ vec.map SServiceBaseInfo.szName then some n
      else r.mapServiceName[szName]? :=
  getElem?_mapServiceName_foldl_indexService

theorem mem_typeNodes_enter {r : CServiceRegistry} {n n' : UInt32}
    {info : SNodeProxyInfo} {vec : List SServiceBaseInfo} {szType : StdString} :
    n' ∈ (r.enter n info vec).typeNodes szType ↔
      n' ∈ r.typeNodes szType ∨ n' = n ∧ ∃ s ∈ vec, s.szType = szType :=
  mem_typeNodes_foldl_indexService

theorem serves_congr {r r' : CServiceRegistry}
    (h : ∀ n : UInt32, (r'.mapNodeProxyInfo[n]?).map SNodeProxyInfo.vecServiceBaseInfo =
      (r.mapNodeProxyInfo[n]?).map SNodeProxyInfo.vecServiceBaseInfo)
    (n : UInt32) (s : SServiceBaseInfo) : r'.Serves n s ↔ r.Serves n s := by
  have hserves (q : CServiceRegistry) : q.Serves n s ↔
      ∃ vec, (q.mapNodeProxyInfo[n]?).map SNodeProxyInfo.vecServiceBaseInfo = some vec ∧
        s ∈ vec := by
    constructor
    · rintro ⟨info, hinfo, hs⟩
      exact ⟨_, by rw [hinfo]; rfl, hs⟩
    · rintro ⟨vec, hvec, hs⟩
      obtain ⟨info, hinfo, rfl⟩ := Option.map_eq_some_iff.mp hvec
      exact ⟨info, hinfo, hs⟩
  rw [hserves, hserves, h n]

theorem serves_enter_again {r : CServiceRegistry} {n : UInt32} {info : SNodeProxyInfo}
    (hinfo : r.mapNodeProxyInfo[n]? = some info) (nSocketID : UInt64)
    (vec : List SServiceBaseInfo) (n' : UInt32) (s : SServiceBaseInfo) :
    (r.enter n { info with nSocketID } vec).Serves n' s ↔ r.Serves n' s := by
  refine serves_congr (fun m => ?_) n' s
  rw [getElem?_enter]
  split
  · rename_i hm
    rw [← hm, hinfo]
    rfl
  · rfl

theorem serves_enter_new {r : CServiceRegistry} {n : UInt32}
    (hinfo : r.mapNodeProxyInfo[n]? = none) (info : SNodeProxyInfo) (n' : UInt32)
    (s : SServiceBaseInfo) :
    (r.enter n info info.vecServiceBaseInfo).Serves n' s ↔
      n' = n ∧ s ∈ info.vecServiceBaseInfo ∨ r.Serves n' s := by
  have hnew : ¬ r.Serves n s := by
    rintro ⟨info', hinfo', -⟩
    rw [hinfo] at hinfo'
    cases hinfo'
  by_cases hn : n = n'
  · subst hn
    simp [Serves, getElem?_enter, hinfo]
  · simp [Serves, getElem?_enter, hn, Ne.symm hn]

theorem serves_del {r q : CServiceRegistry} {n : UInt32}
    (hq : q.mapNodeProxyInfo = r.mapNodeProxyInfo.erase n) (n' : UInt32)
    (s : SServiceBaseInfo) : q.Serves n' s ↔ n' ≠ n ∧ r.Serves n' s := by
  by_cases hn : n = n'
  · subst hn
    simp [Serves, hq]
  · simp [Serves, hq, hn, Ne.symm hn]

/-! ## Calls that keep the indexes right -/

/-- A known node comes back with the services it had; the services of a new
node have different ids and names; and the service ids of a removed node,
erased from the node ids of their types, are such that the node itself goes and
no other node. -/
def Disciplined (r : CServiceRegistry) : RegistryCall → Prop
  | .addNode nSocketID base vec names types =>
      (r.addNode nSocketID base vec names types).isSome →
        match r.mapNodeProxyInfo[base.nID]? with
        | some info => vec = info.vecServiceBaseInfo
        | none => (vec.map SServiceBaseInfo.nID).Nodup ∧
            (vec.map SServiceBaseInfo.szName).Nodup
  | .delNode n => ∀ s, r.Serves n s →
      (∃ s', r.Serves n s' ∧ s'.szType = s.szType ∧ s'.nID = n) ∧
        ∀ n' s', r.Serves n' s' → n' ≠ n → s'.szType = s.szType → s.nID ≠ n'
  | .disconnectNode _ => True

theorem Indexed.again {r : CServiceRegistry} (h : r.Indexed) {n : UInt32}
    {info : SNodeProxyInfo} (hinfo : r.mapNodeProxyInfo[n]? = some info)
    (nSocketID : UInt64) {vec : List SServiceBaseInfo}
    (hsub : ∀ s ∈ vec, s ∈ info.vecServiceBaseInfo) :
    (r.enter n { info with nSocketID } vec).Indexed := by
  have hserves := serves_enter_again hinfo nSocketID vec
  have hnode : ∀ s ∈ vec, r.Serves n s := fun s hs => ⟨info, hinfo, hsub s hs⟩
  constructor
  · intro id
    simp only [mem_setServiceID_enter, hserves]
    rw [← h.ids]
    constructor
    · rintro (hid | ⟨s, hs, rfl⟩)
      · exact hid
      · exact (h.ids _).mpr ⟨n, s, hnode s hs, rfl⟩
    · exact .inl
  · intro szName n'
    simp only [getElem?_mapServiceName_enter, hserves]
    rw [← h.names]
    split
    · rename_i hname
      obtain ⟨s, hs, rfl⟩ := List.mem_map.mp hname
      rw [(h.names _ n).mpr ⟨s, hnode s hs, rfl⟩]
    · rfl
  · intro szType n'
    simp only [mem_typeNodes_enter, hserves]
    rw [← h.types]
    constructor
    · rintro (hn | ⟨rfl, s, hs, rfl⟩)
      · exact hn
      · exact (h.types _ _).mpr ⟨s, hnode s hs, rfl⟩
    · exact .inl
  · intro n₁ n₂ s₁ s₂ h₁ h₂
    rw [hserves] at h₁ h₂
    exact h.uniqueID h₁ h₂
  · intro n₁ n₂ s₁ s₂ h₁ h₂
    rw [hserves] at h₁ h₂
    exact h.uniqueName h₁ h₂
  · intro n' info₁ hinfo₁
    rw [getElem?_enter] at hinfo₁
    split at hinfo₁
    · obtain rfl := Option.some.inj hinfo₁
      have hnodup := h.nodup hinfo
      exact hnodup
    · exact h.nodup hinfo₁

theorem Indexed.new {r : CServiceRegistry} (h : r.Indexed) {n : UInt32}
    {info : SNodeProxyInfo} (hinfo : r.mapNodeProxyInfo[n]? = none)
    (hdup : ∀ s ∈ info.vecServiceBaseInfo,
      s.nID ∉ r.setServiceID ∧ s.szName ∉ r.mapServiceName)
    (hids : (info.vecServiceBaseInfo.map SServiceBaseInfo.nID).Nodup)
    (hnames : (info.vecServiceBaseInfo.map SServiceBaseInfo.szName).Nodup) :
    (r.enter n info info.vecServiceBaseInfo).Indexed := by
  have hserves := serves_enter_new hinfo info
  have hnewID : ∀ s ∈ info.vecServiceBaseInfo, ∀ n' s', r.Serves n' s' →
      s'.nID ≠ s.nID := by
    intro s hs n' s' hs' hid
    exact (hdup s hs).1 ((h.ids _).mpr ⟨n', s', hs', hid⟩)
  have hnewName : ∀ s ∈ info.vecServiceBaseInfo, ∀ n' s', r.Serves n' s' →
      s'.szName ≠ s.szName := by
    intro s hs n' s' hs' hname
    have hget := (h.names s.szName n').mpr ⟨s', hs', hname⟩
    exact (hdup s hs).2 (Std.ExtTreeMap.mem_iff_isSome_getElem?.mpr (by rw [hget]; rfl))
  constructor
  · intro id
    simp only [mem_setServiceID_enter, hserves, h.ids]
    constructor
    · rintro (⟨n', s, hs, rfl⟩ | ⟨s, hs, rfl⟩)
      · exact ⟨n', s, .inr hs, rfl⟩
      · exact ⟨n, s, .inl ⟨rfl, hs⟩, rfl⟩
    · rintro ⟨n', s, ⟨rfl, hs⟩ | hs, rfl⟩
      · exact .inr ⟨s, hs, rfl⟩
      · exact .inl ⟨n', s, hs, rfl⟩
  · intro szName n'
    simp only [getElem?_mapServiceName_enter, hserves]
    split
    · rename_i hname
      obtain ⟨s, hs, rfl⟩ := List.mem_map.mp hname
      constructor
      · rintro ⟨⟩
        exact ⟨s, .inl ⟨rfl, hs⟩, rfl⟩
      · rintro ⟨s', ⟨rfl, -⟩ | hs', hname'⟩
        · rfl
        · exact absurd hname' (hnewName s hs n' s' hs')
    · rename_i hname
      rw [h.names]
      constructor
      · rintro ⟨s, hs, rfl⟩
        exact ⟨s, .inr hs, rfl⟩
      · rintro ⟨s, ⟨rfl, hs⟩ | hs, rfl⟩
        · exact absurd (List.mem_map_of_mem hs) hname
        · exact ⟨s, hs, rfl⟩
  · intro szType n'
    simp only [mem_typeNodes_enter, hserves, h.types]
    constructor
    · rintro (⟨s, hs, rfl⟩ | ⟨rfl, s, hs, rfl⟩)
      · exact ⟨s, .inr hs, rfl⟩
      · exact ⟨s, .inl ⟨rfl, hs⟩, rfl⟩
    · rintro ⟨s, ⟨rfl, hs⟩ | hs, rfl⟩
      · exact .inr ⟨rfl, s, hs, rfl⟩
      · exact .inl ⟨s, hs, rfl⟩
  · intro n₁ n₂ s₁ s₂ h₁ h₂ hid
    rw [hserves] at h₁ h₂
    rcases h₁ with ⟨rfl, hs₁⟩ | h₁ <;> rcases h₂ with ⟨rfl, hs₂⟩ | h₂
    · exact ⟨rfl, List.inj_on_of_nodup_map hids hs₁ hs₂ hid⟩
    · exact absurd hid.symm (hnewID s₁ hs₁ n₂ s₂ h₂)
    · exact absurd hid (hnewID s₂ hs₂ n₁ s₁ h₁)
    · exact h.uniqueID h₁ h₂ hid
  · intro n₁ n₂ s₁ s₂ h₁ h₂ hname
    rw [hserves] at h₁ h₂
    rcases h₁ with ⟨rfl, hs₁⟩ | h₁ <;> rcases h₂ with ⟨rfl, hs₂⟩ | h₂
    · exact ⟨rfl, List.inj_on_of_nodup_map hnames hs₁ hs₂ hname⟩
    · exact absurd hname.symm (hnewName s₁ hs₁ n₂ s₂ h₂)
    · exact absurd hname (hnewName s₂ hs₂ n₁ s₁ h₁)
    · exact h.uniqueName h₁ h₂ hname
  · intro n' info₁ hinfo₁
    rw [getElem?_enter] at hinfo₁
    split at hinfo₁
    · obtain rfl := Option.some.inj hinfo₁
      exact ⟨hids, hnames⟩
    · exact h.nodup hinfo₁

theorem Indexed.del {r : CServiceRegistry} (h : r.Indexed) {n : UInt32}
    {info : SNodeProxyInfo} (hinfo : r.mapNodeProxyInfo[n]? = some info)
    (hdisciplined : r.Disciplined (.delNode n)) :
    Indexed { info.vecServiceBaseInfo.foldl unindexService r with
      mapNodeProxyInfo := r.mapNodeProxyInfo.erase n } := by
  have hserves (n' : UInt32) (s : SServiceBaseInfo) :
      Serves { info.vecServiceBaseInfo.foldl unindexService r with
        mapNodeProxyInfo := r.mapNodeProxyInfo.erase n } n' s ↔
      n' ≠ n ∧ r.Serves n' s := serves_del rfl n' s
  have hnode : ∀ s, s ∈ info.vecServiceBaseInfo ↔ r.Serves n s := by
    intro s
    constructor
    · exact fun hs => ⟨info, hinfo, hs⟩
    · rintro ⟨info', hinfo', hs⟩
      rw [hinfo] at hinfo'
      obtain rfl := Option.some.inj hinfo'
      exact hs
  constructor
  · intro id
    simp only [hserves]
    show id ∈ (info.vecServiceBaseInfo.foldl unindexService r).setServiceID ↔ _
    rw [mem_setServiceID_foldl_unindexService, h.ids]
    constructor
    · rintro ⟨⟨n', s, hs, rfl⟩, hkept⟩
      refine ⟨n', s, ⟨?_, hs⟩, rfl⟩
      rintro rfl
      exact hkept s ((hnode s).mpr hs) rfl
    · rintro ⟨n', s, ⟨hn, hs⟩, rfl⟩
      refine ⟨⟨n', s, hs, rfl⟩, fun s' hs' hid => hn ?_⟩
      exact (h.uniqueID ((hnode s').mp hs') hs hid).1.symm
  · intro szName n'
    simp only [hserves]
    show (info.vecServiceBaseInfo.foldl unindexService r).mapServiceName[szName]? = _ ↔ _
    rw [getElem?_mapServiceName_foldl_unindexService]
    split
    · rename_i hname
      obtain ⟨s, hs, rfl⟩ := List.mem_map.mp hname
      constructor
      · rintro ⟨⟩
      · rintro ⟨s', ⟨hn, hs'⟩, hname'⟩
        exact absurd (h.uniqueName hs' ((hnode s).mp hs) hname').1 hn
    · rename_i hname
      rw [h.names]
      constructor
      · rintro ⟨s, hs, rfl⟩
        refine ⟨s, ⟨?_, hs⟩, rfl⟩
        rintro rfl
        exact hname (List.mem_map_of_mem ((hnode s).mpr hs))
      · rintro ⟨s, ⟨-, hs⟩, rfl⟩
        exact ⟨s, hs, rfl⟩
  · intro szType n'
    simp only [hserves]
    show n' ∈ (info.vecServiceBaseInfo.foldl unindexService r).typeNodes szType ↔ _
    rw [mem_typeNodes_foldl_unindexService, h.types]
    constructor
    · rintro ⟨⟨s, hs, rfl⟩, hkept⟩
      refine ⟨s, ⟨?_, hs⟩, rfl⟩
      rintro rfl
      obtain ⟨⟨s', hs', htype, hid⟩, -⟩ := hdisciplined s hs
      exact hkept s' ((hnode s').mpr hs') htype hid
    · rintro ⟨s, ⟨hn, hs⟩, rfl⟩
      refine ⟨⟨s, hs, rfl⟩, fun s' hs' htype => ?_⟩
      exact (hdisciplined s' ((hnode s').mp hs')).2 n' s hs hn htype.symm
  · intro n₁ n₂ s₁ s₂ h₁ h₂
    exact h.uniqueID ((hserves _ _).mp h₁).2 ((hserves _ _).mp h₂).2
  · intro n₁ n₂ s₁ s₂ h₁ h₂
    exact h.uniqueName ((hserves _ _).mp h₁).2 ((hserves _ _).mp h₂).2
  · intro n' info₁ hinfo₁
    have hkept : r.mapNodeProxyInfo[n']? = some info₁ := by
      rw [StdMap.getElem?_erase] at hinfo₁
      split at hinfo₁
      · cases hinfo₁
      · exact hinfo₁
    exact h.nodup hkept

theorem isSome_addNode_of_new {r : CServiceRegistry} {nSocketID : UInt64}
    {base : SNodeBaseInfo} {vec : List SServiceBaseInfo}
    {names types : StdSet StdString} (hinfo : r.mapNodeProxyInfo[base.nID]? = none)
    (hdup : ∀ s ∈ vec, s.nID ∉ r.setServiceID ∧ s.szName ∉ r.mapServiceName) :
    (r.addNode nSocketID base vec names types).isSome := by
  have hany : vec.any (r.isDup ∅ ∅) = false := by
    rw [List.any_eq_false]
    intro s hs
    simp [isDup, (hdup s hs).1, (hdup s hs).2]
  simp [addNode, hinfo, hany]

theorem Indexed.exec {r : CServiceRegistry} (h : r.Indexed) {call : RegistryCall}
    (hdisciplined : r.Disciplined call) : (r.exec call).Indexed := by
  generalize hq : r.exec call = q
  have hexec := exec_spec r call
  rw [hq] at hexec
  cases hexec with
  | refused => exact h
  | @again nSocketID base vec names types info hinfo hsocket =>
      have hsome : (r.addNode nSocketID base vec names types).isSome := by
        simp [addNode, hinfo, hsocket]
      have hvec := hdisciplined hsome
      rw [hinfo] at hvec
      obtain rfl : vec = info.vecServiceBaseInfo := hvec
      exact h.again hinfo nSocketID fun s hs => hs
  | @new nSocketID base vec names types hinfo hdup =>
      have hnodup := hdisciplined (isSome_addNode_of_new hinfo hdup)
      rw [hinfo] at hnodup
      have hnew : (r.enter base.nID ⟨base, ∅, vec, names, types, nSocketID⟩
          vec).Indexed := h.new hinfo hdup hnodup.1 hnodup.2
      exact hnew
  | delUnknown => exact h
  | del hinfo => exact h.del hinfo hdisciplined
  | disconnectUnknown => exact h
  | @disconnect n info hinfo =>
      exact h.again hinfo 0 (List.forall_mem_nil _)

/-! ## The index by service id -/

/-- The index by service id of a registered node is never filled. -/
theorem mapServiceBaseInfo_eq_empty (calls : List RegistryCall) {n : UInt32}
    {info : SNodeProxyInfo} (hinfo : (after calls).mapNodeProxyInfo[n]? = some info) :
    info.mapServiceBaseInfo = ∅ := by
  induction calls using List.reverseRecOn generalizing n info with
  | nil => simp [after] at hinfo
  | append_singleton calls call ih =>
      rw [after_snoc] at hinfo
      generalize hq : (after calls).exec call = q at hinfo
      have hexec := exec_spec (after calls) call
      rw [hq] at hexec
      cases hexec with
      | refused => exact ih hinfo
      | again hold =>
          rw [getElem?_enter] at hinfo
          split at hinfo
          · obtain rfl := Option.some.inj hinfo
            have hempty := ih hold
            exact hempty
          · exact ih hinfo
      | new =>
          rw [getElem?_enter] at hinfo
          split at hinfo
          · obtain rfl := Option.some.inj hinfo
            rfl
          · exact ih hinfo
      | delUnknown => exact ih hinfo
      | del =>
          rw [StdMap.getElem?_erase] at hinfo
          split at hinfo
          · cases hinfo
          · exact ih hinfo
      | disconnectUnknown => exact ih hinfo
      | disconnect hold =>
          rw [StdMap.getElem?_insert] at hinfo
          split at hinfo
          · obtain rfl := Option.some.inj hinfo
            have hempty := ih hold
            exact hempty
          · exact ih hinfo

/-- So the four indexes are exact only while no registered node has a
service. -/
theorem exact_after_iff (calls : List RegistryCall) :
    (after calls).Exact ↔
      (after calls).Indexed ∧ ∀ n s, ¬ (after calls).Serves n s := by
  constructor
  · rintro ⟨hindexed, hbyID⟩
    refine ⟨hindexed, ?_⟩
    rintro n s ⟨info, hinfo, hs⟩
    have hentry := (hbyID hinfo s.nID s).mpr ⟨hs, rfl⟩
    rw [mapServiceBaseInfo_eq_empty calls hinfo] at hentry
    simp at hentry
  · rintro ⟨hindexed, hserves⟩
    refine ⟨hindexed, ?_⟩
    intro n info hinfo id s
    rw [mapServiceBaseInfo_eq_empty calls hinfo]
    constructor
    · intro hentry
      simp at hentry
    · rintro ⟨hs, -⟩
      exact (hserves n s ⟨info, hinfo, hs⟩).elim

/-- A registration that is accepted announces no services. -/
def Bare (r : CServiceRegistry) : RegistryCall → Prop
  | .addNode nSocketID base vec names types =>
      (r.addNode nSocketID base vec names types).isSome → vec = []
  | _ => True

/-- While there are no services, a bare call keeps the discipline and brings
none. -/
theorem Bare.disciplined {r : CServiceRegistry} {call : RegistryCall}
    (hcall : r.Bare call) (hserves : ∀ n s, ¬ r.Serves n s) : r.Disciplined call := by
  cases call with
  | addNode nSocketID base vec names types =>
      intro hsome
      obtain rfl : vec = [] := hcall hsome
      cases hinfo : r.mapNodeProxyInfo[base.nID]? with
      | some info =>
          show [] = info.vecServiceBaseInfo
          refine (List.eq_nil_iff_forall_not_mem.mpr fun s hs => ?_).symm
          exact hserves base.nID s ⟨info, hinfo, hs⟩
      | none => exact ⟨List.nodup_nil, List.nodup_nil⟩
  | delNode n => exact fun s hs => (hserves n s hs).elim
  | disconnectNode n => trivial

theorem Bare.not_serves {r : CServiceRegistry} {call : RegistryCall}
    (hcall : r.Bare call) (hserves : ∀ n s, ¬ r.Serves n s) (n : UInt32)
    (s : SServiceBaseInfo) : ¬ (r.exec call).Serves n s := by
  generalize hq : r.exec call = q
  have hexec := exec_spec r call
  rw [hq] at hexec
  cases hexec with
  | refused => exact hserves n s
  | again hinfo hsocket =>
      intro hs
      exact hserves n s ((serves_enter_again hinfo _ _ n s).mp hs)
  | new hinfo hdup =>
      intro hs
      obtain rfl := hcall (isSome_addNode_of_new hinfo hdup)
      rcases (serves_enter_new hinfo _ n s).mp hs with ⟨-, hs⟩ | hs
      · simp at hs
      · exact hserves n s hs
  | delUnknown => exact hserves n s
  | del hinfo => exact fun hs => hserves n s ((serves_del rfl n s).mp hs).2
  | disconnectUnknown => exact hserves n s
  | disconnect hinfo =>
      intro hs
      exact hserves n s ((serves_enter_again hinfo 0 [] n s).mp hs)

/-- A call after which the indexes are exact is bare. -/
theorem bare_of_exact {calls : List RegistryCall} {call : RegistryCall}
    (h : (after (calls ++ [call])).Exact) :
    (after calls).Bare call := by
  obtain ⟨hindexed', hserves'⟩ := (exact_after_iff _).mp h
  rw [after_snoc] at hindexed' hserves'
  generalize hq : (after calls).exec call = q at hindexed' hserves'
  have hexec := exec_spec (after calls) call
  rw [hq] at hexec
  cases hexec with
  | refused hnone =>
      intro hsome
      rw [hnone] at hsome
      cases hsome
  | @again nSocketID base vec names types info hinfo hsocket =>
      intro _
      refine List.eq_nil_iff_forall_not_mem.mpr fun s hs => ?_
      have hid : s.nID ∈ ((after calls).enter base.nID
          { info with nSocketID } vec).setServiceID :=
        mem_setServiceID_enter.mpr (.inr ⟨s, hs, rfl⟩)
      obtain ⟨n, s', hs', -⟩ := (hindexed'.ids s.nID).mp hid
      exact hserves' n s' hs'
  | @new nSocketID base vec names types hinfo hdup =>
      intro _
      refine List.eq_nil_iff_forall_not_mem.mpr fun s hs => ?_
      exact hserves' base.nID s ((serves_enter_new hinfo _ _ s).mpr (.inl ⟨rfl, hs⟩))
  | _ => trivial

/-! ## Histories -/

/-- In every history, all four indexes are exact throughout if and only if no
accepted registration announces a service; and if every call keeps the
discipline, `m_setServiceID`, `m_mapServiceName` and `m_mapServiceType` are exact
throughout. -/
theorem exact_throughout_iff (calls : List RegistryCall) :
    ((∀ ks, ks <+: calls → (after ks).Exact) ↔
      ∀ ks call, ks ++ [call] <+: calls → (after ks).Bare call) ∧
    ((∀ ks call, ks ++ [call] <+: calls → (after ks).Disciplined call) →
      ∀ ks, ks <+: calls → (after ks).Indexed) := by
  refine ⟨⟨fun h ks call hks => ?_, fun h ks => ?_⟩, fun h ks => ?_⟩
  · exact bare_of_exact (h _ hks)
  · suffices hboth : ks <+: calls →
        (after ks).Indexed ∧ ∀ n s, ¬ (after ks).Serves n s from
      fun hks => (exact_after_iff ks).mpr (hboth hks)
    induction ks using List.reverseRecOn with
    | nil =>
        refine fun _ => ⟨indexed_empty, ?_⟩
        rintro n s ⟨info, hinfo, -⟩
        simp [after] at hinfo
    | append_singleton ks call ih =>
        intro hks
        have hbare := h ks call hks
        obtain ⟨hindexed, hserves⟩ := ih ((List.prefix_append ks [call]).trans hks)
        rw [after_snoc]
        exact ⟨hindexed.exec (hbare.disciplined hserves), hbare.not_serves hserves⟩
  · induction ks using List.reverseRecOn with
    | nil => exact fun _ => indexed_empty
    | append_singleton ks call ih =>
        intro hks
        have hindexed := ih ((List.prefix_append ks [call]).trans hks)
        rw [after_snoc]
        exact hindexed.exec (h ks call hks)

/-- A node with one service registers and is taken off line. -/
def staleTypeCalls : List RegistryCall :=
  [.addNode 7 { (default : SNodeBaseInfo) with nID := 1 }
    [{ nID := 5, szName := [97], szType := [116] }] ∅ ∅,
   .delNode 1]

/-- The node is gone but is still filed under the type of its service. -/
theorem not_exact_staleTypeCalls :
    ¬ ∀ calls : List RegistryCall, ∀ ks, ks <+: calls → (after ks).Exact := by
  intro h
  have hexact := h staleTypeCalls staleTypeCalls List.prefix_rfl
  have hstale : (1 : UInt32) ∈ (after staleTypeCalls).typeNodes [116] := by decide
  obtain ⟨s, ⟨info, hinfo, -⟩, -⟩ := (hexact.types [116] 1).mp hstale
  have hgone : (after staleTypeCalls).mapNodeProxyInfo[(1 : UInt32)]? = none := rfl
  rw [hgone] at hinfo
  cases hinfo

end CServiceRegistry

end RealtimeEx.Master
