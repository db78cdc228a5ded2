import RealtimeEx.Core.GlobalServiceRegistryProxyConsistent

/-!
# What a call of the proxy registry takes away

Which nodes, and with them which services, a call of the proxy can remove, and
which ones it can bring in.
-/

namespace RealtimeEx.Core

open Base

namespace CGlobalServiceRegistryProxy

/-! ## Changes -/

/-- The services of the known nodes are known, and no two nodes have the same. -/
structure Held (p : CGlobalServiceRegistryProxy) : Prop where
  known : ∀ {n : UInt32} {s : SServiceBaseInfo}, p.Knows n s → s.nID ∈ p.mapServiceProxyInfo
  apart : ∀ {n n' : UInt32} {s s' : SServiceBaseInfo}, p.Knows n s → p.Knows n' s' →
    s.nID = s'.nID → n = n'

/-- The node is still known, with the services that it had. -/
def KeepsNode (p p' : CGlobalServiceRegistryProxy) (nNodeID : UInt32) : Prop :=
  ∀ info : SNodeProxyInfo, p.mapNodeProxyInfo[nNodeID]? = some info →
    ∃ info' : SNodeProxyInfo, p'.mapNodeProxyInfo[nNodeID]? = some info' ∧
      info'.vecServiceBaseInfo = info.vecServiceBaseInfo

/-- Only nodes of `gone` disappear and only nodes of `new` appear. -/
structure Changes (gone new : UInt32 → Prop) (p p' : CGlobalServiceRegistryProxy) :
    Prop where
  held : p.Held → p'.Held
  keeps : ∀ n, gone n ∨ p.KeepsNode p' n
  appears : ∀ n, n ∈ p'.mapNodeProxyInfo → n ∈ p.mapNodeProxyInfo ∨ new n

variable {p p' p'' : CGlobalServiceRegistryProxy} {gone new : UInt32 → Prop}

theorem mem_mapNodeProxyInfo_iff {n : UInt32} :
    n ∈ p.mapNodeProxyInfo ↔
      ∃ info : SNodeProxyInfo, p.mapNodeProxyInfo[n]? = some info := by
  rw [← Std.ExtTreeMap.contains_iff_mem, Std.ExtTreeMap.contains_eq_isSome_getElem?,
    Option.isSome_iff_exists]

theorem Changes.refl (gone new : UInt32 → Prop) (p : CGlobalServiceRegistryProxy) :
    Changes gone new p p :=
  ⟨id, fun _ => .inr fun info h => ⟨info, h, rfl⟩, fun _ => .inl⟩

theorem Changes.trans (h : Changes gone new p p') (h' : Changes gone new p' p'') :
    Changes gone new p p'' := by
  refine ⟨h'.held ∘ h.held, fun n => ?_, fun n hn => ?_⟩
  · rcases h.keeps n with hgone | hkeeps
    · exact .inl hgone
    · rcases h'.keeps n with hgone | hkeeps'
      · exact .inl hgone
      · refine .inr fun info hinfo => ?_
        obtain ⟨info', hinfo', hvec⟩ := hkeeps info hinfo
        obtain ⟨info'', hinfo'', hvec'⟩ := hkeeps' info' hinfo'
        exact ⟨info'', hinfo'', hvec'.trans hvec⟩
  · rcases h'.appears n hn with hmem | hnew
    · exact h.appears n hmem
    · exact .inr hnew

theorem Changes.mono {gone' new' : UInt32 → Prop} (h : Changes gone new p p')
    (hgone : ∀ n, gone n → gone' n) (hnew : ∀ n, new n → new' n) :
    Changes gone' new' p p' :=
  ⟨h.held, fun n => (h.keeps n).imp_left (hgone n),
    fun n hn => (h.appears n hn).imp_right (hnew n)⟩

/-- A loop all of whose rounds change only that. -/
theorem Changes.foldl {α : Type*} {f : CGlobalServiceRegistryProxy → α →
    CGlobalServiceRegistryProxy} {xs : List α}
    (h : ∀ p, ∀ x ∈ xs, Changes gone new p (f p x)) (p : CGlobalServiceRegistryProxy) :
    Changes gone new p (xs.foldl f p) := by
  induction xs generalizing p with
  | nil => exact .refl gone new p
  | cons x xs ih =>
      exact (h p x List.mem_cons_self).trans
        (ih (fun p y hy => h p y (List.mem_cons_of_mem _ hy)) (f p x))

/-- What only concerns the active services changes nothing here. -/
theorem Changes.updateActive (h : Changes gone new p p') (setType : StdSet StdString) :
    Changes gone new p (p'.updateActiveServiceID setType) := by
  refine ⟨fun hheld => ?_, fun n => ?_, fun n => ?_⟩
  · obtain ⟨hknown, hapart⟩ := h.held hheld
    constructor
    · intro n s hs
      rw [mapServiceProxyInfo_updateActiveServiceID]
      exact hknown (by simpa [Knows] using hs)
    · intro n n' s s' hs hs'
      exact hapart (by simpa [Knows] using hs) (by simpa [Knows] using hs')
  · rw [KeepsNode, mapNodeProxyInfo_updateActiveServiceID]
    exact h.keeps n
  · rw [mapNodeProxyInfo_updateActiveServiceID]
    exact h.appears n

/-! ## The calls -/

theorem mem_foldl_insert_service {vec : List SServiceBaseInfo}
    {m : StdMap UInt32 SServiceProxyInfo} {id : UInt32} :
    id ∈ vec.foldl (fun m s => m.insert s.nID { sServiceBaseInfo := s, nSocketID := 0 }) m ↔
      id ∈ m ∨ ∃ s ∈ vec, s.nID = id := by
  induction vec generalizing m with
  | nil => simp
  | cons s vec ih =>
      rw [List.foldl_cons, ih, Std.ExtTreeMap.mem_insert]
      simp only [Std.LawfulEqCmp.compare_eq_iff_eq, List.mem_cons, exists_eq_or_imp]
      tauto

theorem changes_withNode {nNodeID : UInt32} {info : SNodeProxyInfo}
    (hnew : p.mapNodeProxyInfo[nNodeID]? = none)
    (hfree : ∀ s ∈ info.vecServiceBaseInfo, p.isFree s = true) :
    Changes gone (· = nNodeID) p (p.withNode nNodeID info) := by
  refine ⟨fun hheld => ⟨?_, ?_⟩, fun n => .inr fun info' hinfo' => ?_, fun n hn => ?_⟩
  · intro n s hs
    rw [mapServiceProxyInfo_withNode, mem_foldl_insert_service]
    rcases (knows_withNode hnew).mp hs with hs | ⟨-, hs⟩
    · exact .inl (hheld.known hs)
    · exact .inr ⟨s, hs, rfl⟩
  · -- A service of the new node is free, one of the others is not.
    have hother : ∀ {n : UInt32} {s s' : SServiceBaseInfo}, s ∈ info.vecServiceBaseInfo →
        p.Knows n s' → s.nID ≠ s'.nID := by
      intro n s s' hs hs' hid
      have hknown := hheld.known hs'
      rw [← hid, ← Std.ExtTreeMap.contains_iff_mem,
        Std.ExtTreeMap.contains_eq_isSome_getElem?, (isFree_iff.mp (hfree s hs)).2.2]
        at hknown
      exact absurd hknown (by simp)
    intro n n' s s' hs hs' hid
    rcases (knows_withNode hnew).mp hs with hs | ⟨hn, hs⟩
    · rcases (knows_withNode hnew).mp hs' with hs' | ⟨-, hs'⟩
      · exact hheld.apart hs hs' hid
      · exact absurd hid.symm (hother hs' hs)
    · rcases (knows_withNode hnew).mp hs' with hs' | ⟨hn', -⟩
      · exact absurd hid (hother hs hs')
      · exact hn.symm.trans hn'
  · refine ⟨info', ?_, rfl⟩
    rw [getElem?_mapNodeProxyInfo_withNode, if_neg]
    · exact hinfo'
    · rintro rfl
      rw [hnew] at hinfo'
      cases hinfo'
  · rw [mem_mapNodeProxyInfo_iff, getElem?_mapNodeProxyInfo_withNode] at hn
    split at hn
    · rename_i heq
      exact .inr heq.symm
    · exact .inl (mem_mapNodeProxyInfo_iff.mpr hn)

theorem changes_addNodeProxyInfo (gone : UInt32 → Prop) (p : CGlobalServiceRegistryProxy)
    (base : SNodeBaseInfo) (vec : List SServiceBaseInfo) (bExcludeConnect : Bool) :
    Changes gone (· = base.nID) p (p.addNodeProxyInfo base vec bExcludeConnect) := by
  cases haccepts : p.accepts base vec with
  | false =>
      rw [addNodeProxyInfo_of_not_accepts haccepts]
      exact .refl _ _ p
  | true =>
      obtain ⟨info, rfl, -, hnew, hfree, heq⟩ :=
        addNodeProxyInfo_of_accepts bExcludeConnect haccepts
      rw [heq]
      exact (changes_withNode hnew hfree).updateActive _

theorem changes_withSocketID {nNodeID : UInt32} {info : SNodeProxyInfo}
    (nSocketID : UInt64) (hinfo : p.mapNodeProxyInfo[nNodeID]? = some info) :
    Changes gone new p (p.withSocketID nNodeID info nSocketID) := by
  have hservice : ∀ id, id ∈ (p.withSocketID nNodeID info nSocketID).mapServiceProxyInfo ↔
      id ∈ p.mapServiceProxyInfo := by
    intro id
    rw [← Std.ExtTreeMap.contains_iff_mem, ← Std.ExtTreeMap.contains_iff_mem,
      Std.ExtTreeMap.contains_eq_isSome_getElem?, Std.ExtTreeMap.contains_eq_isSome_getElem?,
      getElem?_mapServiceProxyInfo_withSocketID]
    split <;> simp
  refine ⟨fun hheld => ⟨?_, ?_⟩, fun n => .inr fun info' hinfo' => ?_, fun n hn => .inl ?_⟩
  · intro n s hs
    rw [hservice]
    exact hheld.known ((knows_withSocketID nSocketID hinfo).mp hs)
  · intro n n' s s' hs hs'
    exact hheld.apart ((knows_withSocketID nSocketID hinfo).mp hs)
      ((knows_withSocketID nSocketID hinfo).mp hs')
  · simp only [CGlobalServiceRegistryProxy.withSocketID, StdMap.getElem?_insert]
    split
    · rename_i hn
      subst hn
      refine ⟨_, rfl, ?_⟩
      rw [Option.some.inj (hinfo.symm.trans hinfo')]
    · exact ⟨info', hinfo', rfl⟩
  · rw [mem_mapNodeProxyInfo_iff] at hn ⊢
    simp only [CGlobalServiceRegistryProxy.withSocketID, StdMap.getElem?_insert] at hn
    split at hn
    · rename_i heq
      subst heq
      exact ⟨info, hinfo⟩
    · exact hn

theorem changes_setSocketID {nNodeID : UInt32} {info : SNodeProxyInfo} (nSocketID : UInt64)
    (hinfo : p.mapNodeProxyInfo[nNodeID]? = some info) :
    Changes gone new p (p.setSocketID nNodeID info nSocketID) := by
  rw [setSocketID_eq]
  exact (changes_withSocketID nSocketID hinfo).updateActive _

theorem changes_setOtherNodeSocketIDByNodeID (gone new : UInt32 → Prop)
    (p : CGlobalServiceRegistryProxy) (nNodeID : UInt32) (nSocketID : UInt64) :
    Changes gone new p (p.setOtherNodeSocketIDByNodeID nNodeID nSocketID).2 := by
  rw [CGlobalServiceRegistryProxy.setOtherNodeSocketIDByNodeID]
  split
  · exact .refl _ _ p
  · rename_i info hinfo
    split
    · exact .refl _ _ p
    · exact changes_setSocketID nSocketID hinfo

theorem changes_withoutNode {nNodeID : UInt32} {info : SNodeProxyInfo}
    (hinfo : p.mapNodeProxyInfo[nNodeID]? = some info) :
    Changes (· = nNodeID) new p (p.withoutNode nNodeID info.vecServiceBaseInfo) := by
  refine ⟨fun hheld => ⟨?_, ?_⟩, fun n => ?_, fun n hn => .inl ?_⟩
  · intro n s hs
    obtain ⟨hn, hs⟩ := knows_withoutNode.mp hs
    have hmem := hheld.known hs
    rw [← Std.ExtTreeMap.contains_iff_mem, Std.ExtTreeMap.contains_eq_isSome_getElem?] at hmem ⊢
    rw [getElem?_mapServiceProxyInfo_withoutNode, if_neg]
    · exact hmem
    · intro hown
      obtain ⟨s', hs', hid⟩ := List.mem_map.mp hown
      exact hn (hheld.apart ⟨info, hinfo, hs'⟩ hs hid)
  · intro n n' s s' hs hs'
    exact hheld.apart (knows_withoutNode.mp hs).2 (knows_withoutNode.mp hs').2
  · by_cases hn : n = nNodeID
    · exact .inl hn
    · refine .inr fun info' hinfo' => ⟨info', ?_, rfl⟩
      rw [getElem?_mapNodeProxyInfo_withoutNode, if_neg (Ne.symm hn)]
      exact hinfo'
  · rw [mem_mapNodeProxyInfo_iff, getElem?_mapNodeProxyInfo_withoutNode] at hn
    split at hn
    · obtain ⟨info', hinfo'⟩ := hn
      cases hinfo'
    · exact mem_mapNodeProxyInfo_iff.mpr hn

theorem changes_delNodeProxyInfo (new : UInt32 → Prop) (p : CGlobalServiceRegistryProxy)
    (nNodeID : UInt32) : Changes (· = nNodeID) new p (p.delNodeProxyInfo nNodeID) := by
  cases hinfo : p.mapNodeProxyInfo[nNodeID]? with
  | none =>
      simp only [CGlobalServiceRegistryProxy.delNodeProxyInfo, hinfo]
      exact .refl _ _ p
  | some info =>
      rw [delNodeProxyInfo_eq hinfo]
      split
      · have hinfo' : (p.setSocketID nNodeID info 0).mapNodeProxyInfo[nNodeID]? =
            some { info with nSocketID := 0 } := by
          rw [mapNodeProxyInfo_setSocketID, StdMap.getElem?_insert, if_pos rfl]
        exact ((changes_setSocketID 0 hinfo).trans
          (changes_withoutNode hinfo')).updateActive _
      · exact (changes_withoutNode hinfo).updateActive _

/-- A node that a list from a master contains. -/
def Lists (mapNodeInfo : StdMap UInt32 SNodeInfo) (n : UInt32) : Prop :=
  ∃ (k : UInt32) (info : SNodeInfo), mapNodeInfo[k]? = some info ∧
    info.sNodeBaseInfo.nID = n

/-- A list of nodes from a master takes away the nodes that are missing in it. -/
theorem changes_setNodeProxyInfo (p : CGlobalServiceRegistryProxy)
    (mapNodeInfo : StdMap UInt32 SNodeInfo) (setExcludeConnectNodeID : StdSet UInt32) :
    Changes (fun n => n ∈ p.mapNodeProxyInfo ∧ n ∉ mapNodeInfo) (Lists mapNodeInfo)
      p (p.setNodeProxyInfo mapNodeInfo setExcludeConnectNodeID) := by
  have hdel : Changes (fun n => n ∈ p.mapNodeProxyInfo ∧ n ∉ mapNodeInfo)
      (Lists mapNodeInfo) p
      ((p.missingNodes mapNodeInfo).foldl CGlobalServiceRegistryProxy.delNodeProxyInfo p) := by
    refine Changes.foldl (fun p' nNodeID hmissing => ?_) p
    refine (changes_delNodeProxyInfo _ p' nNodeID).mono ?_ fun _ => id
    rintro n rfl
    obtain ⟨hknown, hnot⟩ := List.mem_filter.mp hmissing
    obtain ⟨⟨k, info⟩, he, rfl⟩ := List.mem_map.mp hknown
    refine ⟨mem_mapNodeProxyInfo_iff.mpr
      ⟨info, Std.ExtTreeMap.mem_toList_iff_getElem?_eq_some.mp he⟩, ?_⟩
    simpa [← Std.ExtTreeMap.contains_iff_mem] using hnot
  refine hdel.trans (Changes.foldl (f := addUnknown setExcludeConnectNodeID)
    (fun p' e he => ?_) _)
  rw [addUnknown]
  split
  · exact .refl _ _ p'
  · exact (changes_addNodeProxyInfo _ p' _ _ _).mono (fun _ => id) fun n hn =>
      ⟨e.1, e.2, Std.ExtTreeMap.mem_toList_iff_getElem?_eq_some.mp he, hn.symm⟩

theorem held_of_empty (h : p.mapNodeProxyInfo = ∅) : p.Held := by
  constructor
  · rintro n s ⟨info, hinfo, -⟩
    simp [h] at hinfo
  · rintro n n' s s' ⟨info, hinfo, -⟩
    simp [h] at hinfo

end CGlobalServiceRegistryProxy

end RealtimeEx.Core
