import RealtimeEx.Core.GlobalServiceRegistryProxy
import RealtimeEx.Master.ConnectionFromNode
import RealtimeEx.Support.Transition
import Mathlib.Logic.Function.Basic

/-!
# Who is told to connect

When two nodes want to connect to each other the master tells the one with the
larger id not to.  This file follows what every node has last been told about every
other one along the registrations of a master.
-/

namespace RealtimeEx.Master

open Base RealtimeEx.Core

/-! ## Wishes -/

/-- Whether the node that registers with `m` wants to connect to the one that
registers with `m'`. -/
def wantsNode (m m' : SmtRegisterNodeBaseInfo) : Bool :=
  m'.vecServiceBaseInfo.any fun s =>
    m.setConnectServiceName.contains s.szName || m.setConnectServiceType.contains s.szType

/-- It is what the node itself checks. -/
theorem isConnect_eq_wantsNode {p : CGlobalServiceRegistryProxy}
    {m : SmtRegisterNodeBaseInfo} (hnames : p.setConnectServiceName = m.setConnectServiceName)
    (htypes : p.setConnectServiceType = m.setConnectServiceType)
    (m' : SmtRegisterNodeBaseInfo) :
    p.isConnect m'.vecServiceBaseInfo = wantsNode m m' := by
  rw [CGlobalServiceRegistryProxy.isConnect, wantsNode, hnames, htypes]

/-! ## What is sent -/

/-- What a message tells the node with a socket about another node: whether it is not
to connect to it, or that it is gone. -/
def tells (nSocketID : UInt64) (nNodeID : UInt32) (send : Send) : Option (Option Bool) :=
  if send.1 ≠ nSocketID then
    none
  else
    match send.2 with
    | .syncAllNodeBaseInfo m =>
        if m.mapNodeInfo.contains nNodeID then
          some (some (m.setExcludeConnectNodeID.contains nNodeID))
        else
          none
    | .syncNodeBaseInfo m =>
        if m.sNodeBaseInfo.nID = nNodeID then some (some (m.bExcludeConnect ≠ 0)) else none
    | .removeNodeBaseInfo m => if m.nNodeID = nNodeID then some none else none
    | _ => none

/-- What a node has been told after more messages. -/
def hear (nSocketID : UInt64) (nNodeID : UInt32) (sends : List Send)
    (told : Option Bool) : Option Bool :=
  sends.foldl (fun told send => (tells nSocketID nNodeID send).getD told) told

section Hear

variable {nSocketID : UInt64} {nNodeID : UInt32} {sends : List Send} {told : Option Bool}

theorem hear_of_silent (h : ∀ send ∈ sends, tells nSocketID nNodeID send = none) :
    hear nSocketID nNodeID sends told = told := by
  induction sends generalizing told with
  | nil => rfl
  | cons send sends ih =>
      rw [hear, List.foldl_cons, h send List.mem_cons_self]
      exact ih fun send' hmem => h send' (List.mem_cons_of_mem _ hmem)

/-- If some messages concern the node and all of these say the same, that is what it
has been told. -/
theorem hear_eq {v : Option Bool}
    (hall : ∀ send ∈ sends, ∀ x, tells nSocketID nNodeID send = some x → x = v)
    (hex : ∃ send ∈ sends, tells nSocketID nNodeID send = some v) :
    hear nSocketID nNodeID sends told = v := by
  induction sends using List.reverseRecOn with
  | nil =>
      obtain ⟨send, hmem, -⟩ := hex
      cases hmem
  | append_singleton sends send ih =>
      rw [hear, List.foldl_append, List.foldl_cons, List.foldl_nil]
      cases htells : tells nSocketID nNodeID send with
      | some x => exact hall send (by simp) x htells
      | none =>
          refine ih (fun send' hmem => hall send' (by simp [hmem])) ?_
          obtain ⟨send', hmem, htells'⟩ := hex
          rcases List.mem_append.mp hmem with hold | hlast
          · exact ⟨send', hold, htells'⟩
          · rw [List.mem_singleton] at hlast
            rw [hlast, htells] at htells'
            cases htells'

end Hear

/-! ## Registrations -/

/-- A master with the message that every node has last registered with, and what
every node has last been told about every other one. -/
structure Arbitration where
  registry : CServiceRegistry := {}
  node : UInt32 → Option SmtRegisterNodeBaseInfo := fun _ => none
  told : UInt32 → UInt32 → Option Bool := fun _ _ => none

/-- What happens to a master. -/
inductive MasterEvent
  | registers (nSocketID : UInt64) (m : SmtRegisterNodeBaseInfo)
  | unregisters (nNodeID : UInt32)
  | disconnects (nNodeID : UInt32)

namespace Arbitration

/-- The socket of a node; 0 if it is not connected. -/
def socketID (r : CServiceRegistry) (nNodeID : UInt32) : UInt64 :=
  (r.mapNodeProxyInfo[nNodeID]?.map SNodeProxyInfo.nSocketID).getD 0

/-- The registry sends messages, and the nodes on their sockets are told. -/
def deliver (s : Arbitration) (r : CServiceRegistry) (sends : List Send) : Arbitration :=
  { s with
    registry := r
    told := fun a b => hear (socketID r a) b sends (s.told a b) }

/-- The event; a registration that is refused changes nothing. -/
def next (s : Arbitration) : MasterEvent → Arbitration
  | .registers nSocketID m =>
      match s.registry.onRegister nSocketID m with
      | none => s
      | some (r, sends) =>
          { s.deliver r sends with node := Function.update s.node m.sNodeBaseInfo.nID (some m) }
  | .unregisters nNodeID =>
      { s.deliver (s.registry.delNode nNodeID).1 (s.registry.delNode nNodeID).2 with
        node := Function.update s.node nNodeID none }
  | .disconnects nNodeID => { s with registry := s.registry.disconnectNode nNodeID }

/-- A connection registers one node. -/
def OwnSocket (s : Arbitration) : MasterEvent → Prop
  | .registers nSocketID _ =>
      nSocketID ≠ 0 ∧ ∀ (n : UInt32) (info : SNodeProxyInfo),
        s.registry.mapNodeProxyInfo[n]? = some info → info.nSocketID ≠ nSocketID
  | _ => True

/-- The histories of a master. -/
def arbitrating : TransitionSystem Arbitration MasterEvent where
  init s := s = {}
  step s event s' := s.OwnSocket event ∧ s' = s.next event

/-- A registered node, with its message. -/
def Registered (s : Arbitration) (n : UInt32) (m : SmtRegisterNodeBaseInfo) : Prop :=
  (∃ info : SNodeProxyInfo, s.registry.mapNodeProxyInfo[n]? = some info) ∧ s.node n = some m

/-- A registered node that is connected. -/
def Connected (s : Arbitration) (n : UInt32) : Prop := socketID s.registry n ≠ 0

/-- What the node of `m` is to be told about the one of `m'`: if both want to connect to
each other, the one with the smaller id is to do it, and if only the node of `m` wants
to, it is not excluded. -/
def Right (m m' : SmtRegisterNodeBaseInfo) (bExclude : Bool) : Prop :=
  (wantsNode m m' = true → wantsNode m' m = true →
    (bExclude = false ↔ m.sNodeBaseInfo.nID < m'.sNodeBaseInfo.nID)) ∧
  (wantsNode m m' = true → wantsNode m' m = false → bExclude = false)

/-- Every connected node has been told the right thing about every other registered
node. -/
def Arbitrated (s : Arbitration) : Prop :=
  ∀ a b m m', a ≠ b → s.Registered a m → s.Registered b m' → s.Connected a →
    ∃ bExclude, s.told a b = some bExclude ∧ Right m m' bExclude

/-! ## Histories in which the indexes answer -/

/-- The registry takes a connect name of `m` for a type of the node of `m'` or a connect
type for a name, or has the node of `m'` in the index by type under a wish of `m`. -/
def Mistaken (r : CServiceRegistry) (m m' : SmtRegisterNodeBaseInfo) : Prop :=
  (∃ s ∈ m'.vecServiceBaseInfo,
    s.szName ∈ m.setConnectServiceType ∨ s.szType ∈ m.setConnectServiceName) ∨
  ∃ szType, (szType ∈ m.setConnectServiceName ∨ szType ∈ m.setConnectServiceType) ∧
    m'.sNodeBaseInfo.nID ∈ r.typeNodes szType

/-- If the node with the larger id is the only one of the two that wants to connect,
nothing is mistaken for a wish of the other one. -/
def Settled (r : CServiceRegistry) (m m' : SmtRegisterNodeBaseInfo) : Prop :=
  m'.sNodeBaseInfo.nID < m.sNodeBaseInfo.nID → wantsNode m m' = true →
    wantsNode m' m = false → ¬ Mistaken r m' m

/-- A node comes back as it was, a node that registers is not mistaken for one that
another node wants to connect to nor the other way round, and the service ids of a
node that is removed are not node ids of other nodes with services of the same
type. -/
def Answers (s : Arbitration) : MasterEvent → Prop
  | .registers nSocketID m =>
      (s.registry.onRegister nSocketID m).isSome →
        (∀ old, s.Registered m.sNodeBaseInfo.nID old →
          m.vecServiceBaseInfo = old.vecServiceBaseInfo ∧
          m.setConnectServiceName = old.setConnectServiceName ∧
          m.setConnectServiceType = old.setConnectServiceType) ∧
        ∀ n m', n ≠ m.sNodeBaseInfo.nID → s.Registered n m' →
          Settled s.registry m m' ∧ Settled s.registry m' m
  | .unregisters nNodeID =>
      ∀ n service service', s.registry.Serves nNodeID service → n ≠ nNodeID →
        s.registry.Serves n service' → service'.szType = service.szType →
        service.nID ≠ n
  | .disconnects _ => True

/-- The entry of a node is what it has registered with. -/
structure EntryOf (n : UInt32) (m : SmtRegisterNodeBaseInfo) (info : SNodeProxyInfo) :
    Prop where
  id : m.sNodeBaseInfo.nID = n
  infoID : info.sNodeBaseInfo.nID = n
  services : info.vecServiceBaseInfo = m.vecServiceBaseInfo
  names : info.setConnectServiceName = m.setConnectServiceName ∪ m.setConnectServiceType

/-- The registry knows who is registered, its index by name answers for them, and its
index by type has all that they serve. -/
structure Arranged (r : CServiceRegistry) (node : UInt32 → Option SmtRegisterNodeBaseInfo) :
    Prop where
  known : ∀ {n : UInt32} {info : SNodeProxyInfo}, r.mapNodeProxyInfo[n]? = some info →
    ∃ m, node n = some m ∧ EntryOf n m info
  sockets : ∀ {a b : UInt32} {info info' : SNodeProxyInfo},
    r.mapNodeProxyInfo[a]? = some info → r.mapNodeProxyInfo[b]? = some info' →
    info.nSocketID = info'.nSocketID → info.nSocketID ≠ 0 → a = b
  names : ∀ szName n, r.mapServiceName[szName]? = some n ↔
    ∃ service, r.Serves n service ∧ service.szName = szName
  types : ∀ n service, r.Serves n service → n ∈ r.typeNodes service.szType

variable {r : CServiceRegistry} {node : UInt32 → Option SmtRegisterNodeBaseInfo}
  {a b n : UInt32} {info info' : SNodeProxyInfo} {m m' : SmtRegisterNodeBaseInfo}

theorem serves_iff (hb : r.mapNodeProxyInfo[b]? = some info') (hentry : EntryOf b m' info')
    (service : SServiceBaseInfo) : r.Serves b service ↔ service ∈ m'.vecServiceBaseInfo := by
  rw [← hentry.services]
  constructor
  · rintro ⟨info₂, hinfo₂, hmem⟩
    rw [Option.some.inj (hb.symm.trans hinfo₂)]
    exact hmem
  · exact fun hmem => ⟨info', hb, hmem⟩

theorem EntryOf.mem_names (hentry : EntryOf a m info) (szName : StdString) :
    szName ∈ info.setConnectServiceName ↔
      szName ∈ m.setConnectServiceName ∨ szName ∈ m.setConnectServiceType := by
  rw [hentry.names, Std.ExtTreeSet.mem_union_iff]

/-- Where the node wants to connect, the master says so. -/
theorem Arranged.wantsToConnect_of_wantsNode (h : Arranged r node)
    (hb : r.mapNodeProxyInfo[b]? = some info') (hentry : EntryOf a m info)
    (hentry' : EntryOf b m' info') (hwants : wantsNode m m' = true) :
    r.wantsToConnect info info' = true := by
  obtain ⟨service, hmem, hservice⟩ := List.any_eq_true.mp hwants
  have hserves := (serves_iff hb hentry' service).mpr hmem
  simp only [Bool.or_eq_true, Std.ExtTreeSet.contains_iff_mem] at hservice
  simp only [CServiceRegistry.wantsToConnect, Bool.or_eq_true, List.any_eq_true,
    Std.ExtTreeSet.mem_toList, beq_iff_eq, Std.ExtTreeSet.contains_iff_mem,
    hentry'.infoID, hentry.mem_names]
  rcases hservice with hname | htype
  · exact .inl ⟨_, .inl hname, (h.names _ _).mpr ⟨service, hserves, rfl⟩⟩
  · exact .inr ⟨_, .inr htype, h.types b service hserves⟩

/-- Where it does not and nothing is mistaken for a wish, the master does not say so. -/
theorem Arranged.wantsToConnect_eq_false (h : Arranged r node)
    (hb : r.mapNodeProxyInfo[b]? = some info') (hentry : EntryOf a m info)
    (hentry' : EntryOf b m' info') (hwants : wantsNode m m' = false)
    (hmistaken : ¬ Mistaken r m m') : r.wantsToConnect info info' = false := by
  rw [Bool.eq_false_iff]
  simp only [ne_eq, CServiceRegistry.wantsToConnect, Bool.or_eq_true, List.any_eq_true,
    Std.ExtTreeSet.mem_toList, beq_iff_eq, Std.ExtTreeSet.contains_iff_mem,
    hentry'.infoID, hentry.mem_names, h.names, serves_iff hb hentry']
  rintro (⟨szName, hwish, service, hmem, rfl⟩ | ⟨szType, hwish, hindex⟩)
  · rcases hwish with hname | htype
    · rw [wantsNode, List.any_eq_false] at hwants
      exact hwants service hmem (by simp [hname])
    · exact hmistaken (.inl ⟨service, hmem, .inl htype⟩)
  · exact hmistaken (.inr ⟨szType, hwish, by rw [hentry'.id]; exact hindex⟩)

/-- So what the registry answers about two settled nodes is right. -/
theorem Arranged.right_isExcludeConnectNode (h : Arranged r node) (hne : a ≠ b)
    (ha : r.mapNodeProxyInfo[a]? = some info) (hb : r.mapNodeProxyInfo[b]? = some info')
    (hentry : EntryOf a m info) (hentry' : EntryOf b m' info') (hsettled : Settled r m m') :
    Right m m' (r.isExcludeConnectNode info info') := by
  have hid : m.sNodeBaseInfo.nID ≠ m'.sNodeBaseInfo.nID := by
    rw [hentry.id, hentry'.id]
    exact hne
  constructor
  · intro hwants hwants'
    rw [CServiceRegistry.isExcludeConnectNode,
      h.wantsToConnect_of_wantsNode hb hentry hentry' hwants,
      h.wantsToConnect_of_wantsNode ha hentry' hentry hwants', hentry.infoID,
      hentry'.infoID, ← hentry.id, ← hentry'.id]
    simp [UInt32.not_le]
  · intro hwants hwants'
    rw [CServiceRegistry.isExcludeConnectNode,
      h.wantsToConnect_of_wantsNode hb hentry hentry' hwants, hentry.infoID,
      hentry'.infoID, ← hentry.id, ← hentry'.id]
    by_cases hlt : m'.sNodeBaseInfo.nID < m.sNodeBaseInfo.nID
    · rw [h.wantsToConnect_eq_false ha hentry' hentry hwants'
        (hsettled hlt hwants hwants')]
      rfl
    · have hle : ¬ m'.sNodeBaseInfo.nID ≤ m.sNodeBaseInfo.nID := by
        intro hle
        exact hlt (UInt32.lt_of_le_of_ne hle (Ne.symm hid))
      simp [hle]

/-! ## What the events do to the indexes -/

theorem serves_enter (r : CServiceRegistry) (n n' : UInt32) (info : SNodeProxyInfo)
    (vec : List SServiceBaseInfo) (service : SServiceBaseInfo) :
    (r.enter n info vec).Serves n' service ↔
      n' = n ∧ service ∈ info.vecServiceBaseInfo ∨ n' ≠ n ∧ r.Serves n' service := by
  simp only [CServiceRegistry.Serves, CServiceRegistry.getElem?_enter]
  by_cases hn : n = n'
  · subst hn
    simp
  · simp [hn, Ne.symm hn]

/-- A node may be entered: its entry is its own, its names are not those of other nodes,
and what it had before it has again. -/
structure Enters (r : CServiceRegistry) (m : SmtRegisterNodeBaseInfo)
    (info : SNodeProxyInfo) : Prop where
  entry : EntryOf m.sNodeBaseInfo.nID m info
  socket : ∀ {n : UInt32} {info' : SNodeProxyInfo}, r.mapNodeProxyInfo[n]? = some info' →
    info'.nSocketID ≠ info.nSocketID
  had : ∀ service, r.Serves m.sNodeBaseInfo.nID service → service ∈ m.vecServiceBaseInfo
  free : ∀ n service, r.Serves n service →
    service.szName ∈ m.vecServiceBaseInfo.map SServiceBaseInfo.szName →
    n = m.sNodeBaseInfo.nID

theorem Arranged.enter (h : Arranged r node) (he : Enters r m info) :
    Arranged (r.enter m.sNodeBaseInfo.nID info m.vecServiceBaseInfo)
      (Function.update node m.sNodeBaseInfo.nID (some m)) := by
  constructor
  · intro n info₁ hget
    rw [CServiceRegistry.getElem?_enter] at hget
    split at hget
    · rename_i hn
      subst hn
      cases hget
      exact ⟨m, Function.update_self .., he.entry⟩
    · rename_i hn
      obtain ⟨m₁, hm₁, hentry⟩ := h.known hget
      exact ⟨m₁, by rw [Function.update_of_ne (Ne.symm hn)]; exact hm₁, hentry⟩
  · intro a b info₁ info₂ ha hb hsame hne
    rw [CServiceRegistry.getElem?_enter] at ha hb
    split at ha
    · rename_i hna
      split at hb
      · rename_i hnb
        exact hna.symm.trans hnb
      · cases ha
        exact absurd hsame.symm (he.socket hb)
    · split at hb
      · cases hb
        exact absurd hsame (he.socket ha)
      · exact h.sockets ha hb hsame hne
  · intro szName n
    rw [CServiceRegistry.getElem?_mapServiceName_enter]
    simp only [serves_enter, he.entry.services]
    split
    · rename_i hname
      constructor
      · rintro ⟨⟩
        obtain ⟨service, hmem, rfl⟩ := List.mem_map.mp hname
        exact ⟨service, .inl ⟨rfl, hmem⟩, rfl⟩
      · rintro ⟨service, ⟨rfl, -⟩ | ⟨hn, hserves⟩, rfl⟩
        · rfl
        · exact absurd (he.free n service hserves hname) hn
    · rename_i hname
      rw [h.names]
      constructor
      · rintro ⟨service, hserves, rfl⟩
        by_cases hn : n = m.sNodeBaseInfo.nID
        · subst hn
          exact absurd (List.mem_map_of_mem (he.had service hserves)) hname
        · exact ⟨service, .inr ⟨hn, hserves⟩, rfl⟩
      · rintro ⟨service, ⟨-, hmem⟩ | ⟨-, hserves⟩, rfl⟩
        · exact absurd (List.mem_map_of_mem hmem) hname
        · exact ⟨service, hserves, rfl⟩
  · intro n service hserves
    rw [serves_enter, he.entry.services] at hserves
    rw [CServiceRegistry.mem_typeNodes_enter]
    rcases hserves with ⟨hn, hmem⟩ | ⟨-, hserves⟩
    · exact .inr ⟨hn, service, hmem, rfl⟩
    · exact .inl (h.types n service hserves)

/-- Entering a node does not change what another one is mistaken for. -/
theorem mistaken_enter_of_ne (hne : m'.sNodeBaseInfo.nID ≠ n)
    {vec : List SServiceBaseInfo} :
    Mistaken (r.enter n info vec) m m' ↔ Mistaken r m m' := by
  simp [Mistaken, CServiceRegistry.mem_typeNodes_enter, hne]

/-- And what it is itself mistaken for afterwards, it was before or only the mix-up of
names and types. -/
theorem mistaken_enter_self (hwants : wantsNode m' m = false) :
    Mistaken (r.enter m.sNodeBaseInfo.nID info m.vecServiceBaseInfo) m' m ↔
      Mistaken r m' m := by
  simp only [Mistaken, CServiceRegistry.mem_typeNodes_enter, true_and]
  constructor
  · rintro (hmixed | ⟨szType, hwish, hindex | ⟨service, hmem, rfl⟩⟩)
    · exact .inl hmixed
    · exact .inr ⟨szType, hwish, hindex⟩
    · rcases hwish with hname | htype
      · exact .inl ⟨service, hmem, .inr hname⟩
      · rw [wantsNode, List.any_eq_false] at hwants
        exact absurd (by simp [htype]) (hwants service hmem)
  · rintro (hmixed | ⟨szType, hwish, hindex⟩)
    · exact .inl hmixed
    · exact .inr ⟨szType, hwish, .inl hindex⟩

theorem Arranged.del (h : Arranged r node) (hinfo : r.mapNodeProxyInfo[n]? = some info)
    (hids : ∀ n' service service', r.Serves n service → n' ≠ n → r.Serves n' service' →
      service'.szType = service.szType → service.nID ≠ n') :
    Arranged
      { info.vecServiceBaseInfo.foldl CServiceRegistry.unindexService r with
        mapNodeProxyInfo := r.mapNodeProxyInfo.erase n }
      (Function.update node n none) := by
  generalize hq : ({ info.vecServiceBaseInfo.foldl CServiceRegistry.unindexService r with
    mapNodeProxyInfo := r.mapNodeProxyInfo.erase n } : CServiceRegistry) = q
  have htable : q.mapNodeProxyInfo = r.mapNodeProxyInfo.erase n := by rw [← hq]
  have hserves := CServiceRegistry.serves_del htable
  have hold : ∀ {n' : UInt32} {info' : SNodeProxyInfo}, q.mapNodeProxyInfo[n']? = some info' →
      n' ≠ n ∧ r.mapNodeProxyInfo[n']? = some info' := by
    intro n' info' hget
    rw [htable, StdMap.getElem?_erase] at hget
    split at hget
    · cases hget
    · rename_i hn
      exact ⟨Ne.symm hn, hget⟩
  constructor
  · intro n' info₁ hget
    obtain ⟨hn, hget'⟩ := hold hget
    obtain ⟨m₁, hm₁, hentry⟩ := h.known hget'
    exact ⟨m₁, by rw [Function.update_of_ne hn]; exact hm₁, hentry⟩
  · intro a b info₁ info₂ ha hb
    exact h.sockets (hold ha).2 (hold hb).2
  · intro szName n'
    have hname : q.mapServiceName[szName]? =
        if szName ∈ info.vecServiceBaseInfo.map SServiceBaseInfo.szName then none
        else r.mapServiceName[szName]? := by
      rw [← hq]
      exact CServiceRegistry.getElem?_mapServiceName_foldl_unindexService
    rw [hname]
    simp only [hserves]
    split
    · rename_i hgone
      obtain ⟨service, hservice, rfl⟩ := List.mem_map.mp hgone
      have hown := (h.names service.szName n).mpr ⟨service, ⟨info, hinfo, hservice⟩, rfl⟩
      constructor
      · rintro ⟨⟩
      · rintro ⟨service', ⟨hn, hserves'⟩, hsame⟩
        have hother := (h.names service.szName n').mpr ⟨service', hserves', hsame⟩
        exact absurd (Option.some.inj (hother.symm.trans hown)) hn
    · rename_i hkept
      rw [h.names]
      constructor
      · rintro ⟨service, hserves', rfl⟩
        refine ⟨service, ⟨?_, hserves'⟩, rfl⟩
        rintro rfl
        obtain ⟨info', hinfo', hservice⟩ := hserves'
        rw [← Option.some.inj (hinfo.symm.trans hinfo')] at hservice
        exact hkept (List.mem_map_of_mem hservice)
      · rintro ⟨service, ⟨-, hserves'⟩, rfl⟩
        exact ⟨service, hserves', rfl⟩
  · intro n' service hserves'
    rw [hserves] at hserves'
    obtain ⟨hn, hserves'⟩ := hserves'
    have htypes : n' ∈ q.typeNodes service.szType ↔ n' ∈ r.typeNodes service.szType ∧
        ∀ s ∈ info.vecServiceBaseInfo, s.szType = service.szType → s.nID ≠ n' := by
      rw [← hq]
      exact CServiceRegistry.mem_typeNodes_foldl_unindexService
    exact htypes.mpr ⟨h.types n' service hserves', fun s hs htype =>
      hids n' s service ⟨info, hinfo, hs⟩ hn hserves' htype.symm⟩

theorem Arranged.disconnect (h : Arranged r node)
    (hinfo : r.mapNodeProxyInfo[n]? = some info) :
    Arranged (r.enter n { info with nSocketID := 0 } []) node := by
  have hserves := CServiceRegistry.serves_enter_again hinfo 0 []
  have hold : ∀ {n' : UInt32} {info' : SNodeProxyInfo},
      (r.enter n { info with nSocketID := 0 } []).mapNodeProxyInfo[n']? = some info' →
      ∃ info₁, r.mapNodeProxyInfo[n']? = some info₁ ∧
        (info' = info₁ ∨ info' = { info₁ with nSocketID := 0 }) := by
    intro n' info' hget
    rw [CServiceRegistry.getElem?_enter] at hget
    split at hget
    · rename_i hn
      subst hn
      cases hget
      exact ⟨info, hinfo, .inr rfl⟩
    · exact ⟨info', hget, .inl rfl⟩
  constructor
  · intro n' info₁ hget
    obtain ⟨info₂, hget', rfl | rfl⟩ := hold hget
    · exact h.known hget'
    · obtain ⟨m₁, hm₁, hentry⟩ := h.known hget'
      exact ⟨m₁, hm₁, hentry.id, hentry.infoID, hentry.services, hentry.names⟩
  · intro a b info₁ info₂ ha hb hsame hne
    obtain ⟨info₃, ha', rfl | rfl⟩ := hold ha
    · obtain ⟨info₄, hb', rfl | rfl⟩ := hold hb
      · exact h.sockets ha' hb' hsame hne
      · exact absurd hsame hne
    · exact absurd rfl hne
  · intro szName n'
    simp only [hserves]
    exact h.names szName n'
  · intro n' service hserves'
    rw [hserves] at hserves'
    exact h.types n' service hserves'

/-! ## What the nodes hear -/

theorem Arranged.key_eq (h : Arranged r node) (hget : r.mapNodeProxyInfo[n]? = some info) :
    info.sNodeBaseInfo.nID = n := by
  obtain ⟨m₁, -, hentry⟩ := h.known hget
  exact hentry.infoID

theorem Arranged.mem_others (h : Arranged r node)
    (hb : r.mapNodeProxyInfo[b]? = some info') (hne : a ≠ b) : info' ∈ r.others a := by
  refine CServiceRegistry.mem_others.mpr ⟨b, hb, ?_⟩
  rw [h.key_eq hb]
  exact hne.symm

/-- The node that registers is told about every other one. -/
theorem Arranged.tells_syncAllNodeBaseInfo (h : Arranged r node) (hne : a ≠ b)
    (hb : r.mapNodeProxyInfo[b]? = some info') {base : SNodeBaseInfo} (hbase : base.nID = a)
    (info : SNodeProxyInfo) (nSocketID : UInt64) :
    tells nSocketID b
        (nSocketID, .syncAllNodeBaseInfo (r.syncAllNodeBaseInfo info base)) =
      some (some (r.isExcludeConnectNode info info')) := by
  subst hbase
  have hmem := h.mem_others hb hne
  have hkey := h.key_eq hb
  have hknown : (r.syncAllNodeBaseInfo info base).mapNodeInfo.contains b = true := by
    obtain ⟨other, -, -, hget⟩ := StdMap.exists_getElem?_foldl_insert
      (f := fun info : SNodeProxyInfo => info.sNodeBaseInfo.nID)
      (g := fun info : SNodeProxyInfo => ({ sNodeBaseInfo := info.sNodeBaseInfo
                                            vecServiceBaseInfo := info.vecServiceBaseInfo } :
        SNodeInfo)) ∅ hmem
    rw [hkey] at hget
    rw [Std.ExtTreeMap.contains_eq_isSome_getElem?, CServiceRegistry.syncAllNodeBaseInfo]
    exact Option.isSome_of_eq_some hget
  have hexclude : (r.syncAllNodeBaseInfo info base).setExcludeConnectNodeID.contains b =
      r.isExcludeConnectNode info info' := by
    rw [Bool.eq_iff_iff, Std.ExtTreeSet.contains_iff_mem,
      CServiceRegistry.syncAllNodeBaseInfo, ← List.foldl_map, StdSet.mem_foldl_insert,
      List.mem_map]
    constructor
    · rintro (hempty | ⟨other, hother, hsame⟩)
      · simp at hempty
      · obtain ⟨hother, hex⟩ := List.mem_filter.mp hother
        obtain ⟨k, hget, -⟩ := CServiceRegistry.mem_others.mp hother
        rw [h.key_eq hget] at hsame
        subst hsame
        rw [Option.some.inj (hb.symm.trans hget)]
        exact hex
    · exact fun hex => .inr ⟨info', List.mem_filter.mpr ⟨hmem, hex⟩, hkey⟩
  simp only [tells, ne_eq, not_true_eq_false, if_false, hknown, if_true, hexclude]

theorem socketID_eq (hget : r.mapNodeProxyInfo[n]? = some info) :
    socketID r n = info.nSocketID := by
  rw [socketID, hget]
  rfl

/-- Two connected nodes have different sockets. -/
theorem Arranged.socket_ne (h : Arranged r node) (hne : a ≠ b)
    (ha : r.mapNodeProxyInfo[a]? = some info) (hb : r.mapNodeProxyInfo[b]? = some info')
    (hsocket : info.nSocketID ≠ 0) : info'.nSocketID ≠ info.nSocketID :=
  fun hsame => hne (h.sockets ha hb hsame.symm hsocket)

section Announcements

variable {base : SNodeBaseInfo} {vec : List SServiceBaseInfo} {told : Option Bool}

theorem Arranged.hear_self (h : Arranged r node) (hne : a ≠ b) (hbase : base.nID = a)
    (ha : r.mapNodeProxyInfo[a]? = some info) (hb : r.mapNodeProxyInfo[b]? = some info')
    (hsocket : info.nSocketID ≠ 0) :
    hear (socketID r a) b (r.announcements info base vec) told =
      some (r.isExcludeConnectNode info info') := by
  have htells := h.tells_syncAllNodeBaseInfo hne hb hbase info info.nSocketID
  rw [socketID_eq ha]
  refine hear_eq ?_ ⟨_, List.mem_cons_self, htells⟩
  intro send hmem x hx
  rcases List.mem_cons.mp hmem with rfl | hmem
  · exact Option.some.inj (hx.symm.trans htells)
  · obtain ⟨other, hother, rfl⟩ := List.mem_map.mp hmem
    obtain ⟨k, hk, hknown⟩ := CServiceRegistry.mem_others.mp (List.mem_filter.mp hother).1
    rw [h.key_eq hk, hbase] at hknown
    have helse := h.socket_ne hknown.symm ha hk hsocket
    rw [tells, if_pos helse] at hx
    cases hx

theorem Arranged.hear_other (h : Arranged r node) (hne : a ≠ b) (hbase : base.nID = b)
    (ha : r.mapNodeProxyInfo[a]? = some info) (hb : r.mapNodeProxyInfo[b]? = some info')
    (hsocket : info.nSocketID ≠ 0) :
    hear (socketID r a) b (r.announcements info' base vec) told =
      some (r.isExcludeConnectNode info info') := by
  have htells : ∀ other, tells other.nSocketID b (other.nSocketID, .syncNodeBaseInfo
      (r.syncNodeBaseInfo info' base vec other)) =
        some (some (r.isExcludeConnectNode other info')) := by
    intro other
    simp only [tells, ne_eq, not_true_eq_false, if_false,
      CServiceRegistry.syncNodeBaseInfo, hbase, if_true]
    by_cases hex : r.isExcludeConnectNode other info' = true
    · simp [hex]
    · simp [hex]
  have hmem : info ∈ (r.others base.nID).filter fun info => info.nSocketID != 0 := by
    rw [hbase]
    exact List.mem_filter.mpr ⟨h.mem_others ha hne.symm, by simpa using hsocket⟩
  rw [socketID_eq ha]
  refine hear_eq ?_
    ⟨_, List.mem_cons_of_mem _ (List.mem_map_of_mem hmem), htells info⟩
  intro send hmem x hx
  rcases List.mem_cons.mp hmem with rfl | hmem
  · rw [tells, if_pos (h.socket_ne hne ha hb hsocket)] at hx
    cases hx
  · obtain ⟨other, hother, rfl⟩ := List.mem_map.mp hmem
    obtain ⟨k, hk, -⟩ := CServiceRegistry.mem_others.mp (List.mem_filter.mp hother).1
    by_cases hka : k = a
    · subst hka
      rw [Option.some.inj (hk.symm.trans ha), htells info] at hx
      exact (Option.some.inj hx).symm
    · rw [tells, if_pos (h.socket_ne (Ne.symm hka) ha hk hsocket)] at hx
      cases hx

theorem Arranged.hear_third (h : Arranged r node) (hna : a ≠ n) (hnb : b ≠ n)
    (hbase : base.nID = n) (hn : r.mapNodeProxyInfo[n]? = some info')
    (ha : r.mapNodeProxyInfo[a]? = some info) (hsocket : info.nSocketID ≠ 0) :
    hear (socketID r a) b (r.announcements info' base vec) told = told := by
  rw [socketID_eq ha]
  refine hear_of_silent fun send hmem => ?_
  rcases List.mem_cons.mp hmem with rfl | hmem
  · rw [tells, if_pos (h.socket_ne hna ha hn hsocket)]
  · obtain ⟨other, -, rfl⟩ := List.mem_map.mp hmem
    rw [tells]
    split
    · rfl
    · simp only [CServiceRegistry.syncNodeBaseInfo, hbase, if_neg (Ne.symm hnb)]

end Announcements

/-- A removal concerns nobody else. -/
theorem hear_delNode (r : CServiceRegistry) {n b : UInt32} (hne : b ≠ n)
    (nSocketID : UInt64) (told : Option Bool) :
    hear nSocketID b (r.delNode n).2 told = told := by
  refine hear_of_silent fun send hmem => ?_
  rw [CServiceRegistry.delNode] at hmem
  split at hmem
  · cases hmem
  · obtain ⟨other, -, rfl⟩ := List.mem_map.mp hmem
    rw [tells]
    split
    · rfl
    · simp only [if_neg (Ne.symm hne)]

/-! ## Reachable states -/

theorem Arranged.enters (h : Arranged r node) {nSocketID : UInt64}
    (haccepts : CServiceRegistry.Accepts r nSocketID m info)
    (hown : ∀ (n : UInt32) (info : SNodeProxyInfo),
      r.mapNodeProxyInfo[n]? = some info → info.nSocketID ≠ nSocketID)
    (hsame : ∀ old, (∃ info, r.mapNodeProxyInfo[m.sNodeBaseInfo.nID]? = some info) →
      node m.sNodeBaseInfo.nID = some old →
      m.vecServiceBaseInfo = old.vecServiceBaseInfo ∧
      m.setConnectServiceName = old.setConnectServiceName ∧
      m.setConnectServiceType = old.setConnectServiceType) :
    Enters r m info := by
  cases haccepts with
  | new hinfo hdup =>
      refine ⟨⟨rfl, rfl, rfl, rfl⟩, fun hget => hown _ _ hget, ?_, ?_⟩
      · rintro service ⟨info₁, hget, -⟩
        rw [hinfo] at hget
        cases hget
      · intro n service hserves hname
        obtain ⟨own, hown, hsame⟩ := List.mem_map.mp hname
        have hindex := (h.names own.szName n).mpr ⟨service, hserves, hsame.symm⟩
        have hfree := (hdup own hown).2
        rw [← Std.ExtTreeMap.contains_iff_mem, Std.ExtTreeMap.contains_eq_isSome_getElem?,
          hindex] at hfree
        exact absurd rfl hfree
  | again hinfo hsocket =>
      obtain ⟨m₀, hm₀, hentry⟩ := h.known hinfo
      obtain ⟨hvec, hnames, htypes⟩ := hsame m₀ ⟨_, hinfo⟩ hm₀
      refine ⟨⟨rfl, hentry.infoID, ?_, ?_⟩, fun hget => hown _ _ hget, ?_, ?_⟩
      · rw [hvec]
        exact hentry.services
      · rw [hnames, htypes]
        exact hentry.names
      · intro service hserves
        rw [hvec]
        exact (serves_iff hinfo hentry service).mp hserves
      · intro n service hserves hname
        obtain ⟨own, hown, hsame⟩ := List.mem_map.mp hname
        rw [hvec, ← serves_iff hinfo hentry] at hown
        have hindex := (h.names own.szName n).mpr ⟨service, hserves, hsame.symm⟩
        have hindex' := (h.names own.szName _).mpr ⟨own, hown, rfl⟩
        exact Option.some.inj (hindex.symm.trans hindex')

/-- What the registration of `m` has its node and the others told. -/
theorem Arbitrated.registers {s : Arbitration} (h : Arranged s.registry s.node)
    (htold : s.Arbitrated) (he : Enters s.registry m info)
    (hsettled : ∀ n m', n ≠ m.sNodeBaseInfo.nID → s.Registered n m' →
      Settled s.registry m m' ∧ Settled s.registry m' m) :
    Arbitrated
      { s.deliver (s.registry.enter m.sNodeBaseInfo.nID info m.vecServiceBaseInfo)
          ((s.registry.enter m.sNodeBaseInfo.nID info m.vecServiceBaseInfo).announcements
            info m.sNodeBaseInfo m.vecServiceBaseInfo) with
        node := Function.update s.node m.sNodeBaseInfo.nID (some m) } := by
  have h' := h.enter he
  have hself : (s.registry.enter m.sNodeBaseInfo.nID info
      m.vecServiceBaseInfo).mapNodeProxyInfo[m.sNodeBaseInfo.nID]? = some info :=
    CServiceRegistry.getElem?_enter_self
  have hnode : Function.update s.node m.sNodeBaseInfo.nID (some m) m.sNodeBaseInfo.nID =
      some m := Function.update_self ..
  -- A node other than the one that registers was registered before.
  have hold : ∀ {n m'}, n ≠ m.sNodeBaseInfo.nID →
      Function.update s.node m.sNodeBaseInfo.nID (some m) n = some m' → ∀ {info'},
      (s.registry.enter m.sNodeBaseInfo.nID info
        m.vecServiceBaseInfo).mapNodeProxyInfo[n]? = some info' →
      s.Registered n m' ∧ EntryOf n m' info' := by
    intro n m' hn hm' info' hget
    rw [Function.update_of_ne hn] at hm'
    rw [CServiceRegistry.getElem?_enter_of_ne hn] at hget
    obtain ⟨m₁, hm₁, hentry⟩ := h.known hget
    rw [Option.some.inj (hm'.symm.trans hm₁)]
    exact ⟨⟨⟨info', hget⟩, hm₁⟩, hentry⟩
  rintro a b m₁ m₂ hne ⟨⟨info₁, ha⟩, hm₁⟩ ⟨⟨info₂, hb⟩, hm₂⟩ hconnected
  have hsocket : info₁.nSocketID ≠ 0 := by
    rw [← socketID_eq ha]
    exact hconnected
  by_cases hna : a = m.sNodeBaseInfo.nID
  · subst hna
    obtain rfl := Option.some.inj (hnode.symm.trans hm₁)
    obtain rfl := Option.some.inj (hself.symm.trans ha)
    obtain ⟨hregistered, hentry⟩ := hold hne.symm hm₂ hb
    refine ⟨_, h'.hear_self hne rfl ha hb hsocket,
      h'.right_isExcludeConnectNode hne ha hb he.entry hentry fun hlt hwants hwants' => ?_⟩
    rw [mistaken_enter_self hwants']
    exact (hsettled b m₂ hne.symm hregistered).1 hlt hwants hwants'
  · by_cases hnb : b = m.sNodeBaseInfo.nID
    · subst hnb
      obtain rfl := Option.some.inj (hnode.symm.trans hm₂)
      obtain rfl := Option.some.inj (hself.symm.trans hb)
      obtain ⟨hregistered, hentry⟩ := hold hna hm₁ ha
      refine ⟨_, h'.hear_other hne rfl ha hb hsocket,
        h'.right_isExcludeConnectNode hne ha hb hentry he.entry fun hlt hwants hwants' => ?_⟩
      rw [mistaken_enter_of_ne (by rw [hentry.id]; exact hna)]
      exact (hsettled a m₁ hna hregistered).2 hlt hwants hwants'
    · obtain ⟨hregistered, -⟩ := hold hna hm₁ ha
      obtain ⟨hregistered', -⟩ := hold hnb hm₂ hb
      have hget : s.registry.mapNodeProxyInfo[a]? = some info₁ := by
        rw [← ha]
        exact (CServiceRegistry.getElem?_enter_of_ne hna).symm
      obtain ⟨bExclude, hbefore, hright⟩ := htold a b m₁ m₂ hne hregistered hregistered'
        (by rw [Connected, socketID_eq hget]; exact hsocket)
      exact ⟨bExclude, (h'.hear_third hna hnb rfl hself ha hsocket).trans hbefore, hright⟩

/-- Where nobody registers or connects and nobody that stays is told anything, it stays
right. -/
theorem Arbitrated.keep {s s' : Arbitration} (h : s.Arbitrated)
    (hregistered : ∀ n m, s'.Registered n m → s.Registered n m)
    (hconnected : ∀ n m, s'.Registered n m → s'.Connected n → s.Connected n)
    (htold : ∀ a b m m', s'.Registered a m → s'.Registered b m' →
      s'.told a b = s.told a b) : s'.Arbitrated := by
  intro a b m m' hne ha hb hconn
  rw [htold a b m m' ha hb]
  exact h a b m m' hne (hregistered a m ha) (hregistered b m' hb) (hconnected a m ha hconn)

/-- A node that is not in the table can be forgotten. -/
theorem Arranged.forget (h : Arranged r node) (hn : r.mapNodeProxyInfo[n]? = none) :
    Arranged r (Function.update node n none) := by
  refine ⟨fun {a info₁} hget => ?_, h.sockets, h.names, h.types⟩
  have hne : a ≠ n := by
    rintro rfl
    rw [hn] at hget
    cases hget
  rw [Function.update_of_ne hne]
  exact h.known hget

/-- What every step preserves. -/
theorem arranged_arbitrated_step {s s' : Arbitration} {event : MasterEvent}
    (h : Arranged s.registry s.node ∧ s.Arbitrated)
    (hstep : (arbitrating.guard Answers).step s event s') :
    Arranged s'.registry s'.node ∧ s'.Arbitrated := by
  obtain ⟨harranged, htold⟩ := h
  obtain ⟨⟨hown, rfl⟩, hanswers⟩ := hstep
  cases event with
  | registers nSocketID m =>
      rw [next]
      split
      · exact ⟨harranged, htold⟩
      · rename_i r' sends haccepted
        obtain ⟨info, haccepts, rfl, rfl⟩ := CServiceRegistry.onRegister_spec haccepted
        obtain ⟨hsame, hsettled⟩ := hanswers (by rw [haccepted]; rfl)
        have he := harranged.enters haccepts hown.2
          fun old hknown hnode => hsame old ⟨hknown, hnode⟩
        exact ⟨harranged.enter he, htold.registers harranged he hsettled⟩
  | unregisters nNodeID =>
      have hold : ∀ n m, (s.next (.unregisters nNodeID)).Registered n m →
          n ≠ nNodeID ∧ s.Registered n m := by
        rintro n m ⟨⟨info, hget⟩, hm⟩
        have hget' : (s.registry.delNode nNodeID).1.mapNodeProxyInfo[n]? = some info := hget
        rw [CServiceRegistry.getElem?_delNode] at hget'
        split at hget'
        · cases hget'
        · rename_i hn
          refine ⟨Ne.symm hn, ⟨info, hget'⟩, ?_⟩
          rw [← hm]
          exact (Function.update_of_ne (Ne.symm hn) _ _).symm
      refine ⟨?_, htold.keep (fun n m hn => (hold n m hn).2) ?_ ?_⟩
      · rcases hinfo : s.registry.mapNodeProxyInfo[nNodeID]? with _ | info
        · have hsame : (s.next (.unregisters nNodeID)).registry = s.registry :=
            congrArg Prod.fst (CServiceRegistry.delNode_of_none hinfo)
          rw [hsame]
          exact harranged.forget hinfo
        · have hdel : (s.next (.unregisters nNodeID)).registry = _ :=
            CServiceRegistry.delNode_fst_of_some hinfo
          rw [hdel]
          exact harranged.del hinfo fun n' service service' =>
            hanswers n' service service'
      · intro n m hn hconn
        rw [Connected, socketID] at hconn ⊢
        have hget : (s.next (.unregisters nNodeID)).registry.mapNodeProxyInfo[n]? =
            s.registry.mapNodeProxyInfo[n]? := by
          refine (CServiceRegistry.getElem?_delNode s.registry nNodeID n).trans ?_
          rw [if_neg (Ne.symm (hold n m hn).1)]
        rw [← hget]
        exact hconn
      · intro a b m m' _ hb
        exact hear_delNode s.registry (hold b m' hb).1 _ _
  | disconnects nNodeID =>
      rcases hinfo : s.registry.mapNodeProxyInfo[nNodeID]? with _ | info
      · have hsame : s.registry.disconnectNode nNodeID = s.registry := by
          rw [CServiceRegistry.disconnectNode, hinfo]
        rw [next, hsame]
        exact ⟨harranged, htold⟩
      · rw [next, CServiceRegistry.disconnectNode_of_some hinfo]
        refine ⟨harranged.disconnect hinfo, htold.keep ?_ ?_ fun _ _ _ _ _ _ => rfl⟩
        · rintro n m ⟨⟨info', hget⟩, hm⟩
          rw [CServiceRegistry.getElem?_enter] at hget
          split at hget
          · rename_i hn
            subst hn
            exact ⟨⟨info, hinfo⟩, hm⟩
          · exact ⟨⟨info', hget⟩, hm⟩
        · intro n m _ hconn
          rw [Connected, socketID, CServiceRegistry.getElem?_enter] at hconn
          split at hconn
          · exact absurd rfl hconn
          · exact hconn

theorem arranged_empty : Arranged {} fun _ => none := by
  refine ⟨?_, ?_, ?_, ?_⟩
  · intro n info hget
    simp at hget
  · intro a b info info' ha
    simp at ha
  · intro szName n
    simp [CServiceRegistry.Serves]
  · rintro n service ⟨info, hget, -⟩
    simp at hget

/-- A node with one service that wants to connect by one name. -/
def oneService (nID : UInt32) (szName szType szConnect : StdString) :
    SmtRegisterNodeBaseInfo where
  toMessageHeader := newHeader 1
  sNodeBaseInfo := { (default : SNodeBaseInfo) with nID }
  vecServiceBaseInfo := [{ nID, szName, szType }]
  setConnectServiceName := (∅ : StdSet StdString).insert szConnect
  setConnectServiceType := ∅

/-- Two nodes register one after the other. -/
def bothRegistered (m m' : SmtRegisterNodeBaseInfo) : Arbitration :=
  (({} : Arbitration).next (.registers 1 m)).next (.registers 2 m')

theorem registered_first {k : UInt64}
    (hget : (({} : Arbitration).next (.registers k m)).registry.mapNodeProxyInfo[n]? =
      some info) :
    info.nSocketID = k ∧ n = m.sNodeBaseInfo.nID ∧
      (({} : Arbitration).next (.registers k m)).node n = some m := by
  rw [next] at hget ⊢
  split at hget
  · simp at hget
  · rename_i r' sends haccepted
    obtain ⟨info₁, haccepts, rfl, -⟩ := CServiceRegistry.onRegister_spec haccepted
    have hget' : (CServiceRegistry.enter {} m.sNodeBaseInfo.nID info₁
      m.vecServiceBaseInfo).mapNodeProxyInfo[n]? = some info := hget
    rw [CServiceRegistry.getElem?_enter] at hget'
    split at hget'
    · rename_i hn
      subst hn
      cases hget'
      refine ⟨?_, rfl, Function.update_self ..⟩
      cases haccepts with
      | new => rfl
      | again hinfo => simp at hinfo
    · simp at hget'

theorem step_first (m : SmtRegisterNodeBaseInfo) :
    (arbitrating.guard Answers).step {} (.registers 1 m)
      (({} : Arbitration).next (.registers 1 m)) := by
  refine ⟨⟨⟨by decide, fun n info hget => ?_⟩, rfl⟩, fun _ => ⟨?_, ?_⟩⟩
  · simp at hget
  · rintro old ⟨⟨info, hget⟩, -⟩
    simp at hget
  · rintro n m' - ⟨⟨info, hget⟩, -⟩
    simp at hget

theorem step_second (m m' : SmtRegisterNodeBaseInfo) :
    arbitrating.step (({} : Arbitration).next (.registers 1 m)) (.registers 2 m')
      (bothRegistered m m') := by
  refine ⟨⟨by decide, fun n info hget => ?_⟩, rfl⟩
  rw [(registered_first hget).1]
  decide

end Arbitration

end RealtimeEx.Master
