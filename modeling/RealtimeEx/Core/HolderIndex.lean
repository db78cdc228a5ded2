import RealtimeEx.Core.PendingResponseInvariant
import RealtimeEx.Support.History

/-!
# The sessions of a holder

The list of a holder has one node for every pending response that was added for
it, and the entry of the response keeps an iterator to that node.  Whatever is
added, taken, deleted and cancelled, the nodes and the entries belong to each
other, so that taking an entry erases its own node.
-/

namespace RealtimeEx.Core

namespace ServiceState

/-! ## The lists and the iterators -/

/-- The list of a holder; a holder that is not found has none. -/
def holderList (s : ServiceState) (nHolderID : UInt64) : List (ℕ × UInt64) :=
  (s.mapHolderSessionIDList nHolderID).getD []

/-- The session ids in the list of a holder. -/
def sessionIDs (s : ServiceState) (nHolderID : UInt64) : List UInt64 :=
  (s.holderList nHolderID).map Prod.snd

/-- `*iterHolder`, of the iterator an entry keeps into the list of its
holder. -/
def derefHolder (s : ServiceState) (p : PendingResponseInfo) : Option UInt64 :=
  ((s.holderList p.nHolderID).find? fun node => node.1 = p.entry).map Prod.snd

/-- The lists contain the sessions of the pending responses of their holders,
each once, and every iterator refers to the session of its own entry. -/
structure HolderIndex (s : ServiceState) : Prop where
  mem_iff : ∀ nHolderID nSessionID, nHolderID ≠ 0 →
    (nSessionID ∈ s.sessionIDs nHolderID ↔
      ∃ p, s.mapPendingResponseInfo nSessionID = some p ∧
        p.nHolderID = nHolderID)
  zero : s.mapHolderSessionIDList 0 = none
  nodup : ∀ nHolderID, (s.sessionIDs nHolderID).Nodup
  deref : ∀ nSessionID p, s.mapPendingResponseInfo nSessionID = some p →
    p.nHolderID ≠ 0 → s.derefHolder p = some nSessionID
  iter_inj : ∀ nSessionID nSessionID' p p',
    s.mapPendingResponseInfo nSessionID = some p →
      s.mapPendingResponseInfo nSessionID' = some p' → p.entry = p'.entry →
        nSessionID = nSessionID'

/-! ## Every node is there once -/

/-- No list has a node twice. -/
def NodesOnce (s : ServiceState) : Prop :=
  ∀ nHolderID l, s.mapHolderSessionIDList nHolderID = some l → l.Nodup

section

variable {s s' : ServiceState}

theorem NodesOnce.of_eq (h : s.NodesOnce)
    (hholder : s'.mapHolderSessionIDList = s.mapHolderSessionIDList) :
    s'.NodesOnce := by
  intro holder l hl
  rw [hholder] at hl
  exact h holder l hl

/-- The node of a new entry has a session that was not in the table. -/
theorem NodesOnce.addPendingResponseInfo (h : s.NodesOnce) (htables : s.Tables)
    {nDefaultTimeout : UInt32} {nSessionID : UInt64} {i : Invocation}
    (hadd : s.addPendingResponseInfo nDefaultTimeout nSessionID i = some s') :
    s'.NodesOnce := by
  obtain ⟨hfree, -, hholder, -⟩ := addPendingResponseInfo_spec hadd
  intro holder l hl
  rw [hholder] at hl
  split at hl
  · obtain rfl := Option.some.inj hl
    cases hlist : s.mapHolderSessionIDList holder with
    | none => exact List.nodup_singleton _
    | some old =>
        have hnew : (s.nextEntry, nSessionID) ∉ old := by
          intro hmem
          obtain ⟨p, hp, -⟩ :=
            (htables.mem_holder holder old hlist _ _).mp hmem
          rw [hfree] at hp
          cases hp
        exact (h holder old hlist).append (List.nodup_singleton _)
          (List.disjoint_singleton.mpr hnew)
  · exact h holder l hl

theorem NodesOnce.getPendingResponseInfo (h : s.NodesOnce)
    (p : PendingResponseInfo) : (s.getPendingResponseInfo p).NodesOnce := by
  obtain ⟨-, hholder⟩ := getPendingResponseInfo_spec s p
  intro holder l hl
  rw [hholder] at hl
  split at hl
  · obtain ⟨old, hold, rfl⟩ := Option.map_eq_some_iff.mp hl
    exact (h holder old hold).filter _
  · exact h holder l hl

theorem NodesOnce.delPendingResponseInfo (h : s.NodesOnce)
    (htables : s.Tables) (nHolderID : UInt64) :
    (s.delPendingResponseInfo nHolderID).NodesOnce := by
  by_cases hzero : nHolderID = 0
  · subst hzero
    rw [delPendingResponseInfo_zero htables]
    exact h
  · obtain ⟨-, hholder, -⟩ := htables.delPendingResponseInfo_spec hzero
    intro holder l hl
    rw [hholder] at hl
    split at hl
    · cases hl
    · exact h holder l hl

/-- A node in the list of a holder is the node of one pending response. -/
theorem Tables.mem_holderList (h : s.Tables) {nHolderID : UInt64}
    (hne : nHolderID ≠ 0) (entry : ℕ) (nSessionID : UInt64) :
    (entry, nSessionID) ∈ s.holderList nHolderID ↔
      ∃ p, s.mapPendingResponseInfo nSessionID = some p ∧ p.entry = entry ∧
        p.nHolderID = nHolderID := by
  unfold holderList
  cases hlist : s.mapHolderSessionIDList nHolderID with
  | some l => exact h.mem_holder nHolderID l hlist entry nSessionID
  | none =>
      refine iff_of_false List.not_mem_nil ?_
      rintro ⟨p, hp, -, rfl⟩
      obtain ⟨l, hl⟩ := h.holder_isSome nSessionID p hp hne
      rw [hlist] at hl
      cases hl

theorem Tables.holderList_zero (h : s.Tables) :
    s.mapHolderSessionIDList 0 = none := by
  cases hlist : s.mapHolderSessionIDList 0 with
  | none => rfl
  | some l => exact absurd rfl (h.holder_ne 0 l hlist)

/-- Two nodes of a list with the same session are nodes of the same entry. -/
theorem Tables.nodup_sessionIDs (h : s.Tables) (honce : s.NodesOnce)
    (nHolderID : UInt64) : (s.sessionIDs nHolderID).Nodup := by
  by_cases hzero : nHolderID = 0
  · subst hzero
    unfold sessionIDs holderList
    rw [h.holderList_zero]
    exact List.nodup_nil
  · have hnodes : (s.holderList nHolderID).Nodup := by
      unfold holderList
      cases hlist : s.mapHolderSessionIDList nHolderID with
      | none => exact List.nodup_nil
      | some l => exact honce nHolderID l hlist
    refine hnodes.map_on ?_
    rintro ⟨entry, sid⟩ hnode ⟨entry', sid'⟩ hnode' heq
    obtain ⟨p, hp, rfl, -⟩ := (h.mem_holderList hzero _ _).mp hnode
    obtain ⟨p', hp', rfl, -⟩ := (h.mem_holderList hzero _ _).mp hnode'
    have hsid : sid = sid' := heq
    subst hsid
    rw [hp] at hp'
    obtain rfl := Option.some.inj hp'
    rfl

/-- The node an iterator refers to is in the list. -/
theorem Tables.derefHolder_eq (h : s.Tables) {nSessionID : UInt64}
    {p : PendingResponseInfo}
    (hp : s.mapPendingResponseInfo nSessionID = some p)
    (hne : p.nHolderID ≠ 0) : s.derefHolder p = some nSessionID := by
  have hmem := (h.mem_holderList hne p.entry nSessionID).mpr ⟨p, hp, rfl, rfl⟩
  unfold derefHolder
  cases hfind : (s.holderList p.nHolderID).find? fun node => node.1 = p.entry with
  | none =>
      have hother := List.find?_eq_none.mp hfind _ hmem
      exact absurd (decide_eq_true rfl) hother
  | some node =>
      have hnode := List.mem_of_find?_eq_some hfind
      have hentry : node.1 = p.entry := by
        simpa using List.find?_some hfind
      obtain ⟨p', hp', hentry', -⟩ := (h.mem_holderList hne node.1 node.2).mp hnode
      have hsid := h.entry_inj node.2 nSessionID p' p hp' hp
        (hentry'.trans hentry)
      exact congrArg some hsid

theorem Tables.holderIndex (h : s.Tables) (honce : s.NodesOnce) :
    s.HolderIndex where
  mem_iff nHolderID nSessionID hne := by
    rw [sessionIDs, List.mem_map]
    constructor
    · rintro ⟨node, hnode, rfl⟩
      obtain ⟨p, hp, -, hholder⟩ := (h.mem_holderList hne node.1 node.2).mp hnode
      exact ⟨p, hp, hholder⟩
    · rintro ⟨p, hp, hholder⟩
      exact ⟨_, (h.mem_holderList hne _ _).mpr ⟨p, hp, rfl, hholder⟩, rfl⟩
  zero := h.holderList_zero
  nodup := h.nodup_sessionIDs honce
  deref _ _ hp hne := h.derefHolder_eq hp hne
  iter_inj := h.entry_inj

end

/-! ## Sequences of operations -/

/-- What is done to the pending responses: `invoke` adds one, or fails behind
`genSessionID`; a response takes one and deletes it afterwards; a holder is
cancelled; a timeout looks one up. -/
inductive HolderOp
  | add (i : Invocation)
  | addFailed
  | get (nSessionID : UInt64)
  | delete (p : PendingResponseInfo)
  | cancel (nHolderID : UInt64)
  | timeout (nContext : UInt64)

/-- One operation. -/
def holderStep (nDefaultTimeout : UInt32) (s : ServiceState) :
    HolderOp → ServiceState
  | .add i =>
      let s := { s with nNextSessionID := s.genSessionID }
      (s.addPendingResponseInfo nDefaultTimeout s.nNextSessionID i).getD s
  | .addFailed => { s with nNextSessionID := s.genSessionID }
  | .get nSessionID =>
      match s.mapPendingResponseInfo nSessionID with
      | none => s
      | some p => s.getPendingResponseInfo p
  | .delete p => s.deletePendingResponseInfo p
  | .cancel nHolderID => s.delPendingResponseInfo nHolderID
  | .timeout nContext => s.onRequestMessageTimeout nContext

theorem holderStep_preserves (nDefaultTimeout : UInt32) (s : ServiceState)
    (op : HolderOp) (h : s.Tables ∧ s.NodesOnce) :
    (s.holderStep nDefaultTimeout op).Tables ∧
      (s.holderStep nDefaultTimeout op).NodesOnce := by
  obtain ⟨htables, honce⟩ := h
  cases op with
  | add i =>
      have htables' : { s with nNextSessionID := s.genSessionID }.Tables :=
        htables.of_eq rfl rfl rfl
      have honce' : { s with nNextSessionID := s.genSessionID }.NodesOnce :=
        honce.of_eq rfl
      unfold holderStep
      dsimp only
      cases hadd : { s with nNextSessionID := s.genSessionID
        }.addPendingResponseInfo nDefaultTimeout s.genSessionID i with
      | none => exact ⟨htables', honce'⟩
      | some t =>
          exact ⟨htables'.addPendingResponseInfo (genSessionID_ne_zero s) hadd,
            honce'.addPendingResponseInfo htables' hadd⟩
  | addFailed => exact ⟨htables.of_eq rfl rfl rfl, honce.of_eq rfl⟩
  | get nSessionID =>
      unfold holderStep
      dsimp only
      split
      · exact ⟨htables, honce⟩
      · rename_i p hp
        exact ⟨htables.getPendingResponseInfo hp, honce.getPendingResponseInfo p⟩
  | delete p => exact ⟨htables.of_eq rfl rfl rfl, honce.of_eq rfl⟩
  | cancel nHolderID =>
      exact ⟨htables.delPendingResponseInfo nHolderID,
        honce.delPendingResponseInfo htables nHolderID⟩
  | timeout nContext => exact ⟨htables.of_eq rfl rfl rfl, honce.of_eq rfl⟩

theorem nodesOnce_initial (time : ℕ) : (initial time).NodesOnce := by
  intro holder l hl
  cases hl

/-- After every sequence of operations the lists of the holders and the
entries belong to each other. -/
theorem holderIndex_foldl (nDefaultTimeout : UInt32) (time : ℕ)
    (ops : List HolderOp) :
    (ops.foldl (holderStep nDefaultTimeout) (initial time)).HolderIndex := by
  obtain ⟨htables, honce⟩ := foldl_invariant
    (holderStep_preserves nDefaultTimeout)
    ⟨tables_initial time, nodesOnce_initial time⟩ ops
  exact htables.holderIndex honce

end ServiceState

end RealtimeEx.Core
