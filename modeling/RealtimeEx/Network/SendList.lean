import RealtimeEx.Support.IndexTable

/-!
# The send list of `CNetEventLoop`

The connecters that have something to send, with the position of each in the list.  The
loop that flushes them goes through the list from the front, while others may be put behind
its end.
-/

namespace RealtimeEx.Network

/-- The first `m_nSendConnecterCount` entries of `m_vecSendConnecter`, and
`m_nSendConnecterIndex` of every connecter; `none` is `_Invalid_SendConnecterIndex`. -/
structure SendList where
  vecSendConnecter : List ℕ := []
  nSendConnecterIndex : ℕ → Option ℕ := fun _ => none

namespace SendList

variable (l : SendList)

/-- `setSendConnecterIndex`. -/
def setSendConnecterIndex (nID : ℕ) (nIndex : Option ℕ) : SendList :=
  { l with nSendConnecterIndex := Function.update l.nSendConnecterIndex nID nIndex }

/-- `addSendConnecter`. -/
def addSendConnecter (nID : ℕ) : SendList :=
  if l.nSendConnecterIndex nID ≠ none then
    l
  else
    { l.setSendConnecterIndex nID (some l.vecSendConnecter.length) with
      vecSendConnecter := l.vecSendConnecter ++ [nID] }

/-- `delSendConnecter` of a connecter that is deleted with its index: the last entry takes
its place. -/
def delSendConnecter (nID : ℕ) : SendList :=
  match l.nSendConnecterIndex nID, l.vecSendConnecter.getLast? with
  | some nIndex, some nLast =>
      if nIndex ≥ l.vecSendConnecter.length then
        l
      else
        { (l.setSendConnecterIndex nLast (some nIndex)).setSendConnecterIndex nID none with
          vecSendConnecter := (l.vecSendConnecter.set nIndex nLast).dropLast }
  | _, _ => l

/-- The end of the loop that flushes. -/
def clear : SendList :=
  { l with vecSendConnecter := [] }

/-- From a position on, the entries and the indices belong to each other; the connecters
before it have been flushed. -/
structure Indexed (nFrom : ℕ) : Prop where
  le : nFrom ≤ l.vecSendConnecter.length
  index_iff : ∀ nID nIndex, l.nSendConnecterIndex nID = some nIndex ↔
    nFrom ≤ nIndex ∧ l.vecSendConnecter[nIndex]? = some nID

variable {l} {nFrom nID : ℕ}

theorem indexed_iff : l.Indexed nFrom ↔
    IndexedFrom l.vecSendConnecter l.nSendConnecterIndex nFrom :=
  ⟨fun h => ⟨h.le, h.index_iff⟩, fun h => ⟨h.le, h.index_iff⟩⟩

theorem indexed_empty : Indexed {} 0 := indexed_iff.mpr .nil

theorem Indexed.mem (h : l.Indexed nFrom) (hindex : (l.nSendConnecterIndex nID).isSome) :
    nID ∈ l.vecSendConnecter := by
  obtain ⟨nIndex, hsome⟩ := Option.isSome_iff_exists.mp hindex
  exact List.mem_of_getElem? ((h.index_iff nID nIndex).mp hsome).2

theorem Indexed.add (h : l.Indexed nFrom) (nID : ℕ) :
    (l.addSendConnecter nID).Indexed nFrom := by
  rw [addSendConnecter]
  split
  · exact h
  · rename_i hnone
    exact indexed_iff.mpr ((indexed_iff.mp h).push (not_not.mp hnone))

/-- The connecter at the position has been flushed. -/
theorem Indexed.next (h : l.Indexed nFrom) (hentry : l.vecSendConnecter[nFrom]? = some nID) :
    (l.setSendConnecterIndex nID none).Indexed (nFrom + 1) :=
  indexed_iff.mpr ((indexed_iff.mp h).advance hentry)

/-- Behind the last entry, no connecter has an index. -/
theorem Indexed.clear (h : l.Indexed nFrom) (hend : l.vecSendConnecter[nFrom]? = none) :
    l.clear.Indexed 0 :=
  indexed_iff.mpr ((indexed_iff.mp h).reset (List.getElem?_eq_none_iff.mp hend))

theorem Indexed.del (h : l.Indexed 0) (nID : ℕ) : (l.delSendConnecter nID).Indexed 0 := by
  rw [delSendConnecter]
  split
  · rename_i nIndex nLast hindex hlast
    have hindexed := indexed_iff.mp h
    rw [if_neg (Nat.not_le_of_lt (hindexed.lt_of_index hindex).2)]
    have hremoved := hindexed.swapRemove hindex hlast
    rw [swapRemove, hlast] at hremoved
    exact indexed_iff.mpr hremoved
  · exact h

theorem index_setSendConnecterIndex (nIndex : Option ℕ) :
    (l.setSendConnecterIndex nID nIndex).nSendConnecterIndex nID = nIndex :=
  Function.update_self _ _ _

theorem index_setSendConnecterIndex_of_ne {nOther : ℕ} (nIndex : Option ℕ)
    (h : nID ≠ nOther) :
    (l.setSendConnecterIndex nOther nIndex).nSendConnecterIndex nID =
      l.nSendConnecterIndex nID :=
  Function.update_of_ne h _ _

theorem isSome_index_addSendConnecter (l : SendList) (nID : ℕ) :
    ((l.addSendConnecter nID).nSendConnecterIndex nID).isSome = true := by
  rw [addSendConnecter]
  split
  · rename_i hindex
    exact Option.isSome_iff_ne_none.mpr hindex
  · exact congrArg Option.isSome (index_setSendConnecterIndex (l := l) _)

theorem index_addSendConnecter_of_ne {nOther : ℕ} (h : nID ≠ nOther) :
    (l.addSendConnecter nOther).nSendConnecterIndex nID = l.nSendConnecterIndex nID := by
  rw [addSendConnecter]
  split
  · rfl
  · exact index_setSendConnecterIndex_of_ne _ h

/-- An entry stays where it is when another is put behind the end. -/
theorem getElem?_addSendConnecter (l : SendList) (nOther : ℕ) {nIndex : ℕ}
    (hentry : l.vecSendConnecter[nIndex]? = some nID) :
    (l.addSendConnecter nOther).vecSendConnecter[nIndex]? = some nID := by
  rw [addSendConnecter]
  split
  · exact hentry
  · have hlt := (List.getElem?_eq_some_iff.mp hentry).1
    exact (List.getElem?_append_left hlt).trans hentry

theorem index_delSendConnecter (h : l.Indexed 0) (nID : ℕ) :
    (l.delSendConnecter nID).nSendConnecterIndex nID = none := by
  rw [delSendConnecter]
  split
  · rename_i nIndex nLast hindex hlast
    have hentry := ((h.index_iff nID nIndex).mp hindex).2
    rw [if_neg (Nat.not_le_of_lt (List.getElem?_eq_some_iff.mp hentry).1)]
    exact index_setSendConnecterIndex none
  · rename_i hnone
    cases hindex : l.nSendConnecterIndex nID with
    | none => rfl
    | some nIndex =>
        have hentry := ((h.index_iff nID nIndex).mp hindex).2
        have hne := List.ne_nil_of_mem (List.mem_of_getElem? hentry)
        exact absurd (List.getLast?_eq_some_getLast hne) (hnone nIndex _ hindex)

/-- The connecters that stay keep an index. -/
theorem isSome_index_delSendConnecter (h : l.Indexed 0) {nOther : ℕ} (hne : nID ≠ nOther) :
    ((l.delSendConnecter nOther).nSendConnecterIndex nID).isSome =
      (l.nSendConnecterIndex nID).isSome := by
  rw [delSendConnecter]
  split
  · rename_i nIndex nLast hindex hlast
    split
    · rfl
    · refine (congrArg Option.isSome (index_setSendConnecterIndex_of_ne none hne)).trans ?_
      by_cases hmoved : nID = nLast
      · subst hmoved
        have hend : l.vecSendConnecter[l.vecSendConnecter.length - 1]? = some nID := by
          rw [← List.getLast?_eq_getElem?]
          exact hlast
        rw [index_setSendConnecterIndex, (h.index_iff nID _).mpr ⟨Nat.zero_le _, hend⟩]
        rfl
      · rw [index_setSendConnecterIndex_of_ne _ hmoved]
  · rfl

end SendList

end RealtimeEx.Network
