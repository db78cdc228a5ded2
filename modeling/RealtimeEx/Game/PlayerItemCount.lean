import Mathlib.Algebra.Order.Ring.Int
import RealtimeEx.Game.PlayerItemModule
import RealtimeEx.Support.History

/-!
# The counts of the items

A count is a `uint32_t` that is added to without a bound, and that is cut off at zero when
more is removed than there is.  What is notified is the count that was asked for, not the
one that was removed.
-/

namespace RealtimeEx.Game

/-- What an output tells of a change: the item, the change and the count afterwards. -/
def PlayerItemOutput.Tells (nID : UInt32) (nChange : ℤ) (nCount : UInt32) :
    PlayerItemOutput → Prop
  | .playerItemNotify _ => True
  | .addPlayerItemNotify nOther nDelta nTotal =>
      nOther = nID ∧ (nDelta.toNat : ℤ) = nChange ∧ nTotal = nCount
  | .delPlayerItemNotify nOther nDelta nTotal =>
      nOther = nID ∧ (nDelta.toNat : ℤ) = nChange ∧ nTotal = nCount
  | .addItemEvent nOther nDelta => nOther = nID ∧ (nDelta.toNat : ℤ) = nChange
  | .delItemEvent nOther nDelta => nOther = nID ∧ (nDelta.toNat : ℤ) = nChange

namespace CPlayerItemModule

/-! ## What a call should do -/

/-- Every stored count is positive. -/
def Positive (item : CPlayerItemModule) : Prop :=
  ∀ nID nCount : UInt32, item.mapItem[nID]? = some nCount → nCount ≠ 0

/-- A call changes nothing, or tells of the change of one item. -/
def TellsChange (item item' : CPlayerItemModule) (nID : UInt32) (nChange : ℤ) : Prop :=
  item' = item ∨ ∃ outputs, outputs ≠ [] ∧ item'.outputs = item.outputs ++ outputs ∧
    ∀ output ∈ outputs, output.Tells nID nChange (item'.getItemCount nID)

/-- A call counts exactly, and tells the actual change. -/
def CountsExactly (item item' : CPlayerItemModule) : Action → Prop
  | .addItem nID nCount =>
      (item'.getItemCount nID).toNat = (item.getItemCount nID).toNat + nCount.toNat ∧
        item.TellsChange item' nID
          ((item'.getItemCount nID).toNat - (item.getItemCount nID).toNat)
  | .delItem nID nCount =>
      (item'.getItemCount nID).toNat = (item.getItemCount nID).toNat - nCount.toNat ∧
        ((item'.getItemCount nID) = 0 → item'.mapItem[nID]? = none) ∧
          item.TellsChange item' nID
            ((item.getItemCount nID).toNat - (item'.getItemCount nID).toNat)

/-- The counts are positive at first, and every call of a series counts exactly and leaves
them positive. -/
def RunExact (config : UInt32 → Bool) (item : CPlayerItemModule) (actions : List Action) :
    Prop :=
  item.Positive ∧ Meets (step · config)
    (fun item action => item.CountsExactly (item.step config action) action ∧
      (item.step config action).Positive) item actions

/-- An item that exists is added without a wrap, and not zero times for the first time; of
an item, no more is removed than there is. -/
def Fits (config : UInt32 → Bool) (item : CPlayerItemModule) : Action → Prop
  | .addItem nID nCount =>
      if config nID then
        0 < (item.getItemCount nID).toNat + nCount.toNat ∧
          (item.getItemCount nID).toNat + nCount.toNat < 2 ^ 32
      else
        nCount = 0
  | .delItem nID nCount => ∀ nTotalCount : UInt32, item.mapItem[nID]? = some nTotalCount →
      nCount ≤ nTotalCount

/-- The calls of a series fit the counts that they find. -/
def RunFits (config : UInt32 → Bool) (item : CPlayerItemModule) (actions : List Action) :
    Prop :=
  Meets (step · config) (Fits config) item actions

/-! ## One call -/

variable {config : UInt32 → Bool} {item : CPlayerItemModule} {nID nCount : UInt32}

theorem addItem_of_config (hconfig : config nID = true) :
    item.addItem config nID nCount = { item with
      mapItem := item.mapItem.insert nID (item.getItemCount nID + nCount)
      outputs := item.outputs ++
        [.addPlayerItemNotify nID nCount (item.getItemCount nID + nCount),
          .addItemEvent nID nCount] } := by
  unfold addItem
  rw [hconfig]
  exact if_neg (by decide)

theorem getItemCount_addItem (hconfig : config nID = true) :
    (item.addItem config nID nCount).getItemCount nID = item.getItemCount nID + nCount := by
  rw [addItem_of_config hconfig]
  unfold getItemCount
  rw [StdMap.getElem?_insert, if_pos rfl]
  rfl

/-- Adding counts exactly just if the sum is positive and does not wrap around. -/
theorem addItem_exact_iff (h : item.Positive) :
    (item.CountsExactly (item.addItem config nID nCount) (.addItem nID nCount) ∧
        (item.addItem config nID nCount).Positive) ↔
      item.Fits config (.addItem nID nCount) := by
  unfold CountsExactly Fits
  dsimp only
  cases hconfig : config nID with
  | false =>
      have hsame : item.addItem config nID nCount = item := if_pos hconfig
      rw [hsame, if_neg Bool.false_ne_true]
      constructor
      · rintro ⟨⟨hsum, -⟩, -⟩
        have hzero : nCount.toNat = 0 := by omega
        exact UInt32.toNat_inj.mp hzero
      · rintro rfl
        exact ⟨⟨rfl, .inl rfl⟩, h⟩
  | true =>
      have hcount : ((item.addItem config nID nCount).getItemCount nID).toNat =
          ((item.getItemCount nID).toNat + nCount.toNat) % 2 ^ 32 := by
        rw [getItemCount_addItem hconfig]
        exact UInt32.toNat_add _ _
      have hnew : (item.addItem config nID nCount).mapItem[nID]? =
          some (item.getItemCount nID + nCount) := by
        rw [addItem_of_config hconfig, StdMap.getElem?_insert, if_pos rfl]
      have hvalue : (item.getItemCount nID + nCount).toNat =
          ((item.getItemCount nID).toNat + nCount.toNat) % 2 ^ 32 := UInt32.toNat_add _ _
      rw [if_pos rfl]
      constructor
      · rintro ⟨⟨hsum, -⟩, hpositive⟩
        have hne := hpositive nID _ hnew
        rw [hcount] at hsum
        have hlt := Nat.mod_lt ((item.getItemCount nID).toNat + nCount.toNat)
          (show 0 < 2 ^ 32 by decide)
        refine ⟨?_, by omega⟩
        by_contra hzero
        refine hne (UInt32.toNat_inj.mp ?_)
        rw [hvalue, hsum]
        exact Nat.eq_zero_of_not_pos hzero
      · rintro ⟨hpos, hlt⟩
        rw [Nat.mod_eq_of_lt hlt] at hcount hvalue
        refine ⟨⟨hcount, .inr ?_⟩, ?_⟩
        · refine ⟨_, List.cons_ne_nil _ _,
            congrArg CPlayerItemModule.outputs (addItem_of_config hconfig), ?_⟩
          intro output hmem
          rw [hcount]
          rcases List.mem_cons.mp hmem with rfl | hmem
          · exact ⟨rfl, by omega, (getItemCount_addItem hconfig).symm⟩
          · rw [List.mem_singleton] at hmem
            rw [hmem]
            exact ⟨rfl, by omega⟩
        · intro nOther nTotal hstored
          rw [addItem_of_config hconfig, StdMap.getElem?_insert] at hstored
          split at hstored
          · obtain rfl := Option.some.inj hstored
            intro hzero
            rw [hzero] at hvalue
            exact absurd hvalue.symm (Nat.ne_of_gt hpos)
          · exact h nOther nTotal hstored

theorem delItem_of_none (hnone : item.mapItem[nID]? = none) : item.delItem nID nCount = item := by
  unfold delItem
  rw [hnone]

/-- The count is taken away, and the item with the last of them. -/
theorem delItem_of_some {nTotalCount : UInt32} (nCount : UInt32)
    (hsome : item.mapItem[nID]? = some nTotalCount) :
    ∃ nLeft : UInt32, nLeft.toNat = nTotalCount.toNat - nCount.toNat ∧
      (item.delItem nID nCount).mapItem =
        (if nLeft = 0 then item.mapItem.erase nID else item.mapItem.insert nID nLeft) ∧
        (item.delItem nID nCount).outputs = item.outputs ++
          [.delPlayerItemNotify nID nCount nLeft, .delItemEvent nID nCount] := by
  unfold delItem
  rw [hsome]
  dsimp only
  by_cases hle : nTotalCount ≤ nCount
  · rw [if_pos hle]
    refine ⟨0, ?_, (if_pos rfl).symm, rfl⟩
    exact (Nat.sub_eq_zero_of_le (UInt32.le_iff_toNat_le.mp hle)).symm
  · rw [if_neg hle]
    have hlt : nCount.toNat < nTotalCount.toNat := by
      rw [UInt32.le_iff_toNat_le] at hle
      omega
    have hleft : (nTotalCount - nCount).toNat = nTotalCount.toNat - nCount.toNat :=
      UInt32.toNat_sub_of_le _ _ (UInt32.le_iff_toNat_le.mpr hlt.le)
    refine ⟨nTotalCount - nCount, hleft, (if_neg ?_).symm, rfl⟩
    intro hzero
    rw [hzero] at hleft
    exact absurd hleft (Nat.ne_of_lt (Nat.sub_pos_of_lt hlt))

theorem getItemCount_of_some {nTotalCount : UInt32}
    (hsome : item.mapItem[nID]? = some nTotalCount) : item.getItemCount nID = nTotalCount := by
  unfold getItemCount
  rw [hsome]
  rfl

/-- Removing counts exactly just if there is as much as is removed. -/
theorem delItem_exact_iff (h : item.Positive) :
    (item.CountsExactly (item.delItem nID nCount) (.delItem nID nCount) ∧
        (item.delItem nID nCount).Positive) ↔
      item.Fits config (.delItem nID nCount) := by
  unfold CountsExactly Fits
  dsimp only
  cases hstored : item.mapItem[nID]? with
  | none =>
      rw [delItem_of_none hstored]
      refine iff_of_true ⟨⟨?_, fun _ => hstored, .inl rfl⟩, h⟩ ?_
      · have hzero : item.getItemCount nID = 0 := by
          unfold getItemCount
          rw [hstored]
          rfl
        rw [hzero]
        exact (Nat.zero_sub _).symm
      · intro nTotalCount hsome
        cases hsome
  | some nTotalCount =>
      obtain ⟨nLeft, hleft, hmap, houtputs⟩ := delItem_of_some nCount hstored
      have hpositive := h nID nTotalCount hstored
      have hafter : (item.delItem nID nCount).getItemCount nID = nLeft := by
        unfold getItemCount
        rw [hmap]
        split
        · rename_i hzero
          rw [StdMap.getElem?_erase, if_pos rfl, hzero]
          rfl
        · rw [StdMap.getElem?_insert, if_pos rfl]
          rfl
      rw [hafter, getItemCount_of_some hstored]
      constructor
      · rintro ⟨⟨-, -, hsame | ⟨outputs, -, heq, htells⟩⟩, -⟩ nTotal hsome
        · rw [hsame] at houtputs
          have hlength := congrArg List.length houtputs
          simp only [List.length_append, List.length_cons, List.length_nil] at hlength
          omega
        · obtain rfl := Option.some.inj hsome
          rw [houtputs] at heq
          have hmem : PlayerItemOutput.delItemEvent nID nCount ∈ outputs := by
            rw [← List.append_cancel_left heq]
            simp
          have hchange := (htells _ hmem).2
          rw [UInt32.le_iff_toNat_le]
          omega
      · intro hle
        have hle := UInt32.le_iff_toNat_le.mp (hle nTotalCount rfl)
        refine ⟨⟨hleft, ?_, .inr ⟨_, List.cons_ne_nil _ _, houtputs, ?_⟩⟩, ?_⟩
        · intro hzero
          rw [hmap, if_pos hzero, StdMap.getElem?_erase, if_pos rfl]
        · intro output hmem
          rw [hafter]
          rcases List.mem_cons.mp hmem with rfl | hmem
          · exact ⟨rfl, by omega, rfl⟩
          · rw [List.mem_singleton] at hmem
            rw [hmem]
            exact ⟨rfl, by omega⟩
        · intro nOther nTotal hstored'
          rw [hmap] at hstored'
          split at hstored'
          · rw [StdMap.getElem?_erase] at hstored'
            split at hstored'
            · cases hstored'
            · exact h nOther nTotal hstored'
          · rename_i hne
            rw [StdMap.getElem?_insert] at hstored'
            split at hstored'
            · obtain rfl := Option.some.inj hstored'
              exact hne
            · exact h nOther nTotal hstored'

/-! ## A series of calls -/

/-- The counts of a series of calls are exact just if they are positive at first and every
call fits the counts that it finds. -/
theorem runExact_iff (config : UInt32 → Bool) (item : CPlayerItemModule)
    (actions : List Action) :
    item.RunExact config actions ↔ item.Positive ∧ item.RunFits config actions := by
  refine and_congr_right fun hpositive =>
    meets_congr (I := Positive) (fun _ _ _ hexact => hexact.2) ?_ hpositive actions
  intro item action h
  cases action with
  | addItem nID nCount => exact addItem_exact_iff h
  | delItem nID nCount => exact delItem_exact_iff h

/-- Three of an item are added, and five of it removed: the client is told of five. -/
theorem not_runExact_over_removal :
    ¬ ∀ (config : UInt32 → Bool) (item : CPlayerItemModule) (actions : List Action),
      item.Positive → item.RunExact config actions := by
  intro h
  have hpositive : ({ nPlayerID := 1 } : CPlayerItemModule).Positive := by
    intro nID nCount hstored
    cases hstored
  obtain ⟨-, ⟨-, hadded⟩, ⟨hcounts, hrest⟩, -⟩ :=
    h (fun _ => true) { nPlayerID := 1 } [.addItem 7 3, .delItem 7 5] hpositive
  have hle := (@delItem_exact_iff (fun _ => true) _ 7 5 hadded).mp ⟨hcounts, hrest⟩ 3 (by decide)
  revert hle
  decide

end CPlayerItemModule

end RealtimeEx.Game
