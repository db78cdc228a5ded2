import Mathlib.Algebra.Order.Ring.Int
import RealtimeEx.Game.PlayerAttributeModule
import RealtimeEx.Support.Wrapping

/-!
# The arithmetic of the attributes

`setAttribute` is made of `addAttribute`: what it adds is the old value less the new one,
which is the difference the wrong way around.  A sum is an `int64_t`, which is not checked
for an overflow, and a level is cut off to thirty-two bits when it is stored.
-/

namespace RealtimeEx.Game

namespace CPlayerAttributeModule

/-- `setAttribute`. -/
def setAttribute (attr : CPlayerAttributeModule) (nType : UInt32) (nData : Int64) :
    CPlayerAttributeModule :=
  attr.addAttribute nType (attr.getAttribute nType - nData)

/-! ## What a call should do -/

/-- Everything that a call reports is about its kind, and the change to the old value is
the new value minus the old one. -/
def Reports (attr attr' : CPlayerAttributeModule) (nType : UInt32) : Prop :=
  ∃ outputs, attr'.outputs = attr.outputs ++ outputs ∧
    ∀ nOther nValue, .updatePlayerAttributeNotify nOther nValue ∈ outputs →
      nOther = nType ∧
        nValue.toInt64.toInt - attr.balance nType = attr'.balance nType - attr.balance nType

/-- `addAttribute` adds without a wrap, or changes nothing. -/
structure AddsExactly (attr : CPlayerAttributeModule) (nType : UInt32) (nData : Int64) :
    Prop where
  sum : (attr.addAttribute nType nData).balance nType = attr.balance nType + nData.toInt ∨
    attr.addAttribute nType nData = attr
  reports : attr.Reports (attr.addAttribute nType nData) nType

/-- `setAttribute` sets the value. -/
structure SetsExactly (attr : CPlayerAttributeModule) (nType : UInt32) (nData : Int64) :
    Prop where
  value : (attr.setAttribute nType nData).getAttribute nType = nData
  reports : attr.Reports (attr.setAttribute nType nData) nType

/-- The sum can be stored, or it is refused. -/
def CanAdd (attr : CPlayerAttributeModule) (nType : UInt32) (nData : Int64) : Prop :=
  (nType = eAT_Lv →
    attr.balance nType + nData.toInt < 2 ^ 32 ∨ 2 ^ 63 ≤ attr.balance nType + nData.toInt) ∧
  (nType ∈ currencies →
    -2 ^ 63 ≤ attr.balance nType + nData.toInt ∨ attr.balance nType + nData.toInt = -2 ^ 64)

/-- The value is the old one, or the two are so far apart that the direction of the
difference does not matter. -/
def CanSet (attr : CPlayerAttributeModule) (nType : UInt32) (nData : Int64) : Prop :=
  attr.balance nType = nData.toInt ∨
    (nType = eAT_Lv ∧ 0 ≤ nData.toInt ∧ attr.balance nType = nData.toInt + 2 ^ 31) ∨
    (nType ∈ currencies ∧ 0 < nData.toInt ∧ attr.balance nType = nData.toInt - 2 ^ 63)

/-! ## What a call does -/

variable (attr : CPlayerAttributeModule) (nData : Int64)

/-- The new level: the sum cut off, or the old one. -/
theorem balance_addLv :
    (attr.addLv nData).balance eAT_Lv =
      if 0 < (attr.balance eAT_Lv + nData.toInt).bmod (2 ^ 64) then
        (attr.balance eAT_Lv + nData.toInt).bmod (2 ^ 64) % 2 ^ 32
      else
        attr.balance eAT_Lv := by
  have hsum : (attr.nLv.toUInt64.toInt64 + nData).toInt =
      (attr.balance eAT_Lv + nData.toInt).bmod (2 ^ 64) := Int64.toInt_add _ _
  rw [← hsum]
  unfold balance
  rw [getAttribute_addLv, if_pos rfl, toInt_toUInt64_toInt64]
  simp only [addLv, syncAttribute, Int64.lt_iff_toInt_lt, Int64.toInt_zero]
  split
  · rename_i hpos
    rw [UInt64.toNat_toUInt32, ← toNat_toUInt64_of_nonneg hpos.le]
    rfl
  · exact (toInt_toUInt64_toInt64 attr.nLv).symm

theorem addLv_of_nonpos
    (hsum : ¬ 0 < (attr.balance eAT_Lv + nData.toInt).bmod (2 ^ 64)) :
    attr.addLv nData = attr := by
  have hnew : ¬ 0 < attr.nLv.toUInt64.toInt64 + nData := by
    rw [Int64.lt_iff_toInt_lt, Int64.toInt_zero, Int64.toInt_add]
    exact hsum
  unfold addLv
  simp only [hnew, if_false]

/-- A sum above zero is reported, whether the level changes or not. -/
theorem addLv_ne_of_pos
    (hsum : 0 < (attr.balance eAT_Lv + nData.toInt).bmod (2 ^ 64)) :
    attr.addLv nData ≠ attr := by
  have hnew : 0 < attr.nLv.toUInt64.toInt64 + nData := by
    rw [Int64.lt_iff_toInt_lt, Int64.toInt_zero, Int64.toInt_add]
    exact hsum
  intro heq
  have hlength := congrArg (fun attr => attr.outputs.length) heq
  unfold addLv at hlength
  simp only [hnew, if_true, syncAttribute, List.length_append, List.length_singleton] at hlength
  omega

/-- The level that is reported is the new one. -/
theorem reports_addLv : attr.Reports (attr.addLv nData) eAT_Lv := by
  have hlv : (attr.addLv nData).balance eAT_Lv = (attr.addLv nData).nLv.toNat :=
    balance_lv _
  unfold addLv at hlv ⊢
  by_cases hpos : 0 < attr.nLv.toUInt64.toInt64 + nData
  · simp only [hpos, if_true] at hlv ⊢
    refine ⟨_, List.append_assoc _ _ _, ?_⟩
    intro nOther nValue hmem
    simp only [List.mem_append, List.mem_singleton, reduceCtorEq, or_false,
      PlayerAttributeOutput.updatePlayerAttributeNotify.injEq] at hmem
    obtain ⟨rfl, rfl⟩ := hmem
    refine ⟨rfl, ?_⟩
    rw [hlv, toInt_toUInt64_toInt64]
    rfl
  · simp only [hpos, if_false]
    refine ⟨[], (List.append_nil _).symm, ?_⟩
    intro nOther nValue hmem
    cases hmem

variable {attr}

section

variable {nType : UInt32} {nOld : UInt64} {store : UInt64 → CPlayerAttributeModule}

/-- The new value of a currency: the sum, or the old one. -/
theorem FieldOf.balance_addCurrency (hfield : attr.FieldOf nType nOld store) :
    (attr.addCurrency nType nOld store nData).balance nType =
      if 0 < (attr.balance nType + nData.toInt).bmod (2 ^ 64) then
        (attr.balance nType + nData.toInt).bmod (2 ^ 64)
      else
        attr.balance nType := by
  have hold : attr.balance nType = nOld.toInt64.toInt := congrArg Int64.toInt hfield.old
  have hsum : (nOld.toInt64 + nData).toInt = (attr.balance nType + nData.toInt).bmod (2 ^ 64) := by
    rw [hold]
    exact Int64.toInt_add _ _
  have hafter : (attr.addCurrency nType nOld store nData).balance nType =
      ((added nOld nData).getD nOld).toInt64.toInt := by
    unfold balance
    rw [hfield.getAttribute_addCurrency, if_pos rfl]
  rw [hafter, ← hsum, hold]
  simp only [added, Int64.lt_iff_toInt_lt, Int64.toInt_zero]
  split
  · rw [Option.getD_some, Int64.toInt64_toUInt64]
  · rfl

/-- A sum that is not above zero is refused. -/
theorem FieldOf.addCurrency_of_nonpos (hfield : attr.FieldOf nType nOld store)
    (hsum : ¬ 0 < (attr.balance nType + nData.toInt).bmod (2 ^ 64)) :
    attr.addCurrency nType nOld store nData = attr := by
  have hold : attr.balance nType = nOld.toInt64.toInt := congrArg Int64.toInt hfield.old
  have hnew : ¬ 0 < nOld.toInt64 + nData := by
    rw [Int64.lt_iff_toInt_lt, Int64.toInt_zero, Int64.toInt_add, ← hold]
    exact hsum
  unfold addCurrency added
  simp only [hnew, if_false]

/-- The value that is reported is the new one. -/
theorem FieldOf.reports_addCurrency (hfield : attr.FieldOf nType nOld store)
    (houtputs : ∀ nNew, (store nNew).outputs = attr.outputs) :
    attr.Reports (attr.addCurrency nType nOld store nData) nType := by
  have hafter := hfield.getAttribute_addCurrency nData nType
  rw [if_pos rfl] at hafter
  unfold Reports balance
  rw [hafter]
  unfold addCurrency
  cases hadded : added nOld nData with
  | none =>
      refine ⟨[], (List.append_nil _).symm, ?_⟩
      intro nOther nValue hmem
      cases hmem
  | some nNew =>
      have houtput : ((store nNew).syncAttribute nType nNew).outputs =
          attr.outputs ++ [.updatePlayerAttributeNotify nType nNew] := by
        rw [← houtputs nNew]
        rfl
      refine ⟨[.updatePlayerAttributeNotify nType nNew], houtput, ?_⟩
      intro nOther nValue hmem
      simp only [List.mem_singleton,
        PlayerAttributeOutput.updatePlayerAttributeNotify.injEq] at hmem
      obtain ⟨rfl, rfl⟩ := hmem
      exact ⟨rfl, rfl⟩

end

variable (attr)

/-- Whatever is added to whatever kind, what is reported is the change. -/
theorem reports_addAttribute (nType : UInt32) :
    attr.Reports (attr.addAttribute nType nData) nType := by
  unfold addAttribute
  split
  · rename_i hlv
    rw [hlv]
    exact attr.reports_addLv nData
  · split
    · rename_i hgold
      rw [hgold]
      exact attr.fieldOf_gold.reports_addCurrency nData fun _ => rfl
    · split
      · rename_i hmoney
        rw [hmoney]
        exact attr.fieldOf_money.reports_addCurrency nData fun _ => rfl
      · split
        · rename_i hvitality
          rw [hvitality]
          exact attr.fieldOf_vitality.reports_addCurrency nData fun _ => rfl
        · split
          · rename_i hexp
            rw [hexp]
            exact attr.fieldOf_exp.reports_addCurrency nData fun _ => rfl
          · refine ⟨[], (List.append_nil _).symm, ?_⟩
            intro nOther nValue hmem
            cases hmem

theorem balance_lv_bounds : 0 ≤ attr.balance eAT_Lv ∧ attr.balance eAT_Lv < 2 ^ 32 := by
  have hlt := attr.nLv.toNat_lt
  rw [balance_lv]
  omega

theorem balance_bounds (nType : UInt32) :
    -2 ^ 63 ≤ attr.balance nType ∧ attr.balance nType < 2 ^ 63 :=
  ⟨(attr.getAttribute nType).le_toInt, (attr.getAttribute nType).toInt_lt⟩

theorem toInt_bounds : -2 ^ 63 ≤ nData.toInt ∧ nData.toInt < 2 ^ 63 :=
  ⟨nData.le_toInt, nData.toInt_lt⟩

/-- A sum is added exactly just if it can be stored or is refused. -/
theorem addsExactly_iff (nType : UInt32) :
    attr.AddsExactly nType nData ↔ attr.CanAdd nType nData := by
  have hreports := attr.reports_addAttribute nData nType
  have hsum : attr.AddsExactly nType nData ↔
      ((attr.addAttribute nType nData).balance nType = attr.balance nType + nData.toInt ∨
        attr.addAttribute nType nData = attr) :=
    ⟨AddsExactly.sum, fun h => ⟨h, hreports⟩⟩
  have hdata := toInt_bounds nData
  have hold := attr.balance_bounds nType
  have hbmod := bmod_cases (m := 2 ^ 64) (k := 2 ^ 63) rfl
    (n := attr.balance nType + nData.toInt) (by omega) (by omega)
  rw [hsum]
  unfold CanAdd
  obtain ⟨rfl, hadd⟩ | ⟨nOld, store, hfield, hadd⟩ | ⟨hlv, hmem, hadd⟩ :=
    attr.addAttribute_cases nType
  · have hbounds := attr.balance_lv_bounds
    have hcurrency : eAT_Lv ∉ currencies := by decide
    rw [hadd, balance_addLv]
    by_cases hpos : 0 < (attr.balance eAT_Lv + nData.toInt).bmod (2 ^ 64)
    · rw [if_pos hpos, or_iff_left (attr.addLv_ne_of_pos nData hpos)]
      constructor
      · intro heq
        exact ⟨fun _ => by omega, fun h => absurd h hcurrency⟩
      · rintro ⟨hlv, -⟩
        have hrange := hlv rfl
        omega
    · refine iff_of_true (.inr (attr.addLv_of_nonpos nData hpos)) ⟨fun _ => ?_, ?_⟩
      · omega
      · exact fun h => absurd h hcurrency
  · have hlv : nType ≠ eAT_Lv := by
      rintro rfl
      exact absurd hfield.mem (by decide)
    have hbalance := hfield.balance_addCurrency nData
    rw [hadd]
    by_cases hpos : 0 < (attr.balance nType + nData.toInt).bmod (2 ^ 64)
    · rw [if_pos hpos] at hbalance
      constructor
      · intro h
        have hafter : (attr.addCurrency nType nOld store nData).balance nType =
            attr.balance nType + nData.toInt ∨
              (attr.addCurrency nType nOld store nData).balance nType = attr.balance nType :=
          h.imp_right fun heq => by rw [heq]
        exact ⟨fun h => absurd h hlv, fun _ => by omega⟩
      · rintro ⟨-, hrange⟩
        have hrange := hrange hfield.mem
        left
        omega
    · refine iff_of_true (.inr (hfield.addCurrency_of_nonpos nData hpos))
        ⟨fun h => absurd h hlv, fun _ => ?_⟩
      omega
  · exact iff_of_true (.inr (hadd nData)) ⟨fun h => absurd h hlv, fun h => absurd h hmem⟩

/-- A value is set just if it is the old one, or so far away from it that the direction of
the difference does not matter. -/
theorem setsExactly_iff (nType : UInt32) :
    attr.SetsExactly nType nData ↔ attr.CanSet nType nData := by
  have hreports := attr.reports_addAttribute (attr.getAttribute nType - nData) nType
  have hvalue : attr.SetsExactly nType nData ↔
      (attr.setAttribute nType nData).balance nType = nData.toInt :=
    ⟨fun h => congrArg Int64.toInt h.value, fun h => ⟨Int64.toInt_inj.mp h, hreports⟩⟩
  have hdata := toInt_bounds nData
  have hold := attr.balance_bounds nType
  have hmodify : (attr.getAttribute nType - nData).toInt =
      (attr.balance nType - nData.toInt).bmod (2 ^ 64) := Int64.toInt_sub _ _
  -- twice the old value less the new one, whichever of the two sums wraps around
  have hbmod : (attr.balance nType + (attr.getAttribute nType - nData).toInt).bmod (2 ^ 64) =
      (2 * attr.balance nType - nData.toInt).bmod (2 ^ 64) := by
    rw [hmodify, Int.add_bmod_bmod]
    congr 1
    omega
  rw [hvalue]
  unfold CanSet setAttribute
  obtain ⟨rfl, hadd⟩ | ⟨nOld, store, hfield, hadd⟩ | ⟨hlv, hmem, hadd⟩ :=
    attr.addAttribute_cases nType
  · have hbounds := attr.balance_lv_bounds
    have hcurrency : eAT_Lv ∉ currencies := by decide
    rw [hadd, balance_addLv, hbmod]
    simp only [hcurrency, false_and, or_false, true_and]
    simp only [Int.bmod_def]
    split
    · split
      all_goals omega
    · split
      all_goals omega
  · have hlv : nType ≠ eAT_Lv := by
      rintro rfl
      exact absurd hfield.mem (by decide)
    rw [hadd, hfield.balance_addCurrency, hbmod]
    simp only [hlv, hfield.mem, false_and, false_or, true_and]
    simp only [Int.bmod_def]
    split
    · split
      all_goals omega
    · split
      all_goals omega
  · rw [hadd]
    simp only [hlv, hmem, false_and, or_false]

/-- When a call does what it should: an addition, unless a level gets too large for its
thirty-two bits or a debt for its sixty-four; a setting, when there is nothing to set. -/
theorem exact_iff (attr : CPlayerAttributeModule) (nType : UInt32) (nData : Int64) :
    (attr.SetsExactly nType nData ↔ attr.CanSet nType nData) ∧
      (attr.AddsExactly nType nData ↔ attr.CanAdd nType nData) :=
  ⟨attr.setsExactly_iff nData nType, attr.addsExactly_iff nData nType⟩

/-- A hundred is set where fifty is, which is refused because the sum is zero. -/
theorem not_exact_gold : ∃ (attr : CPlayerAttributeModule) (nType : UInt32) (nData : Int64),
    ¬ (attr.SetsExactly nType nData ∧ attr.AddsExactly nType nData) := by
  refine ⟨{ nGold := 50 }, eAT_Gold, 100, fun h => ?_⟩
  exact absurd h.1.value (by decide)

end CPlayerAttributeModule

end RealtimeEx.Game
