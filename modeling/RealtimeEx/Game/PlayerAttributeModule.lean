import Mathlib.Algebra.Order.Ring.Int
import Mathlib.Algebra.BigOperators.Group.List.Basic
import Mathlib.Data.List.Induction

/-!
# The attributes of a player

`CPlayerAttributeModule` keeps the level, the experience, the currencies and the face of a
player.  They are read as an `int64_t` under the number of their kind, and changed by an
amount that is added.  What would not be above zero after the addition is refused.
-/

namespace RealtimeEx.Game

/-! ## The module -/

/-- `eAT_Lv`. -/
def eAT_Lv : UInt32 := 1
/-- `eAT_Gold`. -/
def eAT_Gold : UInt32 := 2
/-- `eAT_Money`. -/
def eAT_Money : UInt32 := 3
/-- `eAT_Vitality`. -/
def eAT_Vitality : UInt32 := 4
/-- `eAT_Exp`. -/
def eAT_Exp : UInt32 := 5
/-- `eAT_Face`. -/
def eAT_Face : UInt32 := 6

/-- `SAttributeValue`. -/
structure SAttributeValue where
  nType : UInt32
  nValue : UInt32
  deriving DecidableEq

/-- What the module tells the client and the other modules. -/
inductive PlayerAttributeOutput
  | updatePlayerAttributeNotify (nType : UInt32) (nValue : UInt64)
  | lvupEvent
  deriving DecidableEq

/-- `CPlayerAttributeModule`, the fields that have a kind. -/
structure CPlayerAttributeModule where
  nFace : UInt32 := 0
  nLv : UInt32 := 0
  nExp : UInt64 := 0
  nGold : UInt64 := 0
  nMoney : UInt64 := 0
  nVitality : UInt64 := 0
  outputs : List PlayerAttributeOutput := []

namespace CPlayerAttributeModule

variable (attr : CPlayerAttributeModule)

/-- `getAttribute` with the functions of `m_zGetFunc`.  A kind from `eAT_Count` on fails the
assertion, and the kind zero has no function. -/
def getAttribute (nType : UInt32) : Int64 :=
  if nType = eAT_Lv then attr.nLv.toUInt64.toInt64
  else if nType = eAT_Gold then attr.nGold.toInt64
  else if nType = eAT_Money then attr.nMoney.toInt64
  else if nType = eAT_Vitality then attr.nVitality.toInt64
  else if nType = eAT_Exp then attr.nExp.toInt64
  else if nType = eAT_Face then attr.nFace.toUInt64.toInt64
  else 0

/-- `syncAttribute`. -/
def syncAttribute (nType : UInt32) (nData : UInt64) : CPlayerAttributeModule :=
  { attr with outputs := attr.outputs ++ [.updatePlayerAttributeNotify nType nData] }

/-- `addLv`. -/
def addLv (nData : Int64) : CPlayerAttributeModule :=
  let nLv := attr.nLv.toUInt64.toInt64 + nData
  if 0 < nLv then
    let synced := { attr with nLv := nLv.toUInt64.toUInt32 }.syncAttribute eAT_Lv
      nLv.toUInt64.toUInt32.toUInt64
    { synced with outputs := synced.outputs ++ [.lvupEvent] }
  else attr

/-- The sum that `addExp`, `addGold`, `addMoney` and `addVitality` store, if they do. -/
def added (nOld : UInt64) (nData : Int64) : Option UInt64 :=
  let nNew := nOld.toInt64 + nData
  if 0 < nNew then some nNew.toUInt64 else none

/-- What `addExp`, `addGold`, `addMoney` and `addVitality` have in common. -/
def addCurrency (nType : UInt32) (nOld : UInt64) (store : UInt64 → CPlayerAttributeModule)
    (nData : Int64) : CPlayerAttributeModule :=
  match added nOld nData with
  | some nNew => (store nNew).syncAttribute nType nNew
  | none => attr

/-- `addExp`. -/
def addExp : Int64 → CPlayerAttributeModule :=
  attr.addCurrency eAT_Exp attr.nExp fun nExp => { attr with nExp }

/-- `addGold`. -/
def addGold : Int64 → CPlayerAttributeModule :=
  attr.addCurrency eAT_Gold attr.nGold fun nGold => { attr with nGold }

/-- `addMoney`. -/
def addMoney : Int64 → CPlayerAttributeModule :=
  attr.addCurrency eAT_Money attr.nMoney fun nMoney => { attr with nMoney }

/-- `addVitality`. -/
def addVitality : Int64 → CPlayerAttributeModule :=
  attr.addCurrency eAT_Vitality attr.nVitality fun nVitality => { attr with nVitality }

/-- `addAttribute` with the functions of `m_zAddFunc`, which has none for the face. -/
def addAttribute (nType : UInt32) (nData : Int64) : CPlayerAttributeModule :=
  if nType = eAT_Lv then attr.addLv nData
  else if nType = eAT_Gold then attr.addGold nData
  else if nType = eAT_Money then attr.addMoney nData
  else if nType = eAT_Vitality then attr.addVitality nData
  else if nType = eAT_Exp then attr.addExp nData
  else attr

/-- A cost is deducted.  It is an `int32_t` on the way, and negated as one. -/
def pay (cost : SAttributeValue) : CPlayerAttributeModule :=
  attr.addAttribute cost.nType (-cost.nValue.toInt32).toInt64

/-! ## One payment -/

theorem toInt_toInt64_eq_bmod (n : UInt64) : n.toInt64.toInt = (n.toNat : ℤ).bmod (2 ^ 64) :=
  BitVec.toInt_eq_toNat_bmod n.toBitVec

theorem toInt_toUInt64_toInt64 (n : UInt32) : n.toUInt64.toInt64.toInt = n.toNat := by
  have hn := n.toNat_lt
  rw [toInt_toInt64_eq_bmod, UInt32.toNat_toUInt64]
  simp only [Int.bmod_def]
  omega

theorem toNat_toUInt64_of_nonneg {n : Int64} (hn : 0 ≤ n.toInt) :
    (n.toUInt64.toNat : ℤ) = n.toInt := by
  have hround := toInt_toInt64_eq_bmod n.toUInt64
  have hlt := n.toUInt64.toNat_lt
  rw [Int64.toInt64_toUInt64] at hround
  simp only [Int.bmod_def] at hround
  omega

/-- What a cost adds to the balance.  From two to the thirty-first on it is turned around
on the way through the `int32_t`. -/
theorem toInt_deducted (nValue : UInt32) :
    (-nValue.toInt32).toInt64.toInt =
      if nValue.toNat ≤ 2 ^ 31 then -(nValue.toNat : ℤ) else 2 ^ 32 - nValue.toNat := by
  have hlt := nValue.toNat_lt
  have hint32 : nValue.toInt32.toInt = (nValue.toNat : ℤ).bmod (2 ^ 32) :=
    BitVec.toInt_eq_toNat_bmod nValue.toBitVec
  rw [Int32.toInt_toInt64, Int32.toInt_neg, hint32]
  simp only [Int.bmod_def]
  split
  · split <;> omega
  · split <;> omega

/-- The balance of a kind. -/
def balance (nType : UInt32) : ℤ := (attr.getAttribute nType).toInt

/-- The kinds that `added` changes. -/
def currencies : List UInt32 := [eAT_Gold, eAT_Money, eAT_Vitality, eAT_Exp]

/-- When one payment takes exactly its price. -/
def PaysExactly (nType : UInt32) (balance : ℤ) (price : ℕ) : Prop :=
  price = 0 ∨
    (nType = eAT_Lv ∧ (price < balance ∨ price = balance ∧ 2 ^ 31 < price)) ∨
    (nType ∈ currencies ∧ price < balance ∧ price ≤ 2 ^ 31)

/-- A payment leaves a balance, never takes more than the price, and says when it takes
exactly the price. -/
structure Payment (nType : UInt32) (before after : ℤ) (price : ℕ) : Prop where
  nonneg : 0 ≤ after
  le : before - price ≤ after
  eq_iff : after = before - price ↔ PaysExactly nType before price

/-- The new balance of a currency. -/
theorem payment_added {nType : UInt32} (hmem : nType ∈ currencies) (nOld : UInt64)
    (nValue : UInt32) (hnonneg : 0 ≤ nOld.toInt64.toInt) :
    Payment nType nOld.toInt64.toInt
      ((added nOld (-nValue.toInt32).toInt64).getD nOld).toInt64.toInt nValue.toNat := by
  have hlv : nType ≠ eAT_Lv := by
    rintro rfl
    revert hmem
    decide
  have hvalue := nValue.toNat_lt
  have hold := nOld.toInt64.toInt_lt
  have hexact : PaysExactly nType nOld.toInt64.toInt nValue.toNat ↔
      nValue.toNat = 0 ∨ ((nValue.toNat : ℤ) < nOld.toInt64.toInt ∧ nValue.toNat ≤ 2 ^ 31) := by
    simp only [PaysExactly, hlv, hmem, false_and, false_or, true_and]
  have hafter : ((added nOld (-nValue.toInt32).toInt64).getD nOld).toInt64.toInt =
      if 0 < (nOld.toInt64 + (-nValue.toInt32).toInt64).toInt then
        (nOld.toInt64 + (-nValue.toInt32).toInt64).toInt else nOld.toInt64.toInt := by
    simp only [added, Int64.lt_iff_toInt_lt, Int64.toInt_zero]
    split
    · rw [Option.getD_some, Int64.toInt64_toUInt64]
    · rfl
  have hsum : (nOld.toInt64 + (-nValue.toInt32).toInt64).toInt = _ := Int64.toInt_add _ _
  rw [toInt_deducted] at hsum
  simp only [Int.bmod_def] at hsum
  constructor
  · rw [hafter]
    split <;> omega
  · rw [hafter]
    split <;> split at hsum <;> omega
  · rw [hafter, hexact]
    split <;> split at hsum <;> omega

/-- The new level.  A price above two to the thirty-first is added as its difference to two
to the thirty-second, and the sum is cut off to thirty-two bits. -/
theorem payment_addLv (nValue : UInt32) :
    Payment eAT_Lv attr.nLv.toNat
      (attr.addLv (-nValue.toInt32).toInt64).nLv.toNat nValue.toNat := by
  have hvalue := nValue.toNat_lt
  have hold := attr.nLv.toNat_lt
  have hcurrency : eAT_Lv ∉ currencies := by decide
  have hexact : PaysExactly eAT_Lv attr.nLv.toNat nValue.toNat ↔
      nValue.toNat = 0 ∨ nValue.toNat < attr.nLv.toNat ∨
        nValue.toNat = attr.nLv.toNat ∧ 2 ^ 31 < nValue.toNat := by
    simp only [PaysExactly, hcurrency, false_and, or_false, true_and, Nat.cast_lt, Nat.cast_inj]
  have hsum : (attr.nLv.toUInt64.toInt64 + (-nValue.toInt32).toInt64).toInt =
      attr.nLv.toNat + if nValue.toNat ≤ 2 ^ 31 then -(nValue.toNat : ℤ)
        else 2 ^ 32 - nValue.toNat := by
    rw [Int64.toInt_add, toInt_deducted, toInt_toUInt64_toInt64]
    simp only [Int.bmod_def]
    split <;> omega
  have hafter : ((attr.addLv (-nValue.toInt32).toInt64).nLv.toNat : ℤ) =
      if 0 < (attr.nLv.toUInt64.toInt64 + (-nValue.toInt32).toInt64).toInt then
        (attr.nLv.toUInt64.toInt64 + (-nValue.toInt32).toInt64).toInt % ((2 : ℤ) ^ 32)
      else attr.nLv.toNat := by
    simp only [addLv, syncAttribute, Int64.lt_iff_toInt_lt, Int64.toInt_zero]
    split
    · rename_i hpos
      rw [UInt64.toNat_toUInt32, ← toNat_toUInt64_of_nonneg hpos.le]
      rfl
    · rfl
  constructor
  · omega
  · rw [hafter]
    split <;> split at hsum <;> omega
  · rw [hafter, hexact]
    split <;> split at hsum <;> omega

theorem balance_lv : attr.balance eAT_Lv = attr.nLv.toNat :=
  toInt_toUInt64_toInt64 attr.nLv

theorem getAttribute_addLv (nType : UInt32) (nData : Int64) :
    (attr.addLv nData).getAttribute nType =
      if eAT_Lv = nType then (attr.addLv nData).nLv.toUInt64.toInt64
      else attr.getAttribute nType := by
  by_cases htype : eAT_Lv = nType
  · obtain rfl := htype
    rw [if_pos rfl]
    rfl
  · rw [if_neg htype]
    unfold addLv
    by_cases hpos : 0 < attr.nLv.toUInt64.toInt64 + nData
    · simp only [hpos, if_true, getAttribute, if_neg (Ne.symm htype), syncAttribute]
    · simp only [hpos, if_false]

/-- A field of the module that is read and changed under the number of a kind. -/
structure FieldOf (nType : UInt32) (nOld : UInt64) (store : UInt64 → CPlayerAttributeModule) :
    Prop where
  mem : nType ∈ currencies
  old : attr.getAttribute nType = nOld.toInt64
  new : ∀ nNew nOther, (store nNew).getAttribute nOther =
    if nType = nOther then nNew.toInt64 else attr.getAttribute nOther

theorem fieldOf_gold :
    attr.FieldOf eAT_Gold attr.nGold fun nGold => { attr with nGold } where
  mem := by decide
  old := rfl
  new nNew nOther := by
    split
    · rename_i htype
      obtain rfl := htype
      rfl
    · rename_i hne
      simp only [getAttribute, if_neg (Ne.symm hne)]

theorem fieldOf_money :
    attr.FieldOf eAT_Money attr.nMoney fun nMoney => { attr with nMoney } where
  mem := by decide
  old := rfl
  new nNew nOther := by
    split
    · rename_i htype
      obtain rfl := htype
      rfl
    · rename_i hne
      simp only [getAttribute, if_neg (Ne.symm hne)]

theorem fieldOf_vitality :
    attr.FieldOf eAT_Vitality attr.nVitality fun nVitality => { attr with nVitality } where
  mem := by decide
  old := rfl
  new nNew nOther := by
    split
    · rename_i htype
      obtain rfl := htype
      rfl
    · rename_i hne
      simp only [getAttribute, if_neg (Ne.symm hne)]

theorem fieldOf_exp :
    attr.FieldOf eAT_Exp attr.nExp fun nExp => { attr with nExp } where
  mem := by decide
  old := rfl
  new nNew nOther := by
    split
    · rename_i htype
      obtain rfl := htype
      rfl
    · rename_i hne
      simp only [getAttribute, if_neg (Ne.symm hne)]

/-- What `addAttribute` does: it adds to the level, to a currency, or nothing. -/
theorem addAttribute_cases (nType : UInt32) :
    (nType = eAT_Lv ∧ attr.addAttribute nType = attr.addLv) ∨
    (∃ nOld store, attr.FieldOf nType nOld store ∧
      attr.addAttribute nType = attr.addCurrency nType nOld store) ∨
    (nType ≠ eAT_Lv ∧ nType ∉ currencies ∧ ∀ nData, attr.addAttribute nType nData = attr) := by
  by_cases hlv : nType = eAT_Lv
  · obtain rfl := hlv
    exact .inl ⟨rfl, rfl⟩
  · refine .inr ?_
    by_cases hmem : nType ∈ currencies
    · refine .inl ?_
      simp only [currencies, List.mem_cons, List.not_mem_nil, or_false] at hmem
      obtain rfl | rfl | rfl | rfl := hmem
      · exact ⟨_, _, attr.fieldOf_gold, rfl⟩
      · exact ⟨_, _, attr.fieldOf_money, rfl⟩
      · exact ⟨_, _, attr.fieldOf_vitality, rfl⟩
      · exact ⟨_, _, attr.fieldOf_exp, rfl⟩
    · refine .inr ⟨hlv, hmem, fun nData => ?_⟩
      simp only [currencies, List.mem_cons, List.not_mem_nil, or_false, not_or] at hmem
      simp only [addAttribute, hlv, hmem, if_false]

variable {attr}

theorem FieldOf.getAttribute_addCurrency {nType : UInt32} {nOld : UInt64}
    {store : UInt64 → CPlayerAttributeModule} (hfield : attr.FieldOf nType nOld store)
    (nData : Int64) (nOther : UInt32) :
    (attr.addCurrency nType nOld store nData).getAttribute nOther =
      if nType = nOther then ((added nOld nData).getD nOld).toInt64
      else attr.getAttribute nOther := by
  unfold addCurrency
  cases added nOld nData with
  | none =>
      show attr.getAttribute nOther = _
      split
      · rename_i htype
        obtain rfl := htype
        exact hfield.old
      · rfl
  | some nNew => exact hfield.new nNew nOther

/-- A payment leaves the balances of the other kinds alone. -/
theorem balance_pay_of_ne {cost : SAttributeValue} {nType : UInt32} (hne : cost.nType ≠ nType) :
    (attr.pay cost).balance nType = attr.balance nType := by
  unfold balance pay
  obtain ⟨hlv, hadd⟩ | ⟨nOld, store, hfield, hadd⟩ | ⟨-, -, hadd⟩ :=
    attr.addAttribute_cases cost.nType
  · rw [hadd, getAttribute_addLv, if_neg (hlv ▸ hne)]
  · rw [hadd, hfield.getAttribute_addCurrency, if_neg hne]
  · rw [hadd]

/-- What a payment does to the balance of its kind. -/
theorem payment_pay {cost : SAttributeValue} (hnonneg : 0 ≤ attr.balance cost.nType) :
    Payment cost.nType (attr.balance cost.nType) ((attr.pay cost).balance cost.nType)
      cost.nValue.toNat := by
  obtain ⟨hlv, hadd⟩ | ⟨nOld, store, hfield, hadd⟩ | ⟨hlv, hmem, hadd⟩ :=
    attr.addAttribute_cases cost.nType
  · have hafter : (attr.pay cost).balance cost.nType =
        (attr.addLv (-cost.nValue.toInt32).toInt64).nLv.toNat := by
      unfold balance pay
      rw [hadd, hlv, getAttribute_addLv, if_pos rfl, toInt_toUInt64_toInt64]
    rw [hafter, hlv, balance_lv]
    exact attr.payment_addLv cost.nValue
  · have hbefore : attr.balance cost.nType = nOld.toInt64.toInt :=
      congrArg Int64.toInt hfield.old
    have hafter : (attr.pay cost).balance cost.nType =
        ((added nOld (-cost.nValue.toInt32).toInt64).getD nOld).toInt64.toInt := by
      unfold balance pay
      rw [hadd, hfield.getAttribute_addCurrency, if_pos rfl]
    rw [hbefore] at hnonneg ⊢
    rw [hafter]
    exact payment_added hfield.mem nOld cost.nValue hnonneg
  · have hafter : (attr.pay cost).balance cost.nType = attr.balance cost.nType := by
      unfold pay
      rw [hadd]
    rw [hafter]
    constructor
    · exact hnonneg
    · omega
    · simp only [PaysExactly, hlv, hmem, false_and, or_false]
      omega

/-! ## Payments in turn -/

/-- The prices of a kind in a list of costs. -/
def prices (costs : List SAttributeValue) (nType : UInt32) : List ℕ :=
  (costs.filter fun cost => cost.nType = nType).map fun cost => cost.nValue.toNat

/-- When the payment of a list of prices takes exactly their total.  The level can be paid
out to zero, if the last price is turned around on the way. -/
def PayExactly (nType : UInt32) (balance : ℤ) (prices : List ℕ) : Prop :=
  prices.sum = 0 ∨
    (nType = eAT_Lv ∧ (prices.sum < balance ∨
      prices.sum = balance ∧ ∃ last ∈ (prices.filter (· ≠ 0)).getLast?, 2 ^ 31 < last)) ∨
    (nType ∈ currencies ∧ prices.sum < balance ∧ ∀ price ∈ prices, price ≤ 2 ^ 31)

/-- A list of prices is paid exactly if all but the last are, and then the last is. -/
theorem payExactly_append {nType : UInt32} {balance : ℤ} {prices : List ℕ} {price : ℕ} :
    PayExactly nType balance (prices ++ [price]) ↔
      PayExactly nType balance prices ∧ PaysExactly nType (balance - prices.sum) price := by
  have hsum : (prices ++ [price]).sum = prices.sum + price := by
    rw [List.sum_append, List.sum_singleton]
  by_cases hzero : price = 0
  · -- a price of zero changes neither the total nor which price is the last
    obtain rfl := hzero
    have hfilter : (prices ++ [0]).filter (· ≠ 0) = prices.filter (· ≠ 0) := by
      simp
    have hall : (∀ price ∈ prices ++ [0], price ≤ 2 ^ 31) ↔ ∀ price ∈ prices, price ≤ 2 ^ 31 := by
      simp [or_imp, forall_and]
    unfold PayExactly
    rw [hsum, Nat.add_zero, hfilter, hall]
    exact ⟨fun h => ⟨h, .inl rfl⟩, fun h => h.1⟩
  · have hlast : (∃ last ∈ ((prices ++ [price]).filter (· ≠ 0)).getLast?, 2 ^ 31 < last) ↔
        2 ^ 31 < price := by
      simp [List.filter_append, hzero]
    have hall : (∀ other ∈ prices ++ [price], other ≤ 2 ^ 31) ↔
        (∀ other ∈ prices, other ≤ 2 ^ 31) ∧ price ≤ 2 ^ 31 := by
      simp [or_imp, forall_and]
    have hnothing : prices.sum = 0 → ∀ other ∈ prices, other ≤ 2 ^ 31 := by
      intro hprices other hother
      rw [List.sum_eq_zero_iff_forall_eq_nat.mp hprices other hother]
      omega
    have hcurrency : nType = eAT_Lv → nType ∉ currencies := by
      rintro rfl
      decide
    unfold PayExactly PaysExactly
    rw [hsum, hlast, hall]
    constructor
    · rintro (hsum | ⟨hlv, hlt | ⟨heq, hbig⟩⟩ | ⟨hmem, hlt, hsmall, hprice⟩)
      · omega
      · exact ⟨.inr (.inl ⟨hlv, .inl (by omega)⟩), .inr (.inl ⟨hlv, .inl (by omega)⟩)⟩
      · exact ⟨.inr (.inl ⟨hlv, .inl (by omega)⟩), .inr (.inl ⟨hlv, .inr ⟨by omega, hbig⟩⟩)⟩
      · exact ⟨.inr (.inr ⟨hmem, by omega, hsmall⟩), .inr (.inr ⟨hmem, by omega, hprice⟩)⟩
    · rintro ⟨hprices, hzero' | ⟨hlv, hlt | ⟨heq, hbig⟩⟩ | ⟨hmem, hlt, hprice⟩⟩
      · exact absurd hzero' hzero
      · exact .inr (.inl ⟨hlv, .inl (by omega)⟩)
      · exact .inr (.inl ⟨hlv, .inr ⟨by omega, hbig⟩⟩)
      · refine .inr (.inr ⟨hmem, by omega, ?_, hprice⟩)
        obtain hsum | ⟨hlv, -⟩ | ⟨-, -, hsmall⟩ := hprices
        · exact hnothing hsum
        · exact absurd hmem (hcurrency hlv)
        · exact hsmall

theorem prices_append (costs : List SAttributeValue) (cost : SAttributeValue)
    (nType : UInt32) : prices (costs ++ [cost]) nType =
      prices costs nType ++ if cost.nType = nType then [cost.nValue.toNat] else [] := by
  unfold prices
  rw [List.filter_append, List.map_append]
  congr 1
  by_cases htype : cost.nType = nType
  · simp [htype]
  · simp [htype]

/-- What the payment of a list of costs does to the balance of a kind. -/
structure Payments (costs : List SAttributeValue) (nType : UInt32) (before after : ℤ) :
    Prop where
  nonneg : 0 ≤ before → 0 ≤ after
  le : before - (prices costs nType).sum ≤ after
  eq_iff : after = before - (prices costs nType).sum ↔
    PayExactly nType before (prices costs nType)

theorem payments_foldl (costs : List SAttributeValue)
    (hnonneg : ∀ cost ∈ costs, 0 ≤ attr.balance cost.nType) (nType : UInt32) :
    Payments costs nType (attr.balance nType) ((costs.foldl pay attr).balance nType) := by
  induction costs using List.reverseRecOn with
  | nil =>
      constructor
      · exact id
      · simp [prices]
      · simp [prices, PayExactly]
  | append_singleton costs cost ih =>
      have hpaid := ih fun other hother => hnonneg other (List.mem_append_left _ hother)
      have hcost := hnonneg cost (by simp)
      have hprices := prices_append costs cost nType
      rw [List.foldl_append, List.foldl_cons, List.foldl_nil]
      by_cases htype : cost.nType = nType
      · obtain rfl := htype
        rw [if_pos rfl] at hprices
        have hlast := payment_pay (hpaid.nonneg hcost)
        have hsum : (prices (costs ++ [cost]) cost.nType).sum =
            (prices costs cost.nType).sum + cost.nValue.toNat := by
          rw [hprices, List.sum_append, List.sum_singleton]
        constructor
        · exact fun _ => hlast.nonneg
        · have hle := hlast.le
          have hle' := hpaid.le
          omega
        · -- no payment takes more than its price, so the sum is exact only if each one is
          rw [hsum, hprices, payExactly_append, ← hpaid.eq_iff]
          have hle := hlast.le
          have hle' := hpaid.le
          constructor
          · intro heq
            have hfront : (costs.foldl pay attr).balance cost.nType =
                attr.balance cost.nType - (prices costs cost.nType).sum := by
              omega
            refine ⟨hfront, ?_⟩
            rw [← hfront]
            exact hlast.eq_iff.mp (by omega)
          · rintro ⟨hfront, hexact⟩
            rw [← hfront] at hexact
            have heq := hlast.eq_iff.mpr hexact
            omega
      · rw [if_neg htype, List.append_nil] at hprices
        rw [balance_pay_of_ne htype]
        constructor
        · exact hpaid.nonneg
        · exact hprices ▸ hpaid.le
        · exact hprices ▸ hpaid.eq_iff

end CPlayerAttributeModule

end RealtimeEx.Game
