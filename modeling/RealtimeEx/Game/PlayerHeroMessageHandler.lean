import Mathlib.Algebra.Order.Ring.Int
import RealtimeEx.Game.Player
import RealtimeEx.Game.PlayerAttributeModule
import RealtimeEx.Game.PlayerItemModule

/-!
# The activation of heroes and hero patches

A client asks to activate a hero or a patch of a hero.  The handler looks the requirements
up in the configuration, checks them one after another, takes the costs from the modules of
the player, and adds the hero or the patch to the active ones.
-/

namespace RealtimeEx.Game

open CGameService (eEC_Sucess)

/-! ## The configuration -/

/-- `SHeroConfigInfo`, the fields that the handlers read. -/
structure SHeroConfigInfo where
  nID : UInt32
  nActiveReqLv : UInt16 := 0
  nActiveReqPatchID : UInt32 := 0
  vecActiveCost : List SAttributeValue := []
  deriving DecidableEq

/-- `SHeroPatchConfigInfo`. -/
structure SHeroPatchConfigInfo where
  nID : UInt32
  nActiveReqItemID : UInt32 := 0
  nActiveReqPatchID : UInt32 := 0
  nActiveReqHeroID : UInt32 := 0
  nActiveReqLv : UInt16 := 0
  vecActiveCost : List SAttributeValue := []
  deriving DecidableEq

/-- `CHeroStaticConfig`.  `init` stores a row under its own id. -/
structure CHeroStaticConfig where
  mapHeroConfigInfo : StdMap UInt32 SHeroConfigInfo
  nID_eq : ∀ (nID : UInt32) (info : SHeroConfigInfo), mapHeroConfigInfo[nID]? = some info → info.nID = nID

/-- `CHeroPatchStaticConfig`. -/
structure CHeroPatchStaticConfig where
  mapHeroPatchConfigInfo : StdMap UInt32 SHeroPatchConfigInfo
  nID_eq : ∀ (nID : UInt32) (info : SHeroPatchConfigInfo),
    mapHeroPatchConfigInfo[nID]? = some info → info.nID = nID

namespace CHeroStaticConfig

/-- `init` with the rows of `csv/hero.csv`; a later row replaces an earlier one. -/
def init (rows : List SHeroConfigInfo) : CHeroStaticConfig where
  mapHeroConfigInfo := rows.foldl (fun config info => config.insert info.nID info) ∅
  nID_eq _ _ hget := StdMap.key_of_getElem?_foldl_insert (by simp) hget

/-- `getHeroConfigInfo`. -/
def getHeroConfigInfo (config : CHeroStaticConfig) (nID : UInt32) : Option SHeroConfigInfo :=
  config.mapHeroConfigInfo[nID]?

end CHeroStaticConfig

namespace CHeroPatchStaticConfig

/-- `init` with the rows of `csv/hero_patch.csv`. -/
def init (rows : List SHeroPatchConfigInfo) : CHeroPatchStaticConfig where
  mapHeroPatchConfigInfo := rows.foldl (fun config info => config.insert info.nID info) ∅
  nID_eq _ _ hget := StdMap.key_of_getElem?_foldl_insert (by simp) hget

/-- `getHeroPatchConfigInfo`. -/
def getHeroPatchConfigInfo (config : CHeroPatchStaticConfig) (nID : UInt32) :
    Option SHeroPatchConfigInfo :=
  config.mapHeroPatchConfigInfo[nID]?

end CHeroPatchStaticConfig

/-! ## The hero module -/

/-- What the module tells the client and the other modules. -/
inductive PlayerHeroOutput
  | activePlayerHeroNotify (nID : UInt32)
  | activePlayerHeroPatchNotify (nID : UInt32)
  | activeHeroEvent (nHeroID : UInt32)
  | activeHeroPatchEvent (nHeroPatchID : UInt32)
  deriving DecidableEq

/-- `CPlayerHeroModule`. -/
structure CPlayerHeroModule where
  setActiveHeroID : StdSet UInt32 := ∅
  setActivePatchID : StdSet UInt32 := ∅
  outputs : List PlayerHeroOutput := []

namespace CPlayerHeroModule

variable (hero : CPlayerHeroModule)

/-- `isHeroActive`. -/
def isHeroActive (nID : UInt32) : Bool :=
  hero.setActiveHeroID.contains nID

/-- `isPatchActive`. -/
def isPatchActive (nID : UInt32) : Bool :=
  hero.setActivePatchID.contains nID

/-- `activeHero`. -/
def activeHero (nID : UInt32) : CPlayerHeroModule :=
  if hero.isHeroActive nID then hero
  else
    { hero with
      setActiveHeroID := hero.setActiveHeroID.insert nID
      outputs := hero.outputs ++ [.activePlayerHeroNotify nID, .activeHeroEvent nID] }

/-- `activePatch`. -/
def activePatch (nID : UInt32) : CPlayerHeroModule :=
  if hero.isPatchActive nID then hero
  else
    { hero with
      setActivePatchID := hero.setActivePatchID.insert nID
      outputs := hero.outputs ++ [.activePlayerHeroPatchNotify nID, .activeHeroPatchEvent nID] }

end CPlayerHeroModule

/-! ## The handlers -/

/-- `eEC_Hero_NotFoundHeroConfig`. -/
def eEC_Hero_NotFoundHeroConfig : UInt32 := 300
/-- `eEC_Hero_HeroDoubleActive`. -/
def eEC_Hero_HeroDoubleActive : UInt32 := 301
/-- `eEC_Hero_ReqLvError`. -/
def eEC_Hero_ReqLvError : UInt32 := 302
/-- `eEC_Hero_ReqPatchError`. -/
def eEC_Hero_ReqPatchError : UInt32 := 303
/-- `eEC_Hero_ReqResourceError`. -/
def eEC_Hero_ReqResourceError : UInt32 := 304
/-- `eEC_Hero_NotFoundHeroPatchConfig`. -/
def eEC_Hero_NotFoundHeroPatchConfig : UInt32 := 305
/-- `eEC_Hero_HeroPatchDoubleActive`. -/
def eEC_Hero_HeroPatchDoubleActive : UInt32 := 306
/-- `eEC_Hero_ReqHeroError`. -/
def eEC_Hero_ReqHeroError : UInt32 := 307
/-- `eEC_Hero_ReqItemError`. -/
def eEC_Hero_ReqItemError : UInt32 := 308

/-- The modules of a `CPlayer`. -/
structure PlayerModules where
  attributeModule : CPlayerAttributeModule
  itemModule : CPlayerItemModule
  heroModule : CPlayerHeroModule

/-- `c2s_active_hero_response` and `c2s_active_hero_patch_response`. -/
structure ActiveResponse where
  nID : UInt32
  nResult : UInt32
  deriving DecidableEq

namespace PlayerModules

variable (player : PlayerModules)

/-- One of the costs is more than the player has. -/
def lacksResource (costs : List SAttributeValue) : Bool :=
  costs.any fun cost =>
    player.attributeModule.getAttribute cost.nType < cost.nValue.toUInt64.toInt64

/-- `c2s_active_hero_request_handler` for the player of the session.  Without a player it
returns at once. -/
def c2s_active_hero_request_handler (config : CHeroStaticConfig) (nID : UInt32) :
    PlayerModules × ActiveResponse :=
  match config.getHeroConfigInfo nID with
  | none => (player, ⟨nID, eEC_Hero_NotFoundHeroConfig⟩)
  | some info =>
      if player.heroModule.isHeroActive info.nID then
        (player, ⟨nID, eEC_Hero_HeroDoubleActive⟩)
      else if player.attributeModule.nLv < info.nActiveReqLv.toUInt32 then
        (player, ⟨nID, eEC_Hero_ReqLvError⟩)
      else if info.nActiveReqPatchID ≠ 0 ∧
          player.heroModule.isPatchActive info.nActiveReqPatchID = false then
        (player, ⟨nID, eEC_Hero_ReqPatchError⟩)
      else if player.lacksResource info.vecActiveCost then
        (player, ⟨nID, eEC_Hero_ReqResourceError⟩)
      else
        ({ player with
            attributeModule := info.vecActiveCost.foldl CPlayerAttributeModule.pay player.attributeModule
            heroModule := player.heroModule.activeHero info.nID },
          ⟨nID, eEC_Sucess⟩)

/-- `c2s_active_hero_patch_request_handler` for the player of the session. -/
def c2s_active_hero_patch_request_handler (config : CHeroPatchStaticConfig) (nID : UInt32) :
    PlayerModules × ActiveResponse :=
  match config.getHeroPatchConfigInfo nID with
  | none => (player, ⟨nID, eEC_Hero_NotFoundHeroPatchConfig⟩)
  | some info =>
      if player.heroModule.isPatchActive info.nID then
        (player, ⟨nID, eEC_Hero_HeroPatchDoubleActive⟩)
      else if player.attributeModule.nLv < info.nActiveReqLv.toUInt32 then
        (player, ⟨nID, eEC_Hero_ReqLvError⟩)
      else if info.nActiveReqPatchID ≠ 0 ∧
          player.heroModule.isPatchActive info.nActiveReqPatchID = false then
        (player, ⟨nID, eEC_Hero_ReqPatchError⟩)
      else if info.nActiveReqHeroID ≠ 0 ∧
          player.heroModule.isHeroActive info.nActiveReqHeroID = false then
        (player, ⟨nID, eEC_Hero_ReqHeroError⟩)
      else if info.nActiveReqItemID ≠ 0 ∧ player.itemModule.getItemCount info.nActiveReqItemID = 0 then
        (player, ⟨nID, eEC_Hero_ReqItemError⟩)
      else
        ({ player with
            itemModule := if info.nActiveReqItemID ≠ 0 then player.itemModule.delItem info.nActiveReqItemID 1
              else player.itemModule
            heroModule := player.heroModule.activePatch info.nID },
          ⟨nID, eEC_Sucess⟩)

end PlayerModules

/-! ## Requests -/

/-- The static configuration of the service. -/
structure StaticConfig where
  heroes : CHeroStaticConfig
  patches : CHeroPatchStaticConfig

/-- The requests of a client, with the id that it asks for. -/
inductive ActiveRequest
  | hero (nID : UInt32)
  | patch (nID : UInt32)
  deriving DecidableEq

namespace PlayerModules

variable (config : StaticConfig) (player : PlayerModules)

/-- A request is handled. -/
def handle : ActiveRequest → PlayerModules × ActiveResponse
  | .hero nID => player.c2s_active_hero_request_handler config.heroes nID
  | .patch nID => player.c2s_active_hero_patch_request_handler config.patches nID

/-- The attributes after the costs are deducted from the ones before. -/
def Deducted (costs : List SAttributeValue) (before after : CPlayerAttributeModule) : Prop :=
  ∀ nType, after.balance nType =
    before.balance nType - (CPlayerAttributeModule.prices costs nType).sum

/-- The items after one of a kind, if any is asked for, is taken from the ones before. -/
def Used (nItemID : UInt32) (before after : CPlayerItemModule) : Prop :=
  ∀ nOther, (before.getItemCount nOther).toNat =
    (after.getItemCount nOther).toNat + if nItemID ≠ 0 ∧ nOther = nItemID then 1 else 0

/-- What a request is to do when it is accepted: it adds what is asked for, which was not
there before, for exactly what the configuration asks for. -/
def Activated (after : PlayerModules) : ActiveRequest → Prop
  | .hero nID => ∃ info, config.heroes.getHeroConfigInfo nID = some info ∧
      nID ∉ player.heroModule.setActiveHeroID ∧
      after.heroModule.setActiveHeroID = player.heroModule.setActiveHeroID.insert nID ∧
      after.heroModule.setActivePatchID = player.heroModule.setActivePatchID ∧
      Deducted info.vecActiveCost player.attributeModule after.attributeModule ∧
      Used 0 player.itemModule after.itemModule
  | .patch nID => ∃ info, config.patches.getHeroPatchConfigInfo nID = some info ∧
      nID ∉ player.heroModule.setActivePatchID ∧
      after.heroModule.setActivePatchID = player.heroModule.setActivePatchID.insert nID ∧
      after.heroModule.setActiveHeroID = player.heroModule.setActiveHeroID ∧
      Deducted info.vecActiveCost player.attributeModule after.attributeModule ∧
      Used info.nActiveReqItemID player.itemModule after.itemModule

/-- A request is rejected and changes nothing, or it is accepted and paid exactly. -/
def AllOrNothing (request : ActiveRequest) : Prop :=
  ((player.handle config request).2.nResult ≠ eEC_Sucess ∧
    (player.handle config request).1 = player) ∨
  ((player.handle config request).2.nResult = eEC_Sucess ∧
    player.Activated config (player.handle config request).1 request)

/-- The checks of a hero. -/
structure HeroAllowed (info : SHeroConfigInfo) : Prop where
  new : player.heroModule.isHeroActive info.nID = false
  lv : info.nActiveReqLv.toUInt32 ≤ player.attributeModule.nLv
  patch : info.nActiveReqPatchID = 0 ∨ player.heroModule.isPatchActive info.nActiveReqPatchID
  resource : ∀ cost ∈ info.vecActiveCost,
    (cost.nValue.toNat : ℤ) ≤ player.attributeModule.balance cost.nType

/-- The checks of a patch, which leave out its costs. -/
structure PatchAllowed (info : SHeroPatchConfigInfo) : Prop where
  new : player.heroModule.isPatchActive info.nID = false
  lv : info.nActiveReqLv.toUInt32 ≤ player.attributeModule.nLv
  patch : info.nActiveReqPatchID = 0 ∨ player.heroModule.isPatchActive info.nActiveReqPatchID
  hero : info.nActiveReqHeroID = 0 ∨ player.heroModule.isHeroActive info.nActiveReqHeroID
  item : info.nActiveReqItemID = 0 ∨ player.itemModule.getItemCount info.nActiveReqItemID ≠ 0

/-- The deductions of a hero come out right, and a patch has no costs. -/
def Payable : ActiveRequest → Prop
  | .hero nID => ∀ info, config.heroes.getHeroConfigInfo nID = some info →
      player.HeroAllowed info → ∀ nType,
        CPlayerAttributeModule.PayExactly nType (player.attributeModule.balance nType)
          (CPlayerAttributeModule.prices info.vecActiveCost nType)
  | .patch nID => ∀ info, config.patches.getHeroPatchConfigInfo nID = some info →
      player.PatchAllowed info → ∀ nType,
        (CPlayerAttributeModule.prices info.vecActiveCost nType).sum = 0

/-! ## Rejected and accepted requests -/

variable {player}

theorem lacksResource_eq_true_iff {costs : List SAttributeValue} :
    player.lacksResource costs = true ↔
      ∃ cost ∈ costs, player.attributeModule.balance cost.nType < cost.nValue.toNat := by
  simp only [lacksResource, List.any_eq_true, decide_eq_true_eq, Int64.lt_iff_toInt_lt,
    CPlayerAttributeModule.toInt_toUInt64_toInt64, CPlayerAttributeModule.balance]

/-- A request for a hero is rejected without a change, or the checks hold and everything
is done. -/
theorem heroHandler_cases (heroes : CHeroStaticConfig) (nID : UInt32) :
    (∃ nResult, nResult ≠ eEC_Sucess ∧
      player.c2s_active_hero_request_handler heroes nID = (player, ⟨nID, nResult⟩) ∧
      ∀ info, heroes.getHeroConfigInfo nID = some info → ¬ player.HeroAllowed info) ∨
    (∃ info, heroes.getHeroConfigInfo nID = some info ∧ player.HeroAllowed info ∧
      player.c2s_active_hero_request_handler heroes nID =
        ({ player with
            attributeModule :=
              info.vecActiveCost.foldl CPlayerAttributeModule.pay player.attributeModule
            heroModule := player.heroModule.activeHero info.nID },
          ⟨nID, eEC_Sucess⟩)) := by
  unfold c2s_active_hero_request_handler
  cases hget : heroes.getHeroConfigInfo nID with
  | none =>
      refine .inl ⟨_, by decide, rfl, ?_⟩
      rintro info ⟨⟩
  | some info =>
      have hother : ∀ {P : SHeroConfigInfo → Prop}, ¬ P info →
          ∀ other, some info = some other → ¬ P other := by
        rintro P hnot other ⟨⟩
        exact hnot
      dsimp only
      by_cases hnew : player.heroModule.isHeroActive info.nID
      · rw [if_pos hnew]
        refine .inl ⟨_, by decide, rfl, hother fun hallowed => ?_⟩
        rw [hallowed.new] at hnew
        exact absurd hnew Bool.false_ne_true
      · rw [if_neg hnew]
        by_cases hlv : player.attributeModule.nLv < info.nActiveReqLv.toUInt32
        · rw [if_pos hlv]
          refine .inl ⟨_, by decide, rfl, hother fun hallowed => ?_⟩
          exact absurd hlv (UInt32.not_lt.mpr hallowed.lv)
        · rw [if_neg hlv]
          by_cases hpatch : info.nActiveReqPatchID ≠ 0 ∧
              player.heroModule.isPatchActive info.nActiveReqPatchID = false
          · rw [if_pos hpatch]
            refine .inl ⟨_, by decide, rfl, hother fun hallowed => ?_⟩
            obtain hzero | hactive := hallowed.patch
            · exact hpatch.1 hzero
            · exact Bool.false_ne_true (hpatch.2.symm.trans hactive)
          · rw [if_neg hpatch]
            by_cases hlacks : player.lacksResource info.vecActiveCost = true
            · rw [if_pos hlacks]
              refine .inl ⟨_, by decide, rfl, hother fun hallowed => ?_⟩
              obtain ⟨cost, hcost, hlt⟩ := lacksResource_eq_true_iff.mp hlacks
              exact absurd (hallowed.resource cost hcost) (not_le.mpr hlt)
            · rw [if_neg hlacks]
              refine .inr ⟨info, rfl, ?_, rfl⟩
              rw [lacksResource_eq_true_iff] at hlacks
              constructor
              · exact Bool.eq_false_iff.mpr hnew
              · exact UInt32.not_lt.mp hlv
              · grind
              · exact fun cost hcost => not_lt.mp fun hlt => hlacks ⟨cost, hcost, hlt⟩

/-- A request for a patch is rejected without a change, or the checks hold and everything
is done. -/
theorem patchHandler_cases (patches : CHeroPatchStaticConfig) (nID : UInt32) :
    (∃ nResult, nResult ≠ eEC_Sucess ∧
      player.c2s_active_hero_patch_request_handler patches nID = (player, ⟨nID, nResult⟩) ∧
      ∀ info, patches.getHeroPatchConfigInfo nID = some info → ¬ player.PatchAllowed info) ∨
    (∃ info, patches.getHeroPatchConfigInfo nID = some info ∧ player.PatchAllowed info ∧
      player.c2s_active_hero_patch_request_handler patches nID =
        ({ player with
            itemModule :=
              if info.nActiveReqItemID ≠ 0 then player.itemModule.delItem info.nActiveReqItemID 1
              else player.itemModule
            heroModule := player.heroModule.activePatch info.nID },
          ⟨nID, eEC_Sucess⟩)) := by
  unfold c2s_active_hero_patch_request_handler
  cases hget : patches.getHeroPatchConfigInfo nID with
  | none =>
      refine .inl ⟨_, by decide, rfl, ?_⟩
      rintro info ⟨⟩
  | some info =>
      have hother : ∀ {P : SHeroPatchConfigInfo → Prop}, ¬ P info →
          ∀ other, some info = some other → ¬ P other := by
        rintro P hnot other ⟨⟩
        exact hnot
      dsimp only
      by_cases hnew : player.heroModule.isPatchActive info.nID
      · rw [if_pos hnew]
        refine .inl ⟨_, by decide, rfl, hother fun hallowed => ?_⟩
        rw [hallowed.new] at hnew
        exact absurd hnew Bool.false_ne_true
      · rw [if_neg hnew]
        by_cases hlv : player.attributeModule.nLv < info.nActiveReqLv.toUInt32
        · rw [if_pos hlv]
          refine .inl ⟨_, by decide, rfl, hother fun hallowed => ?_⟩
          exact absurd hlv (UInt32.not_lt.mpr hallowed.lv)
        · rw [if_neg hlv]
          by_cases hpatch : info.nActiveReqPatchID ≠ 0 ∧
              player.heroModule.isPatchActive info.nActiveReqPatchID = false
          · rw [if_pos hpatch]
            refine .inl ⟨_, by decide, rfl, hother fun hallowed => ?_⟩
            obtain hzero | hactive := hallowed.patch
            · exact hpatch.1 hzero
            · exact Bool.false_ne_true (hpatch.2.symm.trans hactive)
          · rw [if_neg hpatch]
            by_cases hhero : info.nActiveReqHeroID ≠ 0 ∧
                player.heroModule.isHeroActive info.nActiveReqHeroID = false
            · rw [if_pos hhero]
              refine .inl ⟨_, by decide, rfl, hother fun hallowed => ?_⟩
              obtain hzero | hactive := hallowed.hero
              · exact hhero.1 hzero
              · exact Bool.false_ne_true (hhero.2.symm.trans hactive)
            · rw [if_neg hhero]
              by_cases hitem : info.nActiveReqItemID ≠ 0 ∧
                  player.itemModule.getItemCount info.nActiveReqItemID = 0
              · rw [if_pos hitem]
                refine .inl ⟨_, by decide, rfl, hother fun hallowed => ?_⟩
                obtain hzero | hcount := hallowed.item
                · exact hitem.1 hzero
                · exact hcount hitem.2
              · rw [if_neg hitem]
                refine .inr ⟨info, rfl, ?_, rfl⟩
                constructor
                · exact Bool.eq_false_iff.mpr hnew
                · exact UInt32.not_lt.mp hlv
                · grind
                · grind
                · grind

/-- An item that is there is taken once. -/
theorem used_delItem {item : CPlayerItemModule} {nItemID : UInt32}
    (hcount : item.getItemCount nItemID ≠ 0) (hzero : nItemID ≠ 0) :
    Used nItemID item (item.delItem nItemID 1) := by
  intro nOther
  unfold CPlayerItemModule.getItemCount at hcount
  unfold CPlayerItemModule.delItem
  cases hget : item.mapItem[nItemID]? with
  | none =>
      rw [hget] at hcount
      exact absurd rfl hcount
  | some nTotalCount =>
      rw [hget, Option.getD_some] at hcount
      dsimp only
      split
      · rename_i hle
        have hone : nTotalCount = 1 := by grind
        by_cases hother : nOther = nItemID
        · simp [CPlayerItemModule.getItemCount, hother, hget, hzero, hone]
        · simp [CPlayerItemModule.getItemCount, hother, Ne.symm hother]
      · rename_i hlt
        by_cases hother : nOther = nItemID
        · have hone : (1 : UInt32) ≤ nTotalCount := UInt32.le_of_lt (UInt32.not_le.mp hlt)
          have hpos : 1 ≤ nTotalCount.toNat := UInt32.le_iff_toNat_le.mp hone
          have hsub : (nTotalCount - 1).toNat = nTotalCount.toNat - 1 :=
            UInt32.toNat_sub_of_le _ _ hone
          simp [CPlayerItemModule.getItemCount, hother, hget, hzero, hsub, hpos]
        · simp [CPlayerItemModule.getItemCount, hother, Ne.symm hother]

theorem used_zero (item : CPlayerItemModule) : Used 0 item item := by
  intro nOther
  simp

/-- When all the checks hold for a hero, its costs come out right if they can be paid. -/
theorem deducted_iff {info : SHeroConfigInfo} (hallowed : player.HeroAllowed info) :
    Deducted info.vecActiveCost player.attributeModule
        (info.vecActiveCost.foldl CPlayerAttributeModule.pay player.attributeModule) ↔
      ∀ nType, CPlayerAttributeModule.PayExactly nType (player.attributeModule.balance nType)
        (CPlayerAttributeModule.prices info.vecActiveCost nType) := by
  have hnonneg : ∀ cost ∈ info.vecActiveCost,
      0 ≤ player.attributeModule.balance cost.nType :=
    fun cost hcost => (Int.natCast_nonneg _).trans (hallowed.resource cost hcost)
  exact forall_congr' fun nType =>
    (CPlayerAttributeModule.payments_foldl info.vecActiveCost hnonneg nType).eq_iff

theorem hero_allOrNothing_iff (config : StaticConfig) (nID : UInt32) :
    player.AllOrNothing config (.hero nID) ↔ player.Payable config (.hero nID) := by
  obtain ⟨nResult, hresult, hhandler, hnot⟩ | ⟨info, hget, hallowed, hhandler⟩ :=
    player.heroHandler_cases config.heroes nID
  · have hhandle : player.handle config (.hero nID) = _ := hhandler
    unfold AllOrNothing
    rw [hhandle]
    refine iff_of_true (.inl ⟨hresult, rfl⟩) fun info hget hallowed => ?_
    exact absurd hallowed (hnot info hget)
  · obtain rfl : info.nID = nID := config.heroes.nID_eq nID info hget
    have hhandle : player.handle config (.hero info.nID) = _ := hhandler
    have hnew : info.nID ∉ player.heroModule.setActiveHeroID := by
      have hactive := hallowed.new
      grind [CPlayerHeroModule.isHeroActive]
    have hactive : player.heroModule.activeHero info.nID = _ :=
      if_neg (by simp [hallowed.new])
    have hpayable : player.Payable config (.hero info.nID) ↔ _ :=
      ⟨fun h => h info hget hallowed, fun h other hother _ =>
        Option.some.inj (hget.symm.trans hother) ▸ h⟩
    rw [hpayable, ← deducted_iff hallowed]
    unfold AllOrNothing
    rw [hhandle, hactive]
    constructor
    · rintro (⟨hresult, -⟩ | ⟨-, other, hother, -, -, -, hdeducted, -⟩)
      · exact absurd rfl hresult
      · exact Option.some.inj (hget.symm.trans hother) ▸ hdeducted
    · intro hdeducted
      exact .inr ⟨rfl, info, hget, hnew, rfl, rfl, hdeducted, used_zero _⟩

theorem patch_allOrNothing_iff (config : StaticConfig) (nID : UInt32) :
    player.AllOrNothing config (.patch nID) ↔ player.Payable config (.patch nID) := by
  obtain ⟨nResult, hresult, hhandler, hnot⟩ | ⟨info, hget, hallowed, hhandler⟩ :=
    player.patchHandler_cases config.patches nID
  · have hhandle : player.handle config (.patch nID) = _ := hhandler
    unfold AllOrNothing
    rw [hhandle]
    refine iff_of_true (.inl ⟨hresult, rfl⟩) fun info hget hallowed => ?_
    exact absurd hallowed (hnot info hget)
  · obtain rfl : info.nID = nID := config.patches.nID_eq nID info hget
    have hhandle : player.handle config (.patch info.nID) = _ := hhandler
    have hnew : info.nID ∉ player.heroModule.setActivePatchID := by
      have hactive := hallowed.new
      grind [CPlayerHeroModule.isPatchActive]
    have hactive : player.heroModule.activePatch info.nID = _ :=
      if_neg (by simp [hallowed.new])
    have hused : Used info.nActiveReqItemID player.itemModule
        (if info.nActiveReqItemID ≠ 0 then player.itemModule.delItem info.nActiveReqItemID 1
          else player.itemModule) := by
      split
      · rename_i hzero
        exact used_delItem (hallowed.item.resolve_left hzero) hzero
      · rename_i hzero
        rw [not_not.mp hzero]
        exact used_zero _
    -- the attributes are left alone, so every total has to be zero
    have hdeducted : Deducted info.vecActiveCost player.attributeModule player.attributeModule ↔
        ∀ nType, (CPlayerAttributeModule.prices info.vecActiveCost nType).sum = 0 :=
      forall_congr' fun nType => by omega
    have hpayable : player.Payable config (.patch info.nID) ↔ _ :=
      ⟨fun h => h info hget hallowed, fun h other hother _ =>
        Option.some.inj (hget.symm.trans hother) ▸ h⟩
    rw [hpayable, ← hdeducted]
    unfold AllOrNothing
    rw [hhandle, hactive]
    constructor
    · rintro (⟨hresult, -⟩ | ⟨-, other, hother, -, -, -, hpaid, -⟩)
      · exact absurd rfl hresult
      · exact Option.some.inj (hget.symm.trans hother) ▸ hpaid
    · intro hpaid
      exact .inr ⟨rfl, info, hget, hnew, rfl, rfl, hpaid, hused⟩

/-- A request to activate a hero or a patch is all or nothing and exactly paid if and only
if it is rejected, or is for a hero whose costs the deductions take exactly, or for a patch
that the configuration gives no costs. -/
theorem allOrNothing_iff_payable (config : StaticConfig) (player : PlayerModules)
    (request : ActiveRequest) :
    player.AllOrNothing config request ↔ player.Payable config request := by
  cases request with
  | hero nID => exact hero_allOrNothing_iff config nID
  | patch nID => exact patch_allOrNothing_iff config nID

/-- A configuration with one hero and one patch that cost the same. -/
def oneOfEach (vecActiveCost : List SAttributeValue) : StaticConfig where
  heroes := .init [{ nID := 1, vecActiveCost }]
  patches := .init [{ nID := 1, vecActiveCost }]

/-- A player who has nothing but gold. -/
def withGold (nGold : UInt64) : PlayerModules where
  attributeModule := { nLv := 1, nGold }
  itemModule := { nPlayerID := 1 }
  heroModule := {}

theorem heroAllowed_withGold {nGold : UInt64} {costs : List SAttributeValue}
    (hresource : ∀ cost ∈ costs,
      (cost.nValue.toNat : ℤ) ≤ (withGold nGold).attributeModule.balance cost.nType) :
    (withGold nGold).HeroAllowed { nID := 1, vecActiveCost := costs } where
  new := by simp [withGold, CPlayerHeroModule.isHeroActive]
  lv := by
    show (0 : UInt16).toUInt32 ≤ 1
    decide
  patch := .inl rfl
  resource := hresource

theorem getHeroConfigInfo_oneOfEach (costs : List SAttributeValue) :
    (oneOfEach costs).heroes.getHeroConfigInfo 1 = some { nID := 1, vecActiveCost := costs } := by
  simp [oneOfEach, CHeroStaticConfig.getHeroConfigInfo, CHeroStaticConfig.init]

theorem getHeroPatchConfigInfo_oneOfEach (costs : List SAttributeValue) :
    (oneOfEach costs).patches.getHeroPatchConfigInfo 1 =
      some { nID := 1, vecActiveCost := costs } := by
  simp [oneOfEach, CHeroPatchStaticConfig.getHeroPatchConfigInfo, CHeroPatchStaticConfig.init]

/-- A hundred of gold buy a hero that costs a hundred and stay; sixty pass the check of a
hero that costs forty twice, and the second forty are not taken; a patch is not paid. -/
theorem not_allOrNothing_of_gold :
    ¬ (withGold 100).AllOrNothing (oneOfEach [⟨eAT_Gold, 100⟩]) (.hero 1) ∧
    ¬ (withGold 60).AllOrNothing (oneOfEach [⟨eAT_Gold, 40⟩, ⟨eAT_Gold, 40⟩]) (.hero 1) ∧
    ¬ (withGold 60).AllOrNothing (oneOfEach [⟨eAT_Gold, 40⟩]) (.patch 1) := by
  refine ⟨?_, ?_, ?_⟩
  · rw [hero_allOrNothing_iff]
    intro hpayable
    have hexact := hpayable _ (getHeroConfigInfo_oneOfEach _)
      (heroAllowed_withGold (by decide)) eAT_Gold
    revert hexact
    unfold CPlayerAttributeModule.PayExactly
    decide
  · rw [hero_allOrNothing_iff]
    intro hpayable
    have hexact := hpayable _ (getHeroConfigInfo_oneOfEach _)
      (heroAllowed_withGold (by decide)) eAT_Gold
    revert hexact
    unfold CPlayerAttributeModule.PayExactly
    decide
  · rw [patch_allOrNothing_iff]
    intro hpayable
    have hsum := hpayable _ (getHeroPatchConfigInfo_oneOfEach _)
      { new := by simp [withGold, CPlayerHeroModule.isPatchActive]
        lv := by decide
        patch := .inl rfl
        hero := .inl rfl
        item := .inl rfl } eAT_Gold
    revert hsum
    decide

end PlayerModules

end RealtimeEx.Game
