import Mathlib.Algebra.Order.Ring.Int
import RealtimeEx.Db.DbCacheWriteback

/-!
# Which write-backs are pending

Every record of a cache has a ticker of its own, and the tickers of a cache fire once
and with the context zero.  So the write-back of a record is pending when its ticker is
registered and its id is zero.
-/

namespace RealtimeEx.Db

open RealtimeEx.Base

variable {σ : Type*}

namespace DbCache

/-! ## The tickers of the records -/

/-- The tickers of a cache: each record has its own, the next one is not registered, and
those that are fire once and with the context zero. -/
structure TickersSound (c : DbCache) (tickers : TickerMgr CacheTicker) : Prop where
  sound : tickers.Sound
  callback : tickers.callback = false
  registered : TickerMgr.Registered (fun ticker intervalTime context =>
    ticker.szDataName = c.szDataName → intervalTime = 0 ∧ context = 0) tickers
  lt : ∀ nID info, c.mapCacheInfo.lookup nID = some info → info.ticker < c.nextTicker
  unique : ∀ nID nID' info info', c.mapCacheInfo.lookup nID = some info →
    c.mapCacheInfo.lookup nID' = some info' → info.ticker = info'.ticker → nID = nID'
  fresh : ∀ ticker : CacheTicker, ticker.szDataName = c.szDataName →
    c.nextTicker ≤ ticker.number → tickers.coreContext ticker = none

/-- The manager after a record was updated: its ticker is registered. -/
def armed (env : CacheEnv σ) (tickers : TickerMgr CacheTicker) (ticker : CacheTicker) :
    TickerMgr CacheTicker :=
  if (tickers.coreContext ticker).isSome then tickers
  else tickers.registerTicker ticker env.nCacheWritebackTime.toNat 0 0

section

variable {env : CacheEnv σ} {c : DbCache} {tickers : TickerMgr CacheTicker} {nID : UInt64}
  {m : Message} {info : CacheInfo} {szData : Bytes}

/-- An update of a cached record registers its ticker. -/
theorem setData_eq_armed (hinfo : c.mapCacheInfo.lookup nID = some info)
    (hdata : c.mergedData env info m = some szData) :
    c.setData env tickers nID m =
      (true, c.replaced nID info szData, armed env tickers (c.tickerOf info)) := by
  unfold setData
  rw [hinfo]
  dsimp only
  rw [hdata]
  rfl

/-- The ticker is registered afterwards, and no other has changed. -/
theorem isSome_armed_iff (ticker other : CacheTicker) :
    ((armed env tickers ticker).coreContext other).isSome ↔
      other = ticker ∨ (tickers.coreContext other).isSome := by
  unfold armed
  by_cases hset : (tickers.coreContext ticker).isSome
  · rw [if_pos hset]
    refine ⟨Or.inr, ?_⟩
    rintro (rfl | h)
    · exact hset
    · exact h
  · rw [if_neg hset, TickerMgr.coreContext_registerTicker]
    by_cases heq : other = ticker
    · rw [heq, Function.update_self]
      exact iff_of_true rfl (Or.inl rfl)
    · rw [Function.update_of_ne heq]
      exact (or_iff_right heq).symm

theorem isSome_armed (ticker : CacheTicker) :
    ((armed env tickers ticker).coreContext ticker).isSome :=
  (isSome_armed_iff ticker ticker).mpr (Or.inl rfl)

/-- The ticker of another record. -/
theorem TickersSound.tickerOf_ne (h : c.TickersSound tickers) {nID' : UInt64} {info' : CacheInfo}
    (hinfo : c.mapCacheInfo.lookup nID = some info)
    (hinfo' : c.mapCacheInfo.lookup nID' = some info') (hne : nID' ≠ nID) :
    c.tickerOf info' ≠ c.tickerOf info := by
  intro heq
  exact hne (h.unique nID' nID info' info hinfo' hinfo (congrArg CacheTicker.number heq))

/-- A new record has a ticker that is not registered. -/
theorem TickersSound.added (h : c.TickersSound tickers) :
    (c.added nID szData).TickersSound tickers where
  sound := h.sound
  callback := h.callback
  registered := h.registered
  lt nID' info' hinfo' := by
    by_cases heq : nID' = nID
    · rw [heq] at hinfo'
      obtain rfl := Option.some.inj ((AList.lookup_insert c.mapCacheInfo).symm.trans hinfo')
      exact Nat.lt_succ_self _
    · have hold : c.mapCacheInfo.lookup nID' = some info' :=
        (AList.lookup_insert_ne heq).symm.trans hinfo'
      exact Nat.lt_succ_of_lt (h.lt nID' info' hold)
  unique nID₁ nID₂ info₁ info₂ h₁ h₂ heq := by
    by_cases h₁' : nID₁ = nID
    · by_cases h₂' : nID₂ = nID
      · rw [h₁', h₂']
      · rw [h₁'] at h₁
        obtain rfl := Option.some.inj ((AList.lookup_insert c.mapCacheInfo).symm.trans h₁)
        have hlt := h.lt nID₂ info₂ ((AList.lookup_insert_ne h₂').symm.trans h₂)
        exact absurd heq (Nat.ne_of_gt hlt)
    · have hold₁ := (AList.lookup_insert_ne h₁').symm.trans h₁
      by_cases h₂' : nID₂ = nID
      · rw [h₂'] at h₂
        obtain rfl := Option.some.inj ((AList.lookup_insert c.mapCacheInfo).symm.trans h₂)
        exact absurd heq (Nat.ne_of_lt (h.lt nID₁ info₁ hold₁))
      · exact h.unique nID₁ nID₂ info₁ info₂ hold₁
          ((AList.lookup_insert_ne h₂').symm.trans h₂) heq
  fresh ticker hname hnumber := h.fresh ticker hname (Nat.le_of_succ_le hnumber)

/-- An updated record keeps its ticker, which is registered. -/
theorem TickersSound.replaced (h : c.TickersSound tickers)
    (hinfo : c.mapCacheInfo.lookup nID = some info) :
    (c.replaced nID info szData).TickersSound (armed env tickers (c.tickerOf info)) := by
  -- Every record of the new map has the ticker of the record of the old one.
  have hold : ∀ nID' info', (c.replaced nID info szData).mapCacheInfo.lookup nID' = some info' →
      ∃ old, c.mapCacheInfo.lookup nID' = some old ∧ old.ticker = info'.ticker := by
    intro nID' info' hinfo'
    by_cases heq : nID' = nID
    · rw [heq] at hinfo' ⊢
      obtain rfl := Option.some.inj ((AList.lookup_insert c.mapCacheInfo).symm.trans hinfo')
      exact ⟨info, hinfo, rfl⟩
    · exact ⟨info', (AList.lookup_insert_ne heq).symm.trans hinfo', rfl⟩
  refine ⟨?_, ?_, ?_, ?_, ?_, ?_⟩
  · unfold armed
    split
    · exact h.sound
    · rename_i hfree
      exact h.sound.registerTicker (Option.not_isSome_iff_eq_none.mp hfree)
  · unfold armed
    split
    · exact h.callback
    · exact (TickerMgr.callback_registerTicker _ _ _ _ _).trans h.callback
  · unfold armed
    split
    · exact h.registered
    · exact h.registered.registerTicker fun _ => ⟨rfl, rfl⟩
  · intro nID' info' hinfo'
    obtain ⟨old, hlookup, hticker⟩ := hold nID' info' hinfo'
    rw [← hticker]
    exact h.lt nID' old hlookup
  · intro nID₁ nID₂ info₁ info₂ h₁ h₂ heq
    obtain ⟨old₁, hlookup₁, hticker₁⟩ := hold nID₁ info₁ h₁
    obtain ⟨old₂, hlookup₂, hticker₂⟩ := hold nID₂ info₂ h₂
    exact h.unique nID₁ nID₂ old₁ old₂ hlookup₁ hlookup₂
      (hticker₁.trans (heq.trans hticker₂.symm))
  · intro ticker hname hnumber
    rw [← Option.not_isSome_iff_eq_none, isSome_armed_iff]
    rintro (rfl | hset)
    · exact absurd (h.lt nID info hinfo) (Nat.not_lt_of_le hnumber)
    · rw [h.fresh ticker hname hnumber] at hset
      cases hset

/-- An erased record takes its ticker with it. -/
theorem TickersSound.erase (h : c.TickersSound tickers) (nID : UInt64) (info : CacheInfo) :
    (c.erase tickers nID info).1.TickersSound (c.erase tickers nID info).2 := by
  have hold : ∀ nID' info', (c.mapCacheInfo.erase nID).lookup nID' = some info' →
      c.mapCacheInfo.lookup nID' = some info' := by
    intro nID' info' hinfo'
    by_cases heq : nID' = nID
    · rw [heq, AList.lookup_erase] at hinfo'
      cases hinfo'
    · rwa [AList.lookup_erase_ne heq] at hinfo'
  exact
    { sound := h.sound.unregisterTicker _
      callback := (TickerMgr.callback_unregisterTicker _ _).trans h.callback
      registered := h.registered.unregisterTicker _
      lt := fun nID' info' hinfo' => h.lt nID' info' (hold nID' info' hinfo')
      unique := fun nID₁ nID₂ info₁ info₂ h₁ h₂ heq =>
        h.unique nID₁ nID₂ info₁ info₂ (hold nID₁ info₁ h₁) (hold nID₂ info₂ h₂) heq
      fresh := by
        intro ticker hname hnumber
        have hfree := h.fresh ticker hname hnumber
        have hafter := TickerMgr.coreContext_unregisterTicker tickers (c.tickerOf info)
        refine (congrFun hafter ticker).trans ?_
        by_cases heq : ticker = c.tickerOf info
        · rw [heq, Function.update_self]
        · rw [Function.update_of_ne heq]
          exact hfree }

/-- A step of the manager that registers no ticker of the cache. -/
theorem TickersSound.step {tickers' : TickerMgr CacheTicker} {l : TickerMgr.Label CacheTicker}
    (h : c.TickersSound tickers) (htick : TickerMgr.Step tickers l tickers')
    (hregister : ∀ id ticker time startTime intervalTime context,
      l = .register id ticker time startTime intervalTime context →
        ticker.szDataName ≠ c.szDataName)
    (hfree : ∀ ticker : CacheTicker, ticker.szDataName = c.szDataName →
      tickers.coreContext ticker = none → tickers'.coreContext ticker = none) :
    c.TickersSound tickers' where
  sound := h.sound.step htick
  callback := (TickerMgr.callback_step htick).trans h.callback
  registered := h.registered.step htick fun id ticker time startTime intervalTime context hl hname =>
    absurd hname (hregister id ticker time startTime intervalTime context hl)
  lt := h.lt
  unique := h.unique
  fresh ticker hname hnumber := hfree ticker hname (h.fresh ticker hname hnumber)

theorem TickersSound.spared {tickers' : TickerMgr CacheTicker} {l : TickerMgr.Label CacheTicker}
    (h : c.TickersSound tickers) (htick : TickerMgr.Step tickers l tickers')
    (hspares : ∀ ticker : CacheTicker, ticker.szDataName = c.szDataName → l.Spares ticker) :
    c.TickersSound tickers' := by
  refine h.step htick ?_ ?_
  · intro id ticker time startTime intervalTime context hl hname
    have hspare := hspares ticker hname
    rw [hl] at hspare
    exact hspare rfl
  · intro ticker hname hfree
    rw [TickerMgr.coreContext_step htick (hspares ticker hname), hfree]

/-- A ticker of the cache that fires is not registered any more, and no other has
changed. -/
theorem TickersSound.coreContext_fire {tickers' : TickerMgr CacheTicker} {id time : ℕ}
    {ticker : CacheTicker} {context : UInt64} (h : c.TickersSound tickers)
    (htick : TickerMgr.Step tickers (.dispatch id ticker context time) tickers')
    (hown : ticker.szDataName = c.szDataName) :
    tickers'.coreContext = Function.update tickers.coreContext ticker none := by
  funext other
  by_cases heq : other = ticker
  · rw [heq, Function.update_self]
    refine TickerMgr.coreContext_dispatch_of_once htick ?_
    intro n hnode
    obtain ⟨n', hnode', hticker, -⟩ := TickerMgr.exists_node_of_dispatch htick
    obtain rfl := Option.some.inj (hnode.symm.trans hnode')
    exact (h.registered id n ticker hnode hticker hown).1
  · rw [Function.update_of_ne heq]
    exact TickerMgr.coreContext_step htick (Ne.symm heq)

/-- The context of a ticker of the cache that fires is zero. -/
theorem TickersSound.context_fire {tickers' : TickerMgr CacheTicker} {id time : ℕ}
    {ticker : CacheTicker} {context : UInt64} (h : c.TickersSound tickers)
    (htick : TickerMgr.Step tickers (.dispatch id ticker context time) tickers')
    (hown : ticker.szDataName = c.szDataName) : context = 0 := by
  obtain ⟨n, hnode, hticker, hcontext⟩ := TickerMgr.exists_node_of_dispatch htick
  rw [hcontext, TickerMgr.dispatchContext_of_not_callback h.callback]
  exact (h.registered id n ticker hnode hticker hown).2

theorem TickersSound.fire {tickers' : TickerMgr CacheTicker} {id time : ℕ}
    {ticker : CacheTicker} {context : UInt64} (h : c.TickersSound tickers)
    (htick : TickerMgr.Step tickers (.dispatch id ticker context time) tickers')
    (hown : ticker.szDataName = c.szDataName) : c.TickersSound tickers' := by
  refine h.step htick ?_ ?_
  · intro id' ticker' time' startTime intervalTime context' hl
    cases hl
  · intro other _ hfree
    rw [h.coreContext_fire htick hown]
    by_cases heq : other = ticker
    · rw [heq, Function.update_self]
    · rw [Function.update_of_ne heq, hfree]

end

end DbCache

namespace Writeback

/-! ## What is pending -/

section

variable {env : CacheEnv σ} {s t : Writeback σ} {nID : UInt64} {info : CacheInfo}

/-- A registered ticker of the cache is given the context zero. -/
theorem pending_iff (h : s.cache.TickersSound s.tickers) :
    s.Pending nID info ↔
      (s.tickers.coreContext (s.cache.tickerOf info)).isSome ∧ nID = 0 := by
  constructor
  · rintro ⟨id, n, hcontext, hnode, hgiven⟩
    obtain ⟨n', hnode', hticker⟩ := (h.sound.context_iff _ _).mp hcontext
    obtain rfl := Option.some.inj (hnode.symm.trans hnode')
    rw [TickerMgr.dispatchContext_of_not_callback h.callback,
      (h.registered id n _ hnode hticker rfl).2] at hgiven
    exact ⟨by rw [hcontext]; rfl, hgiven.symm⟩
  · rintro ⟨hset, rfl⟩
    obtain ⟨id, hcontext⟩ := Option.isSome_iff_exists.mp hset
    obtain ⟨n, hnode, hticker⟩ := (h.sound.context_iff _ _).mp hcontext
    refine ⟨id, n, hcontext, hnode, ?_⟩
    rw [TickerMgr.dispatchContext_of_not_callback h.callback]
    exact (h.registered id n _ hnode hticker rfl).2

theorem tickersSound_addData (env : CacheEnv σ) {c : DbCache} {tickers : TickerMgr CacheTicker}
    (h : c.TickersSound tickers) (nID : UInt64) (pData : Message) :
    (c.addData env nID pData).2.TickersSound tickers := by
  by_cases hmem : nID ∈ c.mapCacheInfo
  · rw [DbCache.addData_of_mem hmem]
    exact h
  · cases hdata : env.serialize pData with
    | none =>
        rw [DbCache.addData_of_none hdata]
        exact h
    | some szData =>
        rw [DbCache.addData_of_some hmem hdata]
        exact h.added

/-- Every call keeps the tickers of the records in order. -/
theorem Does.tickersSound {l : WritebackCall} (hdoes : Does env s l t)
    (h : s.cache.TickersSound s.tickers) : t.cache.TickersSound t.tickers := by
  cases hdoes with
  | @addData nID pData bStored => exact tickersSound_addData env h nID pData
  | @setData nID pData bStored =>
      dsimp only
      by_cases hmem : nID ∈ s.cache.mapCacheInfo
      · obtain ⟨info, hinfo⟩ := Option.isSome_iff_exists.mp (AList.lookup_isSome.mpr hmem)
        cases hdata : s.cache.mergedData env info pData with
        | none =>
            rw [DbCache.setData_of_none hinfo hdata]
            exact h
        | some szData =>
            rw [DbCache.setData_eq_armed hinfo hdata]
            exact h.replaced hinfo
      · rw [DbCache.setData_of_not_mem hmem]
        exact tickersSound_addData env h nID pData
  | @delData nID =>
      dsimp only
      cases hinfo : s.cache.mapCacheInfo.lookup nID with
      | none =>
          rw [DbCache.delData_of_not_mem (DbCache.lookup_eq_none_iff.mp hinfo)]
          exact h
      | some info =>
          rw [DbCache.delData_of_lookup hinfo]
          exact h.erase nID info
  | @cleanData choice =>
      unfold DbCache.cleanData
      dsimp only
      cases choice.bind fun nID =>
          (s.cache.mapCacheInfo.lookup nID).map fun info => (nID, info) with
      | none => exact h
      | some chosen => exact h.erase chosen.1 chosen.2
  | flush => exact h
  | fire htick hown => exact h.fire htick hown
  | tick htick hspares => exact h.spared htick hspares
  | stores => exact h
  | connection => exact h

end

end Writeback

end RealtimeEx.Db
