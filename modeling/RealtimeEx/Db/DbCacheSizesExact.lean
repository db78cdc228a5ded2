import Mathlib.Algebra.Order.Ring.Int
import RealtimeEx.Db.DbCacheSizes

/-!
# When the sizes of the caches are wrong

A call that does not keep the counts leaves them wrong: nothing later in the call
makes up for it.  The manager is in use, so its limit is not negative, and the
library serializes no message of two gigabytes or more.
-/

namespace RealtimeEx.Db

open RealtimeEx.Base

variable {σ : Type*} {env : CacheEnv σ}

section

variable {s t : DbCacheMgr} {szDataName : String} {c c' : DbCache}

/-- The total after one cache has changed. -/
theorem Accounted.total_of_insert (h : Accounted s)
    (hlookup : s.mapCache.lookup szDataName = some c)
    (hmap : t.mapCache = s.mapCache.insert szDataName c') (hafter : Accounted t) :
    t.nDataSize.toInt = s.nDataSize.toInt - c.nDataSize.toInt + c'.nDataSize.toInt ∧
      c'.Counted := by
  have hinsert := mapTotal_insert_add (fun c : DbCache => c.nDataSize.toInt) hlookup c'
  have hbefore := h.total
  have htotal := hafter.total
  have hkept : t.mapCache.lookup szDataName = some c' := by
    rw [hmap, AList.lookup_insert]
  unfold DbCacheMgr.cachesSize at hbefore htotal
  rw [hmap] at htotal
  exact ⟨by omega, hafter.cache szDataName c' hkept⟩

/-- If the counts are right after an operation that a cache carried out, they had
room for it.  A cleaning does not hide that they had not: it takes less than two
gigabytes away, and a count that was cut is four gigabytes too small. -/
theorem Accounted.room_of_cleanIfFull {u : DbConnection σ × DbCacheMgr} {nSize : ℕ}
    (hmax : 0 ≤ env.nMaxCacheSize.toInt) (h : Accounted s)
    (hlookup : s.mapCache.lookup szDataName = some c)
    (hmap : u.2.mapCache = s.mapCache.insert szDataName c')
    (hsize : u.2.nDataSize = s.nDataSize) (hrecords : c'.recordsSize = nSize)
    (hcount : c'.nDataSize.toInt = (nSize : ℤ).bmod (2 ^ 32)) (hlarge : nSize < 2 ^ 32)
    (hsmall : ∀ nID info, c'.mapCacheInfo.lookup nID = some info →
      info.szData.length < 2 ^ 31)
    (hafter : Accounted (DbCacheMgr.cleanIfFull env u szDataName c' c.nDataSize).2) :
    nSize < 2 ^ 31 ∧ s.nDataSize.toInt - c.nDataSize.toInt + nSize < 2 ^ 63 := by
  have hle := h.cache_le hlookup
  have hlow := h.cache_nonneg szDataName c hlookup
  have hhigh := s.nDataSize.toInt_lt
  -- the count of the cache is right, or was cut
  have hcut : (nSize < 2 ^ 31 ∧ c'.nDataSize.toInt = nSize) ∨
      c'.nDataSize.toInt = nSize - 2 ^ 32 := by
    rw [hcount, Int.bmod_def]
    omega
  have htotal : (u.2.nDataSize - c.nDataSize.toInt64 + c'.nDataSize.toInt64).toInt =
      (s.nDataSize.toInt - c.nDataSize.toInt + c'.nDataSize.toInt).bmod (2 ^ 64) := by
    rw [hsize, Int64.toInt_add, Int64.toInt_sub, Int.bmod_add_bmod, Int32.toInt_toInt64,
      Int32.toInt_toInt64]
  unfold DbCacheMgr.cleanIfFull at hafter
  dsimp only at hafter
  split at hafter
  · rename_i hfull
    have hpositive := Int64.lt_iff_toInt_lt.mp hfull
    have hmap' : u.2.mapCache.insert szDataName
        (c'.cleanData env u.2.tickerMgr u.1 (u.2.choices 0)).2.1 =
          s.mapCache.insert szDataName
            (c'.cleanData env u.2.tickerMgr u.1 (u.2.choices 0)).2.1 := by
      rw [hmap, AList.insert_insert]
    obtain ⟨hsum, hcounted⟩ := h.total_of_insert hlookup hmap' hafter
    dsimp only at hsum
    unfold DbCache.Counted at hcounted
    rw [Int64.toInt_sub, Int32.toInt_toInt64] at hsum
    have hin := (u.2.nDataSize - c.nDataSize.toInt64 + c'.nDataSize.toInt64).toInt_lt
    rcases c'.cleanData_cases env u.2.tickerMgr u.1 (u.2.choices 0) with
      ⟨hzero, hsame⟩ | ⟨nID, info, hinfo, hclean, herased⟩
    · rw [hzero, hsame, Int32.toInt_zero,
        Int.bmod_eq_of_le_mul_two (by omega) (by omega)] at hsum
      rw [hsame] at hcounted
      omega
    · have hrecord : info.nSize.toInt = info.szData.length :=
        Int32.toInt_ofNat_of_lt (hsmall nID info hinfo)
      have hshort := hsmall nID info hinfo
      have herase := DbCache.recordsSize_erase_add hinfo u.2.tickerMgr
      rw [herased] at hcounted
      rw [hclean, hrecord, herased, hcounted] at hsum
      rcases hcut with ⟨hfits, hcount'⟩ | hcount'
      · -- only the total can have been cut, and would be negative
        refine ⟨hfits, ?_⟩
        rw [hcount', Int.bmod_def] at htotal
        omega
      · rw [hcount', Int.bmod_eq_of_le_mul_two (by omega) (by omega)] at htotal
        rw [htotal, Int.bmod_eq_of_le_mul_two (by omega) (by omega)] at hsum
        omega
  · have hmap' : ({ u.2 with
        nDataSize := u.2.nDataSize - c.nDataSize.toInt64 +
          c'.nDataSize.toInt64 } : DbCacheMgr).mapCache = s.mapCache.insert szDataName c' :=
      hmap
    obtain ⟨hsum, hcounted⟩ := h.total_of_insert hlookup hmap' hafter
    have hin := (u.2.nDataSize - c.nDataSize.toInt64 + c'.nDataSize.toInt64).toInt_lt
    dsimp only at hsum
    unfold DbCache.Counted at hcounted
    omega

end

/-! ## Every call -/

section

variable {u : DbConnection σ × DbCacheMgr} {nID : UInt64} {m : Message}

/-- What is counted is less than two gigabytes long. -/
theorem DbCache.Counted.length_lt {c : DbCache} {info : CacheInfo} (h : c.Counted)
    (hinfo : c.mapCacheInfo.lookup nID = some info) : info.szData.length < 2 ^ 31 := by
  have hsum := DbCache.recordsSize_erase_add hinfo (.initial false 0)
  have hlt := c.nDataSize.toInt_lt
  unfold DbCache.Counted at h
  omega

/-- A record that is put into a cache keeps what is known of all its records. -/
theorem forall_lookup_insert {P : CacheInfo → Prop} {c : DbCache} {info : CacheInfo}
    (h : ∀ id other, c.mapCacheInfo.lookup id = some other → P other) (hinfo : P info) :
    ∀ id other, (c.mapCacheInfo.insert nID info).lookup id = some other → P other := by
  intro id other hother
  by_cases hid : id = nID
  · rw [hid, AList.lookup_insert] at hother
    rw [← Option.some.inj hother]
    exact hinfo
  · rw [AList.lookup_insert_ne hid] at hother
    exact h id other hother

theorem Accounted.room_of_addData (hmax : 0 ≤ env.nMaxCacheSize.toInt)
    (hserialize : ∀ m szData, env.serialize m = some szData → szData.length < 2 ^ 31)
    (h : Accounted u.2) (hafter : Accounted (DbCacheMgr.addData env u nID m).2.2) :
    Accountable env u (.addData nID m) := by
  intro c szData hcache hnew hdata
  have hcounted := h.cache _ c hcache
  have hlt := c.nDataSize.toInt_lt
  have hshort := hserialize m szData hdata
  have hsum := DbCache.recordsSize_added hnew szData
  have hcount : (c.added nID szData).nDataSize.toInt =
      ((szData.length + c.recordsSize : ℕ) : ℤ).bmod (2 ^ 32) := by
    show (c.nDataSize + Int32.ofNat szData.length).toInt = _
    rw [Int32.toInt_add, Int32.toInt_ofNat_of_lt hshort, hcounted, Int.natCast_add, Int.add_comm]
  have hrecords : ∀ id info, (c.added nID szData).mapCacheInfo.lookup id = some info →
      info.szData.length < 2 ^ 31 :=
    forall_lookup_insert (P := fun info => info.szData.length < 2 ^ 31)
      (fun _ _ => hcounted.length_lt) hshort
  rw [DbCacheMgr.addData_of_true hcache (DbCache.addData_of_some hnew hdata)] at hafter
  unfold DbCache.Counted at hcounted
  have hroom := h.room_of_cleanIfFull
    (u := (u.1, u.2.setCache m.descriptor.typeName (c.added nID szData) u.2.tickerMgr))
    hmax hcache rfl rfl hsum hcount (by omega) hrecords hafter
  exact ⟨by omega, by omega⟩

/-- An update that is added behind the manager's back is empty. -/
theorem Accounted.eq_nil_of_setData (h : Accounted u.2)
    (hafter : Accounted (DbCacheMgr.setData env u nID m).2.2) {c : DbCache} {szData : Bytes}
    (hcache : u.2.mapCache.lookup m.descriptor.typeName = some c)
    (hnew : nID ∉ c.mapCacheInfo) (hdata : env.serialize m = some szData) : szData = [] := by
  rw [DbCacheMgr.setData_of_false hcache (DbCache.setData_of_not_mem hnew),
    DbCache.addData_of_some hnew hdata] at hafter
  have hcounted := h.cache _ c hcache
  have hsum := DbCache.recordsSize_added hnew szData
  obtain ⟨htotal, hafter'⟩ := h.total_of_insert hcache rfl hafter
  have hcounted' : (c.added nID szData).Counted := hafter'
  have hunheard : u.2.nDataSize.toInt =
      u.2.nDataSize.toInt - c.nDataSize.toInt + (c.added nID szData).nDataSize.toInt :=
    htotal
  unfold DbCache.Counted at hcounted hcounted'
  exact List.eq_nil_of_length_eq_zero (by omega)

theorem Accounted.room_of_setData (hmax : 0 ≤ env.nMaxCacheSize.toInt)
    (hserialize : ∀ m szData, env.serialize m = some szData → szData.length < 2 ^ 31)
    (h : Accounted u.2) (hafter : Accounted (DbCacheMgr.setData env u nID m).2.2) :
    Accountable env u (.setData nID m) := by
  refine ⟨fun c szData => h.eq_nil_of_setData hafter, ?_⟩
  intro c info szData hcache hinfo hmerged
  obtain ⟨tickers, hset⟩ := DbCache.setData_of_some (c := c) hinfo hmerged
  have hcounted := h.cache _ c hcache
  have hlt := c.nDataSize.toInt_lt
  have hshort : szData.length < 2 ^ 31 := by
    simp only [DbCache.mergedData, Option.bind_eq_bind, Option.bind_eq_some_iff] at hmerged
    obtain ⟨_, -, dst, -, hdata⟩ := hmerged
    exact hserialize dst szData hdata
  have hsum := DbCache.recordsSize_replaced_add hinfo szData
  have hold := hcounted.toInt_nSize hinfo
  have hrecords : ∀ id info', (c.replaced nID info szData).mapCacheInfo.lookup id = some info' →
      info'.szData.length < 2 ^ 31 :=
    forall_lookup_insert (P := fun info' => info'.szData.length < 2 ^ 31)
      (fun _ _ => hcounted.length_lt) hshort
  unfold DbCache.Counted at hcounted
  have hcount : (c.replaced nID info szData).nDataSize.toInt =
      ((c.replaced nID info szData).recordsSize : ℤ).bmod (2 ^ 32) := by
    show (c.nDataSize - info.nSize + Int32.ofNat szData.length).toInt = _
    rw [Int32.toInt_add, Int32.toInt_sub, Int.bmod_add_bmod,
      Int32.toInt_ofNat_of_lt hshort, hold]
    congr 1
    omega
  rw [DbCacheMgr.setData_of_true hcache hset] at hafter
  have hroom := h.room_of_cleanIfFull
    (u := (u.1, u.2.setCache m.descriptor.typeName (c.replaced nID info szData) tickers))
    hmax hcache rfl rfl rfl hcount (by omega) hrecords hafter
  exact ⟨by omega, by omega⟩

/-- A call leaves right counts right exactly when it keeps them. -/
theorem accounted_step_iff (hmax : 0 ≤ env.nMaxCacheSize.toInt)
    (hserialize : ∀ m szData, env.serialize m = some szData → szData.length < 2 ^ 31)
    {s t : DbConnection σ × DbCacheMgr} {l : CacheCall} (h : Accounted s.2)
    (hstep : CacheStep env s l t) : Accounted t.2 ↔ Accountable env s l := by
  refine ⟨fun hafter => ?_, h.step hstep⟩
  cases hstep with
  | setData => exact h.room_of_setData hmax hserialize hafter
  | addData => exact h.room_of_addData hmax hserialize hafter
  | delData => trivial
  | flush => trivial
  | update => trivial
  | connection => trivial

/-- The runs in which the counts are right throughout are those whose calls all keep
them. -/
theorem run_accountable_iff (hmax : 0 ≤ env.nMaxCacheSize.toInt)
    (hserialize : ∀ m szData, env.serialize m = some szData → szData.length < 2 ^ 31)
    {s₀ s : DbConnection σ × DbCacheMgr} {ls : List CacheCall}
    (hinit : (cacheSystem env).init s₀) :
    ((cacheSystem env).guard (Accountable env)).Run s₀ ls s ↔
      ((cacheSystem env).within fun u => Accounted u.2).Run s₀ ls s := by
  obtain ⟨vecCacheTable, time, choices, hinit⟩ := hinit
  refine TransitionSystem.run_guard_iff_run_within (I := fun _ => True)
    (fun _ _ _ _ _ => trivial)
    (fun _ _ _ _ h hstep => accounted_step_iff hmax hserialize h hstep) trivial ?_
  rw [hinit]
  exact accounted_initial vecCacheTable time choices

end

end RealtimeEx.Db
