import Mathlib.Algebra.Order.Ring.Int
import RealtimeEx.Db.DbCacheFailure
import RealtimeEx.Support.WeightedMap

/-!
# The sizes of the caches

Every cache counts the bytes of its records, and `CDbCacheMgr` adds up the counts
of its caches: it asks a cache for its count before and after an operation.  The
operation on a cache may change the count and report that it did nothing.
-/

namespace RealtimeEx.Db

open RealtimeEx.Base

variable {σ : Type*}

/-! ## Sizes that are right -/

/-- The bytes of the records of a cache. -/
def DbCache.recordsSize (c : DbCache) : ℕ :=
  mapTotal (fun info : CacheInfo => info.szData.length) c.mapCacheInfo

/-- A cache that counts the bytes of its records. -/
def DbCache.Counted (c : DbCache) : Prop := c.nDataSize.toInt = c.recordsSize

/-- The sizes that all caches count. -/
def DbCacheMgr.cachesSize (s : DbCacheMgr) : ℤ :=
  mapTotal (fun c : DbCache => c.nDataSize.toInt) s.mapCache

/-- Every cache counts the bytes of its records, the manager counts what the caches
count, and no count is below zero. -/
structure Accounted (s : DbCacheMgr) : Prop where
  total : s.nDataSize.toInt = s.cachesSize
  cache : ∀ szDataName c, s.mapCache.lookup szDataName = some c → c.Counted
  total_nonneg : 0 ≤ s.nDataSize.toInt
  cache_nonneg : ∀ szDataName c, s.mapCache.lookup szDataName = some c →
    0 ≤ c.nDataSize.toInt

/-! ## Arithmetic of the machine -/

/-- A size that is taken away and one that is added, when the result is a size. -/
theorem toInt_sub_add {a b c : Int32} (hlow : 0 ≤ a.toInt - b.toInt + c.toInt)
    (hhigh : a.toInt - b.toInt + c.toInt < 2 ^ 31) :
    (a - b + c).toInt = a.toInt - b.toInt + c.toInt := by
  rw [Int32.toInt_add, Int32.toInt_sub, Int.bmod_add_bmod]
  exact Int.bmod_eq_of_le_mul_two (by omega) (by omega)

theorem toInt_sub_add_toInt64 {n : Int64} {b c : Int32}
    (hlow : 0 ≤ n.toInt - b.toInt + c.toInt)
    (hhigh : n.toInt - b.toInt + c.toInt < 2 ^ 63) :
    (n - b.toInt64 + c.toInt64).toInt = n.toInt - b.toInt + c.toInt := by
  rw [Int64.toInt_add, Int64.toInt_sub, Int.bmod_add_bmod, Int32.toInt_toInt64,
    Int32.toInt_toInt64]
  exact Int.bmod_eq_of_le_mul_two (by omega) (by omega)

/-! ## One cache -/

namespace DbCache

variable {c : DbCache} {nID : UInt64} {info : CacheInfo}

theorem recordsSize_erase_add (hinfo : c.mapCacheInfo.lookup nID = some info)
    (tickers : TickerMgr CacheTicker) :
    (c.erase tickers nID info).1.recordsSize + info.szData.length = c.recordsSize :=
  mapTotal_erase_add _ hinfo

/-- The size of a record that is counted is not cut. -/
theorem Counted.toInt_nSize (h : c.Counted) (hinfo : c.mapCacheInfo.lookup nID = some info) :
    info.nSize.toInt = info.szData.length := by
  have hle := recordsSize_erase_add hinfo (.initial false 0)
  have hlt := c.nDataSize.toInt_lt
  unfold Counted at h
  refine Int32.toInt_ofNat_of_lt ?_
  omega

/-- A record that is erased is no longer counted. -/
theorem Counted.erase (h : c.Counted) (hinfo : c.mapCacheInfo.lookup nID = some info)
    (tickers : TickerMgr CacheTicker) :
    (c.erase tickers nID info).1.Counted ∧
      (c.erase tickers nID info).1.nDataSize.toInt =
        c.nDataSize.toInt - info.nSize.toInt := by
  have hsum := recordsSize_erase_add hinfo tickers
  have hsize := h.toInt_nSize hinfo
  have hlt := c.nDataSize.toInt_lt
  unfold Counted at h ⊢
  have hafter : (c.erase tickers nID info).1.nDataSize.toInt =
      c.nDataSize.toInt - info.nSize.toInt := by
    show (c.nDataSize - info.nSize).toInt = _
    rw [Int32.toInt_sub]
    exact Int.bmod_eq_of_le_mul_two (by omega) (by omega)
  exact ⟨by omega, hafter⟩

theorem recordsSize_added (hnew : nID ∉ c.mapCacheInfo) (szData : Bytes) :
    (c.added nID szData).recordsSize = szData.length + c.recordsSize :=
  mapTotal_insert_of_not_mem _ hnew _

theorem recordsSize_replaced_add (hinfo : c.mapCacheInfo.lookup nID = some info)
    (szData : Bytes) :
    (c.replaced nID info szData).recordsSize + info.szData.length =
      szData.length + c.recordsSize :=
  mapTotal_insert_add _ hinfo _

/-- A record that is added is counted, if the count has room for it. -/
theorem Counted.added (h : c.Counted) (hnew : nID ∉ c.mapCacheInfo) {szData : Bytes}
    (hroom : c.nDataSize.toInt + szData.length < 2 ^ 31) :
    (c.added nID szData).Counted ∧
      (c.added nID szData).nDataSize.toInt = c.nDataSize.toInt + szData.length := by
  have hsum := recordsSize_added hnew szData
  unfold Counted at h ⊢
  have hafter : (c.added nID szData).nDataSize.toInt =
      c.nDataSize.toInt + szData.length := by
    show (c.nDataSize + Int32.ofNat szData.length).toInt = _
    rw [Int32.toInt_add, Int32.toInt_ofNat_of_lt (by omega)]
    exact Int.bmod_eq_of_le_mul_two (by omega) (by omega)
  exact ⟨by omega, hafter⟩

/-- A record that is replaced is counted, if the count has room for it. -/
theorem Counted.replaced (h : c.Counted) (hinfo : c.mapCacheInfo.lookup nID = some info)
    {szData : Bytes}
    (hroom : c.nDataSize.toInt + (szData.length - info.szData.length) < 2 ^ 31) :
    (c.replaced nID info szData).Counted ∧
      (c.replaced nID info szData).nDataSize.toInt =
        c.nDataSize.toInt + (szData.length - info.szData.length) := by
  have hsum := recordsSize_replaced_add hinfo szData
  have hle := recordsSize_erase_add hinfo (.initial false 0)
  have hold := h.toInt_nSize hinfo
  unfold Counted at h ⊢
  have hnew : (Int32.ofNat szData.length).toInt = szData.length :=
    Int32.toInt_ofNat_of_lt (by omega)
  have hafter : (c.replaced nID info szData).nDataSize.toInt =
      c.nDataSize.toInt + (szData.length - info.szData.length) := by
    show (c.nDataSize - info.nSize + Int32.ofNat szData.length).toInt = _
    rw [toInt_sub_add (by omega) (by omega), hold, hnew]
    omega
  exact ⟨by omega, hafter⟩

/-- What a cleaning takes away, if anything, is the size of one record. -/
theorem cleanData_cases (env : CacheEnv σ) (tickers : TickerMgr CacheTicker)
    (conn : DbConnection σ) (choice : Option UInt64) :
    ((c.cleanData env tickers conn choice).1 = 0 ∧
        (c.cleanData env tickers conn choice).2.1 = c) ∨
      ∃ nID info, c.mapCacheInfo.lookup nID = some info ∧
        (c.cleanData env tickers conn choice).1 = info.nSize ∧
          (c.cleanData env tickers conn choice).2.1 = (c.erase tickers nID info).1 := by
  unfold cleanData
  split
  · exact Or.inl ⟨rfl, rfl⟩
  · rename_i nID info hchoice
    obtain ⟨id, -, hinfo⟩ := Option.bind_eq_some_iff.mp hchoice
    obtain ⟨found, hlookup, hpair⟩ := Option.map_eq_some_iff.mp hinfo
    obtain ⟨rfl, rfl⟩ := Prod.mk.inj hpair
    exact Or.inr ⟨id, found, hlookup, rfl, rfl⟩

end DbCache

/-! ## One operation -/

section

variable {s t : DbCacheMgr} {szDataName : String} {c c' : DbCache}

/-- A cache has changed, and the manager counts the difference. -/
theorem Accounted.of_insert (h : Accounted s) (hlookup : s.mapCache.lookup szDataName = some c)
    (hmap : t.mapCache = s.mapCache.insert szDataName c') (hcounted : c'.Counted)
    (htotal : t.nDataSize.toInt = s.nDataSize.toInt - c.nDataSize.toInt + c'.nDataSize.toInt) :
    Accounted t := by
  have hcache : ∀ other d, t.mapCache.lookup other = some d → d.Counted := by
    intro other d hd
    rw [hmap] at hd
    by_cases hother : other = szDataName
    · rw [hother, AList.lookup_insert] at hd
      rw [← Option.some.inj hd]
      exact hcounted
    · rw [AList.lookup_insert_ne hother] at hd
      exact h.cache other d hd
  have hnonneg : ∀ other d, t.mapCache.lookup other = some d → 0 ≤ d.nDataSize.toInt := by
    intro other d hd
    rw [hcache other d hd]
    exact Int.natCast_nonneg _
  have hsum : t.nDataSize.toInt = t.cachesSize := by
    have hinsert := mapTotal_insert_add (fun c : DbCache => c.nDataSize.toInt) hlookup c'
    have hbefore := h.total
    unfold DbCacheMgr.cachesSize at hbefore ⊢
    rw [hmap]
    omega
  refine ⟨hsum, hcache, ?_, hnonneg⟩
  rw [hsum]
  exact mapTotal_nonneg _ hnonneg

/-- A cache counts no more than the manager. -/
theorem Accounted.cache_le (h : Accounted s) (hlookup : s.mapCache.lookup szDataName = some c) :
    c.nDataSize.toInt ≤ s.nDataSize.toInt := by
  have hsum := mapTotal_erase_add (fun c : DbCache => c.nDataSize.toInt) hlookup
  have hrest : 0 ≤ mapTotal (fun c : DbCache => c.nDataSize.toInt)
      (s.mapCache.erase szDataName) := by
    refine mapTotal_nonneg _ fun other d hd => ?_
    by_cases hother : other = szDataName
    · rw [hother, AList.lookup_erase] at hd
      cases hd
    · rw [AList.lookup_erase_ne hother] at hd
      exact h.cache_nonneg other d hd
  have htotal := h.total
  unfold DbCacheMgr.cachesSize at htotal
  omega

/-- The end of an operation that a cache carried out. -/
theorem Accounted.cleanIfFull (env : CacheEnv σ) {u : DbConnection σ × DbCacheMgr}
    (h : Accounted s) (hlookup : s.mapCache.lookup szDataName = some c)
    (hmap : u.2.mapCache = s.mapCache.insert szDataName c')
    (hsize : u.2.nDataSize = s.nDataSize) (hcounted : c'.Counted)
    (hroom : s.nDataSize.toInt - c.nDataSize.toInt + c'.nDataSize.toInt < 2 ^ 63) :
    Accounted (DbCacheMgr.cleanIfFull env u szDataName c' c.nDataSize).2 := by
  have hle := h.cache_le hlookup
  have hnonneg : 0 ≤ c'.nDataSize.toInt := by
    rw [hcounted]
    exact Int.natCast_nonneg _
  have htotal : (u.2.nDataSize - c.nDataSize.toInt64 + c'.nDataSize.toInt64).toInt =
      s.nDataSize.toInt - c.nDataSize.toInt + c'.nDataSize.toInt := by
    rw [hsize]
    exact toInt_sub_add_toInt64 (by omega) hroom
  have hcounts : Accounted { u.2 with
      nDataSize := u.2.nDataSize - c.nDataSize.toInt64 + c'.nDataSize.toInt64 } :=
    h.of_insert hlookup hmap hcounted htotal
  have hkept : u.2.mapCache.lookup szDataName = some c' := by
    rw [hmap, AList.lookup_insert]
  unfold DbCacheMgr.cleanIfFull
  dsimp only
  split
  · refine hcounts.of_insert hkept rfl ?_ ?_
    · rcases c'.cleanData_cases env u.2.tickerMgr u.1 (u.2.choices 0) with
        ⟨-, hsame⟩ | ⟨nID, info, hinfo, -, herased⟩
      · rw [hsame]
        exact hcounted
      · rw [herased]
        exact (hcounted.erase hinfo _).1
    · have hall := hcounts.cache_le hkept
      dsimp only at hall ⊢
      rcases c'.cleanData_cases env u.2.tickerMgr u.1 (u.2.choices 0) with
        ⟨hzero, hsame⟩ | ⟨nID, info, hinfo, hsize, herased⟩
      · rw [hzero, hsame, Int64.toInt_sub, Int32.toInt_toInt64, Int32.toInt_zero, htotal]
        rw [Int.bmod_eq_of_le_mul_two (by omega) (by omega)]
        omega
      · have herase := hcounted.erase hinfo u.2.tickerMgr
        have hrecord := hcounted.toInt_nSize hinfo
        have hinside : 0 ≤ (c'.erase u.2.tickerMgr nID info).1.nDataSize.toInt := by
          rw [herase.1]
          exact Int.natCast_nonneg _
        rw [hsize, herased, Int64.toInt_sub, Int32.toInt_toInt64, htotal]
        rw [Int.bmod_eq_of_le_mul_two (by omega) (by omega)]
        omega
  · exact hcounts

/-! ## What the manager does -/

/-- The count of a cache and that of the manager have room for so many more bytes. -/
def Fits (s : DbCacheMgr) (c : DbCache) (nGrowth : ℤ) : Prop :=
  c.nDataSize.toInt + nGrowth < 2 ^ 31 ∧ s.nDataSize.toInt + nGrowth < 2 ^ 63

/-- A cache that is put back as it was. -/
theorem Accounted.setCache (h : Accounted s) (hlookup : s.mapCache.lookup szDataName = some c)
    (tickers : TickerMgr CacheTicker) : Accounted (s.setCache szDataName c tickers) := by
  refine h.of_insert hlookup rfl (h.cache szDataName c hlookup) ?_
  show s.nDataSize.toInt = _
  omega

/-- A record can be added when it fits. -/
theorem Accounted.addData (env : CacheEnv σ) {u : DbConnection σ × DbCacheMgr} {nID : UInt64}
    {m : Message} (h : Accounted u.2)
    (hroom : ∀ c szData, u.2.mapCache.lookup m.descriptor.typeName = some c →
      nID ∉ c.mapCacheInfo → env.serialize m = some szData → Fits u.2 c szData.length) :
    Accounted (DbCacheMgr.addData env u nID m).2.2 := by
  cases hcache : u.2.mapCache.lookup m.descriptor.typeName with
  | none =>
      rw [DbCacheMgr.addData_of_no_cache hcache]
      exact h
  | some c =>
      by_cases hmem : nID ∈ c.mapCacheInfo
      · rw [DbCacheMgr.addData_of_false hcache (DbCache.addData_of_mem hmem)]
        exact h.setCache hcache _
      · cases hdata : env.serialize m with
        | none =>
            rw [DbCacheMgr.addData_of_false hcache (DbCache.addData_of_none hdata)]
            exact h.setCache hcache _
        | some szData =>
            rw [DbCacheMgr.addData_of_true hcache (DbCache.addData_of_some hmem hdata)]
            obtain ⟨hcount, htotal⟩ := hroom c szData hcache hmem hdata
            obtain ⟨hcounted, hsize⟩ := (h.cache _ c hcache).added hmem hcount
            exact h.cleanIfFull env hcache rfl rfl hcounted (by omega)

/-- A record can be updated when it fits, and when it is cached or empty. -/
theorem Accounted.setData (env : CacheEnv σ) {u : DbConnection σ × DbCacheMgr} {nID : UInt64}
    {m : Message} (h : Accounted u.2)
    (hcached : ∀ c szData, u.2.mapCache.lookup m.descriptor.typeName = some c →
      nID ∉ c.mapCacheInfo → env.serialize m = some szData → szData = [])
    (hroom : ∀ c info szData, u.2.mapCache.lookup m.descriptor.typeName = some c →
      c.mapCacheInfo.lookup nID = some info → c.mergedData env info m = some szData →
        Fits u.2 c (szData.length - info.szData.length)) :
    Accounted (DbCacheMgr.setData env u nID m).2.2 := by
  cases hcache : u.2.mapCache.lookup m.descriptor.typeName with
  | none =>
      rw [DbCacheMgr.setData_of_no_cache hcache]
      exact h
  | some c =>
      by_cases hmem : nID ∈ c.mapCacheInfo
      · obtain ⟨info, hinfo⟩ := Option.isSome_iff_exists.mp (AList.lookup_isSome.mpr hmem)
        cases hmerged : c.mergedData env info m with
        | none =>
            rw [DbCacheMgr.setData_of_false hcache (DbCache.setData_of_none hinfo hmerged)]
            exact h.setCache hcache _
        | some szData =>
            obtain ⟨tickers, hset⟩ := DbCache.setData_of_some (c := c) hinfo hmerged
            rw [DbCacheMgr.setData_of_true hcache hset]
            obtain ⟨hcount, htotal⟩ := hroom c info szData hcache hinfo hmerged
            obtain ⟨hcounted, hsize⟩ := (h.cache _ c hcache).replaced hinfo hcount
            exact h.cleanIfFull env hcache rfl rfl hcounted (by omega)
      · rw [DbCacheMgr.setData_of_false hcache (DbCache.setData_of_not_mem hmem)]
        cases hdata : env.serialize m with
        | none =>
            rw [DbCache.addData_of_none hdata]
            exact h.setCache hcache _
        | some szData =>
            -- the cache adds the record and reports that it did not
            obtain rfl := hcached c szData hcache hmem hdata
            rw [DbCache.addData_of_some hmem hdata]
            have hempty : c.nDataSize.toInt + (([] : Bytes).length : ℤ) < 2 ^ 31 := by
              simpa using c.nDataSize.toInt_lt
            obtain ⟨hcounted, hsize⟩ := (h.cache _ c hcache).added hmem hempty
            refine h.of_insert hcache rfl hcounted ?_
            rw [hsize]
            show u.2.nDataSize.toInt = _
            rw [List.length_nil]
            omega

theorem Accounted.delData (h : Accounted s) (nID : UInt64) (szDataName : String) :
    Accounted (s.delData nID szDataName).2 := by
  cases hcache : s.mapCache.lookup szDataName with
  | none =>
      rw [DbCacheMgr.delData_of_no_cache hcache]
      exact h
  | some c =>
      by_cases hmem : nID ∈ c.mapCacheInfo
      · obtain ⟨info, hinfo⟩ := Option.isSome_iff_exists.mp (AList.lookup_isSome.mpr hmem)
        rw [DbCacheMgr.delData_of_lookup hcache hinfo]
        have hcounted := h.cache _ c hcache
        have herase := hcounted.erase hinfo s.tickerMgr
        have hrecord := hcounted.toInt_nSize hinfo
        have hall := h.cache_le hcache
        have hlt := s.nDataSize.toInt_lt
        have hinside : 0 ≤ (c.erase s.tickerMgr nID info).1.nDataSize.toInt := by
          rw [herase.1]
          exact Int.natCast_nonneg _
        refine h.of_insert hcache rfl herase.1 ?_
        exact toInt_sub_add_toInt64 (by omega) (by omega)
      · rw [DbCacheMgr.delData_of_not_mem hcache hmem]
        exact h.setCache hcache _

end

/-! ## Histories -/

/-- What is done to the caches of a thread, and to the connection beside them. -/
inductive CacheCall
  | setData (nID : UInt64) (pData : Message)
  | addData (nID : UInt64) (pData : Message)
  | delData (nID : UInt64) (szDataName : String)
  | flush
  | update (nCurTime : ℕ)
  | connection

/-- The step relation of the caches.  `cleanData` is a part of `setData` and
`addData`. -/
inductive CacheStep (env : CacheEnv σ) : DbConnection σ × DbCacheMgr → CacheCall →
    DbConnection σ × DbCacheMgr → Prop
  | setData {s : DbConnection σ × DbCacheMgr} {nID : UInt64} {pData : Message} :
      CacheStep env s (.setData nID pData) (DbCacheMgr.setData env s nID pData).2
  | addData {s : DbConnection σ × DbCacheMgr} {nID : UInt64} {pData : Message} :
      CacheStep env s (.addData nID pData) (DbCacheMgr.addData env s nID pData).2
  | delData {s : DbConnection σ × DbCacheMgr} {nID : UInt64} {szDataName : String} :
      CacheStep env s (.delData nID szDataName) (s.1, (s.2.delData nID szDataName).2)
  | flush {s : DbConnection σ × DbCacheMgr} :
      CacheStep env s .flush (DbCacheMgr.flushCache env s)
  | update {s s' : DbConnection σ × DbCacheMgr} {nCurTime : ℕ}
      (hupdate : DbCacheMgr.Update env nCurTime s s') : CacheStep env s (.update nCurTime) s'
  | connection {s : DbConnection σ × DbCacheMgr} {conn : DbConnection σ} :
      CacheStep env s .connection (conn, s.2)

/-- The caches of a thread from `init` on. -/
def cacheSystem (env : CacheEnv σ) :
    TransitionSystem (DbConnection σ × DbCacheMgr) CacheCall where
  init s := ∃ vecCacheTable time choices, s.2 = .initial vecCacheTable time choices
  step := CacheStep env

/-- A call that keeps the counts: what is updated is cached unless it is empty, and
what is written fits. -/
def Accountable (env : CacheEnv σ) (s : DbConnection σ × DbCacheMgr) : CacheCall → Prop
  | .setData nID m =>
      (∀ c szData, s.2.mapCache.lookup m.descriptor.typeName = some c →
        nID ∉ c.mapCacheInfo → env.serialize m = some szData → szData = []) ∧
      ∀ c info szData, s.2.mapCache.lookup m.descriptor.typeName = some c →
        c.mapCacheInfo.lookup nID = some info → c.mergedData env info m = some szData →
          Fits s.2 c (szData.length - info.szData.length)
  | .addData nID m => ∀ c szData, s.2.mapCache.lookup m.descriptor.typeName = some c →
      nID ∉ c.mapCacheInfo → env.serialize m = some szData → Fits s.2 c szData.length
  | _ => True

/-- What new caches have, all caches have after `init`. -/
theorem forall_lookup_initial {P : DbCache → Prop} (hP : ∀ szDataName, P (.initial szDataName))
    (vecCacheTable : List String) (time : ℕ) (choices : ℕ → Option UInt64) :
    ∀ szDataName c, (DbCacheMgr.initial vecCacheTable time choices).mapCache.lookup
      szDataName = some c → P c := by
  unfold DbCacheMgr.initial
  dsimp only
  induction vecCacheTable using List.reverseRecOn with
  | nil =>
      intro szDataName c hlookup
      rw [List.foldl_nil, AList.lookup_empty] at hlookup
      cases hlookup
  | append_singleton tables szTableName ih =>
      intro szDataName c hlookup
      rw [List.foldl_append, List.foldl_cons, List.foldl_nil] at hlookup
      by_cases hname : szDataName = getMessageNameByTableName szTableName
      · rw [hname, AList.lookup_insert] at hlookup
        rw [← Option.some.inj hlookup]
        exact hP _
      · rw [AList.lookup_insert_ne hname] at hlookup
        exact ih szDataName c hlookup

/-- The counts of caches that have not been used. -/
theorem accounted_initial (vecCacheTable : List String) (time : ℕ)
    (choices : ℕ → Option UInt64) : Accounted (.initial vecCacheTable time choices) := by
  have hempty : ∀ szDataName c, (DbCacheMgr.initial vecCacheTable time choices).mapCache.lookup
      szDataName = some c → c.recordsSize = 0 ∧ c.nDataSize = 0 :=
    forall_lookup_initial (P := fun c => c.recordsSize = 0 ∧ c.nDataSize = 0)
      (fun _ => ⟨rfl, rfl⟩) vecCacheTable time choices
  refine ⟨?_, fun szDataName c hlookup => ?_, Int.le_refl 0, fun szDataName c hlookup => ?_⟩
  · refine (mapTotal_eq_zero _ fun szDataName c hlookup => ?_).symm
    rw [(hempty szDataName c hlookup).2]
    rfl
  · unfold DbCache.Counted
    rw [(hempty szDataName c hlookup).1, (hempty szDataName c hlookup).2]
    rfl
  · rw [(hempty szDataName c hlookup).2]
    exact Int.le_refl 0

/-- An update of the tickers changes no cache. -/
theorem mapCache_update {env : CacheEnv σ} {nCurTime : ℕ} {s s' : DbConnection σ × DbCacheMgr}
    (h : DbCacheMgr.Update env nCurTime s s') :
    s'.2.mapCache = s.2.mapCache ∧ s'.2.nDataSize = s.2.nDataSize := by
  obtain ⟨-, ls, hrun⟩ := h
  refine hrun.invariant
    (I := fun u => u.2.mapCache = s.2.mapCache ∧ u.2.nDataSize = s.2.nDataSize) ?_ ⟨rfl, rfl⟩
  intro u l u' hu hstep
  cases hstep with
  | tick => exact hu
  | fire => exact hu

theorem Accounted.congr {s t : DbCacheMgr} (h : Accounted s) (hmap : t.mapCache = s.mapCache)
    (hsize : t.nDataSize = s.nDataSize) : Accounted t := by
  refine ⟨?_, ?_, ?_, ?_⟩
  · unfold DbCacheMgr.cachesSize
    rw [hmap, hsize]
    exact h.total
  · rw [hmap]
    exact h.cache
  · rw [hsize]
    exact h.total_nonneg
  · rw [hmap]
    exact h.cache_nonneg

theorem Accounted.step {env : CacheEnv σ} {s t : DbConnection σ × DbCacheMgr} {l : CacheCall}
    (h : Accounted s.2) (hstep : CacheStep env s l t) (hmeets : Accountable env s l) :
    Accounted t.2 := by
  cases hstep with
  | setData => exact h.setData env hmeets.1 hmeets.2
  | addData => exact h.addData env hmeets
  | delData => exact h.delData _ _
  | flush => exact h
  | update hupdate =>
      obtain ⟨hmap, hsize⟩ := mapCache_update hupdate
      exact h.congr hmap hsize
  | connection => exact h

/-- In every state that is reached by calls that all keep the counts, the counts are
right. -/
theorem accounted_of_reachable (env : CacheEnv σ) {s : DbConnection σ × DbCacheMgr}
    (h : ((cacheSystem env).guard (Accountable env)).Reachable s) : Accounted s.2 := by
  refine h.invariant (I := fun u => Accounted u.2) ?_ ?_
  · rintro s ⟨vecCacheTable, time, choices, hinit⟩
    rw [hinit]
    exact accounted_initial vecCacheTable time choices
  · exact fun s l t hs hstep => hs.step hstep.1 hstep.2

/-! ## A record of two bytes -/

theorem init_emptyCacheThread : (cacheSystem refusingEnv).init emptyCacheThread.env :=
  ⟨["player"], 1, fun _ => none, rfl⟩

/-- The record is added to the empty cache. -/
theorem accounted_addData_keyRecord :
    Accounted (DbCacheMgr.addData refusingEnv emptyCacheThread.env 1 keyRecord).2.2 := by
  refine accounted_of_reachable refusingEnv (.step (.of_init init_emptyCacheThread)
    (l := .addData 1 keyRecord) ⟨CacheStep.addData, ?_⟩)
  intro c szData hcache hnew hdata
  have hempty : emptyCacheThread.env.2.mapCache.lookup "proto.db.player" =
      some (.initial "proto.db.player") := rfl
  obtain rfl := Option.some.inj (hempty.symm.trans hcache)
  obtain rfl := Option.some.inj hdata
  exact ⟨by decide, by decide⟩

/-- The record is updated, which adds it, and deleted again. -/
theorem not_accounted_delData_keyRecord :
    ∃ s : DbConnection ℕ × DbCacheMgr, (cacheSystem refusingEnv).Reachable s ∧
      s.2.nDataSize = -2 ∧ ¬ Accounted s.2 := by
  have hset : (cacheSystem refusingEnv).Reachable
      (DbCacheMgr.setData refusingEnv emptyCacheThread.env 1 keyRecord).2 :=
    .step (.of_init init_emptyCacheThread) (l := .setData 1 keyRecord) CacheStep.setData
  refine ⟨_, hset.step (l := .delData 1 "proto.db.player") CacheStep.delData, rfl, ?_⟩
  intro h
  exact absurd h.total_nonneg (by decide)

end RealtimeEx.Db
