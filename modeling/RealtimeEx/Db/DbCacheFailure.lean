import Mathlib.Algebra.Order.Ring.Int
import RealtimeEx.Db.DbCacheMgr
import RealtimeEx.Db.DbThreadOwnership

/-!
# The cache when a command fails

An update and a delete change the cache before their statement is executed, and
nothing takes the change back when the statement fails.  A select and an insert
change it afterwards.
-/

namespace RealtimeEx.Db

variable {σ : Type*}

namespace DbCacheMgr

/-! ## What the caches hold -/

/-- The record of an id: its bytes, and whether it is dirty, which is whether its
ticker will write it back. -/
def record (s : DbCacheMgr) (szDataName : String) (nID : UInt64) : Option (Bytes × Bool) := do
  let c ← s.mapCache.lookup szDataName
  let info ← c.mapCacheInfo.lookup nID
  some (info.szData, (s.tickerMgr.coreContext (c.tickerOf info)).isSome)

/-- The accounted size of a cache. -/
def cacheSize (s : DbCacheMgr) (szDataName : String) : Option Int32 :=
  (s.mapCache.lookup szDataName).map DbCache.nDataSize

/-- The caches hold the same records, as clean or dirty as before, and account for
the same sizes. -/
structure SameCache (s s' : DbCacheMgr) : Prop where
  record : ∀ szDataName nID, s'.record szDataName nID = s.record szDataName nID
  cacheSize : ∀ szDataName, s'.cacheSize szDataName = s.cacheSize szDataName
  nDataSize : s'.nDataSize = s.nDataSize

section

variable {s : DbCacheMgr} {szDataName : String} {c : DbCache} {nID : UInt64}

theorem SameCache.refl (s : DbCacheMgr) : SameCache s s :=
  ⟨fun _ _ => rfl, fun _ => rfl, rfl⟩

/-- A cache that is put back as it was. -/
theorem sameCache_setCache (hlookup : s.mapCache.lookup szDataName = some c) :
    SameCache s (s.setCache szDataName c s.tickerMgr) := by
  have hsame : ∀ other,
      (s.setCache szDataName c s.tickerMgr).mapCache.lookup other =
        s.mapCache.lookup other := by
    intro other
    by_cases hother : other = szDataName
    · rw [hother, hlookup]
      exact AList.lookup_insert s.mapCache
    · exact AList.lookup_insert_ne hother
  refine ⟨fun other nID => ?_, fun other => ?_, rfl⟩
  · unfold record
    rw [hsame]
    rfl
  · unfold cacheSize
    rw [hsame]

theorem record_of_lookup (hlookup : s.mapCache.lookup szDataName = some c) :
    s.record szDataName nID = (c.mapCacheInfo.lookup nID).map fun info =>
      (info.szData, (s.tickerMgr.coreContext (c.tickerOf info)).isSome) := by
  unfold record
  rw [hlookup, Option.bind_eq_bind, Option.bind_some]
  cases c.mapCacheInfo.lookup nID with
  | none => rfl
  | some info => rfl

/-- Whether there is a record is whether its cache holds the id. -/
theorem isSome_record_iff (hlookup : s.mapCache.lookup szDataName = some c) :
    (s.record szDataName nID).isSome ↔ nID ∈ c.mapCacheInfo := by
  rw [record_of_lookup hlookup, Option.isSome_map, AList.lookup_isSome]

/-- Caches that hold the same hold the same ids. -/
theorem SameCache.mem_iff {s' : DbCacheMgr} {c' : DbCache} (h : SameCache s s')
    (hlookup : s.mapCache.lookup szDataName = some c)
    (hlookup' : s'.mapCache.lookup szDataName = some c') :
    nID ∈ c'.mapCacheInfo ↔ nID ∈ c.mapCacheInfo := by
  rw [← isSome_record_iff hlookup', h.record, isSome_record_iff hlookup]

end

end DbCacheMgr

/-! ## Before the statement -/

open DbCacheMgr

/-- The command changes the cache before its statement: it updates a record that
is not cached, or deletes one that is. -/
def ChangedBefore (env : CacheEnv σ) (command : DbCommand) (s : DbCacheMgr) : Prop :=
  enableCache env ∧
    match command with
    | .update m => ∃ nID c szData, getPrimaryValue m = some nID ∧
        s.mapCache.lookup m.descriptor.typeName = some c ∧ nID ∉ c.mapCacheInfo ∧
          env.serialize m = some szData
    | .delete id tableName => ∃ c,
        s.mapCache.lookup (getMessageNameByTableName tableName) = some c ∧
          id ∈ c.mapCacheInfo
    | _ => False

section

variable (env : CacheEnv σ) (s : DbConnection σ × DbCacheMgr)

/-- An update that is not answered by the cache adds the record if it can. -/
theorem sameCache_setData_iff (nID : UInt64) (m : Message)
    (hmiss : (DbCacheMgr.setData env s nID m).1 = false) :
    SameCache s.2 (DbCacheMgr.setData env s nID m).2.2 ↔
      ¬ ∃ c szData, s.2.mapCache.lookup m.descriptor.typeName = some c ∧
        nID ∉ c.mapCacheInfo ∧ env.serialize m = some szData := by
  cases hcache : s.2.mapCache.lookup m.descriptor.typeName with
  | none =>
      rw [setData_of_no_cache hcache]
      refine iff_of_true (.refl s.2) ?_
      rintro ⟨c, _, hsome, -⟩
      cases hsome
  | some c =>
      by_cases hmem : nID ∈ c.mapCacheInfo
      · obtain ⟨info, hinfo⟩ := Option.isSome_iff_exists.mp (AList.lookup_isSome.mpr hmem)
        cases hmerged : c.mergedData env info m with
        | none =>
            rw [setData_of_false hcache (DbCache.setData_of_none hinfo hmerged)]
            refine iff_of_true (sameCache_setCache hcache) ?_
            rintro ⟨c', _, hsome, hnew, -⟩
            cases hsome
            exact hnew hmem
        | some szData =>
            obtain ⟨tickers, hset⟩ := DbCache.setData_of_some (c := c) hinfo hmerged
            rw [setData_of_true hcache hset] at hmiss
            cases hmiss
      · rw [setData_of_false hcache (DbCache.setData_of_not_mem hmem)]
        cases hdata : env.serialize m with
        | none =>
            rw [DbCache.addData_of_none hdata]
            refine iff_of_true (sameCache_setCache hcache) ?_
            rintro ⟨_, _, -, -, hsome⟩
            cases hsome
        | some szData =>
            rw [DbCache.addData_of_some hmem hdata]
            refine iff_of_false (fun hsame => ?_) (not_not.mpr ⟨c, szData, rfl, hmem, rfl⟩)
            have hadded : nID ∈
                c.mapCacheInfo.insert nID ⟨szData, c.nextTicker⟩ := by
              rw [← AList.lookup_isSome, AList.lookup_insert]
              rfl
            exact hmem ((hsame.mem_iff hcache (AList.lookup_insert s.2.mapCache)).mp hadded)

/-- A delete removes the record. -/
theorem sameCache_delData_iff (s : DbCacheMgr) (nID : UInt64) (szDataName : String) :
    SameCache s (s.delData nID szDataName).2 ↔
      ¬ ∃ c, s.mapCache.lookup szDataName = some c ∧ nID ∈ c.mapCacheInfo := by
  cases hcache : s.mapCache.lookup szDataName with
  | none =>
      rw [delData_of_no_cache hcache]
      refine iff_of_true (.refl s) ?_
      rintro ⟨c, hsome, -⟩
      cases hsome
  | some c =>
      by_cases hmem : nID ∈ c.mapCacheInfo
      · obtain ⟨info, hinfo⟩ := Option.isSome_iff_exists.mp (AList.lookup_isSome.mpr hmem)
        rw [delData_of_lookup hcache hinfo]
        refine iff_of_false (fun hsame => ?_) (not_not.mpr ⟨c, rfl, hmem⟩)
        have hkept := (hsame.mem_iff hcache (AList.lookup_insert s.mapCache)).mpr hmem
        exact (AList.mem_erase.mp hkept).1 rfl
      · rw [delData_of_not_mem hcache hmem]
        refine iff_of_true (sameCache_setCache hcache) ?_
        rintro ⟨c', hsome, hmem'⟩
        cases hsome
        exact hmem hmem'

/-- A command that the cache does not answer leaves it as it was, unless it is one
that changes it first. -/
theorem sameCache_onPreCache_iff (command : DbCommand)
    (hmiss : (onPreCache env command s).1 = false) :
    SameCache s.2 (onPreCache env command s).2.2.2 ↔ ¬ ChangedBefore env command s.2 := by
  unfold onPreCache ChangedBefore at *
  by_cases henable : enableCache env
  · rw [if_pos henable] at hmiss ⊢
    cases command with
    | update m =>
        dsimp only at hmiss ⊢
        cases hid : getPrimaryValue m with
        | none =>
            refine iff_of_true (.refl s.2) ?_
            rintro ⟨-, nID, _, _, hsome, -⟩
            cases hsome
        | some nID =>
            rw [hid] at hmiss
            refine (sameCache_setData_iff env s nID m hmiss).trans (not_congr ?_)
            constructor
            · rintro ⟨c, szData, h⟩
              exact ⟨henable, nID, c, szData, rfl, h⟩
            · rintro ⟨-, nID', c, szData, hsome, h⟩
              cases hsome
              exact ⟨c, szData, h⟩
    | delete id tableName =>
        refine (sameCache_delData_iff s.2 id _).trans (not_congr ?_)
        exact (and_iff_right henable).symm
    | select id tableName =>
        dsimp only at hmiss ⊢
        cases hget : s.2.getData env id (getMessageNameByTableName tableName) with
        | none => exact iff_of_true (.refl s.2) (fun h => h.2)
        | some pMessage => exact iff_of_true (.refl s.2) (fun h => h.2)
    | query channelID tableName whereClause args =>
        exact iff_of_true (.refl s.2) (fun h => h.2)
    | insert m => exact iff_of_true (.refl s.2) (fun h => h.2)
    | call channelID sql args => exact iff_of_true (.refl s.2) (fun h => h.2)
    | flush => exact iff_of_true (.refl s.2) (fun h => h.2)
    | nop channelID => exact iff_of_true (.refl s.2) (fun h => h.2)
  · rw [if_neg henable]
    exact iff_of_true (.refl s.2) fun h => henable h.1

/-! ## A command that fails -/

/-- The statement of a command failed, or its connection was lost. -/
def Outcome.Failed {ρ : Type*} : Outcome ρ → Prop
  | .flushed => False
  | .lost => True
  | .done nErrorCode _ => nErrorCode ≠ eDBRC_OK

/-- The work of a thread with a cache. -/
abbrev cachedWork (ping : σ → σ → Prop) : DbWork DbCommand DbResponse (DbConnection σ × DbCacheMgr) :=
  handlerWork env.toHandlerEnv (dbCache env ping)

variable (ping : σ → σ → Prop)

/-- A command that failed was not answered by the cache, and nothing was done to
the cache after the statement. -/
theorem attempt_of_failed (command : DbCommand)
    (hfail : (DbThread.attempt (cachedWork env ping) command s).1.Failed) :
    (onPreCache env command s).1 = false ∧
      (DbThread.attempt (cachedWork env ping) command s).2.2 =
        (onPreCache env command s).2.2.2 := by
  unfold DbThread.attempt at hfail ⊢
  simp only [handlerWork, dbCache] at hfail ⊢
  cases hhit : (onPreCache env command s).1 with
  | true =>
      rw [hhit, if_pos rfl] at hfail
      exact absurd rfl hfail
  | false =>
      rw [hhit, if_neg Bool.false_ne_true] at hfail
      rw [if_neg Bool.false_ne_true]
      refine ⟨rfl, ?_⟩
      split at hfail
      · rename_i hlost
        rw [if_pos hlost]
      · rename_i hlost
        rw [if_neg hlost]
        split at hfail
        · rename_i hok
          exact absurd hok hfail
        · rename_i hok
          rw [if_neg hok]

/-- What failed is the attempt, and the thread keeps what it made of the cache. -/
theorem process_of_failed (t : DbThread DbCommand (DbConnection σ × DbCacheMgr))
    (c : SDbCommand DbCommand) (rest : List (SDbCommand DbCommand))
    (hfail : (t.process (cachedWork env ping) c rest).1.Failed) :
    (DbThread.attempt (cachedWork env ping) c.command t.env).1.Failed ∧
      (t.process (cachedWork env ping) c rest).2.env =
        (DbThread.attempt (cachedWork env ping) c.command t.env).2 := by
  cases hflush : (cachedWork env ping).isFlush c.command with
  | true =>
      rw [DbThread.process_of_flush _ t c rest hflush] at hfail
      exact hfail.elim
  | false =>
      rcases DbThread.attempt_cases (cachedWork env ping) c.command t.env with
        hlost | ⟨nErrorCode, response, hdone⟩
      · rw [DbThread.process_of_lost _ t c rest hflush hlost, hlost]
        exact ⟨trivial, rfl⟩
      · rw [DbThread.process_of_done _ t c rest hflush hdone] at hfail ⊢
        rw [hdone]
        exact ⟨hfail, rfl⟩

/-- A command that failed leaves the cache as it was exactly when it is not one
that changes it first. -/
theorem sameCache_process_iff (t : DbThread DbCommand (DbConnection σ × DbCacheMgr))
    (c : SDbCommand DbCommand) (rest : List (SDbCommand DbCommand))
    (hfail : (t.process (cachedWork env ping) c rest).1.Failed) :
    SameCache t.env.2 (t.process (cachedWork env ping) c rest).2.env.2 ↔
      ¬ ChangedBefore env c.command t.env.2 := by
  obtain ⟨hattempt, henv⟩ := process_of_failed env ping t c rest hfail
  obtain ⟨hmiss, hcache⟩ := attempt_of_failed env t.env ping c.command hattempt
  rw [henv, hcache]
  exact sameCache_onPreCache_iff env t.env c.command hmiss

end

/-! ## An update of a record that is not cached -/

/-- A table with a key. -/
def keyTable : Descriptor where
  typeName := "proto.db.player"
  fields := [{ name := "id", type := .uint64, serializeType := .unknown, required := true }]
  primaryKey := "id"

/-- The record of the table with the key one. -/
def keyRecord : Message where
  descriptor := keyTable
  field name := if name = "id" then some (.uint64 1) else none

/-- A cache that is enabled, before a client on which every statement fails. -/
def refusingEnv : CacheEnv ℕ where
  fmt := DbThread.plainFormat
  schema := ⟨fun _ => some keyTable, fun _ => none⟩
  client := DbThread.failingClient 1064
  serialize _ := some [8, 1]
  parse d _ := some (.empty d)
  nMaxCacheSize := 1024
  nCacheWritebackTime := 1000

/-- A thread whose cache of the table is empty. -/
def emptyCacheThread : DbThread DbCommand (DbConnection ℕ × DbCacheMgr) :=
  .initial (⟨0, []⟩, .initial ["player"] 1 fun _ => none)

/-- An insert that the database refuses is not cached. -/
theorem sameCache_insert_keyRecord :
    SameCache emptyCacheThread.env.2
      (emptyCacheThread.process (cachedWork refusingEnv fun _ _ => True)
        ⟨0, .insert keyRecord, false⟩ []).2.env.2 := by
  have hdone : (emptyCacheThread.process (cachedWork refusingEnv fun _ _ => True)
      ⟨0, .insert keyRecord, false⟩ []).1 = .done eDBRC_MysqlError none := rfl
  refine (sameCache_process_iff refusingEnv (fun _ _ => True) emptyCacheThread
    ⟨0, .insert keyRecord, false⟩ [] ?_).mpr fun h => h.2
  rw [hdone]
  exact (by decide : eDBRC_MysqlError ≠ eDBRC_OK)

theorem failed_update_keyRecord :
    (emptyCacheThread.process (cachedWork refusingEnv fun _ _ => True)
      ⟨0, .update keyRecord, false⟩ []).1 = .done eDBRC_MysqlError none := rfl

/-- The record is cached although the database refused it. -/
theorem not_sameCache_update_keyRecord :
    ∃ (t : DbThread DbCommand (DbConnection ℕ × DbCacheMgr)) (c : SDbCommand DbCommand),
      (t.process (cachedWork refusingEnv fun _ _ => True) c []).1 = .done eDBRC_MysqlError none ∧
        ¬ SameCache t.env.2
          (t.process (cachedWork refusingEnv fun _ _ => True) c []).2.env.2 := by
  refine ⟨emptyCacheThread, ⟨0, .update keyRecord, false⟩, failed_update_keyRecord, ?_⟩
  intro hsame
  have hadded : (emptyCacheThread.process (cachedWork refusingEnv fun _ _ => True)
      ⟨0, .update keyRecord, false⟩ []).2.env.2.record "proto.db.player" 1 =
        some ([8, 1], false) := rfl
  have hbefore : emptyCacheThread.env.2.record "proto.db.player" 1 = none := rfl
  rw [hsame.record, hbefore] at hadded
  cases hadded

end RealtimeEx.Db
