import RealtimeEx.Db.DbCache
import RealtimeEx.Db.DbThread

/-!
# The cache of a database thread

This file models `CDbCacheMgr`, the caches of the tables that were named at
start, and the two places where `CDbThread` uses it: before and after a
command is carried out.  The tickers of all records share one ticker manager,
which is updated at the start of `onProcess`; a ticker that fires calls
`onBackup` of its cache on the thread's connection.
-/

set_option linter.unusedSectionVars false

namespace RealtimeEx.Db

open RealtimeEx.Base

/-- `CDbCacheMgr`.  `choices` are the outcomes of the random choices that are
still to come. -/
structure DbCacheMgr where
  mapCache : AList fun _ : String => DbCache
  tickerMgr : TickerMgr CacheTicker
  nDataSize : Int64
  choices : ℕ → Option UInt64

/-- The steps of an update of the tickers, apart from the callbacks. -/
def isUpdateTick : TickerMgr.Label CacheTicker → Bool
  | .internal => true
  | .advance => true
  | _ => false

namespace DbCacheMgr

variable {σ : Type*} (env : CacheEnv σ)

/-- `init`, at the given time. -/
def initial (vecCacheTable : List String) (time : ℕ)
    (choices : ℕ → Option UInt64) : DbCacheMgr where
  mapCache := vecCacheTable.foldl
    (fun mapCache szTableName =>
      mapCache.insert (getMessageNameByTableName szTableName)
        (.initial (getMessageNameByTableName szTableName))) ∅
  tickerMgr := .initial false time
  nDataSize := 0
  choices := choices

def enableCache : Bool := 0 < env.nMaxCacheSize

/-- The cache under a name has changed, and the tickers. -/
def setCache (s : DbCacheMgr) (szDataName : String) (c : DbCache)
    (tickers : TickerMgr CacheTicker) : DbCacheMgr :=
  { s with
    mapCache := s.mapCache.insert szDataName c
    tickerMgr := tickers }

/-- `getData`. -/
def getData (s : DbCacheMgr) (nID : UInt64) (szDataName : String) :
    Option Message := do
  let c ← s.mapCache.lookup szDataName
  c.getData env nID

/-- The end of `setData` and `addData`: the new size is accounted for, and a
record of the same cache is evicted if the caches have grown too large. -/
def cleanIfFull (s : DbConnection σ × DbCacheMgr) (szDataName : String)
    (c : DbCache) (nSize : Int32) : DbConnection σ × DbCacheMgr :=
  let (conn, s) := s
  let s := { s with
    nDataSize := s.nDataSize - nSize.toInt64 + c.nDataSize.toInt64 }
  if env.nMaxCacheSize < s.nDataSize then
    let (nClean, c, tickers, conn) :=
      c.cleanData env s.tickerMgr conn (s.choices 0)
    (conn,
      { s.setCache szDataName c tickers with
        nDataSize := s.nDataSize - nClean.toInt64
        choices := fun i => s.choices (i + 1) })
  else
    (conn, s)

/-- `setData`. -/
def setData (s : DbConnection σ × DbCacheMgr) (nID : UInt64)
    (pData : Message) : Bool × DbConnection σ × DbCacheMgr :=
  let szDataName := pData.descriptor.typeName
  match s.2.mapCache.lookup szDataName with
  | none => (false, s)
  | some c =>
      let (ok, c', tickers) := c.setData env s.2.tickerMgr nID pData
      let s := (s.1, s.2.setCache szDataName c' tickers)
      (ok, if ok then cleanIfFull env s szDataName c' c.nDataSize else s)

/-- `addData`. -/
def addData (s : DbConnection σ × DbCacheMgr) (nID : UInt64)
    (pData : Message) : Bool × DbConnection σ × DbCacheMgr :=
  let szDataName := pData.descriptor.typeName
  match s.2.mapCache.lookup szDataName with
  | none => (false, s)
  | some c =>
      let (ok, c') := c.addData env nID pData
      let s := (s.1, s.2.setCache szDataName c' s.2.tickerMgr)
      (ok, if ok then cleanIfFull env s szDataName c' c.nDataSize else s)

/-- `delData`. -/
def delData (s : DbCacheMgr) (nID : UInt64) (szDataName : String) :
    Bool × DbCacheMgr :=
  match s.mapCache.lookup szDataName with
  | none => (false, s)
  | some c =>
      let (ok, c', tickers) := c.delData s.tickerMgr nID
      let s := s.setCache szDataName c' tickers
      let nDataSize :=
        s.nDataSize - c.nDataSize.toInt64 + c'.nDataSize.toInt64
      (ok, if ok then { s with nDataSize := nDataSize } else s)

section

variable {env} {s : DbConnection σ × DbCacheMgr} {nID : UInt64} {m : Message}
  {c : DbCache}

theorem setData_of_no_cache
    (h : s.2.mapCache.lookup m.descriptor.typeName = none) :
    setData env s nID m = (false, s) := by
  unfold setData
  dsimp only
  rw [h]

theorem setData_of_false {c' : DbCache} {tickers : TickerMgr CacheTicker}
    (h : s.2.mapCache.lookup m.descriptor.typeName = some c)
    (hset : c.setData env s.2.tickerMgr nID m = (false, c', tickers)) :
    setData env s nID m =
      (false, s.1, s.2.setCache m.descriptor.typeName c' tickers) := by
  unfold setData
  dsimp only
  rw [h]
  dsimp only
  rw [hset]
  rfl

theorem setData_of_true {c' : DbCache} {tickers : TickerMgr CacheTicker}
    (h : s.2.mapCache.lookup m.descriptor.typeName = some c)
    (hset : c.setData env s.2.tickerMgr nID m = (true, c', tickers)) :
    setData env s nID m =
      (true, cleanIfFull env
        (s.1, s.2.setCache m.descriptor.typeName c' tickers)
        m.descriptor.typeName c' c.nDataSize) := by
  unfold setData
  dsimp only
  rw [h]
  dsimp only
  rw [hset]
  rfl

theorem addData_of_no_cache
    (h : s.2.mapCache.lookup m.descriptor.typeName = none) :
    addData env s nID m = (false, s) := by
  unfold addData
  dsimp only
  rw [h]

theorem addData_of_false {c' : DbCache}
    (h : s.2.mapCache.lookup m.descriptor.typeName = some c)
    (hadd : c.addData env nID m = (false, c')) :
    addData env s nID m =
      (false, s.1, s.2.setCache m.descriptor.typeName c' s.2.tickerMgr) := by
  unfold addData
  dsimp only
  rw [h]
  dsimp only
  rw [hadd]
  rfl

theorem addData_of_true {c' : DbCache}
    (h : s.2.mapCache.lookup m.descriptor.typeName = some c)
    (hadd : c.addData env nID m = (true, c')) :
    addData env s nID m =
      (true, cleanIfFull env
        (s.1, s.2.setCache m.descriptor.typeName c' s.2.tickerMgr)
        m.descriptor.typeName c' c.nDataSize) := by
  unfold addData
  dsimp only
  rw [h]
  dsimp only
  rw [hadd]
  rfl

end

section

variable {s : DbCacheMgr} {szDataName : String} {nID : UInt64} {c : DbCache}

theorem delData_of_no_cache (h : s.mapCache.lookup szDataName = none) :
    s.delData nID szDataName = (false, s) := by
  unfold delData
  rw [h]

theorem delData_of_not_mem (h : s.mapCache.lookup szDataName = some c)
    (hnew : nID ∉ c.mapCacheInfo) :
    s.delData nID szDataName = (false, s.setCache szDataName c s.tickerMgr) := by
  unfold delData
  rw [h]
  dsimp only
  rw [DbCache.delData_of_not_mem hnew]
  rfl

theorem delData_of_lookup {info : CacheInfo}
    (h : s.mapCache.lookup szDataName = some c)
    (hinfo : c.mapCacheInfo.lookup nID = some info) :
    s.delData nID szDataName =
      (true, { s.setCache szDataName (c.erase s.tickerMgr nID info).1
          (c.erase s.tickerMgr nID info).2 with
        nDataSize := s.nDataSize - c.nDataSize.toInt64 +
          (c.erase s.tickerMgr nID info).1.nDataSize.toInt64 }) := by
  unfold delData
  rw [h]
  dsimp only
  rw [DbCache.delData_of_lookup hinfo]
  rfl

end

/-- The names of the caches, in the order of the map. -/
def names (s : DbCacheMgr) : List String :=
  s.mapCache.keys.mergeSort fun a b => a ≤ b

/-- `flush` of the cache with the given name. -/
def flushName (s : DbCacheMgr) (conn : DbConnection σ) (szDataName : String) :
    DbConnection σ :=
  match s.mapCache.lookup szDataName with
  | none => conn
  | some c => c.flush env conn

/-- `flushCache`. -/
def flushCache (s : DbConnection σ × DbCacheMgr) :
    DbConnection σ × DbCacheMgr :=
  (s.2.names.foldl (s.2.flushName env) s.1, s.2)

/-! ## The tickers -/

/-- The callback of a ticker. -/
def onTicker (s : DbConnection σ × DbCacheMgr) (ticker : CacheTicker)
    (nContext : UInt64) : DbConnection σ :=
  match s.2.mapCache.lookup ticker.szDataName with
  | none => s.1
  | some c => (c.onBackup env nContext s.1).2

/-- The step relation of an update of the tickers. -/
inductive UpdateStep : DbConnection σ × DbCacheMgr →
    TickerMgr.Label CacheTicker → DbConnection σ × DbCacheMgr → Prop
  | tick {s : DbConnection σ × DbCacheMgr}
      {l : TickerMgr.Label CacheTicker} {t : TickerMgr CacheTicker}
      (hquiet : isUpdateTick l)
      (htick : TickerMgr.Step s.2.tickerMgr l t) :
      UpdateStep s l (s.1, { s.2 with tickerMgr := t })
  | fire {s : DbConnection σ × DbCacheMgr} {id time : ℕ}
      {ticker : CacheTicker} {nContext : UInt64}
      {t : TickerMgr CacheTicker}
      (htick : TickerMgr.Step s.2.tickerMgr
        (.dispatch id ticker nContext time) t) :
      UpdateStep s (.dispatch id ticker nContext time)
        (onTicker env s ticker nContext, { s.2 with tickerMgr := t })

/-- An update of the tickers that has begun. -/
def updateSystem : TransitionSystem (DbConnection σ × DbCacheMgr)
    (TickerMgr.Label CacheTicker) where
  init _ := True
  step := UpdateStep env

/-- `update`, at the given time. -/
def Update (nCurTime : ℕ) (s s' : DbConnection σ × DbCacheMgr) : Prop :=
  s'.2.tickerMgr.phase = .idle ∧
    ∃ ls, (updateSystem env).Run
      (s.1, { s.2 with tickerMgr := s.2.tickerMgr.setPhase (.loop nCurTime) })
      ls s'

end DbCacheMgr

/-! ## The cache at work -/

section

variable {σ : Type*} (env : CacheEnv σ)

/-- `onPreCache`. -/
def onPreCache (command : DbCommand) (s : DbConnection σ × DbCacheMgr) :
    Bool × Option DbResponse × DbConnection σ × DbCacheMgr :=
  if DbCacheMgr.enableCache env then
    match command with
    | .select id tableName =>
        match s.2.getData env id (getMessageNameByTableName tableName) with
        | some pMessage => (true, some (.record pMessage), s)
        | none => (false, none, s)
    | .update m =>
        match getPrimaryValue m with
        | none => (false, none, s)
        | some nID =>
            let (ok, s) := DbCacheMgr.setData env s nID m
            (ok, none, s)
    | .delete id tableName =>
        (false, none, s.1,
          (s.2.delData id (getMessageNameByTableName tableName)).2)
    | _ => (false, none, s)
  else
    (false, none, s)

/-- `onPostCache`, after a command that succeeded. -/
def onPostCache (command : DbCommand) (response : Option DbResponse)
    (s : DbConnection σ × DbCacheMgr) : DbConnection σ × DbCacheMgr :=
  if DbCacheMgr.enableCache env then
    match command, response with
    | .select id _, some (.record m) => (DbCacheMgr.setData env s id m).2
    | .insert m, _ =>
        match getPrimaryValue m with
        | none => s
        | some nID => (DbCacheMgr.addData env s nID m).2
    | _, _ => s
  else
    s

/-- The cache of a thread.  At the start of `onProcess` the connection is
pinged or opened again, which may do to the client what `ping` allows. -/
def dbCache (ping : σ → σ → Prop) : CacheOps σ DbCacheMgr where
  beginProcess s s' := ∃ conn nCurTime,
    ping s.1.mysql conn.mysql ∧ conn.replies = s.1.replies ∧
      DbCacheMgr.Update env nCurTime (conn, s.2) s'
  onPreCache := onPreCache env
  onPostCache := onPostCache env
  flushCache := DbCacheMgr.flushCache env

end

end RealtimeEx.Db
