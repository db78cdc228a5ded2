import Mathlib.Data.List.AList
import RealtimeEx.Base.TickerMgr
import RealtimeEx.Db.DbCommandHandler

/-!
# The write-back cache of one table

This file models `CDbCache`: the records of one message type in serialized
form, each with a ticker that writes it back some time after it was updated.
The cache evicts a record when the manager asks it to.

The cache works on the ticker manager and the connection of its thread, which
are passed along.  The two ways in which the protobuf library turns a message
into bytes and back are parameters.
-/

namespace RealtimeEx.Db

open RealtimeEx.Base

/-- The ticker of a cached record.  The tickers of a cache are numbered in the
order in which they are made. -/
structure CacheTicker where
  szDataName : String
  number : ℕ
  deriving DecidableEq, Repr

/-- What the cache works with: the handlers, the codec of the protobuf library
and `SDbOptions`. -/
structure CacheEnv (σ : Type*) extends HandlerEnv σ where
  serialize : Message → Option Bytes
  parse : Descriptor → Bytes → Option Message
  nMaxCacheSize : Int64
  nCacheWritebackTime : UInt32

/-- `SCacheInfo`, with the number of its ticker. -/
structure CacheInfo where
  szData : Bytes
  ticker : ℕ

/-- `(int32_t)szData.size()`. -/
def CacheInfo.nSize (info : CacheInfo) : Int32 := Int32.ofNat info.szData.length

/-- `CDbCache`.  The order of the map is that in which it is iterated. -/
structure DbCache where
  szDataName : String
  mapCacheInfo : AList fun _ : UInt64 => CacheInfo
  nDataSize : Int32
  nextTicker : ℕ

/-! ## Merging messages -/

/-- The loop of `setData` over the fields of the source: the fields that are
set are copied, and the kinds it does not know end it. -/
def mergeFields (src : Message) : List FieldDescriptor → Message →
    Option Message
  | [], dst => some dst
  | f :: fs, dst => do
      let g ← dst.descriptor.findFieldByName f.name
      match src.field f.name with
      | none => mergeFields src fs dst
      | some v =>
          match f.type with
          | .bool | .enum | .group => none
          | _ => mergeFields src fs (dst.setField g.name v)

/-- The fields of `src` are copied into `dst`. -/
def mergeData (src dst : Message) : Option Message :=
  mergeFields src src.descriptor.fields dst

namespace DbCache

variable {σ : Type*} (env : CacheEnv σ)

/-- A cache without records. -/
def initial (szDataName : String) : DbCache where
  szDataName := szDataName
  mapCacheInfo := ∅
  nDataSize := 0
  nextTicker := 0

/-- The ticker of a record. -/
def tickerOf (c : DbCache) (info : CacheInfo) : CacheTicker :=
  ⟨c.szDataName, info.ticker⟩

/-- The message a record stands for. -/
def message (c : DbCache) (szData : Bytes) : Option Message := do
  let d ← env.schema.descriptor c.szDataName
  env.parse d szData

/-- `getData`. -/
def getData (c : DbCache) (nID : UInt64) : Option Message := do
  let info ← c.mapCacheInfo.lookup nID
  c.message env info.szData

/-- `addData`. -/
def addData (c : DbCache) (nID : UInt64) (pData : Message) : Bool × DbCache :=
  if nID ∈ c.mapCacheInfo then
    (false, c)
  else
    match env.serialize pData with
    | none => (false, c)
    | some szData =>
        (true,
          { c with
            mapCacheInfo := c.mapCacheInfo.insert nID ⟨szData, c.nextTicker⟩
            nDataSize := c.nDataSize + Int32.ofNat szData.length
            nextTicker := c.nextTicker + 1 })

/-- The serialized form of a record after an update. -/
def mergedData (c : DbCache) (info : CacheInfo) (pData : Message) :
    Option Bytes := do
  let dst ← c.message env info.szData
  let dst ← mergeData pData dst
  env.serialize dst

/-- `setData`.  An update of a record that is not cached only adds it, so that
the update still goes to the database. -/
def setData (c : DbCache) (tickers : TickerMgr CacheTicker) (nID : UInt64)
    (pData : Message) : Bool × DbCache × TickerMgr CacheTicker :=
  match c.mapCacheInfo.lookup nID with
  | none => (false, (c.addData env nID pData).2, tickers)
  | some info =>
      match c.mergedData env info pData with
      | none => (false, c, tickers)
      | some szData =>
          (true,
            { c with
              mapCacheInfo :=
                c.mapCacheInfo.insert nID { info with szData := szData }
              nDataSize := c.nDataSize - info.nSize + Int32.ofNat szData.length },
            if (tickers.coreContext (c.tickerOf info)).isSome then tickers
            else
              tickers.registerTicker (c.tickerOf info)
                env.nCacheWritebackTime.toNat 0 0)

/-- A record is erased together with its ticker. -/
def erase (c : DbCache) (tickers : TickerMgr CacheTicker) (nID : UInt64)
    (info : CacheInfo) : DbCache × TickerMgr CacheTicker :=
  ({ c with
      mapCacheInfo := c.mapCacheInfo.erase nID
      nDataSize := c.nDataSize - info.nSize },
    tickers.unregisterTicker (c.tickerOf info))

/-- `delData`. -/
def delData (c : DbCache) (tickers : TickerMgr CacheTicker) (nID : UInt64) :
    Bool × DbCache × TickerMgr CacheTicker :=
  match c.mapCacheInfo.lookup nID with
  | none => (false, c, tickers)
  | some info => (true, c.erase tickers nID info)

/-- `onBackup`, with the result code of the update. -/
def onBackup (c : DbCache) (nContext : UInt64) (conn : DbConnection σ) :
    Option UInt32 × DbConnection σ :=
  match c.getData env nContext with
  | none => (none, conn)
  | some pMessage =>
      let (nErrorCode, conn) := updateHandler env.toHandlerEnv pMessage conn
      (some nErrorCode, conn)

/-- `flush`. -/
def flush (c : DbCache) (conn : DbConnection σ) : DbConnection σ :=
  c.mapCacheInfo.keys.foldl (fun conn nID => (c.onBackup env nID conn).2) conn

/-- `cleanData`.  The record is chosen at random; `none` is a choice of empty
buckets only. -/
def cleanData (c : DbCache) (tickers : TickerMgr CacheTicker)
    (conn : DbConnection σ) (choice : Option UInt64) :
    Int32 × DbCache × TickerMgr CacheTicker × DbConnection σ :=
  match choice.bind fun nID =>
      (c.mapCacheInfo.lookup nID).map fun info => (nID, info) with
  | none => (0, c, tickers, conn)
  | some (nID, info) =>
      let conn :=
        if (tickers.coreContext (c.tickerOf info)).isSome then
          (c.onBackup env nID conn).2
        else
          conn
      let (c, tickers) := c.erase tickers nID info
      (info.nSize, c, tickers, conn)

/-! ## What the operations do -/

section

variable {env} {c : DbCache} {tickers : TickerMgr CacheTicker} {nID : UInt64} {m : Message}

theorem lookup_eq_none_iff : c.mapCacheInfo.lookup nID = none ↔ nID ∉ c.mapCacheInfo := by
  rw [← AList.lookup_isSome, Option.not_isSome_iff_eq_none]

theorem mem_of_lookup {info : CacheInfo} (h : c.mapCacheInfo.lookup nID = some info) :
    nID ∈ c.mapCacheInfo := by
  rw [← AList.lookup_isSome, h]
  rfl

theorem addData_of_mem (h : nID ∈ c.mapCacheInfo) : c.addData env nID m = (false, c) :=
  if_pos h

theorem addData_of_none (h : env.serialize m = none) : c.addData env nID m = (false, c) := by
  unfold addData
  rw [h, ite_self]

/-- A cache with one more record. -/
def added (c : DbCache) (nID : UInt64) (szData : Bytes) : DbCache :=
  { c with
    mapCacheInfo := c.mapCacheInfo.insert nID ⟨szData, c.nextTicker⟩
    nDataSize := c.nDataSize + Int32.ofNat szData.length
    nextTicker := c.nextTicker + 1 }

/-- A cache one of whose records has other bytes. -/
def replaced (c : DbCache) (nID : UInt64) (info : CacheInfo) (szData : Bytes) :
    DbCache :=
  { c with
    mapCacheInfo := c.mapCacheInfo.insert nID { info with szData := szData }
    nDataSize := c.nDataSize - info.nSize + Int32.ofNat szData.length }

theorem addData_of_some {szData : Bytes} (hnew : nID ∉ c.mapCacheInfo)
    (h : env.serialize m = some szData) :
    c.addData env nID m = (true, c.added nID szData) := by
  unfold addData
  rw [if_neg hnew, h]
  rfl

theorem setData_of_not_mem (hnew : nID ∉ c.mapCacheInfo) :
    c.setData env tickers nID m = (false, (c.addData env nID m).2, tickers) := by
  unfold setData
  rw [lookup_eq_none_iff.mpr hnew]

theorem setData_of_none {info : CacheInfo} (hinfo : c.mapCacheInfo.lookup nID = some info)
    (h : c.mergedData env info m = none) :
    c.setData env tickers nID m = (false, c, tickers) := by
  unfold setData
  rw [hinfo]
  dsimp only
  rw [h]

/-- An update of a cached record replaces its bytes. -/
theorem setData_of_some {info : CacheInfo} {szData : Bytes}
    (hinfo : c.mapCacheInfo.lookup nID = some info)
    (h : c.mergedData env info m = some szData) :
    ∃ tickers', c.setData env tickers nID m =
      (true, c.replaced nID info szData, tickers') := by
  unfold setData
  rw [hinfo]
  dsimp only
  rw [h]
  exact ⟨_, rfl⟩

theorem delData_of_not_mem (hnew : nID ∉ c.mapCacheInfo) :
    c.delData tickers nID = (false, c, tickers) := by
  unfold delData
  rw [lookup_eq_none_iff.mpr hnew]

theorem delData_of_lookup {info : CacheInfo} (hinfo : c.mapCacheInfo.lookup nID = some info) :
    c.delData tickers nID = (true, c.erase tickers nID info) := by
  unfold delData
  rw [hinfo]

end

end DbCache

end RealtimeEx.Db
