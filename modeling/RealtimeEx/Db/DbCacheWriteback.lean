import Mathlib.Algebra.Order.Ring.Int
import RealtimeEx.Base.TickerMgrContext
import RealtimeEx.Base.TickerMgrSound
import RealtimeEx.Db.DbCacheFailure

/-!
# Writing back what was updated

An update of a cached record is acknowledged without a statement, and a ticker writes
the record back later.  The ticker is registered with the context zero, and `onBackup`
takes the context for the id of the record: only the record with the id zero is
written back.  A write-back that fails is not tried again.
-/

namespace RealtimeEx.Db

open RealtimeEx.Base

variable {σ : Type*}

/-! ## A cache beside its database -/

/-- A cache with the tickers and the connection of its thread.  `row` is what the
database holds of each record, and `lost` are the records that have been taken out of
the cache although the database did not hold them. -/
structure Writeback (σ : Type*) where
  cache : DbCache
  tickers : TickerMgr CacheTicker
  conn : DbConnection σ
  row : UInt64 → Option Bytes
  lost : UInt64 → Prop

/-- What happens to a cache.  A record that is added has been read from the database, or
is written there by a statement beside the call, which may fail: `bStored` is whether
the database holds it.  `stores` is any other statement that changes a row. -/
inductive WritebackCall
  | addData (nID : UInt64) (pData : Message) (bStored : Bool)
  | setData (nID : UInt64) (pData : Message) (bStored : Bool)
  | delData (nID : UInt64)
  | cleanData (choice : Option UInt64)
  | flush
  | fire (ticker : CacheTicker) (nContext : UInt64)
  | tick
  | stores (nID : UInt64) (szData : Option Bytes)
  | connection

namespace DbCache

/-- `onBackup` of a record, and the row that an update with success has written. -/
def backup (env : CacheEnv σ) (c : DbCache) (s : DbConnection σ × (UInt64 → Option Bytes))
    (nID : UInt64) : DbConnection σ × (UInt64 → Option Bytes) :=
  ((c.onBackup env nID s.1).2,
    if (c.onBackup env nID s.1).1 = some eDBRC_OK then
      Function.update s.2 nID ((c.mapCacheInfo.lookup nID).map CacheInfo.szData)
    else
      s.2)

/-- The rows hold the cached records, or what they held before. -/
def RowsBacked (c : DbCache) (row row' : UInt64 → Option Bytes) : Prop :=
  ∀ nID info, c.mapCacheInfo.lookup nID = some info →
    row' nID = row nID ∨ row' nID = some info.szData

theorem rowsBacked_backup (env : CacheEnv σ) (c : DbCache)
    (s : DbConnection σ × (UInt64 → Option Bytes)) (nID : UInt64) :
    c.RowsBacked s.2 (c.backup env s nID).2 := by
  intro nID' info hinfo
  unfold backup
  dsimp only
  split
  · by_cases heq : nID' = nID
    · rw [← heq, Function.update_self, hinfo]
      exact Or.inr rfl
    · rw [Function.update_of_ne heq]
      exact Or.inl rfl
  · exact Or.inl rfl

theorem rowsBacked_foldl_backup (env : CacheEnv σ) (c : DbCache) (nIDs : List UInt64)
    (s : DbConnection σ × (UInt64 → Option Bytes)) :
    c.RowsBacked s.2 (nIDs.foldl (c.backup env) s).2 := by
  induction nIDs generalizing s with
  | nil => exact fun _ _ _ => Or.inl rfl
  | cons nID nIDs ih =>
      intro nID' info hinfo
      rcases ih (c.backup env s nID) nID' info hinfo with hrest | hrest
      · rw [List.foldl_cons, hrest]
        exact rowsBacked_backup env c s nID nID' info hinfo
      · exact Or.inr hrest

/-- A backup with success writes the record. -/
theorem backup_of_ok {env : CacheEnv σ} {c : DbCache} {s : DbConnection σ × (UInt64 → Option Bytes)}
    {nID : UInt64} {info : CacheInfo} (hinfo : c.mapCacheInfo.lookup nID = some info)
    (hok : (c.onBackup env nID s.1).1 = some eDBRC_OK) :
    (c.backup env s nID).2 nID = some info.szData := by
  unfold backup
  dsimp only
  rw [if_pos hok, Function.update_self, hinfo]
  rfl

/-- A backup that fails writes nothing. -/
theorem backup_of_not_ok {env : CacheEnv σ} {c : DbCache}
    {s : DbConnection σ × (UInt64 → Option Bytes)} {nID : UInt64}
    (hfail : (c.onBackup env nID s.1).1 ≠ some eDBRC_OK) : (c.backup env s nID).2 = s.2 :=
  if_neg hfail

end DbCache

namespace Writeback

variable (env : CacheEnv σ)

/-- The rows after the call of `addData` or `setData`. -/
def rowAdded (s : Writeback σ) (nID : UInt64) (pData : Message) (bStored : Bool) :
    UInt64 → Option Bytes :=
  if bStored ∧ nID ∉ s.cache.mapCacheInfo ∧ (env.serialize pData).isSome then
    Function.update s.row nID (env.serialize pData)
  else
    s.row

/-- The rows after `cleanData`: a record whose ticker is registered is written back. -/
def rowCleaned (s : Writeback σ) (choice : Option UInt64) : UInt64 → Option Bytes :=
  match choice.bind fun nID =>
      (s.cache.mapCacheInfo.lookup nID).map fun info => (nID, info) with
  | none => s.row
  | some (nID, info) =>
      if (s.tickers.coreContext (s.cache.tickerOf info)).isSome then
        (s.cache.backup env (s.conn, s.row) nID).2
      else
        s.row

/-- The effects of the calls.  The thread uses the cache between two updates of the
tickers, and nobody else touches the tickers of the cache. -/
inductive Does (s : Writeback σ) : WritebackCall → Writeback σ → Prop
  | addData {nID : UInt64} {pData : Message} {bStored : Bool}
      (hidle : s.tickers.phase = .idle) :
      Does s (.addData nID pData bStored)
        { s with
          cache := (s.cache.addData env nID pData).2
          row := s.rowAdded env nID pData bStored }
  | setData {nID : UInt64} {pData : Message} {bStored : Bool}
      (hidle : s.tickers.phase = .idle) :
      Does s (.setData nID pData bStored)
        { s with
          cache := (s.cache.setData env s.tickers nID pData).2.1
          tickers := (s.cache.setData env s.tickers nID pData).2.2
          row := s.rowAdded env nID pData bStored }
  | delData {nID : UInt64} (hidle : s.tickers.phase = .idle) :
      Does s (.delData nID)
        { s with
          cache := (s.cache.delData s.tickers nID).2.1
          tickers := (s.cache.delData s.tickers nID).2.2 }
  | cleanData {choice : Option UInt64} (hidle : s.tickers.phase = .idle) :
      Does s (.cleanData choice)
        { s with
          cache := (s.cache.cleanData env s.tickers s.conn choice).2.1
          tickers := (s.cache.cleanData env s.tickers s.conn choice).2.2.1
          conn := (s.cache.cleanData env s.tickers s.conn choice).2.2.2
          row := s.rowCleaned env choice }
  | flush (hidle : s.tickers.phase = .idle) :
      Does s .flush
        { s with
          conn := s.cache.flush env s.conn
          row := (s.cache.mapCacheInfo.keys.foldl (s.cache.backup env) (s.conn, s.row)).2 }
  | fire {id time : ℕ} {ticker : CacheTicker} {nContext : UInt64}
      {t : TickerMgr CacheTicker}
      (htick : TickerMgr.Step s.tickers (.dispatch id ticker nContext time) t)
      (hown : ticker.szDataName = s.cache.szDataName) :
      Does s (.fire ticker nContext)
        { s with
          tickers := t
          conn := (s.cache.backup env (s.conn, s.row) nContext).1
          row := (s.cache.backup env (s.conn, s.row) nContext).2 }
  | tick {l : TickerMgr.Label CacheTicker} {t : TickerMgr CacheTicker}
      (htick : TickerMgr.Step s.tickers l t)
      (hspares : ∀ ticker : CacheTicker, ticker.szDataName = s.cache.szDataName →
        l.Spares ticker) :
      Does s .tick { s with tickers := t }
  | stores {nID : UInt64} {szData : Option Bytes} :
      Does s (.stores nID szData) { s with row := Function.update s.row nID szData }
  | connection {conn : DbConnection σ} : Does s .connection { s with conn := conn }

/-- A cached record that differs from its database row. -/
def Dirty (s : Writeback σ) (nID : UInt64) (info : CacheInfo) : Prop :=
  s.cache.mapCacheInfo.lookup nID = some info ∧ s.row nID ≠ some info.szData

/-- The records that the call has lost are noted. -/
def note (s t : Writeback σ) : Writeback σ :=
  { t with
    lost := fun nID => s.lost nID ∨ ∃ info, s.Dirty nID info ∧
      nID ∉ t.cache.mapCacheInfo ∧ t.row nID ≠ some info.szData }

/-- A cache that is empty at first, beside a database with any rows. -/
def system (szDataName : String) : TransitionSystem (Writeback σ) WritebackCall where
  init s := s.cache = .initial szDataName ∧ (∃ time, s.tickers = .initial false time) ∧
    ∀ nID, ¬ s.lost nID
  step s l t := ∃ t', Does env s l t' ∧ t = s.note t'

/-! ## What should hold -/

/-- The write-back of a record is pending: its ticker is registered, and when it fires it is
given a context that is the id of the record. -/
def Pending (s : Writeback σ) (nID : UInt64) (info : CacheInfo) : Prop :=
  ∃ id n, s.tickers.coreContext (s.cache.tickerOf info) = some id ∧
    s.tickers.node id = some n ∧
      (s.tickers.beginDispatch id n (s.cache.tickerOf info)).dispatchContext n
        (s.cache.tickerOf info) = nID

/-- Every record that differs from its row has a pending write-back, and none was lost. -/
structure Safe (s : Writeback σ) : Prop where
  pending : ∀ nID info, s.Dirty nID info → s.Pending nID info
  kept : ∀ nID, ¬ s.lost nID

/-- A call that loses no update: what is added is stored, only the record with the id zero
is updated, no dirty record is deleted, and a dirty record is written back with success
when it is evicted and when its ticker fires. -/
def Keeps (s : Writeback σ) : WritebackCall → Prop
  | .addData nID pData bStored => ∀ szData, nID ∉ s.cache.mapCacheInfo →
      env.serialize pData = some szData → bStored ∨ s.row nID = some szData
  | .setData nID pData bStored =>
      (∀ szData, nID ∉ s.cache.mapCacheInfo →
        env.serialize pData = some szData → bStored ∨ s.row nID = some szData) ∧
      ∀ info szData, s.cache.mapCacheInfo.lookup nID = some info →
        s.cache.mergedData env info pData = some szData →
          nID = 0 ∨ s.row nID = some szData
  | .delData nID => ∀ info, ¬ s.Dirty nID info
  | .cleanData choice => ∀ nID info, choice = some nID → s.Dirty nID info →
      (s.cache.onBackup env nID s.conn).1 = some eDBRC_OK
  | .fire ticker _ => ∀ info, s.Dirty 0 info → s.cache.tickerOf info = ticker →
      (s.cache.onBackup env 0 s.conn).1 = some eDBRC_OK
  | .stores nID szData => ∀ info, s.cache.mapCacheInfo.lookup nID = some info →
      szData = some info.szData ∨
        nID = 0 ∧ (s.tickers.coreContext (s.cache.tickerOf info)).isSome
  | _ => True

end Writeback

end RealtimeEx.Db
