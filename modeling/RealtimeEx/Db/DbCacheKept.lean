import Mathlib.Algebra.Order.Ring.Int
import RealtimeEx.Db.DbCachePending

/-!
# Updates that are not lost

A cache loses no update as long as only the record with the id zero is updated in it, a
deleted record is not dirty, and no write-back fails.  A single call that does anything
else loses one.
-/

namespace RealtimeEx.Db

open RealtimeEx.Base

variable {σ : Type*}

namespace Writeback

variable {env : CacheEnv σ} {s t : Writeback σ} {nID : UInt64} {info : CacheInfo}
  {pData : Message} {bStored : Bool}

/-! ## The rows after a record was added -/

theorem rowAdded_of_mem (hmem : nID ∈ s.cache.mapCacheInfo) :
    s.rowAdded env nID pData bStored = s.row :=
  if_neg fun h => h.2.1 hmem

theorem rowAdded_of_none (hdata : env.serialize pData = none) :
    s.rowAdded env nID pData bStored = s.row := by
  refine if_neg fun h => ?_
  rw [hdata] at h
  cases h.2.2

theorem rowAdded_of_stored {szData : Bytes} (hnew : nID ∉ s.cache.mapCacheInfo)
    (hdata : env.serialize pData = some szData) :
    s.rowAdded env nID pData true = Function.update s.row nID (some szData) := by
  unfold rowAdded
  rw [hdata]
  exact if_pos ⟨rfl, hnew, rfl⟩

theorem rowAdded_of_refused :
    s.rowAdded env nID pData false = s.row :=
  if_neg fun h => Bool.false_ne_true h.1

/-! ## What is dirty -/

theorem Dirty.mem (h : s.Dirty nID info) : nID ∈ s.cache.mapCacheInfo :=
  DbCache.mem_of_lookup h.1

/-- A dirty record has a registered ticker and the id zero. -/
theorem Safe.of_dirty (hs : s.Safe) (hsound : s.cache.TickersSound s.tickers)
    (hdirty : s.Dirty nID info) :
    (s.tickers.coreContext (s.cache.tickerOf info)).isSome ∧ nID = 0 :=
  (pending_iff hsound).mp (hs.pending nID info hdirty)

/-- Nothing is lost by a call if what is dirty afterwards is pending, and what was dirty
is still cached or has been written. -/
theorem Safe.of_call (hs : s.Safe) (ht : t.cache.TickersSound t.tickers)
    (hdirty : ∀ nID info, t.Dirty nID info →
      (t.tickers.coreContext (t.cache.tickerOf info)).isSome ∧ nID = 0)
    (hkept : ∀ nID info, s.Dirty nID info → nID ∉ t.cache.mapCacheInfo →
      t.row nID = some info.szData) : (s.note t).Safe where
  pending nID info h := (pending_iff (s := s.note t) ht).mpr (hdirty nID info h)
  kept nID := by
    rintro (hlost | ⟨info, h, hgone, hrow⟩)
    · exact hs.kept nID hlost
    · exact hrow (hkept nID info h hgone)

/-- The record has not been lost by the call. -/
theorem Safe.row_eq (ht : (s.note t).Safe) (hdirty : s.Dirty nID info)
    (hgone : nID ∉ t.cache.mapCacheInfo) : t.row nID = some info.szData := by
  by_contra hrow
  exact ht.kept nID (Or.inr ⟨info, hdirty, hgone, hrow⟩)

/-! ## One call -/

section

variable (hs : s.Safe) (hsound : s.cache.TickersSound s.tickers)

include hs hsound

/-- A record that is added is stored. -/
theorem safe_added
    (hstored : ∀ szData, nID ∉ s.cache.mapCacheInfo → env.serialize pData = some szData →
      bStored ∨ s.row nID = some szData) :
    (s.note { s with
      cache := (s.cache.addData env nID pData).2
      row := s.rowAdded env nID pData bStored }).Safe := by
  refine hs.of_call (tickersSound_addData env hsound nID pData) ?_ ?_
  · rintro nID' info' ⟨hinfo', hrow'⟩
    dsimp only at hinfo' hrow' ⊢
    by_cases hmem : nID ∈ s.cache.mapCacheInfo
    · rw [DbCache.addData_of_mem hmem] at hinfo' ⊢
      rw [rowAdded_of_mem hmem] at hrow'
      exact hs.of_dirty hsound ⟨hinfo', hrow'⟩
    · cases hdata : env.serialize pData with
      | none =>
          rw [DbCache.addData_of_none hdata] at hinfo' ⊢
          rw [rowAdded_of_none hdata] at hrow'
          exact hs.of_dirty hsound ⟨hinfo', hrow'⟩
      | some szData =>
          rw [DbCache.addData_of_some hmem hdata] at hinfo' ⊢
          by_cases heq : nID' = nID
          · -- The new record is not dirty.
            rw [heq] at hinfo' hrow'
            obtain rfl :=
              Option.some.inj ((AList.lookup_insert s.cache.mapCacheInfo).symm.trans hinfo')
            cases bStored with
            | true =>
                rw [rowAdded_of_stored hmem hdata, Function.update_self] at hrow'
                exact absurd rfl hrow'
            | false =>
                rw [rowAdded_of_refused] at hrow'
                rcases hstored szData hmem hdata with hfalse | hheld
                · cases hfalse
                · exact absurd hheld hrow'
          · have hold : s.cache.mapCacheInfo.lookup nID' = some info' :=
              (AList.lookup_insert_ne heq).symm.trans hinfo'
            have hsame : s.rowAdded env nID pData bStored nID' = s.row nID' := by
              cases bStored with
              | true => rw [rowAdded_of_stored hmem hdata, Function.update_of_ne heq]
              | false => rw [rowAdded_of_refused]
            rw [hsame] at hrow'
            exact hs.of_dirty hsound ⟨hold, hrow'⟩
  · intro nID' info' hdirty hgone
    refine absurd ?_ hgone
    dsimp only
    by_cases hmem : nID ∈ s.cache.mapCacheInfo
    · rw [DbCache.addData_of_mem hmem]
      exact hdirty.mem
    · cases hdata : env.serialize pData with
      | none =>
          rw [DbCache.addData_of_none hdata]
          exact hdirty.mem
      | some szData =>
          rw [DbCache.addData_of_some hmem hdata]
          exact (AList.mem_insert s.cache.mapCacheInfo).mpr (Or.inr hdirty.mem)

/-- A record that is updated has the id zero or does not change. -/
theorem safe_replaced {szData : Bytes} (hinfo : s.cache.mapCacheInfo.lookup nID = some info)
    (hzero : nID = 0 ∨ s.row nID = some szData) :
    (s.note { s with
      cache := s.cache.replaced nID info szData
      tickers := DbCache.armed env s.tickers (s.cache.tickerOf info) }).Safe := by
  refine hs.of_call (hsound.replaced hinfo) ?_ ?_
  · rintro nID' info' ⟨hinfo', hrow'⟩
    by_cases heq : nID' = nID
    · rw [heq] at hinfo' hrow' ⊢
      obtain rfl :=
        Option.some.inj ((AList.lookup_insert s.cache.mapCacheInfo).symm.trans hinfo')
      exact ⟨DbCache.isSome_armed _, hzero.resolve_right hrow'⟩
    · have hold : s.cache.mapCacheInfo.lookup nID' = some info' :=
        (AList.lookup_insert_ne heq).symm.trans hinfo'
      obtain ⟨hset, hid⟩ := hs.of_dirty hsound ⟨hold, hrow'⟩
      exact ⟨(DbCache.isSome_armed_iff _ _).mpr (Or.inr hset), hid⟩
  · intro nID' info' hdirty hgone
    exact absurd ((AList.mem_insert s.cache.mapCacheInfo).mpr (Or.inr hdirty.mem)) hgone

/-- A record that is erased is not dirty or has been written. -/
theorem safe_erase {conn : DbConnection σ} {row : UInt64 → Option Bytes}
    (hinfo : s.cache.mapCacheInfo.lookup nID = some info)
    (hbacked : s.cache.RowsBacked s.row row)
    (hwritten : s.Dirty nID info → row nID = some info.szData) :
    (s.note { s with
      cache := (s.cache.erase s.tickers nID info).1
      tickers := (s.cache.erase s.tickers nID info).2
      conn := conn
      row := row }).Safe := by
  refine hs.of_call (hsound.erase nID info) ?_ ?_
  · rintro nID' info' ⟨hinfo', hrow'⟩
    have hne : nID' ≠ nID := by
      rintro rfl
      cases (AList.lookup_erase nID' s.cache.mapCacheInfo).symm.trans hinfo'
    have hold : s.cache.mapCacheInfo.lookup nID' = some info' :=
      (AList.lookup_erase_ne hne).symm.trans hinfo'
    have hbefore : row nID' = s.row nID' :=
      (hbacked nID' info' hold).resolve_right hrow'
    obtain ⟨hset, hid⟩ := hs.of_dirty hsound ⟨hold, fun h => hrow' (hbefore.trans h)⟩
    refine ⟨?_, hid⟩
    have hafter := TickerMgr.coreContext_unregisterTicker s.tickers (s.cache.tickerOf info)
    have hother := hsound.tickerOf_ne hinfo hold hne
    have hkept := (congrFun hafter (s.cache.tickerOf info')).trans
      (Function.update_of_ne hother none s.tickers.coreContext)
    exact (congrArg Option.isSome hkept).trans hset
  · intro nID' info' hdirty hgone
    by_cases heq : nID' = nID
    · rw [heq] at hdirty ⊢
      obtain rfl := Option.some.inj (hdirty.1.symm.trans hinfo)
      exact hwritten hdirty
    · exact absurd (AList.mem_erase.mpr ⟨heq, hdirty.mem⟩) hgone

/-- The rows of cached records hold what they held before, or the records. -/
theorem safe_backed {tickers : TickerMgr CacheTicker} {conn : DbConnection σ}
    {row : UInt64 → Option Bytes} (ht : s.cache.TickersSound tickers)
    (hbacked : s.cache.RowsBacked s.row row)
    (hset : ∀ info, s.cache.mapCacheInfo.lookup 0 = some info → row 0 ≠ some info.szData →
      (s.tickers.coreContext (s.cache.tickerOf info)).isSome →
        (tickers.coreContext (s.cache.tickerOf info)).isSome) :
    (s.note { s with tickers := tickers, conn := conn, row := row }).Safe := by
  refine hs.of_call ht ?_ ?_
  · rintro nID' info' ⟨hinfo', hrow'⟩
    have hbefore : row nID' = s.row nID' :=
      (hbacked nID' info' hinfo').resolve_right hrow'
    obtain ⟨hold, rfl⟩ := hs.of_dirty hsound ⟨hinfo', fun h => hrow' (hbefore.trans h)⟩
    exact ⟨hset info' hinfo' hrow' hold, rfl⟩
  · intro nID' info' hdirty hgone
    exact absurd hdirty.mem hgone

end

/-- A call that meets the condition loses no update. -/
theorem Does.safe {l : WritebackCall} (hdoes : Does env s l t) (hs : s.Safe)
    (hsound : s.cache.TickersSound s.tickers) (hkeeps : s.Keeps env l) : (s.note t).Safe := by
  cases hdoes with
  | addData => exact safe_added hs hsound hkeeps
  | @setData nID pData bStored =>
      by_cases hmem : nID ∈ s.cache.mapCacheInfo
      · rw [rowAdded_of_mem hmem]
        obtain ⟨info, hinfo⟩ := Option.isSome_iff_exists.mp (AList.lookup_isSome.mpr hmem)
        cases hdata : s.cache.mergedData env info pData with
        | none =>
            rw [DbCache.setData_of_none hinfo hdata]
            exact safe_backed hs hsound hsound (fun _ _ _ => Or.inl rfl) fun _ _ _ h => h
        | some szData =>
            rw [DbCache.setData_eq_armed hinfo hdata]
            exact safe_replaced hs hsound hinfo (hkeeps.2 info szData hinfo hdata)
      · rw [DbCache.setData_of_not_mem hmem]
        exact safe_added hs hsound hkeeps.1
  | @delData nID =>
      cases hinfo : s.cache.mapCacheInfo.lookup nID with
      | none =>
          rw [DbCache.delData_of_not_mem (DbCache.lookup_eq_none_iff.mp hinfo)]
          exact safe_backed hs hsound hsound (fun _ _ _ => Or.inl rfl) fun _ _ _ h => h
      | some info =>
          rw [DbCache.delData_of_lookup hinfo]
          exact safe_erase hs hsound hinfo (fun _ _ _ => Or.inl rfl) fun h =>
            absurd h (hkeeps info)
  | @cleanData choice =>
      unfold DbCache.cleanData rowCleaned
      cases hchosen : choice.bind fun nID =>
          (s.cache.mapCacheInfo.lookup nID).map fun info => (nID, info) with
      | none =>
          exact safe_backed hs hsound hsound (fun _ _ _ => Or.inl rfl) fun _ _ _ h => h
      | some chosen =>
          obtain ⟨nID, hchoice, hmap⟩ := Option.bind_eq_some_iff.mp hchosen
          obtain ⟨info, hinfo, rfl⟩ := Option.map_eq_some_iff.mp hmap
          dsimp only
          refine safe_erase hs hsound hinfo ?_ fun hdirty => ?_
          · split
            · exact DbCache.rowsBacked_backup env s.cache (s.conn, s.row) nID
            · exact fun _ _ _ => Or.inl rfl
          · rw [if_pos (hs.of_dirty hsound hdirty).1]
            exact DbCache.backup_of_ok hinfo (hkeeps nID info hchoice hdirty)
  | flush =>
      exact safe_backed hs hsound hsound
        (DbCache.rowsBacked_foldl_backup env s.cache _ (s.conn, s.row)) fun _ _ _ h => h
  | @fire id time ticker nContext tickers htick hown =>
      obtain rfl := hsound.context_fire htick hown
      have hbacked := DbCache.rowsBacked_backup env s.cache (s.conn, s.row) 0
      refine safe_backed hs hsound (hsound.fire htick hown) hbacked ?_
      intro info hinfo hrow hset
      rw [hsound.coreContext_fire htick hown, Function.update_of_ne]
      · exact hset
      · -- Had the record's own ticker fired, it would have been written.
        intro heq
        have hbefore := (hbacked 0 info hinfo).resolve_right hrow
        have hok := hkeeps info ⟨hinfo, fun h => hrow (hbefore.trans h)⟩ heq
        exact hrow (DbCache.backup_of_ok hinfo hok)
  | tick htick hspares =>
      refine safe_backed hs hsound (hsound.spared htick hspares) (fun _ _ _ => Or.inl rfl) ?_
      intro info hinfo hrow hset
      rw [TickerMgr.coreContext_step htick (hspares _ rfl)]
      exact hset
  | @stores nID szData =>
      refine hs.of_call hsound ?_ fun nID' info' hdirty hgone => absurd hdirty.mem hgone
      rintro nID' info' ⟨hinfo', hrow'⟩
      dsimp only at hinfo' hrow' ⊢
      by_cases heq : nID' = nID
      · rw [heq] at hinfo' hrow' ⊢
        rw [Function.update_self] at hrow'
        exact ((hkeeps info' hinfo').resolve_left hrow').symm
      · rw [Function.update_of_ne heq] at hrow'
        exact hs.of_dirty hsound ⟨hinfo', hrow'⟩
  | connection =>
      exact safe_backed hs hsound hsound (fun _ _ _ => Or.inl rfl) fun _ _ _ h => h

/-- A call that loses no update meets the condition. -/
theorem Does.keeps {l : WritebackCall} (hdoes : Does env s l t) (hs : s.Safe)
    (hsound : s.cache.TickersSound s.tickers) (ht : (s.note t).Safe) : s.Keeps env l := by
  have hsound' : t.cache.TickersSound t.tickers := hdoes.tickersSound hsound
  -- A record that is added without being stored is dirty, and its ticker is new.
  have hadded : ∀ nID pData bStored szData, nID ∉ s.cache.mapCacheInfo →
      env.serialize pData = some szData → t.cache = (s.cache.addData env nID pData).2 →
        t.tickers = s.tickers → t.row = s.rowAdded env nID pData bStored →
          bStored ∨ s.row nID = some szData := by
    intro nID pData bStored szData hnew hdata hcache htickers hrow
    cases bStored with
    | true => exact Or.inl rfl
    | false =>
        rw [rowAdded_of_refused] at hrow
        rw [DbCache.addData_of_some hnew hdata] at hcache
        right
        by_contra hheld
        have hdirty : (s.note t).Dirty nID ⟨szData, s.cache.nextTicker⟩ := by
          constructor
          · change t.cache.mapCacheInfo.lookup nID = _
            rw [hcache]
            exact AList.lookup_insert s.cache.mapCacheInfo
          · change t.row nID ≠ _
            rw [hrow]
            exact hheld
        have hset := (ht.of_dirty hsound' hdirty).1
        change (t.tickers.coreContext (t.cache.tickerOf _)).isSome = true at hset
        rw [htickers, hcache, hsound.fresh _ rfl le_rfl] at hset
        cases hset
  cases hdoes with
  | @addData nID pData bStored =>
      intro szData hnew hdata
      exact hadded nID pData bStored szData hnew hdata rfl rfl rfl
  | @setData nID pData bStored =>
      constructor
      · intro szData hnew hdata
        refine hadded nID pData bStored szData hnew hdata ?_ ?_ rfl
        · dsimp only
          rw [DbCache.setData_of_not_mem hnew]
        · dsimp only
          rw [DbCache.setData_of_not_mem hnew]
      · intro info szData hinfo hdata
        by_contra! hlost
        rw [DbCache.setData_eq_armed hinfo hdata,
          rowAdded_of_mem (DbCache.mem_of_lookup hinfo)] at ht hsound'
        have hdirty : (s.note { s with
            cache := s.cache.replaced nID info szData
            tickers := DbCache.armed env s.tickers (s.cache.tickerOf info) }).Dirty nID
              { info with szData := szData } :=
          ⟨AList.lookup_insert s.cache.mapCacheInfo, hlost.2⟩
        exact hlost.1 (ht.of_dirty hsound' hdirty).2
  | @delData nID =>
      intro info hdirty
      rw [DbCache.delData_of_lookup hdirty.1] at ht
      refine hdirty.2 (ht.row_eq hdirty ?_)
      exact fun hmem => (AList.mem_erase.mp hmem).1 rfl
  | @cleanData choice =>
      intro nID info hchoice hdirty
      by_contra hfail
      have hchosen : (choice.bind fun nID =>
          (s.cache.mapCacheInfo.lookup nID).map fun info => (nID, info)) = some (nID, info) := by
        rw [hchoice, Option.bind_some, hdirty.1, Option.map_some]
      unfold DbCache.cleanData rowCleaned at ht
      rw [hchosen] at ht
      dsimp only at ht
      have hset := (hs.of_dirty hsound hdirty).1
      rw [if_pos hset, if_pos hset, DbCache.backup_of_not_ok hfail] at ht
      refine hdirty.2 (ht.row_eq hdirty ?_)
      exact fun hmem => (AList.mem_erase.mp hmem).1 rfl
  | @fire id time ticker nContext tickers htick hown =>
      intro info hdirty hticker
      obtain rfl := hsound.context_fire htick hown
      by_contra hfail
      rw [DbCache.backup_of_not_ok hfail] at ht
      have hset := ((pending_iff hsound').mp (ht.pending 0 info hdirty)).1
      change (tickers.coreContext (s.cache.tickerOf info)).isSome = true at hset
      rw [hsound.coreContext_fire htick hown, hticker, Function.update_self] at hset
      cases hset
  | @stores nID szData =>
      intro info hinfo
      by_contra! hlost
      have hdirty : (s.note { s with row := Function.update s.row nID szData }).Dirty nID info := by
        refine ⟨hinfo, ?_⟩
        change Function.update s.row nID szData nID ≠ _
        rw [Function.update_self]
        exact hlost.1
      obtain ⟨hset, hzero⟩ := ht.of_dirty hsound' hdirty
      exact hlost.2 hzero hset
  | flush => trivial
  | tick => trivial
  | connection => trivial

/-! ## Whole runs -/

theorem tickersSound_of_init {szDataName : String} (h : (system env szDataName).init s) :
    s.cache.TickersSound s.tickers := by
  obtain ⟨hcache, ⟨time, htickers⟩, -⟩ := h
  rw [hcache, htickers]
  exact
    { sound := TickerMgr.sound_initial false time
      callback := rfl
      registered := TickerMgr.registered_initial _ false time
      lt := fun _ _ hinfo => by cases hinfo
      unique := fun _ _ _ _ hinfo => by cases hinfo
      fresh := fun _ _ _ => rfl }

theorem safe_of_init {szDataName : String} (h : (system env szDataName).init s) : s.Safe where
  pending nID info hdirty := by
    have hinfo := hdirty.1
    rw [h.1] at hinfo
    cases hinfo
  kept := h.2.2

theorem tickersSound_of_step {szDataName : String} {l : WritebackCall}
    (h : s.cache.TickersSound s.tickers) (hstep : (system env szDataName).step s l t) :
    t.cache.TickersSound t.tickers := by
  obtain ⟨t', hdoes, rfl⟩ := hstep
  exact hdoes.tickersSound h

/-- The runs that lose nothing are those whose calls meet the condition. -/
theorem run_keeps_iff {szDataName : String} {ls : List WritebackCall}
    (hinit : (system env szDataName).init s) :
    ((system env szDataName).guard (Keeps env)).Run s ls t ↔
      ((system env szDataName).within Safe).Run s ls t := by
  refine TransitionSystem.run_guard_iff_run_within
    (I := fun s => s.cache.TickersSound s.tickers) ?_ ?_
    (tickersSound_of_init hinit) (safe_of_init hinit)
  · intro s l t hsound hstep
    exact tickersSound_of_step hsound hstep
  · rintro s l _ hsound hs ⟨t, hdoes, rfl⟩
    exact ⟨hdoes.keeps hs hsound, hdoes.safe hs hsound⟩

/-- Every dirty record has a pending write-back and none was lost, in every state that is
reached by calls that meet the condition. -/
theorem safe_of_reachable (env : CacheEnv σ) (szDataName : String) (s : Writeback σ)
    (hreach : ((system env szDataName).guard (Keeps env)).Reachable s) : s.Safe := by
  suffices h : s.Safe ∧ s.cache.TickersSound s.tickers from h.1
  refine hreach.invariant (I := fun s => s.Safe ∧ s.cache.TickersSound s.tickers) ?_ ?_
  · intro s (hinit : (system env szDataName).init s)
    exact ⟨safe_of_init hinit, tickersSound_of_init hinit⟩
  rintro s l t ⟨hs, hsound⟩ ⟨hstep, hkeeps⟩
  refine ⟨?_, tickersSound_of_step hsound hstep⟩
  obtain ⟨t', hdoes, rfl⟩ := hstep
  exact hdoes.safe hs hsound hkeeps

/-! ## An update that is lost -/

/-- A table with a key and a level. -/
def levelTable : Descriptor where
  typeName := "proto.db.player"
  fields :=
    [{ name := "id", type := .uint64, serializeType := .unknown, required := true },
      { name := "level", type := .uint32, serializeType := .unknown, required := false }]
  primaryKey := "id"

/-- The record with the key zero or one, and with or without the level five. -/
def levelRecord (bKey bLevel : Bool) : Message where
  descriptor := levelTable
  field name :=
    if name = "id" ∧ bKey then some (.uint64 1)
    else if name = "level" ∧ bLevel then some (.uint32 5)
    else none

/-- The record in serialized form. -/
def levelData (bKey bLevel : Bool) : Bytes :=
  (if bKey then [8, 1] else []) ++ if bLevel then [16, 5] else []

/-- The codec of the records of the table. -/
def levelEnv : CacheEnv ℕ where
  fmt := DbThread.plainFormat
  schema := ⟨fun _ => some levelTable, fun _ => none⟩
  client := DbThread.failingClient 1064
  serialize m := some (levelData (m.field "id").isSome (m.field "level").isSome)
  parse _ szData :=
    ([(false, false), (true, false), (false, true), (true, true)].find? fun keys =>
      levelData keys.1 keys.2 = szData).map fun keys => levelRecord keys.1 keys.2
  nMaxCacheSize := 1024
  nCacheWritebackTime := 1000

/-- A cache without records, beside a database without rows. -/
def levelCache : Writeback ℕ where
  cache := .initial "proto.db.player"
  tickers := .initial false 0
  conn := ⟨0, []⟩
  row _ := none
  lost _ := False

/-- The record of an id has been inserted. -/
def levelInserted (nID : UInt64) (bKey : Bool) : Writeback ℕ :=
  levelCache.note { levelCache with
    cache := (levelCache.cache.addData levelEnv nID (levelRecord bKey false)).2
    row := levelCache.rowAdded levelEnv nID (levelRecord bKey false) true }

/-- The record of an id has been inserted and then updated. -/
def levelUpdated (nID : UInt64) (bKey : Bool) : Writeback ℕ :=
  (levelInserted nID bKey).note { levelInserted nID bKey with
    cache := ((levelInserted nID bKey).cache.setData levelEnv (levelInserted nID bKey).tickers nID
      (levelRecord bKey true)).2.1
    tickers := ((levelInserted nID bKey).cache.setData levelEnv (levelInserted nID bKey).tickers
      nID (levelRecord bKey true)).2.2
    row := (levelInserted nID bKey).rowAdded levelEnv nID (levelRecord bKey true) false }

theorem init_levelCache : (system levelEnv "proto.db.player").init levelCache :=
  ⟨rfl, ⟨0, rfl⟩, fun _ h => h⟩

theorem step_levelInserted (nID : UInt64) (bKey : Bool) :
    (system levelEnv "proto.db.player").step levelCache
      (.addData nID (levelRecord bKey false) true) (levelInserted nID bKey) :=
  ⟨_, .addData rfl, rfl⟩

theorem step_levelUpdated (nID : UInt64) (bKey : Bool) :
    (system levelEnv "proto.db.player").step (levelInserted nID bKey)
      (.setData nID (levelRecord bKey true) false) (levelUpdated nID bKey) :=
  ⟨_, .setData rfl, rfl⟩

/-- The update of the record with the id zero is not lost. -/
theorem safe_levelUpdated_zero : (levelUpdated 0 false).Safe := by
  refine safe_of_reachable levelEnv "proto.db.player" (levelUpdated 0 false) ?_
  have hinserted : ((system levelEnv "proto.db.player").guard (Keeps levelEnv)).Reachable
      (levelInserted 0 false) := by
    have hinit : ((system levelEnv "proto.db.player").guard (Keeps levelEnv)).Reachable
        levelCache := .of_init init_levelCache
    exact hinit.step (l := .addData 0 (levelRecord false false) true)
      ⟨step_levelInserted 0 false, fun _ _ _ => Or.inl rfl⟩
  refine hinserted.step (l := .setData 0 (levelRecord false true) false)
    ⟨step_levelUpdated 0 false, ?_, fun _ _ _ _ => Or.inl rfl⟩
  intro szData hnew
  exact absurd (by decide) hnew

/-- The update of the record with the id one will never be written. -/
theorem not_safe_levelUpdated_one :
    ∃ s, (system levelEnv "proto.db.player").Reachable s ∧ ¬ s.Safe := by
  have hreach : (system levelEnv "proto.db.player").Reachable (levelUpdated 1 true) :=
    ((TransitionSystem.Reachable.of_init init_levelCache).step
      (step_levelInserted 1 true)).step (step_levelUpdated 1 true)
  refine ⟨levelUpdated 1 true, hreach, fun hsafe => ?_⟩
  have hsound := hreach.invariant (fun _ hinit => tickersSound_of_init hinit)
    fun _ _ _ h hstep => tickersSound_of_step h hstep
  have hdirty : (levelUpdated 1 true).Dirty 1 ⟨[8, 1, 16, 5], 0⟩ := by
    refine ⟨rfl, ?_⟩
    decide
  exact absurd (hsafe.of_dirty hsound hdirty).2 (by decide)

end Writeback

end RealtimeEx.Db
