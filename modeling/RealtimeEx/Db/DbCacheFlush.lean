import RealtimeEx.Db.DbCacheMgr

/-!
# Writing back a whole cache

A flush writes every cached record back, one statement for each record that
can be turned into one.
-/

set_option linter.unusedSectionVars false

namespace RealtimeEx.Db

variable {σ : Type*}

/-! ## Statements that are carried out -/

/-- The statements were carried out one after the other, all with success. -/
inductive Executed (client : MysqlClient σ) (conn : DbConnection σ) :
    List Statement → DbConnection σ → Prop
  | nil : Executed client conn [] conn
  | snoc {statements : List Statement} {statement : Statement}
      {conn' : DbConnection σ}
      (hprev : Executed client conn statements conn')
      (hok : (conn'.execute client statement false).1.1 = eMET_OK) :
      Executed client conn (statements ++ [statement])
        (conn'.execute client statement false).2.2

section

variable {client : MysqlClient σ} {conn conn' : DbConnection σ}

theorem Executed.trans {conn'' : DbConnection σ} {ks ls : List Statement}
    (h₁ : Executed client conn ks conn')
    (h₂ : Executed client conn' ls conn'') :
    Executed client conn (ks ++ ls) conn'' := by
  induction h₂ with
  | nil => simpa using h₁
  | snoc _ hok ih =>
      rw [← List.append_assoc]
      exact ih.snoc hok

/-- A loop that carries out `f a` in the round of `a`. -/
theorem Executed.foldl {α : Type*} {f : α → List Statement}
    {g : DbConnection σ → α → DbConnection σ}
    (hg : ∀ conn a, Executed client conn (f a) (g conn a)) (as : List α)
    (conn : DbConnection σ) :
    Executed client conn (as.flatMap f) (as.foldl g conn) := by
  induction as generalizing conn with
  | nil => exact .nil
  | cons a as ih => exact (hg conn a).trans (ih (g conn a))

end

/-! ## Records as statements -/

variable (env : CacheEnv σ)

/-- The statement of an update. -/
def updateStatement (m : Message) : Option Statement := do
  let szTableName ← getTableNameByMessageName m.descriptor.typeName
  let vecFieldInfo ← getMessageFieldInfos env.fmt m
  some (.upsert szTableName vecFieldInfo)

theorem updateHandler_of_some {m : Message} {statement : Statement}
    (h : updateStatement env m = some statement) (conn : DbConnection σ) :
    (updateHandler env.toHandlerEnv m conn).2 =
      (conn.execute env.client statement false).2.2 := by
  simp only [updateStatement, Option.bind_eq_bind, Option.bind_eq_some_iff,
    Option.some.injEq] at h
  obtain ⟨table, htable, fields, hfields, rfl⟩ := h
  unfold updateHandler executeFields
  rw [htable, hfields]
  dsimp only
  split
  · rfl
  · split
    · rfl
    · rfl

theorem updateHandler_of_none {m : Message}
    (h : updateStatement env m = none) (conn : DbConnection σ) :
    updateHandler env.toHandlerEnv m conn = (eDBRC_ProtobufError, conn) := by
  unfold updateStatement at h
  unfold updateHandler executeFields
  match htable : getTableNameByMessageName m.descriptor.typeName,
      hfields : getMessageFieldInfos env.fmt m with
  | none, _ => rfl
  | some _, none => rfl
  | some _, some _ => simp [htable, hfields] at h

namespace DbCache

/-- The statement that writes a record back. -/
def statement (c : DbCache) (szData : Bytes) : Option Statement :=
  (c.message env szData).bind (updateStatement env)

/-- The statement `onBackup` carries out. -/
def backupStatement (c : DbCache) (nID : UInt64) : Option Statement :=
  (c.mapCacheInfo.lookup nID).bind fun info => c.statement env info.szData

section

variable {env : CacheEnv σ}
  (hok : ∀ szTableName vecFieldInfo s,
    ((env.client.query (.upsert szTableName vecFieldInfo) s).1.execute
      false).1 = eMET_OK)

include hok

theorem executed_onBackup (c : DbCache) (nID : UInt64)
    (conn : DbConnection σ) :
    Executed env.client conn (c.backupStatement env nID).toList
      (c.onBackup env nID conn).2 := by
  unfold backupStatement statement onBackup getData
  cases hlookup : c.mapCacheInfo.lookup nID with
  | none => exact .nil
  | some info =>
      simp only [Option.bind_eq_bind, Option.bind_some]
      cases hmessage : c.message env info.szData with
      | none => exact .nil
      | some m =>
          dsimp only [Option.bind_some]
          cases hstatement : updateStatement env m with
          | none =>
              rw [updateHandler_of_none env hstatement]
              exact .nil
          | some statement =>
              rw [updateHandler_of_some env hstatement]
              simp only [updateStatement, Option.bind_eq_bind,
                Option.bind_eq_some_iff, Option.some.injEq] at hstatement
              obtain ⟨table, -, fields, -, rfl⟩ := hstatement
              exact Executed.nil.snoc (hok table fields conn.mysql)

theorem executed_flush (c : DbCache) (conn : DbConnection σ) :
    Executed env.client conn
      (c.mapCacheInfo.keys.flatMap fun nID =>
        (c.backupStatement env nID).toList) (c.flush env conn) :=
  Executed.foldl (fun conn nID => c.executed_onBackup hok nID conn) _ conn

end

end DbCache

namespace DbCacheMgr

variable {env}

/-- Every cached record can be turned into a statement. -/
def Writable (env : CacheEnv σ) (s : DbCacheMgr) : Prop :=
  ∀ szDataName c nID info, s.mapCache.lookup szDataName = some c →
    c.mapCacheInfo.lookup nID = some info →
      (c.statement env info.szData).isSome

/-- Between two states of a thread, every record that was cached in the first
was written to the database. -/
def Flushed (env : CacheEnv σ) (s s' : DbConnection σ × DbCacheMgr) : Prop :=
  ∃ statements, Executed env.client s.1 statements s'.1 ∧
    ∀ szDataName c nID info, s.2.mapCache.lookup szDataName = some c →
      c.mapCacheInfo.lookup nID = some info →
        ∃ statement ∈ statements,
          c.statement env info.szData = some statement

/-- The statements of a flush. -/
def flushStatements (env : CacheEnv σ) (s : DbCacheMgr) : List Statement :=
  s.names.flatMap fun szDataName =>
    match s.mapCache.lookup szDataName with
    | none => []
    | some c => c.mapCacheInfo.keys.flatMap fun nID =>
        (c.backupStatement env nID).toList

section

variable (hok : ∀ szTableName vecFieldInfo s,
    ((env.client.query (.upsert szTableName vecFieldInfo) s).1.execute
      false).1 = eMET_OK)

include hok

theorem executed_flushCache (s : DbConnection σ × DbCacheMgr) :
    Executed env.client s.1 (flushStatements env s.2)
      (flushCache env s).1 := by
  apply Executed.foldl
  intro conn szDataName
  unfold flushName
  cases hlookup : s.2.mapCache.lookup szDataName with
  | none => exact .nil
  | some c => exact c.executed_flush hok conn

/-- When the database carries out every update, a flush writes all records
back exactly when all can be turned into statements. -/
theorem flushed_flushCache_iff (s : DbConnection σ × DbCacheMgr) :
    Flushed env s (flushCache env s) ↔ Writable env s.2 := by
  constructor
  · rintro ⟨statements, -, h⟩ szDataName c nID info hc hinfo
    obtain ⟨statement, -, hstatement⟩ := h szDataName c nID info hc hinfo
    exact Option.isSome_iff_exists.mpr ⟨statement, hstatement⟩
  · intro h
    refine ⟨_, executed_flushCache hok s, ?_⟩
    intro szDataName c nID info hc hinfo
    obtain ⟨statement, hstatement⟩ :=
      Option.isSome_iff_exists.mp (h szDataName c nID info hc hinfo)
    refine ⟨statement, ?_, hstatement⟩
    have hname : szDataName ∈ s.2.names := by
      rw [names, List.mem_mergeSort]
      exact AList.mem_keys.mp
        (AList.lookup_isSome.mp (Option.isSome_iff_exists.mpr ⟨c, hc⟩))
    have hkey : nID ∈ c.mapCacheInfo.keys :=
      AList.mem_keys.mp
        (AList.lookup_isSome.mp (Option.isSome_iff_exists.mpr ⟨info, hinfo⟩))
    apply List.mem_flatMap.mpr
    refine ⟨szDataName, hname, ?_⟩
    rw [hc]
    apply List.mem_flatMap.mpr
    exact ⟨nID, hkey, by simp [DbCache.backupStatement, hinfo, hstatement]⟩

end

end DbCacheMgr

end RealtimeEx.Db
