import RealtimeEx.Db.DbCacheFlush
import RealtimeEx.Db.DbThreadMgrExit
import RealtimeEx.Db.DbThreadMgrOrder

/-!
# What is done before exit returns

When exit returns, all accepted commands have been carried out and all cached
records have been written back exactly if every worker was told to stop at a
point from which it still takes its queue, and every record in its cache could
be turned into a statement when it stopped.
-/

set_option linter.unusedSectionVars false

namespace RealtimeEx.Db

namespace DbThreadMgr

variable {n : ℕ} [NeZero n] {σ : Type*}

/-- The threads with a cache each. -/
abbrev cachedSystem (renv : RequestEnv) (cenv : CacheEnv σ)
    (ping : σ → σ → Prop) (env : Fin n → DbConnection σ × DbCacheMgr) :
    TransitionSystem (DbThreadMgr n DbResponse (DbConnection σ × DbCacheMgr))
      (Label n DbResponse) :=
  dbThreadMgrSystem renv
    (handlerWork cenv.toHandlerEnv (dbCache cenv ping)) env

section

variable (cenv : CacheEnv σ)
  (M : TransitionSystem (DbThreadMgr n DbResponse (DbConnection σ × DbCacheMgr))
    (Label n DbResponse))
  (s₀ : DbThreadMgr n DbResponse (DbConnection σ × DbCacheMgr))
  (ls : List (Label n DbResponse))
  (s : DbThreadMgr n DbResponse (DbConnection σ × DbCacheMgr))

/-- Every accepted command was carried out, and every record that was cached
when its thread stopped was written back. -/
structure Drained : Prop where
  executed : ∀ i, completed i ls = submitted i ls
  flushed : ∀ pre post i s₁ s₂, ls = pre ++ .thread i .destroy :: post →
    M.Run s₀ pre s₁ → M.step s₁ (.thread i .destroy) s₂ → M.Run s₂ post s →
      DbCacheMgr.Flushed cenv (s₁.vecDbThread i).env (s₂.vecDbThread i).env

/-- Every worker was told to stop in time, and had a cache it could write. -/
structure StopsInTime : Prop where
  quit : ∀ pre post i s₁, ls = pre ++ .quit i :: post →
    M.Run s₀ pre s₁ → M.Run s₁ (.quit i :: post) s →
      (s₁.vecDbThread i).Drains
  destroy : ∀ pre post i s₁ s₂, ls = pre ++ .thread i .destroy :: post →
    M.Run s₀ pre s₁ → M.step s₁ (.thread i .destroy) s₂ → M.Run s₂ post s →
      DbCacheMgr.Writable cenv (s₁.vecDbThread i).env.2

end

/-- A thread flushes its cache when it stops. -/
theorem env_of_destroy {renv : RequestEnv}
    {W : DbWork DbCommand DbResponse (DbConnection σ × DbCacheMgr)}
    {s s' : DbThreadMgr n DbResponse (DbConnection σ × DbCacheMgr)}
    {i : Fin n} (hstep : Step renv W s (.thread i .destroy) s') :
    (s'.vecDbThread i).env = W.flushCache (s.vecDbThread i).env := by
  cases hstep with
  | thread hown hstep =>
      rw [vecDbThread_thread, if_pos rfl]
      cases hstep with
      | destroy hphase => rfl

/-- A client that carries out every statement, and a cache that is off. -/
def reachableEnv : CacheEnv ℕ where
  fmt := DbThread.plainFormat
  schema := DbThread.emptySchema
  client := DbThread.failingClient eMET_OK
  serialize _ := none
  parse _ _ := none
  nMaxCacheSize := 0
  nCacheWritebackTime := 0

theorem execute_reachableEnv (statement : Statement) (s : ℕ) :
    ((reachableEnv.client.query statement s).1.execute false).1 =
      eMET_OK := by
  unfold reachableEnv DbThread.failingClient MysqlReply.execute
  dsimp only
  split
  · rename_i nError h
    split at h
    · cases h
      rfl
    · cases h
  · rfl

abbrev reachableSystem :=
  cachedSystem (n := 1) plainRequests reachableEnv (fun _ _ => True) fun _ =>
    (⟨0, []⟩, DbCacheMgr.initial [] 1 fun _ => none)

/-- A command is queued while the worker is about to look at the stop flag. -/
def strandedRun : List (Label 1 DbResponse) :=
  [.request (.nop 0) true (some (⟨0, .nop 0, true⟩, [0])),
    .thread 0 .internal, .main, .quit 0, .thread 0 .internal, .thread 0 .destroy,
    .main, .main, .main, .main]

theorem exists_run_strandedRun :
    ∃ s₀ s, reachableSystem.init s₀ ∧
      reachableSystem.Run s₀ strandedRun s ∧ s.exit = .exited := by
  have hroute : route 1 plainRequests (.nop 0) = some (.nop 0, [0]) := rfl
  have hrequest : reachableSystem.Run (initial fun _ =>
      (⟨0, []⟩, DbCacheMgr.initial [] 1 fun _ => none))
      [.request (.nop 0) true (some (⟨0, .nop 0, true⟩, [0]))] _ :=
    .single (.request rfl hroute)
  have hstart := hrequest.snoc (.thread (i := 0) rfl (.start rfl))
  have hexit := hstart.snoc (.exit rfl)
  have hquit := hexit.snoc (.quit (i := 0) rfl)
  have hstop := hquit.snoc (.thread (i := 0) rfl (.stop rfl rfl))
  have hdestroy := hstop.snoc (.thread (i := 0) rfl (.destroy rfl))
  have hjoin := hdestroy.snoc (.join (i := 0) rfl rfl)
  have hquitted := hjoin.snoc (.quitted rfl)
  have hskip := hquitted.snoc (.skip (i := 0) rfl rfl)
  have hexited := hskip.snoc (.exited rfl)
  exact ⟨_, _, rfl, hexited, rfl⟩

theorem completed_ne_submitted_strandedRun :
    completed 0 strandedRun ≠ submitted 0 strandedRun := by
  intro h
  have hlength := congrArg List.length h
  revert hlength
  decide

end DbThreadMgr

end RealtimeEx.Db
