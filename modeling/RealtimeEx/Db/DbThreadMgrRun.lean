import RealtimeEx.Db.DbThreadMgr

/-!
# Runs of the database threads

A run of the thread manager is, for each of its threads, a run of that thread
alone: the manager queries and quits it, and the rest is its own.  The
commands submitted to a thread and the results that have been collected can be
read off the labels of the run.
-/

set_option linter.unusedSectionVars false

namespace RealtimeEx.Db

namespace DbThreadMgr

variable {n : ℕ} [NeZero n] {ρ ε : Type*} {renv : RequestEnv}
  {W : DbWork DbCommand ρ ε} {env : Fin n → ε}
  {s s' : DbThreadMgr n ρ ε} {l : Label n ρ} {ls : List (Label n ρ)}

/-! ## What a run says about a thread -/

/-- What a step of the manager is for the thread `i`. -/
def threadLabels (i : Fin n) : Label n ρ → List (DbThread.Label DbCommand ρ)
  | .request _ _ (some (c, threads)) =>
      (threads.filter (· = i)).map fun _ => .query c
  | .request _ _ none => []
  | .thread j l => if j = i then [l] else []
  | .quit j => if j = i then [.quit] else []
  | .update => []
  | .main => []

/-- The commands that were accepted, each with its threads. -/
def accepted (ls : List (Label n ρ)) :
    List (SDbCommand DbCommand × List (Fin n)) :=
  ls.filterMap fun l =>
    match l with
    | .request _ _ accepted => accepted
    | _ => none

/-- The commands submitted to the thread `i`, in order. -/
def submitted (i : Fin n) (ls : List (Label n ρ)) :
    List (SDbCommand DbCommand) :=
  DbThread.queried (ls.flatMap (threadLabels i))

/-- The commands the thread `i` is done with, in order. -/
def completed (i : Fin n) (ls : List (Label n ρ)) :
    List (SDbCommand DbCommand) :=
  DbThread.completed (ls.flatMap (threadLabels i))

/-- The results that were collected, in order. -/
def results (ls : List (Label n ρ)) : List (DbResultInfo n ρ) :=
  ls.filterMap fun l =>
    match l with
    | .thread i (.process c (.done nErrorCode response)) =>
        if c.callback then some ⟨i, c, nErrorCode, response⟩ else none
    | _ => none

theorem accepted_append (ls ks : List (Label n ρ)) :
    accepted (ls ++ ks) = accepted ls ++ accepted ks :=
  List.filterMap_append

theorem submitted_append (i : Fin n) (ls ks : List (Label n ρ)) :
    submitted i (ls ++ ks) = submitted i ls ++ submitted i ks := by
  rw [submitted, List.flatMap_append, DbThread.queried_append]
  rfl

theorem results_append (ls ks : List (Label n ρ)) :
    results (ls ++ ks) = results ls ++ results ks :=
  List.filterMap_append

theorem submitted_request (i : Fin n) (request : DbRequest) (callback : Bool)
    (c : SDbCommand DbCommand) (threads : List (Fin n)) :
    submitted i ([.request request callback (some (c, threads))] :
      List (Label n ρ)) = (threads.filter (· = i)).map fun _ => c := by
  simp [submitted, threadLabels, DbThread.queried]

/-! ## Requests -/

/-- A flush goes to every thread; any other command goes to the thread of its
key. -/
theorem route_eq_some {request : DbRequest} {command : DbCommand}
    {threads : List (Fin n)}
    (h : route n renv request = some (command, threads)) :
    command.isFlush = true ∨
      ∃ key, command.key = some key ∧
        threads = [Fin.ofNat n key.toUInt32.toNat] := by
  have haccept : ∀ r,
      (renv.accept r).map (fun accepted =>
        (accepted.1, queryThreads n accepted.2 accepted.1)) =
          some (command, threads) →
      ∃ key, command.key = some key ∧
        threads = [Fin.ofNat n key.toUInt32.toNat] := by
    intro r hr
    obtain ⟨⟨command, index⟩, haccept, heq⟩ := Option.map_eq_some_iff.mp hr
    cases heq
    obtain ⟨hflush, key, hkey, rfl⟩ := RequestEnv.exists_key_of_accept haccept
    exact ⟨key, hkey, by simp [queryThreads, hflush]⟩
  unfold route at h
  split at h
  · cases h
    exact Or.inl rfl
  · exact Or.inr (haccept _ h)

/-- What a request leaves alone. -/
theorem enqueue_eq (c : SDbCommand DbCommand) (threads : List (Fin n))
    (s : DbThreadMgr n ρ ε) :
    ∃ vec, s.enqueue W c threads = { s with vecDbThread := vec } := by
  induction threads generalizing s with
  | nil => exact ⟨s.vecDbThread, rfl⟩
  | cons j threads ih =>
      obtain ⟨vec, hvec⟩ := ih (s.setThread j ((s.vecDbThread j).query W c))
      exact ⟨vec, hvec⟩

/-- The thread `i` is queried as often as it is among the threads. -/
theorem run_enqueue (c : SDbCommand DbCommand) (i : Fin n)
    (threads : List (Fin n)) (s : DbThreadMgr n ρ ε)
    (hfresh : W.isFlush c.command = false →
      threads.Nodup ∧ ∀ j ∈ threads, c.id ∉ (s.vecDbThread j).allocated) :
    (threadSystem W (env i)).Run (s.vecDbThread i)
      ((threads.filter (· = i)).map fun _ => .query c)
      ((s.enqueue W c threads).vecDbThread i) := by
  induction threads generalizing s with
  | nil => exact .nil _
  | cons j threads ih =>
      have hrest := ih (s.setThread j ((s.vecDbThread j).query W c)) (by
        intro hflush
        obtain ⟨hnodup, hnew⟩ := hfresh hflush
        rw [List.nodup_cons] at hnodup
        refine ⟨hnodup.2, fun k hk => ?_⟩
        have hne : k ≠ j := fun h => hnodup.1 (h ▸ hk)
        rw [setThread_of_ne s hne]
        exact hnew k (List.mem_cons_of_mem _ hk))
      by_cases h : j = i
      · subst h
        rw [setThread_self] at hrest
        rw [List.filter_cons_of_pos (by simp), List.map_cons]
        refine .cons (.query fun hflush => ?_) hrest
        exact (hfresh hflush).2 j List.mem_cons_self
      · rw [setThread_of_ne s (Ne.symm h)] at hrest
        rw [List.filter_cons_of_neg (by simpa using h)]
        exact hrest

theorem allocated_enqueue_lt (c : SDbCommand DbCommand)
    (threads : List (Fin n)) (s : DbThreadMgr n ρ ε) {bound : ℕ}
    (hc : c.id < bound)
    (h : ∀ j, ∀ id ∈ (s.vecDbThread j).allocated, id < bound) (i : Fin n) :
    ∀ id ∈ ((s.enqueue W c threads).vecDbThread i).allocated, id < bound := by
  induction threads generalizing s with
  | nil => exact h i
  | cons j threads ih =>
      apply ih
      intro k id hid
      by_cases hk : k = j
      · subst hk
        rw [setThread_self] at hid
        unfold DbThread.query at hid
        split at hid
        · exact h k id hid
        · rcases List.mem_append.mp hid with hold | hself
          · exact h k id hold
          · rw [List.mem_singleton.mp hself]
            exact hc
      · rw [setThread_of_ne s hk] at hid
        exact h k id hid

/-! ## The threads along a run -/

/-- A thread allocates no messages on its own. -/
theorem allocated_of_isOwnStep {t t' : DbThread DbCommand ε}
    {l : DbThread.Label DbCommand ρ} (hown : DbThread.isOwnStep l)
    (hstep : DbThread.Step W t l t') : t'.allocated = t.allocated := by
  cases hstep with
  | query => cases hown
  | quit => cases hown
  | @process c rest hphase hbatch =>
      cases hflush : W.isFlush c.command with
      | true => rw [DbThread.process_of_flush W t c rest hflush]
      | false =>
          obtain ⟨stale, hstale⟩ := t.exists_readMessage_eq c.id
          rcases DbThread.attempt_cases W c.command t.env with
            hlost | ⟨code, r, hdone⟩
          · rw [DbThread.process_of_lost W t c rest hflush hlost, hstale]
            rfl
          · rw [DbThread.process_of_done W t c rest hflush hdone, hstale]
            rfl
  | _ => rfl

/-- What is known about a manager after the steps `ls`. -/
structure Projects (W : DbWork DbCommand ρ ε) (env : Fin n → ε)
    (ls : List (Label n ρ)) (s : DbThreadMgr n ρ ε) : Prop where
  run : ∀ i, (threadSystem W (env i)).Run (DbThread.initial (env i))
    (ls.flatMap (threadLabels i)) (s.vecDbThread i)
  fresh : ∀ i, ∀ id ∈ (s.vecDbThread i).allocated, id < s.nextMessage
  idle : ∀ i, s.exit ≠ .processing i
  results_eq : s.delivered ++ s.listResultInfo = results ls
  nodup : ((accepted ls).map fun a => a.1.id).Nodup
  bound : ∀ a ∈ accepted ls, a.1.id < s.nextMessage

theorem projects_initial :
    Projects W env ([] : List (Label n ρ)) (initial env) := by
  constructor
  · intro i
    exact .nil _
  all_goals simp [initial, DbThread.initial, results, accepted]

/-- The main thread moves on, and at most one thread takes the step `k`. -/
theorem Projects.of_eq (h : Projects W env ls s) {i : Fin n}
    {k : List (DbThread.Label DbCommand ρ)} {t : DbThread DbCommand ε}
    (hlabels : ∀ j, threadLabels j l = if i = j then k else [])
    (haccepted : accepted [l] = [])
    (hrun : (threadSystem W (env i)).Run (s.vecDbThread i) k t)
    (hallocated : t.allocated = (s.vecDbThread i).allocated)
    (hvec : s'.vecDbThread = Function.update s.vecDbThread i t)
    (hnext : s'.nextMessage = s.nextMessage)
    (hidle : ∀ j, s'.exit ≠ .processing j)
    (hresults : s'.delivered ++ s'.listResultInfo =
      s.delivered ++ s.listResultInfo ++ results [l]) :
    Projects W env (ls ++ [l]) s' := by
  constructor
  · intro j
    rw [List.flatMap_append, List.flatMap_singleton, hlabels, hvec]
    by_cases hj : i = j
    · subst hj
      rw [if_pos rfl, Function.update_self]
      exact (h.run i).trans hrun
    · rw [if_neg hj, Function.update_of_ne (Ne.symm hj), List.append_nil]
      exact h.run j
  · intro j id hid
    rw [hnext]
    apply h.fresh j
    rw [hvec] at hid
    by_cases hj : j = i
    · subst hj
      rwa [Function.update_self, hallocated] at hid
    · rwa [Function.update_of_ne hj] at hid
  · exact hidle
  · rw [hresults, h.results_eq, results_append]
  · rw [accepted_append, haccepted, List.append_nil]
    exact h.nodup
  · rw [accepted_append, haccepted, List.append_nil, hnext]
    exact h.bound

/-- No thread takes a step. -/
theorem Projects.of_vecDbThread_eq (h : Projects W env ls s)
    (hlabels : ∀ j, threadLabels j l = []) (haccepted : accepted [l] = [])
    (hvec : s'.vecDbThread = s.vecDbThread) (hnext : s'.nextMessage = s.nextMessage)
    (hidle : ∀ j, s'.exit ≠ .processing j)
    (hresults : s'.delivered ++ s'.listResultInfo =
      s.delivered ++ s.listResultInfo ++ results [l]) :
    Projects W env (ls ++ [l]) s' := by
  apply h.of_eq (i := 0) (k := []) (t := s.vecDbThread 0) _ haccepted (.nil _) rfl _ hnext
    hidle hresults
  · intro j
    rw [hlabels, ite_self]
  · rw [hvec, Function.update_eq_self]

/-- The main thread moves on alone. -/
theorem Projects.main (h : Projects W env ls s) {exit : ExitPhase}
    (hidle : ∀ j, exit ≠ .processing j) :
    Projects W env (ls ++ [.main]) { s with exit := exit } :=
  h.of_vecDbThread_eq (fun _ => rfl) rfl rfl rfl hidle (List.append_nil _).symm

theorem Projects.request (h : Projects W env ls s)
    (hW : W.isFlush = DbCommand.isFlush) {request : DbRequest}
    {callback : Bool} {command : DbCommand} {threads : List (Fin n)}
    (hroute : route n renv request = some (command, threads))
    (hrunning : s.exit = .running) :
    Projects W env
      (ls ++ [.request request callback
        (some (⟨s.nextMessage, command, callback⟩, threads))])
      (s.request W command callback threads) := by
  obtain ⟨vec, hvec⟩ :=
    enqueue_eq (W := W) ⟨s.nextMessage, command, callback⟩ threads s
  have hnew : ∀ j, s.nextMessage ∉ (s.vecDbThread j).allocated :=
    fun j hmem => Nat.lt_irrefl _ (h.fresh j _ hmem)
  constructor
  · intro i
    rw [List.flatMap_append, List.flatMap_singleton]
    apply (h.run i).trans
    apply run_enqueue
    intro hflush
    refine ⟨?_, fun j _ => hnew j⟩
    rcases route_eq_some hroute with hyes | ⟨key, -, rfl⟩
    · rw [hW] at hflush
      exact absurd (hyes.symm.trans hflush) (by simp)
    · exact List.nodup_singleton _
  · intro i
    apply allocated_enqueue_lt
    · exact Nat.lt_succ_self _
    · exact fun j id hid => Nat.lt_succ_of_lt (h.fresh j id hid)
  · intro i
    rw [DbThreadMgr.request, hvec, hrunning]
    simp
  · rw [DbThreadMgr.request, hvec, results_append]
    exact h.results_eq.trans (List.append_nil _).symm
  · rw [accepted_append, List.map_append]
    apply h.nodup.append (List.nodup_singleton _)
    intro id hold hself
    obtain ⟨a, ha, rfl⟩ := List.mem_map.mp hold
    have hlt := h.bound a ha
    rw [List.mem_singleton.mp hself] at hlt
    exact Nat.lt_irrefl _ hlt
  · intro a ha
    rw [accepted_append] at ha
    rcases List.mem_append.mp ha with hold | hself
    · exact Nat.lt_succ_of_lt (h.bound a hold)
    · rw [List.mem_singleton.mp hself]
      exact Nat.lt_succ_self _

theorem Projects.thread (h : Projects W env ls s) {i : Fin n}
    {k : DbThread.Label DbCommand ρ} {t : DbThread DbCommand ε}
    (hown : DbThread.isOwnStep k) (hstep : DbThread.Step W (s.vecDbThread i) k t) :
    Projects W env (ls ++ [.thread i k])
      ((s.setThread i t).addResultInfo i k) := by
  obtain ⟨list, hlist, hresults⟩ : ∃ list,
      (s.setThread i t).addResultInfo i k =
        { s.setThread i t with listResultInfo := list } ∧
      list = s.listResultInfo ++ results [.thread i k] := by
    unfold addResultInfo
    split
    · split
      · exact ⟨_, rfl, by simp_all [results, setThread]⟩
      · exact ⟨s.listResultInfo, rfl, by simp_all [results]⟩
    · rename_i hnone
      refine ⟨s.listResultInfo, rfl, ?_⟩
      cases k with
      | process c result =>
          cases result with
          | done code r => exact absurd rfl (hnone c code r)
          | lost => exact (List.append_nil _).symm
          | flushed => exact (List.append_nil _).symm
      | query _ => exact (List.append_nil _).symm
      | quit => exact (List.append_nil _).symm
      | take => exact (List.append_nil _).symm
      | destroy => exact (List.append_nil _).symm
      | internal => exact (List.append_nil _).symm
  rw [hlist]
  apply h.of_eq (i := i) (k := [k]) (t := t)
  · exact fun j => rfl
  · rfl
  · exact .single hstep
  · exact allocated_of_isOwnStep hown hstep
  · rfl
  · rfl
  · exact h.idle
  · change s.delivered ++ list = _
    rw [hresults, List.append_assoc]

/-- A stopped thread has no connection, so the queues are not looked at
again. -/
theorem Projects.isConnectDb_eq_false (h : Projects W env ls s) {i : Fin n}
    (hphase : (s.vecDbThread i).phase = .stopped) :
    (s.vecDbThread i).isConnectDb = false :=
  (DbThread.queue_of_run (W := W) rfl (h.run i)).closed hphase

theorem Projects.step (h : Projects W env ls s)
    (hW : W.isFlush = DbCommand.isFlush) (hstep : Step renv W s l s') :
    Projects W env (ls ++ [l]) s' := by
  cases hstep with
  | request hrunning hroute => exact h.request hW hroute hrunning
  | refused hrunning hroute =>
      exact h.of_vecDbThread_eq (fun _ => rfl) rfl rfl rfl h.idle (List.append_nil _).symm
  | thread hown hstep => exact h.thread hown hstep
  | update hmain =>
      refine h.of_vecDbThread_eq (fun _ => rfl) rfl rfl rfl h.idle ?_
      simp [DbThreadMgr.update, results]
  | exit hmain => exact h.main (by simp)
  | @quit i hmain =>
      apply h.of_eq (i := i) (k := [.quit]) (t := (s.vecDbThread i).quit)
      · exact fun j => rfl
      · rfl
      · exact .single .quit
      · unfold DbThread.quit
        split
        · rfl
        · rfl
      · rfl
      · rfl
      · simp
      · exact (List.append_nil _).symm
  | join hmain hphase => exact h.main (by simp)
  | quitted hmain => exact h.main (by simp)
  | skip hmain hconnect => exact h.main (by simp)
  | process hmain hphase hconnect =>
      rw [h.isConnectDb_eq_false hphase] at hconnect
      cases hconnect
  | @processed i hmain hphase => exact absurd hmain (h.idle i)
  | exited hmain => exact h.main (by simp)

theorem projects_of_run {s₀ : DbThreadMgr n ρ ε}
    (hW : W.isFlush = DbCommand.isFlush)
    (hinit : (dbThreadMgrSystem renv W env).init s₀)
    (hrun : (dbThreadMgrSystem renv W env).Run s₀ ls s) :
    Projects W env ls s := by
  cases hinit
  induction hrun with
  | nil => exact projects_initial
  | snoc _ hstep ih => exact ih.step hW hstep

end DbThreadMgr

end RealtimeEx.Db
