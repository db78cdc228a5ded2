import RealtimeEx.Db.DbThreadMgrRun

/-!
# The end of the database threads

At exit the main thread tells every thread to stop and joins it.  A worker
looks at the stop flag before it looks at its queue, and closes its connection
when it stops, so that the second look of the main thread passes over all
queues: what is queued for a worker that has to come back to its loop first is
left behind.
-/

set_option linter.unusedSectionVars false

namespace RealtimeEx.Db

/-! ## A worker that is told to stop -/

namespace DbThread

variable {κ ρ ε : Type*} {W : DbWork κ ρ ε} {t t' : DbThread κ ε}
  {l : Label κ ρ} {ls : List (Label κ ρ)}

/-- The worker takes all that is queued before it looks at the stop flag
again. -/
def Drains (t : DbThread κ ε) : Prop :=
  t.listCommand = [] ∨ t.phase = .beginning ∨ t.phase = .waiting

/-- The worker stops without looking at its queue again. -/
structure Stranded (t : DbThread κ ε) : Prop where
  backlog : t.listCommand ≠ []
  phase : t.state = .quit ∧
      (t.phase = .loop ∨ t.phase = .processing ∨ t.phase = .destroying) ∨
    t.phase = .stopped

/-- The worker has not been told to stop. -/
structure Alive (t : DbThread κ ε) : Prop where
  state : t.state ≠ .quit
  phase : t.phase ≠ .destroying ∧ t.phase ≠ .stopped

/-- A command that is carried out leaves the queue alone. -/
theorem process_of_ne_lost {c : SDbCommand κ} {rest : List (SDbCommand κ)}
    (hlost : (t.process W c rest).1 ≠ .lost) :
    (t.process W c rest).2.listCommand = t.listCommand ∧
      (t.process W c rest).2.phase = t.phase ∧
      (t.process W c rest).2.state = t.state := by
  cases hflush : W.isFlush c.command with
  | true =>
      rw [process_of_flush W t c rest hflush]
      exact ⟨rfl, rfl, rfl⟩
  | false =>
      obtain ⟨stale, hstale⟩ := t.exists_readMessage_eq c.id
      rcases attempt_cases W c.command t.env with h | ⟨code, r, h⟩
      · rw [process_of_lost W t c rest hflush h] at hlost
        exact absurd rfl hlost
      · rw [process_of_done W t c rest hflush h, hstale]
        exact ⟨rfl, rfl, rfl⟩

theorem Drains.step (h : t.Drains) (hown : isOwnStep l)
    (hlost : ∀ c, l ≠ .process c .lost) (hstep : Step W t l t') :
    t'.Drains := by
  unfold Drains at h ⊢
  cases hstep with
  | query => cases hown
  | quit => cases hown
  | start hphase => simpa [hphase] using h
  | check hphase => exact Or.inr (Or.inl rfl)
  | stop hphase => simpa [hphase] using h
  | beginProcess => exact Or.inr (Or.inr rfl)
  | timeout hphase hqueue => exact Or.inl hqueue
  | take => exact Or.inl rfl
  | @process c rest hphase hbatch =>
      obtain ⟨hlist, hsame, -⟩ := process_of_ne_lost fun heq => by
        rw [heq] at hlost
        exact hlost c rfl
      rw [hlist, hsame]
      exact h
  | processed hphase => simpa [hphase] using h
  | destroy hphase => simpa [hphase, onDestroy] using h

theorem Stranded.step (h : t.Stranded) (hown : isOwnStep l)
    (hlost : ∀ c, l ≠ .process c .lost) (hstep : Step W t l t') :
    t'.Stranded := by
  cases hstep with
  | query => cases hown
  | quit => cases hown
  | start hphase => exact absurd h.phase (by simp [hphase])
  | check hphase hstate => exact absurd h.phase (by simp [hphase, hstate])
  | stop hphase hstate =>
      exact ⟨h.backlog, Or.inl ⟨hstate, Or.inr (Or.inr rfl)⟩⟩
  | beginProcess hphase => exact absurd h.phase (by simp [hphase])
  | timeout hphase => exact absurd h.phase (by simp [hphase])
  | take hphase => exact absurd h.phase (by simp [hphase])
  | @process c rest hphase hbatch =>
      obtain ⟨hlist, hsame, hstate⟩ := process_of_ne_lost fun heq => by
        rw [heq] at hlost
        exact hlost c rfl
      refine ⟨?_, ?_⟩
      · rw [hlist]
        exact h.backlog
      · rw [hsame, hstate]
        exact h.phase
  | processed hphase =>
      refine ⟨h.backlog, ?_⟩
      simpa [hphase] using h.phase
  | destroy => exact ⟨h.backlog, Or.inr rfl⟩

theorem Alive.step (h : t.Alive) (hown : isOwnStep l)
    (hlost : ∀ c, l ≠ .process c .lost) (hstep : Step W t l t') :
    t'.Alive := by
  cases hstep with
  | query => cases hown
  | quit => cases hown
  | start => constructor <;> simp
  | check hphase hstate => exact ⟨hstate, by simp⟩
  | stop hphase hstate => exact absurd hstate h.state
  | beginProcess => exact ⟨h.state, by simp⟩
  | timeout => exact ⟨h.state, by simp⟩
  | take => exact ⟨h.state, by simp [DbThread.take]⟩
  | @process c rest hphase hbatch =>
      obtain ⟨-, hsame, hstate⟩ := process_of_ne_lost fun heq => by
        rw [heq] at hlost
        exact hlost c rfl
      refine ⟨?_, ?_⟩
      · rw [hstate]
        exact h.state
      · rw [hsame]
        exact h.phase
  | processed => exact ⟨h.state, by simp⟩
  | destroy hphase => exact absurd hphase h.phase.1

/-- A thread runs from its start to its end. -/
def StateOk (t : DbThread κ ε) : Prop :=
  t.state = .none ↔ t.phase = .starting ∨ t.phase = .stopped

theorem StateOk.step (h : t.StateOk) (hstep : Step W t l t') :
    t'.StateOk := by
  unfold StateOk at h ⊢
  cases hstep with
  | query => exact h
  | quit =>
      unfold DbThread.quit
      split
      · exact h
      · rename_i hstate
        rw [h] at hstate
        simpa using hstate
  | start => simp
  | check hphase => simpa [hphase] using h
  | stop hphase => simpa [hphase] using h
  | beginProcess hphase => simpa [hphase] using h
  | timeout hphase => simpa [hphase] using h
  | take hphase => simpa [hphase, DbThread.take] using h
  | @process c rest hphase hbatch =>
      cases hflush : W.isFlush c.command with
      | true => simpa [process_of_flush W t c rest hflush] using h
      | false =>
          obtain ⟨stale, hstale⟩ := t.exists_readMessage_eq c.id
          rcases attempt_cases W c.command t.env with hl | ⟨code, r, hd⟩
          · simpa [process_of_lost W t c rest hflush hl, hstale,
              destroyMessage] using h
          · simpa [process_of_done W t c rest hflush hd, hstale,
              destroyMessage] using h
  | processed hphase => simpa [hphase] using h
  | destroy => simp [onDestroy]

theorem stateOk_of_run {env : ε} {t₀ : DbThread κ ε}
    (hinit : (threadSystem W env).init t₀)
    (hrun : (threadSystem W env).Run t₀ ls t) : t.StateOk := by
  cases hinit
  exact hrun.invariant (fun _ _ _ => StateOk.step)
    (by simp [StateOk, initial])

theorem drains_quit : t.quit.Drains ↔ t.Drains := by
  unfold DbThread.quit Drains
  split
  · rfl
  · rfl

/-- A worker that is told to stop drains its queue, or strands what is in it,
or has not started and will not hear of it. -/
theorem stranded_or_alive_quit (hstate : t.StateOk) (h : ¬ t.Drains) :
    t.quit.Stranded ∨ t.quit.Alive := by
  unfold Drains at h
  push Not at h
  obtain ⟨hbacklog, hbeginning, hwaiting⟩ := h
  unfold DbThread.quit
  split
  · rename_i hnone
    rcases hstate.mp hnone with hphase | hphase
    · exact Or.inr ⟨by simp [hnone], by simp [hphase]⟩
    · exact Or.inl ⟨hbacklog, Or.inr hphase⟩
  · rename_i hne
    have hsome := mt hstate.mpr hne
    push Not at hsome
    refine Or.inl ⟨hbacklog, Or.inl ⟨rfl, ?_⟩⟩
    match hphase : t.phase with
    | .starting => exact absurd hphase hsome.1
    | .loop => exact Or.inl rfl
    | .beginning => exact absurd hphase hbeginning
    | .waiting => exact absurd hphase hwaiting
    | .processing => exact Or.inr (Or.inl rfl)
    | .destroying => exact Or.inr (Or.inr rfl)
    | .stopped => exact absurd hphase hsome.2

theorem phase_of_step_of_stopped (hphase : t.phase = .stopped)
    (hown : isOwnStep l) : ¬ Step W t l t' := by
  intro hstep
  cases hstep with
  | query => cases hown
  | quit => cases hown
  | start h => simp [hphase] at h
  | check h => simp [hphase] at h
  | stop h => simp [hphase] at h
  | beginProcess h => simp [hphase] at h
  | timeout h => simp [hphase] at h
  | take h => simp [hphase] at h
  | process h => simp [hphase] at h
  | processed h => simp [hphase] at h
  | destroy h => simp [hphase] at h

end DbThread

/-! ## The main thread -/

namespace DbThreadMgr

variable {n : ℕ} [NeZero n] {ρ ε : Type*} {renv : RequestEnv}
  {W : DbWork DbCommand ρ ε} {env : Fin n → ε}
  {s s' : DbThreadMgr n ρ ε} {l : Label n ρ} {ls : List (Label n ρ)}

/-- The thread `i` has been told to stop. -/
def PastQuit (i : ℕ) : ExitPhase → Prop
  | .running => False
  | .quitting k => i < k
  | .joining k => i ≤ k
  | _ => True

/-- The thread `i` has been joined. -/
def Joined (i : ℕ) : ExitPhase → Prop
  | .running => False
  | .quitting k => i < k
  | .joining k => i < k
  | _ => True

/-- How far the main thread is with its threads. -/
structure ExitInv (ls : List (Label n ρ)) (s : DbThreadMgr n ρ ε) : Prop where
  stopped : ∀ i : Fin n, Joined i s.exit → (s.vecDbThread i).phase = .stopped
  quit : ∀ i : Fin n, PastQuit i s.exit → .quit i ∈ ls

theorem exitInv_initial :
    ExitInv ([] : List (Label n ρ)) (initial env) := by
  constructor <;> simp [initial, Joined, PastQuit]

/-- What is done to no thread leaves their phases alone. -/
theorem vecDbThread_addResultInfo (s : DbThreadMgr n ρ ε) (i : Fin n)
    (k : DbThread.Label DbCommand ρ) :
    (s.addResultInfo i k).vecDbThread = s.vecDbThread ∧
      (s.addResultInfo i k).exit = s.exit := by
  unfold addResultInfo
  split
  · split
    · exact ⟨rfl, rfl⟩
    · exact ⟨rfl, rfl⟩
  · exact ⟨rfl, rfl⟩

/-- A step of one thread, seen from any thread. -/
theorem vecDbThread_thread {i j : Fin n} {k : DbThread.Label DbCommand ρ}
    {t : DbThread DbCommand ε} :
    ((s.setThread i t).addResultInfo i k).vecDbThread j =
      if j = i then t else s.vecDbThread j := by
  rw [(vecDbThread_addResultInfo _ _ _).1]
  by_cases h : j = i
  · subst h
    simp
  · rw [setThread_of_ne s h, if_neg h]

theorem exit_thread {i : Fin n} {k : DbThread.Label DbCommand ρ}
    {t : DbThread DbCommand ε} :
    ((s.setThread i t).addResultInfo i k).exit = s.exit :=
  (vecDbThread_addResultInfo _ _ _).2

theorem ExitInv.of_exit (h : ExitInv ls s) {exit : ExitPhase}
    (hjoined : ∀ i : Fin n, Joined i exit →
      Joined i s.exit ∨ (s.vecDbThread i).phase = .stopped)
    (hpast : ∀ i : Fin n, PastQuit i exit → PastQuit i s.exit) :
    ExitInv (ls ++ [l]) { s with exit := exit } := by
  constructor
  · intro i hi
    rcases hjoined i hi with hold | hnew
    · exact h.stopped i hold
    · exact hnew
  · exact fun i hi => List.mem_append_left _ (h.quit i (hpast i hi))

theorem ExitInv.step (h : ExitInv ls s) (hproj : Projects W env ls s)
    (hstep : Step renv W s l s') : ExitInv (ls ++ [l]) s' := by
  cases hstep with
  | @request request callback command threads hrunning hroute =>
      obtain ⟨vec, hvec⟩ :=
        enqueue_eq (W := W) ⟨s.nextMessage, command, callback⟩ threads s
      have hexit : (s.request W command callback threads).exit = .running := by
        rw [DbThreadMgr.request, hvec]
        exact hrunning
      constructor <;> simp [hexit, Joined, PastQuit]
  | refused hrunning hroute =>
      constructor <;> simp [hrunning, Joined, PastQuit]
  | @thread i k t hown hstep =>
      constructor
      · intro j hj
        rw [exit_thread] at hj
        have hstopped := h.stopped j hj
        rw [vecDbThread_thread]
        split
        · rename_i hji
          rw [hji] at hstopped
          exact absurd hstep
            (DbThread.phase_of_step_of_stopped hstopped hown)
        · exact hstopped
      · intro j hj
        rw [exit_thread] at hj
        exact List.mem_append_left _ (h.quit j hj)
  | update => exact ⟨h.stopped, fun i hi => List.mem_append_left _ (h.quit i hi)⟩
  | exit hmain =>
      exact h.of_exit (fun i hi => absurd hi (Nat.not_lt_zero _))
        fun i hi => absurd hi (Nat.not_lt_zero _)
  | @quit i hmain =>
      constructor
      · intro j hj
        have hlt : (j : ℕ) < i := hj
        have hne : j ≠ i := fun heq => by simp [heq] at hlt
        have hstopped := h.stopped j (by rw [hmain]; exact hlt)
        change ((s.setThread i _).vecDbThread j).phase = _
        rw [setThread_of_ne s hne]
        exact hstopped
      · intro j hj
        rcases Nat.lt_or_eq_of_le (show (j : ℕ) ≤ i from hj) with hlt | heq
        · exact List.mem_append_left _ (h.quit j (by rw [hmain]; exact hlt))
        · rw [Fin.ext heq]
          exact List.mem_append_right _ (List.mem_singleton_self _)
  | @join i hmain hphase =>
      apply h.of_exit
      · intro j hj
        rcases Nat.lt_or_eq_of_le (Nat.lt_succ_iff.mp hj) with hlt | heq
        · exact Or.inl (by rw [hmain]; exact hlt)
        · rw [Fin.ext heq]
          exact Or.inr hphase
      · intro j hj
        rw [hmain]
        exact Nat.lt_succ_iff.mp hj
  | quitted hmain =>
      apply h.of_exit
      · exact fun j _ => Or.inl (by rw [hmain]; exact j.isLt)
      · exact fun j _ => by rw [hmain]; exact j.isLt
  | skip hmain hconnect =>
      apply h.of_exit
      · exact fun j _ => Or.inl (by rw [hmain]; trivial)
      · exact fun j _ => by rw [hmain]; trivial
  | process hmain hphase hconnect =>
      rw [hproj.isConnectDb_eq_false hphase] at hconnect
      cases hconnect
  | @processed i hmain hphase => exact absurd hmain (hproj.idle i)
  | exited hmain =>
      apply h.of_exit
      · exact fun j _ => Or.inl (by rw [hmain]; trivial)
      · exact fun j _ => by rw [hmain]; trivial

/-- What the worker of a thread that was told to stop preserves, the manager
preserves. -/
theorem past_of_step {i : Fin n} {P : DbThread DbCommand ε → Prop}
    (hP : ∀ t k t', P t → DbThread.isOwnStep k →
      (∀ c, k ≠ .process c .lost) → DbThread.Step W t k t' → P t')
    (hproj : Projects W env ls s) (hpast : PastQuit i s.exit)
    (h : P (s.vecDbThread i))
    (hlost : ∀ c, l ≠ .thread i (.process c .lost))
    (hstep : Step renv W s l s') :
    PastQuit i s'.exit ∧ P (s'.vecDbThread i) := by
  cases hstep with
  | request hrunning hroute =>
      rw [hrunning] at hpast
      cases hpast
  | refused hrunning hroute =>
      rw [hrunning] at hpast
      cases hpast
  | @thread j k t hown hstep =>
      rw [exit_thread, vecDbThread_thread]
      refine ⟨hpast, ?_⟩
      split
      · rename_i hij
        subst hij
        exact hP _ k t h hown (fun c heq => hlost c (by rw [heq])) hstep
      · exact h
  | update => exact ⟨hpast, h⟩
  | exit hmain =>
      rw [hmain] at hpast
      cases hpast
  | @quit j hmain =>
      rw [hmain] at hpast
      have hne : i ≠ j := fun heq => by
        rw [heq] at hpast
        exact Nat.lt_irrefl _ hpast
      refine ⟨Nat.le_of_lt hpast, ?_⟩
      change P ((s.setThread j _).vecDbThread i)
      rw [setThread_of_ne s hne]
      exact h
  | join hmain hphase =>
      rw [hmain] at hpast
      exact ⟨Nat.lt_succ_of_le hpast, h⟩
  | quitted hmain => exact ⟨trivial, h⟩
  | skip hmain hconnect => exact ⟨trivial, h⟩
  | process hmain hphase hconnect =>
      rw [hproj.isConnectDb_eq_false hphase] at hconnect
      cases hconnect
  | @processed j hmain hphase => exact absurd hmain (hproj.idle j)
  | exited hmain => exact ⟨trivial, h⟩

theorem past_of_run {i : Fin n} {P : DbThread DbCommand ε → Prop}
    (hP : ∀ t k t', P t → DbThread.isOwnStep k →
      (∀ c, k ≠ .process c .lost) → DbThread.Step W t k t' → P t')
    (hW : W.isFlush = DbCommand.isFlush) {ks : List (Label n ρ)}
    (hproj : Projects W env ks s) (hpast : PastQuit i s.exit)
    (h : P (s.vecDbThread i))
    (hlost : ∀ c, .thread i (.process c .lost) ∉ ls)
    (hrun : (dbThreadMgrSystem renv W env).Run s ls s') :
    Projects W env (ks ++ ls) s' ∧ PastQuit i s'.exit ∧
      P (s'.vecDbThread i) := by
  induction hrun with
  | nil => exact ⟨by simpa using hproj, hpast, h⟩
  | snoc _ hstep ih =>
      obtain ⟨hproj, hpast, hP'⟩ := ih fun c hmem =>
        hlost c (List.mem_append_left _ hmem)
      refine ⟨?_, past_of_step hP hproj hpast hP' (fun c heq => hlost c ?_)
        hstep⟩
      · rw [← List.append_assoc]
        exact hproj.step hW hstep
      · rw [heq]
        exact List.mem_append_right _ (List.mem_singleton_self _)

/-! ## What is left in the queues -/

section

variable {s₀ : DbThreadMgr n ρ ε} (hW : W.isFlush = DbCommand.isFlush)
  (hinit : (dbThreadMgrSystem renv W env).init s₀)
  (hrun : (dbThreadMgrSystem renv W env).Run s₀ ls s)

include hW hinit hrun

theorem exitInv_of_run : ExitInv ls s := by
  have h : Projects W env ls s ∧ ExitInv ls s := by
    cases hinit
    induction hrun with
    | nil => exact ⟨projects_initial, exitInv_initial⟩
    | snoc _ hstep ih =>
        exact ⟨ih.1.step hW hstep, ih.2.step ih.1 hstep⟩
  exact h.2

/-- From the moment the thread `i` is told to stop. -/
theorem past_of_quit {i : Fin n} {P : DbThread DbCommand ε → Prop}
    (hP : ∀ t k t', P t → DbThread.isOwnStep k →
      (∀ c, k ≠ .process c .lost) → DbThread.Step W t k t' → P t')
    {pre post : List (Label n ρ)} {s₁ : DbThreadMgr n ρ ε}
    (hls : ls = pre ++ .quit i :: post)
    (hlost : ∀ c, .thread i (.process c .lost) ∉ ls)
    (hpre : (dbThreadMgrSystem renv W env).Run s₀ pre s₁)
    (hpost : (dbThreadMgrSystem renv W env).Run s₁ (.quit i :: post) s)
    (h : P (s₁.vecDbThread i).quit) : P (s.vecDbThread i) := by
  obtain ⟨s₂, hstep, hrest⟩ := hpost.cons_inv
  have hproj := (projects_of_run hW hinit hpre).step hW hstep
  have hquit : PastQuit i s₂.exit ∧
      s₂.vecDbThread i = (s₁.vecDbThread i).quit := by
    cases hstep with
    | quit hmain => exact ⟨Nat.le_refl _, setThread_self s₁ i _⟩
  have hend := past_of_run hP hW hproj hquit.1 (by rw [hquit.2]; exact h)
    (fun c hmem => hlost c (by simp [hls, hmem])) hrest
  exact hend.2.2

/-- Nothing is left in the queues exactly when every worker is told to stop at
a point from which it takes what is queued. -/
theorem waiting_eq_nil_iff (hexited : s.exit = .exited)
    (hlost : ∀ i c, .thread i (.process c .lost) ∉ ls) :
    (∀ i, (s.vecDbThread i).waiting = []) ↔
      ∀ pre post i s₁, ls = pre ++ .quit i :: post →
        (dbThreadMgrSystem renv W env).Run s₀ pre s₁ →
        (dbThreadMgrSystem renv W env).Run s₁ (.quit i :: post) s →
          (s₁.vecDbThread i).Drains := by
  have hproj := projects_of_run hW hinit hrun
  have hinv := exitInv_of_run hW hinit hrun
  have hstopped : ∀ i, (s.vecDbThread i).phase = .stopped := fun i =>
    hinv.stopped i (by rw [hexited]; trivial)
  have hbatch : ∀ i, (s.vecDbThread i).batch = [] := fun i =>
    (DbThread.queue_of_run (W := W) rfl (hproj.run i)).idle
      (by simp [hstopped i])
  constructor
  · intro hnil pre post i s₁ hls hpre hpost
    by_contra hdrains
    have hstate : (s₁.vecDbThread i).StateOk :=
      DbThread.stateOk_of_run (W := W) rfl
        ((projects_of_run hW hinit hpre).run i)
    have hend := past_of_quit (P := fun t => t.Stranded ∨ t.Alive) hW hinit
      hrun (fun t k t' h hown hne hstep => h.imp
        (fun h => h.step hown hne hstep) fun h => h.step hown hne hstep)
      hls (hlost i) hpre hpost
      (DbThread.stranded_or_alive_quit hstate hdrains)
    rcases hend with h | h
    · apply h.backlog
      have hi := hnil i
      rw [DbThread.waiting, hbatch i] at hi
      exact hi
    · exact h.phase.2 (hstopped i)
  · intro h i
    have hquit := hinv.quit i (by rw [hexited]; trivial)
    obtain ⟨pre, post, hls⟩ := List.append_of_mem hquit
    have hcut := hrun
    rw [hls] at hcut
    obtain ⟨s₁, hpre, hpost⟩ := hcut.append_inv
    have hend := past_of_quit (P := DbThread.Drains) hW hinit hrun
      (fun t k t' h hown hne hstep => h.step hown hne hstep) hls (hlost i)
      hpre hpost (DbThread.drains_quit.mpr (h pre post i s₁ hls hpre hpost))
    have hempty : (s.vecDbThread i).listCommand = [] := by
      simpa [DbThread.Drains, hstopped i] using hend
    rw [DbThread.waiting, hbatch i, hempty]
    rfl

/-- All commands are carried out exactly when nothing is left. -/
theorem completed_eq_submitted_iff (i : Fin n) :
    completed i ls = submitted i ls ↔ (s.vecDbThread i).waiting = [] := by
  have h := (DbThread.queue_of_run (W := W) rfl
    ((projects_of_run hW hinit hrun).run i)).queried_eq
  change submitted i ls = completed i ls ++ _ at h
  rw [h]
  exact List.self_eq_append_right

end

end DbThreadMgr

end RealtimeEx.Db
