import RealtimeEx.Db.DbThread

/-!
# The order of commands in a database thread

A thread works through the commands it was given from first to last.  A lost
connection puts the command and all that follow it back in front of the
commands that arrived since, so at every point the commands given to the
thread are those it has completed followed by those that wait, and every
attempt is on the first one that waits.
-/

set_option linter.unusedSectionVars false

namespace RealtimeEx.Db

namespace DbThread

variable {κ ρ ε : Type*} {W : DbWork κ ρ ε} {t t' : DbThread κ ε}
  {l : Label κ ρ} {ls : List (Label κ ρ)}

/-- The commands that are still to be processed, in order. -/
def waiting (t : DbThread κ ε) : List (SDbCommand κ) :=
  t.batch ++ t.listCommand

/-- The commands given to the thread, in order. -/
def queried (ls : List (Label κ ρ)) : List (SDbCommand κ) :=
  ls.filterMap fun l =>
    match l with
    | .query c => some c
    | _ => none

/-- The commands the thread is done with, in order. -/
def completed (ls : List (Label κ ρ)) : List (SDbCommand κ) :=
  ls.filterMap fun l =>
    match l with
    | .process _ .lost => none
    | .process c _ => some c
    | _ => none

theorem queried_append (ls ks : List (Label κ ρ)) :
    queried (ls ++ ks) = queried ls ++ queried ks :=
  List.filterMap_append

theorem completed_append (ls ks : List (Label κ ρ)) :
    completed (ls ++ ks) = completed ls ++ completed ks :=
  List.filterMap_append

/-- A worker gives itself no commands. -/
theorem queried_of_isOwnStep (h : isOwnStep l) : queried [l] = [] := by
  cases l with
  | query => cases h
  | _ => rfl

/-- The queue of a thread, and where its worker may be. -/
structure Queue (ls : List (Label κ ρ)) (t : DbThread κ ε) : Prop where
  idle : t.phase ≠ .processing → t.batch = []
  closed : t.phase = .stopped → t.isConnectDb = false
  queried_eq : queried ls = completed ls ++ t.waiting

theorem queue_initial (env : ε) :
    Queue ([] : List (Label κ ρ)) (initial env) := by
  constructor <;> simp [initial, waiting, queried, completed]

/-- The worker moves on without touching a command. -/
theorem Queue.of_eq (h : Queue ls t)
    (hquery : ∀ c, l ≠ .query c) (hprocess : ∀ c o, l ≠ .process c o)
    (hidle : t'.phase ≠ .processing → t'.batch = [])
    (hclosed : t'.phase = .stopped → t'.isConnectDb = false)
    (hwaiting : t'.waiting = t.waiting) : Queue (ls ++ [l]) t' := by
  refine ⟨hidle, hclosed, ?_⟩
  have hl : queried [l] = [] ∧ completed [l] = [] := by
    match l with
    | .query c => exact absurd rfl (hquery c)
    | .process c o => exact absurd rfl (hprocess c o)
    | .quit => exact ⟨rfl, rfl⟩
    | .take => exact ⟨rfl, rfl⟩
    | .destroy => exact ⟨rfl, rfl⟩
    | .internal => exact ⟨rfl, rfl⟩
  rw [queried_append, completed_append, hl.1, hl.2, hwaiting,
    List.append_nil, List.append_nil]
  exact h.queried_eq

theorem Queue.process (h : Queue ls t) {c : SDbCommand κ}
    {rest : List (SDbCommand κ)}
    (hphase : t.phase = .processing) (hbatch : t.batch = c :: rest) :
    Queue (ls ++ [.process c (t.process W c rest).1])
      (t.process W c rest).2 := by
  have hqueried : queried (ls ++ [.process c (t.process W c rest).1]) =
      completed ls ++ c :: (rest ++ t.listCommand) := by
    rw [queried_append, h.queried_eq, waiting, hbatch]
    exact List.append_nil _
  cases hflush : W.isFlush c.command with
  | true =>
      rw [process_of_flush W t c rest hflush] at hqueried ⊢
      refine ⟨fun hne => absurd hphase hne, h.closed, ?_⟩
      rw [hqueried, completed_append, List.append_assoc]
      rfl
  | false =>
      obtain ⟨stale, hstale⟩ := exists_readMessage_eq t c.id
      rcases attempt_cases W c.command t.env with hlost | ⟨code, r, hdone⟩
      · rw [process_of_lost W t c rest hflush hlost, hstale] at hqueried ⊢
        refine ⟨fun _ => rfl, h.closed, ?_⟩
        rw [hqueried, completed_append]
        change _ = completed ls ++ [] ++ ([] ++ (c :: rest ++ t.listCommand))
        rw [List.append_nil, List.nil_append]
        rfl
      · rw [process_of_done W t c rest hflush hdone, hstale] at hqueried ⊢
        refine ⟨fun hne => absurd hphase hne, h.closed, ?_⟩
        rw [hqueried, completed_append, List.append_assoc]
        rfl

theorem Queue.step (h : Queue ls t) (hstep : Step W t l t') :
    Queue (ls ++ [l]) t' := by
  cases hstep with
  | @query c hfresh =>
      refine ⟨h.idle, h.closed, ?_⟩
      rw [queried_append, completed_append, h.queried_eq]
      change completed ls ++ t.waiting ++ [c] =
        completed ls ++ [] ++ (t.batch ++ (t.listCommand ++ [c]))
      simp [waiting]
  | quit =>
      obtain ⟨state, hquit⟩ := exists_quit_eq t
      rw [hquit]
      exact h.of_eq (by simp) (by simp) h.idle h.closed rfl
  | start hphase =>
      exact h.of_eq (by simp) (by simp) (fun _ => h.idle (by simp [hphase]))
        (by simp) rfl
  | check hphase =>
      exact h.of_eq (by simp) (by simp) (fun _ => h.idle (by simp [hphase]))
        (by simp) rfl
  | stop hphase =>
      exact h.of_eq (by simp) (by simp) (fun _ => h.idle (by simp [hphase]))
        (by simp) rfl
  | beginProcess hphase =>
      exact h.of_eq (by simp) (by simp) (fun _ => h.idle (by simp [hphase]))
        (by simp) rfl
  | timeout hphase =>
      exact h.of_eq (by simp) (by simp) (fun _ => h.idle (by simp [hphase]))
        (by simp) rfl
  | take hphase =>
      have hbatch : t.batch = [] := h.idle (by simp [hphase])
      apply h.of_eq
      · simp
      · simp
      · exact fun hne => absurd rfl hne
      · simp [DbThread.take]
      · simp [DbThread.take, waiting, hbatch]
  | process hphase hbatch => exact h.process hphase hbatch
  | processed hphase hbatch =>
      exact h.of_eq (by simp) (by simp) (fun _ => hbatch) (by simp) rfl
  | destroy hphase =>
      exact h.of_eq (by simp) (by simp) (fun _ => h.idle (by simp [hphase]))
        (fun _ => rfl) rfl

/-! ## Answers -/

/-- The commands whose result goes to a callback, in order. -/
def answered (ls : List (Label κ ρ)) : List (SDbCommand κ) :=
  ls.filterMap fun l =>
    match l with
    | .process c (.done _ _) => if c.callback then some c else none
    | _ => none

theorem answered_append (ls ks : List (Label κ ρ)) :
    answered (ls ++ ks) = answered ls ++ answered ks :=
  List.filterMap_append

/-- A command that is to be answered: it has a callback and is no flush. -/
def isAnswerable (W : DbWork κ ρ ε) (c : SDbCommand κ) : Bool :=
  c.callback && !W.isFlush c.command

/-- Of the commands a step completes, those that are to be answered are. -/
theorem answered_of_step (hstep : Step W t l t') :
    answered [l] = (completed [l]).filter (isAnswerable W) := by
  cases hstep with
  | @process c rest hphase hbatch =>
      cases hflush : W.isFlush c.command with
      | true =>
          rw [process_of_flush W t c rest hflush]
          simp [answered, completed, isAnswerable, hflush]
      | false =>
          rcases attempt_cases W c.command t.env with hlost | ⟨code, r, hdone⟩
          · rw [process_of_lost W t c rest hflush hlost]
            rfl
          · rw [process_of_done W t c rest hflush hdone]
            cases hcallback : c.callback with
            | true =>
                simp [answered, completed, isAnswerable, hflush, hcallback]
            | false => simp [answered, completed, isAnswerable, hcallback]
  | _ => rfl

section

variable {env : ε} {t₀ : DbThread κ ε}

theorem queue_of_run (hinit : (threadSystem W env).init t₀)
    (hrun : (threadSystem W env).Run t₀ ls t) : Queue ls t := by
  cases hinit
  induction hrun with
  | nil => exact queue_initial env
  | snoc _ hstep ih => exact ih.step hstep

theorem answered_of_run
    (hrun : (threadSystem W env).Run t₀ ls t) :
    answered ls = (completed ls).filter (isAnswerable W) := by
  induction hrun with
  | nil => rfl
  | snoc _ hstep ih =>
      rw [answered_append, completed_append, List.filter_append, ih,
        answered_of_step hstep]

/-- Every attempt is on the first command that is not completed. -/
theorem queried_of_process {pre post : List (Label κ ρ)} {c : SDbCommand κ}
    {outcome : Outcome ρ}
    (hinit : (threadSystem W env).init t₀)
    (hrun : (threadSystem W env).Run t₀
      (pre ++ .process c outcome :: post) t) :
    ∃ rest, queried pre = completed pre ++ c :: rest := by
  obtain ⟨r, hpre, hrest⟩ := hrun.append_inv
  obtain ⟨r', hstep, -⟩ := hrest.cons_inv
  have hqueue := (queue_of_run hinit hpre).queried_eq
  cases hstep with
  | @process c rest hphase hbatch =>
      rw [waiting, hbatch] at hqueue
      exact ⟨rest ++ r.listCommand, hqueue⟩

end

/-! ## Progress -/

/-- How far the worker is from the next command. -/
def rank (t : DbThread κ ε) : ℕ :=
  match t.phase with
  | .starting => 5
  | .loop => 4
  | .beginning => 3
  | .waiting => 2
  | .processing => if t.batch.isEmpty then 5 else 0
  | .destroying => 0
  | .stopped => 0

/-- The work that is left to a thread. -/
def work (t : DbThread κ ε) : ℕ :=
  6 * t.waiting.length + t.rank

/-- A worker that has not been told to stop finds something to do. -/
theorem exists_step (hbegin : ∀ e, ∃ e', W.beginProcess e e')
    (hstate : t.state ≠ .quit)
    (hphase : t.phase ≠ .destroying ∧ t.phase ≠ .stopped) :
    ∃ l t', isOwnStep l ∧ Step W t l t' := by
  match hp : t.phase with
  | .starting => exact ⟨_, _, rfl, .start hp⟩
  | .loop => exact ⟨_, _, rfl, .check hp hstate⟩
  | .beginning =>
      obtain ⟨e, he⟩ := hbegin t.env
      exact ⟨_, _, rfl, .beginProcess hp he⟩
  | .waiting =>
      by_cases hqueue : t.listCommand = []
      · exact ⟨_, _, rfl, .timeout hp hqueue⟩
      · exact ⟨_, _, rfl, .take hp hqueue⟩
  | .processing =>
      match hbatch : t.batch with
      | [] => exact ⟨_, _, rfl, .processed hp hbatch⟩
      | c :: rest => exact ⟨_, _, rfl, .process hp hbatch⟩
  | .destroying => exact absurd hp hphase.1
  | .stopped => exact absurd hp hphase.2

theorem rank_le (t : DbThread κ ε) : t.rank ≤ 5 := by
  unfold rank
  split
  all_goals try split
  all_goals omega

/-- Every step of a worker that has commands waiting brings it closer to their
end, unless the connection is lost. -/
theorem work_lt_of_step (hqueue : Queue ls t) (hwaiting : t.waiting ≠ [])
    (hstate : t.state ≠ .quit) (hphase : t.phase ≠ .destroying)
    (hown : isOwnStep l) (hstep : Step W t l t')
    (hlost : ∀ c, l ≠ .process c .lost) : t'.work < t.work := by
  cases hstep with
  | query => cases hown
  | quit => cases hown
  | start hp => simp [work, rank, waiting, hp]
  | check hp => simp [work, rank, waiting, hp]
  | stop hp hquit => exact absurd hquit hstate
  | beginProcess hp => simp [work, rank, waiting, hp]
  | timeout hp hempty =>
      have hbatch := hqueue.idle (by simp [hp])
      exact absurd (by simp [waiting, hbatch, hempty]) hwaiting
  | take hp hne =>
      have hbatch := hqueue.idle (by simp [hp])
      simp [work, rank, waiting, DbThread.take, hp, hbatch, hne]
  | @process c rest hp hbatch =>
      have hlength : t.waiting.length =
          (rest ++ t.listCommand).length + 1 := by
        rw [waiting, hbatch]
        rfl
      have hdone : (t.process W c rest).2.waiting = rest ++ t.listCommand := by
        cases hflush : W.isFlush c.command with
        | true =>
            rw [process_of_flush W t c rest hflush]
            rfl
        | false =>
            obtain ⟨stale, hstale⟩ := t.exists_readMessage_eq c.id
            rcases attempt_cases W c.command t.env with h | ⟨code, r, h⟩
            · have hproc := process_of_lost W t c rest hflush h
              exact absurd (by rw [hproc]) (hlost c)
            · rw [process_of_done W t c rest hflush h, hstale]
              rfl
      have hrank := rank_le (t.process W c rest).2
      rw [work, work, hdone, hlength]
      omega
  | processed hp hbatch => simp [work, rank, waiting, hp, hbatch]
  | destroy hp => exact absurd hp hphase

end DbThread

end RealtimeEx.Db
