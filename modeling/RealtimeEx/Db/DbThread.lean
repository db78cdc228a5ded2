import RealtimeEx.Db.DbCommandHandler
import RealtimeEx.Support.Transition

/-!
# The database thread

This file models `CDbThread` inside the loop of `CThreadBase`: a command queue
that other threads append to, and a worker that takes the whole queue and
processes it command by command.  Each part of `onProcess` between two
accesses to what other threads can see is a step.

What a command does to the cache and to the database is a parameter here, so
that what is said about the queue holds of every database.  The request
messages live on a heap: a command is named by its message, and the messages
that were destroyed are remembered.
-/

namespace RealtimeEx.Db

/-! ## Commands and their work -/

/-- `SDbCommand`.  `id` is the request message; `callback` says whether a
callback was given. -/
structure SDbCommand (κ : Type*) where
  id : ℕ
  command : κ
  callback : Bool
  deriving DecidableEq, Repr

/-- What the thread calls for commands `κ` with responses `ρ`, on a database
connection and a cache `ε`.  `begin` is the start of `onProcess`: the
connection is checked, and opened again until that succeeds, and the tickers
of the cache are updated. -/
structure DbWork (κ ρ ε : Type*) where
  isFlush : κ → Bool
  beginProcess : ε → ε → Prop
  onPreCache : κ → ε → Bool × Option ρ × ε
  onDbCommand : κ → ε → UInt32 × Option ρ × ε
  onPostCache : κ → Option ρ → ε → ε
  flushCache : ε → ε

/-- How the processing of a command ended.  A lost connection puts the command
back into the queue. -/
inductive Outcome (ρ : Type*)
  | flushed
  | lost
  | done (nErrorCode : UInt32) (response : Option ρ)

/-- `EThreadState`, without the states of a pause. -/
inductive ThreadState
  | none
  | normal
  | quit
  deriving DecidableEq, Repr

/-- The program point of the worker. -/
inductive WorkerPhase
  | starting
  | loop
  | beginning
  | waiting
  | processing
  | destroying
  | stopped
  deriving DecidableEq, Repr

/-- `CDbThread`.  `batch` is the local list of `onProcess` from its iterator
on.  `allocated` and `destroyed` are the request messages that were handed to
the thread and those it has destroyed; `staleReads` are the messages that were
read after they had been destroyed. -/
structure DbThread (κ ε : Type*) where
  listCommand : List (SDbCommand κ)
  batch : List (SDbCommand κ)
  env : ε
  isConnectDb : Bool
  state : ThreadState
  phase : WorkerPhase
  allocated : List ℕ
  destroyed : List ℕ
  staleReads : List ℕ

namespace DbThread

variable {κ ρ ε : Type*}

/-- A thread after `init`, before its worker has run. -/
def initial (env : ε) : DbThread κ ε where
  listCommand := []
  batch := []
  env := env
  isConnectDb := true
  state := .none
  phase := .starting
  allocated := []
  destroyed := []
  staleReads := []

/-- `CDbThread::query`. -/
def query (W : DbWork κ ρ ε) (t : DbThread κ ε) (c : SDbCommand κ) :
    DbThread κ ε :=
  { t with
    listCommand := t.listCommand ++ [c]
    allocated := if W.isFlush c.command then t.allocated
      else t.allocated ++ [c.id] }

/-- `IRunnable::quit`. -/
def quit (t : DbThread κ ε) : DbThread κ ε :=
  if t.state = .none then t else { t with state := .quit }

/-- The whole queue is taken under its lock. -/
def take (t : DbThread κ ε) : DbThread κ ε :=
  { t with batch := t.listCommand, listCommand := [], phase := .processing }

/-- An attempt reads the request message. -/
def readMessage (t : DbThread κ ε) (id : ℕ) : DbThread κ ε :=
  if id ∈ t.destroyed then { t with staleReads := t.staleReads ++ [id] } else t

/-- `destroyMessage`, run when the scope of the loop body is left. -/
def destroyMessage (t : DbThread κ ε) (id : ℕ) : DbThread κ ε :=
  { t with destroyed := t.destroyed ++ [id] }

/-- What becomes of a command: first the cache is asked, then the handler, and
the cache hears of a success. -/
def attempt (W : DbWork κ ρ ε) (command : κ) (env : ε) : Outcome ρ × ε :=
  let (hit, response, env) := W.onPreCache command env
  if hit then
    (.done eDBRC_OK response, env)
  else
    let (nErrorCode, response, env) := W.onDbCommand command env
    if nErrorCode = eDBRC_LostConnection then
      (.lost, env)
    else if nErrorCode = eDBRC_OK then
      (.done nErrorCode response, W.onPostCache command response env)
    else
      (.done nErrorCode response, env)

/-- The body of the loop of `onProcess` for the command `c`, with `rest` still
to come.  When the connection is lost the command and the rest are spliced
back to the front of the queue. -/
def process (W : DbWork κ ρ ε) (t : DbThread κ ε) (c : SDbCommand κ)
    (rest : List (SDbCommand κ)) : Outcome ρ × DbThread κ ε :=
  if W.isFlush c.command then
    (.flushed, { t with env := W.flushCache t.env, batch := rest })
  else
    let (outcome, env) := attempt W c.command t.env
    let t := { t.readMessage c.id with env := env }
    match outcome with
    | .lost =>
        (.lost,
          { t with
            listCommand := c :: rest ++ t.listCommand
            batch := [] }.destroyMessage c.id)
    | outcome => (outcome, { t with batch := rest }.destroyMessage c.id)

/-- `onDestroy`, and the end of the thread. -/
def onDestroy (W : DbWork κ ρ ε) (t : DbThread κ ε) : DbThread κ ε :=
  { t with
    env := W.flushCache t.env
    isConnectDb := false
    state := .none
    phase := .stopped }

/-! ## Steps -/

/-- What a thread does, and what is done to it. -/
inductive Label (κ ρ : Type*)
  | query (c : SDbCommand κ)
  | quit
  | take
  | process (c : SDbCommand κ) (outcome : Outcome ρ)
  | destroy
  | internal

/-- The steps of the worker, as opposed to what is done to its thread. -/
def isOwnStep : Label κ ρ → Bool
  | .query _ => false
  | .quit => false
  | _ => true

/-- The step relation of a thread. -/
inductive Step (W : DbWork κ ρ ε) :
    DbThread κ ε → Label κ ρ → DbThread κ ε → Prop
  | query {t : DbThread κ ε} {c : SDbCommand κ}
      (hfresh : W.isFlush c.command = false → c.id ∉ t.allocated) :
      Step W t (.query c) (t.query W c)
  | quit {t : DbThread κ ε} : Step W t .quit t.quit
  | start {t : DbThread κ ε} (hphase : t.phase = .starting) :
      Step W t .internal { t with state := .normal, phase := .loop }
  | check {t : DbThread κ ε}
      (hphase : t.phase = .loop) (hstate : t.state ≠ .quit) :
      Step W t .internal { t with phase := .beginning }
  | stop {t : DbThread κ ε}
      (hphase : t.phase = .loop) (hstate : t.state = .quit) :
      Step W t .internal { t with phase := .destroying }
  | beginProcess {t : DbThread κ ε} {env : ε}
      (hphase : t.phase = .beginning) (hbegin : W.beginProcess t.env env) :
      Step W t .internal
        { t with env := env, isConnectDb := true, phase := .waiting }
  | timeout {t : DbThread κ ε}
      (hphase : t.phase = .waiting) (hqueue : t.listCommand = []) :
      Step W t .internal { t with phase := .loop }
  | take {t : DbThread κ ε}
      (hphase : t.phase = .waiting) (hqueue : t.listCommand ≠ []) :
      Step W t .take t.take
  | process {t : DbThread κ ε} {c : SDbCommand κ}
      {rest : List (SDbCommand κ)}
      (hphase : t.phase = .processing) (hbatch : t.batch = c :: rest) :
      Step W t (.process c (t.process W c rest).1) (t.process W c rest).2
  | processed {t : DbThread κ ε}
      (hphase : t.phase = .processing) (hbatch : t.batch = []) :
      Step W t .internal { t with phase := .loop }
  | destroy {t : DbThread κ ε} (hphase : t.phase = .destroying) :
      Step W t .destroy (t.onDestroy W)

/-! ## What a command does -/

section

variable (W : DbWork κ ρ ε) (t : DbThread κ ε) (c : SDbCommand κ)
  (rest : List (SDbCommand κ))

theorem attempt_cases (command : κ) (env : ε) :
    (attempt W command env).1 = .lost ∨
      ∃ nErrorCode response,
        (attempt W command env).1 = .done nErrorCode response := by
  unfold attempt
  dsimp only
  split
  · exact Or.inr ⟨_, _, rfl⟩
  · split
    · exact Or.inl rfl
    · split
      · exact Or.inr ⟨_, _, rfl⟩
      · exact Or.inr ⟨_, _, rfl⟩

theorem process_of_flush (hflush : W.isFlush c.command = true) :
    t.process W c rest =
      (.flushed, { t with env := W.flushCache t.env, batch := rest }) := by
  simp [process, hflush]

theorem process_of_lost (hflush : W.isFlush c.command = false)
    (hlost : (attempt W c.command t.env).1 = .lost) :
    t.process W c rest =
      (.lost,
        { t.readMessage c.id with
          env := (attempt W c.command t.env).2
          listCommand := c :: rest ++ (t.readMessage c.id).listCommand
          batch := [] }.destroyMessage c.id) := by
  simp [process, hflush, hlost]

theorem process_of_done {nErrorCode : UInt32} {response : Option ρ}
    (hflush : W.isFlush c.command = false)
    (hdone : (attempt W c.command t.env).1 = .done nErrorCode response) :
    t.process W c rest =
      (.done nErrorCode response,
        { t.readMessage c.id with
          env := (attempt W c.command t.env).2
          batch := rest }.destroyMessage c.id) := by
  simp [process, hflush, hdone]

/-- An attempt only notes what it reads. -/
theorem exists_readMessage_eq (id : ℕ) :
    ∃ stale, t.readMessage id = { t with staleReads := stale } := by
  unfold readMessage
  split
  · exact ⟨_, rfl⟩
  · exact ⟨t.staleReads, rfl⟩

theorem exists_quit_eq : ∃ state, t.quit = { t with state := state } := by
  unfold quit
  split
  · exact ⟨t.state, rfl⟩
  · exact ⟨_, rfl⟩

theorem readMessage_of_not_mem {id : ℕ} (h : id ∉ t.destroyed) :
    t.readMessage id = t := by
  simp [readMessage, h]

end

end DbThread

/-- A thread after `init`. -/
def threadSystem {κ ρ ε : Type*} (W : DbWork κ ρ ε) (env : ε) :
    TransitionSystem (DbThread κ ε) (DbThread.Label κ ρ) where
  init t := t = DbThread.initial env
  step := DbThread.Step W

/-! ## The handlers at work -/

/-- A cache `χ` beside the connection, as the thread sees it. -/
structure CacheOps (σ χ : Type*) where
  beginProcess : DbConnection σ × χ → DbConnection σ × χ → Prop
  onPreCache : DbCommand → DbConnection σ × χ →
    Bool × Option DbResponse × DbConnection σ × χ
  onPostCache : DbCommand → Option DbResponse → DbConnection σ × χ →
    DbConnection σ × χ
  flushCache : DbConnection σ × χ → DbConnection σ × χ

/-- The command handlers behind a cache. -/
def handlerWork {σ χ : Type*} (env : HandlerEnv σ) (cache : CacheOps σ χ) :
    DbWork DbCommand DbResponse (DbConnection σ × χ) where
  isFlush := DbCommand.isFlush
  beginProcess := cache.beginProcess
  onPreCache := cache.onPreCache
  onDbCommand command s :=
    let (nErrorCode, response, conn) := onDbCommand env command s.1
    (nErrorCode, response, conn, s.2)
  onPostCache := cache.onPostCache
  flushCache := cache.flushCache

/-- The cache when it is not enabled.  The client may be in any state after a
ping or a reconnection. -/
def noCache (σ : Type*) : CacheOps σ Unit where
  beginProcess s s' := s'.1.replies = s.1.replies
  onPreCache _ s := (false, none, s)
  onPostCache _ _ s := s
  flushCache s := s

end RealtimeEx.Db
