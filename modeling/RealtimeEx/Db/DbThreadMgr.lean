import RealtimeEx.Db.Database
import RealtimeEx.Db.DbThreadQueue

/-!
# The database threads

This file models `CDbThreadMgr`: requests become commands and are handed to
the threads, results are collected and delivered by the main thread, and at
exit the main thread stops the threads one after the other and looks at their
queues once more.
-/

set_option linter.unusedSectionVars false

namespace RealtimeEx.Db

/-- `SDbResultInfo`; the callback is that of the command.  `thread` is the
thread that added the result. -/
structure DbResultInfo (n : ℕ) (ρ : Type*) where
  thread : Fin n
  command : SDbCommand DbCommand
  nErrorCode : UInt32
  response : Option ρ

/-- The program point of the main thread in `exit`. -/
inductive ExitPhase
  | running
  | quitting (i : ℕ)
  | joining (i : ℕ)
  | draining (i : ℕ)
  | processing (i : ℕ)
  | exited
  deriving DecidableEq, Repr

/-- `CDbThreadMgr` with `n` threads.  `delivered` are the results whose
callback was run, and `nextMessage` is the next request message. -/
structure DbThreadMgr (n : ℕ) (ρ ε : Type*) where
  vecDbThread : Fin n → DbThread DbCommand ε
  listResultInfo : List (DbResultInfo n ρ)
  delivered : List (DbResultInfo n ρ)
  nextMessage : ℕ
  exit : ExitPhase

namespace DbThreadMgr

/-- A manager with one thread. -/
instance neZero_one : NeZero 1 := ⟨Nat.one_ne_zero⟩

variable {n : ℕ} [NeZero n] {ρ ε : Type*}

/-- A manager after `init`. -/
def initial (env : Fin n → ε) : DbThreadMgr n ρ ε where
  vecDbThread i := DbThread.initial (env i)
  listResultInfo := []
  delivered := []
  nextMessage := 0
  exit := .running

def setThread (s : DbThreadMgr n ρ ε) (i : Fin n) (t : DbThread DbCommand ε) :
    DbThreadMgr n ρ ε :=
  { s with vecDbThread := Function.update s.vecDbThread i t }

@[simp] theorem setThread_self (s : DbThreadMgr n ρ ε) (i : Fin n)
    (t : DbThread DbCommand ε) : (s.setThread i t).vecDbThread i = t := by
  simp [setThread]

theorem setThread_of_ne (s : DbThreadMgr n ρ ε) {i j : Fin n} (h : j ≠ i)
    (t : DbThread DbCommand ε) :
    (s.setThread i t).vecDbThread j = s.vecDbThread j := by
  simp [setThread, h]

/-! ## Requests -/

/-- The threads `CDbThreadMgr::query` hands a command to: a flush with index
zero goes to all of them. -/
def queryThreads (n : ℕ) [NeZero n] (nThreadIndex : UInt32)
    (command : DbCommand) : List (Fin n) :=
  if command.isFlush ∧ nThreadIndex = 0 then
    List.finRange n
  else
    [Fin.ofNat n nThreadIndex.toNat]

/-- What becomes of a request: the command, and the threads it goes to, one
after the other.  A flush is handed to the manager once for every thread. -/
def route (n : ℕ) [NeZero n] (renv : RequestEnv) (request : DbRequest) :
    Option (DbCommand × List (Fin n)) :=
  match request with
  | .flush =>
      some (.flush, (List.range n).flatMap fun i =>
        queryThreads n (UInt32.ofNat i) .flush)
  | request =>
      (renv.accept request).map fun (command, nThreadIndex) =>
        (command, queryThreads n nThreadIndex command)

/-- The command is appended to the queues of its threads. -/
def enqueue (W : DbWork DbCommand ρ ε) (s : DbThreadMgr n ρ ε)
    (c : SDbCommand DbCommand) (threads : List (Fin n)) :
    DbThreadMgr n ρ ε :=
  threads.foldl (fun s i => s.setThread i ((s.vecDbThread i).query W c)) s

/-- `db::query`. -/
def request (W : DbWork DbCommand ρ ε) (s : DbThreadMgr n ρ ε)
    (command : DbCommand) (callback : Bool) (threads : List (Fin n)) :
    DbThreadMgr n ρ ε :=
  { s.enqueue W ⟨s.nextMessage, command, callback⟩ threads with
    nextMessage := s.nextMessage + 1 }

/-! ## Results -/

/-- `addResultInfo`, for a command that was processed and has a callback. -/
def addResultInfo (s : DbThreadMgr n ρ ε) (i : Fin n)
    (l : DbThread.Label DbCommand ρ) : DbThreadMgr n ρ ε :=
  match l with
  | .process c (.done nErrorCode response) =>
      if c.callback then
        { s with
          listResultInfo :=
            s.listResultInfo ++ [⟨i, c, nErrorCode, response⟩] }
      else
        s
  | _ => s

/-- `CDbThreadMgr::update`. -/
def update (s : DbThreadMgr n ρ ε) : DbThreadMgr n ρ ε :=
  { s with
    delivered := s.delivered ++ s.listResultInfo
    listResultInfo := [] }

/-! ## Steps -/

/-- What the manager, its callers and its threads do. -/
inductive Label (n : ℕ) (ρ : Type*)
  | request (request : DbRequest) (callback : Bool)
      (accepted : Option (SDbCommand DbCommand × List (Fin n)))
  | thread (i : Fin n) (l : DbThread.Label DbCommand ρ)
  | quit (i : Fin n)
  | update
  | main

/-- The step relation of the manager. -/
inductive Step (renv : RequestEnv) (W : DbWork DbCommand ρ ε) :
    DbThreadMgr n ρ ε → Label n ρ → DbThreadMgr n ρ ε → Prop
  | request {s : DbThreadMgr n ρ ε} {request : DbRequest} {callback : Bool}
      {command : DbCommand} {threads : List (Fin n)}
      (hrunning : s.exit = .running)
      (hroute : route n renv request = some (command, threads)) :
      Step renv W s
        (.request request callback
          (some (⟨s.nextMessage, command, callback⟩, threads)))
        (s.request W command callback threads)
  | refused {s : DbThreadMgr n ρ ε} {request : DbRequest} {callback : Bool}
      (hrunning : s.exit = .running)
      (hroute : route n renv request = none) :
      Step renv W s (.request request callback none) s
  | thread {s : DbThreadMgr n ρ ε} {i : Fin n}
      {l : DbThread.Label DbCommand ρ} {t : DbThread DbCommand ε}
      (hown : DbThread.isOwnStep l)
      (hstep : DbThread.Step W (s.vecDbThread i) l t) :
      Step renv W s (.thread i l) ((s.setThread i t).addResultInfo i l)
  | update {s : DbThreadMgr n ρ ε}
      (hmain : s.exit = .running ∨ s.exit = .exited) :
      Step renv W s .update s.update
  | exit {s : DbThreadMgr n ρ ε} (hmain : s.exit = .running) :
      Step renv W s .main { s with exit := .quitting 0 }
  | quit {s : DbThreadMgr n ρ ε} {i : Fin n}
      (hmain : s.exit = .quitting i) :
      Step renv W s (.quit i)
        { s.setThread i (s.vecDbThread i).quit with exit := .joining i }
  | join {s : DbThreadMgr n ρ ε} {i : Fin n}
      (hmain : s.exit = .joining i)
      (hphase : (s.vecDbThread i).phase = .stopped) :
      Step renv W s .main { s with exit := .quitting (i + 1) }
  | quitted {s : DbThreadMgr n ρ ε} (hmain : s.exit = .quitting n) :
      Step renv W s .main { s with exit := .draining 0 }
  | skip {s : DbThreadMgr n ρ ε} {i : Fin n}
      (hmain : s.exit = .draining i)
      (hconnect : (s.vecDbThread i).isConnectDb = false) :
      Step renv W s .main { s with exit := .draining (i + 1) }
  | process {s : DbThreadMgr n ρ ε} {i : Fin n}
      (hmain : s.exit = .draining i)
      (hphase : (s.vecDbThread i).phase = .stopped)
      (hconnect : (s.vecDbThread i).isConnectDb) :
      Step renv W s .main
        { s.setThread i { s.vecDbThread i with phase := .beginning } with
          exit := .processing i }
  | processed {s : DbThreadMgr n ρ ε} {i : Fin n}
      (hmain : s.exit = .processing i)
      (hphase : (s.vecDbThread i).phase = .loop) :
      Step renv W s .main
        { s.setThread i { s.vecDbThread i with phase := .stopped } with
          exit := .draining (i + 1) }
  | exited {s : DbThreadMgr n ρ ε} (hmain : s.exit = .draining n) :
      Step renv W s .main { s with exit := .exited }

end DbThreadMgr

/-- A manager after `init`, with its threads and callers. -/
def dbThreadMgrSystem {n : ℕ} [NeZero n] {ρ ε : Type*} (renv : RequestEnv)
    (W : DbWork DbCommand ρ ε) (env : Fin n → ε) :
    TransitionSystem (DbThreadMgr n ρ ε) (DbThreadMgr.Label n ρ) where
  init s := s = DbThreadMgr.initial env
  step := DbThreadMgr.Step renv W

end RealtimeEx.Db
