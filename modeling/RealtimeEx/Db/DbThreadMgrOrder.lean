import RealtimeEx.Db.DbThreadMgrRun
import RealtimeEx.Db.DbThreadOwnership

/-!
# Answers to database commands

Every command that is accepted with a callback is answered once, except for a
flush, which is not answered at all.  Commands of one key go to one thread,
which attempts them in the order in which they were submitted: a command that
lost its connection is attempted again before everything behind it.
-/

set_option linter.unusedSectionVars false

namespace RealtimeEx.Db

namespace DbThreadMgr

variable {n : ℕ} [NeZero n] {ρ ε : Type*} {renv : RequestEnv}
  {W : DbWork DbCommand ρ ε} {env : Fin n → ε}
  {s : DbThreadMgr n ρ ε} {l : Label n ρ} {ls : List (Label n ρ)}

/-- Commands are answered once, and carried out in the order of their key.
A result that was collected and not yet delivered is in `listResultInfo`. -/
structure Answers (W : DbWork DbCommand ρ ε) (ls : List (Label n ρ))
    (s : DbThreadMgr n ρ ε) : Prop where
  sameThread : ∀ c threads, (c, threads) ∈ accepted ls →
    c.command.isFlush = false →
      ∃ key, c.command.key = some key ∧
        threads = [Fin.ofNat n key.toUInt32.toNat]
  once : ∀ c i, (c, [i]) ∈ accepted ls → c.callback →
    c.command.isFlush = false →
      (s.delivered ++ s.listResultInfo).countP
          (fun r => r.command.id = c.id) +
        (s.vecDbThread i).waiting.countP (fun d => d.id = c.id) = 1
  oneWay : ∀ r ∈ s.delivered ++ s.listResultInfo,
    r.command.callback ∧ r.command.command.isFlush = false
  order : ∀ i,
    ((s.delivered ++ s.listResultInfo).filter fun r => r.thread = i).map
        DbResultInfo.command ++
      (s.vecDbThread i).waiting.filter (DbThread.isAnswerable W) =
        (submitted i ls).filter (DbThread.isAnswerable W)
  attempts : ∀ pre post i c outcome,
    ls = pre ++ .thread i (.process c outcome) :: post →
      ∃ rest, submitted i pre = completed i pre ++ c :: rest
  progress : ∀ i, (s.vecDbThread i).waiting ≠ [] →
    (s.vecDbThread i).state ≠ .quit →
    (s.vecDbThread i).phase ≠ .destroying ∧
      (s.vecDbThread i).phase ≠ .stopped →
    ((∀ e, ∃ e', W.beginProcess e e') →
      ∃ l t, DbThread.isOwnStep l ∧
        DbThread.Step W (s.vecDbThread i) l t) ∧
    ∀ l t, DbThread.isOwnStep l → DbThread.Step W (s.vecDbThread i) l t →
      (∀ c, l ≠ .process c .lost) → t.work < (s.vecDbThread i).work

/-! ## Commands and their threads -/

theorem isOwnStep_of_run {s₀ : DbThreadMgr n ρ ε}
    (hrun : (dbThreadMgrSystem renv W env).Run s₀ ls s) :
    ∀ i k, .thread i k ∈ ls → DbThread.isOwnStep k := by
  induction hrun with
  | nil => simp
  | snoc _ hstep ih =>
      intro i k hmem
      rcases List.mem_append.mp hmem with hold | hself
      · exact ih i k hold
      · cases List.mem_singleton.mp hself
        cases hstep with
        | thread hown hstep => exact hown

/-- The commands submitted to a thread are those accepted for it. -/
theorem submitted_eq (i : Fin n)
    (hown : ∀ j k, .thread j k ∈ ls → DbThread.isOwnStep k) :
    submitted i ls = (accepted ls).flatMap fun (c, threads) =>
      (threads.filter (· = i)).map fun _ => c := by
  induction ls using List.reverseRecOn with
  | nil => rfl
  | append_singleton ls l ih =>
      rw [submitted_append, accepted_append, List.flatMap_append,
        ih fun j k h => hown j k (List.mem_append_left _ h)]
      congr 1
      match l with
      | .request r b (some (c, threads)) =>
          rw [submitted_request]
          exact (List.append_nil _).symm
      | .request _ _ none => rfl
      | .thread j k =>
          have hk := DbThread.queried_of_isOwnStep (hown j k (by simp))
          by_cases h : j = i
          · simp [submitted, threadLabels, h, hk, accepted]
          · simp [submitted, threadLabels, h, accepted, DbThread.queried]
      | .quit j =>
          by_cases h : j = i
          · simp [submitted, threadLabels, h, accepted, DbThread.queried]
          · simp [submitted, threadLabels, h, accepted, DbThread.queried]
      | .update => rfl
      | .main => rfl

theorem mem_accepted_of_mem_submitted {i : Fin n}
    {c : SDbCommand DbCommand}
    (hown : ∀ j k, .thread j k ∈ ls → DbThread.isOwnStep k)
    (hc : c ∈ submitted i ls) :
    ∃ threads, (c, threads) ∈ accepted ls ∧ i ∈ threads := by
  rw [submitted_eq i hown] at hc
  obtain ⟨⟨d, threads⟩, hd, hc⟩ := List.mem_flatMap.mp hc
  obtain ⟨j, hj, rfl⟩ := List.mem_map.mp hc
  simp only [List.mem_filter, decide_eq_true_eq] at hj
  exact ⟨threads, hd, hj.2 ▸ hj.1⟩

/-! ## Results and their threads -/

theorem results_thread (i : Fin n) (k : DbThread.Label DbCommand ρ) :
    (results [.thread i k]).map DbResultInfo.command =
        DbThread.answered [k] ∧
      ∀ r ∈ results [.thread i k], r.thread = i := by
  match k with
  | .process c (.done code response) =>
      cases hc : c.callback with
      | true => simp [results, DbThread.answered, hc]
      | false => simp [results, DbThread.answered, hc]
  | .process _ .lost => simp [results, DbThread.answered]
  | .process _ .flushed => simp [results, DbThread.answered]
  | .query _ => simp [results, DbThread.answered]
  | .quit => simp [results, DbThread.answered]
  | .take => simp [results, DbThread.answered]
  | .destroy => simp [results, DbThread.answered]
  | .internal => simp [results, DbThread.answered]

/-- The results of a thread are the answers it gave. -/
theorem results_filter (i : Fin n) :
    ((results ls).filter fun r => r.thread = i).map DbResultInfo.command =
      DbThread.answered (ls.flatMap (threadLabels i)) := by
  induction ls using List.reverseRecOn with
  | nil => rfl
  | append_singleton ls l ih =>
      rw [results_append, List.filter_append, List.map_append, ih,
        List.flatMap_append, DbThread.answered_append,
        List.flatMap_singleton]
      congr 1
      match l with
      | .request r b (some (c, threads)) =>
          simp [results, threadLabels, DbThread.answered]
      | .request _ _ none => rfl
      | .thread j k =>
          obtain ⟨hanswered, hthread⟩ := results_thread j k
          by_cases h : j = i
          · rw [List.filter_eq_self.mpr (by simpa [h] using hthread)]
            simpa [threadLabels, h] using hanswered
          · rw [List.filter_eq_nil_iff.mpr fun r hr => by
              simpa [hthread r hr] using h]
            simp [threadLabels, h, DbThread.answered]
      | .quit j =>
          by_cases h : j = i
          · simp [results, threadLabels, h, DbThread.answered]
          · simp [results, threadLabels, h, DbThread.answered]
      | .update => rfl
      | .main => rfl

/-! ## Counting -/

section

variable {s₀ : DbThreadMgr n ρ ε} (hW : W.isFlush = DbCommand.isFlush)
  (hinit : (dbThreadMgrSystem renv W env).init s₀)
  (hrun : (dbThreadMgrSystem renv W env).Run s₀ ls s)

include hW hinit hrun

/-- The accounts of a thread: what was submitted to it is completed or
waits. -/
theorem submitted_of_run (i : Fin n) :
    submitted i ls = completed i ls ++ (s.vecDbThread i).waiting :=
  have h := projects_of_run hW hinit hrun
  (DbThread.queue_of_run (W := W) rfl (h.run i)).queried_eq

theorem results_of_run (i : Fin n) :
    ((s.delivered ++ s.listResultInfo).filter fun r => r.thread = i).map
        DbResultInfo.command =
      (completed i ls).filter (DbThread.isAnswerable W) := by
  have h := projects_of_run hW hinit hrun
  rw [h.results_eq, results_filter]
  exact DbThread.answered_of_run (h.run i)

/-- A request message stands for one command. -/
theorem eq_of_id {a b : SDbCommand DbCommand × List (Fin n)}
    (ha : a ∈ accepted ls) (hb : b ∈ accepted ls)
    (hid : a.1.id = b.1.id) : a = b :=
  List.inj_on_of_nodup_map (projects_of_run hW hinit hrun).nodup ha hb hid

theorem countP_submitted {c : SDbCommand DbCommand} {i : Fin n}
    (hc : (c, [i]) ∈ accepted ls) :
    (submitted i ls).countP (fun d => d.id = c.id) = 1 := by
  have hown := isOwnStep_of_run hrun
  have hnodup := (projects_of_run hW hinit hrun).nodup
  obtain ⟨before, after, hsplit⟩ := List.append_of_mem hc
  have hzero : ∀ part : List (SDbCommand DbCommand × List (Fin n)),
      c.id ∉ part.map (fun a => a.1.id) →
      (part.flatMap fun (d, threads) =>
        (threads.filter (· = i)).map fun _ => d).countP
          (fun d => d.id = c.id) = 0 := by
    intro part hnot
    rw [List.countP_eq_zero]
    intro d hd
    obtain ⟨a, ha, hd⟩ := List.mem_flatMap.mp hd
    obtain ⟨_, _, rfl⟩ := List.mem_map.mp hd
    intro heq
    apply hnot
    rw [← of_decide_eq_true heq]
    exact List.mem_map_of_mem ha
  rw [hsplit, List.map_append, List.map_cons, List.nodup_append,
    List.nodup_cons] at hnodup
  obtain ⟨-, ⟨hafter, -⟩, hdisjoint⟩ := hnodup
  have hbefore : c.id ∉ before.map fun a => a.1.id :=
    fun h => hdisjoint _ h _ List.mem_cons_self rfl
  rw [submitted_eq i hown, hsplit, List.flatMap_append, List.flatMap_cons,
    List.countP_append, List.countP_append, hzero before hbefore,
    hzero after hafter]
  simp

/-- A result belongs to a command that was submitted to its thread. -/
theorem mem_submitted_of_mem_results {r : DbResultInfo n ρ}
    (hr : r ∈ s.delivered ++ s.listResultInfo) :
    r.command ∈ submitted r.thread ls ∧
      DbThread.isAnswerable W r.command := by
  have hmem : r.command ∈
      (completed r.thread ls).filter (DbThread.isAnswerable W) := by
    rw [← results_of_run hW hinit hrun]
    exact List.mem_map_of_mem (List.mem_filter.mpr ⟨hr, by simp⟩)
  rw [List.mem_filter] at hmem
  rw [submitted_of_run hW hinit hrun]
  exact ⟨List.mem_append_left _ hmem.1, hmem.2⟩

theorem once_of_run {c : SDbCommand DbCommand} {i : Fin n}
    (hc : (c, [i]) ∈ accepted ls) (hcallback : c.callback)
    (hflush : c.command.isFlush = false) :
    (s.delivered ++ s.listResultInfo).countP
        (fun r => r.command.id = c.id) +
      (s.vecDbThread i).waiting.countP (fun d => d.id = c.id) = 1 := by
  have hown := isOwnStep_of_run hrun
  have hself : ∀ j d, d ∈ submitted j ls → d.id = c.id → d = c ∧ j = i := by
    intro j d hd hid
    obtain ⟨threads, hacc, hj⟩ := mem_accepted_of_mem_submitted hown hd
    cases eq_of_id hW hinit hrun hacc hc hid
    exact ⟨rfl, List.mem_singleton.mp hj⟩
  have hresults : (s.delivered ++ s.listResultInfo).countP
      (fun r => r.command.id = c.id) =
        (completed i ls).countP fun d => d.id = c.id := by
    calc
      (s.delivered ++ s.listResultInfo).countP
          (fun r => r.command.id = c.id) =
          ((s.delivered ++ s.listResultInfo).filter
            fun r => r.thread = i).countP
              (fun r => r.command.id = c.id) := by
        rw [List.countP_filter]
        apply List.countP_congr
        intro r hr
        have hr := (mem_submitted_of_mem_results hW hinit hrun hr).1
        have := fun hid => (hself r.thread r.command hr hid).2
        simpa using this
      _ = ((completed i ls).filter (DbThread.isAnswerable W)).countP
            (fun d => d.id = c.id) := by
        rw [← results_of_run hW hinit hrun, List.countP_map]
        rfl
      _ = (completed i ls).countP (fun d => d.id = c.id) := by
        rw [List.countP_filter]
        apply List.countP_congr
        intro d hd
        have hd : d ∈ submitted i ls := by
          rw [submitted_of_run hW hinit hrun]
          exact List.mem_append_left _ hd
        have : d.id = c.id → DbThread.isAnswerable W d := by
          intro hid
          rw [(hself i d hd hid).1, DbThread.isAnswerable, hW, hflush,
            hcallback]
          rfl
        simpa using this
  rw [hresults, ← List.countP_append, ← submitted_of_run hW hinit hrun]
  exact countP_submitted hW hinit hrun hc

theorem attempts_of_run {pre post : List (Label n ρ)} {i : Fin n}
    {c : SDbCommand DbCommand} {outcome : Outcome ρ}
    (hls : ls = pre ++ .thread i (.process c outcome) :: post) :
    ∃ rest, submitted i pre = completed i pre ++ c :: rest := by
  have h := (projects_of_run hW hinit hrun).run i
  rw [hls, List.flatMap_append, List.flatMap_cons] at h
  simp only [threadLabels, if_true] at h
  exact DbThread.queried_of_process (W := W) rfl h

end

/-! ## Answers along a run -/

theorem sameThread_of_run {s₀ : DbThreadMgr n ρ ε}
    (hrun : (dbThreadMgrSystem renv W env).Run s₀ ls s) :
    ∀ c threads, (c, threads) ∈ accepted ls → c.command.isFlush = false →
      ∃ key, c.command.key = some key ∧
        threads = [Fin.ofNat n key.toUInt32.toNat] := by
  induction hrun with
  | nil => simp [accepted]
  | snoc _ hstep ih =>
      intro c threads hmem hflush
      rw [accepted_append] at hmem
      rcases List.mem_append.mp hmem with hold | hself
      · exact ih c threads hold hflush
      · cases hstep with
        | request hrunning hroute =>
            cases List.mem_singleton.mp hself
            rcases route_eq_some hroute with hyes | hkey
            · exact absurd (hyes.symm.trans hflush) (by simp)
            · exact hkey
        | _ => cases hself

/-- Every message type is known, and no payload can be parsed. -/
def plainRequests : RequestEnv where
  schema := ⟨fun _ => some ⟨"", [], ""⟩, fun _ => none⟩
  parse _ _ := none

/-- A manager with one thread, and a client that has nothing to report. -/
abbrev oneThread :
    TransitionSystem (DbThreadMgr 1 DbResponse (DbConnection ℕ × Unit))
      (Label 1 DbResponse) :=
  dbThreadMgrSystem plainRequests (DbThread.failingWork 0) fun _ =>
    (⟨0, []⟩, ())

/-- The request is made, and the thread takes it up. -/
def takenUp (request : DbRequest) (command : DbCommand) :
    List (Label 1 DbResponse) :=
  [.request request true (some (⟨0, command, true⟩, [0])),
    .thread 0 .internal, .thread 0 .internal, .thread 0 .internal,
    .thread 0 .take]

theorem exists_run_takenUp (request : DbRequest) (command : DbCommand)
    (hroute : route 1 plainRequests request = some (command, [0])) :
    ∃ s, oneThread.Run (initial fun _ => (⟨0, []⟩, ()))
        (takenUp request command) s ∧
      (s.vecDbThread 0).phase = .processing ∧
      (s.vecDbThread 0).batch = [⟨0, command, true⟩] ∧
      (s.vecDbThread 0).listCommand = [] ∧
      s.exit = .running ∧ s.delivered = [] ∧ s.listResultInfo = [] := by
  have hrequest : oneThread.Run (initial fun _ => (⟨0, []⟩, ()))
      [.request request true (some (⟨0, command, true⟩, [0]))] _ :=
    .single (.request rfl hroute)
  have hstart := hrequest.snoc (.thread (i := 0) rfl (.start rfl))
  have hcheck := hstart.snoc
    (.thread (i := 0) rfl (.check rfl fun h => by cases h))
  have hbegin := hcheck.snoc (.thread (i := 0) rfl
    (.beginProcess rfl
      (show (noCache ℕ).beginProcess _ (⟨0, []⟩, ()) from rfl)))
  have htake := hbegin.snoc
    (.thread (i := 0) rfl (.take rfl fun h => by cases h))
  exact ⟨_, htake, rfl, rfl, rfl, rfl, rfl, rfl⟩

end DbThreadMgr

end RealtimeEx.Db
