import RealtimeEx.Db.DbThreadQueue

/-!
# Ownership of request messages

A request message belongs to the queue until its command has been processed,
and is destroyed then.  The loop destroys it whenever it leaves the scope of
its body, also when the connection was lost and the command goes back into the
queue.  A message is therefore destroyed once for every attempt, and all goes
well exactly as long as no attempt loses the connection.
-/

set_option linter.unusedSectionVars false

namespace RealtimeEx.Db

namespace DbThread

variable {κ ρ ε : Type*} {W : DbWork κ ρ ε} {t t' : DbThread κ ε}
  {l : Label κ ρ} {ls : List (Label κ ρ)}

/-! ## Messages that wait -/

/-- The request messages of commands, in order. -/
def messages (W : DbWork κ ρ ε) (cs : List (SDbCommand κ)) : List ℕ :=
  (cs.filter fun c => W.isFlush c.command = false).map SDbCommand.id

theorem messages_cons_of_flush {c : SDbCommand κ}
    (h : W.isFlush c.command = true) (cs : List (SDbCommand κ)) :
    messages W (c :: cs) = messages W cs := by
  simp [messages, h]

theorem messages_cons_of_not_flush {c : SDbCommand κ}
    (h : W.isFlush c.command = false) (cs : List (SDbCommand κ)) :
    messages W (c :: cs) = c.id :: messages W cs := by
  simp [messages, h]

/-- Every message handed to the thread is waiting or has been destroyed once,
and no message was read after it had been destroyed. -/
structure Owned (W : DbWork κ ρ ε) (t : DbThread κ ε) : Prop where
  once : ∀ id ∈ t.allocated,
    (messages W t.waiting).count id + t.destroyed.count id = 1
  fresh : t.staleReads = []

/-! ## Accounting -/

/-- How often the connection was lost while a command was attempted. -/
def losses (id : ℕ) (ls : List (Label κ ρ)) : ℕ :=
  ls.countP fun l =>
    match l with
    | .process c .lost => c.id = id
    | _ => false

theorem losses_append (id : ℕ) (ls ks : List (Label κ ρ)) :
    losses id (ls ++ ks) = losses id ls + losses id ks :=
  List.countP_append

theorem losses_lost (id : ℕ) (c : SDbCommand κ) :
    losses id ([.process c .lost] : List (Label κ ρ)) =
      if c.id = id then 1 else 0 := by
  simp [losses, List.countP_cons]

theorem losses_eq_zero (id : ℕ) (h : ∀ c, l ≠ .process c .lost) :
    losses id [l] = 0 := by
  match l with
  | .process c .lost => exact absurd rfl (h c)
  | .process _ .flushed => rfl
  | .process _ (.done ..) => rfl
  | .query _ => rfl
  | .quit => rfl
  | .take => rfl
  | .destroy => rfl
  | .internal => rfl

/-- The books of a thread: a message is destroyed once for every attempt. -/
structure Books (W : DbWork κ ρ ε) (ls : List (Label κ ρ))
    (t : DbThread κ ε) : Prop where
  idle : t.phase ≠ .processing → t.batch = []
  nodup : t.allocated.Nodup
  mem : ∀ id ∈ messages W t.waiting, id ∈ t.allocated
  balance : ∀ id, (messages W t.waiting).count id + t.destroyed.count id =
    t.allocated.count id + losses id ls
  lost_mem : ∀ id, losses id ls ≠ 0 → id ∈ t.allocated
  fresh : (∀ id, losses id ls = 0) → t.staleReads = []

theorem books_initial (env : ε) :
    Books W ([] : List (Label κ ρ)) (initial env) := by
  constructor <;> simp [initial, waiting, messages, losses]

/-- Steps that leave the messages alone. -/
theorem Books.of_eq (h : Books W ls t) (hl : ∀ c, l ≠ .process c .lost)
    (hidle : t'.phase ≠ .processing → t'.batch = [])
    (hwaiting : messages W t'.waiting = messages W t.waiting)
    (hallocated : t'.allocated = t.allocated)
    (hdestroyed : t'.destroyed = t.destroyed)
    (hstale : t'.staleReads = t.staleReads) : Books W (ls ++ [l]) t' := by
  have hlosses : ∀ id, losses id (ls ++ [l]) = losses id ls := by
    intro id
    rw [losses_append, losses_eq_zero id hl, Nat.add_zero]
  constructor
  · exact hidle
  · rw [hallocated]
    exact h.nodup
  · rw [hallocated, hwaiting]
    exact h.mem
  · intro id
    rw [hwaiting, hdestroyed, hallocated, hlosses]
    exact h.balance id
  · intro id hid
    rw [hallocated]
    exact h.lost_mem id (hlosses id ▸ hid)
  · intro hnone
    rw [hstale]
    exact h.fresh fun id => (hlosses id).symm.trans (hnone id)

theorem Books.query (h : Books W ls t) {c : SDbCommand κ}
    (hfresh : W.isFlush c.command = false → c.id ∉ t.allocated) :
    Books W (ls ++ [.query c]) (t.query W c) := by
  cases hflush : W.isFlush c.command with
  | true =>
      apply h.of_eq
      · simp
      · exact h.idle
      · simp [DbThread.query, waiting, messages, hflush]
      · simp [DbThread.query, hflush]
      · rfl
      · rfl
  | false =>
      have hnew := hfresh hflush
      have hwaiting : messages W (t.query W c).waiting =
          messages W t.waiting ++ [c.id] := by
        simp [DbThread.query, waiting, messages, hflush]
      have hallocated : (t.query W c).allocated = t.allocated ++ [c.id] := by
        simp [DbThread.query, hflush]
      have hlosses : ∀ id, losses id (ls ++ [.query c]) = losses id ls := by
        intro id
        rw [losses_append]
        rfl
      constructor
      · exact h.idle
      · rw [hallocated]
        exact List.Nodup.append h.nodup (List.nodup_singleton _)
          (by simpa using hnew)
      · rw [hallocated, hwaiting]
        intro id hid
        rcases List.mem_append.mp hid with hold | hself
        · exact List.mem_append_left _ (h.mem id hold)
        · exact List.mem_append_right _ hself
      · intro id
        rw [hwaiting, hallocated, hlosses, List.count_append,
          List.count_append]
        have hold := h.balance id
        have hsame : (t.query W c).destroyed = t.destroyed := rfl
        rw [hsame]
        omega
      · intro id hid
        rw [hallocated]
        exact List.mem_append_left _ (h.lost_mem id (hlosses id ▸ hid))
      · intro hnone
        exact h.fresh fun id => (hlosses id).symm.trans (hnone id)

/-- An attempt destroys its message, whether the command waits again or
not. -/
theorem Books.process (h : Books W ls t) {c : SDbCommand κ}
    {rest : List (SDbCommand κ)}
    (hphase : t.phase = .processing) (hbatch : t.batch = c :: rest) :
    Books W (ls ++ [.process c (t.process W c rest).1])
      (t.process W c rest).2 := by
  have hwaiting : t.waiting = c :: (rest ++ t.listCommand) := by
    rw [waiting, hbatch]
    rfl
  cases hflush : W.isFlush c.command with
  | true =>
      rw [process_of_flush W t c rest hflush]
      apply h.of_eq
      · intro d heq
        cases heq
      · exact fun hne => absurd hphase hne
      · rw [hwaiting, messages_cons_of_flush hflush]
        rfl
      · rfl
      · rfl
      · rfl
  | false =>
      replace hwaiting : messages W t.waiting =
          c.id :: messages W (rest ++ t.listCommand) := by
        rw [hwaiting, messages_cons_of_not_flush hflush]
      have hc : c.id ∈ t.allocated := by
        apply h.mem
        rw [hwaiting]
        exact List.mem_cons_self
      have hread : (∀ id, losses id ls = 0) →
          (t.readMessage c.id).staleReads = [] := by
        intro hnone
        have hbalance := h.balance c.id
        rw [hwaiting, hnone, List.count_eq_one_of_mem h.nodup hc] at hbalance
        have hgone : c.id ∉ t.destroyed := by
          rw [← List.count_eq_zero]
          simp at hbalance
          omega
        rw [readMessage_of_not_mem t hgone]
        exact h.fresh hnone
      obtain ⟨stale, hstale⟩ := exists_readMessage_eq t c.id
      rw [hstale] at hread
      rcases attempt_cases W c.command t.env with hlost | ⟨code, r, hdone⟩
      · rw [process_of_lost W t c rest hflush hlost, hstale]
        have hsame : messages W (c :: rest ++ t.listCommand) =
            messages W t.waiting := by
          rw [waiting, hbatch]
        constructor
        · exact fun _ => rfl
        · exact h.nodup
        · intro id hid
          apply h.mem
          rw [← hsame]
          exact hid
        · intro id
          have hold := h.balance id
          rw [losses_append, losses_lost]
          simp only [destroyMessage, waiting, List.nil_append] at hold ⊢
          rw [hsame, List.count_append, List.count_singleton]
          grind [waiting]
        · intro id hid
          rw [losses_append, losses_lost] at hid
          by_cases heq : c.id = id
          · rw [← heq]
            exact hc
          · exact h.lost_mem id (by simpa [heq] using hid)
        · intro hnone
          apply hread
          intro id
          have hid := hnone id
          rw [losses_append] at hid
          omega
      · rw [process_of_done W t c rest hflush hdone, hstale]
        have hlosses : ∀ id, losses id (ls ++ [.process c (.done code r)]) =
            losses id ls := by
          intro id
          rw [losses_append]
          rfl
        constructor
        · exact fun hne => absurd hphase hne
        · exact h.nodup
        · intro id hid
          apply h.mem
          rw [hwaiting]
          exact List.mem_cons_of_mem _ hid
        · intro id
          have hold := h.balance id
          rw [hwaiting] at hold
          rw [hlosses]
          simp only [destroyMessage, waiting, List.count_append,
            List.count_cons, List.count_nil] at hold ⊢
          omega
        · intro id hid
          exact h.lost_mem id (hlosses id ▸ hid)
        · intro hnone
          apply hread
          intro id
          rw [← hlosses]
          exact hnone id

theorem Books.step (h : Books W ls t) (hstep : Step W t l t') :
    Books W (ls ++ [l]) t' := by
  cases hstep with
  | query hfresh => exact h.query hfresh
  | quit =>
      obtain ⟨state, hquit⟩ := exists_quit_eq t
      rw [hquit]
      exact h.of_eq (by simp) h.idle rfl rfl rfl rfl
  | process hphase hbatch => exact h.process hphase hbatch
  | take hphase hqueue =>
      have hbatch : t.batch = [] := h.idle (by simp [hphase])
      apply h.of_eq
      · simp
      · exact fun hne => absurd rfl hne
      · simp [DbThread.take, waiting, hbatch]
      · rfl
      · rfl
      · rfl
  | start hphase =>
      exact h.of_eq (by simp) (fun _ => h.idle (by simp [hphase]))
        rfl rfl rfl rfl
  | check hphase =>
      exact h.of_eq (by simp) (fun _ => h.idle (by simp [hphase]))
        rfl rfl rfl rfl
  | stop hphase =>
      exact h.of_eq (by simp) (fun _ => h.idle (by simp [hphase]))
        rfl rfl rfl rfl
  | beginProcess hphase =>
      exact h.of_eq (by simp) (fun _ => h.idle (by simp [hphase]))
        rfl rfl rfl rfl
  | timeout hphase =>
      exact h.of_eq (by simp) (fun _ => h.idle (by simp [hphase]))
        rfl rfl rfl rfl
  | processed hphase hbatch =>
      exact h.of_eq (by simp) (fun _ => hbatch) rfl rfl rfl rfl
  | destroy hphase =>
      exact h.of_eq (by simp) (fun _ => h.idle (by simp [hphase]))
        rfl rfl rfl rfl

theorem books_of_run {env : ε} {t₀ : DbThread κ ε}
    (hinit : (threadSystem W env).init t₀)
    (hrun : (threadSystem W env).Run t₀ ls t) : Books W ls t := by
  cases hinit
  induction hrun with
  | nil => exact books_initial env
  | snoc _ hstep ih => exact ih.step hstep

/-! ## Ownership along a run -/

theorem losses_pos {c : SDbCommand κ} (h : .process c .lost ∈ ls) :
    0 < losses c.id ls :=
  List.countP_pos_iff.mpr ⟨_, h, by simp⟩

theorem losses_eq_zero_of_forall (h : ∀ c, .process c .lost ∉ ls) (id : ℕ) :
    losses id ls = 0 := by
  rw [losses, List.countP_eq_zero]
  intro l hl
  match l with
  | .process c .lost => exact absurd hl (h c)
  | .process _ .flushed => simp
  | .process _ (.done ..) => simp
  | .query _ => simp
  | .quit => simp
  | .take => simp
  | .destroy => simp
  | .internal => simp

/-- Request messages are destroyed once, after the last attempt, and never
read afterwards, exactly when no attempt loses the connection. -/
theorem owned_iff {env : ε} {t₀ : DbThread κ ε}
    (hinit : (threadSystem W env).init t₀)
    (hrun : (threadSystem W env).Run t₀ ls t) :
    Owned W t ↔ ∀ c, .process c .lost ∉ ls := by
  have hbooks := books_of_run hinit hrun
  constructor
  · intro h c hmem
    have hpos := losses_pos hmem
    have hc := hbooks.lost_mem c.id hpos.ne'
    have hbalance := hbooks.balance c.id
    rw [h.once c.id hc, List.count_eq_one_of_mem hbooks.nodup hc] at hbalance
    omega
  · intro h
    have hnone := losses_eq_zero_of_forall h
    refine ⟨fun id hid => ?_, hbooks.fresh hnone⟩
    rw [hbooks.balance id, hnone id,
      List.count_eq_one_of_mem hbooks.nodup hid]

/-! ## A client that loses its first statement -/

/-- A client that reports `nError` for its first statement and then answers
without a result. -/
def failingClient (nError : UInt32) : MysqlClient ℕ where
  escape text := text
  query _ n :=
    (⟨if n = 0 then some nError else none, .error 0, [], 0⟩, n + 1)

/-- No message type is known. -/
def emptySchema : Schema := ⟨fun _ => none, fun _ => none⟩

/-- Nothing but basic fields can be converted. -/
def plainFormat : TextFormat where
  doubleText _ := []
  textDouble _ := none
  floatText _ := []
  messageText _ _ := none
  textMessage _ _ := none

/-- The thread's own handlers, without a cache. -/
def failingWork (nError : UInt32) :
    DbWork DbCommand DbResponse (DbConnection ℕ × Unit) :=
  handlerWork ⟨plainFormat, emptySchema, failingClient nError⟩ (noCache ℕ)

/-- A command without arguments. -/
def plainCall : SDbCommand DbCommand := ⟨0, .call 0 [] [], true⟩

/-- The thread attempts a command with the given outcome. -/
theorem exists_run_failingWork (nError : UInt32)
    (outcome : Outcome DbResponse)
    (houtcome : (DbThread.process (failingWork nError)
      { (initial ((⟨0, []⟩, ()) : DbConnection ℕ × Unit)).query
          (failingWork nError) plainCall with
        listCommand := []
        batch := [plainCall]
        state := .normal
        phase := .processing } plainCall []).1 = outcome) :
    ∃ t, (threadSystem (failingWork nError) (⟨0, []⟩, ())).Run
      (initial (⟨0, []⟩, ()))
      [.query plainCall, .internal, .internal, .internal, .take,
        .process plainCall outcome] t := by
  have hquery : (threadSystem (failingWork nError) (⟨0, []⟩, ())).Run
      (initial (⟨0, []⟩, ())) [.query plainCall] _ :=
    .single (.query fun _ => by simp [initial])
  have hstart := hquery.snoc (.start rfl)
  have hcheck := hstart.snoc (.check rfl fun h => by cases h)
  have hbegin := hcheck.snoc
    (.beginProcess rfl
      (show (noCache ℕ).beginProcess _ (⟨0, []⟩, ()) from rfl))
  have htake := hbegin.snoc (.take rfl fun h => by cases h)
  have hprocess := htake.snoc (.process (c := plainCall) rfl rfl)
  rw [← houtcome]
  exact ⟨_, hprocess⟩

theorem owned_iff_answered : ∃ t, Owned (failingWork 2006) t := by
  obtain ⟨t, hrun⟩ := exists_run_failingWork 2006
    (.done eDBRC_MysqlError none) rfl
  exact ⟨t, (owned_iff rfl hrun).mpr (by simp)⟩

/-- The client reports a lost connection by the code's own number: the
command waits again, and its message is gone. -/
theorem not_owned_lost :
    ∃ t, (threadSystem (failingWork eMET_LostConnection) (⟨0, []⟩, ())).Run
        (initial (⟨0, []⟩, ()))
        [.query plainCall, .internal, .internal, .internal, .take,
          .process plainCall .lost] t ∧
      ¬ Owned (failingWork eMET_LostConnection) t := by
  obtain ⟨t, hrun⟩ := exists_run_failingWork eMET_LostConnection .lost rfl
  refine ⟨t, hrun, fun h => ?_⟩
  have hbooks := books_of_run rfl hrun
  have hmem : Label.process plainCall (.lost : Outcome DbResponse) ∈
      [.query plainCall, .internal, .internal, .internal, .take,
        .process plainCall .lost] := by simp
  have hpos := losses_pos hmem
  have hc := hbooks.lost_mem plainCall.id hpos.ne'
  have hbalance := hbooks.balance plainCall.id
  rw [h.once plainCall.id hc, List.count_eq_one_of_mem hbooks.nodup hc]
    at hbalance
  omega

end DbThread

end RealtimeEx.Db
