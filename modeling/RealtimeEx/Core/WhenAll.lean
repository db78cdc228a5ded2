import Mathlib.Algebra.Order.Ring.Int
import Mathlib.Data.List.Count
import Mathlib.Logic.Function.Basic

/-!
# `whenAll`

The promise that `whenAll` makes is fulfilled by the `onFuture` that brings its counter to
zero.  `onFuture` is bound into the callback of every listed future, and a context has one
callback.  Of any other callback it matters only that it is not this `onFuture`.
-/

namespace RealtimeEx.Core

/-- The contexts of the futures when `whenAll` is called, as far as `then` and `setValue` look
at them. -/
structure ListedContexts where
  bReady : ℕ → Bool
  nCoroutineID : ℕ → UInt64

/-- The contexts and the `SWhenAllContext`: `bOnFuture` says which callbacks are its
`onFuture`, `bAllReady` is the `bReady` of the future that `whenAll` returns, and
`nFulfilled` counts how often that has become ready.  A future without a context is
`none`. -/
structure WhenAll extends ListedContexts where
  bOnFuture : ℕ → Bool := fun _ => false
  allFuture : List (Option ℕ) := []
  pendingCount : ℤ
  bAllReady : Bool := false
  nFulfilled : ℕ := 0

namespace WhenAll

/-- `isReady` of a future. -/
def isReady (s : WhenAll) (sFuture : Option ℕ) : Bool := sFuture.any s.bReady

/-- `setValue` of the promise of `whenAll`. -/
def fulfil (s : WhenAll) : WhenAll :=
  if s.bAllReady then s else { s with bAllReady := true, nFulfilled := s.nFulfilled + 1 }

/-- `onFuture`. -/
def onFuture (s : WhenAll) : WhenAll :=
  let s := { s with pendingCount := s.pendingCount - 1 }
  if s.pendingCount = 0 then s.fulfil else s

/-- The call of the callback of a context. -/
def runCallback (s : WhenAll) (c : ℕ) : WhenAll := if s.bOnFuture c then s.onFuture else s

/-- `then` with the bound `onFuture`. -/
def «then» (s : WhenAll) : Option ℕ → WhenAll
  | none => s
  | some c =>
      let s := { s with bOnFuture := Function.update s.bOnFuture c true }
      if s.bReady c then s.runCallback c else s

/-- One step of `SBindArgs::bind`. -/
def bindOne (s : WhenAll) (sFuture : Option ℕ) : WhenAll :=
  { s with allFuture := s.allFuture ++ [sFuture] }.then sFuture

/-- `SBindArgs::bind`. -/
def bind (s : WhenAll) (args : List (Option ℕ)) : WhenAll := args.foldl bindOne s

/-- `whenAll`. -/
def whenAll (contexts : ListedContexts) (args : List (Option ℕ)) : WhenAll :=
  bind { contexts with pendingCount := args.length } args

/-- A context becomes ready. -/
def setReady (s : WhenAll) (c : ℕ) : WhenAll :=
  { s with bReady := Function.update s.bReady c true }

/-- `setValue` of the promise of a context. -/
def setValue (s : WhenAll) (c : ℕ) : WhenAll :=
  if s.bReady c then s
  else if s.nCoroutineID c ≠ 0 then s.setReady c
  else (s.setReady c).runCallback c

/-- How many of the listed futures are not ready, one that is listed twice counted twice. -/
def nPending (s : WhenAll) (args : List (Option ℕ)) : ℕ := args.countP fun f => !s.isReady f

/-- In every order in which promises are fulfilled, the future that `whenAll` returns is ready
exactly when all listed futures are, and it has become ready once. -/
def Exact (contexts : ListedContexts) (args : List (Option ℕ)) : Prop :=
  ∀ promises : List ℕ,
    let s := promises.foldl setValue (whenAll contexts args)
    (s.bAllReady = true ↔ ∀ sFuture ∈ args, s.isReady sFuture = true) ∧
      s.nFulfilled = if s.bAllReady then 1 else 0

/-- The list has a future without a context, or it is not empty, and every future of it that
is not ready is listed once and nobody waits for it. -/
def Callable (contexts : ListedContexts) (args : List (Option ℕ)) : Prop :=
  none ∈ args ∨
    (args ≠ [] ∧ ∀ c, some c ∈ args → contexts.bReady c = false →
      contexts.nCoroutineID c = 0 ∧ args.count (some c) = 1)

/-! ## Binding -/

variable {contexts : ListedContexts} {args : List (Option ℕ)} {s : WhenAll}

theorem toListedContexts_onFuture (s : WhenAll) :
    s.onFuture.toListedContexts = s.toListedContexts := by
  simp only [onFuture, fulfil]
  split
  · split <;> rfl
  · rfl

theorem bOnFuture_onFuture (s : WhenAll) : s.onFuture.bOnFuture = s.bOnFuture := by
  simp only [onFuture, fulfil]
  split
  · split <;> rfl
  · rfl

theorem allFuture_onFuture (s : WhenAll) : s.onFuture.allFuture = s.allFuture := by
  simp only [onFuture, fulfil]
  split
  · split <;> rfl
  · rfl

/-- The result has become ready as often as its flag says, and only when nothing is
pending. -/
structure Counted (s : WhenAll) : Prop where
  once : s.nFulfilled = if s.bAllReady then 1 else 0
  pending : s.bAllReady = true ↔ s.pendingCount ≤ 0

/-- A call of `onFuture` while something is pending. -/
theorem counted_onFuture (h : s.Counted) (hpos : 0 < s.pendingCount) :
    s.onFuture.Counted ∧ s.onFuture.pendingCount = s.pendingCount - 1 := by
  have hnot : s.bAllReady = false := by
    rw [← Bool.not_eq_true, h.pending]
    omega
  have hzero : s.nFulfilled = 0 := by
    rw [h.once, hnot]
    rfl
  simp only [onFuture, fulfil, hnot, Bool.false_eq_true, if_false]
  split
  · rename_i hlast
    refine ⟨⟨by simp [hzero], ?_⟩, rfl⟩
    refine iff_of_true rfl ?_
    dsimp only
    omega
  · rename_i hmore
    refine ⟨⟨by simp [hzero], ?_⟩, rfl⟩
    dsimp only
    refine iff_of_false (by decide) ?_
    omega

/-- The contexts do not change while the callbacks are bound. -/
theorem toListedContexts_bindOne (s : WhenAll) (sFuture : Option ℕ) :
    (s.bindOne sFuture).toListedContexts = s.toListedContexts := by
  cases sFuture with
  | none => rfl
  | some c =>
      simp only [bindOne, «then», runCallback]
      split
      · split
        · rw [toListedContexts_onFuture]
        · rfl
      · rfl

theorem bOnFuture_bindOne (s : WhenAll) (sFuture : Option ℕ) (c : ℕ) :
    (s.bindOne sFuture).bOnFuture c = true ↔ s.bOnFuture c = true ∨ sFuture = some c := by
  cases sFuture with
  | none => simp [bindOne, «then»]
  | some d =>
      have hupdate : (Function.update s.bOnFuture d true) c = true ↔
          s.bOnFuture c = true ∨ some d = some c := by
        by_cases heq : c = d
        · simp [heq]
        · simp [heq, Ne.symm heq]
      simp only [bindOne, «then», runCallback]
      split
      · split
        · rw [bOnFuture_onFuture]
          exact hupdate
        · exact hupdate
      · exact hupdate

theorem allFuture_bindOne (s : WhenAll) (sFuture : Option ℕ) :
    (s.bindOne sFuture).allFuture = s.allFuture ++ [sFuture] := by
  cases sFuture with
  | none => rfl
  | some c =>
      simp only [bindOne, «then», runCallback]
      split
      · split
        · rw [allFuture_onFuture]
        · rfl
      · rfl

/-- A future that is ready is counted at once. -/
theorem counted_bindOne (h : s.Counted) (hpos : 0 < s.pendingCount) (sFuture : Option ℕ) :
    (s.bindOne sFuture).Counted ∧
      (s.bindOne sFuture).pendingCount =
        if s.isReady sFuture then s.pendingCount - 1 else s.pendingCount := by
  cases sFuture with
  | none => exact ⟨⟨h.once, h.pending⟩, rfl⟩
  | some c =>
      by_cases hready : s.bReady c = true
      · have hfires : s.bindOne (some c) =
            ({ s with
              allFuture := s.allFuture ++ [some c]
              bOnFuture := Function.update s.bOnFuture c true } : WhenAll).onFuture := by
          simp [bindOne, «then», runCallback, hready]
        have hcounted := counted_onFuture
          (s := { s with
            allFuture := s.allFuture ++ [some c]
            bOnFuture := Function.update s.bOnFuture c true }) ⟨h.once, h.pending⟩ hpos
        have hlisted : s.isReady (some c) = true := hready
        rw [hfires, if_pos hlisted]
        exact hcounted
      · have hkept : s.bindOne (some c) =
            { s with
              allFuture := s.allFuture ++ [some c]
              bOnFuture := Function.update s.bOnFuture c true } := by
          simp [bindOne, «then», hready]
        have hlisted : ¬ s.isReady (some c) = true := hready
        rw [hkept, if_neg hlisted]
        exact ⟨⟨h.once, h.pending⟩, rfl⟩

theorem isReady_congr {s' : WhenAll} (h : s'.toListedContexts = s.toListedContexts) :
    s'.isReady = s.isReady := by
  funext sFuture
  rw [isReady, isReady, h]

/-- What binding does, if the counter is ahead of the list by what is pending already. -/
theorem bind_spec (args : List (Option ℕ)) {s : WhenAll} (h : s.Counted) (k : ℕ)
    (hcount : s.pendingCount = args.length + k) :
    (s.bind args).Counted ∧ (s.bind args).pendingCount = k + s.nPending args ∧
      (s.bind args).toListedContexts = s.toListedContexts ∧
      (s.bind args).allFuture = s.allFuture ++ args ∧
      ∀ c, (s.bind args).bOnFuture c = true ↔ s.bOnFuture c = true ∨ some c ∈ args := by
  induction args generalizing s k with
  | nil =>
      refine ⟨h, ?_, rfl, (List.append_nil _).symm, by simp [bind]⟩
      rw [bind, List.foldl_nil, hcount, nPending, List.countP_nil, List.length_nil]
      omega
  | cons sFuture args ih =>
      rw [List.length_cons] at hcount
      obtain ⟨hcounted, hpending⟩ := counted_bindOne h (by omega) sFuture
      have hcontexts := toListedContexts_bindOne s sFuture
      have hsame : (s.bindOne sFuture).nPending args = s.nPending args := by
        rw [nPending, nPending, isReady_congr hcontexts]
      have hrest : ∃ j : ℕ, (s.bindOne sFuture).pendingCount = args.length + j ∧
          j + s.nPending args = k + s.nPending (sFuture :: args) := by
        rw [hpending, nPending, nPending, List.countP_cons]
        by_cases hready : s.isReady sFuture = true
        · refine ⟨k, ?_, ?_⟩
          · rw [if_pos hready]
            omega
          · simp [hready]
        · refine ⟨k + 1, ?_, ?_⟩
          · rw [if_neg hready]
            omega
          · simp only [hready]
            simp
            omega
      obtain ⟨j, hj, hsum⟩ := hrest
      obtain ⟨hdone, htotal, hkept, hall, hbound⟩ := ih hcounted j hj
      rw [bind, List.foldl_cons, ← bind]
      refine ⟨hdone, ?_, hkept.trans hcontexts, ?_, fun c => ?_⟩
      · rw [htotal, hsame]
        omega
      · rw [hall, allFuture_bindOne, List.append_assoc]
        rfl
      · rw [hbound, bOnFuture_bindOne, List.mem_cons, or_assoc, eq_comm (a := some c)]

/-! ## Completions -/

/-- What is pending before a context becomes ready, and after it. -/
theorem nPending_setReady {c : ℕ} (hnot : s.bReady c = false) (args : List (Option ℕ)) :
    (s.setReady c).nPending args + args.count (some c) = s.nPending args := by
  have hready : ∀ sFuture, (s.setReady c).isReady sFuture =
      (s.isReady sFuture || sFuture == some c) := by
    intro sFuture
    cases sFuture with
    | none => rfl
    | some d =>
        by_cases heq : d = c
        · simp [isReady, setReady, heq]
        · simp [isReady, setReady, heq]
  have hitself : s.isReady (some c) = false := hnot
  rw [nPending, nPending]
  induction args with
  | nil => rfl
  | cons sFuture args ih =>
      rw [List.countP_cons, List.countP_cons, List.count_cons, hready]
      by_cases heq : sFuture = some c
      · subst heq
        simp only [hitself]
        simp
        omega
      · have hne : (sFuture == some c) = false := by simpa using heq
        rw [hne, Bool.or_false]
        simp only [Bool.false_eq_true, if_false]
        omega

/-- What a completion does: the context was ready, or it becomes ready and its callback is
called or not. -/
theorem setValue_cases (s : WhenAll) (c : ℕ) :
    (s.bReady c = true ∧ s.setValue c = s) ∨
      (s.bReady c = false ∧
        ((s.nCoroutineID c = 0 ∧ s.bOnFuture c = true ∧
            s.setValue c = (s.setReady c).onFuture) ∨
          ((s.nCoroutineID c = 0 → s.bOnFuture c = false) ∧
            s.setValue c = s.setReady c))) := by
  rw [setValue]
  by_cases hready : s.bReady c = true
  · rw [if_pos hready]
    exact .inl ⟨hready, rfl⟩
  · rw [if_neg hready]
    refine .inr ⟨Bool.not_eq_true _ ▸ hready, ?_⟩
    by_cases hwaits : s.nCoroutineID c ≠ 0
    · rw [if_pos hwaits]
      exact .inr ⟨fun h => absurd h hwaits, rfl⟩
    · rw [if_neg hwaits, runCallback]
      by_cases hbound : s.bOnFuture c = true
      · have hsame : (s.setReady c).bOnFuture c = true := hbound
        rw [if_pos hsame]
        exact .inl ⟨not_not.mp hwaits, hbound, rfl⟩
      · have hsame : ¬ (s.setReady c).bOnFuture c = true := hbound
        rw [if_neg hsame]
        exact .inr ⟨fun _ => Bool.not_eq_true _ ▸ hbound, rfl⟩

theorem toListedContexts_setValue (s : WhenAll) (c : ℕ) :
    (s.setValue c).toListedContexts = (s.setReady c).toListedContexts := by
  obtain ⟨hready, hset⟩ | ⟨-, ⟨-, -, hset⟩ | ⟨-, hset⟩⟩ := s.setValue_cases c
  · rw [hset, setReady]
    congr 1
    rw [← hready, Function.update_eq_self]
  · rw [hset, toListedContexts_onFuture]
  · rw [hset]

/-- What holds while promises are fulfilled: the counter is not behind the list. -/
structure Running (contexts : ListedContexts) (args : List (Option ℕ)) (s : WhenAll) :
    Prop where
  counted : s.Counted
  atLeast : s.nPending args ≤ s.pendingCount
  bound : ∀ c, s.bOnFuture c = true ↔ some c ∈ args
  ids : s.nCoroutineID = contexts.nCoroutineID

theorem running_whenAll (contexts : ListedContexts) (hne : args ≠ []) :
    Running contexts args (whenAll contexts args) ∧
      (whenAll contexts args).pendingCount = (whenAll contexts args).nPending args ∧
      (whenAll contexts args).toListedContexts = contexts ∧
      (whenAll contexts args).allFuture = args := by
  have hpos : 0 < args.length := List.length_pos_iff.mpr hne
  have hstart : Counted { contexts with pendingCount := args.length } :=
    ⟨rfl, iff_of_false (by simp) (by dsimp only; omega)⟩
  obtain ⟨hcounted, hpending, hcontexts, hall, hbound⟩ :=
    bind_spec args hstart 0 (by simp)
  have hsame : (whenAll contexts args).nPending args =
      nPending { contexts with pendingCount := args.length } args := by
    rw [whenAll, nPending, nPending, isReady_congr hcontexts]
  have hequal : (whenAll contexts args).pendingCount =
      (whenAll contexts args).nPending args := by
    rw [hsame, whenAll, hpending]
    omega
  refine ⟨⟨hcounted, le_of_eq hequal.symm, fun c => ?_, ?_⟩, hequal, hcontexts, ?_⟩
  · rw [whenAll, hbound]
    simp
  · rw [whenAll, hcontexts]
  · rw [whenAll, hall]
    rfl

/-- What a completion does to the counter and to the list. -/
inductive Completes (args : List (Option ℕ)) (s : WhenAll) (c : ℕ) (s' : WhenAll) : Prop
  | already (hready : s.bReady c = true) (hsame : s' = s)
  | counts (hready : s.bReady c = false) (hwaits : s.nCoroutineID c = 0)
      (hmem : some c ∈ args) (hpending : s'.pendingCount = s.pendingCount - 1)
      (hbReady : s'.bReady = (s.setReady c).bReady)
  | passes (hready : s.bReady c = false) (hwaits : s.nCoroutineID c = 0 → some c ∉ args)
      (hpending : s'.pendingCount = s.pendingCount)
      (hbReady : s'.bReady = (s.setReady c).bReady)

theorem nPending_congr {s' : WhenAll} (h : s'.bReady = s.bReady) (args : List (Option ℕ)) :
    s'.nPending args = s.nPending args := by
  rw [nPending, nPending]
  refine List.countP_congr fun sFuture _ => ?_
  rw [isReady, isReady, h]

theorem Running.step (h : Running contexts args s) (c : ℕ) :
    Running contexts args (s.setValue c) ∧ Completes args s c (s.setValue c) := by
  obtain ⟨hready, hset⟩ | ⟨hready, ⟨hwaits, hbound, hset⟩ | ⟨hpass, hset⟩⟩ :=
    s.setValue_cases c
  · rw [hset]
    exact ⟨h, .already hready rfl⟩
  · have hmem : some c ∈ args := (h.bound c).mp hbound
    have hdrop := nPending_setReady hready args
    have hone : 0 < args.count (some c) := List.count_pos_iff.mpr hmem
    have hatLeast := h.atLeast
    obtain ⟨hcounted, hpending⟩ := counted_onFuture (s := s.setReady c)
      ⟨h.counted.once, h.counted.pending⟩ (show 0 < s.pendingCount by omega)
    have hcontexts := toListedContexts_onFuture (s.setReady c)
    have hbReady : (s.setReady c).onFuture.bReady = (s.setReady c).bReady := by
      rw [hcontexts]
    have hpending' : (s.setReady c).onFuture.pendingCount = s.pendingCount - 1 := hpending
    rw [hset]
    refine ⟨⟨hcounted, ?_, fun d => ?_, ?_⟩, .counts hready hwaits hmem hpending' hbReady⟩
    · rw [nPending_congr hbReady, hpending']
      omega
    · rw [bOnFuture_onFuture]
      exact h.bound d
    · rw [hcontexts]
      exact h.ids
  · have hdrop := nPending_setReady hready args
    have hatLeast := h.atLeast
    rw [hset]
    refine ⟨⟨⟨h.counted.once, h.counted.pending⟩, ?_, h.bound, h.ids⟩,
      .passes hready (fun hwaits hmem => ?_) rfl rfl⟩
    · show ((s.setReady c).nPending args : ℤ) ≤ s.pendingCount
      omega
    · have hbound := (h.bound c).mpr hmem
      rw [hpass hwaits] at hbound
      cases hbound

theorem Running.run (h : Running contexts args s) (promises : List ℕ) :
    Running contexts args (promises.foldl setValue s) := by
  induction promises generalizing s with
  | nil => exact h
  | cons c promises ih => exact ih (h.step c).1

/-! ## Which lists are waited for exactly -/

/-- The counter agrees with the list, and will. -/
structure Single (args : List (Option ℕ)) (s : WhenAll) : Prop where
  equal : s.pendingCount = s.nPending args
  single : ∀ c, some c ∈ args → s.bReady c = false →
    s.nCoroutineID c = 0 ∧ args.count (some c) = 1

theorem Single.step (hrunning : Running contexts args s) (h : Single args s) (c : ℕ) :
    Single args (s.setValue c) := by
  have hids : (s.setValue c).nCoroutineID = s.nCoroutineID := by
    rw [toListedContexts_setValue]
    rfl
  have hbefore : ∀ d, (s.setValue c).bReady d = false → s.bReady d = false := by
    intro d hd
    rw [toListedContexts_setValue] at hd
    by_cases heq : d = c
    · simp [setReady, heq] at hd
    · simpa [setReady, heq] using hd
  refine ⟨?_, fun d hd hready => by rw [hids]; exact h.single d hd (hbefore d hready)⟩
  have hequal := h.equal
  obtain ⟨hready, hsame⟩ | ⟨hready, hwaits, hmem, hpending, hbReady⟩ |
    ⟨hready, hpass, hpending, hbReady⟩ := (hrunning.step c).2
  · rw [hsame]
    exact hequal
  · have hdrop := nPending_setReady hready args
    have hone := (h.single c hmem hready).2
    rw [hpending, nPending_congr hbReady]
    omega
  · have hdrop := nPending_setReady hready args
    have hnone : args.count (some c) = 0 := by
      by_contra hcount
      have hmem : some c ∈ args := List.count_pos_iff.mp (Nat.pos_of_ne_zero hcount)
      exact hpass (h.single c hmem hready).1 hmem
    rw [hpending, nPending_congr hbReady]
    omega

theorem Single.run (hrunning : Running contexts args s) (h : Single args s)
    (promises : List ℕ) : Single args (promises.foldl setValue s) := by
  induction promises generalizing s with
  | nil => exact h
  | cons c promises ih => exact ih (hrunning.step c).1 (h.step hrunning c)

/-- A future that is not ready is listed twice, or somebody waits for it.  It counts at most
once, or not at all, so something is pending for ever. -/
def Stuck (args : List (Option ℕ)) (c : ℕ) (s : WhenAll) : Prop :=
  (s.setReady c).nPending args +
      (if s.bReady c = false ∧ s.nCoroutineID c = 0 then 2 else 1 : ℤ) ≤ s.pendingCount

theorem Stuck.step {d : ℕ} (hrunning : Running contexts args s) (h : Stuck args d s) (c : ℕ) :
    Stuck args d (s.setValue c) := by
  have hids : (s.setValue c).nCoroutineID = s.nCoroutineID := by
    rw [toListedContexts_setValue]
    rfl
  have hbReady' : (s.setValue c).bReady = (s.setReady c).bReady := by
    rw [toListedContexts_setValue]
  rw [Stuck] at h ⊢
  by_cases heq : c = d
  · subst heq
    have htwice : ((s.setValue c).setReady c).bReady = (s.setReady c).bReady := by
      simp only [setReady, hbReady', Function.update_idem]
    have hnow : (s.setValue c).bReady c = true := by
      rw [hbReady']
      exact Function.update_self _ _ _
    rw [nPending_congr htwice, hnow, if_neg (by simp)]
    obtain ⟨hready, hsame⟩ | ⟨hready, hwaits, -, hpending, -⟩ | ⟨-, -, hpending, -⟩ :=
      (hrunning.step c).2
    · rw [hready, if_neg (by simp)] at h
      rw [hsame]
      exact h
    · rw [hready, hwaits, if_pos ⟨rfl, rfl⟩] at h
      rw [hpending]
      omega
    · rw [hpending]
      split at h <;> omega
  · have hother : (s.setValue c).bReady d = s.bReady d := by
      rw [hbReady']
      exact Function.update_of_ne (Ne.symm heq) _ _
    have hcomm : ((s.setValue c).setReady d).bReady = ((s.setReady d).setReady c).bReady := by
      simp only [setReady, hbReady']
      exact Function.update_comm heq _ _ _
    rw [nPending_congr hcomm, hother, hids]
    obtain ⟨hready, hsame⟩ | ⟨hready, -, hmem, hpending, -⟩ | ⟨hready, -, hpending, -⟩ :=
      (hrunning.step c).2
    · have hboth : ((s.setReady d).setReady c).bReady = (s.setReady d).bReady := by
        have hstill : (s.setReady d).bReady c = true :=
          (Function.update_of_ne heq _ _).trans hready
        rw [setReady, ← hstill, Function.update_eq_self]
      rw [nPending_congr hboth, hsame]
      exact h
    · have hstill : (s.setReady d).bReady c = false :=
        (Function.update_of_ne heq _ _).trans hready
      have hdrop := nPending_setReady hstill args
      have hone : 0 < args.count (some c) := List.count_pos_iff.mpr hmem
      rw [hpending]
      omega
    · have hstill : (s.setReady d).bReady c = false :=
        (Function.update_of_ne heq _ _).trans hready
      have hdrop := nPending_setReady hstill args
      rw [hpending]
      omega

theorem Stuck.run {d : ℕ} (hrunning : Running contexts args s) (h : Stuck args d s)
    (promises : List ℕ) : Stuck args d (promises.foldl setValue s) := by
  induction promises generalizing s with
  | nil => exact h
  | cons c promises ih => exact ih (hrunning.step c).1 (h.step hrunning c)

theorem Stuck.not_ready {d : ℕ} (h : Stuck args d s) (hcounted : s.Counted) :
    s.bAllReady = false := by
  rw [← Bool.not_eq_true, hcounted.pending]
  rw [Stuck] at h
  split at h <;> omega

theorem bReady_run (promises : List ℕ) (c : ℕ) :
    (promises.foldl setValue s).bReady c = true ↔ s.bReady c = true ∨ c ∈ promises := by
  induction promises generalizing s with
  | nil => simp
  | cons d promises ih =>
      have hstep : (s.setValue d).bReady c = true ↔ s.bReady c = true ∨ c = d := by
        rw [toListedContexts_setValue]
        by_cases heq : c = d
        · simp [setReady, heq]
        · simp [setReady, heq]
      rw [List.foldl_cons, ih, hstep, List.mem_cons, or_assoc]

/-- Nothing is pending exactly if all listed futures are ready. -/
theorem nPending_eq_zero_iff :
    s.nPending args = 0 ↔ ∀ sFuture ∈ args, s.isReady sFuture = true := by
  rw [nPending, List.countP_eq_zero]
  simp

theorem exact_of_callable (h : Callable contexts args) : Exact contexts args := by
  intro promises
  obtain hnone | ⟨hne, hsingle⟩ := h
  · have hne : args ≠ [] := List.ne_nil_of_mem hnone
    obtain ⟨hrunning, -⟩ := running_whenAll contexts hne
    have hafter := hrunning.run promises
    have hpending : 0 < (promises.foldl setValue (whenAll contexts args)).nPending args := by
      rw [nPending, List.countP_pos_iff]
      exact ⟨none, hnone, rfl⟩
    have hatLeast := hafter.atLeast
    refine ⟨?_, hafter.counted.once⟩
    rw [hafter.counted.pending, ← nPending_eq_zero_iff]
    omega
  · obtain ⟨hrunning, hequal, hcontexts, -⟩ := running_whenAll contexts hne
    have hstart : Single args (whenAll contexts args) := by
      refine ⟨hequal, fun c hmem hready => ?_⟩
      rw [hcontexts] at hready ⊢
      exact hsingle c hmem hready
    have hafter := hrunning.run promises
    have htotal := (hstart.run hrunning promises).equal
    refine ⟨?_, hafter.counted.once⟩
    rw [hafter.counted.pending, ← nPending_eq_zero_iff]
    omega

theorem callable_of_exact (h : Exact contexts args) : Callable contexts args := by
  by_contra hnot
  rw [Callable, not_or, not_and_or] at hnot
  obtain ⟨hnone, hempty | hbad⟩ := hnot
  · obtain rfl := not_not.mp hempty
    have hready := (h []).1.mpr (by simp)
    cases hready
  · simp only [not_forall, exists_prop] at hbad
    obtain ⟨d, hmem, hready, hbad⟩ := hbad
    obtain ⟨hrunning, hequal, hcontexts, -⟩ :=
      running_whenAll contexts (List.ne_nil_of_mem hmem)
    have hstuck : Stuck args d (whenAll contexts args) := by
      have hfalse : (whenAll contexts args).bReady d = false := by
        rw [hcontexts]
        exact hready
      have hdrop := nPending_setReady hfalse args
      have hone : 0 < args.count (some d) := List.count_pos_iff.mpr hmem
      rw [Stuck, hequal, hfalse, hcontexts]
      by_cases hwaits : contexts.nCoroutineID d = 0
      · have htwice : args.count (some d) ≠ 1 := fun hcount => hbad ⟨hwaits, hcount⟩
        rw [if_pos ⟨rfl, hwaits⟩]
        omega
      · rw [if_neg fun hboth => hwaits hboth.2]
        omega
    have hafter := hrunning.run (args.filterMap id)
    have hnever := (hstuck.run hrunning (args.filterMap id)).not_ready hafter.counted
    have hall : ∀ sFuture ∈ args,
        ((args.filterMap id).foldl setValue (whenAll contexts args)).isReady sFuture =
          true := by
      intro sFuture hsFuture
      cases sFuture with
      | none => exact absurd hsFuture hnone
      | some c =>
          refine (bReady_run _ c).mpr (.inr ?_)
          exact List.mem_filterMap.mpr ⟨some c, hsFuture, rfl⟩
    have hfires := (h (args.filterMap id)).1.mpr hall
    rw [hnever] at hfires
    cases hfires

/-- `whenAll` waits exactly for the listed futures if and only if the list can be waited
for. -/
theorem exact_iff_callable (contexts : ListedContexts) (args : List (Option ℕ)) :
    Exact contexts args ↔ Callable contexts args :=
  ⟨callable_of_exact, exact_of_callable⟩

/-- Two promises whose futures nobody waits for. -/
def twoPromises : ListedContexts where
  bReady := fun _ => false
  nCoroutineID := fun _ => 0

/-- The same future twice: the second `then` replaces the callback of the first. -/
theorem not_exact_twice : ¬ Exact twoPromises [some 0, some 0] := by
  intro h
  have hready := (h [0]).1.mpr (by decide)
  exact absurd hready (by decide)

end WhenAll

end RealtimeEx.Core
