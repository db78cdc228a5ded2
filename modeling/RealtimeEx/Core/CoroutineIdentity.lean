import Mathlib.Algebra.Order.Ring.Int
import RealtimeEx.Core.Coroutine
import RealtimeEx.Support.History

/-!
# What the id of a coroutine refers to

The object of a finished coroutine keeps its id and its local data.  Taken out of the list
it becomes a new coroutine under the old id.  The table and the list are kept apart all the
same, and the total of the stacks is right.
-/

namespace RealtimeEx.Core

namespace CCoroutineMgr

variable {mgr : CCoroutineMgr}

/-! ## Lookups -/

theorem getCoroutine_eq_some_iff {nID : UInt64} {p : ℕ} {impl : CCoroutineImpl} :
    mgr.getCoroutine nID = some (p, impl) ↔
      mgr.mapCoroutine[nID]? = some p ∧ mgr.objects p = some impl := by
  unfold getCoroutine
  simp only [Option.bind_eq_bind, Option.pure_def, Option.bind_eq_some_iff, Option.some.injEq,
    Prod.mk.injEq]
  constructor
  · rintro ⟨q, hmap, other, hobject, rfl, rfl⟩
    exact ⟨hmap, hobject⟩
  · rintro ⟨hmap, hobject⟩
    exact ⟨p, hmap, impl, hobject, rfl, rfl⟩

theorem currentCoroutine_eq_some_iff {p : ℕ} {impl : CCoroutineImpl} :
    mgr.currentCoroutine = some (p, impl) ↔
      mgr.pCurrentCoroutine = some p ∧ mgr.objects p = some impl := by
  unfold currentCoroutine
  simp only [Option.bind_eq_bind, Option.pure_def, Option.bind_eq_some_iff, Option.some.injEq,
    Prod.mk.injEq]
  constructor
  · rintro ⟨q, hcurrent, other, hobject, rfl, rfl⟩
    exact ⟨hcurrent, hobject⟩
  · rintro ⟨hcurrent, hobject⟩
    exact ⟨p, hcurrent, impl, hobject, rfl, rfl⟩

/-- A recycled object that is found is in the list. -/
theorem mem_of_findRecycled {nStackSize : UInt32} {p : ℕ} {impl : CCoroutineImpl}
    (hfind : mgr.findRecycled nStackSize = some (p, impl)) :
    p ∈ mgr.listRecycleCoroutine ∧ mgr.objects p = some impl := by
  unfold findRecycled at hfind
  simp only [Option.bind_eq_bind, Option.pure_def, Option.bind_eq_some_iff, Option.some.injEq,
    Prod.mk.injEq] at hfind
  obtain ⟨q, hmem, other, hobject, rfl, rfl⟩ := hfind
  exact ⟨List.mem_of_find?_eq_some hmem, hobject⟩

/-! ## Stacks -/

/-- The rounding leaves a number of whole pages. -/
theorem exists_toNat_roundStack (config : StackConfig) (nStackSize : UInt32) :
    ∃ nCount, (config.roundStack nStackSize).toNat = nCount * config.nPageSize.toNat := by
  refine ⟨(nStackSize + config.nPageSize - 1).toNat / config.nPageSize.toNat, ?_⟩
  have hle := Nat.div_mul_le_self (nStackSize + config.nPageSize - 1).toNat config.nPageSize.toNat
  have hlt := (nStackSize + config.nPageSize - 1).toNat_lt
  unfold StackConfig.roundStack
  rw [UInt32.toNat_mul, UInt32.toNat_div, Nat.mod_eq_of_lt (Nat.lt_of_le_of_lt hle hlt)]

/-- The rounding of a number of whole pages changes nothing. -/
theorem roundStack_of_pages {config : StackConfig} {nStackSize : UInt32} {nCount : ℕ}
    (hcount : nStackSize.toNat = nCount * config.nPageSize.toNat) :
    config.roundStack nStackSize = nStackSize := by
  obtain ⟨nPages, hpages⟩ := config.nPageSize_dvd
  have hlt := nStackSize.toNat_lt
  have hpos : 0 < config.nPageSize.toNat := by
    rcases Nat.eq_zero_or_pos config.nPageSize.toNat with hzero | hpos
    · rw [hzero, Nat.zero_mul] at hpages
      omega
    · exact hpos
  -- the next page still ends within the thirty-two bits
  have hnext : nStackSize.toNat + config.nPageSize.toNat ≤ 2 ^ 32 := by
    have hless : nCount < nPages := by
      apply Nat.lt_of_mul_lt_mul_left (a := config.nPageSize.toNat)
      rw [← hpages, Nat.mul_comm, ← hcount]
      exact hlt
    calc nStackSize.toNat + config.nPageSize.toNat
        = (nCount + 1) * config.nPageSize.toNat := by rw [hcount, Nat.succ_mul]
      _ ≤ nPages * config.nPageSize.toNat := Nat.mul_le_mul_right _ hless
      _ = 2 ^ 32 := by rw [hpages, Nat.mul_comm]
  have hsum : (nStackSize + config.nPageSize - 1).toNat =
      nCount * config.nPageSize.toNat + (config.nPageSize.toNat - 1) := by
    rw [UInt32.toNat_sub, UInt32.toNat_add, ← hcount]
    have hone : (1 : UInt32).toNat = 1 := rfl
    omega
  have hquotient : (nStackSize + config.nPageSize - 1).toNat / config.nPageSize.toNat = nCount := by
    rw [hsum, Nat.mul_comm, Nat.mul_add_div hpos, Nat.div_eq_of_lt (by omega), Nat.add_zero]
  apply UInt32.toNat_inj.mp
  unfold StackConfig.roundStack
  rw [UInt32.toNat_mul, UInt32.toNat_div, hquotient, ← hcount, Nat.mod_eq_of_lt hlt]

theorem roundStack_roundStack (config : StackConfig) (nStackSize : UInt32) :
    config.roundStack (config.roundStack nStackSize) = config.roundStack nStackSize := by
  obtain ⟨nCount, hcount⟩ := exists_toNat_roundStack config nStackSize
  exact roundStack_of_pages hcount

/-! ## The number of ids -/

theorem nObjects_newCoroutine (nStackSize : UInt32) (fn : ℕ) (bAlloc : Bool) :
    (mgr.newCoroutine nStackSize fn bAlloc).nObjects = mgr.nObjects + 1 := by
  unfold newCoroutine
  split
  · rfl
  · rfl

/-- The number of ids never falls. -/
theorem nObjects_le_step (e : Event) : mgr.nObjects ≤ (mgr.step e).nObjects := by
  cases e with
  | create nStackSize callback bAlloc =>
      unfold step create
      dsimp only
      split
      · exact le_rfl
      · split
        · exact le_rfl
        · rw [nObjects_newCoroutine]
          exact Nat.le_succ _
  | resume nID nContext =>
      unfold step resume
      dsimp only
      split
      · exact le_rfl
      · split
        · exact le_rfl
        · split
          · exact le_rfl
          · exact le_rfl
  | yield =>
      unfold step yield
      dsimp only
      split
      · exact le_rfl
      · split
        · exact le_rfl
        · exact le_rfl
  | finish =>
      unfold step finish addRecycleCoroutine
      dsimp only
      split
      · exact le_rfl
      · split
        · exact le_rfl
        · exact le_rfl
  | setLocalData nID szName nData =>
      unfold step setLocalData
      dsimp only
      split
      · exact le_rfl
      · exact le_rfl
  | delLocalData nID szName =>
      unfold step delLocalData
      dsimp only
      split
      · exact le_rfl
      · exact le_rfl

theorem nObjects_le_foldl (es : List Event) (mgr : CCoroutineMgr) :
    mgr.nObjects ≤ (es.foldl step mgr).nObjects := by
  induction es generalizing mgr with
  | nil => exact le_rfl
  | cons e es ih => exact (nObjects_le_step e).trans (ih (mgr.step e))

/-! ## The invariant -/

/-- An entry of a list with one more is an entry of the list or the new one. -/
theorem getElem?_append_singleton_cases {α : Type*} {xs : List α} {x y : α} {k : ℕ}
    (hget : (xs ++ [x])[k]? = some y) : xs[k]? = some y ∨ k = xs.length ∧ y = x := by
  rcases Nat.lt_or_ge k xs.length with hlt | hge
  · exact .inl ((List.getElem?_append_left hlt).symm.trans hget)
  · obtain ⟨hk, hget⟩ := List.getElem?_eq_some_iff.mp hget
    rw [List.length_append, List.length_singleton] at hk
    obtain rfl : k = xs.length := by omega
    exact .inr ⟨rfl, by simpa using hget.symm⟩

/-- The table has the objects that are not dead under their ids, the list has the dead ones,
and no id has two objects. -/
structure Sound (mgr : CCoroutineMgr) : Prop where
  next : mgr.nNextCoroutineID.toNat = (mgr.nObjects + 1) % 2 ^ 64
  pos : ∀ p impl, mgr.objects p = some impl → 0 < impl.nID.toNat
  le : ∀ p impl, mgr.objects p = some impl → impl.nID.toNat ≤ mgr.nObjects
  lt : ∀ p impl, mgr.objects p = some impl → p < mgr.nObjects
  unique : ∀ p q a b, mgr.objects p = some a → mgr.objects q = some b → a.nID = b.nID → p = q
  live : ∀ (nID : UInt64) (p : ℕ), mgr.mapCoroutine[nID]? = some p ↔
    ∃ impl, mgr.objects p = some impl ∧ impl.nID = nID ∧ impl.eState ≠ .dead
  recycled : ∀ p, p ∈ mgr.listRecycleCoroutine ↔
    ∃ impl, mgr.objects p = some impl ∧ impl.eState = .dead
  nodup : mgr.listRecycleCoroutine.Nodup
  current : ∀ p, mgr.pCurrentCoroutine = some p →
    ∃ impl, mgr.objects p = some impl ∧ impl.eState = .running
  created : ∀ p impl, mgr.objects p = some impl →
    mgr.listCreated[impl.nCoroutine]? = some impl.nID
  createdLe : ∀ (k : ℕ) (nID : UInt64), mgr.listCreated[k]? = some nID → nID.toNat ≤ mgr.nObjects
  total : mgr.nTotalStackSize = mgr.liveStackSize

namespace Sound

/-- An object that is not dead is written to: its id, its stack and its coroutine stay, and it
does not die. -/
theorem setObject (hsound : mgr.Sound) {p : ℕ} {impl : CCoroutineImpl}
    (hobject : mgr.objects p = some impl) (impl' : CCoroutineImpl) (hid : impl'.nID = impl.nID)
    (hsize : impl'.nStackSize = impl.nStackSize) (hcoroutine : impl'.nCoroutine = impl.nCoroutine)
    (hdead : impl.eState ≠ .dead) (hdead' : impl'.eState ≠ .dead) (pCurrent : Option ℕ)
    (hcurrent : ∀ q, pCurrent = some q →
      ∃ other, Function.update mgr.objects p (some impl') q = some other ∧
        other.eState = .running) :
    ({ mgr with pCurrentCoroutine := pCurrent }.setObject p impl').Sound := by
  -- every object after the write is an object before it with the same id, stack and coroutine
  have hback : ∀ {q other}, Function.update mgr.objects p (some impl') q = some other →
      ∃ before, mgr.objects q = some before ∧ other.nID = before.nID ∧
        other.nStackSize = before.nStackSize ∧ other.nCoroutine = before.nCoroutine ∧
        (other.eState = .dead ↔ before.eState = .dead) := by
    intro q other hother
    by_cases hq : q = p
    · obtain rfl := hq
      rw [Function.update_self] at hother
      obtain rfl := Option.some.inj hother
      exact ⟨impl, hobject, hid, hsize, hcoroutine, iff_of_false hdead' hdead⟩
    · rw [Function.update_of_ne hq] at hother
      exact ⟨other, hother, rfl, rfl, rfl, Iff.rfl⟩
  have hforth : ∀ {q before}, mgr.objects q = some before →
      ∃ other, Function.update mgr.objects p (some impl') q = some other ∧
        other.nID = before.nID ∧ (other.eState = .dead ↔ before.eState = .dead) := by
    intro q before hbefore
    by_cases hq : q = p
    · obtain rfl := hq
      obtain rfl := Option.some.inj (hobject.symm.trans hbefore)
      exact ⟨impl', Function.update_self .., hid, iff_of_false hdead' hdead⟩
    · exact ⟨before, by rw [Function.update_of_ne hq, hbefore], rfl, Iff.rfl⟩
  constructor
  · exact hsound.next
  · intro q other hother
    obtain ⟨before, hbefore, hid, -⟩ := hback hother
    exact hid ▸ hsound.pos q before hbefore
  · intro q other hother
    obtain ⟨before, hbefore, hid, -⟩ := hback hother
    exact hid ▸ hsound.le q before hbefore
  · intro q other hother
    obtain ⟨before, hbefore, -⟩ := hback hother
    exact hsound.lt q before hbefore
  · intro q r a b ha hb hab
    obtain ⟨beforeA, hbeforeA, hidA, -⟩ := hback ha
    obtain ⟨beforeB, hbeforeB, hidB, -⟩ := hback hb
    exact hsound.unique q r beforeA beforeB hbeforeA hbeforeB (hidA.symm.trans (hab.trans hidB))
  · intro nID q
    show mgr.mapCoroutine[nID]? = some q ↔ _
    rw [hsound.live]
    constructor
    · rintro ⟨before, hbefore, rfl, hlive⟩
      obtain ⟨other, hother, hid, hiff⟩ := hforth hbefore
      exact ⟨other, hother, hid, fun h => hlive (hiff.mp h)⟩
    · rintro ⟨other, hother, rfl, hlive⟩
      obtain ⟨before, hbefore, hid, -, -, hiff⟩ := hback hother
      exact ⟨before, hbefore, hid.symm, fun h => hlive (hiff.mpr h)⟩
  · intro q
    show q ∈ mgr.listRecycleCoroutine ↔ _
    rw [hsound.recycled]
    constructor
    · rintro ⟨before, hbefore, hrecycled⟩
      obtain ⟨other, hother, -, hiff⟩ := hforth hbefore
      exact ⟨other, hother, hiff.mpr hrecycled⟩
    · rintro ⟨other, hother, hrecycled⟩
      obtain ⟨before, hbefore, -, -, -, hiff⟩ := hback hother
      exact ⟨before, hbefore, hiff.mp hrecycled⟩
  · exact hsound.nodup
  · exact hcurrent
  · intro q other hother
    obtain ⟨before, hbefore, hid, -, hcoroutine, -⟩ := hback hother
    rw [hid, hcoroutine]
    exact hsound.created q before hbefore
  · exact hsound.createdLe
  · have hstack : ({ mgr with pCurrentCoroutine := pCurrent }.setObject p impl').stackSize =
        mgr.stackSize := by
      funext q
      unfold stackSize CCoroutineMgr.setObject
      dsimp only
      by_cases hq : q = p
      · obtain rfl := hq
        rw [Function.update_self, hobject, Option.map_some, Option.map_some, hsize]
      · rw [Function.update_of_ne hq]
    show mgr.nTotalStackSize = _
    unfold liveStackSize
    rw [hstack]
    exact hsound.total

theorem resume (hsound : mgr.Sound) (nID nContext : UInt64) : (mgr.resume nID nContext).Sound := by
  unfold CCoroutineMgr.resume
  split
  · exact hsound
  · split
    · exact hsound
    · rename_i p impl hget
      obtain ⟨-, hobject⟩ := getCoroutine_eq_some_iff.mp hget
      split
      · rename_i hstate
        refine hsound.setObject hobject { impl with eState := .running, nContext } rfl rfl rfl ?_
          ECoroutineState.noConfusion (some p) ?_
        · rcases hstate with hstate | hstate
          · rw [hstate]
            decide
          · rw [hstate]
            decide
        · intro q hq
          obtain rfl := Option.some.inj hq
          exact ⟨_, Function.update_self .., rfl⟩
      · exact hsound

theorem yield (hsound : mgr.Sound) : mgr.yield.Sound := by
  unfold CCoroutineMgr.yield
  split
  · exact hsound
  · rename_i p impl hcurrent
    obtain ⟨-, hobject⟩ := currentCoroutine_eq_some_iff.mp hcurrent
    split
    · rename_i hstate
      refine hsound.setObject hobject { impl with eState := .suspend } rfl rfl rfl ?_
        ECoroutineState.noConfusion none ?_
      · rw [hstate]
        decide
      · rintro q ⟨⟩
    · exact hsound

/-- The local data of a coroutine that is in the table is written to. -/
theorem setLocal (hsound : mgr.Sound) {nID : UInt64} {p : ℕ} {impl : CCoroutineImpl}
    (hget : mgr.getCoroutine nID = some (p, impl)) (mapLocalData : StdMap String UInt64) :
    (mgr.setObject p { impl with mapLocalData }).Sound := by
  obtain ⟨hmap, hobject⟩ := getCoroutine_eq_some_iff.mp hget
  obtain ⟨other, hother, -, hlive⟩ := (hsound.live nID p).mp hmap
  obtain rfl := Option.some.inj (hobject.symm.trans hother)
  refine hsound.setObject hobject { impl with mapLocalData } rfl rfl rfl hlive hlive
    mgr.pCurrentCoroutine fun q hq => ?_
  obtain ⟨running, hrunning, hstate⟩ := hsound.current q hq
  by_cases hqp : q = p
  · obtain rfl := hqp
    obtain rfl := Option.some.inj (hobject.symm.trans hrunning)
    exact ⟨_, Function.update_self .., hstate⟩
  · exact ⟨running, by rw [Function.update_of_ne hqp, hrunning], hstate⟩

theorem setLocalData (hsound : mgr.Sound) (nID : UInt64) (szName : String) (nData : UInt64) :
    (mgr.setLocalData nID szName nData).Sound := by
  unfold CCoroutineMgr.setLocalData
  split
  · exact hsound
  · rename_i p impl hget
    exact hsound.setLocal hget _

theorem delLocalData (hsound : mgr.Sound) (nID : UInt64) (szName : String) :
    (mgr.delLocalData nID szName).Sound := by
  unfold CCoroutineMgr.delLocalData
  split
  · exact hsound
  · rename_i p impl hget
    exact hsound.setLocal hget _

/-- The object of the coroutine that runs is in the table under its id. -/
theorem mem_of_current (hsound : mgr.Sound) {p : ℕ} {impl : CCoroutineImpl}
    (hcurrent : mgr.currentCoroutine = some (p, impl)) :
    mgr.objects p = some impl ∧ mgr.mapCoroutine[impl.nID]? = some p ∧ impl.eState ≠ .dead := by
  obtain ⟨hp, hobject⟩ := currentCoroutine_eq_some_iff.mp hcurrent
  obtain ⟨running, hrunning, hstate⟩ := hsound.current p hp
  obtain rfl := Option.some.inj (hobject.symm.trans hrunning)
  have hlive : impl.eState ≠ .dead := by
    rw [hstate]
    decide
  exact ⟨hobject, (hsound.live _ p).mpr ⟨impl, hobject, rfl, hlive⟩, hlive⟩

/-- The stacks that are left when an object leaves the table. -/
theorem sum_erase (hsound : mgr.Sound) {p : ℕ} {impl : CCoroutineImpl}
    (hobject : mgr.objects p = some impl) (hmap : mgr.mapCoroutine[impl.nID]? = some p)
    {stack : ℕ → ℤ} (hstack : ∀ q, q ≠ p → stack q = mgr.stackSize q) :
    mgr.nTotalStackSize - impl.nStackSize.toNat =
      ((mgr.mapCoroutine.erase impl.nID).toList.map fun entry => stack entry.2).sum := by
  have hrest : ((mgr.mapCoroutine.erase impl.nID).toList.map fun entry => stack entry.2) =
      (mgr.mapCoroutine.erase impl.nID).toList.map fun entry => mgr.stackSize entry.2 := by
    apply List.map_congr_left
    intro entry hentry
    apply hstack
    rintro rfl
    have hget := Std.ExtTreeMap.mem_toList_iff_getElem?_eq_some.mp hentry
    rw [StdMap.getElem?_erase] at hget
    split at hget
    · cases hget
    · rename_i hne
      obtain ⟨other, hother, hid, -⟩ := (hsound.live _ _).mp hget
      obtain rfl := Option.some.inj (hobject.symm.trans hother)
      exact hne hid
  have hsum := ((StdMap.toList_erase_perm hmap).map fun entry => mgr.stackSize entry.2).sum_eq
  have hsize : mgr.stackSize p = impl.nStackSize.toNat := by
    unfold stackSize
    rw [hobject, Option.map_some, Option.getD_some]
  rw [List.map_cons, List.sum_cons, hsize] at hsum
  rw [hrest, hsound.total]
  unfold liveStackSize
  omega

/-- What is in the table after the object of a coroutine has left it. -/
theorem live_erase (hsound : mgr.Sound) {p : ℕ} {impl : CCoroutineImpl}
    (hobject : mgr.objects p = some impl) (hmap : mgr.mapCoroutine[impl.nID]? = some p)
    {left : Option CCoroutineImpl} (hleft : ∀ other, left = some other → other.eState = .dead)
    (nID : UInt64) (q : ℕ) :
    (mgr.mapCoroutine.erase impl.nID)[nID]? = some q ↔
      ∃ other, Function.update mgr.objects p left q = some other ∧ other.nID = nID ∧
        other.eState ≠ .dead := by
  rw [StdMap.getElem?_erase]
  by_cases hq : q = p
  · obtain rfl := hq
    refine iff_of_false ?_ ?_
    · split
      · simp
      · rename_i hne
        intro hget
        obtain ⟨other, hother, hid, -⟩ := (hsound.live nID q).mp hget
        obtain rfl := Option.some.inj (hobject.symm.trans hother)
        exact hne hid
    · rintro ⟨other, hother, -, hlive⟩
      rw [Function.update_self] at hother
      exact hlive (hleft other hother)
  · rw [Function.update_of_ne hq]
    split
    · rename_i hid
      refine iff_of_false (by simp) ?_
      rintro ⟨other, hother, hotherID, -⟩
      exact hq (hsound.unique q p other impl hother hobject (hotherID.trans hid.symm))
    · exact hsound.live nID q

/-- The current coroutine ends, and its object is deleted. -/
theorem delete (hsound : mgr.Sound) {p : ℕ} {impl : CCoroutineImpl}
    (hobject : mgr.objects p = some impl) (hmap : mgr.mapCoroutine[impl.nID]? = some p)
    (hlive : impl.eState ≠ .dead) :
    { mgr with
      pCurrentCoroutine := none
      mapCoroutine := mgr.mapCoroutine.erase impl.nID
      nTotalStackSize := mgr.nTotalStackSize - impl.nStackSize.toNat
      objects := Function.update mgr.objects p none }.Sound := by
  have hback : ∀ {q other}, Function.update mgr.objects p none q = some other →
      q ≠ p ∧ mgr.objects q = some other := by
    intro q other hother
    by_cases hq : q = p
    · rw [hq, Function.update_self] at hother
      cases hother
    · rw [Function.update_of_ne hq] at hother
      exact ⟨hq, hother⟩
  constructor
  · exact hsound.next
  · exact fun q other hother => hsound.pos q other (hback hother).2
  · exact fun q other hother => hsound.le q other (hback hother).2
  · exact fun q other hother => hsound.lt q other (hback hother).2
  · exact fun q r a b ha hb => hsound.unique q r a b (hback ha).2 (hback hb).2
  · apply hsound.live_erase hobject hmap
    rintro other ⟨⟩
  · intro q
    show q ∈ mgr.listRecycleCoroutine ↔ _
    rw [hsound.recycled]
    constructor
    · rintro ⟨other, hother, hdead⟩
      have hq : q ≠ p := by
        rintro rfl
        obtain rfl := Option.some.inj (hobject.symm.trans hother)
        exact hlive hdead
      exact ⟨other, (Function.update_of_ne hq ..).trans hother, hdead⟩
    · rintro ⟨other, hother, hdead⟩
      exact ⟨other, (hback hother).2, hdead⟩
  · exact hsound.nodup
  · rintro q ⟨⟩
  · exact fun q other hother => hsound.created q other (hback hother).2
  · exact hsound.createdLe
  · apply hsound.sum_erase hobject hmap
    intro q hq
    unfold stackSize
    dsimp only
    rw [Function.update_of_ne hq]

/-- The current coroutine ends, and its object is kept in the list. -/
theorem recycle (hsound : mgr.Sound) {p : ℕ} {impl : CCoroutineImpl}
    (hobject : mgr.objects p = some impl) (hmap : mgr.mapCoroutine[impl.nID]? = some p)
    (hlive : impl.eState ≠ .dead) :
    { mgr with
      pCurrentCoroutine := none
      mapCoroutine := mgr.mapCoroutine.erase impl.nID
      nTotalStackSize := mgr.nTotalStackSize - impl.nStackSize.toNat
      listRecycleCoroutine := mgr.listRecycleCoroutine ++ [p]
      objects := Function.update mgr.objects p
        (some { impl with callback := none, eState := .dead }) }.Sound := by
  have hback : ∀ {q other}, Function.update mgr.objects p
        (some { impl with callback := none, eState := .dead }) q = some other →
      ∃ before, mgr.objects q = some before ∧ other.nID = before.nID ∧
        other.nCoroutine = before.nCoroutine := by
    intro q other hother
    by_cases hq : q = p
    · obtain rfl := hq
      rw [Function.update_self] at hother
      obtain rfl := Option.some.inj hother
      exact ⟨impl, hobject, rfl, rfl⟩
    · rw [Function.update_of_ne hq] at hother
      exact ⟨other, hother, rfl, rfl⟩
  have hnotin : p ∉ mgr.listRecycleCoroutine := by
    rw [hsound.recycled]
    rintro ⟨other, hother, hdead⟩
    obtain rfl := Option.some.inj (hobject.symm.trans hother)
    exact hlive hdead
  constructor
  · exact hsound.next
  · intro q other hother
    obtain ⟨before, hbefore, hid, -⟩ := hback hother
    exact hid ▸ hsound.pos q before hbefore
  · intro q other hother
    obtain ⟨before, hbefore, hid, -⟩ := hback hother
    exact hid ▸ hsound.le q before hbefore
  · intro q other hother
    obtain ⟨before, hbefore, -⟩ := hback hother
    exact hsound.lt q before hbefore
  · intro q r a b ha hb hab
    obtain ⟨beforeA, hbeforeA, hidA, -⟩ := hback ha
    obtain ⟨beforeB, hbeforeB, hidB, -⟩ := hback hb
    exact hsound.unique q r beforeA beforeB hbeforeA hbeforeB (hidA.symm.trans (hab.trans hidB))
  · apply hsound.live_erase hobject hmap
    rintro other ⟨⟩
    rfl
  · intro q
    show q ∈ mgr.listRecycleCoroutine ++ [p] ↔ _
    rw [List.mem_append, List.mem_singleton, hsound.recycled]
    by_cases hq : q = p
    · obtain rfl := hq
      exact iff_of_true (.inr rfl) ⟨_, Function.update_self .., rfl⟩
    · dsimp only
      rw [Function.update_of_ne hq]
      simp [hq]
  · refine List.nodup_append.mpr ⟨hsound.nodup, by simp, ?_⟩
    rintro q hq r hr rfl
    rw [List.mem_singleton.mp hr] at hq
    exact hnotin hq
  · rintro q ⟨⟩
  · intro q other hother
    obtain ⟨before, hbefore, hid, hcoroutine⟩ := hback hother
    rw [hid, hcoroutine]
    exact hsound.created q before hbefore
  · exact hsound.createdLe
  · apply hsound.sum_erase hobject hmap
    intro q hq
    unfold stackSize
    dsimp only
    rw [Function.update_of_ne hq]

theorem finish (hsound : mgr.Sound) : mgr.finish.Sound := by
  unfold CCoroutineMgr.finish
  split
  · exact hsound
  · rename_i p impl hcurrent
    obtain ⟨hobject, hmap, hlive⟩ := hsound.mem_of_current hcurrent
    unfold addRecycleCoroutine CCoroutineMgr.setObject
    dsimp only
    split
    · rw [Function.update_idem]
      exact hsound.delete hobject hmap hlive
    · exact hsound.recycle hobject hmap hlive

/-- A call of `create` returns without a coroutine. -/
theorem created_zero (hsound : mgr.Sound) (nNextCoroutineID : UInt64) (nObjects : ℕ)
    (hnext : nNextCoroutineID.toNat = (nObjects + 1) % 2 ^ 64) (hle : mgr.nObjects ≤ nObjects) :
    ({ mgr with nNextCoroutineID, nObjects }.created 0).Sound := by
  constructor
  · exact hnext
  · exact hsound.pos
  · exact fun p impl hobject => (hsound.le p impl hobject).trans hle
  · exact fun p impl hobject => (hsound.lt p impl hobject).trans_le hle
  · exact hsound.unique
  · exact hsound.live
  · exact hsound.recycled
  · exact hsound.nodup
  · exact hsound.current
  · intro p impl hobject
    have hcreated := hsound.created p impl hobject
    exact (List.getElem?_append_left (List.getElem?_eq_some_iff.mp hcreated).1).trans hcreated
  · intro k nID hget
    obtain hget | ⟨-, rfl⟩ := getElem?_append_singleton_cases hget
    · exact (hsound.createdLe k nID hget).trans hle
    · exact Nat.zero_le _
  · exact hsound.total

/-- An object that is not in the table, new or dead, enters it under an id that no other
object has. -/
theorem enter (hsound : mgr.Sound) {p : ℕ} (impl : CCoroutineImpl) {nNextCoroutineID : UInt64}
    {nObjects : ℕ} {listRecycle : List ℕ}
    (hnext : nNextCoroutineID.toNat = (nObjects + 1) % 2 ^ 64) (hle : mgr.nObjects ≤ nObjects)
    (hpos : 0 < impl.nID.toNat) (hid : impl.nID.toNat ≤ nObjects) (hp : p < nObjects)
    (hfree : ∀ q other, mgr.objects q = some other → other.nID = impl.nID → q = p)
    (hdead : ∀ other, mgr.objects p = some other → other.eState = .dead)
    (hlive : impl.eState ≠ .dead)
    (hlist : ∀ q, q ∈ listRecycle ↔ q ∈ mgr.listRecycleCoroutine ∧ q ≠ p)
    (hnodup : listRecycle.Nodup) (hcoroutine : impl.nCoroutine = mgr.listCreated.length)
    (listLocalData : List (StdMap String UInt64)) :
    ({ mgr with
        nNextCoroutineID, nObjects, listLocalData
        listRecycleCoroutine := listRecycle
        mapCoroutine := mgr.mapCoroutine.insert impl.nID p
        nTotalStackSize := mgr.nTotalStackSize + impl.nStackSize.toNat }.setObject p
      impl).created impl.nID |>.Sound := by
  have hcases : ∀ {q other}, Function.update mgr.objects p (some impl) q = some other →
      (q = p ∧ other = impl) ∨ (q ≠ p ∧ mgr.objects q = some other) := by
    intro q other hother
    by_cases hq : q = p
    · obtain rfl := hq
      rw [Function.update_self] at hother
      exact .inl ⟨rfl, (Option.some.inj hother).symm⟩
    · rw [Function.update_of_ne hq] at hother
      exact .inr ⟨hq, hother⟩
  have hnone : mgr.mapCoroutine[impl.nID]? = none := by
    rw [Option.eq_none_iff_forall_ne_some]
    intro q hget
    obtain ⟨other, hother, hotherID, hotherLive⟩ := (hsound.live _ q).mp hget
    obtain rfl := hfree q other hother hotherID
    exact hotherLive (hdead other hother)
  constructor
  · exact hnext
  · intro q other hother
    obtain ⟨-, rfl⟩ | ⟨-, hother⟩ := hcases hother
    · exact hpos
    · exact hsound.pos q other hother
  · intro q other hother
    obtain ⟨-, rfl⟩ | ⟨-, hother⟩ := hcases hother
    · exact hid
    · exact (hsound.le q other hother).trans hle
  · intro q other hother
    obtain ⟨rfl, -⟩ | ⟨-, hother⟩ := hcases hother
    · exact hp
    · exact (hsound.lt q other hother).trans_le hle
  · intro q r a b ha hb hab
    obtain ⟨rfl, rfl⟩ | ⟨hq, haBefore⟩ := hcases ha
    · obtain ⟨rfl, -⟩ | ⟨-, hbBefore⟩ := hcases hb
      · rfl
      · exact (hfree r b hbBefore hab.symm).symm
    · obtain ⟨rfl, rfl⟩ | ⟨-, hbBefore⟩ := hcases hb
      · exact hfree q a haBefore hab
      · exact hsound.unique q r a b haBefore hbBefore hab
  · intro nID q
    show (mgr.mapCoroutine.insert impl.nID p)[nID]? = some q ↔ _
    rw [StdMap.getElem?_insert]
    split
    · rename_i hkey
      obtain rfl := hkey
      constructor
      · intro hq
        obtain rfl := Option.some.inj hq
        exact ⟨impl, Function.update_self .., rfl, hlive⟩
      · rintro ⟨other, hother, hotherID, -⟩
        obtain ⟨rfl, -⟩ | ⟨hq, hother⟩ := hcases hother
        · rfl
        · exact absurd (hfree q other hother hotherID) hq
    · rename_i hkey
      rw [hsound.live]
      constructor
      · rintro ⟨other, hother, rfl, hotherLive⟩
        have hq : q ≠ p := by
          rintro rfl
          exact hotherLive (hdead other hother)
        exact ⟨other, (Function.update_of_ne hq ..).trans hother, rfl, hotherLive⟩
      · rintro ⟨other, hother, rfl, hotherLive⟩
        obtain ⟨-, rfl⟩ | ⟨-, hother⟩ := hcases hother
        · exact absurd rfl hkey
        · exact ⟨other, hother, rfl, hotherLive⟩
  · intro q
    show q ∈ listRecycle ↔ _
    rw [hlist, hsound.recycled]
    constructor
    · rintro ⟨⟨other, hother, hotherDead⟩, hq⟩
      exact ⟨other, (Function.update_of_ne hq ..).trans hother, hotherDead⟩
    · rintro ⟨other, hother, hotherDead⟩
      obtain ⟨-, rfl⟩ | ⟨hq, hother⟩ := hcases hother
      · exact absurd hotherDead hlive
      · exact ⟨⟨other, hother, hotherDead⟩, hq⟩
  · exact hnodup
  · intro q hq
    obtain ⟨running, hrunning, hstate⟩ := hsound.current q hq
    have hne : q ≠ p := by
      rintro rfl
      rw [hdead running hrunning] at hstate
      cases hstate
    exact ⟨running, (Function.update_of_ne hne ..).trans hrunning, hstate⟩
  · intro q other hother
    show (mgr.listCreated ++ [impl.nID])[other.nCoroutine]? = _
    obtain ⟨-, rfl⟩ | ⟨-, hother⟩ := hcases hother
    · rw [hcoroutine, List.getElem?_concat_length]
    · have hcreated := hsound.created q other hother
      exact (List.getElem?_append_left (List.getElem?_eq_some_iff.mp hcreated).1).trans hcreated
  · intro k nID hget
    obtain hget | ⟨-, rfl⟩ := getElem?_append_singleton_cases hget
    · exact (hsound.createdLe k nID hget).trans hle
    · exact hid
  · -- the other objects in the table keep their stacks
    have hstack : ∀ entry ∈ mgr.mapCoroutine.toList,
        ((Function.update mgr.objects p (some impl) entry.2).map fun impl =>
          (impl.nStackSize.toNat : ℤ)).getD 0 = mgr.stackSize entry.2 := by
      intro entry hentry
      have hget := Std.ExtTreeMap.mem_toList_iff_getElem?_eq_some.mp hentry
      obtain ⟨other, hother, -, hotherLive⟩ := (hsound.live _ _).mp hget
      have hne : entry.2 ≠ p := by
        intro heq
        exact hotherLive (hdead other (heq ▸ hother))
      rw [Function.update_of_ne hne]
      rfl
    have hsum := ((StdMap.toList_insert_perm hnone p).map fun entry =>
      ((Function.update mgr.objects p (some impl) entry.2).map fun impl =>
        (impl.nStackSize.toNat : ℤ)).getD 0).sum_eq
    rw [List.map_cons, List.sum_cons, List.map_congr_left hstack, Function.update_self,
      Option.map_some, Option.getD_some] at hsum
    show mgr.nTotalStackSize + impl.nStackSize.toNat = _
    refine Eq.trans ?_ hsum.symm
    rw [hsound.total, add_comm]
    rfl

theorem reuseCoroutine (hsound : mgr.Sound) {p : ℕ} {impl : CCoroutineImpl}
    (hmem : p ∈ mgr.listRecycleCoroutine) (hobject : mgr.objects p = some impl) (fn : ℕ) :
    (mgr.reuseCoroutine p impl fn).Sound := by
  have hdead : ∀ other, mgr.objects p = some other → other.eState = .dead := by
    intro other hother
    obtain ⟨dead, hget, hdead⟩ := (hsound.recycled p).mp hmem
    obtain rfl := Option.some.inj (hget.symm.trans hother)
    exact hdead
  refine hsound.enter
    { impl with
      callback := some fn
      eState := .suspend
      nCoroutine := mgr.listCreated.length } hsound.next le_rfl (hsound.pos p impl hobject)
    (hsound.le p impl hobject) (hsound.lt p impl hobject)
    (fun q other hother hid => hsound.unique q p other impl hother hobject hid) hdead
    ECoroutineState.noConfusion (fun q => ?_) (hsound.nodup.erase p) rfl _
  rw [hsound.nodup.mem_erase_iff, and_comm]

theorem newCoroutine (hsound : mgr.Sound) {nStackSize : UInt32}
    (hround : mgr.config.roundStack nStackSize = nStackSize) (fn : ℕ) (bAlloc : Bool)
    (hfew : mgr.nObjects + 1 < 2 ^ 64) : (mgr.newCoroutine nStackSize fn bAlloc).Sound := by
  have hid : mgr.nNextCoroutineID.toNat = mgr.nObjects + 1 := by
    rw [hsound.next, Nat.mod_eq_of_lt hfew]
  have hnext : (mgr.nNextCoroutineID + 1).toNat = (mgr.nObjects + 1 + 1) % 2 ^ 64 := by
    rw [UInt64.toNat_add, hid]
    rfl
  unfold CCoroutineMgr.newCoroutine
  split
  · exact hsound.created_zero _ _ hnext (Nat.le_succ _)
  · rw [hround]
    refine hsound.enter
      { nID := mgr.nNextCoroutineID
        callback := some fn
        eState := .ready
        nStackSize
        nCoroutine := mgr.listCreated.length } hnext (Nat.le_succ _) ?_ hid.le
      (Nat.lt_succ_self _) ?_ ?_ ECoroutineState.noConfusion ?_ hsound.nodup rfl _
    · rw [hid]
      exact Nat.succ_pos _
    · intro q other hother hotherID
      have hle := hsound.le q other hother
      rw [hotherID, hid] at hle
      omega
    · intro other hother
      have hlt := hsound.lt _ other hother
      omega
    · intro q
      refine ⟨fun hq => ⟨hq, ?_⟩, And.left⟩
      obtain ⟨other, hother, -⟩ := (hsound.recycled q).mp hq
      exact (hsound.lt q other hother).ne

theorem create (hsound : mgr.Sound) {nStackSize : UInt32} {callback : Option ℕ} {bAlloc : Bool}
    (hfew : (mgr.create nStackSize callback bAlloc).nObjects < 2 ^ 64) :
    (mgr.create nStackSize callback bAlloc).Sound := by
  unfold CCoroutineMgr.create at hfew ⊢
  split
  · exact hsound.created_zero _ _ hsound.next le_rfl
  · split
    · rename_i p impl hfind
      obtain ⟨hmem, hobject⟩ := mem_of_findRecycled hfind
      exact hsound.reuseCoroutine hmem hobject _
    · rename_i fn _ hfind
      rw [hfind] at hfew
      dsimp only at hfew
      rw [nObjects_newCoroutine] at hfew
      exact hsound.newCoroutine (roundStack_roundStack _ _) _ _ hfew

end Sound

/-! ## What the source does to the ids -/

/-- An id that `create` has returned refers to the coroutine that it was returned for, and
every coroutine has started without local data. -/
structure Identified (mgr : CCoroutineMgr) : Prop where
  refers : ∀ (k : ℕ) (nID : UInt64) (p : ℕ) (impl : CCoroutineImpl),
    mgr.listCreated[k]? = some nID → nID ≠ 0 → mgr.getCoroutine nID = some (p, impl) →
      impl.nCoroutine = k
  starts : ∀ mapLocalData ∈ mgr.listLocalData, mapLocalData = ∅

/-- The live and the recycled coroutines are apart, and the total is the sum of the stacks of
the live ones. -/
structure Accounted (mgr : CCoroutineMgr) : Prop where
  apart : ∀ (nID : UInt64) (p : ℕ), mgr.mapCoroutine[nID]? = some p →
    p ∉ mgr.listRecycleCoroutine
  total : mgr.nTotalStackSize = mgr.liveStackSize

/-- A call of `create` finds a recycled object whose stack fits. -/
def Reuses (mgr : CCoroutineMgr) : Event → Prop
  | .create nStackSize (some _) _ => (mgr.findRecycled (mgr.stackSizeFor nStackSize)).isSome
  | _ => False

/-- No two calls of `create` have returned the same id. -/
def Distinct (mgr : CCoroutineMgr) : Prop :=
  ∀ (j k : ℕ) (nID : UInt64), mgr.listCreated[j]? = some nID → mgr.listCreated[k]? = some nID →
    nID ≠ 0 → j = k

theorem Sound.accounted (hsound : mgr.Sound) : mgr.Accounted where
  apart nID p hget hmem := by
    obtain ⟨impl, hobject, -, hlive⟩ := (hsound.live nID p).mp hget
    obtain ⟨other, hother, hdead⟩ := (hsound.recycled p).mp hmem
    obtain rfl := Option.some.inj (hobject.symm.trans hother)
    exact hlive hdead
  total := hsound.total

/-- What an id refers to was created under it. -/
theorem Sound.created_of_getCoroutine (hsound : mgr.Sound) {nID : UInt64} {p : ℕ}
    {impl : CCoroutineImpl} (hget : mgr.getCoroutine nID = some (p, impl)) :
    mgr.listCreated[impl.nCoroutine]? = some nID := by
  obtain ⟨hmap, hobject⟩ := getCoroutine_eq_some_iff.mp hget
  obtain ⟨other, hother, rfl, -⟩ := (hsound.live nID p).mp hmap
  obtain rfl := Option.some.inj (hobject.symm.trans hother)
  exact hsound.created p impl hobject

theorem Sound.refers_of_distinct (hsound : mgr.Sound) (hdistinct : mgr.Distinct) (k : ℕ)
    (nID : UInt64) (p : ℕ) (impl : CCoroutineImpl) (hcreated : mgr.listCreated[k]? = some nID)
    (hid : nID ≠ 0) (hget : mgr.getCoroutine nID = some (p, impl)) : impl.nCoroutine = k :=
  hdistinct _ _ nID (hsound.created_of_getCoroutine hget) hcreated hid

/-- The coroutines that a manager starts with. -/
def initial (config : StackConfig) : CCoroutineMgr := { config }

theorem sound_initial (config : StackConfig) : (initial config).Sound where
  next := rfl
  pos p impl hobject := by cases hobject
  le p impl hobject := by cases hobject
  lt p impl hobject := by cases hobject
  unique p q a b ha := by cases ha
  live nID p := by simp [initial]
  recycled p := by simp [initial]
  nodup := List.nodup_nil
  current p hp := by cases hp
  created p impl hobject := by cases hobject
  createdLe k nID hget := by cases hget
  total := by
    unfold initial liveStackSize
    rw [Std.ExtTreeMap.toList_eq_nil_iff.mpr rfl]
    rfl

theorem Sound.step (hsound : mgr.Sound) (e : Event) (hfew : (mgr.step e).nObjects < 2 ^ 64) :
    (mgr.step e).Sound := by
  cases e with
  | create nStackSize callback bAlloc => exact hsound.create hfew
  | resume nID nContext => exact hsound.resume nID nContext
  | yield => exact hsound.yield
  | finish => exact hsound.finish
  | setLocalData nID szName nData => exact hsound.setLocalData nID szName nData
  | delLocalData nID szName => exact hsound.delLocalData nID szName

/-- In a history that does not use up the ids the invariant holds throughout. -/
theorem sound_foldl (config : StackConfig) (es : List Event)
    (hfew : (es.foldl step (initial config)).nObjects < 2 ^ 64) :
    (es.foldl step (initial config)).Sound := by
  have hinvariant := foldl_invariant
    (I := fun mgr : CCoroutineMgr => mgr.nObjects < 2 ^ 64 → mgr.Sound)
    (fun mgr e hsound hfew => (hsound ((nObjects_le_step e).trans_lt hfew)).step e hfew)
    (fun _ => sound_initial config) es
  exact hinvariant hfew

/-! ## Reuse -/

/-- What an event that reuses no object records: nothing, a call of `create` that failed, or a
new id and a start without local data. -/
theorem record_step {e : Event} (hreuse : ¬ mgr.Reuses e) :
    ((mgr.step e).listCreated = mgr.listCreated ∧
      (mgr.step e).listLocalData = mgr.listLocalData) ∨
    ((mgr.step e).listCreated = mgr.listCreated ++ [0] ∧
      (mgr.step e).listLocalData = mgr.listLocalData) ∨
    ((mgr.step e).listCreated = mgr.listCreated ++ [mgr.nNextCoroutineID] ∧
      (mgr.step e).listLocalData = mgr.listLocalData ++ [∅] ∧
      (mgr.step e).nObjects = mgr.nObjects + 1) := by
  cases e with
  | create nStackSize callback bAlloc =>
      cases callback with
      | none => exact .inr (.inl ⟨rfl, rfl⟩)
      | some fn =>
          have hnone : mgr.findRecycled (mgr.stackSizeFor nStackSize) = none :=
            Option.not_isSome_iff_eq_none.mp hreuse
          unfold step create
          dsimp only
          rw [hnone]
          dsimp only
          unfold newCoroutine
          split
          · exact .inr (.inl ⟨rfl, rfl⟩)
          · exact .inr (.inr ⟨rfl, rfl, rfl⟩)
  | resume nID nContext =>
      refine .inl ?_
      unfold step resume
      dsimp only
      split
      · exact ⟨rfl, rfl⟩
      · split
        · exact ⟨rfl, rfl⟩
        · split
          · exact ⟨rfl, rfl⟩
          · exact ⟨rfl, rfl⟩
  | yield =>
      refine .inl ?_
      unfold step yield
      dsimp only
      split
      · exact ⟨rfl, rfl⟩
      · split
        · exact ⟨rfl, rfl⟩
        · exact ⟨rfl, rfl⟩
  | finish =>
      refine .inl ?_
      unfold step finish addRecycleCoroutine
      dsimp only
      split
      · exact ⟨rfl, rfl⟩
      · split
        · exact ⟨rfl, rfl⟩
        · exact ⟨rfl, rfl⟩
  | setLocalData nID szName nData =>
      refine .inl ?_
      unfold step setLocalData
      dsimp only
      split
      · exact ⟨rfl, rfl⟩
      · exact ⟨rfl, rfl⟩
  | delLocalData nID szName =>
      refine .inl ?_
      unfold step delLocalData
      dsimp only
      split
      · exact ⟨rfl, rfl⟩
      · exact ⟨rfl, rfl⟩

theorem distinct_append {xs : List UInt64} {x : UInt64}
    (hdistinct : ∀ (j k : ℕ) (y : UInt64), xs[j]? = some y → xs[k]? = some y → y ≠ 0 → j = k)
    (hnew : x ≠ 0 → ∀ k : ℕ, xs[k]? ≠ some x) (j k : ℕ) (y : UInt64)
    (hj : (xs ++ [x])[j]? = some y) (hk : (xs ++ [x])[k]? = some y) (hy : y ≠ 0) : j = k := by
  obtain hjOld | ⟨rfl, rfl⟩ := getElem?_append_singleton_cases hj
  · obtain hkOld | ⟨rfl, rfl⟩ := getElem?_append_singleton_cases hk
    · exact hdistinct j k y hjOld hkOld hy
    · exact absurd hjOld (hnew hy j)
  · obtain hkOld | ⟨rfl, -⟩ := getElem?_append_singleton_cases hk
    · exact absurd hkOld (hnew hy k)
    · rfl

/-- As long as no object is reused the ids stay distinct. -/
theorem Distinct.step (hdistinct : mgr.Distinct) (hsound : mgr.Sound) {e : Event}
    (hreuse : ¬ mgr.Reuses e) (hfew : (mgr.step e).nObjects < 2 ^ 64) :
    (mgr.step e).Distinct := by
  unfold Distinct
  obtain ⟨hlist, -⟩ | ⟨hlist, -⟩ | ⟨hlist, -, hcount⟩ := record_step hreuse
  · rw [hlist]
    exact hdistinct
  · rw [hlist]
    exact distinct_append hdistinct fun hzero => absurd rfl hzero
  · rw [hlist]
    refine distinct_append hdistinct fun _ k hget => ?_
    -- every id before is at most the number of ids, and the new one is above it
    have hle := hsound.createdLe k _ hget
    rw [hsound.next, Nat.mod_eq_of_lt (hcount ▸ hfew)] at hle
    omega

/-- A reused object goes by the id of the coroutine before. -/
theorem not_identified_of_reuses (hsound : mgr.Sound) {e : Event} (hreuse : mgr.Reuses e) :
    ¬ (mgr.step e).Identified := by
  cases e with
  | create nStackSize callback bAlloc =>
      cases callback with
      | none => exact absurd hreuse id
      | some fn =>
          obtain ⟨⟨p, impl⟩, hfind⟩ := Option.isSome_iff_exists.mp hreuse
          obtain ⟨-, hobject⟩ := mem_of_findRecycled hfind
          have hstep : mgr.step (.create nStackSize (some fn) bAlloc) =
              mgr.reuseCoroutine p impl fn := by
            show mgr.create nStackSize (some fn) bAlloc = _
            unfold create
            dsimp only
            rw [hfind]
          rw [hstep]
          intro hidentified
          have hcreated := hsound.created p impl hobject
          have hlt := (List.getElem?_eq_some_iff.mp hcreated).1
          have hget : (mgr.reuseCoroutine p impl fn).getCoroutine impl.nID =
              some (p, { impl with
                callback := some fn
                eState := .suspend
                nCoroutine := mgr.listCreated.length }) := by
            refine getCoroutine_eq_some_iff.mpr ⟨?_, Function.update_self ..⟩
            show (mgr.mapCoroutine.insert impl.nID p)[impl.nID]? = some p
            rw [StdMap.getElem?_insert, if_pos rfl]
          have hzero : impl.nID ≠ 0 := by
            intro hzero
            have hpos := hsound.pos p impl hobject
            rw [hzero] at hpos
            exact absurd hpos (Nat.lt_irrefl 0)
          have hsame := hidentified.refers impl.nCoroutine impl.nID p _
            ((List.getElem?_append_left hlt).trans hcreated) hzero hget
          exact absurd hsame hlt.ne'
  | _ => exact absurd hreuse id

/-- In every history that does not use up the ids, the live and the recycled coroutines are
apart and the total of the stacks is right throughout; and the ids refer to what they were
returned for and every coroutine starts without local data, throughout, if and only if no call
of `create` finds a recycled object whose stack fits. -/
theorem identified_throughout_iff (config : StackConfig) (es : List Event)
    (hfew : (es.foldl step (initial config)).nObjects < 2 ^ 64) :
    (∀ ks, ks <+: es → (ks.foldl step (initial config)).Accounted) ∧
    ((∀ ks, ks <+: es → (ks.foldl step (initial config)).Identified) ↔
      ∀ ks e, ks ++ [e] <+: es → ¬ (ks.foldl step (initial config)).Reuses e) := by
  have hfront : ∀ ks, ks <+: es → (ks.foldl step (initial config)).nObjects < 2 ^ 64 := by
    rintro ks ⟨rest, rfl⟩
    rw [List.foldl_append] at hfew
    exact (nObjects_le_foldl rest _).trans_lt hfew
  have hsound : ∀ ks, ks <+: es → (ks.foldl step (initial config)).Sound :=
    fun ks hks => sound_foldl config ks (hfront ks hks)
  constructor
  · exact fun ks hks => (hsound ks hks).accounted
  · constructor
    · intro hidentified ks e hks hreuse
      have hafter := hidentified (ks ++ [e]) hks
      rw [List.foldl_append] at hafter
      exact not_identified_of_reuses (hsound ks ((List.prefix_append ks [e]).trans hks)) hreuse
        hafter
    · intro hreuse
      have hboth : ∀ ks, ks <+: es → (ks.foldl step (initial config)).Distinct ∧
          ∀ mapLocalData ∈ (ks.foldl step (initial config)).listLocalData, mapLocalData = ∅ := by
        intro ks hks
        induction ks using List.reverseRecOn with
        | nil =>
            constructor
            · rintro j k nID ⟨⟩
            · rintro mapLocalData ⟨⟩
        | append_singleton ks e ih =>
            have hbefore := (List.prefix_append ks [e]).trans hks
            obtain ⟨hdistinct, hstarts⟩ := ih hbefore
            have hnone := hreuse ks e hks
            have hfewAfter := hfront (ks ++ [e]) hks
            rw [List.foldl_append] at hfewAfter ⊢
            refine ⟨hdistinct.step (hsound ks hbefore) hnone hfewAfter, ?_⟩
            show ∀ mapLocalData ∈ ((ks.foldl step (initial config)).step e).listLocalData, _
            obtain ⟨-, hlocal⟩ | ⟨-, hlocal⟩ | ⟨-, hlocal, -⟩ := record_step hnone
            · rw [hlocal]
              exact hstarts
            · rw [hlocal]
              exact hstarts
            · rw [hlocal]
              intro mapLocalData hmem
              obtain hmem | hmem := List.mem_append.mp hmem
              · exact hstarts mapLocalData hmem
              · exact List.mem_singleton.mp hmem
      intro ks hks
      obtain ⟨hdistinct, hstarts⟩ := hboth ks hks
      exact ⟨(hsound ks hks).refers_of_distinct hdistinct, hstarts⟩

/-- Pages of four kibibytes, and stacks of the least size. -/
def smallStacks : StackConfig where
  nPageSize := 4096
  nCoroutineStackSize := 65536
  nPageSize_dvd := by decide

/-- A coroutine is created, given local data and finished, and another one is created. -/
def createdAgain : List Event :=
  [.create 0 (some 0) true, .resume 1 0, .setLocalData 1 "response" 5, .finish,
    .create 0 (some 1) true]

theorem identified_throughout_createdAgain_iff :
    (∀ ks, ks <+: createdAgain → (ks.foldl step (initial smallStacks)).Accounted) ∧
    ((∀ ks, ks <+: createdAgain → (ks.foldl step (initial smallStacks)).Identified) ↔
      ∀ ks e, ks ++ [e] <+: createdAgain →
        ¬ (ks.foldl step (initial smallStacks)).Reuses e) :=
  identified_throughout_iff smallStacks createdAgain (by decide)

/-- The second coroutine has the id and the local data of the first. -/
theorem not_identified_createdAgain :
    (createdAgain.foldl step (initial smallStacks)).listCreated = [1, 1] ∧
    (createdAgain.foldl step (initial smallStacks)).getLocalData 1 "response" = some 5 ∧
    ¬ ∀ ks, ks <+: createdAgain → (ks.foldl step (initial smallStacks)).Identified := by
  refine ⟨by decide, by decide, fun hidentified => ?_⟩
  have hsound := sound_foldl smallStacks (createdAgain.take 4) (by decide)
  have hreuse : ((createdAgain.take 4).foldl step (initial smallStacks)).Reuses
      (.create 0 (some 1) true) := by
    show Option.isSome _ = true
    decide
  exact not_identified_of_reuses hsound hreuse (hidentified createdAgain (List.prefix_refl _))

end CCoroutineMgr

end RealtimeEx.Core
