import Mathlib.Data.List.Nodup
import Mathlib.Data.List.Perm.Subperm
import Mathlib.Tactic.Common
import RealtimeEx.Core.GlobalServiceRegistryProxyActive

/-!
# `CRoundRobinServiceSelector`

One counter, `m_nNextIndex`, goes through the active services of whatever type is asked
for.  Services that are not healthy are passed over, at most ten in a selection.
-/

namespace RealtimeEx.Core.RoundRobinServiceSelector

open Base

/-- A call of `select`: the type, and what `isServiceHealth` answers to the `i`-th question. -/
structure Selection where
  szServiceType : StdString
  health : ℕ → Bool

/-- The loop of `select`. -/
def selectLoop (vecServiceID : List UInt32) (health : ℕ → Bool) :
    UInt32 → List ℕ → Option UInt32 × UInt32
  | nNextIndex, [] => (none, nNextIndex)
  | nNextIndex, i :: is =>
      let nIndex := nNextIndex.toNat % vecServiceID.length
      if health i then
        (some (vecServiceID.getD nIndex 0), nNextIndex + 1)
      else
        selectLoop vecServiceID health (nNextIndex + 1) is

/-- `select`, with `m_nNextIndex` before and after; `none` is `return 0`. -/
def select (vecServiceID : List UInt32) (health : ℕ → Bool) (nNextIndex : UInt32) :
    Option UInt32 × UInt32 :=
  if vecServiceID.isEmpty then
    (none, nNextIndex)
  else
    selectLoop vecServiceID health nNextIndex (List.range 10)

/-! ## Runs -/

section Runs

variable (active : StdString → List UInt32)

/-- The selections of a run, with what they return. -/
def run : UInt32 → List Selection → List (StdString × Option UInt32)
  | _, [] => []
  | nNextIndex, call :: calls =>
      let r := select (active call.szServiceType) call.health nNextIndex
      (call.szServiceType, r.1) :: run r.2 calls

/-- What stands under one of the types. -/
def ofType {α : Type} (szType : StdString) (entries : List (StdString × α)) : List α :=
  entries.filterMap fun entry => if entry.1 = szType then some entry.2 else none

/-- As many selections of a type in a row as it has active services choose each of them
exactly once. -/
def Fair (nNextIndex : UInt32) (calls : List Selection) : Prop :=
  ∀ szType w, w <:+: ofType szType (run active nNextIndex calls) →
    w.length = (active szType).length → w.Perm ((active szType).map some)

/-! ## Where the counter is -/

/-- How many services a selection passes over; `none` if it gives up. -/
def passedOver (health : ℕ → Bool) : Option ℕ := (List.range 10).findIdx? health

/-- How many services a selection asks. -/
def asked (vecServiceID : List UInt32) (health : ℕ → Bool) : ℕ :=
  if vecServiceID.isEmpty then
    0
  else
    match passedOver health with
    | some i => i + 1
    | none => 10

/-- The counter at the service that each selection takes, from the number of services that
have been asked before. -/
def places : ℕ → List Selection → List (StdString × Option ℕ)
  | _, [] => []
  | n, call :: calls =>
      (call.szServiceType, (passedOver call.health).map fun i => (n + i) % 2 ^ 32) ::
        places (n + asked (active call.szServiceType) call.health) calls

/-- As many selections of a type in a row as it has active services all take one, and the
counter is then at different places of the list. -/
def Spread (n : ℕ) (calls : List Selection) : Prop :=
  ∀ szType w, w <:+: ofType szType (places active n calls) →
    w.length = (active szType).length →
      none ∉ w ∧ (w.map (Option.map (· % (active szType).length))).Nodup

end Runs

/-! ## One selection -/

theorem ofNat_succ (m : UInt32) (j : ℕ) : m + 1 + UInt32.ofNat j = m + UInt32.ofNat (j + 1) := by
  rw [UInt32.ofNat_add, UInt32.add_comm (UInt32.ofNat j), UInt32.add_assoc]
  rfl

theorem selectLoop_eq (vecServiceID : List UInt32) (health : ℕ → Bool) (nNextIndex : UInt32)
    (is : List ℕ) :
    selectLoop vecServiceID health nNextIndex is =
      match is.findIdx? health with
      | some j => (some (vecServiceID.getD
          ((nNextIndex + UInt32.ofNat j).toNat % vecServiceID.length) 0),
          nNextIndex + UInt32.ofNat (j + 1))
      | none => (none, nNextIndex + UInt32.ofNat is.length) := by
  induction is generalizing nNextIndex with
  | nil => simp [selectLoop]
  | cons i is ih =>
      rw [selectLoop, List.findIdx?_cons, ih]
      cases health i with
      | true => simp
      | false =>
          cases is.findIdx? health with
          | some j =>
              simp only [Bool.false_eq_true, if_false, Option.map_some, ofNat_succ]
          | none => simp [ofNat_succ]

/-- The service at the counter is taken, and the counter goes on by what was asked. -/
theorem select_eq {vecServiceID : List UInt32} (hne : vecServiceID ≠ []) (health : ℕ → Bool)
    (nNextIndex : UInt32) :
    select vecServiceID health nNextIndex =
      ((passedOver health).map fun i => vecServiceID.getD
          ((nNextIndex.toNat + i) % 2 ^ 32 % vecServiceID.length) 0,
        nNextIndex + UInt32.ofNat (asked vecServiceID health)) := by
  have hempty : vecServiceID.isEmpty = false := List.isEmpty_eq_false_iff.mpr hne
  rw [select, asked, hempty, if_neg Bool.false_ne_true, if_neg Bool.false_ne_true,
    selectLoop_eq, ← passedOver]
  cases passedOver health with
  | some i =>
      dsimp only
      rw [Option.map_some, UInt32.toNat_add, UInt32.toNat_ofNat', Nat.add_mod_mod]
  | none => rfl

theorem select_nil (health : ℕ → Bool) (nNextIndex : UInt32) :
    select [] health nNextIndex = (none, nNextIndex + UInt32.ofNat (asked [] health)) := by
  simp [select, asked]

/-! ## Runs -/

variable {active : StdString → List UInt32}

theorem places_congr {m n : ℕ} (hmod : m % 2 ^ 32 = n % 2 ^ 32) (calls : List Selection) :
    places active m calls = places active n calls := by
  induction calls generalizing m n with
  | nil => rfl
  | cons call calls ih =>
      have hplus : ∀ i, (m + i) % 2 ^ 32 = (n + i) % 2 ^ 32 := by omega
      rw [places, places, ih (hplus _)]
      simp only [hplus]

section OfType

variable {α : Type} {szType : StdString} {entry : StdString × α}
  {entries : List (StdString × α)}

theorem ofType_cons_of_eq (htype : entry.1 = szType) :
    ofType szType (entry :: entries) = entry.2 :: ofType szType entries :=
  List.filterMap_cons_some (if_pos htype)

theorem ofType_cons_of_ne (htype : entry.1 ≠ szType) :
    ofType szType (entry :: entries) = ofType szType entries :=
  List.filterMap_cons_none (if_neg htype)

end OfType

/-- What a selection of a type chooses stands at the place of the counter. -/
theorem chosen_eq {szType : StdString} (hne : active szType ≠ []) (nNextIndex : UInt32)
    (calls : List Selection) :
    ofType szType (run active nNextIndex calls) =
      (ofType szType (places active nNextIndex.toNat calls)).map
        (Option.map fun n => (active szType).getD (n % (active szType).length) 0) := by
  induction calls generalizing nNextIndex with
  | nil => rfl
  | cons call calls ih =>
      have hnext : (select (active call.szServiceType) call.health nNextIndex).2 =
          nNextIndex + UInt32.ofNat (asked (active call.szServiceType) call.health) := by
        by_cases hnil : active call.szServiceType = []
        · rw [hnil, select_nil]
        · rw [select_eq hnil]
      have hplaces : places active (nNextIndex + UInt32.ofNat
            (asked (active call.szServiceType) call.health)).toNat calls =
          places active (nNextIndex.toNat +
            asked (active call.szServiceType) call.health) calls := by
        refine places_congr ?_ calls
        rw [UInt32.toNat_add, UInt32.toNat_ofNat', Nat.mod_mod, Nat.add_mod_mod]
      rw [run, places, hnext]
      by_cases htype : call.szServiceType = szType
      · rw [ofType_cons_of_eq htype, ofType_cons_of_eq htype, List.map_cons, ih, hplaces, htype,
          select_eq hne, Option.map_map]
        rfl
      · rw [ofType_cons_of_ne htype, ofType_cons_of_ne htype, ih, hplaces]

/-! ## Windows -/

/-- Places in a list without repetitions give all its entries just if they are different. -/
theorem perm_getD_iff {xs : List UInt32} (hnodup : xs.Nodup) {is : List ℕ}
    (hlt : ∀ i ∈ is, i < xs.length) (hlength : is.length = xs.length) :
    (is.map fun i => xs.getD i 0).Perm xs ↔ is.Nodup := by
  constructor
  · intro hperm
    exact List.Nodup.of_map _ (hperm.nodup_iff.mpr hnodup)
  · intro his
    have hsub : is ⊆ List.range xs.length := fun i hi => List.mem_range.mpr (hlt i hi)
    have hperm : is.Perm (List.range xs.length) :=
      (his.subperm hsub).perm_of_length_le (by rw [List.length_range, hlength])
    have hall : (List.range xs.length).map (fun i => xs.getD i 0) = xs := by
      refine List.ext_getElem (by simp) fun i _ hi => ?_
      rw [List.getElem_map, List.getElem_range, List.getD_eq_getElem?_getD,
        List.getElem?_eq_getElem hi, Option.getD_some]
    have hmap := hperm.map fun i => xs.getD i 0
    rwa [hall] at hmap

/-- A window is fair just if every selection in it takes a service, and all of them stand at
different places of the list. -/
theorem window_perm_iff {xs : List UInt32} (hnodup : xs.Nodup) {w : List (Option ℕ)}
    (hlength : w.length = xs.length) :
    (w.map (Option.map fun n => xs.getD (n % xs.length) 0)).Perm (xs.map some) ↔
      none ∉ w ∧ (w.map (Option.map (· % xs.length))).Nodup := by
  by_cases hnone : none ∈ w
  · refine iff_of_false (fun hperm => ?_) (fun h => h.1 hnone)
    have hmem : none ∈ xs.map some :=
      hperm.subset (List.mem_map.mpr ⟨none, hnone, rfl⟩)
    simp at hmem
  · obtain ⟨ns, rfl⟩ : ∃ ns : List ℕ, ns.map some = w := by
      refine ⟨w.map (·.getD 0), ?_⟩
      rw [List.map_map]
      conv_rhs => rw [← List.map_id w]
      refine List.map_congr_left fun o ho => ?_
      cases o with
      | none => exact absurd ho hnone
      | some n => rfl
    rw [List.length_map] at hlength
    have hlt : ∀ i ∈ ns.map (· % xs.length), i < xs.length := by
      intro i hi
      obtain ⟨n, hn, rfl⟩ := List.mem_map.mp hi
      exact Nat.mod_lt _ (hlength ▸ List.length_pos_of_mem hn)
    have hperm := perm_getD_iff hnodup hlt (by rw [List.length_map, hlength])
    have hleft : (ns.map some).map (Option.map fun n => xs.getD (n % xs.length) 0) =
        ((ns.map (· % xs.length)).map fun i => xs.getD i 0).map some := by
      simp only [List.map_map]
      rfl
    have hright : (ns.map some).map (Option.map (· % xs.length)) =
        (ns.map (· % xs.length)).map some := by
      simp only [List.map_map]
      rfl
    rw [hleft, hright, List.map_perm_map_iff (Option.some_injective _), hperm,
      List.nodup_map_iff (Option.some_injective _)]
    exact (and_iff_right hnone).symm

/-- The windows of one type are fair just if the counter is spread in them. -/
theorem windows_iff {szType : StdString} (hnodup : (active szType).Nodup) (nNextIndex : UInt32)
    (calls : List Selection) :
    (∀ w, w <:+: ofType szType (run active nNextIndex calls) →
        w.length = (active szType).length → w.Perm ((active szType).map some)) ↔
      ∀ w, w <:+: ofType szType (places active nNextIndex.toNat calls) →
        w.length = (active szType).length →
          none ∉ w ∧ (w.map (Option.map (· % (active szType).length))).Nodup := by
  by_cases hne : active szType = []
  · rw [hne]
    refine iff_of_true (fun w _ hlength => ?_) (fun w _ hlength => ?_)
    · rw [List.length_eq_zero_iff.mp hlength]
      exact List.Perm.nil
    · rw [List.length_eq_zero_iff.mp hlength]
      exact ⟨List.not_mem_nil, List.nodup_nil⟩
  · rw [chosen_eq hne]
    constructor
    · intro hfair w hw hlength
      refine (window_perm_iff hnodup hlength).mp (hfair _ (hw.map _) ?_)
      rw [List.length_map, hlength]
    · intro hspread w hw hlength
      obtain ⟨window, hwindow, rfl⟩ := List.infix_map_iff.mp hw
      rw [List.length_map] at hlength
      exact (window_perm_iff hnodup hlength).mpr (hspread window hwindow hlength)

/-- The lists of a registry have no repetitions. -/
theorem nodup_getActiveServiceIDByType {p : CGlobalServiceRegistryProxy}
    (hp : CGlobalServiceRegistryProxy.TypesOk (fun _ => False) p) (szType : StdString) :
    (p.getActiveServiceIDByType szType).Nodup := by
  rw [hp.getActiveServiceIDByType_eq]
  exact (p.activeIDs szType).distinct_toList.imp fun hne heq => hne (by subst heq; simp)

/-! ## One type alone -/

theorem ofType_places_alone {szType : StdString} (hne : active szType ≠ []) {n : ℕ}
    {calls : List Selection}
    (hcalls : ∀ call ∈ calls, call.szServiceType = szType ∧ call.health 0 = true)
    (hwrap : n + calls.length ≤ 2 ^ 32) :
    ofType szType (places active n calls) = (List.range' n calls.length).map some := by
  induction calls generalizing n with
  | nil => rfl
  | cons call calls ih =>
      obtain ⟨htype, hhealth⟩ := hcalls call List.mem_cons_self
      have hfirst : passedOver call.health = some 0 := by
        rw [passedOver, List.range_succ_eq_map, List.findIdx?_cons, hhealth]
        rfl
      have hone : asked (active call.szServiceType) call.health = 1 := by
        rw [asked, htype, List.isEmpty_eq_false_iff.mpr hne, hfirst]
        rfl
      rw [List.length_cons] at hwrap
      have hrest := ih (fun c hc => hcalls c (List.mem_cons_of_mem _ hc))
        (n := n + 1) (by omega)
      rw [places, ofType_cons_of_eq htype, hfirst, hone, hrest, Option.map_some, Nat.add_zero,
        Nat.mod_eq_of_lt (by omega), List.length_cons, List.range'_succ, List.map_cons]

/-- As many places in a row as there are services are different places of the list. -/
theorem nodup_map_mod (n m : ℕ) : ((List.range' n m).map (· % m)).Nodup := by
  refine List.Nodup.map_on (fun i hi j hj heq => ?_) List.nodup_range'
  rw [List.mem_range'_1] at hi hj
  have hle : (i - j) % m = 0 := Nat.sub_mod_eq_zero_of_mod_eq heq
  have hge : (j - i) % m = 0 := Nat.sub_mod_eq_zero_of_mod_eq heq.symm
  rw [Nat.mod_eq_of_lt (by omega)] at hle hge
  omega

/-- A type whose services are all healthy is served in turn, as long as no other type is asked
for and the counter does not start again. -/
theorem fair_of_alone {szType : StdString} (hnodup : (active szType).Nodup)
    {nNextIndex : UInt32} {calls : List Selection}
    (hcalls : ∀ call ∈ calls, call.szServiceType = szType ∧ call.health 0 = true)
    (hwrap : nNextIndex.toNat + calls.length ≤ 2 ^ 32) (hne : active szType ≠ []) :
    ∀ w, w <:+: ofType szType (run active nNextIndex calls) →
      w.length = (active szType).length → w.Perm ((active szType).map some) := by
  rw [chosen_eq hne, ofType_places_alone hne hcalls hwrap]
  intro w hw hlength
  obtain ⟨window, hwindow, rfl⟩ := List.infix_map_iff.mp hw
  obtain ⟨range, hrange, rfl⟩ := List.infix_map_iff.mp hwindow
  rw [List.length_map, List.length_map] at hlength
  -- a part of a range is a range
  obtain ⟨before, after, heq⟩ := hrange
  obtain ⟨k, -, hfront, -⟩ := List.range'_eq_append_iff.mp heq.symm
  obtain ⟨start, -, -, hback⟩ := List.range'_eq_append_iff.mp hfront.symm
  rw [hback, List.length_range'] at hlength
  refine (window_perm_iff hnodup ?_).mpr ⟨?_, ?_⟩
  · rw [List.length_map, hback, List.length_range', hlength]
  · simp
  · have hnodup := (nodup_map_mod (nNextIndex.toNat + start * 1) (active szType).length).map
      (Option.some_injective ℕ)
    rw [List.map_map] at hnodup
    rw [hback, hlength, List.map_map]
    exact hnodup

/-! ## The result -/

/-- The selector is fair just where the counter is spread over the lists. -/
theorem fair_iff (hnodup : ∀ szType, (active szType).Nodup) (nNextIndex : UInt32)
    (calls : List Selection) :
    Fair active nNextIndex calls ↔ Spread active nNextIndex.toNat calls :=
  forall_congr' fun szType => windows_iff (hnodup szType) nNextIndex calls

/-- Two types, of two services and of one. -/
def twoTypes (szType : StdString) : List UInt32 := if szType = [65] then [1, 2] else [3]

theorem nodup_twoTypes (szType : StdString) : (twoTypes szType).Nodup := by
  unfold twoTypes
  split <;> decide

theorem fair_twoTypes :
    Fair twoTypes 0xFFFFFFFF [⟨[65], fun _ => true⟩, ⟨[65], fun _ => true⟩] ↔
      Spread twoTypes (0xFFFFFFFF : UInt32).toNat [⟨[65], fun _ => true⟩, ⟨[65], fun _ => true⟩] :=
  fair_iff nodup_twoTypes _ _

/-- Between two selections of one type the other one moves the counter on. -/
theorem not_fair_twoTypes :
    ¬ Fair twoTypes 0 [⟨[65], fun _ => true⟩, ⟨[66], fun _ => true⟩, ⟨[65], fun _ => true⟩] := by
  intro hfair
  have hperm := hfair [65] [some 1, some 1] (by decide) rfl
  revert hperm
  decide

end RealtimeEx.Core.RoundRobinServiceSelector
