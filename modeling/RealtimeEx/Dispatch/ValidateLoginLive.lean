import Mathlib.Algebra.Order.Ring.Int
import RealtimeEx.Dispatch.ValidateLogin

/-!
# The services that a login is sent to

The dispatch service chooses the game service, the gate and, for a new player, the user
center with the smallest count that was reported.  It is not told when a service
disconnects, and keeps the count.
-/

namespace RealtimeEx.Dispatch

open RealtimeEx.Db (Bytes)

/-! ## The smallest count -/

/-- The walk over counts in the order of their services ends at the one it started with,
or at the first of the smallest. -/
theorem foldl_smallest {counts : List (UInt32 × UInt32)}
    (hsorted : counts.Pairwise fun a b => a.1 < b.1) (best : UInt32 × UInt32) :
    let found := counts.foldl (fun best entry =>
      if entry.2 < best.1 then (entry.2, entry.1) else best) best
    (found = best ∧ ∀ entry ∈ counts, best.1 ≤ entry.2) ∨
      ∃ entry ∈ counts, found = (entry.2, entry.1) ∧ entry.2 < best.1 ∧
        ∀ other ∈ counts, entry.2 < other.2 ∨ entry.2 = other.2 ∧ entry.1 ≤ other.1 := by
  induction counts generalizing best with
  | nil => exact .inl ⟨rfl, by simp⟩
  | cons first counts ih =>
      obtain ⟨hfirst, hsorted⟩ := List.pairwise_cons.mp hsorted
      rw [List.foldl_cons]
      by_cases hless : first.2 < best.1
      · rw [if_pos hless]
        obtain ⟨hfound, hle⟩ | ⟨entry, hentry, hfound, hlt, hsmallest⟩ :=
          ih hsorted (first.2, first.1)
        · refine .inr ⟨first, List.mem_cons_self, hfound, hless, ?_⟩
          intro other hother
          obtain rfl | hother := List.mem_cons.mp hother
          · exact .inr ⟨rfl, UInt32.le_refl _⟩
          · have hkey := hfirst other hother
            have hcount := hle other hother
            grind
        · refine .inr ⟨entry, List.mem_cons_of_mem _ hentry, hfound, by grind, ?_⟩
          intro other hother
          obtain rfl | hother := List.mem_cons.mp hother
          · exact .inl hlt
          · exact hsmallest other hother
      · rw [if_neg hless]
        obtain ⟨hfound, hle⟩ | ⟨entry, hentry, hfound, hlt, hsmallest⟩ := ih hsorted best
        · refine .inl ⟨hfound, ?_⟩
          intro other hother
          obtain rfl | hother := List.mem_cons.mp hother
          · exact UInt32.not_lt.mp hless
          · exact hle other hother
        · refine .inr ⟨entry, List.mem_cons_of_mem _ hentry, hfound, hlt, ?_⟩
          intro other hother
          obtain rfl | hother := List.mem_cons.mp hother
          · exact .inl (by grind)
          · exact hsmallest other hother

/-- `suitableID` is the first service with the smallest count, or zero if no count is below
the largest one. -/
theorem suitableID_cases (mapCount : StdMap UInt32 UInt32) :
    (suitableID mapCount = 0 ∧
      ∀ nID nCount : UInt32, mapCount[nID]? = some nCount → nCount = 0xFFFFFFFF) ∨
    ∃ nID nCount : UInt32, suitableID mapCount = nID ∧ mapCount[nID]? = some nCount ∧
      nCount < 0xFFFFFFFF ∧ ∀ nOther nOtherCount : UInt32, mapCount[nOther]? = some nOtherCount →
        nCount < nOtherCount ∨ nCount = nOtherCount ∧ nID ≤ nOther := by
  have hordered : mapCount.toList.Pairwise fun a b => compare a.1 b.1 = .lt :=
    Std.ExtTreeMap.ordered_keys_toList
  have hsorted : mapCount.toList.Pairwise fun a b => a.1 < b.1 :=
    hordered.imp fun h => Std.compare_eq_lt.mp h
  have hmem : ∀ {nID nCount : UInt32}, (nID, nCount) ∈ mapCount.toList ↔
      mapCount[nID]? = some nCount := Std.ExtTreeMap.mem_toList_iff_getElem?_eq_some
  obtain ⟨hfound, hle⟩ | ⟨entry, hentry, hfound, hlt, hsmallest⟩ :=
    foldl_smallest hsorted (0xFFFFFFFF, 0)
  · refine .inl ⟨congrArg Prod.snd hfound, fun nID nCount hget => ?_⟩
    have hmax := hle _ (hmem.mpr hget)
    grind
  · refine .inr ⟨entry.1, entry.2, congrArg Prod.snd hfound, hmem.mp hentry, hlt, ?_⟩
    exact fun nOther nOtherCount hget => hsmallest _ (hmem.mpr hget)

/-! ## Choices -/

/-- The kinds of services whose counts are kept. -/
inductive ServiceKind
  | gas
  | gate
  | userCenter
  deriving DecidableEq

/-- The counts of a kind. -/
def COnlineCountMgr.counts (mgr : COnlineCountMgr) : ServiceKind → StdMap UInt32 UInt32
  | .gas => mgr.mapGasOnline
  | .gate => mgr.mapGateOnline
  | .userCenter => mgr.mapUCActive

/-- The service that a handler chooses when it goes on. -/
def LoginProgress.choice : LoginProgress → Option (ServiceKind × UInt32)
  | .call (.createPlayer nUCServiceID) => some (.userCenter, nUCServiceID)
  | .call (.userCenter _ _ nGasID) => some (.gas, nGasID)
  | .login nGateID _ _ => some (.gate, nGateID)
  | _ => none

/-- The service and its kind that an event reports a count of. -/
def CDispatchService.Event.report : CDispatchService.Event → Option (ServiceKind × UInt32)
  | .gasOnlineCount nGasID _ => some (.gas, nGasID)
  | .gateOnlineCount nGateID _ => some (.gate, nGateID)
  | .ucActiveCount nUCID _ => some (.userCenter, nUCID)
  | _ => none

namespace CDispatchService

/-- How a handler goes on at an event. -/
def progress (dispatch : CDispatchService) : Event → Option LoginProgress
  | .answer nSessionID _ nRand => do
      let entry ← dispatch.listAnswer.find? fun entry => entry.1 = nSessionID
      let pending ← dispatch.findPending nSessionID
      return dispatch.onlineCountMgr.resume pending.step entry.2 nRand
  | .respond nSessionID result _ nRand =>
      if dispatch.waitsForGlobalDb nSessionID ∧ result.nErrorCode = eRRT_OK then none
      else do
        let pending ← dispatch.findPending nSessionID
        return dispatch.onlineCountMgr.resume pending.step result nRand
  | _ => none

/-- The service that is chosen at an event. -/
def choice (dispatch : CDispatchService) (e : Event) : Option (ServiceKind × UInt32) :=
  (dispatch.progress e).bind LoginProgress.choice

end CDispatchService

/-! ## Connected services -/

/-- The dispatch service, the services that are connected to it, and of each kind those that
have reported a count since they connected. -/
structure DispatchNetwork where
  dispatch : CDispatchService
  setConnected : StdSet UInt32 := ∅
  bReported : ServiceKind → UInt32 → Bool := fun _ _ => false

namespace DispatchNetwork

/-- A service connects, a service disconnects, or the dispatch service handles an event.
It registers no callback for the first two. -/
inductive Event
  | serviceConnect (nServiceID : UInt32)
  | serviceDisconnect (nServiceID : UInt32)
  | dispatch (e : CDispatchService.Event)

def step (network : DispatchNetwork) : Event → DispatchNetwork
  | .serviceConnect nServiceID =>
      { network with setConnected := network.setConnected.insert nServiceID }
  | .serviceDisconnect nServiceID =>
      { network with
        setConnected := network.setConnected.erase nServiceID
        bReported := fun eKind nID => network.bReported eKind nID && nID ≠ nServiceID }
  | .dispatch e =>
      { network with
        dispatch := network.dispatch.step e
        bReported := fun eKind nID => network.bReported eKind nID ||
          (e.report = some (eKind, nID) && network.setConnected.contains nID) }

/-- The service chosen at an event. -/
def choice (network : DispatchNetwork) : Event → Option (ServiceKind × UInt32)
  | .dispatch e => network.dispatch.choice e
  | _ => none

/-- A service is connected, and its count is one that it has reported since. -/
def Live (network : DispatchNetwork) (eKind : ServiceKind) (nID : UInt32) : Prop :=
  nID ∈ network.setConnected ∧ network.bReported eKind nID = true

/-- The service chosen at an event, if any, is live. -/
def ChoosesLive (network : DispatchNetwork) (e : Event) : Prop :=
  ∀ eKind nID, network.choice e = some (eKind, nID) → network.Live eKind nID

/-- The count of a live service is below the largest one and comes before the counts that are
kept of all the services that are not live: it is smaller, or it is the same and the id of
the service is.  When no count is below the largest one, zero has to be a live service. -/
def LiveFirst (network : DispatchNetwork) (eKind : ServiceKind) : Prop :=
  (∃ nID nCount : UInt32, network.Live eKind nID ∧
    (network.dispatch.onlineCountMgr.counts eKind)[nID]? = some nCount ∧ nCount < 0xFFFFFFFF ∧
    ∀ nOther nOtherCount : UInt32, ¬ network.Live eKind nOther →
      (network.dispatch.onlineCountMgr.counts eKind)[nOther]? = some nOtherCount →
        nCount < nOtherCount ∨ nCount = nOtherCount ∧ nID < nOther) ∨
  (network.Live eKind 0 ∧ ∀ nID nCount : UInt32,
    (network.dispatch.onlineCountMgr.counts eKind)[nID]? = some nCount → nCount = 0xFFFFFFFF)

/-- If a service of some kind is chosen at an event, a live service comes first of its
kind. -/
def LiveFirstAt (network : DispatchNetwork) (e : Event) : Prop :=
  ∀ eKind, (network.choice e).map Prod.fst = some eKind → network.LiveFirst eKind

end DispatchNetwork

/-! ## What is chosen -/

/-- What a handler chooses, if anything, is the suitable service of its kind. -/
def ChoosesSuitable (mgr : COnlineCountMgr) (progress : LoginProgress) : Prop :=
  ∀ eKind nID, progress.choice = some (eKind, nID) → nID = suitableID (mgr.counts eKind)

section

variable {mgr : COnlineCountMgr}

theorem choosesSuitable_of_none {progress : LoginProgress} (hnone : progress.choice = none) :
    ChoosesSuitable mgr progress := by
  intro eKind nID hchoice
  rw [hnone] at hchoice
  cases hchoice

theorem choosesSuitable_some (eKind : ServiceKind) {progress : LoginProgress}
    (hchoice : progress.choice = some (eKind, suitableID (mgr.counts eKind))) :
    ChoosesSuitable mgr progress := by
  intro eKind' nID hchoice'
  obtain ⟨rfl, rfl⟩ := Prod.mk.inj (Option.some.inj (hchoice.symm.trans hchoice'))
  rfl

theorem choosesSuitable_ite {c : Prop} [Decidable c] {progress progress' : LoginProgress}
    (h : ChoosesSuitable mgr progress) (h' : ChoosesSuitable mgr progress') :
    ChoosesSuitable mgr (if c then progress else progress') := by
  split
  · exact h
  · exact h'

theorem choosesSuitable_loginError (nResult : UInt32) :
    ChoosesSuitable mgr (loginError nResult) := by
  apply choosesSuitable_of_none
  rfl

theorem choosesSuitable_assertFailed : ChoosesSuitable mgr .assertFailed := by
  apply choosesSuitable_of_none
  rfl

theorem choosesSuitable_enterUserCenter (nUCServiceID : UInt32) (nPlayerID : UInt64) :
    ChoosesSuitable mgr (mgr.enterUserCenter nUCServiceID nPlayerID) := by
  apply choosesSuitable_some .gas
  rfl

theorem choosesSuitable_onSelect (result : CallResult) :
    ChoosesSuitable mgr (mgr.onSelect result) := by
  unfold COnlineCountMgr.onSelect
  apply choosesSuitable_ite
  · apply choosesSuitable_loginError
  · split
    · apply choosesSuitable_ite
      · apply choosesSuitable_assertFailed
      · split
        · unfold COnlineCountMgr.chooseUserCenter
          apply choosesSuitable_ite
          · apply choosesSuitable_loginError
          · apply choosesSuitable_ite
            · apply choosesSuitable_assertFailed
            · apply choosesSuitable_ite
              · apply choosesSuitable_assertFailed
              · apply choosesSuitable_some .userCenter
                rfl
        · split
          · apply choosesSuitable_assertFailed
          · apply choosesSuitable_ite
            · apply choosesSuitable_assertFailed
            · apply choosesSuitable_enterUserCenter
    · apply choosesSuitable_loginError

theorem choosesSuitable_onCreatePlayer (nUCServiceID : UInt32) (result : CallResult) :
    ChoosesSuitable mgr (COnlineCountMgr.onCreatePlayer nUCServiceID result) := by
  unfold COnlineCountMgr.onCreatePlayer
  apply choosesSuitable_ite
  · apply choosesSuitable_loginError
  · split
    · split
      · split
        · apply choosesSuitable_assertFailed
        · apply choosesSuitable_of_none
          rfl
      · apply choosesSuitable_assertFailed
    · apply choosesSuitable_loginError

theorem choosesSuitable_onUserCenter (nPlayerID : UInt64) (result : CallResult)
    (nRand : UInt32) : ChoosesSuitable mgr (mgr.onUserCenter nPlayerID result nRand) := by
  unfold COnlineCountMgr.onUserCenter
  apply choosesSuitable_ite
  · apply choosesSuitable_loginError
  · split
    · apply choosesSuitable_ite
      · apply choosesSuitable_loginError
      · apply choosesSuitable_some .gate
        rfl
    · apply choosesSuitable_loginError

theorem choosesSuitable_resume (step : LoginStep) (result : CallResult) (nRand : UInt32) :
    ChoosesSuitable mgr (mgr.resume step result nRand) := by
  cases step with
  | select => apply choosesSuitable_onSelect
  | createPlayer nUCServiceID => apply choosesSuitable_onCreatePlayer
  | insert nUCServiceID nPlayerID =>
      apply choosesSuitable_ite
      · apply choosesSuitable_loginError
      · apply choosesSuitable_enterUserCenter
  | userCenter nUCServiceID nPlayerID nGasID => apply choosesSuitable_onUserCenter

end

namespace CDispatchService

variable {dispatch : CDispatchService}

/-- Every way in which a handler goes on comes from `resume`. -/
theorem exists_resume_of_progress {e : Event} {progress : LoginProgress}
    (hprogress : dispatch.progress e = some progress) :
    ∃ step result nRand, progress = dispatch.onlineCountMgr.resume step result nRand := by
  cases e with
  | answer nSessionID bSend nRand =>
      obtain ⟨entry, -, hentry⟩ := Option.bind_eq_some_iff.mp hprogress
      obtain ⟨pending, -, hpending⟩ := Option.bind_eq_some_iff.mp hentry
      exact ⟨_, _, _, (Option.some.inj hpending).symm⟩
  | respond nSessionID result bSend nRand =>
      unfold CDispatchService.progress at hprogress
      dsimp only at hprogress
      split at hprogress
      · cases hprogress
      · obtain ⟨pending, -, hpending⟩ := Option.bind_eq_some_iff.mp hprogress
        exact ⟨_, _, _, (Option.some.inj hpending).symm⟩
  | _ => cases hprogress

theorem suitableID_of_choice {e : Event} {eKind : ServiceKind} {nID : UInt32}
    (hchoice : dispatch.choice e = some (eKind, nID)) :
    nID = suitableID (dispatch.onlineCountMgr.counts eKind) := by
  obtain ⟨progress, hprogress, hchoice⟩ := Option.bind_eq_some_iff.mp hchoice
  obtain ⟨step, result, nRand, rfl⟩ := exists_resume_of_progress hprogress
  exact choosesSuitable_resume step result nRand eKind nID hchoice

/-- A handler goes on at an event as `progress` says. -/
theorem step_of_progress {e : Event} {progress : LoginProgress}
    (hprogress : dispatch.progress e = some progress) :
    ∃ nSessionID pending bSend, dispatch.findPending nSessionID = some pending ∧
      dispatch.step e =
        { dispatch with
          listPending := dispatch.listPending.eraseP fun pending =>
            pending.nSessionID = nSessionID }.go pending.login progress bSend := by
  cases e with
  | answer nSessionID bSend nRand =>
      obtain ⟨entry, hentry, hresume⟩ := Option.bind_eq_some_iff.mp hprogress
      obtain ⟨pending, hpending, hresume⟩ := Option.bind_eq_some_iff.mp hresume
      obtain rfl := Option.some.inj hresume
      refine ⟨nSessionID, pending, bSend, hpending, ?_⟩
      simp only [step, answer, hentry, onResult, hpending]
  | respond nSessionID result bSend nRand =>
      unfold CDispatchService.progress at hprogress
      dsimp only at hprogress
      split at hprogress
      · cases hprogress
      · rename_i hrespond
        obtain ⟨pending, hpending, hresume⟩ := Option.bind_eq_some_iff.mp hprogress
        obtain rfl := Option.some.inj hresume
        refine ⟨nSessionID, pending, bSend, hpending, ?_⟩
        simp only [step, hrespond, if_false, onResult, hpending]
  | _ => cases hprogress

end CDispatchService

/-! ## Live services are chosen when they come first -/

namespace DispatchNetwork

variable {network : DispatchNetwork}

/-- The suitable service of a kind is live if and only if a live service comes first. -/
theorem live_suitableID_iff (eKind : ServiceKind) :
    network.Live eKind (suitableID (network.dispatch.onlineCountMgr.counts eKind)) ↔
      network.LiveFirst eKind := by
  obtain ⟨hzero, hmax⟩ | ⟨nID, nCount, hid, hget, hlt, hsmallest⟩ :=
    suitableID_cases (network.dispatch.onlineCountMgr.counts eKind)
  · rw [hzero]
    constructor
    · intro hlive
      exact .inr ⟨hlive, hmax⟩
    · rintro (⟨nID, nCount, -, hget, hlt, -⟩ | ⟨hlive, -⟩)
      · rw [hmax nID nCount hget] at hlt
        exact absurd hlt (UInt32.lt_irrefl _)
      · exact hlive
  · rw [hid]
    constructor
    · intro hlive
      refine .inl ⟨nID, nCount, hlive, hget, hlt, fun nOther nOtherCount hother hgetOther => ?_⟩
      have hne : nOther ≠ nID := by
        rintro rfl
        exact hother hlive
      have hle := hsmallest nOther nOtherCount hgetOther
      grind
    · rintro (⟨nLive, nLiveCount, hlive, hgetLive, -, hfirst⟩ | ⟨-, hmax⟩)
      · by_contra hdead
        have hbefore := hfirst nID nCount hdead hget
        have hle := hsmallest nLive nLiveCount hgetLive
        grind
      · rw [hmax nID nCount hget] at hlt
        exact absurd hlt (UInt32.lt_irrefl _)

theorem live_iff_of_choice {e : Event} {eKind : ServiceKind} {nID : UInt32}
    (hchoice : network.choice e = some (eKind, nID)) :
    network.Live eKind nID ↔ network.LiveFirst eKind := by
  cases e with
  | serviceConnect nServiceID => cases hchoice
  | serviceDisconnect nServiceID => cases hchoice
  | dispatch e =>
      rw [CDispatchService.suitableID_of_choice hchoice]
      exact live_suitableID_iff eKind

theorem choosesLive_iff (e : Event) : network.ChoosesLive e ↔ network.LiveFirstAt e := by
  constructor
  · intro hlive eKind hkind
    obtain ⟨⟨eKind', nID⟩, hchoice, rfl⟩ := Option.map_eq_some_iff.mp hkind
    exact (live_iff_of_choice hchoice).mp (hlive _ nID hchoice)
  · intro hfirst eKind nID hchoice
    refine (live_iff_of_choice hchoice).mpr (hfirst eKind ?_)
    rw [hchoice, Option.map_some]

/-- The dispatch service has started, and no service has connected to it. -/
def started (nAccountTblCount : UInt32) (collate : Bytes → Bytes) (accountTbl : AccountTbl) :
    DispatchNetwork where
  dispatch := { nAccountTblCount, collate, accountTbl }

/-- In every history of connects, disconnects, reports and logins, all the services that are
chosen for a login are connected and have reported their count since they connected, if and
only if at each choice a live service comes first of its kind. -/
theorem choosesLive_throughout_iff (nAccountTblCount : UInt32) (collate : Bytes → Bytes)
    (accountTbl : AccountTbl) (es : List Event) :
    (∀ ks e, ks ++ [e] <+: es →
        (ks.foldl step (started nAccountTblCount collate accountTbl)).ChoosesLive e) ↔
      ∀ ks e, ks ++ [e] <+: es →
        (ks.foldl step (started nAccountTblCount collate accountTbl)).LiveFirstAt e := by
  refine forall_congr' fun ks => forall_congr' fun e => imp_congr_right fun _ => ?_
  exact choosesLive_iff e

/-- One game service, one user center and two gates report their counts, and the gate with the
smaller one disconnects.  Then a new player logs in. -/
def gateLost : List Event :=
  [.serviceConnect 3, .dispatch (.gasOnlineCount 3 0),
    .serviceConnect 80001, .dispatch (.ucActiveCount 80001 0),
    .serviceConnect 4, .dispatch (.gateOnlineCount 4 1),
    .serviceConnect 5, .dispatch (.gateOnlineCount 5 7),
    .serviceDisconnect 4,
    .dispatch (.validateLogin ⟨1, 1⟩ [97] 1 true),
    .dispatch (.execute 0), .dispatch (.answer 0 true 0),
    .dispatch (.respond 1 ⟨eRRT_OK, some (.resultSet [[[55]]])⟩ true 0),
    .dispatch (.execute 2), .dispatch (.answer 2 true 0)]

/-- The gate that has disconnected is chosen. -/
theorem not_choosesLive_gateLost :
    ¬ ∀ ks e, ks ++ [e] <+:
        gateLost ++ [.dispatch (.respond 3 ⟨eRRT_OK, some (.playerLogin 3)⟩ true 5)] →
      (ks.foldl step (started 4 id fun _ => none)).ChoosesLive e := by
  intro hlive
  have hgate := hlive gateLost _ (List.prefix_refl _) .gate 4 (by decide)
  exact absurd hgate.2 (by decide)

end DispatchNetwork

end RealtimeEx.Dispatch
