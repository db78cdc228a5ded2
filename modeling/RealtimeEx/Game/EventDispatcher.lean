import Mathlib.Algebra.Order.Ring.Int
import RealtimeEx.Support.History
import RealtimeEx.Support.StdContainers
import RealtimeEx.Support.Transition

/-!
# Events of a player

`CEventDispatcher` keeps a list of handlers for each type of event.  A handler can raise
events itself, so that the loops of several `raiseEvent` run inside of each other; while
one of them runs, the lists should not change.  There is one flag for all of them, and the
innermost loop that ends takes it down.
-/

namespace RealtimeEx.Game

/-- `m_pEventDispatcher` of a handler, as one dispatcher sees it. -/
inductive EventOwner
  | nobody
  | this
  | other
  deriving DecidableEq

/-- `CEventDispatcher` with the handlers `H`. -/
structure CEventDispatcher (H : Type) where
  mapEventHandler : StdMap UInt32 (List H) := ∅
  bDispatch : Bool := false
  pEventDispatcher : H → EventOwner := fun _ => .nobody

/-- A `raiseEvent` that runs: the position of its loop, whether the handler there is
running, and the handlers that have been called. -/
structure Raise (H : Type) where
  nType : UInt32
  i : ℕ := 0
  bOnEvent : Bool := false
  called : List H := []

/-- A dispatcher with the loops that run, the innermost one first.  `registered` are the
handlers as they were before the outermost of them, `finished` the loops that have ended,
with the handlers that were registered and those that were called, and `bChanged` says
whether a list was changed inside of a loop over it. -/
structure EventRun (H : Type) where
  dispatcher : CEventDispatcher H := {}
  raises : List (Raise H) := []
  registered : StdMap UInt32 (List H) := ∅
  finished : List (List H × List H) := []
  bChanged : Bool := false

namespace CEventDispatcher

variable {H : Type} [DecidableEq H] (d : CEventDispatcher H)

/-- The handlers of a type. -/
def handlers (nType : UInt32) : List H := (d.mapEventHandler[nType]?).getD []

/-- `registerEventHandler` does not refuse the handler. -/
def CanRegister (pHandler : H) : Prop :=
  d.bDispatch = false ∧ d.pEventDispatcher pHandler ≠ .other

instance (pHandler : H) : Decidable (d.CanRegister pHandler) :=
  inferInstanceAs (Decidable (_ ∧ _))

/-- `registerEventHandler`. -/
def registerEventHandler (nType : UInt32) (pHandler : H) : CEventDispatcher H :=
  if d.CanRegister pHandler then
    { d with
      mapEventHandler := d.mapEventHandler.insert nType (d.handlers nType ++ [pHandler])
      pEventDispatcher := Function.update d.pEventDispatcher pHandler .this }
  else
    d

/-- `unregisterEventHandler`, which the destructor of a handler calls too. -/
def unregisterEventHandler (pHandler : H) : CEventDispatcher H :=
  if d.bDispatch then
    d
  else
    { d with mapEventHandler := d.mapEventHandler.map fun _ vecHandler =>
        vecHandler.filter (· ≠ pHandler) }

end CEventDispatcher

/-- What the program does.  `next` is the test of the innermost loop, with the call of the
handler or the end of the loop, and `return` the return of the handler. -/
inductive EventCall (H : Type)
  | registerEventHandler (nType : UInt32) (pHandler : H)
  | unregisterEventHandler (pHandler : H)
  | raiseEvent (nType : UInt32)
  | next
  | return
  | otherDispatcher (pHandler : H)

namespace EventRun

variable {H : Type} [DecidableEq H] (s : EventRun H)

/-- The program is outside of all loops, or in a handler. -/
def Runs : Prop := ∀ raise ∈ s.raises.head?, raise.bOnEvent = true

instance : Decidable s.Runs := inferInstanceAs (Decidable (∀ _ ∈ _, _))

/-- A loop over the handlers of the type runs. -/
def Iterates (nType : UInt32) : Prop := ∃ raise ∈ s.raises, raise.nType = nType

instance (nType : UInt32) : Decidable (s.Iterates nType) :=
  inferInstanceAs (Decidable (∃ _ ∈ _, _))

/-- A handler is registered by the program. -/
def registerEventHandler (nType : UInt32) (pHandler : H) : EventRun H :=
  { s with
    dispatcher := s.dispatcher.registerEventHandler nType pHandler
    bChanged := s.bChanged ∨ s.dispatcher.CanRegister pHandler ∧ s.Iterates nType }

/-- A handler is unregistered by the program. -/
def unregisterEventHandler (pHandler : H) : EventRun H :=
  { s with
    dispatcher := s.dispatcher.unregisterEventHandler pHandler
    bChanged := s.bChanged ∨ s.dispatcher.bDispatch = false ∧
      ∃ raise ∈ s.raises, pHandler ∈ s.dispatcher.handlers raise.nType }

/-- The handlers that are registered before the outermost loop, if one begins. -/
def before : StdMap UInt32 (List H) :=
  if s.raises = [] then s.dispatcher.mapEventHandler else s.registered

/-- `raiseEvent` up to its loop. -/
def raiseEvent (nType : UInt32) : EventRun H :=
  match s.dispatcher.mapEventHandler[nType]? with
  | none => s
  | some _ =>
      { s with
        dispatcher := { s.dispatcher with bDispatch := true }
        raises := { nType } :: s.raises
        registered := s.before }

/-- The test of the innermost loop. -/
def next : EventRun H :=
  match s.raises with
  | [] => s
  | raise :: raises =>
      match (s.dispatcher.handlers raise.nType)[raise.i]? with
      | some pHandler =>
          { s with
            raises :=
              { raise with bOnEvent := true, called := raise.called ++ [pHandler] } :: raises }
      | none =>
          { s with
            dispatcher := { s.dispatcher with bDispatch := false }
            raises
            finished := s.finished ++
              [((s.registered[raise.nType]?).getD [], raise.called)] }

/-- The handler returns. -/
def «return» : EventRun H :=
  match s.raises with
  | [] => s
  | raise :: raises =>
      { s with raises := { raise with i := raise.i + 1, bOnEvent := false } :: raises }

/-- Another dispatcher registers a handler that is nobody's. -/
def otherDispatcher (pHandler : H) : EventRun H :=
  if s.dispatcher.pEventDispatcher pHandler = .nobody then
    { s with dispatcher := { s.dispatcher with
        pEventDispatcher := Function.update s.dispatcher.pEventDispatcher pHandler .other } }
  else
    s

def step : EventCall H → EventRun H
  | .registerEventHandler nType pHandler => s.registerEventHandler nType pHandler
  | .unregisterEventHandler pHandler => s.unregisterEventHandler pHandler
  | .raiseEvent nType => s.raiseEvent nType
  | .next => s.next
  | .return => s.return
  | .otherDispatcher pHandler => s.otherDispatcher pHandler

/-- The program acts outside of the loops and in the handlers, and a handler returns if it
runs. -/
def Allowed : EventCall H → Prop
  | .next => s.raises ≠ [] ∧ ¬ s.Runs
  | .return => s.raises ≠ [] ∧ s.Runs
  | _ => s.Runs

/-- A dispatcher that is new, and any program. -/
def system (H : Type) [DecidableEq H] : TransitionSystem (EventRun H) (EventCall H) where
  init s := s = {}
  step s call t := s.Allowed call ∧ t = s.step call

/-! ## What should hold -/

/-- No list was changed inside of a loop over it, and every handler that was registered
before the outermost loop has been called once by each loop for its event. -/
structure Safe : Prop where
  unchanged : s.bChanged = false
  once : ∀ raise ∈ s.finished, ∀ pHandler ∈ raise.1, raise.2.count pHandler = 1

/-- A call that keeps to the lists: nothing is registered for, or removed from, a list that
a loop is going over, and an event is raised when the handlers that were registered before
the outermost loop are registered for it once. -/
def Keeps : EventCall H → Prop
  | .registerEventHandler nType pHandler =>
      s.dispatcher.CanRegister pHandler → ¬ s.Iterates nType
  | .unregisterEventHandler pHandler => s.dispatcher.bDispatch = false →
      ∀ raise ∈ s.raises, pHandler ∉ s.dispatcher.handlers raise.nType
  | .raiseEvent nType => ∀ pHandler ∈ (s.before[nType]?).getD [],
      (s.dispatcher.handlers nType).count pHandler = 1
  | _ => True

end EventRun

/-! ## The lists -/

namespace CEventDispatcher

variable {H : Type} [DecidableEq H] {d : CEventDispatcher H} {nType : UInt32} {pHandler : H}

/-- A list to which nothing is registered stays as it is. -/
theorem handlers_registerEventHandler_of_ne {nOther : UInt32}
    (hne : d.CanRegister pHandler → nOther ≠ nType) :
    (d.registerEventHandler nType pHandler).handlers nOther = d.handlers nOther := by
  unfold registerEventHandler
  by_cases hcan : d.CanRegister pHandler
  · rw [if_pos hcan]
    unfold handlers
    rw [StdMap.getElem?_insert, if_neg (Ne.symm (hne hcan))]
  · rw [if_neg hcan]

/-- A list that does not contain the handler stays as it is. -/
theorem handlers_unregisterEventHandler_of_not_mem
    (hnot : d.bDispatch = false → pHandler ∉ d.handlers nType) :
    (d.unregisterEventHandler pHandler).handlers nType = d.handlers nType := by
  unfold unregisterEventHandler
  cases hdispatch : d.bDispatch with
  | true => rw [if_pos rfl]
  | false =>
      have hfilter : (d.handlers nType).filter (· ≠ pHandler) = d.handlers nType := by
        refine List.filter_eq_self.mpr fun other hother => ?_
        have hne : other ≠ pHandler := by
          rintro rfl
          exact hnot hdispatch hother
        simpa using hne
      rw [if_neg Bool.false_ne_true]
      unfold handlers at hfilter ⊢
      dsimp only
      rw [Std.ExtTreeMap.getElem?_map]
      cases hvec : d.mapEventHandler[nType]? with
      | none => rfl
      | some vecHandler =>
          rw [hvec] at hfilter
          exact hfilter

end CEventDispatcher

namespace EventRun

variable {H : Type} [DecidableEq H] {s t : EventRun H}

/-- A loop that runs has called the handlers up to its position, and those that were
registered before are in its list once. -/
structure Loop (vecHandler registered : List H) (raise : Raise H) : Prop where
  called : raise.called = vecHandler.take (raise.i + if raise.bOnEvent then 1 else 0)
  once : ∀ pHandler ∈ registered, vecHandler.count pHandler = 1

/-- All loops that run are in order. -/
def Loops (s : EventRun H) : Prop :=
  ∀ raise ∈ s.raises,
    Loop (s.dispatcher.handlers raise.nType) ((s.registered[raise.nType]?).getD []) raise

/-- What the loops go over has not changed. -/
theorem Loops.congr (h : s.Loops) (hraises : t.raises = s.raises)
    (hregistered : t.registered = s.registered)
    (hhandlers : ∀ raise ∈ s.raises,
      t.dispatcher.handlers raise.nType = s.dispatcher.handlers raise.nType) : t.Loops := by
  intro raise hmem
  rw [hraises] at hmem
  rw [hregistered, hhandlers raise hmem]
  exact h raise hmem

theorem loops_registerEventHandler (h : s.Loops) {nType : UInt32} {pHandler : H}
    (hkeeps : s.Keeps (.registerEventHandler nType pHandler)) :
    (s.registerEventHandler nType pHandler).Loops := by
  refine h.congr rfl rfl fun raise hmem => ?_
  refine CEventDispatcher.handlers_registerEventHandler_of_ne fun hcan heq => ?_
  exact hkeeps hcan ⟨raise, hmem, heq⟩

theorem loops_unregisterEventHandler (h : s.Loops) {pHandler : H}
    (hkeeps : s.Keeps (.unregisterEventHandler pHandler)) :
    (s.unregisterEventHandler pHandler).Loops := by
  refine h.congr rfl rfl fun raise hmem => ?_
  exact CEventDispatcher.handlers_unregisterEventHandler_of_not_mem fun hdispatch =>
    hkeeps hdispatch raise hmem

theorem loops_raiseEvent (h : s.Loops) {nType : UInt32}
    (hkeeps : s.Keeps (.raiseEvent nType)) : (s.raiseEvent nType).Loops := by
  unfold raiseEvent
  split
  · exact h
  · intro raise hmem
    rcases List.mem_cons.mp hmem with rfl | hmem
    · exact ⟨rfl, hkeeps⟩
    · have hbefore : s.before = s.registered := if_neg (List.ne_nil_of_mem hmem)
      have hold := h raise hmem
      rw [← hbefore] at hold
      exact hold

/-- The innermost loop calls the next handler, or ends. -/
theorem loops_next (h : s.Loops) (hruns : ¬ s.Runs) :
    s.next.Loops ∧ ∀ raise ∈ s.next.finished, raise ∈ s.finished ∨
      ∀ pHandler ∈ raise.1, raise.2.count pHandler = 1 := by
  unfold next
  cases hraises : s.raises with
  | nil => exact ⟨h, fun raise hmem => .inl hmem⟩
  | cons raise raises =>
      have hidle : raise.bOnEvent = false := by
        by_contra honEvent
        refine hruns fun other hmem => ?_
        rw [hraises, List.head?_cons, Option.mem_some] at hmem
        rw [← hmem]
        simpa using honEvent
      have hloop := h raise (by rw [hraises]; exact List.mem_cons_self)
      have hcalled : raise.called = (s.dispatcher.handlers raise.nType).take raise.i := by
        rw [hloop.called, hidle]
        rfl
      have houter : ∀ other ∈ raises, Loop (s.dispatcher.handlers other.nType)
          ((s.registered[other.nType]?).getD []) other :=
        fun other hmem => h other (by rw [hraises]; exact List.mem_cons_of_mem _ hmem)
      dsimp only
      cases hat : (s.dispatcher.handlers raise.nType)[raise.i]? with
      | some pHandler =>
          refine ⟨fun other hmem => ?_, fun raise hmem => .inl hmem⟩
          rcases List.mem_cons.mp hmem with rfl | hmem
          · refine ⟨?_, hloop.once⟩
            dsimp only
            rw [hcalled, if_pos rfl, List.take_add_one, hat]
            rfl
          · exact houter other hmem
      | none =>
          refine ⟨houter, fun other hmem => ?_⟩
          rcases List.mem_append.mp hmem with hmem | hmem
          · exact .inl hmem
          · right
            rw [List.mem_singleton] at hmem
            rw [hmem]
            dsimp only
            have hall : (s.dispatcher.handlers raise.nType).take raise.i =
                s.dispatcher.handlers raise.nType :=
              List.take_of_length_le (List.getElem?_eq_none_iff.mp hat)
            rw [hcalled, hall]
            exact hloop.once

theorem loops_return (h : s.Loops) (hruns : s.Runs) : s.return.Loops := by
  unfold «return»
  cases hraises : s.raises with
  | nil => exact h
  | cons raise raises =>
      have honEvent : raise.bOnEvent = true := hruns raise (by rw [hraises]; rfl)
      have hloop := h raise (by rw [hraises]; exact List.mem_cons_self)
      intro other hmem
      rcases List.mem_cons.mp hmem with rfl | hmem
      · refine ⟨?_, hloop.once⟩
        have hcalled := hloop.called
        rw [honEvent] at hcalled
        exact hcalled
      · exact h other (by rw [hraises]; exact List.mem_cons_of_mem _ hmem)

/-! ## Whole runs -/

/-- A call that keeps to the lists leaves the loops in order and is safe. -/
theorem step_safe {call : EventCall H} (hs : s.Safe) (h : s.Loops) (hallowed : s.Allowed call)
    (hkeeps : s.Keeps call) : (s.step call).Safe ∧ (s.step call).Loops := by
  cases call with
  | registerEventHandler nType pHandler =>
      refine ⟨⟨?_, hs.once⟩, loops_registerEventHandler h hkeeps⟩
      refine decide_eq_false ?_
      rintro (hchanged | ⟨hcan, hiterates⟩)
      · rw [hs.unchanged] at hchanged
        cases hchanged
      · exact hkeeps hcan hiterates
  | unregisterEventHandler pHandler =>
      refine ⟨⟨?_, hs.once⟩, loops_unregisterEventHandler h hkeeps⟩
      refine decide_eq_false ?_
      rintro (hchanged | ⟨hdispatch, raise, hmem, hmem'⟩)
      · rw [hs.unchanged] at hchanged
        cases hchanged
      · exact hkeeps hdispatch raise hmem hmem'
  | raiseEvent nType =>
      refine ⟨?_, loops_raiseEvent h hkeeps⟩
      show (s.raiseEvent nType).Safe
      unfold raiseEvent
      split
      · exact hs
      · exact ⟨hs.unchanged, hs.once⟩
  | next =>
      obtain ⟨hloops, hfinished⟩ := loops_next h hallowed.2
      refine ⟨⟨?_, fun raise hmem => ?_⟩, hloops⟩
      · show s.next.bChanged = false
        unfold next
        split
        · exact hs.unchanged
        · split
          · exact hs.unchanged
          · exact hs.unchanged
      · rcases hfinished raise hmem with hold | hnew
        · exact hs.once raise hold
        · exact hnew
  | «return» =>
      refine ⟨?_, loops_return h hallowed.2⟩
      show s.return.Safe
      unfold «return»
      split
      · exact hs
      · exact ⟨hs.unchanged, hs.once⟩
  | otherDispatcher pHandler =>
      show (s.otherDispatcher pHandler).Safe ∧ (s.otherDispatcher pHandler).Loops
      unfold otherDispatcher
      split
      · exact ⟨⟨hs.unchanged, hs.once⟩, h⟩
      · exact ⟨hs, h⟩

instance : DecidablePred s.Allowed
  | .registerEventHandler _ _ => inferInstanceAs (Decidable s.Runs)
  | .unregisterEventHandler _ => inferInstanceAs (Decidable s.Runs)
  | .raiseEvent _ => inferInstanceAs (Decidable s.Runs)
  | .next => inferInstanceAs (Decidable (s.raises ≠ [] ∧ ¬ s.Runs))
  | .return => inferInstanceAs (Decidable (s.raises ≠ [] ∧ s.Runs))
  | .otherDispatcher _ => inferInstanceAs (Decidable s.Runs)

instance : DecidablePred s.Keeps
  | .registerEventHandler nType pHandler =>
      inferInstanceAs (Decidable (s.dispatcher.CanRegister pHandler → ¬ s.Iterates nType))
  | .unregisterEventHandler pHandler =>
      inferInstanceAs (Decidable (s.dispatcher.bDispatch = false →
        ∀ raise ∈ s.raises, pHandler ∉ s.dispatcher.handlers raise.nType))
  | .raiseEvent nType =>
      inferInstanceAs (Decidable (∀ pHandler ∈ (s.before[nType]?).getD [],
        (s.dispatcher.handlers nType).count pHandler = 1))
  | .next => inferInstanceAs (Decidable True)
  | .return => inferInstanceAs (Decidable True)
  | .otherDispatcher _ => inferInstanceAs (Decidable True)

/-- The state behind a series of calls that are allowed and satisfy a guard. -/
theorem reachable_foldl {G : EventRun H → EventCall H → Prop}
    (hreach : ((system H).guard G).Reachable s) {calls : List (EventCall H)}
    (h : Meets step (fun s call => s.Allowed call ∧ G s call) s calls) :
    ((system H).guard G).Reachable (calls.foldl step s) := by
  induction calls generalizing s with
  | nil => exact hreach
  | cons call calls ih => exact ih (hreach.step ⟨⟨h.1.1, rfl⟩, h.1.2⟩) h.2

/-- The handler 1 of the event 1 raises the event 2 and returns. -/
def nested : List (EventCall ℕ) :=
  [.registerEventHandler 1 1, .registerEventHandler 2 2, .raiseEvent 1, .next,
    .raiseEvent 2, .next, .return, .next, .return, .next]

/-- The handler 1 registers a handler for its event, after it has raised the event 2. -/
def nestedRegister : List (EventCall ℕ) :=
  [.registerEventHandler 1 1, .registerEventHandler 2 2, .raiseEvent 1, .next,
    .raiseEvent 2, .next, .return, .next, .registerEventHandler 1 3]

end EventRun

end RealtimeEx.Game
