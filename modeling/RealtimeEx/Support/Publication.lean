import Mathlib.Data.List.ReduceOption
import RealtimeEx.Support.Transition

/-!
# Publications

A writer runs calls and sends the packets of each call to a number of readers.  Every reader
has a queue of its own and a copy that the packets change.  The packets of a call go to one
reader after the other, and meanwhile the readers take packets from their queues and others
put theirs into them.
-/

namespace RealtimeEx

universe u

/-- What the writer is at and still has to send, and the queue and the copy of each reader.  A
packet of somebody else is `none`. -/
structure Publication (W κ π σ : Type*) where
  writer : W
  sending : List (κ × π)
  queue : κ → List (Option π)
  copy : κ → σ

/-- The readers, what a call makes of the writer, the batches of packets that it sends, and what a
packet makes of a copy. -/
structure Publisher (W C κ π σ : Type*) where
  readers : List κ
  exec : W → C → W
  batches : W → C → List (List π)
  apply : σ → π → σ

/-- The steps of a publication. -/
inductive PublicationLabel (C κ π : Type*)
  | call (c : C)
  | send
  | post (k : κ)
  | take (k : κ) (packet : Option π)

namespace Publisher

variable {W C κ π σ : Type*} (P : Publisher W C κ π σ)

/-- All packets of a list of calls. -/
def packets : W → List C → List π
  | _, [] => []
  | w, c :: calls => (P.batches w c).flatten ++ packets (P.exec w c) calls

theorem packets_append (w : W) (calls more : List C) :
    P.packets w (calls ++ more) =
      P.packets w calls ++ P.packets (calls.foldl P.exec w) more := by
  induction calls generalizing w with
  | nil => rfl
  | cons c calls ih =>
      rw [List.cons_append, packets, packets, ih, List.append_assoc, List.foldl_cons]

/-- A batch goes to one reader after the other. -/
def addressed (batches : List (List π)) : List (κ × π) :=
  batches.flatMap fun batch => P.readers.flatMap fun k => batch.map (k, ·)

variable [DecidableEq κ]

/-- A call runs when the packets of the one before are sent. -/
inductive Step : Publication W κ π σ → PublicationLabel C κ π → Publication W κ π σ → Prop
  | call {s : Publication W κ π σ} (c : C) (hsending : s.sending = []) :
      Step s (.call c)
        { s with
          writer := P.exec s.writer c
          sending := P.addressed (P.batches s.writer c) }
  | send {s : Publication W κ π σ} {k : κ} {packet : π} {rest : List (κ × π)}
      (hsending : s.sending = (k, packet) :: rest) :
      Step s .send
        { s with
          sending := rest
          queue := Function.update s.queue k (s.queue k ++ [some packet]) }
  | post {s : Publication W κ π σ} (k : κ) :
      Step s (.post k) { s with queue := Function.update s.queue k (s.queue k ++ [none]) }
  | take {s : Publication W κ π σ} {k : κ} {packet : Option π} {rest : List (Option π)}
      (hqueue : s.queue k = packet :: rest) :
      Step s (.take k packet)
        { s with
          queue := Function.update s.queue k rest
          copy := Function.update s.copy k (packet.elim (s.copy k) (P.apply (s.copy k))) }

/-- The publication with a writer and copies to start with. -/
def system (writer : W) (copy : κ → σ) :
    TransitionSystem (Publication W κ π σ) (PublicationLabel C κ π) where
  init s := s = { writer, copy, sending := [], queue := fun _ => [] }
  step := P.Step

end Publisher

namespace PublicationLabel

variable {C κ π : Type*}

/-- The calls of a run. -/
def calls (ls : List (PublicationLabel C κ π)) : List C :=
  ls.filterMap fun
    | call c => some c
    | _ => none

theorem calls_append (ls ks : List (PublicationLabel C κ π)) :
    calls (ls ++ ks) = calls ls ++ calls ks :=
  List.filterMap_append

variable [DecidableEq κ]

/-- The packets of the writer that a reader takes in a run. -/
def taken (k : κ) (ls : List (PublicationLabel C κ π)) : List π :=
  ls.filterMap fun
    | take j packet => if j = k then packet else none
    | _ => none

theorem taken_append (k : κ) (ls ks : List (PublicationLabel C κ π)) :
    taken k (ls ++ ks) = taken k ls ++ taken k ks :=
  List.filterMap_append

end PublicationLabel

namespace Publication

variable {W C κ π σ : Type*} [DecidableEq κ] {P : Publisher W C κ π σ}
  {s t : Publication W κ π σ} {k : κ}

open PublicationLabel

/-- The packets of the writer that a reader has not taken yet. -/
def onTheWay (s : Publication W κ π σ) (k : κ) : List π :=
  (s.queue k).reduceOption ++ (s.sending.filter (·.1 = k)).map Prod.snd

/-- A reader gets the batch once. -/
theorem addressed_batch (hnodup : P.readers.Nodup) (hk : k ∈ P.readers) (batch : List π) :
    ((P.readers.flatMap fun j => batch.map (j, ·)).filter (·.1 = k)).map Prod.snd = batch := by
  generalize P.readers = readers at hnodup hk
  have hothers (js : List κ) (hjs : k ∉ js) :
      (js.flatMap fun j => batch.map (j, ·)).filter (·.1 = k) = [] := by
    rw [List.filter_eq_nil_iff]
    intro e he
    obtain ⟨j, hj, he⟩ := List.mem_flatMap.mp he
    obtain ⟨packet, -, rfl⟩ := List.mem_map.mp he
    simp only [decide_eq_true_eq]
    rintro rfl
    exact hjs hj
  induction readers with
  | nil => exact absurd hk List.not_mem_nil
  | cons j readers ih =>
      obtain ⟨hj, hnodup⟩ := List.nodup_cons.mp hnodup
      rw [List.flatMap_cons, List.filter_append, List.map_append]
      by_cases hjk : j = k
      · subst j
        rw [hothers readers hj, List.map_nil, List.append_nil, List.filter_eq_self.mpr]
        · simp
        · intro e he
          obtain ⟨packet, -, rfl⟩ := List.mem_map.mp he
          exact decide_eq_true rfl
      · have hmem := (List.mem_cons.mp hk).resolve_left (Ne.symm hjk)
        rw [ih hnodup hmem, List.filter_eq_nil_iff.mpr]
        · rfl
        · intro e he
          obtain ⟨packet, -, rfl⟩ := List.mem_map.mp he
          simpa using hjk

theorem addressed_filter (hnodup : P.readers.Nodup) (hk : k ∈ P.readers)
    (batches : List (List π)) :
    ((P.addressed batches).filter (·.1 = k)).map Prod.snd = batches.flatten := by
  induction batches with
  | nil => rfl
  | cons batch batches ih =>
      rw [Publisher.addressed, List.flatMap_cons, List.filter_append, List.map_append,
        addressed_batch hnodup hk, List.flatten_cons]
      exact congrArg _ ih

/-- What a step does for one reader. -/
theorem onTheWay_step (hnodup : P.readers.Nodup) (hk : k ∈ P.readers)
    {l : PublicationLabel C κ π} (hstep : P.Step s l t) :
    t.writer = (calls [l]).foldl P.exec s.writer ∧
      s.onTheWay k ++ P.packets s.writer (calls [l]) = taken k [l] ++ t.onTheWay k ∧
      t.copy k = (taken k [l]).foldl P.apply (s.copy k) := by
  cases hstep with
  | call c hsending =>
      refine ⟨rfl, ?_, rfl⟩
      simp only [onTheWay, hsending, addressed_filter hnodup hk]
      simp [calls, taken, Publisher.packets]
  | @send j packet rest hsending =>
      refine ⟨rfl, ?_, rfl⟩
      simp only [onTheWay, hsending, List.filter_cons]
      by_cases hj : j = k
      · subst j
        simp [calls, taken, Publisher.packets, List.reduceOption_append]
      · simp [calls, taken, Publisher.packets, hj, Function.update_of_ne (Ne.symm hj)]
  | post j =>
      refine ⟨rfl, ?_, rfl⟩
      by_cases hj : j = k
      · subst j
        simp [onTheWay, calls, taken, Publisher.packets, List.reduceOption_append]
      · simp [onTheWay, calls, taken, Publisher.packets, Function.update_of_ne (Ne.symm hj)]
  | @take j packet rest hqueue =>
      by_cases hj : j = k
      · subst j
        cases packet with
        | none => simp [onTheWay, calls, taken, Publisher.packets, hqueue]
        | some packet => simp [onTheWay, calls, taken, Publisher.packets, hqueue]
      · simp [onTheWay, calls, taken, Publisher.packets, hj, Function.update_of_ne (Ne.symm hj)]

/-- In every run a reader takes the packets of the calls in their order, each of them once, and
its copy is what they make of it. -/
theorem run_eq {writer : W} {copy : κ → σ} {ls : List (PublicationLabel C κ π)}
    (hrun : (P.system writer copy).Run s ls t) (hnodup : P.readers.Nodup) (hk : k ∈ P.readers) :
    t.writer = (calls ls).foldl P.exec s.writer ∧
      s.onTheWay k ++ P.packets s.writer (calls ls) = taken k ls ++ t.onTheWay k ∧
      t.copy k = (taken k ls).foldl P.apply (s.copy k) := by
  induction hrun with
  | nil => exact ⟨rfl, List.append_nil _, rfl⟩
  | snoc _ hstep ih =>
      obtain ⟨hwriter, hway, hcopy⟩ := ih
      obtain ⟨hwriter', hway', hcopy'⟩ := onTheWay_step hnodup hk hstep
      rw [calls_append, taken_append, List.foldl_append, List.foldl_append, ← hwriter, ← hcopy]
      refine ⟨hwriter', ?_, hcopy'⟩
      rw [Publisher.packets_append, ← hwriter, ← List.append_assoc, hway, List.append_assoc,
        hway', List.append_assoc]

end Publication

end RealtimeEx
