import Mathlib.Algebra.Order.Ring.Int
import Mathlib.Data.List.Basic
import Mathlib.Data.List.Pairwise
import Mathlib.Tactic.Common

/-!
# Events that open and close

A log of events each of which opens or closes something.  Seen from one observer the
log alternates; seen from what is opened, an item is open while no later event closes
it.

The commands of a queue refer to objects, and some of them are the last that may
refer to their object.  If every queue keeps to this, an object can be given up when
its closing command is taken out.
-/

namespace RealtimeEx

/-! ## Alternation -/

section Logs

/-- The log opens and closes in turn and begins with an opening. -/
def Alternates (log : List Bool) : Prop :=
  ∀ i (h : i < log.length), log[i] = true ↔ i % 2 = 0

/-- The last event of an alternating log is an opening. -/
def IsUp (log : List Bool) : Prop :=
  log.length % 2 = 1

theorem alternates_nil : Alternates [] := by
  intro i h
  exact absurd h (Nat.not_lt_zero i)

theorem not_isUp_nil : ¬ IsUp [] := by
  simp [IsUp]

/-- What keeps the log alternating is an opening when it is down and a closing when it
is up. -/
theorem Alternates.append {log : List Bool} (h : Alternates log) {bOpen : Bool}
    (hopen : bOpen = true ↔ ¬ IsUp log) : Alternates (log ++ [bOpen]) := by
  intro i hi
  rw [List.length_append, List.length_singleton] at hi
  rcases Nat.lt_or_ge i log.length with hlt | hge
  · rw [List.getElem_append_left hlt]
    exact h i hlt
  · obtain rfl : i = log.length := by omega
    rw [List.getElem_concat_length rfl]
    rw [hopen, IsUp]
    omega

theorem isUp_append {log : List Bool} {bOpen : Bool} :
    IsUp (log ++ [bOpen]) ↔ ¬ IsUp log := by
  rw [IsUp, IsUp, List.length_append, List.length_singleton]
  omega

/-! ## What is open -/

variable {α : Type*} [DecidableEq α]

/-- The opened items that no later event closes, in the order of their openings. -/
def openItems : List (Bool × α) → List α
  | [] => []
  | (true, a) :: log => if (false, a) ∈ log then openItems log else a :: openItems log
  | (false, _) :: log => openItems log

/-- The item of the last opening that no later event closes. -/
def lastOpen (log : List (Bool × α)) : Option α :=
  (openItems log).getLast?

theorem openItems_append_open (log : List (Bool × α)) (a : α) :
    openItems (log ++ [(true, a)]) = openItems log ++ [a] := by
  induction log with
  | nil => rfl
  | cons e log ih =>
      obtain ⟨bOpen, b⟩ := e
      cases bOpen with
      | false =>
          rw [List.cons_append, openItems, openItems]
          exact ih
      | true =>
          rw [List.cons_append, openItems, openItems, ih]
          by_cases hmem : (false, b) ∈ log
          · rw [if_pos hmem, if_pos (List.mem_append_left _ hmem)]
          · rw [if_neg hmem, if_neg]
            · rfl
            · rw [List.mem_append]
              rintro (hleft | hright)
              · exact hmem hleft
              · simp at hright

/-- A closing takes away every earlier opening of its item. -/
theorem openItems_append_close (log : List (Bool × α)) (a : α) :
    openItems (log ++ [(false, a)]) = (openItems log).filter (· ≠ a) := by
  induction log with
  | nil => rfl
  | cons e log ih =>
      obtain ⟨bOpen, b⟩ := e
      cases bOpen with
      | false =>
          rw [List.cons_append, openItems, openItems]
          exact ih
      | true =>
          rw [List.cons_append, openItems, openItems, ih]
          by_cases hmem : (false, b) ∈ log
          · rw [if_pos hmem, if_pos (List.mem_append_left _ hmem)]
          · rw [if_neg hmem]
            by_cases hab : b = a
            · subst hab
              rw [if_pos (List.mem_append_right _ List.mem_cons_self),
                List.filter_cons_of_neg (by simp)]
            · rw [if_neg, List.filter_cons_of_pos (by simpa using hab)]
              rw [List.mem_append]
              rintro (hleft | hright)
              · exact hmem hleft
              · exact hab (by simpa using hright)

end Logs

/-! ## Queues with closing commands -/

section Queues

universe u v

variable {κ : Type u} {ι : Type v}

/-- The object a command refers to, and the object it closes. -/
structure References (κ : Type u) (ι : Type v) where
  refersTo : κ → Option ι
  closes : κ → Option ι

namespace References

variable (R : References κ ι)

/-- Behind a command that closes an object no command refers to that object. -/
def ClosesLast (xs : List κ) : Prop :=
  xs.Pairwise fun c c' => ∀ i, R.closes c = some i → R.refersTo c' ≠ some i

variable {R} {xs ys : List κ} {c : κ} {i : ι}

theorem ClosesLast.nil : R.ClosesLast [] := List.Pairwise.nil

theorem ClosesLast.tail (h : R.ClosesLast (c :: xs)) : R.ClosesLast xs :=
  (List.pairwise_cons.mp h).2

theorem ClosesLast.ne_of_closes (h : R.ClosesLast (c :: xs)) (hc : R.closes c = some i) :
    ∀ c' ∈ xs, R.refersTo c' ≠ some i := by
  intro c' hc'
  exact (List.pairwise_cons.mp h).1 c' hc' i hc

theorem ClosesLast.of_append_right (h : R.ClosesLast (xs ++ ys)) : R.ClosesLast ys :=
  (List.pairwise_append.mp h).2.1

theorem ClosesLast.concat (h : R.ClosesLast xs)
    (hc : ∀ i, R.refersTo c = some i → ∀ c' ∈ xs, R.closes c' ≠ some i) :
    R.ClosesLast (xs ++ [c]) := by
  refine List.pairwise_append.mpr ⟨h, List.pairwise_singleton _ c, ?_⟩
  intro c' hc' d hd i hcloses hrefers
  rw [List.mem_singleton.mp hd] at hrefers
  exact hc i hrefers c' hc' hcloses

end References

end Queues

end RealtimeEx
