import Mathlib.Algebra.Order.Ring.Int
import Mathlib.Data.List.Basic

/-!
# Readers of the front of a list

A reader takes a value off the front of a list, or fails.  A reader that mirrors a writer
step by step reads back what was written and leaves what follows.
-/

namespace RealtimeEx

variable {β α γ : Type}

/-- A reader of the front of a list. -/
abbrev FrontReader (β α : Type) := StateT (List β) Option α

/-- Whatever follows `bs`, `m` takes `bs` off and returns `a`. -/
def ReadsFront (m : FrontReader β α) (bs : List β) (a : α) : Prop :=
  ∀ rest : List β, m.run (bs ++ rest) = some (a, rest)

namespace ReadsFront

theorem pure (a : α) : ReadsFront (Pure.pure a : FrontReader β α) [] a := by
  intro rest
  rfl

theorem bind {m : FrontReader β α} {f : α → FrontReader β γ} {bs cs : List β} {a : α} {c : γ}
    (hm : ReadsFront m bs a) (hf : ReadsFront (f a) cs c) :
    ReadsFront (m >>= f) (bs ++ cs) c := by
  intro rest
  rw [StateT.run_bind, List.append_assoc, hm (cs ++ rest), Option.bind_eq_bind, Option.bind_some]
  exact hf rest

theorem bind_pure {m : FrontReader β α} {bs : List β} {a : α} (hm : ReadsFront m bs a)
    (g : α → γ) : ReadsFront (m >>= fun a => Pure.pure (g a)) bs (g a) := by
  have hbind := hm.bind (f := fun a => Pure.pure (g a)) (pure (g a))
  rwa [List.append_nil] at hbind

theorem run_eq {m : FrontReader β α} {bs : List β} {a : α} (h : ReadsFront m bs a) :
    m.run bs = some (a, []) := by
  have hrun := h []
  rwa [List.append_nil] at hrun

end ReadsFront

/-! ## Fixed text -/

/-- Takes a fixed text off. -/
def expect [DecidableEq β] (text : List β) : FrontReader β Unit :=
  fun bs =>
    if bs.take text.length = text then some ((), bs.drop text.length) else none

theorem readsFront_expect [DecidableEq β] (text : List β) :
    ReadsFront (expect text) text () := by
  intro rest
  show expect text (text ++ rest) = some ((), rest)
  unfold expect
  rw [List.take_left, if_pos rfl, List.drop_left]

/-- Takes a number of elements off. -/
def takeFront (n : ℕ) : FrontReader β (List β) :=
  fun bs => if n ≤ bs.length then some (bs.take n, bs.drop n) else none

theorem readsFront_takeFront (bs : List β) : ReadsFront (takeFront bs.length) bs bs := by
  intro rest
  show takeFront bs.length (bs ++ rest) = some (bs, rest)
  unfold takeFront
  rw [if_pos (by simp), List.take_left, List.drop_left]

/-! ## Repetition -/

/-- Reads values up to the end of the list, at most the given number of them. -/
def readAll (m : FrontReader β α) : ℕ → List β → Option (List α)
  | _, [] => some []
  | 0, _ :: _ => none
  | n + 1, b :: bs =>
      (m.run (b :: bs)).bind fun r => (readAll m n r.2).map (r.1 :: ·)

theorem readAll_flatMap {m : FrontReader β α} {write : α → List β} {as : List α}
    (hm : ∀ a ∈ as, ReadsFront m (write a) a) (hne : ∀ a ∈ as, write a ≠ []) {n : ℕ}
    (hn : as.length ≤ n) : readAll m n (as.flatMap write) = some as := by
  induction as generalizing n with
  | nil =>
      cases n with
      | zero => rfl
      | succ n => rfl
  | cons a as ih =>
      obtain ⟨hma, hmas⟩ := List.forall_mem_cons.mp hm
      obtain ⟨hnea, hneas⟩ := List.forall_mem_cons.mp hne
      obtain ⟨n, rfl⟩ : ∃ k, n = k + 1 := ⟨n - 1, by rw [List.length_cons] at hn; omega⟩
      obtain ⟨b, bs, hwrite⟩ := List.exists_cons_of_ne_nil hnea
      have hrun := hma (as.flatMap write)
      rw [List.flatMap_cons]
      rw [hwrite, List.cons_append] at hrun ⊢
      unfold readAll
      rw [hrun, Option.bind_some, ih hmas hneas (Nat.le_of_succ_le_succ hn), Option.map_some]

/-- Values that are written with at least one element each are no more than the
elements. -/
theorem length_le_length_flatMap {write : α → List β} {as : List α}
    (hne : ∀ a ∈ as, write a ≠ []) : as.length ≤ (as.flatMap write).length := by
  induction as with
  | nil => exact Nat.le_refl 0
  | cons a as ih =>
      obtain ⟨hnea, hneas⟩ := List.forall_mem_cons.mp hne
      have hpos := List.length_pos_iff.mpr hnea
      have hrest := ih hneas
      rw [List.length_cons, List.flatMap_cons, List.length_append]
      omega

end RealtimeEx
