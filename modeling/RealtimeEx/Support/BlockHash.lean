import Mathlib.Algebra.Order.Ring.Int
import Mathlib.Data.List.Basic
import Mathlib.Data.Nat.ModEq

/-!
# Hashing block by block

A hash function compresses a message into its state one block at a time.  What does not fill
a block is kept until more of the message comes, so it does not matter how the message is
cut when it is handed over.
-/

namespace RealtimeEx

universe u v

/-- A compression function and the size of its blocks. -/
structure BlockHash (σ : Type u) (β : Type v) where
  size : ℕ
  size_pos : 0 < size
  compress : σ → List β → σ

namespace BlockHash

variable {σ : Type u} {β : Type v}

/-- The state behind the last whole block, and what has come since. -/
@[ext] structure Absorbed (C : BlockHash σ β) where
  state : σ
  block : List β
  block_lt : block.length < C.size

variable {C : BlockHash σ β}

/-- Nothing has come yet. -/
def start (C : BlockHash σ β) (state : σ) : Absorbed C := ⟨state, [], C.size_pos⟩

namespace Absorbed

/-- The next element comes. -/
def feed (p : Absorbed C) (b : β) : Absorbed C :=
  if h : p.block.length + 1 < C.size then
    ⟨p.state, p.block ++ [b], by simpa using h⟩
  else
    ⟨C.compress p.state (p.block ++ [b]), [], C.size_pos⟩

/-- A part of the message comes. -/
def absorb (p : Absorbed C) (bs : List β) : Absorbed C := bs.foldl feed p

variable {p : Absorbed C}

@[simp] theorem absorb_nil : p.absorb [] = p := rfl

theorem absorb_cons (b : β) (bs : List β) : p.absorb (b :: bs) = (p.feed b).absorb bs := rfl

/-- Two parts may come as one. -/
theorem absorb_append (bs cs : List β) : p.absorb (bs ++ cs) = (p.absorb bs).absorb cs :=
  List.foldl_append

/-- A part that does not fill the block. -/
theorem absorb_of_lt {bs : List β} (h : p.block.length + bs.length < C.size) :
    p.absorb bs = ⟨p.state, p.block ++ bs, by simpa using h⟩ := by
  induction bs generalizing p with
  | nil => ext1 <;> simp
  | cons b bs ih =>
      rw [List.length_cons] at h
      have hfeed : p.feed b = ⟨p.state, p.block ++ [b], by simp; omega⟩ := by
        rw [feed, dif_pos (by omega)]
      rw [absorb_cons, hfeed, ih (by simp; omega)]
      ext1 <;> simp

/-- A part that fills the block exactly. -/
theorem absorb_of_eq {bs : List β} (h : p.block.length + bs.length = C.size) :
    p.absorb bs = C.start (C.compress p.state (p.block ++ bs)) := by
  have hlt := p.block_lt
  rcases List.eq_nil_or_concat' bs with rfl | ⟨cs, b, rfl⟩
  · simp only [List.length_nil] at h
    omega
  · rw [List.length_append, List.length_singleton] at h
    have hlast : p.block.length + cs.length < C.size := by omega
    rw [absorb_append, absorb_of_lt hlast, absorb_cons, absorb_nil, feed,
      dif_neg (by simp; omega)]
    simp [start]

/-- Whole blocks leave nothing over. -/
theorem absorb_blocks {blocks : List (List β)} (h : ∀ bs ∈ blocks, bs.length = C.size)
    (state : σ) :
    (C.start state).absorb blocks.flatten = C.start (blocks.foldl C.compress state) := by
  induction blocks generalizing state with
  | nil => rfl
  | cons bs blocks ih =>
      have hfirst : (C.start state).absorb bs = C.start (C.compress state bs) :=
        absorb_of_eq (by rw [h bs List.mem_cons_self]; exact Nat.zero_add _)
      rw [List.flatten_cons, absorb_append, hfirst, List.foldl_cons]
      exact ih (fun cs hcs => h cs (List.mem_cons_of_mem bs hcs)) _

/-- How much is left over depends on the length alone. -/
theorem length_block_absorb (bs : List β) :
    (p.absorb bs).block.length = (p.block.length + bs.length) % C.size := by
  have hlt := p.block_lt
  induction bs generalizing p with
  | nil => rw [absorb_nil, List.length_nil, Nat.add_zero, Nat.mod_eq_of_lt hlt]
  | cons b bs ih =>
      rw [absorb_cons, ih (p.feed b).block_lt, feed]
      split
      · simp only [List.length_append, List.length_cons, List.length_nil]
        congr 1
        omega
      · have hfull : p.block.length + (b :: bs).length = bs.length + C.size := by
          rw [List.length_cons]
          omega
        rw [hfull, Nat.add_mod_right, List.length_nil, Nat.zero_add]

end Absorbed

/-! ## Padding -/

/-- A mark, and as many zeros as leave `room` elements of the last block for the length of
a message of `n` elements. -/
def pad (C : BlockHash σ β) (room : ℕ) (mark zero : β) (n : ℕ) : List β :=
  mark :: List.replicate ((2 * C.size - (room + 1) - n % C.size) % C.size) zero

/-- The padded message and its length are whole blocks. -/
theorem length_pad {room : ℕ} (hroom : room < C.size) (mark zero : β) (n : ℕ) :
    C.size ∣ n + (C.pad room mark zero n).length + room := by
  have hr := Nat.mod_lt n C.size_pos
  have hn : n ≡ n % C.size [MOD C.size] := (Nat.mod_modEq n C.size).symm
  have hz := Nat.mod_modEq (2 * C.size - (room + 1) - n % C.size) C.size
  refine (Nat.modEq_zero_iff_dvd).mp ?_
  calc
    n + (C.pad room mark zero n).length + room =
        n + ((2 * C.size - (room + 1) - n % C.size) % C.size) + (1 + room) := by
      rw [pad, List.length_cons, List.length_replicate]
      omega
    _ ≡ n % C.size + (2 * C.size - (room + 1) - n % C.size) + (1 + room) [MOD C.size] :=
      (hn.add hz).add_right _
    _ = 2 * C.size := by omega
    _ ≡ 0 [MOD C.size] := (Nat.modEq_zero_iff_dvd).mpr (Dvd.intro_left 2 rfl)

/-- What is left of a message of `n` elements, its padding and its length: one block if they
fit, and two if they do not. -/
theorem Absorbed.state_absorb_pad {p : Absorbed C} {room n : ℕ} (hroom : room < C.size)
    (mark zero : β) (hn : p.block.length = n % C.size) {len : List β}
    (hlen : len.length = room) :
    (p.absorb (C.pad room mark zero n ++ len)).state =
      if p.block.length + 1 + room ≤ C.size then
        C.compress p.state (p.block ++ [mark] ++
          List.replicate (C.size - room - (p.block.length + 1)) zero ++ len)
      else
        C.compress (C.compress p.state (p.block ++ [mark] ++
            List.replicate (C.size - (p.block.length + 1)) zero))
          (List.replicate (C.size - room) zero ++ len) := by
  have hlt := p.block_lt
  split
  · rename_i hfits
    have hzeros : (2 * C.size - (room + 1) - n % C.size) % C.size =
        C.size - room - (p.block.length + 1) := by
      rw [← hn, show 2 * C.size - (room + 1) - p.block.length =
        C.size - room - (p.block.length + 1) + C.size by omega, Nat.add_mod_right,
        Nat.mod_eq_of_lt (by omega)]
    rw [pad, hzeros, absorb_of_eq]
    · simp [start]
    · simp only [List.length_append, List.length_cons, List.length_replicate, hlen]
      omega
  · rename_i hfull
    have hzeros : (2 * C.size - (room + 1) - n % C.size) % C.size =
        (C.size - (p.block.length + 1)) + (C.size - room) := by
      rw [← hn, show 2 * C.size - (room + 1) - p.block.length =
        (C.size - (p.block.length + 1)) + (C.size - room) by omega, Nat.mod_eq_of_lt (by omega)]
    have hsplit : C.pad room mark zero n ++ len =
        ([mark] ++ List.replicate (C.size - (p.block.length + 1)) zero) ++
          (List.replicate (C.size - room) zero ++ len) := by
      rw [pad, hzeros, List.cons_append, ← List.append_assoc, List.append_assoc [mark],
        List.replicate_append_replicate, List.singleton_append, List.cons_append]
    have hfirst : p.block.length +
        ([mark] ++ List.replicate (C.size - (p.block.length + 1)) zero).length = C.size := by
      simp only [List.length_append, List.length_singleton, List.length_replicate]
      omega
    have hsecond : ∀ state, (C.start state).block.length +
        (List.replicate (C.size - room) zero ++ len).length = C.size := by
      intro state
      simp only [start, List.length_nil, List.length_append, List.length_replicate, hlen]
      omega
    rw [hsplit, absorb_append, absorb_of_eq hfirst, absorb_of_eq (hsecond _)]
    simp [start]

/-- The hash of a message that is padded and ends with `len`. -/
def digest (C : BlockHash σ β) (room : ℕ) (mark zero : β) (len : ℕ → List β) (state : σ)
    (message : List β) : σ :=
  ((C.start state).absorb
    (message ++ (C.pad room mark zero message.length ++ len message.length))).state

/-- The padded message, cut into blocks in whatever way, is compressed block by block. -/
theorem digest_eq {room : ℕ} {mark zero : β} {len : ℕ → List β} {message : List β}
    {blocks : List (List β)} (state : σ) (hblocks : ∀ bs ∈ blocks, bs.length = C.size)
    (hflatten : blocks.flatten =
      message ++ (C.pad room mark zero message.length ++ len message.length)) :
    C.digest room mark zero len state message = blocks.foldl C.compress state := by
  rw [digest, ← hflatten, Absorbed.absorb_blocks hblocks]
  rfl

end BlockHash

end RealtimeEx
