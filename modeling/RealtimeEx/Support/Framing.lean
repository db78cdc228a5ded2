import Mathlib.Algebra.Order.Ring.Int
import Mathlib.Data.List.Basic
import Mathlib.Data.List.Induction

/-!
# Framing of byte streams

A receiver cuts a byte stream into frames by looking at the front of what has
arrived and not yet been consumed.  The general part of that is independent of
the format of a frame: what is cut off depends on the stream only and not on
how it was divided into reads, and a stream made of encoded frames is cut into
exactly these frames.
-/

namespace RealtimeEx

universe u v

/-! ## Little-endian numbers -/

/-- The `width` low bytes of `value`, least significant first. -/
def leBytes : ℕ → ℕ → List UInt8
  | 0, _ => []
  | width + 1, value => UInt8.ofNat value :: leBytes width (value / 256)

/-- The number that the bytes encode. -/
def leNat : List UInt8 → ℕ
  | [] => 0
  | b :: bs => b.toNat + 256 * leNat bs

@[simp] theorem length_leBytes (width value : ℕ) :
    (leBytes width value).length = width := by
  induction width generalizing value with
  | zero => rfl
  | succ width ih => simp [leBytes, ih]

/-- Reading back what was written loses the bits that did not fit. -/
theorem leNat_leBytes (width value : ℕ) :
    leNat (leBytes width value) = value % 256 ^ width := by
  induction width generalizing value with
  | zero => simp [leBytes, leNat, Nat.mod_one]
  | succ width ih =>
      rw [leBytes, leNat, ih, Nat.pow_succ', Nat.mod_mul, UInt8.toNat_ofNat']

theorem leNat_lt (bytes : List UInt8) :
    leNat bytes < 256 ^ bytes.length := by
  induction bytes with
  | nil => simp [leNat]
  | cons b bs ih =>
      have hb := b.toNat_lt
      rw [leNat, List.length_cons, Nat.pow_succ']
      omega

/-! ## Scanners -/

/-- What the front of a byte stream looks like to the receiver. -/
inductive Scan (φ : Type v)
  | incomplete
  | broken
  | frame (value : φ) (size : ℕ)
  deriving DecidableEq

/-- A frame format: how the front of the unconsumed bytes is read.  A verdict
never changes when more bytes arrive. -/
structure Scanner (β : Type u) (φ : Type v) where
  scan : List β → Scan φ
  scan_nil : scan [] = .incomplete
  size_pos : ∀ {xs f n}, scan xs = .frame f n → 0 < n
  size_le : ∀ {xs f n}, scan xs = .frame f n → n ≤ xs.length
  frame_append : ∀ {xs f n} (ys : List β),
    scan xs = .frame f n → scan (xs ++ ys) = .frame f n
  broken_append : ∀ {xs} (ys : List β),
    scan xs = .broken → scan (xs ++ ys) = .broken

/-- A receiver: the frames it has cut off, the bytes it has not consumed, and
whether it gave the stream up. -/
structure Receiver (β : Type u) (φ : Type v) where
  frames : List φ := []
  pending : List β := []
  closed : Bool := false

namespace Scanner

variable {β : Type u} {φ : Type v} (S : Scanner β φ)

/-- Cut off frames until the rest is incomplete or broken. -/
def drain (xs : List β) : Receiver β φ :=
  match _h : S.scan xs with
  | .incomplete => { pending := xs }
  | .broken => { closed := true }
  | .frame f n =>
      let r := drain (xs.drop n)
      { r with frames := f :: r.frames }
termination_by xs.length
decreasing_by
  have hpos := S.size_pos _h
  have hle := S.size_le _h
  rw [List.length_drop]
  omega

theorem drain_of_incomplete {xs : List β} (h : S.scan xs = .incomplete) :
    S.drain xs = { pending := xs } := by
  rw [drain]
  split <;> simp_all

theorem drain_of_broken {xs : List β} (h : S.scan xs = .broken) :
    S.drain xs = { closed := true } := by
  rw [drain]
  split <;> simp_all

theorem drain_of_frame {xs : List β} {f : φ} {n : ℕ}
    (h : S.scan xs = .frame f n) :
    S.drain xs =
      { S.drain (xs.drop n) with
        frames := f :: (S.drain (xs.drop n)).frames } := by
  rw [drain]
  split
  · simp_all
  · simp_all
  · rename_i f' n' h'
    rw [h] at h'
    cases h'
    rfl

/-- One read: the new bytes go behind the unconsumed ones. -/
def receive (r : Receiver β φ) (chunk : List β) : Receiver β φ :=
  if r.closed then
    r
  else
    let next := S.drain (r.pending ++ chunk)
    { next with frames := r.frames ++ next.frames }

/-- A whole sequence of reads on a fresh connection. -/
def receiveAll (chunks : List (List β)) : Receiver β φ :=
  chunks.foldl S.receive {}

/-! ## Reads do not matter -/

/-- What follows the consumed bytes is all that a later read can see. -/
theorem drain_append (xs ys : List β) :
    S.drain (xs ++ ys) = S.receive (S.drain xs) ys := by
  induction hlength : xs.length using Nat.strongRecOn
    generalizing xs with
  | _ length ih =>
      subst hlength
      cases hscan : S.scan xs with
      | incomplete =>
          rw [S.drain_of_incomplete hscan]
          simp [receive]
      | broken =>
          rw [S.drain_of_broken hscan,
            S.drain_of_broken (S.broken_append ys hscan)]
          simp [receive]
      | frame f n =>
          have hpos := S.size_pos hscan
          have hle := S.size_le hscan
          have hrest := ih (xs.drop n).length
            (by rw [List.length_drop]; omega) (xs.drop n) rfl
          rw [S.drain_of_frame hscan,
            S.drain_of_frame (S.frame_append ys hscan),
            List.drop_append_of_le_length hle, hrest]
          by_cases hclosed : (S.drain (xs.drop n)).closed
          · simp [receive, hclosed]
          · simp [receive, hclosed]

/-- However a stream is divided into reads, the receiver ends in the same
state. -/
theorem receiveAll_eq_drain (chunks : List (List β)) :
    S.receiveAll chunks = S.drain chunks.flatten := by
  induction chunks using List.reverseRecOn with
  | nil =>
      rw [List.flatten_nil, S.drain_of_incomplete S.scan_nil]
      rfl
  | append_singleton chunks chunk ih =>
      rw [receiveAll, List.foldl_append, ← receiveAll, ih, List.flatten_append,
        List.flatten_singleton, drain_append]
      rfl

/-! ## Streams of encoded frames -/

/-- `bytes` is an encoding of the frame `f`: whatever follows it, the receiver
cuts off exactly these bytes as `f`. -/
def Encodes (bytes : List β) (f : φ) : Prop :=
  ∀ ys, S.scan (bytes ++ ys) = .frame f bytes.length

variable {S}

/-- A stream of encodings is cut into exactly the encoded frames. -/
theorem drain_flatten {γ : Type*} {encode : γ → List β} {decode : γ → φ}
    {msgs : List γ}
    (h : ∀ m ∈ msgs, S.Encodes (encode m) (decode m)) :
    S.drain (msgs.map encode).flatten = { frames := msgs.map decode } := by
  induction msgs with
  | nil => exact S.drain_of_incomplete S.scan_nil
  | cons m msgs ih =>
      have hscan := h m List.mem_cons_self (msgs.map encode).flatten
      have hrest := ih fun m' hm' => h m' (List.mem_cons_of_mem m hm')
      rw [List.map_cons, List.flatten_cons, S.drain_of_frame hscan,
        List.drop_left, hrest]
      rfl

/-- Whatever is cut off was scanned as a frame somewhere. -/
theorem exists_scan_of_mem_drain {xs : List β} {f : φ}
    (h : f ∈ (S.drain xs).frames) : ∃ ys n, S.scan ys = .frame f n := by
  induction hlength : xs.length using Nat.strongRecOn generalizing xs with
  | _ length ih =>
      subst hlength
      cases hscan : S.scan xs with
      | incomplete => simp [S.drain_of_incomplete hscan] at h
      | broken => simp [S.drain_of_broken hscan] at h
      | frame g n =>
          have hpos := S.size_pos hscan
          have hle := S.size_le hscan
          rw [S.drain_of_frame hscan] at h
          rcases List.mem_cons.mp h with rfl | hrest
          · exact ⟨xs, n, hscan⟩
          · exact ih (xs.drop n).length (by rw [List.length_drop]; omega)
              hrest rfl

/-! ## Cutting in place -/

/-- `xs` starts with the frames `fs`, and `rest` is what is behind them. -/
inductive Cuts (S : Scanner β φ) : List β → List φ → List β → Prop
  | nil (xs : List β) : Cuts S xs [] xs
  | cons {xs : List β} {f : φ} {n : ℕ} {fs : List φ} {rest : List β} :
      S.scan xs = .frame f n → Cuts S (xs.drop n) fs rest → Cuts S xs (f :: fs) rest

/-- The frames at the front of `xs`, the bytes they take, and whether the rest is
broken. -/
def cut (S : Scanner β φ) (xs : List β) : List φ × ℕ × Bool :=
  match _h : S.scan xs with
  | .incomplete => ([], 0, false)
  | .broken => ([], 0, true)
  | .frame f n =>
      let r := S.cut (xs.drop n)
      (f :: r.1, n + r.2.1, r.2.2)
termination_by xs.length
decreasing_by
  have hpos := S.size_pos _h
  have hle := S.size_le _h
  rw [List.length_drop]
  omega

theorem cut_of_incomplete {xs : List β} (h : S.scan xs = .incomplete) :
    S.cut xs = ([], 0, false) := by
  rw [cut]
  split <;> simp_all

theorem cut_of_broken {xs : List β} (h : S.scan xs = .broken) :
    S.cut xs = ([], 0, true) := by
  rw [cut]
  split <;> simp_all

theorem cut_of_frame {xs : List β} {f : φ} {n : ℕ} (h : S.scan xs = .frame f n) :
    S.cut xs = (f :: (S.cut (xs.drop n)).1, n + (S.cut (xs.drop n)).2.1,
      (S.cut (xs.drop n)).2.2) := by
  rw [cut]
  split
  · simp_all
  · simp_all
  · rename_i f' n' h'
    rw [h] at h'
    cases h'
    rfl

/-- Cutting in place takes whole frames off the front and stops where there is no
further one. -/
theorem cut_spec (S : Scanner β φ) (xs : List β) :
    (S.cut xs).2.1 ≤ xs.length ∧ S.Cuts xs (S.cut xs).1 (xs.drop (S.cut xs).2.1) ∧
      S.scan (xs.drop (S.cut xs).2.1) =
        if (S.cut xs).2.2 then .broken else .incomplete := by
  induction hlength : xs.length using Nat.strongRecOn generalizing xs with
  | _ length ih =>
      subst hlength
      cases hscan : S.scan xs with
      | incomplete =>
          rw [cut_of_incomplete hscan]
          exact ⟨Nat.zero_le _, .nil xs, hscan⟩
      | broken =>
          rw [cut_of_broken hscan]
          exact ⟨Nat.zero_le _, .nil xs, hscan⟩
      | frame f n =>
          have hpos := S.size_pos hscan
          have hle := S.size_le hscan
          obtain ⟨hsize, hcuts, hend⟩ := ih (xs.drop n).length
            (by rw [List.length_drop]; omega) (xs.drop n) rfl
          rw [cut_of_frame hscan]
          rw [List.drop_drop] at hcuts hend
          rw [List.length_drop] at hsize
          exact ⟨by show n + _ ≤ xs.length; omega, .cons hscan hcuts, hend⟩

theorem Cuts.append {xs : List β} {fs : List φ} {rest : List β}
    (h : S.Cuts xs fs rest) (ys : List β) : S.Cuts (xs ++ ys) fs (rest ++ ys) := by
  induction h with
  | nil xs => exact .nil (xs ++ ys)
  | cons hscan _ ih =>
      refine .cons (S.frame_append ys hscan) ?_
      rwa [List.drop_append_of_le_length (S.size_le hscan)]

theorem Cuts.trans {xs : List β} {fs gs : List φ} {ys zs : List β}
    (h : S.Cuts xs fs ys) (h' : S.Cuts ys gs zs) : S.Cuts xs (fs ++ gs) zs := by
  induction h with
  | nil xs => exact h'
  | cons hscan _ ih => exact .cons hscan (ih h')

/-- A stream is cut in one way only. -/
theorem Cuts.frames_eq_drain {xs : List β} {fs : List φ} {rest : List β}
    (h : S.Cuts xs fs rest) (hend : ∀ f n, S.scan rest ≠ .frame f n) :
    fs = (S.drain xs).frames := by
  induction h with
  | nil xs =>
      cases hscan : S.scan xs with
      | incomplete => rw [S.drain_of_incomplete hscan]
      | broken => rw [S.drain_of_broken hscan]
      | frame f n => exact absurd hscan (hend f n)
  | cons hscan _ ih => rw [S.drain_of_frame hscan, ih hend]

/-- Whoever cuts as far as possible has all the frames that another one has. -/
theorem Cuts.frames_isPrefix {xs : List β} {fs gs : List φ} {ys zs : List β}
    (h : S.Cuts xs fs ys) (h' : S.Cuts xs gs zs)
    (hend' : ∀ f n, S.scan zs ≠ .frame f n) : fs <+: gs := by
  induction h generalizing gs zs with
  | nil xs => exact List.nil_prefix
  | cons hscan _ ih =>
      cases h' with
      | nil => exact absurd hscan (hend' _ _)
      | cons hscan' hcuts =>
          rw [hscan] at hscan'
          cases hscan'
          exact List.cons_prefix_cons.mpr ⟨rfl, ih hcuts hend'⟩

/-- A stream of encodings with something behind it. -/
theorem cuts_flatten {γ : Type*} {encode : γ → List β} {decode : γ → φ}
    {msgs : List γ} (h : ∀ m ∈ msgs, S.Encodes (encode m) (decode m)) (rest : List β) :
    S.Cuts ((msgs.map encode).flatten ++ rest) (msgs.map decode) rest := by
  induction msgs with
  | nil => exact .nil rest
  | cons m msgs ih =>
      have hscan := h m List.mem_cons_self ((msgs.map encode).flatten ++ rest)
      have hrest := ih fun m' hm' => h m' (List.mem_cons_of_mem m hm')
      rw [List.map_cons, List.flatten_cons, List.append_assoc]
      refine .cons hscan ?_
      rwa [List.drop_left]

theorem Cuts.rest_unique {xs : List β} {fs gs : List φ} {ys zs : List β}
    (h : S.Cuts xs fs ys) (hend : ∀ f n, S.scan ys ≠ .frame f n)
    (h' : S.Cuts xs gs zs) (hend' : ∀ f n, S.scan zs ≠ .frame f n) : ys = zs := by
  induction h generalizing gs zs with
  | nil xs =>
      cases h' with
      | nil => rfl
      | cons hscan _ => exact absurd hscan (hend _ _)
  | cons hscan _ ih =>
      cases h' with
      | nil => exact absurd hscan (hend' _ _)
      | cons hscan' hcuts =>
          rw [hscan] at hscan'
          cases hscan'
          exact ih hend hcuts hend'

end Scanner

end RealtimeEx
