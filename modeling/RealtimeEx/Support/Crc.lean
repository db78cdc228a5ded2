import Mathlib.Algebra.Order.Ring.Int
import Mathlib.Logic.Function.Iterate
import Mathlib.Tactic.Common

/-!
# Cyclic redundancy checks

The register of a check is shifted by one place for every bit of a message, the highest bit
first, and the polynomial is subtracted when a bit falls out.  Shifting is linear, so a
whole group of bits can be taken from a table at once.
-/

namespace RealtimeEx.Crc

variable {w : ℕ}

/-- The register is shifted by one place. -/
def shift (poly crc : BitVec w) : BitVec w :=
  if crc.msb then crc <<< 1 ^^^ poly else crc <<< 1

/-- One bit of the message is compared with the bit that falls out. -/
def feed (poly crc : BitVec w) (b : Bool) : BitVec w :=
  if crc.msb = b then crc <<< 1 else crc <<< 1 ^^^ poly

/-- The check of a message, bit by bit. -/
def bitwise (poly crc : BitVec w) (bits : List Bool) : BitVec w := bits.foldl (feed poly) crc

/-- Some bits in the highest places of the register. -/
def place : List Bool → BitVec w
  | [] => 0
  | b :: bits => (BitVec.ofBool b).setWidth w <<< (w - 1) ^^^ place bits >>> 1

variable (poly : BitVec w)

theorem bitwise_append (crc : BitVec w) (bits bits' : List Bool) :
    bitwise poly crc (bits ++ bits') = bitwise poly (bitwise poly crc bits) bits' :=
  List.foldl_append

/-! ## Shifting is linear -/

theorem shift_xor (x y : BitVec w) : shift poly (x ^^^ y) = shift poly x ^^^ shift poly y := by
  unfold shift
  rw [BitVec.msb_xor, BitVec.shiftLeft_xor_distrib]
  cases x.msb with
  | false =>
      cases y.msb with
      | false => rfl
      | true => exact BitVec.xor_assoc _ _ _
  | true =>
      cases y.msb with
      | false =>
          show x <<< 1 ^^^ y <<< 1 ^^^ poly = x <<< 1 ^^^ poly ^^^ y <<< 1
          rw [BitVec.xor_assoc, BitVec.xor_comm (y <<< 1), ← BitVec.xor_assoc]
      | true =>
          show x <<< 1 ^^^ y <<< 1 = x <<< 1 ^^^ poly ^^^ (y <<< 1 ^^^ poly)
          rw [BitVec.xor_comm (y <<< 1) poly, ← BitVec.xor_assoc, BitVec.xor_assoc (x <<< 1) poly,
            BitVec.xor_self, BitVec.xor_zero]

theorem iterate_shift_xor (k : ℕ) (x y : BitVec w) :
    (shift poly)^[k] (x ^^^ y) = (shift poly)^[k] x ^^^ (shift poly)^[k] y := by
  induction k generalizing x y with
  | zero => rfl
  | succ k ih => rw [Function.iterate_succ_apply, shift_xor, ih]; rfl

/-- As long as no bit falls out, shifting is shifting. -/
theorem iterate_shift_of_lt {k : ℕ} {x : BitVec w} (hk : k ≤ w) (hx : x.toNat < 2 ^ (w - k)) :
    (shift poly)^[k] x = x <<< k := by
  induction k generalizing x with
  | zero => exact (BitVec.shiftLeft_zero x).symm
  | succ k ih =>
      have hpow : 2 ^ (w - k) = 2 * 2 ^ (w - (k + 1)) := by
        rw [← Nat.pow_succ']
        congr 1
        omega
      have hhalf : 2 ^ (w - k) ≤ 2 ^ w := Nat.pow_le_pow_right (by omega) (by omega)
      have hmsb : x.msb = false := by
        rw [BitVec.msb_eq_false_iff_two_mul_lt]
        omega
      have hnext : (x <<< 1).toNat < 2 ^ (w - k) := by
        rw [BitVec.toNat_shiftLeft, Nat.shiftLeft_eq, pow_one, Nat.mod_eq_of_lt (by omega)]
        omega
      rw [Function.iterate_succ_apply, shift, hmsb, if_neg Bool.false_ne_true,
        ih (by omega) hnext, ← BitVec.shiftLeft_add, Nat.add_comm]

/-- A group of bits: those that fall out decide what is subtracted, the others move up. -/
theorem iterate_shift_eq {k : ℕ} (hk : k ≤ w) (x : BitVec w) :
    (shift poly)^[k] x =
      x <<< k ^^^ (shift poly)^[k] (x >>> (w - k) <<< (w - k)) := by
  have hsplit : x = (x.setWidth (w - k)).setWidth w ^^^ x >>> (w - k) <<< (w - k) := by
    ext i hi
    rw [BitVec.getElem_xor, BitVec.getElem_setWidth, BitVec.getLsbD_setWidth,
      BitVec.getElem_shiftLeft, ← BitVec.getLsbD_eq_getElem hi]
    by_cases hlow : i < w - k
    · simp [hlow]
    · simp [hlow, show w - k + (i - (w - k)) = i by omega]
  have hlow : ((x.setWidth (w - k)).setWidth w).toNat < 2 ^ (w - k) := by
    rw [BitVec.toNat_setWidth, BitVec.toNat_setWidth]
    exact (Nat.mod_le _ _).trans_lt (Nat.mod_lt _ (Nat.two_pow_pos _))
  have hmove : (x.setWidth (w - k)).setWidth w <<< k = x <<< k := by
    ext i hi
    simp only [BitVec.getElem_shiftLeft]
    by_cases hk' : i < k
    · simp [hk']
    · simp [hk', show i - k < w by omega, show i - k < w - k by omega]
  conv_lhs => rw [hsplit]
  rw [iterate_shift_xor, iterate_shift_of_lt poly hk hlow, hmove]

/-! ## A group of bits of the message -/

/-- A bit of the message is subtracted in the highest place before the shift. -/
theorem feed_eq (hw : 0 < w) (crc : BitVec w) (b : Bool) :
    feed poly crc b = shift poly (crc ^^^ (BitVec.ofBool b).setWidth w <<< (w - 1)) := by
  have hmsb : ((BitVec.ofBool b).setWidth w <<< (w - 1)).msb = b := by
    cases b <;> simp [BitVec.msb_eq_getLsbD_last, Nat.sub_lt hw Nat.one_pos]
  have hout : (BitVec.ofBool b).setWidth w <<< (w - 1) <<< 1 = 0 := by
    rw [← BitVec.shiftLeft_add, Nat.sub_add_cancel hw]
    exact BitVec.shiftLeft_eq_zero (Nat.le_refl w)
  unfold feed shift
  rw [BitVec.msb_xor, hmsb, BitVec.shiftLeft_xor_distrib, hout]
  cases crc.msb <;> cases b <;> simp

/-- The bits stand above the places that are left. -/
theorem getLsbD_place {bits : List Bool} {i : ℕ} (hi : i + bits.length < w) :
    (place bits : BitVec w).getLsbD i = false := by
  induction bits generalizing i with
  | nil => exact BitVec.getLsbD_zero
  | cons b bits ih =>
      rw [List.length_cons] at hi
      have hrest := ih (i := i + 1) (by omega)
      simp only [place, BitVec.getLsbD_xor, BitVec.getLsbD_shiftLeft, BitVec.getLsbD_ushiftRight,
        Nat.add_comm 1 i, hrest, show i < w - 1 by omega]
      simp

theorem shift_ushiftRight {x : BitVec w} (hw : 0 < w) (hx : x.getLsbD 0 = false) :
    shift poly (x >>> 1) = x := by
  have hmsb : (x >>> 1).msb = false := by
    simp [BitVec.msb_eq_getLsbD_last, show 1 + (w - 1) = w by omega]
  rw [shift, hmsb, if_neg Bool.false_ne_true]
  ext i hi
  rw [BitVec.getElem_shiftLeft, BitVec.getElem_ushiftRight]
  cases i with
  | zero => simpa [BitVec.getLsbD_eq_getElem hi] using hx.symm
  | succ i => simp [Nat.add_comm 1 i, BitVec.getLsbD_eq_getElem hi]

/-- A group of bits of the message is subtracted in the highest places at once. -/
theorem bitwise_eq_iterate {bits : List Bool} (hbits : bits.length ≤ w) (crc : BitVec w) :
    bitwise poly crc bits = (shift poly)^[bits.length] (crc ^^^ place bits) := by
  induction bits generalizing crc with
  | nil => exact (BitVec.xor_zero).symm
  | cons b bits ih =>
      rw [List.length_cons] at hbits
      have hup : shift poly ((place bits : BitVec w) >>> 1) = place bits :=
        shift_ushiftRight poly (by omega) (getLsbD_place (by omega))
      rw [bitwise, List.foldl_cons, ← bitwise, ih (by omega), List.length_cons,
        Function.iterate_succ_apply, place, ← BitVec.xor_assoc, shift_xor, hup,
        ← feed_eq poly (by omega)]

end RealtimeEx.Crc
