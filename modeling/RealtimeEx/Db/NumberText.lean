import Mathlib.Algebra.Order.Ring.Int
import RealtimeEx.Db.Protobuf

/-!
# Numbers are read as they are written

The text of a number consists of its digits, and reading it gives the number back.
-/

namespace RealtimeEx.Db

/-! ## The digits of a number -/

/-- The value of a text of digits, as `readNumber` computes it. -/
def digitsValue (digits : Bytes) : ℕ :=
  digits.foldl (fun n c => 10 * n + (c.toNat - 48)) 0

theorem toNat_digit {d : ℕ} (hd : d < 10) : (d.digitChar.toNat.toUInt8).toNat = 48 + d := by
  rw [Nat.toNat_digitChar_of_lt_ten hd]
  simp only [Nat.toUInt8_eq, UInt8.toNat_ofNat']
  omega

theorem isDigit_digit {d : ℕ} (hd : d < 10) : isDigit d.digitChar.toNat.toUInt8 = true := by
  unfold isDigit
  simp only [UInt8.le_iff_toNat_le, toNat_digit hd, Bool.and_eq_true, decide_eq_true_eq]
  constructor
  · exact Nat.le_add_right 48 d
  · show 48 + d ≤ 57
    omega

theorem natText_of_lt {n : ℕ} (hn : n < 10) : natText n = [n.digitChar.toNat.toUInt8] := by
  unfold natText
  rw [Nat.toDigits_of_lt_base hn, List.map_singleton]

theorem natText_of_le {n : ℕ} (hn : 10 ≤ n) :
    natText n = natText (n / 10) ++ [(n % 10).digitChar.toNat.toUInt8] := by
  unfold natText
  rw [Nat.toDigits_of_base_le (by decide) hn, List.map_append, List.map_singleton]

theorem natText_ne_nil (n : ℕ) : natText n ≠ [] := by
  unfold natText
  intro h
  exact Nat.toDigits_ne_nil (List.map_eq_nil_iff.mp h)

theorem isDigit_of_mem_natText {n : ℕ} : ∀ c ∈ natText n, isDigit c = true := by
  induction n using Nat.strong_induction_on with
  | _ n ih =>
      intro c hc
      by_cases hn : n < 10
      · rw [natText_of_lt hn] at hc
        rw [List.mem_singleton.mp hc]
        exact isDigit_digit hn
      · rw [natText_of_le (Nat.le_of_not_lt hn)] at hc
        rcases List.mem_append.mp hc with hc | hc
        · exact ih (n / 10) (by omega) c hc
        · rw [List.mem_singleton.mp hc]
          exact isDigit_digit (Nat.mod_lt n (by decide))

theorem digitsValue_natText (n : ℕ) : digitsValue (natText n) = n := by
  induction n using Nat.strong_induction_on with
  | _ n ih =>
      by_cases hn : n < 10
      · rw [natText_of_lt hn]
        unfold digitsValue
        rw [List.foldl_cons, List.foldl_nil, toNat_digit hn]
        omega
      · have hprev := ih (n / 10) (by omega)
        rw [natText_of_le (Nat.le_of_not_lt hn)]
        unfold digitsValue at hprev ⊢
        rw [List.foldl_append, hprev, List.foldl_cons, List.foldl_nil,
          toNat_digit (Nat.mod_lt n (by decide))]
        omega

/-! ## Reading -/

/-- Text behind which the digits of a number end. -/
def EndsNumber (rest : Bytes) : Prop :=
  ∀ c ∈ rest.head?, isDigit c = false

theorem takeWhile_isDigit_natText {rest : Bytes} (hrest : EndsNumber rest) (n : ℕ) :
    (natText n ++ rest).takeWhile isDigit = natText n := by
  rw [List.takeWhile_append_of_pos isDigit_of_mem_natText]
  cases rest with
  | nil => simp
  | cons c rest => simp [hrest c rfl]

theorem dropWhile_isDigit_natText {rest : Bytes} (hrest : EndsNumber rest) (n : ℕ) :
    (natText n ++ rest).dropWhile isDigit = rest := by
  rw [List.dropWhile_append_of_pos isDigit_of_mem_natText]
  cases rest with
  | nil => rfl
  | cons c rest => simp [hrest c rfl]

/-- A digit is neither a blank nor a sign. -/
theorem not_isSpace_of_isDigit {c : UInt8} (hc : isDigit c = true) :
    isSpace c = false ∧ c ≠ 45 ∧ c ≠ 43 := by
  unfold isDigit at hc
  unfold isSpace
  simp only [Bool.and_eq_true, decide_eq_true_eq, UInt8.le_iff_toNat_le, Bool.or_eq_false_iff,
    Bool.and_eq_false_iff, decide_eq_false_iff_not, ne_eq, ← UInt8.toNat_inj] at hc ⊢
  change 48 ≤ c.toNat ∧ c.toNat ≤ 57 at hc
  change (¬c.toNat = 32 ∧ (¬9 ≤ c.toNat ∨ ¬c.toNat ≤ 13)) ∧ ¬c.toNat = 45 ∧ ¬c.toNat = 43
  omega

theorem readNumber_natText {rest : Bytes} (hrest : EndsNumber rest) (n : ℕ) :
    readNumber (natText n ++ rest) = some (false, n) := by
  obtain ⟨c, cs, htext⟩ := List.exists_cons_of_ne_nil (natText_ne_nil n)
  have hc := not_isSpace_of_isDigit
    (isDigit_of_mem_natText (n := n) c (by rw [htext]; exact List.mem_cons_self))
  have hspace : (natText n ++ rest).dropWhile isSpace = natText n ++ rest := by
    rw [htext, List.cons_append, List.dropWhile_cons_of_neg (by simp [hc.1])]
  have hhead : (natText n ++ rest).head? = some c := by
    rw [htext, List.cons_append, List.head?_cons]
  have hvalue := digitsValue_natText n
  unfold digitsValue at hvalue
  unfold readNumber
  simp only [hspace, hhead, Option.some.injEq, hc.2.1, hc.2.2, or_self, if_false, decide_false,
    takeWhile_isDigit_natText hrest, natText_ne_nil, hvalue]

theorem endsNumber_nil : EndsNumber [] := by
  intro c hc
  cases hc

/-- A number that has the width it is read with is read as it was written. -/
theorem textNat_natText {bits n : ℕ} (hn : n < 2 ^ bits) : textNat bits (natText n) = some n := by
  have hread := readNumber_natText endsNumber_nil n
  rw [List.append_nil] at hread
  unfold textNat
  rw [hread]
  simp [hn]

theorem readNumber_neg (n : ℕ) : readNumber (45 :: natText n) = some (true, n) := by
  have hspace : (45 :: natText n).dropWhile isSpace = 45 :: natText n :=
    List.dropWhile_cons_of_neg (by decide)
  have hdigits := takeWhile_isDigit_natText endsNumber_nil n
  have hvalue := digitsValue_natText n
  rw [List.append_nil] at hdigits
  unfold digitsValue at hvalue
  unfold readNumber
  simp only [hspace, List.head?_cons, true_or, if_true, List.tail_cons, hdigits,
    natText_ne_nil, if_false, decide_true, hvalue]

/-- A signed number is written with its sign and read with it. -/
theorem textInt_intText {bits : ℕ} {n : ℤ} (hlow : -2 ^ (bits - 1) ≤ n)
    (hhigh : n < 2 ^ (bits - 1)) : textInt bits (intText n) = some n := by
  have hcast : ((2 ^ (bits - 1) : ℕ) : ℤ) = 2 ^ (bits - 1) := Int.natCast_pow 2 (bits - 1)
  rw [← hcast] at hlow hhigh
  unfold intText
  by_cases hneg : n < 0
  · rw [if_pos hneg]
    have hread : readNumber (45 :: natText n.natAbs) = some (true, n.natAbs) :=
      readNumber_neg n.natAbs
    have hwidth : n.natAbs ≤ 2 ^ (bits - 1) := by omega
    have hback : -(n.natAbs : ℤ) = n := by omega
    unfold textInt
    rw [hread]
    dsimp only [Option.bind_eq_bind, Option.bind_some]
    rw [if_pos rfl, if_pos hwidth, hback]
  · rw [if_neg hneg]
    have hread := readNumber_natText endsNumber_nil n.natAbs
    rw [List.append_nil] at hread
    have hwidth : n.natAbs < 2 ^ (bits - 1) := by omega
    have hback : (n.natAbs : ℤ) = n := by omega
    unfold textInt
    rw [hread]
    dsimp only [Option.bind_eq_bind, Option.bind_some]
    rw [if_neg Bool.false_ne_true, if_pos hwidth, hback]

end RealtimeEx.Db
