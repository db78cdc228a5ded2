import Mathlib.Algebra.Order.Ring.Int
import Mathlib.Data.List.TakeWhile
import RealtimeEx.Base.TokenParser
import RealtimeEx.Support.Search

/-!
# `string_util`: comparisons

Two texts are compared as beginnings, as ends and as wholes.  `equal` exists for
`std::string` and for C strings; the flag should mean the same in both.
-/

namespace RealtimeEx.Base.StringUtil

/-! ## The standard library -/

/-- `std::string::npos`. -/
def npos : ℕ := 2 ^ 64 - 1

/-- `std::string::find` and `rfind`. -/
def find (str substr : StdString) : ℕ := (search substr str).getD npos

def rfind (str substr : StdString) : ℕ := (searchLast substr str).getD npos

/-- `tolower`. -/
def tolower (c : UInt8) : UInt8 := if 65 ≤ c ∧ c ≤ 90 then c + 32 else c

/-- Whether a comparison of at most `n` characters of two C strings is zero.  The end of a
text is its terminating zero. -/
def comparesEqual (f : UInt8 → UInt8) : ℕ → StdString → StdString → Bool
  | 0, _, _ => true
  | n + 1, lhs, rhs =>
      let c := lhs.headD 0
      f c = f (rhs.headD 0) && (c = 0 || comparesEqual f n lhs.tail rhs.tail)

/-- `strncmp` and `_strnicmp`: whether they are zero. -/
def strncmp (lhs rhs : StdString) (n : ℕ) : Bool := comparesEqual id n lhs rhs

def strnicmp (lhs rhs : StdString) (n : ℕ) : Bool := comparesEqual tolower n lhs rhs

/-! ## `string_util` -/

/-- `start_with`. -/
def startWith (str substr : StdString) : Bool := find str substr = 0

/-- `end_with`.  The difference of the lengths is a `size_t`. -/
def endWith (str substr : StdString) : Bool :=
  rfind str substr = (str.length + 2 ^ 64 - substr.length) % 2 ^ 64

/-- `equal` of two `std::string`. -/
def equal (lhs rhs : StdString) (letter : Bool) : Bool :=
  if lhs.length ≠ rhs.length then
    false
  else if letter then
    lhs = rhs
  else
    strnicmp lhs rhs lhs.length

/-- `equal` of two `const char*`, `none` is `nullptr`. -/
def equalChars (lhs rhs : Option StdString) (letter : Bool) : Bool :=
  match lhs, rhs with
  | some lhs, some rhs =>
      let lhsSize := (cStr lhs).length
      let rhsSize := (cStr rhs).length
      if lhsSize ≠ rhsSize then
        false
      else if letter then
        strnicmp lhs rhs lhsSize
      else
        strncmp lhs rhs lhsSize
  | _, _ => false

/-- `ltrim`, `rtrim` and `trim`: the characters of `delim` are taken off. -/
def ltrim (str delim : StdString) : StdString := str.dropWhile (· ∈ delim)

def rtrim (str delim : StdString) : StdString := (str.reverse.dropWhile (· ∈ delim)).reverse

def trim (str delim : StdString) : StdString := rtrim (ltrim str delim) delim

/-! ## What is meant -/

/-- Two texts are the same, as the flag says: with the case of their letters, or without. -/
def SameText (letter : Bool) (s t : StdString) : Prop :=
  if letter then s = t else s.map tolower = t.map tolower

/-- The helpers say of two texts what they are for.  Texts without a zero are the same as C
strings. -/
structure ComparesExactly (s t : StdString) (letter : Bool) : Prop where
  start : startWith s t = true ↔ t <+: s
  ends : endWith s t = true ↔ t <:+ s
  same : equal s t letter = true ↔ SameText letter s t
  chars : 0 ∉ s → 0 ∉ t → equalChars (some s) (some t) letter = equal s t letter

/-! ## Beginnings and ends -/

theorem startWith_iff (s t : StdString) : startWith s t = true ↔ t <+: s := by
  rw [startWith, decide_eq_true_iff, find, ← search_eq_zero_iff]
  cases search t s with
  | none => exact iff_of_false (by decide) (by simp)
  | some i => simp

/-- A text that is longer by one is taken for an end. -/
theorem endWith_of_longer {s t : StdString} (ht : t.length < 2 ^ 64)
    (hlonger : s.length < t.length) : endWith s t = true ↔ t.length = s.length + 1 := by
  have hnone : searchLast t s = none := by
    cases hfound : searchLast t s with
    | none => rfl
    | some i =>
        have hle := (prefix_drop_of_searchLast hfound).2
        omega
  rw [endWith, decide_eq_true_iff, rfind, hnone, Option.getD_none, npos,
    Nat.mod_eq_of_lt (by omega)]
  omega

theorem endWith_of_le {s t : StdString} (hs : s.length < 2 ^ 64) (hle : t.length ≤ s.length) :
    endWith s t = true ↔ t <:+ s := by
  have hdiff : (s.length + 2 ^ 64 - t.length) % 2 ^ 64 = s.length - t.length := by
    rw [show s.length + 2 ^ 64 - t.length = s.length - t.length + 2 ^ 64 by omega,
      Nat.add_mod_right, Nat.mod_eq_of_lt (by omega)]
  rw [endWith, decide_eq_true_iff, rfind, hdiff, ← searchLast_eq_iff hle]
  cases hfound : searchLast t s with
  | some i => simp
  | none =>
      refine iff_of_false ?_ (by simp)
      rw [Option.getD_none, npos]
      intro heq
      -- only the empty text leaves the whole length, and it is found everywhere
      obtain rfl : t = [] := List.length_eq_zero_iff.mp (by omega)
      have hend := searchLast_append [] s
      rw [List.append_nil, hfound] at hend
      cases hend

/-- `end_with` is right unless the other text is longer by exactly one. -/
theorem endWith_iff {s t : StdString} (hs : s.length < 2 ^ 64) (ht : t.length < 2 ^ 64) :
    (endWith s t = true ↔ t <:+ s) ↔ t.length ≠ s.length + 1 := by
  by_cases hle : t.length ≤ s.length
  · exact iff_of_true (endWith_of_le hs hle) (by omega)
  · have hnot : ¬ t <:+ s := fun hsuffix => hle hsuffix.length_le
    rw [endWith_of_longer ht (by omega), iff_false_right hnot]

/-! ## Whole texts -/

theorem cStr_of_not_mem {s : StdString} (hs : 0 ∉ s) : cStr s = s := by
  rw [cStr, List.takeWhile_eq_self_iff]
  intro c hc
  exact decide_eq_true (fun hzero => hs (hzero ▸ hc))

theorem zero_not_mem_cStr (str : StdString) : 0 ∉ cStr str := by
  intro hzero
  have htrue := List.mem_takeWhile_imp hzero
  simp at htrue

theorem cStr_of_zero {s : StdString} (hs : s.headD 0 = 0) : cStr s = [] := by
  cases s with
  | nil => rfl
  | cons c s => exact List.takeWhile_cons_of_neg (by simpa using hs)

theorem cStr_of_ne {s : StdString} (hs : s.headD 0 ≠ 0) :
    cStr s = s.headD 0 :: cStr s.tail := by
  cases s with
  | nil => exact absurd rfl hs
  | cons c s => exact List.takeWhile_cons_of_pos (decide_eq_true hs)

theorem length_cStr_le (s : StdString) : (cStr s).length ≤ s.length :=
  (List.takeWhile_prefix _).length_le

/-- A comparison sees a text up to its first zero. -/
theorem comparesEqual_iff {f : UInt8 → UInt8} (hf : ∀ c, f c = f 0 ↔ c = 0) (n : ℕ)
    (lhs rhs : StdString) :
    comparesEqual f n lhs rhs = true ↔
      ((cStr lhs).take n).map f = ((cStr rhs).take n).map f := by
  induction n generalizing lhs rhs with
  | zero => exact iff_of_true rfl (by simp)
  | succ n ih =>
      rw [comparesEqual, Bool.and_eq_true, Bool.or_eq_true, decide_eq_true_iff, decide_eq_true_iff]
      by_cases hl : lhs.headD 0 = 0
      · rw [cStr_of_zero hl, hl]
        by_cases hr : rhs.headD 0 = 0
        · rw [cStr_of_zero hr, hr]
          simp
        · rw [cStr_of_ne hr]
          exact iff_of_false (fun h => hr ((hf _).mp h.1.symm)) (by simp)
      · rw [cStr_of_ne hl]
        by_cases hr : rhs.headD 0 = 0
        · rw [cStr_of_zero hr, hr, hf]
          exact iff_of_false (fun h => hl h.1) (by simp)
        · rw [cStr_of_ne hr, List.take_succ_cons, List.take_succ_cons, List.map_cons,
            List.map_cons, List.cons.injEq, ih, or_iff_right hl]

theorem tolower_eq_zero (c : UInt8) : tolower c = tolower 0 ↔ c = 0 := by
  have hzero : tolower 0 = 0 := by decide
  rw [hzero, tolower]
  split
  · rename_i hletter
    -- a letter is not zero, in lower case neither
    obtain ⟨hlow, hhigh⟩ := hletter
    rw [UInt8.le_iff_toNat_le] at hlow hhigh
    have hnat : (c + 32).toNat = c.toNat + 32 := by
      rw [UInt8.toNat_add]
      exact Nat.mod_eq_of_lt (Nat.lt_of_le_of_lt (Nat.add_le_add_right hhigh 32) (by decide))
    refine iff_of_false (fun h => ?_) (fun h => ?_)
    · rw [h] at hnat
      exact absurd hnat.symm (Nat.succ_ne_zero _)
    · rw [h] at hlow
      exact absurd hlow (by decide)
  · exact Iff.rfl

/-- A zero stays where it is in lower case. -/
theorem cStr_map_tolower (s : StdString) : cStr (s.map tolower) = (cStr s).map tolower := by
  rw [cStr, cStr, List.takeWhile_map]
  congr 2
  funext c
  exact decide_eq_decide.mpr (not_congr (tolower_eq_zero c))

/-- Without the case of the letters, `equal` sees two texts of one length up to a zero. -/
theorem equal_false_iff (s t : StdString) :
    equal s t false = true ↔
      s.length = t.length ∧ (cStr s).map tolower = (cStr t).map tolower := by
  unfold equal
  by_cases hlength : s.length = t.length
  · rw [if_neg (not_not.mpr hlength), if_neg Bool.false_ne_true, strnicmp,
      comparesEqual_iff tolower_eq_zero, List.take_of_length_le (length_cStr_le s),
      List.take_of_length_le (hlength ▸ length_cStr_le t)]
    exact (and_iff_right hlength).symm
  · rw [if_pos hlength]
    exact iff_of_false Bool.false_ne_true fun h => hlength h.1

theorem equal_true_iff (s t : StdString) : equal s t true = true ↔ s = t := by
  unfold equal
  by_cases hlength : s.length = t.length
  · rw [if_neg (not_not.mpr hlength), if_pos rfl, decide_eq_true_iff]
  · rw [if_pos hlength]
    exact iff_of_false Bool.false_ne_true fun h => hlength (congrArg _ h)

/-- `equal` of C strings has the flag the other way round. -/
theorem equalChars_iff {s t : StdString} (hs : 0 ∉ s) (ht : 0 ∉ t) (letter : Bool) :
    equalChars (some s) (some t) letter = true ↔ SameText (!letter) s t := by
  have hlower : s.map tolower = t.map tolower → s.length = t.length := by
    intro heq
    simpa using congrArg List.length heq
  unfold equalChars SameText
  dsimp only
  rw [cStr_of_not_mem hs, cStr_of_not_mem ht]
  by_cases hlength : s.length = t.length
  · rw [if_neg (not_not.mpr hlength)]
    cases letter with
    | true =>
        rw [if_pos rfl, strnicmp, comparesEqual_iff tolower_eq_zero, cStr_of_not_mem hs,
          cStr_of_not_mem ht, List.take_length, hlength, List.take_length]
        rfl
    | false =>
        rw [if_neg Bool.false_ne_true, strncmp, comparesEqual_iff (f := id) (fun _ => Iff.rfl),
          cStr_of_not_mem hs, cStr_of_not_mem ht, List.take_length, hlength, List.take_length,
          List.map_id, List.map_id]
        rfl
  · rw [if_pos hlength]
    refine iff_of_false Bool.false_ne_true fun h => hlength ?_
    cases letter with
    | true => exact hlower h
    | false => exact congrArg _ h

/-- Without the case of the letters the first zero hides what follows it. -/
theorem equal_iff (s t : StdString) (letter : Bool) :
    (equal s t letter = true ↔ SameText letter s t) ↔
      (letter = false → s.length = t.length →
        (cStr s).map tolower = (cStr t).map tolower → s.map tolower = t.map tolower) := by
  cases letter with
  | true => exact iff_of_true (equal_true_iff s t) (by simp)
  | false =>
      rw [equal_false_iff]
      change (_ ↔ s.map tolower = t.map tolower) ↔ _
      constructor
      · rintro hiff - hlength heq
        exact hiff.mp ⟨hlength, heq⟩
      · intro hzero
        refine ⟨fun h => hzero rfl h.1 h.2, fun heq => ⟨?_, ?_⟩⟩
        · simpa using congrArg List.length heq
        · rw [← cStr_map_tolower, heq, cStr_map_tolower]

/-- On texts without a zero the two overloads agree just where the case of the letters does
not matter. -/
theorem sameText_iff_of_chars {s t : StdString} (hs : 0 ∉ s) (ht : 0 ∉ t) (letter : Bool) :
    (SameText (!letter) s t ↔ equal s t letter = true) ↔
      (s.map tolower = t.map tolower → s = t) := by
  have hmap : s = t → s.map tolower = t.map tolower := congrArg _
  have hlength : s.map tolower = t.map tolower → s.length = t.length := by
    intro heq
    simpa using congrArg List.length heq
  cases letter with
  | true =>
      rw [equal_true_iff]
      change (s.map tolower = t.map tolower ↔ s = t) ↔ _
      exact ⟨Iff.mp, fun h => ⟨h, hmap⟩⟩
  | false =>
      rw [equal_false_iff, cStr_of_not_mem hs, cStr_of_not_mem ht]
      change (s = t ↔ _) ↔ _
      exact ⟨fun h heq => h.mpr ⟨hlength heq, heq⟩,
        fun h => ⟨fun heq => ⟨congrArg _ heq, hmap heq⟩, fun heq => h heq.2⟩⟩

/-! ## The result -/

/-- The helpers are exact for two texts just if the second is not longer by one, if they do
not differ behind a zero only, and if they do not differ in the case of their letters. -/
theorem comparesExactly_iff {s t : StdString} (hs : s.length < 2 ^ 64)
    (ht : t.length < 2 ^ 64) (letter : Bool) :
    ComparesExactly s t letter ↔
      t.length ≠ s.length + 1 ∧
        (letter = false → s.length = t.length →
          (cStr s).map tolower = (cStr t).map tolower → s.map tolower = t.map tolower) ∧
        (0 ∉ s → 0 ∉ t → s.map tolower = t.map tolower → s = t) := by
  have hchars : (0 ∉ s → 0 ∉ t → equalChars (some s) (some t) letter = equal s t letter) ↔
      (0 ∉ s → 0 ∉ t → s.map tolower = t.map tolower → s = t) := by
    refine forall₂_congr fun hs0 ht0 => ?_
    rw [Bool.eq_iff_iff, equalChars_iff hs0 ht0]
    exact sameText_iff_of_chars hs0 ht0 letter
  rw [← endWith_iff hs ht, ← hchars, ← equal_iff]
  constructor
  · rintro ⟨-, hends, hsame, hchars⟩
    exact ⟨hends, hsame, hchars⟩
  · rintro ⟨hends, hsame, hchars⟩
    exact ⟨startWith_iff s t, hends, hsame, hchars⟩

theorem comparesExactly_ends : ComparesExactly [65, 98] [98] true :=
  (comparesExactly_iff (by decide) (by decide) true).mpr (by decide)

/-- The C string overload ignores the case just when the flag asks for it. -/
theorem not_comparesExactly_letter : ¬ ComparesExactly [65] [97] true := by
  intro hexact
  have hchars := hexact.chars (by decide) (by decide)
  revert hchars
  decide

end RealtimeEx.Base.StringUtil
