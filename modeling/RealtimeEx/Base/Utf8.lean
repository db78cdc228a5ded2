import RealtimeEx.Base.BufFile
import RealtimeEx.Support.Wrapping

/-!
# `CUTF8`

A text is walked through by its lead bytes: each of them says how many bytes follow it, and
what these are is not looked at.
-/

namespace RealtimeEx.Base

/-- How many bytes follow a lead byte, as the text is walked through; `none` for a byte that
leads no character. -/
def trail (c : UInt8) : Option ℕ :=
  if c ≤ 127 then some 0
  else if c &&& 0xE0 = 0xC0 then some 1
  else if c &&& 0xF0 = 0xE0 then some 2
  else if c &&& 0xF8 = 0xF0 then some 3
  else if c &&& 0xFC = 0xF8 then some 4
  else if c &&& 0xFE = 0xFC then some 5
  else none

/-- `check_utf8`. -/
def checkUtf8 : StdString → Bool
  | [] => true
  | c :: utf8 =>
      match trail c with
      | some n => checkUtf8 (utf8.drop n)
      | none => false
termination_by utf8 => utf8.length

/-- `CUTF8`; the data are valid in the sense of `check_utf8`. -/
structure CUTF8 where
  szData : StdString := []

namespace CUTF8

/-- `init` from a `std::string`. -/
def init (s : CUTF8) (utf8 : StdString) : Bool × CUTF8 :=
  if checkUtf8 utf8 then (true, ⟨utf8⟩) else (false, s)

/-- The loop of `length`. -/
def lengthLoop : ℕ → StdString → ℕ
  | count, [] => count
  | count, c :: rest =>
      match trail c with
      | some n => lengthLoop (count + 1) (rest.drop n)
      | none => 0
termination_by _ rest => rest.length

/-- `length`. -/
def length (s : CUTF8) : ℕ := lengthLoop 0 s.szData

/-- What the loop of `substr` keeps; `none` is `npos`. -/
structure SubstrState where
  utf8Pos : ℕ := 0
  nativePos : ℕ := 0
  minPos : Option ℕ := none
  maxPos : Option ℕ := none

/-- `std::string::npos`. -/
def npos : UInt64 := 0xFFFFFFFFFFFFFFFF

/-- The test for the end of the part that is asked for.  The sum is a `size_t`. -/
def reaches (pos count : UInt64) (utf8Pos : ℕ) : Bool :=
  utf8Pos ≤ (pos + count).toNat || count = npos

/-- The loop of `substr` on the text from `native_pos` on. -/
def substrLoop (pos count : UInt64) : SubstrState → StdString → Option SubstrState
  | s, [] => some s
  | s, c :: rest =>
      match trail c with
      | some n => substrLoop pos count {
          utf8Pos := s.utf8Pos + 1
          nativePos := s.nativePos + n + 1
          minPos := if s.utf8Pos = pos.toNat then some s.nativePos else s.minPos
          maxPos := if reaches pos count s.utf8Pos then some s.nativePos else s.maxPos }
          (rest.drop n)
      | none => none
termination_by _ rest => rest.length

/-- `substr`.  The length of the part is a `size_t`. -/
def substr (s : CUTF8) (pos count : UInt64) : StdString :=
  if count = 0 then
    []
  else
    match substrLoop pos count {} s.szData with
    | none => []
    | some r =>
        let maxPos := if reaches pos count r.utf8Pos then some r.nativePos else r.maxPos
        match r.minPos, maxPos with
        | some minPos, some maxPos =>
            let n := if minPos ≤ maxPos then maxPos - minPos else maxPos + 2 ^ 64 - minPos
            (s.szData.drop minPos).take n
        | _, _ => []

end CUTF8

/-! ## What is meant -/

/-- The bytes of a sequence of code points. -/
def encodeUtf8 (cs : List Char) : StdString := cs.flatMap String.utf8EncodeChar

/-- `init` accepts what is well-formed; then the length is the number of the code points, and
at every position the text can be cut into two that are well-formed. -/
structure HoldsUtf8 (utf8 : StdString) : Prop where
  accepts : (CUTF8.init {} utf8).1 = true ↔ ∃ cs, encodeUtf8 cs = utf8
  length : (CUTF8.init {} utf8).1 = true → ∀ cs, encodeUtf8 cs = utf8 →
    (CUTF8.init {} utf8).2.length = cs.length
  cut : (CUTF8.init {} utf8).1 = true → ∀ p : UInt64,
    let front := (CUTF8.init {} utf8).2.substr 0 p
    let back := (CUTF8.init {} utf8).2.substr p CUTF8.npos
    (∃ cs, encodeUtf8 cs = front) ∧ (∃ cs, encodeUtf8 cs = back) ∧ front ++ back = utf8

/-- A text that is walked through to a byte that leads no character. -/
inductive Stuck : StdString → Prop
  | here {c : UInt8} {rest : StdString} (hnone : trail c = none) : Stuck (c :: rest)
  | behind {c : UInt8} {rest : StdString} {n : ℕ} (hsome : trail c = some n)
      (hrest : Stuck (rest.drop n)) : Stuck (c :: rest)

/-! ## Characters -/

/-- A lead byte with the bytes that follow it. -/
def IsCharacter (bytes : StdString) : Prop :=
  ∃ c rest, bytes = c :: rest ∧ trail c = some rest.length

theorem trail_one (x : UInt8) : x ≤ 127 → trail x = some 0 := by
  intro hx
  rw [trail, if_pos hx]

theorem trail_two (x : UInt8) : trail (x &&& 0x1f ||| 0xc0) = some 1 := by
  revert x
  refine forall_byte ?_
  decide +kernel

theorem trail_three (x : UInt8) : trail (x &&& 0x0f ||| 0xe0) = some 2 := by
  revert x
  refine forall_byte ?_
  decide +kernel

theorem trail_four (x : UInt8) : trail (x &&& 0x07 ||| 0xf0) = some 3 := by
  revert x
  refine forall_byte ?_
  decide +kernel

/-- The lead byte of a code point says how many bytes follow it. -/
theorem isCharacter_utf8EncodeChar (c : Char) : IsCharacter (String.utf8EncodeChar c) := by
  have hsize := c.utf8Size_pos
  have hle := c.utf8Size_le_four
  have hcases : c.utf8Size = 1 ∨ c.utf8Size = 2 ∨ c.utf8Size = 3 ∨ c.utf8Size = 4 := by omega
  obtain h | h | h | h := hcases
  · refine ⟨_, _, String.utf8EncodeChar_eq_singleton h, trail_one _ ?_⟩
    have hval := UInt32.le_iff_toNat_le.mp (Char.utf8Size_eq_one_iff.mp h)
    rw [UInt8.le_iff_toNat_le, UInt32.toNat_toUInt8]
    exact (Nat.mod_le _ _).trans hval
  · exact ⟨_, _, String.utf8EncodeChar_eq_cons_cons h, trail_two _⟩
  · exact ⟨_, _, String.utf8EncodeChar_eq_cons_cons_cons h, trail_three _⟩
  · exact ⟨_, _, String.utf8EncodeChar_eq_cons_cons_cons_cons h, trail_four _⟩

theorem IsCharacter.length_pos {bytes : StdString} (h : IsCharacter bytes) :
    0 < bytes.length := by
  obtain ⟨c, rest, rfl, -⟩ := h
  exact Nat.succ_pos _

/-! ## Walking through characters -/

theorem checkUtf8_flatten {ps : List StdString} (hps : ∀ p ∈ ps, IsCharacter p) :
    checkUtf8 ps.flatten = true := by
  induction ps with
  | nil => rw [List.flatten_nil, checkUtf8]
  | cons p ps ih =>
      obtain ⟨⟨c, rest, rfl, htrail⟩, hothers⟩ := List.forall_mem_cons.mp hps
      rw [List.flatten_cons, List.cons_append, checkUtf8, htrail]
      dsimp only
      rw [List.drop_left, ih hothers]

theorem checkUtf8_eq_false_iff (utf8 : StdString) : checkUtf8 utf8 = false ↔ Stuck utf8 := by
  fun_induction checkUtf8 utf8 with
  | case1 => exact iff_of_false (by decide) (fun h => nomatch h)
  | case2 c rest n htrail ih =>
      rw [ih]
      refine ⟨Stuck.behind htrail, fun h => ?_⟩
      cases h with
      | here hnone => exact absurd (htrail.symm.trans hnone) (by simp)
      | behind hsome hrest =>
          obtain rfl := Option.some.inj (htrail.symm.trans hsome)
          exact hrest
  | case3 c rest htrail => exact iff_of_true rfl (.here htrail)

namespace CUTF8

theorem lengthLoop_flatten {ps : List StdString} (hps : ∀ p ∈ ps, IsCharacter p) (count : ℕ) :
    lengthLoop count ps.flatten = count + ps.length := by
  induction ps generalizing count with
  | nil => rw [List.flatten_nil, lengthLoop, List.length_nil, Nat.add_zero]
  | cons p ps ih =>
      obtain ⟨⟨c, rest, rfl, htrail⟩, hothers⟩ := List.forall_mem_cons.mp hps
      rw [List.flatten_cons, List.cons_append, lengthLoop, htrail]
      dsimp only
      rw [List.drop_left, ih hothers, List.length_cons, Nat.add_assoc, Nat.add_comm 1]

variable {pos count : UInt64}

/-- One character further. -/
def SubstrState.advance (pos count : UInt64) (s : SubstrState) (p : StdString) :
    SubstrState where
  utf8Pos := s.utf8Pos + 1
  nativePos := s.nativePos + p.length
  minPos := if s.utf8Pos = pos.toNat then some s.nativePos else s.minPos
  maxPos := if reaches pos count s.utf8Pos then some s.nativePos else s.maxPos

theorem substrLoop_flatten {ps : List StdString} (hps : ∀ p ∈ ps, IsCharacter p)
    (s : SubstrState) :
    substrLoop pos count s ps.flatten = some (ps.foldl (SubstrState.advance pos count) s) := by
  induction ps generalizing s with
  | nil => rw [List.flatten_nil, substrLoop, List.foldl_nil]
  | cons p ps ih =>
      obtain ⟨⟨c, rest, rfl, htrail⟩, hothers⟩ := List.forall_mem_cons.mp hps
      rw [List.flatten_cons, List.cons_append, substrLoop, htrail]
      dsimp only
      rw [List.drop_left, ih hothers, List.foldl_cons]
      rfl

section Advance

variable (ps : List StdString) (s : SubstrState)

theorem utf8Pos_foldl :
    (ps.foldl (SubstrState.advance pos count) s).utf8Pos = s.utf8Pos + ps.length := by
  induction ps generalizing s with
  | nil => rfl
  | cons p ps ih =>
      rw [List.foldl_cons, ih, List.length_cons, Nat.add_comm ps.length, ← Nat.add_assoc]
      rfl

theorem nativePos_foldl :
    (ps.foldl (SubstrState.advance pos count) s).nativePos =
      s.nativePos + ps.flatten.length := by
  induction ps generalizing s with
  | nil => rfl
  | cons p ps ih =>
      rw [List.foldl_cons, ih, List.flatten_cons, List.length_append, ← Nat.add_assoc]
      rfl

/-- The part begins at the character that is asked for, if the walk comes to it. -/
theorem minPos_foldl :
    (ps.foldl (SubstrState.advance pos count) s).minPos =
      if s.utf8Pos ≤ pos.toNat ∧ pos.toNat < s.utf8Pos + ps.length then
        some (s.nativePos + (ps.take (pos.toNat - s.utf8Pos)).flatten.length)
      else s.minPos := by
  induction ps generalizing s with
  | nil =>
      rw [List.foldl_nil, List.length_nil, if_neg (by omega)]
  | cons p ps ih =>
      rw [List.foldl_cons, ih, List.length_cons]
      change (if s.utf8Pos + 1 ≤ pos.toNat ∧ pos.toNat < s.utf8Pos + 1 + ps.length then
          some (s.nativePos + p.length +
            (ps.take (pos.toNat - (s.utf8Pos + 1))).flatten.length)
        else if s.utf8Pos = pos.toNat then some s.nativePos else s.minPos) = _
      rcases Nat.lt_trichotomy s.utf8Pos pos.toNat with hless | heq | hmore
      · rw [if_neg (c := s.utf8Pos = pos.toNat) hless.ne]
        refine if_congr (by omega) (congrArg some ?_) rfl
        rw [show pos.toNat - s.utf8Pos = pos.toNat - (s.utf8Pos + 1) + 1 by omega,
          List.take_succ_cons, List.flatten_cons, List.length_append, Nat.add_assoc]
      · rw [if_neg (by omega), if_pos heq, if_pos (by omega), heq, Nat.sub_self,
          List.take_zero]
        rfl
      · rw [if_neg (by omega), if_neg hmore.ne', if_neg (by omega)]

/-- The part ends before a character that the walk goes beyond. -/
theorem maxPos_foldl (hcount : count ≠ npos)
    (hlt : (pos + count).toNat < s.utf8Pos + ps.length) :
    (ps.foldl (SubstrState.advance pos count) s).maxPos =
      if s.utf8Pos ≤ (pos + count).toNat then
        some (s.nativePos + (ps.take ((pos + count).toNat - s.utf8Pos)).flatten.length)
      else s.maxPos := by
  induction ps generalizing s with
  | nil =>
      rw [List.foldl_nil, if_neg (by rw [List.length_nil] at hlt; omega)]
  | cons p ps ih =>
      rw [List.length_cons] at hlt
      rw [List.foldl_cons, ih _ (by change _ < s.utf8Pos + 1 + ps.length; omega)]
      have hreaches : reaches pos count s.utf8Pos = true ↔
          s.utf8Pos ≤ (pos + count).toNat := by
        rw [reaches, Bool.or_eq_true, decide_eq_true_iff, decide_eq_true_iff]
        exact or_iff_left hcount
      change (if s.utf8Pos + 1 ≤ (pos + count).toNat then
          some (s.nativePos + p.length +
            (ps.take ((pos + count).toNat - (s.utf8Pos + 1))).flatten.length)
        else if reaches pos count s.utf8Pos then some s.nativePos else s.maxPos) = _
      rcases Nat.lt_trichotomy s.utf8Pos (pos + count).toNat with hless | heq | hmore
      · rw [if_pos (Nat.succ_le_of_lt hless), if_pos hless.le,
          show (pos + count).toNat - s.utf8Pos = (pos + count).toNat - (s.utf8Pos + 1) + 1 by
            omega, List.take_succ_cons, List.flatten_cons, List.length_append, Nat.add_assoc]
      · rw [if_neg (by omega), if_pos (hreaches.mpr heq.le), if_pos heq.le, heq, Nat.sub_self,
          List.take_zero]
        rfl
      · rw [if_neg (by omega), if_neg (fun h => by have hle := hreaches.mp h; omega),
          if_neg (by omega)]

end Advance

variable {ps : List StdString}

/-- Where the part ends: behind as many characters as `pos + count`, or at the end. -/
def endPos (pos count : UInt64) (ps : List StdString) : Option ℕ :=
  let r := ps.foldl (SubstrState.advance pos count) {}
  if reaches pos count r.utf8Pos then some r.nativePos else r.maxPos

theorem endPos_eq (hcount : count ≠ npos) :
    endPos pos count ps = some (ps.take (pos + count).toNat).flatten.length := by
  rw [endPos, utf8Pos_foldl, nativePos_foldl]
  split
  · rename_i hreaches
    rw [reaches, Bool.or_eq_true, decide_eq_true_iff, decide_eq_true_iff,
      or_iff_left hcount] at hreaches
    rw [List.take_of_length_le (by simpa using hreaches)]
    exact congrArg some (Nat.zero_add _)
  · rename_i hreaches
    rw [reaches, Bool.or_eq_true, decide_eq_true_iff, decide_eq_true_iff,
      or_iff_left hcount, Nat.not_le] at hreaches
    rw [maxPos_foldl ps {} hcount hreaches, if_pos (Nat.zero_le _)]
    exact congrArg some (Nat.zero_add _)

theorem endPos_npos : endPos pos npos ps = some ps.flatten.length := by
  have hreaches : ∀ n, reaches pos npos n = true := by
    intro n
    rw [reaches, decide_eq_true rfl, Bool.or_true]
  rw [endPos, hreaches, if_pos rfl, nativePos_foldl]
  exact congrArg some (Nat.zero_add _)

theorem minPos_eq :
    (ps.foldl (SubstrState.advance pos count) {}).minPos =
      if pos.toNat < ps.length then some (ps.take pos.toNat).flatten.length else none := by
  rw [minPos_foldl]
  dsimp only
  rw [Nat.sub_zero, Nat.zero_add, Nat.zero_add]
  exact if_congr (and_iff_right (Nat.zero_le _)) rfl rfl

theorem substr_of_ge (hps : ∀ p ∈ ps, IsCharacter p) (hpos : ps.length ≤ pos.toNat) :
    substr ⟨ps.flatten⟩ pos count = [] := by
  rw [substr, substrLoop_flatten hps]
  dsimp only
  rw [minPos_eq, if_neg (Nat.not_lt.mpr hpos)]
  exact ite_self _

theorem substr_of_lt (hps : ∀ p ∈ ps, IsCharacter p) (hcount : count ≠ 0)
    (hpos : pos.toNat < ps.length) {maxPos : ℕ} (hend : endPos pos count ps = some maxPos)
    (hle : (ps.take pos.toNat).flatten.length ≤ maxPos) :
    substr ⟨ps.flatten⟩ pos count =
      (ps.flatten.drop (ps.take pos.toNat).flatten.length).take
        (maxPos - (ps.take pos.toNat).flatten.length) := by
  rw [substr, if_neg hcount, substrLoop_flatten hps]
  dsimp only
  rw [minPos_eq, if_pos hpos, ← endPos, hend]
  dsimp only
  rw [if_pos hle]

theorem length_le_flatten (hps : ∀ p ∈ ps, IsCharacter p) : ps.length ≤ ps.flatten.length := by
  induction ps with
  | nil => exact Nat.le_refl 0
  | cons p ps ih =>
      obtain ⟨hp, hothers⟩ := List.forall_mem_cons.mp hps
      have hpos := hp.length_pos
      have hle := ih hothers
      rw [List.flatten_cons, List.length_append, List.length_cons]
      omega

theorem flatten_take_append_drop (ps : List StdString) (n : ℕ) :
    (ps.take n).flatten ++ (ps.drop n).flatten = ps.flatten := by
  rw [← List.flatten_append, List.take_append_drop]

/-- The characters in front of a position. -/
theorem substr_front (hps : ∀ p ∈ ps, IsCharacter p) (hsize : ps.flatten.length < 2 ^ 64)
    (p : UInt64) : substr ⟨ps.flatten⟩ 0 p = (ps.take p.toNat).flatten := by
  by_cases hp : p = 0
  · subst p
    rw [substr, if_pos rfl]
    rfl
  · have hend : endPos 0 p ps = some (ps.take p.toNat).flatten.length := by
      by_cases hnpos : p = npos
      · subst p
        have hle := length_le_flatten hps
        have hall : ps.length ≤ npos.toNat := by
          change ps.length ≤ 2 ^ 64 - 1
          omega
        rw [endPos_npos, List.take_of_length_le hall]
      · rw [endPos_eq hnpos, UInt64.zero_add]
    by_cases hnil : ps = []
    · subst ps
      rw [substr_of_ge hps (Nat.zero_le _), List.take_nil, List.flatten_nil]
    · have hpos : (0 : UInt64).toNat < ps.length := List.length_pos_of_ne_nil hnil
      rw [substr_of_lt hps hp hpos hend (Nat.zero_le _)]
      change ps.flatten.take (ps.take p.toNat).flatten.length = _
      conv_lhs => rw [← flatten_take_append_drop ps p.toNat]
      exact List.take_left

/-- The characters from a position on. -/
theorem substr_back (hps : ∀ p ∈ ps, IsCharacter p) (p : UInt64) :
    substr ⟨ps.flatten⟩ p npos = (ps.drop p.toNat).flatten := by
  have hsplit := flatten_take_append_drop ps p.toNat
  have hlength := congrArg List.length hsplit
  rw [List.length_append] at hlength
  rcases Nat.lt_or_ge p.toNat ps.length with hlt | hge
  · have hdrop : ps.flatten.drop (ps.take p.toNat).flatten.length =
        (ps.drop p.toNat).flatten := by
      rw [← hsplit, List.drop_left]
    rw [substr_of_lt hps (by decide) hlt endPos_npos (by omega), hdrop]
    exact List.take_of_length_le (by omega)
  · rw [substr_of_ge hps hge, List.drop_of_length_le hge, List.flatten_nil]

end CUTF8

/-! ## The result -/

theorem isCharacter_of_mem_map (cs : List Char) :
    ∀ p ∈ cs.map String.utf8EncodeChar, IsCharacter p := by
  intro p hp
  obtain ⟨c, -, rfl⟩ := List.mem_map.mp hp
  exact isCharacter_utf8EncodeChar c

theorem init_encodeUtf8 (cs : List Char) :
    CUTF8.init {} (encodeUtf8 cs) = (true, ⟨encodeUtf8 cs⟩) := by
  have hcheck := checkUtf8_flatten (isCharacter_of_mem_map cs)
  exact if_pos hcheck

/-- A text that is well-formed has as many characters as code points, and is cut between
them. -/
theorem holdsUtf8_encodeUtf8 {cs : List Char} (hsize : (encodeUtf8 cs).length < 2 ^ 64) :
    HoldsUtf8 (encodeUtf8 cs) := by
  have hps := isCharacter_of_mem_map cs
  have hinit := init_encodeUtf8 cs
  have hflatten : (cs.map String.utf8EncodeChar).flatten = encodeUtf8 cs := rfl
  constructor
  · exact iff_of_true (congrArg Prod.fst hinit) ⟨cs, rfl⟩
  · intro _ cs' hcs'
    have hlength : ∀ cs : List Char, CUTF8.length ⟨encodeUtf8 cs⟩ = cs.length := by
      intro cs
      have hloop := CUTF8.lengthLoop_flatten (isCharacter_of_mem_map cs) 0
      rw [List.length_map, Nat.zero_add] at hloop
      exact hloop
    rw [hinit, ← hcs']
    exact hlength cs'
  · intro _ p
    have hfront := CUTF8.substr_front hps hsize p
    have hback := CUTF8.substr_back hps p
    rw [hinit]
    dsimp only
    rw [← hflatten, hfront, hback]
    refine ⟨⟨cs.take p.toNat, ?_⟩, ⟨cs.drop p.toNat, ?_⟩, ?_⟩
    · rw [← List.map_take]
      rfl
    · rw [← List.map_drop]
      rfl
    · exact CUTF8.flatten_take_append_drop _ _

/-- `CUTF8` is right about a text just if the text is well-formed, or if one of its lead bytes
is none. -/
theorem holdsUtf8_iff {utf8 : StdString} (hsize : utf8.length < 2 ^ 64) :
    HoldsUtf8 utf8 ↔ (∃ cs, encodeUtf8 cs = utf8) ∨ Stuck utf8 := by
  constructor
  · intro hholds
    cases hcheck : checkUtf8 utf8 with
    | true =>
        have hinit : (CUTF8.init {} utf8).1 = true := by rw [CUTF8.init, if_pos hcheck]
        exact .inl (hholds.accepts.mp hinit)
    | false => exact .inr ((checkUtf8_eq_false_iff utf8).mp hcheck)
  · rintro (⟨cs, rfl⟩ | hstuck)
    · exact holdsUtf8_encodeUtf8 hsize
    · have hcheck := (checkUtf8_eq_false_iff utf8).mpr hstuck
      have hinit : ¬ (CUTF8.init {} utf8).1 = true := by
        rw [CUTF8.init, hcheck]
        exact Bool.false_ne_true
      refine ⟨iff_of_false hinit ?_, fun h => absurd h hinit, fun h => absurd h hinit⟩
      rintro ⟨cs, rfl⟩
      exact hinit (congrArg Prod.fst (init_encodeUtf8 cs))

theorem holdsUtf8_a_umlaut : HoldsUtf8 [97, 0xC3, 0xA4] :=
  (holdsUtf8_iff (by decide)).mpr (.inl ⟨['a', Char.ofNat 0xE4], by decide⟩)

/-- A lead byte at the end, without the byte that should follow it. -/
theorem not_holdsUtf8_truncated : ¬ HoldsUtf8 [0xC3] := by
  intro hholds
  have hcheck : checkUtf8 [0xC3] = true := by
    have htrail : trail 0xC3 = some 1 := by decide
    rw [checkUtf8, htrail]
    dsimp only
    rw [List.drop_nil, checkUtf8]
  have hinit : (CUTF8.init {} [0xC3]).1 = true := by rw [CUTF8.init, if_pos hcheck]
  obtain ⟨cs, hcs⟩ := hholds.accepts.mp hinit
  cases cs with
  | nil => cases hcs
  | cons c cs =>
      obtain ⟨lead, rest, hlead, htrail⟩ := isCharacter_utf8EncodeChar c
      rw [encodeUtf8, List.flatMap_cons, hlead, List.cons_append, List.cons.injEq,
        List.append_eq_nil_iff] at hcs
      obtain ⟨rfl, rfl, -⟩ := hcs
      exact absurd htrail (by decide)

end RealtimeEx.Base
