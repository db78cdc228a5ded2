import RealtimeEx.Base.BufFile
import RealtimeEx.Support.Transducer
import RealtimeEx.Support.Wrapping

/-!
# `base64`

Three bytes are written as four characters of six bits.  Both directions gather a group,
regroup its bits, and treat what is left at the end on their own.
-/

namespace RealtimeEx.Base.Base64

/-! ## The characters -/

/-- `base64_chars`. -/
def base64Chars : StdString :=
  ['A', 'B', 'C', 'D', 'E', 'F', 'G', 'H', 'I', 'J', 'K', 'L', 'M', 'N', 'O', 'P', 'Q', 'R', 'S',
    'T', 'U', 'V', 'W', 'X', 'Y', 'Z', 'a', 'b', 'c', 'd', 'e', 'f', 'g', 'h', 'i', 'j', 'k',
    'l', 'm', 'n', 'o', 'p', 'q', 'r', 's', 't', 'u', 'v', 'w', 'x', 'y', 'z', '0', '1', '2',
    '3', '4', '5', '6', '7', '8', '9', '+', '/'].map fun c => UInt8.ofNat c.toNat

/-- The character `=`. -/
def padding : UInt8 := 61

/-- `is_base64`. -/
def isBase64 (c : UInt8) : Bool :=
  (48 ≤ c && c ≤ 57) || (65 ≤ c && c ≤ 90) || (97 ≤ c && c ≤ 122) || c = 43 || c = 47

/-- `base64_chars[i]`. -/
def charAt (i : UInt8) : UInt8 := base64Chars.getD i.toNat 0

/-- `(unsigned char)base64_chars.find(c)`.  Of `npos` the low byte is left. -/
def indexOf (c : UInt8) : UInt8 :=
  match base64Chars.idxOf? c with
  | some i => UInt8.ofNat i
  | none => 0xFF

/-! ## The groups -/

/-- `char_array_4` from `char_array_3`. -/
def charArray4 (charArray3 : List UInt8) : List UInt8 :=
  let c0 := charArray3.getD 0 0
  let c1 := charArray3.getD 1 0
  let c2 := charArray3.getD 2 0
  [(c0 &&& 0xfc) >>> 2, ((c0 &&& 0x03) <<< 4) + ((c1 &&& 0xf0) >>> 4),
    ((c1 &&& 0x0f) <<< 2) + ((c2 &&& 0xc0) >>> 6), c2 &&& 0x3f]

/-- `char_array_3` from `char_array_4`. -/
def charArray3 (charArray4 : List UInt8) : List UInt8 :=
  let c0 := charArray4.getD 0 0
  let c1 := charArray4.getD 1 0
  let c2 := charArray4.getD 2 0
  let c3 := charArray4.getD 3 0
  [(c0 <<< 2) + ((c1 &&& 0x30) >>> 4), ((c1 &&& 0xf) <<< 4) + ((c2 &&& 0x3c) >>> 2),
    ((c2 &&& 0x3) <<< 6) + c3]

/-! ## The functions -/

/-- The end of both functions: `ret` is copied if there is room for it. -/
def copyOut (ret szBuf : StdString) : Int32 × StdString :=
  if ret.length > szBuf.length ∨ ret = [] then
    (-1, szBuf)
  else
    (Int32.ofNat ret.length, ret ++ szBuf.drop ret.length)

/-- The text that `encode` makes. -/
def encodeText (szData : StdString) : StdString :=
  let s := szData.foldl (gather 3 fun group => (charArray4 group).map charAt) ⟨[], []⟩
  let i := s.pending.length
  if i ≠ 0 then
    let filled := s.pending ++ List.replicate (3 - i) 0
    s.written ++ ((charArray4 filled).take (i + 1)).map charAt ++
      List.replicate (3 - i) padding
  else
    s.written

/-- `encode` of the `nLen` bytes `szData`, with the buffer before and after.  `none` is
`nullptr`. -/
def encode (szData szBuf : Option StdString) : Int32 × Option StdString :=
  match szData, szBuf with
  | some szData, some szBuf => ((copyOut (encodeText szData) szBuf).1,
      some (copyOut (encodeText szData) szBuf).2)
  | _, szBuf => (-1, szBuf)

/-- The characters that the loop of `decode` reads. -/
def decodable (szData : StdString) : StdString :=
  szData.takeWhile fun c => c ≠ padding && isBase64 c

/-- The bytes that `decode` makes. -/
def decodeText (szData : StdString) : StdString :=
  let s := (decodable szData).foldl (gather 4 fun group => charArray3 (group.map indexOf))
    ⟨[], []⟩
  let i := s.pending.length
  if i ≠ 0 then
    let filled := s.pending ++ List.replicate (4 - i) 0
    s.written ++ (charArray3 (filled.map indexOf)).take (i - 1)
  else
    s.written

/-- `decode`.  Its `pos` is an `int32_t`; `none` as soon as it is counted beyond. -/
def decode (szData szBuf : Option StdString) : Option (Int32 × Option StdString) :=
  match szData, szBuf with
  | some szData, some szBuf =>
      if 2 ^ 31 ≤ (decodable szData).length then
        none
      else
        some ((copyOut (decodeText szData) szBuf).1,
          some (copyOut (decodeText szData) szBuf).2)
  | _, szBuf => some (-1, szBuf)

/-! ## Bits -/

theorem toNat_split (x : UInt8) :
    ((x &&& 0xfc) >>> 2).toNat = x.toNat / 4 ∧ ((x &&& 0x03) <<< 4).toNat = x.toNat % 4 * 16 ∧
      ((x &&& 0xf0) >>> 4).toNat = x.toNat / 16 ∧
      ((x &&& 0x0f) <<< 2).toNat = x.toNat % 16 * 4 ∧
      ((x &&& 0xc0) >>> 6).toNat = x.toNat / 64 ∧ (x &&& 0x3f).toNat = x.toNat % 64 := by
  revert x
  refine forall_byte ?_
  decide +kernel

theorem toNat_join (x : UInt8) :
    (x <<< 2).toNat = x.toNat * 4 % 256 ∧ ((x &&& 0x30) >>> 4).toNat = x.toNat / 16 % 4 ∧
      ((x &&& 0xf) <<< 4).toNat = x.toNat % 16 * 16 ∧
      ((x &&& 0x3c) >>> 2).toNat = x.toNat / 4 % 16 ∧
      ((x &&& 0x3) <<< 6).toNat = x.toNat % 4 * 64 := by
  revert x
  refine forall_byte ?_
  decide +kernel

theorem indexOf_charAt (i : UInt8) : i.toNat < 64 → indexOf (charAt i) = i := by
  revert i
  refine forall_byte ?_
  decide +kernel

theorem decodable_charAt (i : UInt8) :
    i.toNat < 64 → (charAt i ≠ padding && isBase64 (charAt i)) = true := by
  revert i
  refine forall_byte ?_
  decide +kernel

/-! ## Groups -/

theorem toNat_charArray4 (group : List UInt8) : ∀ i ∈ charArray4 group, i.toNat < 64 := by
  have h0 := toNat_split (group.getD 0 0)
  have h1 := toNat_split (group.getD 1 0)
  have h2 := toNat_split (group.getD 2 0)
  have hc0 := (group.getD 0 0).toNat_lt
  have hc1 := (group.getD 1 0).toNat_lt
  have hc2 := (group.getD 2 0).toNat_lt
  intro i hi
  simp only [charArray4, List.mem_cons, List.not_mem_nil, or_false] at hi
  obtain rfl | rfl | rfl | rfl := hi
  · omega
  · rw [UInt8.toNat_add]
    omega
  · rw [UInt8.toNat_add]
    omega
  · omega

/-- The first byte is in the first two characters, the second in the next two, and the third
in the last two. -/
theorem regroup (c0 c1 c2 : UInt8) {s0 s1 s2 s3 : UInt8}
    (hs : charArray4 [c0, c1, c2] = [s0, s1, s2, s3]) :
    (s0 <<< 2) + ((s1 &&& 0x30) >>> 4) = c0 ∧
      ((s1 &&& 0xf) <<< 4) + ((s2 &&& 0x3c) >>> 2) = c1 ∧ ((s2 &&& 0x3) <<< 6) + s3 = c2 := by
  have h0 := toNat_split c0
  have h1 := toNat_split c1
  have h2 := toNat_split c2
  have hc0 := c0.toNat_lt
  have hc1 := c1.toNat_lt
  have hc2 := c2.toNat_lt
  simp only [charArray4, List.getD_cons_zero, List.getD_cons_succ, List.cons.injEq,
    and_true, ← UInt8.toNat_inj, UInt8.toNat_add, toNat_split] at hs
  obtain ⟨hs0, hs1, hs2, hs3⟩ := hs
  simp only [← UInt8.toNat_inj, UInt8.toNat_add, toNat_join, ← hs0, ← hs1, ← hs2, ← hs3]
  omega

theorem charArray3_charArray4 (group : List UInt8) (hgroup : group.length = 3) :
    charArray3 (charArray4 group) = group := by
  obtain ⟨c0, c1, c2, rfl⟩ := List.length_eq_three.mp hgroup
  obtain ⟨h0, h1, h2⟩ := regroup c0 c1 c2 rfl
  exact congrArg₂ List.cons h0 (congrArg₂ List.cons h1 (congrArg (fun c => [c]) h2))

/-! ## Texts -/

/-- The six bits of the characters that `encode` writes for full groups and a tail. -/
def digits (groups : List StdString) (tail : StdString) : StdString :=
  groups.flatMap charArray4 ++
    if tail = [] then []
    else (charArray4 (tail ++ List.replicate (3 - tail.length) 0)).take (tail.length + 1)

theorem toNat_digits (groups : List StdString) (tail : StdString) :
    ∀ i ∈ digits groups tail, i.toNat < 64 := by
  intro i hi
  obtain hi | hi := List.mem_append.mp hi
  · obtain ⟨group, -, hi⟩ := List.mem_flatMap.mp hi
    exact toNat_charArray4 group i hi
  · split at hi
    · exact absurd hi List.not_mem_nil
    · exact toNat_charArray4 _ i (List.mem_of_mem_take hi)

theorem encodeText_eq {groups : List StdString} {tail : StdString}
    (hgroups : ∀ group ∈ groups, group.length = 3) (htail : tail.length < 3) :
    encodeText (groups.flatten ++ tail) =
      (digits groups tail).map charAt ++
        List.replicate (if tail = [] then 0 else 3 - tail.length) padding := by
  have hfold := foldl_gather_groups (fun group => (charArray4 group).map charAt) []
    (by decide) hgroups htail
  unfold encodeText
  rw [hfold, List.nil_append, digits, List.map_append, List.map_flatMap]
  by_cases hnil : tail = []
  · subst tail
    simp
  · have hlength : tail.length ≠ 0 := fun h => hnil (List.length_eq_zero_iff.mp h)
    dsimp only
    rw [if_pos hlength, if_neg hnil, if_neg hnil]

theorem length_charArray4 (group : List UInt8) : (charArray4 group).length = 4 := rfl

/-- The characters for `nLen` bytes. -/
def encodedSize (nLen : ℕ) : ℕ := 4 * ((nLen + 2) / 3)

theorem length_encodeText (data : StdString) :
    (encodeText data).length = encodedSize data.length := by
  obtain ⟨groups, tail, rfl, hgroups, htail⟩ := exists_groups (n := 3) (by decide) data
  have hflatten : groups.flatten.length = 3 * groups.length := by
    rw [List.length_flatten, List.map_eq_replicate_iff.mpr hgroups, List.sum_replicate_nat]
    exact Nat.mul_comm _ _
  have hflatMap : (groups.flatMap charArray4).length = 4 * groups.length := by
    rw [List.length_flatMap, List.map_congr_left fun g _ => length_charArray4 g,
      List.map_const', List.sum_replicate_nat]
    exact Nat.mul_comm _ _
  rw [encodeText_eq hgroups htail, List.length_append, List.length_map, digits,
    List.length_append, hflatMap, List.length_replicate, List.length_append, hflatten, encodedSize]
  split
  · subst tail
    simp only [List.length_nil]
    omega
  · rename_i hnil
    have hlength : tail.length ≠ 0 := fun h => hnil (List.length_eq_zero_iff.mp h)
    rw [List.length_take, length_charArray4]
    omega

/-- `decode` reads the characters before the padding. -/
theorem decodable_eq {digits : StdString} (hdigits : ∀ i ∈ digits, i.toNat < 64) (n : ℕ) :
    decodable (digits.map charAt ++ List.replicate n padding) = digits.map charAt := by
  have hall : ∀ c ∈ digits.map charAt, (c ≠ padding && isBase64 c) = true := by
    intro c hc
    obtain ⟨i, hi, rfl⟩ := List.mem_map.mp hc
    exact decodable_charAt i (hdigits i hi)
  rw [decodable, List.takeWhile_append_of_pos hall]
  cases n with
  | zero => simp
  | succ n =>
      rw [List.replicate_succ, List.takeWhile_cons_of_neg (by decide), List.append_nil]

theorem map_indexOf_map_charAt {digits : StdString} (hdigits : ∀ i ∈ digits, i.toNat < 64) :
    (digits.map charAt).map indexOf = digits := by
  rw [List.map_map]
  conv_rhs => rw [← List.map_id digits]
  exact List.map_congr_left fun i hi => indexOf_charAt i (hdigits i hi)

theorem decodeText_eq {groups : List StdString} {tail : StdString}
    (hgroups : ∀ group ∈ groups, group.length = 4) (htail : tail.length < 4)
    (hdigits : ∀ i ∈ groups.flatten ++ tail, i.toNat < 64) (n : ℕ) :
    decodeText ((groups.flatten ++ tail).map charAt ++ List.replicate n padding) =
      groups.flatMap charArray3 ++
        if tail = [] then []
        else (charArray3 (tail ++ List.replicate (4 - tail.length) 0xFF)).take
          (tail.length - 1) := by
  have hflatten : ∀ group ∈ groups, ∀ i ∈ group, i.toNat < 64 := by
    intro group hgroup i hi
    exact hdigits i (List.mem_append_left _ (List.mem_flatten_of_mem hgroup hi))
  have hend : ∀ i ∈ tail, i.toNat < 64 := fun i hi => hdigits i (List.mem_append_right _ hi)
  have hlengths : ∀ group ∈ groups.map (List.map charAt), group.length = 4 := by
    simpa using hgroups
  have hshort : (tail.map charAt).length < 4 := by simpa using htail
  have hfold := foldl_gather_groups (fun group => charArray3 (group.map indexOf)) []
    (by decide) hlengths hshort
  unfold decodeText
  rw [decodable_eq hdigits, List.map_append, List.map_flatten, hfold, List.nil_append,
    List.flatMap_map, List.flatMap_congr fun g hg =>
      congrArg charArray3 (map_indexOf_map_charAt (hflatten g hg))]
  by_cases hnil : tail = []
  · subst tail
    simp
  · have hlength : (tail.map charAt).length ≠ 0 := by
      rw [List.length_map]
      exact fun h => hnil (List.length_eq_zero_iff.mp h)
    dsimp only
    rw [if_pos hlength, if_neg hnil, List.length_map, List.map_append,
      map_indexOf_map_charAt hend, List.map_replicate]
    rfl

/-- `decode` undoes `encode`. -/
theorem decodeText_encodeText (data : StdString) : decodeText (encodeText data) = data := by
  obtain ⟨groups, tail, rfl, hgroups, htail⟩ := exists_groups (n := 3) (by decide) data
  have hback : (groups.map charArray4).flatMap charArray3 = groups.flatten := by
    rw [List.flatMap_map, List.flatMap_congr fun g hg => charArray3_charArray4 g (hgroups g hg),
      List.flatMap_id']
  have hfours : ∀ group ∈ groups.map charArray4, group.length = 4 := by
    intro group hgroup
    obtain ⟨g, -, rfl⟩ := List.mem_map.mp hgroup
    rfl
  have hdigits := toNat_digits groups tail
  rw [encodeText_eq hgroups htail]
  rw [digits, List.flatMap_def] at hdigits ⊢
  match tail, htail with
  | [], _ =>
      rw [if_pos rfl] at hdigits ⊢
      rw [decodeText_eq hfours (by decide) hdigits, hback]
      rfl
  | [c0], _ =>
      have hshort : ((charArray4 ([c0] ++ List.replicate (3 - [c0].length) 0)).take
          ([c0].length + 1)).length < 4 := Nat.lt_of_le_of_lt (List.length_take_le _ _) (by simp)
      rw [if_neg (List.cons_ne_nil _ _)] at hdigits ⊢
      rw [decodeText_eq hfours hshort hdigits, hback]
      exact congrArg (fun c => groups.flatten ++ [c]) (regroup c0 0 0 rfl).1
  | [c0, c1], _ =>
      have hshort : ((charArray4 ([c0, c1] ++ List.replicate (3 - [c0, c1].length) 0)).take
          ([c0, c1].length + 1)).length < 4 :=
        Nat.lt_of_le_of_lt (List.length_take_le _ _) (by simp)
      rw [if_neg (List.cons_ne_nil _ _)] at hdigits ⊢
      rw [decodeText_eq hfours hshort hdigits, hback]
      exact congrArg₂ (fun c d => groups.flatten ++ [c, d]) (regroup c0 c1 0 rfl).1
        (regroup c0 c1 0 rfl).2.1

/-! ## The round trip -/

/-- A function of a text and a buffer gives `ret`: its length is returned and it stands at the
front of the buffer, whose rest is as it was; a buffer without room for it is refused. -/
def Gives (result : Int32 × Option StdString) (ret szBuf : StdString) : Prop :=
  if szBuf.length < ret.length then
    result = (-1, some szBuf)
  else
    result.1.toInt = ret.length ∧ result.2 = some (ret ++ szBuf.drop ret.length)

/-- `encode` writes a text, the same for every buffer, and `decode`, given the buffer and the
length that `encode` returned, writes the bytes that it was made from. -/
def RoundTrips (szData : StdString) : Prop :=
  ∃ text : StdString, text.length = encodedSize szData.length ∧
    ∀ szBuf : StdString, szBuf.length < 2 ^ 32 →
      let encoded := encode (some szData) (some szBuf)
      Gives encoded text szBuf ∧
        (text.length ≤ szBuf.length → ∀ szOut : StdString, szOut.length < 2 ^ 32 →
          ∃ decoded, decode (encoded.2.map (·.take encoded.1.toUInt32.toNat)) (some szOut) =
              some decoded ∧
            Gives decoded szData szOut)

theorem copyOut_of_room {ret szBuf : StdString} (hret : ret ≠ [])
    (hroom : ret.length ≤ szBuf.length) :
    copyOut ret szBuf = (Int32.ofNat ret.length, ret ++ szBuf.drop ret.length) :=
  if_neg fun h => h.elim (Nat.not_lt.mpr hroom) hret

theorem gives_copyOut {ret szBuf : StdString} (hret : ret ≠ [])
    (hlength : ret.length < 2 ^ 31) :
    Gives ((copyOut ret szBuf).1, some (copyOut ret szBuf).2) ret szBuf := by
  unfold Gives
  split
  · rename_i hroom
    rw [copyOut, if_pos (Or.inl hroom)]
  · rename_i hroom
    rw [copyOut_of_room hret (Nat.not_lt.mp hroom)]
    exact ⟨Int32.toInt_ofNat_of_lt hlength, rfl⟩

theorem encodeText_ne_nil {szData : StdString} (hne : szData ≠ []) : encodeText szData ≠ [] := by
  have hpos := List.length_pos_of_ne_nil hne
  refine List.ne_nil_of_length_pos ?_
  rw [length_encodeText, encodedSize]
  omega

theorem roundTrips_of_lt {szData : StdString} (hne : szData ≠ [])
    (hsize : encodedSize szData.length < 2 ^ 31) : RoundTrips szData := by
  have htext := encodeText_ne_nil hne
  have hlength : (encodeText szData).length < 2 ^ 31 := by rwa [length_encodeText]
  have hdata : szData.length < 2 ^ 31 := by
    unfold encodedSize at hsize
    omega
  have hread : ¬ 2 ^ 31 ≤ (decodable (encodeText szData)).length :=
    Nat.not_le.mpr (Nat.lt_of_le_of_lt (List.takeWhile_prefix _).length_le hlength)
  refine ⟨encodeText szData, length_encodeText szData, fun szBuf hbuf => ?_⟩
  refine ⟨gives_copyOut htext hlength, fun hroom szOut hout => ?_⟩
  -- the length that was returned cuts the text out of the buffer
  have hcut : (encode (some szData) (some szBuf)).2.map
      (·.take (encode (some szData) (some szBuf)).1.toUInt32.toNat) =
        some (encodeText szData) := by
    rw [encode, copyOut_of_room htext hroom]
    dsimp only
    rw [Int32.toUInt32_ofNat', UInt32.toNat_ofNat_of_lt' (by rw [UInt32.size]; omega),
      Option.map_some, List.take_left]
  refine ⟨_, ?_, gives_copyOut hne hdata⟩
  rw [hcut, decode, if_neg hread, decodeText_encodeText]

/-- No buffer is large enough. -/
theorem roundTrips_of_ge {szData : StdString} (hsize : 2 ^ 32 ≤ encodedSize szData.length) :
    RoundTrips szData := by
  have hlength := length_encodeText szData
  refine ⟨encodeText szData, hlength, fun szBuf hbuf => ⟨?_, fun hroom => by omega⟩⟩
  have hsmall : szBuf.length < (encodeText szData).length := by omega
  unfold Gives
  rw [if_pos hsmall, encode, copyOut, if_pos (Or.inl hsmall)]

/-- A length that does not fit in an `int32_t` is returned as a negative number. -/
theorem not_roundTrips {szData : StdString} (hlow : 2 ^ 31 ≤ encodedSize szData.length)
    (hhigh : encodedSize szData.length < 2 ^ 32) : ¬ RoundTrips szData := by
  rintro ⟨text, htext, htrips⟩
  have hlength := length_encodeText szData
  obtain ⟨hgives, -⟩ := htrips (List.replicate (encodedSize szData.length) 0)
    (by rwa [List.length_replicate])
  have hne : encodeText szData ≠ [] := List.ne_nil_of_length_pos (by omega)
  have hroom : (encodeText szData).length ≤
      (List.replicate (encodedSize szData.length) (0 : UInt8)).length := by
    rw [List.length_replicate, hlength]
  rw [Gives, if_neg (by rw [List.length_replicate, htext]; exact Nat.lt_irrefl _), encode,
    copyOut_of_room hne hroom, htext, hlength] at hgives
  have hneg := hgives.1
  rw [Int32.toInt_ofNat', Int.bmod_def] at hneg
  split at hneg
  · rename_i hhalf
    change _ % (4294967296 : ℤ) < (4294967296 + 1) / 2 at hhalf
    omega
  · change _ % (4294967296 : ℤ) - 4294967296 = _ at hneg
    omega

/-- The round trip holds unless the encoded length fits in a `uint32_t`, as that of a buffer,
but not in the `int32_t` that is returned. -/
theorem roundTrips_iff_size {szData : StdString} (hne : szData ≠ []) :
    RoundTrips szData ↔
      encodedSize szData.length < 2 ^ 31 ∨ 2 ^ 32 ≤ encodedSize szData.length := by
  constructor
  · intro htrips
    by_contra hsize
    rw [not_or, Nat.not_lt, Nat.not_le] at hsize
    exact not_roundTrips hsize.1 hsize.2 htrips
  · rintro (hsize | hsize)
    · exact roundTrips_of_lt hne hsize
    · exact roundTrips_of_ge hsize

theorem roundTrips_abcd : RoundTrips [97, 98, 99, 100] :=
  (roundTrips_iff_size (by decide)).mpr (by decide)

theorem not_roundTrips_three_mul : ¬ RoundTrips (List.replicate (3 * 2 ^ 29) 0) := by
  have hsize : encodedSize (List.replicate (3 * 2 ^ 29) (0 : UInt8)).length = 2 ^ 31 := by
    rw [List.length_replicate, encodedSize]
    omega
  exact not_roundTrips hsize.ge (by rw [hsize]; decide)

end RealtimeEx.Base.Base64
