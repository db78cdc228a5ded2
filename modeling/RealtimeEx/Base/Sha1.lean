import RealtimeEx.Base.BufFile
import RealtimeEx.Support.BlockHash

/-!
# `CSHA1`

The hash that answers the key of a websocket.  An object takes a message in any number of
calls of `write`, byte by byte, and pads it when the digest is asked for the first time.
-/

namespace RealtimeEx.Base

/-! ## Blocks -/

/-- `m_zH`, and the words `A` to `E`. -/
structure Sha1Words where
  a : UInt32
  b : UInt32
  c : UInt32
  d : UInt32
  e : UInt32
  deriving DecidableEq

namespace CSHA1

def circularShift (bits word : UInt32) : UInt32 :=
  (word <<< bits) ||| (word >>> (32 - bits))

/-- `W[i]` for `i < 16`. -/
def blockWord (zMessageBlock : List UInt8) (i : ℕ) : UInt32 :=
  ((zMessageBlock.getD (i * 4) 0).toUInt32 <<< 24) |||
    ((zMessageBlock.getD (i * 4 + 1) 0).toUInt32 <<< 16) |||
    ((zMessageBlock.getD (i * 4 + 2) 0).toUInt32 <<< 8) |||
    (zMessageBlock.getD (i * 4 + 3) 0).toUInt32

/-- `W`. -/
def wordSequence (zMessageBlock : List UInt8) : List UInt32 :=
  (List.range' 16 64).foldl
    (fun W i => W ++ [circularShift 1
      (W.getD (i - 3) 0 ^^^ W.getD (i - 8) 0 ^^^ W.getD (i - 14) 0 ^^^ W.getD (i - 16) 0)])
    ((List.range 16).map (blockWord zMessageBlock))

/-- A round of one of the four loops. -/
def round (f : UInt32 → UInt32 → UInt32 → UInt32) (K : UInt32) (W : List UInt32)
    (w : Sha1Words) (i : ℕ) : Sha1Words where
  a := circularShift 5 w.a + f w.b w.c w.d + w.e + W.getD i 0 + K
  b := w.a
  c := circularShift 30 w.b
  d := w.c
  e := w.d

/-- `processMessageBlock`, of a block of 64 bytes. -/
def processMessageBlock (zH : Sha1Words) (zMessageBlock : List UInt8) : Sha1Words :=
  let W := wordSequence zMessageBlock
  let w := zH
  let w := (List.range' 0 20).foldl
    (round (fun B C D => (B &&& C) ||| (~~~B &&& D)) 0x5A827999 W) w
  let w := (List.range' 20 20).foldl
    (round (fun B C D => B ^^^ C ^^^ D) 0x6ED9EBA1 W) w
  let w := (List.range' 40 20).foldl
    (round (fun B C D => (B &&& C) ||| (B &&& D) ||| (C &&& D)) 0x8F1BBCDC W) w
  let w := (List.range' 60 20).foldl
    (round (fun B C D => B ^^^ C ^^^ D) 0xCA62C1D6 W) w
  { a := zH.a + w.a, b := zH.b + w.b, c := zH.c + w.c, d := zH.d + w.d, e := zH.e + w.e }

end CSHA1

/-! ## Objects -/

/-- `CSHA1`; of the message block, what is in front of `m_nMessageBlockIndex`. -/
structure CSHA1 where
  zH : Sha1Words := ⟨0x67452301, 0xEFCDAB89, 0x98BADCFE, 0x10325476, 0xC3D2E1F0⟩
  nLengthLow : UInt32 := 0
  nLengthHigh : UInt32 := 0
  zMessageBlock : List UInt8 := []
  bComputed : Bool := false
  bCorrupted : Bool := false

namespace CSHA1

/-- `reset`, and the constructor. -/
def reset : CSHA1 := {}

/-- `processMessageBlock`. -/
def process (s : CSHA1) : CSHA1 :=
  { s with zH := processMessageBlock s.zH s.zMessageBlock, zMessageBlock := [] }

/-- A round of the loop of `write`. -/
def writeByte (s : CSHA1) (data : UInt8) : CSHA1 :=
  let s : CSHA1 :=
    { s with
      zMessageBlock := s.zMessageBlock ++ [data]
      nLengthLow := s.nLengthLow + 8 }
  let s : CSHA1 :=
    if s.nLengthLow = 0 then
      { s with
        nLengthHigh := s.nLengthHigh + 1
        bCorrupted := s.bCorrupted || decide (s.nLengthHigh + 1 = 0) }
    else
      s
  if s.zMessageBlock.length = 64 then s.process else s

/-- The loop of `write`. -/
def writeLoop (s : CSHA1) : List UInt8 → CSHA1
  | [] => s
  | data :: pData => if s.bCorrupted then s else (s.writeByte data).writeLoop pData

def write (s : CSHA1) (pData : List UInt8) : CSHA1 :=
  if pData = [] then
    s
  else if s.bComputed || s.bCorrupted then
    { s with bCorrupted := true }
  else
    s.writeLoop pData

/-- Zeros, until the index is `n`. -/
def fill (n : ℕ) (zMessageBlock : List UInt8) : List UInt8 :=
  zMessageBlock ++ List.replicate (n - zMessageBlock.length) 0

/-- The four octets of a word, the highest one first. -/
def octets (n : UInt32) : List UInt8 :=
  [(n >>> 24).toUInt8, (n >>> 16).toUInt8, (n >>> 8).toUInt8, n.toUInt8]

def padMessage (s : CSHA1) : CSHA1 :=
  let p :=
    if 55 < s.zMessageBlock.length then
      let p := { s with zMessageBlock := fill 64 (s.zMessageBlock ++ [0x80]) }.process
      { p with zMessageBlock := fill 56 p.zMessageBlock }
    else
      { s with zMessageBlock := fill 56 (s.zMessageBlock ++ [0x80]) }
  { p with zMessageBlock := p.zMessageBlock ++ octets s.nLengthHigh ++ octets s.nLengthLow }.process

/-- `result`; `none` is the return value `false`. -/
def result (s : CSHA1) : Option Sha1Words × CSHA1 :=
  if s.bCorrupted then
    (none, s)
  else
    let s := if s.bComputed then s else { s.padMessage with bComputed := true }
    (some s.zH, s)

/-! ## The digest of a message -/

/-- `processMessageBlock` with the size of its blocks. -/
def hash : BlockHash Sha1Words UInt8 := ⟨64, by decide, processMessageBlock⟩

/-- The size of a message of `n` bytes in bits, the highest octet first. -/
def lengthOctets (n : ℕ) : List UInt8 := (leBytes 8 (8 * n)).reverse

/-- SHA-1. -/
def sha1 (message : List UInt8) : Sha1Words :=
  hash.digest 8 0x80 0 lengthOctets reset.zH message

/-- The state behind a message, without its padding. -/
def absorbed (data : List UInt8) : hash.Absorbed := (hash.start reset.zH).absorb data

/-- An object that has been given `data`. -/
structure Holds (s : CSHA1) (data : List UInt8) : Prop where
  bComputed : s.bComputed = false
  bCorrupted : s.bCorrupted = false
  zH : s.zH = (absorbed data).state
  zMessageBlock : s.zMessageBlock = (absorbed data).block
  length : s.nLengthHigh.toNat * 2 ^ 32 + s.nLengthLow.toNat = 8 * data.length

variable {s : CSHA1} {data : List UInt8}

theorem Holds.reset : Holds reset [] := ⟨rfl, rfl, rfl, rfl, rfl⟩

theorem length_absorbed (data : List UInt8) :
    (absorbed data).block.length = data.length % 64 := by
  have h := BlockHash.Absorbed.length_block_absorb (p := hash.start reset.zH) data
  exact h.trans (congrArg (· % 64) (Nat.zero_add _))

/-- The state and the block behind one more byte. -/
theorem absorbed_concat (data : List UInt8) (b : UInt8) :
    absorbed (data ++ [b]) = (absorbed data).feed b :=
  BlockHash.Absorbed.absorb_append data [b]

theorem octets_eq {nLengthHigh nLengthLow : UInt32} {n : ℕ}
    (h : nLengthHigh.toNat * 2 ^ 32 + nLengthLow.toNat = 8 * n) :
    octets nLengthHigh ++ octets nLengthLow = lengthOctets n := by
  have hhigh := nLengthHigh.toNat_lt
  have hlow := nLengthLow.toNat_lt
  rw [lengthOctets, ← h]
  simp only [leBytes, List.reverse_cons, List.reverse_nil, List.nil_append, List.cons_append,
    octets, List.cons.injEq, and_true, ← UInt8.toNat_inj, UInt32.toNat_toUInt8,
    UInt32.toNat_shiftRight, UInt8.toNat_ofNat', Nat.shiftRight_eq_div_pow]
  have h24 : (24 : UInt32).toNat % 32 = 24 := rfl
  have h16 : (16 : UInt32).toNat % 32 = 16 := rfl
  have h8 : (8 : UInt32).toNat % 32 = 8 := rfl
  rw [h24, h16, h8]
  refine ⟨?_, ?_, ?_, ?_, ?_, ?_, ?_, ?_⟩ <;> omega

/-! ## One byte -/

theorem bComputed_writeByte (s : CSHA1) (b : UInt8) :
    (s.writeByte b).bComputed = s.bComputed := by
  simp only [CSHA1.writeByte, process]
  split <;> split <;> rfl

theorem bCorrupted_writeByte (s : CSHA1) (b : UInt8) :
    (s.writeByte b).bCorrupted =
      (s.bCorrupted || decide (s.nLengthLow + 8 = 0 ∧ s.nLengthHigh + 1 = 0)) := by
  simp only [CSHA1.writeByte, process]
  split <;> split <;> simp_all

theorem nLengthLow_writeByte (s : CSHA1) (b : UInt8) :
    (s.writeByte b).nLengthLow = s.nLengthLow + 8 := by
  simp only [CSHA1.writeByte, process]
  split <;> split <;> rfl

theorem nLengthHigh_writeByte (s : CSHA1) (b : UInt8) :
    (s.writeByte b).nLengthHigh =
      if s.nLengthLow + 8 = 0 then s.nLengthHigh + 1 else s.nLengthHigh := by
  simp only [CSHA1.writeByte, process]
  split <;> split <;> rfl

theorem zH_writeByte (s : CSHA1) (b : UInt8) :
    (s.writeByte b).zH =
      if s.zMessageBlock.length + 1 = 64 then processMessageBlock s.zH (s.zMessageBlock ++ [b])
      else s.zH := by
  simp only [CSHA1.writeByte, process]
  split <;> split <;> simp_all

theorem zMessageBlock_writeByte (s : CSHA1) (b : UInt8) :
    (s.writeByte b).zMessageBlock =
      if s.zMessageBlock.length + 1 = 64 then [] else s.zMessageBlock ++ [b] := by
  simp only [CSHA1.writeByte, process]
  split <;> split <;> simp_all

/-- The length counts on by eight bits, or it is full. -/
theorem Holds.length_writeByte (h : Holds s data) :
    (8 * (data.length + 1) < 2 ^ 64 →
      (if s.nLengthLow + 8 = 0 then s.nLengthHigh + 1 else s.nLengthHigh).toNat * 2 ^ 32 +
        (s.nLengthLow + 8).toNat = 8 * (data.length + 1)) ∧
    (8 * (data.length + 1) < 2 ^ 64 ↔ ¬ (s.nLengthLow + 8 = 0 ∧ s.nLengthHigh + 1 = 0)) := by
  have hhigh := s.nLengthHigh.toNat_lt
  have hlow := s.nLengthLow.toNat_lt
  have hlength := h.length
  have hlow' : (s.nLengthLow + 8).toNat = (s.nLengthLow.toNat + 8) % 2 ^ 32 :=
    UInt32.toNat_add _ _
  have hhigh' : (s.nLengthHigh + 1).toNat = (s.nLengthHigh.toNat + 1) % 2 ^ 32 :=
    UInt32.toNat_add _ _
  have hlowzero : s.nLengthLow + 8 = 0 ↔ (s.nLengthLow + 8).toNat = 0 :=
    UInt32.toNat_inj.symm
  have hhighzero : s.nLengthHigh + 1 = 0 ↔ (s.nLengthHigh + 1).toNat = 0 :=
    UInt32.toNat_inj.symm
  constructor
  · intro hfits
    split
    · rename_i hzero
      have hcarry := hlowzero.mp hzero
      have hwrap : s.nLengthLow.toNat + 8 = 2 ^ 32 := by omega
      have hnext : s.nLengthHigh.toNat + 1 < 2 ^ 32 := by omega
      rw [hcarry, hhigh', Nat.mod_eq_of_lt hnext, Nat.add_mul, Nat.one_mul, Nat.add_zero,
        Nat.mul_add, Nat.mul_one]
      omega
    · rename_i hne
      have hkeep := mt hlowzero.mpr hne
      omega
  · rw [hlowzero, hhighzero]
    omega

theorem Holds.writeByte (h : Holds s data) (hfits : 8 * (data.length + 1) < 2 ^ 64)
    (b : UInt8) : Holds (s.writeByte b) (data ++ [b]) := by
  obtain ⟨hlength, hfull⟩ := h.length_writeByte
  have hroom : (absorbed data).block.length + 1 ≠ 64 →
      (absorbed data).block.length + 1 < hash.size := by
    intro hne
    have hblock : (absorbed data).block.length < 64 := (absorbed data).block_lt
    exact lt_of_le_of_ne hblock hne
  have hfeed := absorbed_concat data b
  rw [BlockHash.Absorbed.feed] at hfeed
  constructor
  · rw [bComputed_writeByte, h.bComputed]
  · rw [bCorrupted_writeByte, h.bCorrupted, decide_eq_false (hfull.mp hfits)]
    rfl
  · rw [zH_writeByte, h.zMessageBlock, h.zH, hfeed]
    split
    · rename_i heq
      rw [dif_neg (by rw [heq]; decide)]
      rfl
    · rename_i hne
      rw [dif_pos (hroom hne)]
  · rw [zMessageBlock_writeByte, h.zMessageBlock, hfeed]
    split
    · rename_i heq
      rw [dif_neg (by rw [heq]; decide)]
    · rename_i hne
      rw [dif_pos (hroom hne)]
  · rw [nLengthHigh_writeByte, nLengthLow_writeByte, List.length_append, List.length_singleton]
    exact hlength hfits

/-! ## Calls -/

theorem writeLoop_of_corrupted (h : s.bCorrupted = true) (pData : List UInt8) :
    s.writeLoop pData = s := by
  cases pData with
  | nil => rfl
  | cons b pData => rw [writeLoop, if_pos h]

/-- The whole of `pData` is taken, or the message has become too long. -/
theorem Holds.writeLoop (h : Holds s data) (pData : List UInt8) :
    if 8 * (data.length + pData.length) < 2 ^ 64 then
      Holds (s.writeLoop pData) (data ++ pData)
    else
      (s.writeLoop pData).bCorrupted = true := by
  induction pData generalizing s data with
  | nil =>
      have hhigh := s.nLengthHigh.toNat_lt
      have hlow := s.nLengthLow.toNat_lt
      have hlength := h.length
      rw [if_pos (by rw [List.length_nil]; omega), List.append_nil]
      exact h
  | cons b pData ih =>
      have hloop : s.writeLoop (b :: pData) = (s.writeByte b).writeLoop pData := by
        rw [CSHA1.writeLoop, if_neg (by rw [h.bCorrupted]; exact Bool.false_ne_true)]
      rw [hloop]
      by_cases hfits : 8 * (data.length + 1) < 2 ^ 64
      · have hrest := ih (h.writeByte hfits b)
        rw [List.append_assoc, List.singleton_append, List.length_append, List.length_singleton,
          Nat.add_assoc, Nat.add_comm 1] at hrest
        exact hrest
      · have hcorrupted : (s.writeByte b).bCorrupted = true := by
          have hfull := mt (h.length_writeByte.2).mpr hfits
          rw [bCorrupted_writeByte, decide_eq_true (not_not.mp hfull), Bool.or_true]
        rw [writeLoop_of_corrupted hcorrupted, if_neg (by rw [List.length_cons]; omega)]
        exact hcorrupted

theorem length_lengthOctets (n : ℕ) : (lengthOctets n).length = 8 := by
  rw [lengthOctets, List.length_reverse, length_leBytes]

theorem bCorrupted_process (s : CSHA1) : s.process.bCorrupted = s.bCorrupted := by
  rw [process]

theorem bCorrupted_padMessage (s : CSHA1) : s.padMessage.bCorrupted = s.bCorrupted := by
  rw [CSHA1.padMessage, bCorrupted_process]
  split <;> simp only [bCorrupted_process]

theorem Holds.padMessage (h : Holds s data) : s.padMessage.zH = sha1 data := by
  have hroom : 8 < hash.size := by decide
  have hpad := BlockHash.Absorbed.state_absorb_pad (p := absorbed data) (n := data.length) hroom
    (0x80 : UInt8) 0 (length_absorbed data) (length_lengthOctets data.length)
  have hdigest : sha1 data = ((absorbed data).absorb
      (hash.pad 8 0x80 0 data.length ++ lengthOctets data.length)).state :=
    congrArg BlockHash.Absorbed.state (BlockHash.Absorbed.absorb_append data _)
  have hoctets := octets_eq h.length
  have hlength : (absorbed data).block.length < 64 := (absorbed data).block_lt
  rw [hdigest, hpad, CSHA1.padMessage, h.zMessageBlock]
  split
  · rename_i hfull
    rw [if_neg (by change ¬ _ ≤ 64; omega)]
    simp only [process, fill, h.zH, List.length_append, List.length_singleton, List.append_assoc,
      hoctets, List.length_nil]
    rfl
  · rename_i hfits
    rw [if_pos (by change _ ≤ 64; omega)]
    simp only [process, fill, h.zH, List.length_append, List.length_singleton, List.append_assoc,
      hoctets]
    rfl

end CSHA1

/-! ## Runs -/

/-- A call of an object. -/
inductive Sha1Call
  | write (pData : List UInt8)
  | result
  | reset

/-- What an object stands for: a message that can still grow, a message whose digest has been
asked for, or nothing any more. -/
inductive Sha1Message
  | growing (data : List UInt8)
  | computed (data : List UInt8)
  | corrupted

namespace Sha1Message

/-- More of the message comes. -/
def write (pData : List UInt8) (m : Sha1Message) : Sha1Message :=
  if pData = [] then
    m
  else
    match m with
    | growing data =>
        if 8 * (data.length + pData.length) < 2 ^ 64 then growing (data ++ pData) else corrupted
    | computed _ => corrupted
    | corrupted => corrupted

/-- The digest, and what is left. -/
def result : Sha1Message → Option Sha1Words × Sha1Message
  | growing data => (some (CSHA1.sha1 data), computed data)
  | computed data => (some (CSHA1.sha1 data), computed data)
  | corrupted => (none, corrupted)

/-- The answers of `result` in a run. -/
def run (m : Sha1Message) : List Sha1Call → List (Option Sha1Words)
  | [] => []
  | .write pData :: calls => (m.write pData).run calls
  | .result :: calls => m.result.1 :: m.result.2.run calls
  | .reset :: calls => (growing []).run calls

end Sha1Message

namespace CSHA1

/-- The answers of `result` in a run. -/
def run (s : CSHA1) : List Sha1Call → List (Option Sha1Words)
  | [] => []
  | .write pData :: calls => (s.write pData).run calls
  | .result :: calls => s.result.1 :: s.result.2.run calls
  | .reset :: calls => reset.run calls

/-- The message an object stands for. -/
def Represents (s : CSHA1) : Sha1Message → Prop
  | .growing data => Holds s data
  | .computed data => s.bComputed = true ∧ s.bCorrupted = false ∧ s.zH = sha1 data
  | .corrupted => s.bCorrupted = true

variable {s : CSHA1} {m : Sha1Message}

theorem Represents.write (h : Represents s m) (pData : List UInt8) :
    Represents (s.write pData) (m.write pData) := by
  rw [CSHA1.write, Sha1Message.write.eq_def]
  split
  · exact h
  · cases m with
    | growing data =>
        have hloop := Holds.writeLoop h pData
        rw [h.bComputed, h.bCorrupted, Bool.or_false, if_neg Bool.false_ne_true]
        dsimp only
        split
        · rename_i hfits
          rw [if_pos hfits] at hloop
          exact hloop
        · rename_i hlong
          rw [if_neg hlong] at hloop
          exact hloop
    | computed data =>
        rw [h.1]
        rfl
    | corrupted =>
        have hcorrupted : s.bCorrupted = true := h
        rw [hcorrupted, Bool.or_true]
        rfl

theorem Represents.result (h : Represents s m) :
    s.result.1 = m.result.1 ∧ Represents s.result.2 m.result.2 := by
  cases m with
  | growing data =>
      have hzH := Holds.padMessage h
      simp only [CSHA1.result, h.bCorrupted, h.bComputed]
      exact ⟨congrArg some hzH, rfl, (bCorrupted_padMessage s).trans h.bCorrupted, hzH⟩
  | computed data =>
      obtain ⟨hcomputed, hcorrupted, hzH⟩ := h
      simp only [CSHA1.result, hcomputed, hcorrupted]
      exact ⟨congrArg some hzH, hcomputed, hcorrupted, hzH⟩
  | corrupted =>
      have hcorrupted : s.bCorrupted = true := h
      rw [CSHA1.result, if_pos hcorrupted]
      exact ⟨rfl, hcorrupted⟩

theorem Represents.run (h : Represents s m) (calls : List Sha1Call) :
    s.run calls = m.run calls := by
  induction calls generalizing s m with
  | nil => rfl
  | cons call calls ih =>
      cases call with
      | write pData => exact ih (h.write pData)
      | result =>
          obtain ⟨hanswer, hrest⟩ := h.result
          rw [CSHA1.run, Sha1Message.run, hanswer, ih hrest]
      | reset => exact ih (m := .growing []) Holds.reset

/-- In every run the answers are the digests of what has been written since the last `reset`,
however it was cut, until something is written behind an answer or 2^61 bytes have come. -/
theorem run_reset (calls : List Sha1Call) :
    reset.run calls = (Sha1Message.growing []).run calls :=
  Represents.run (m := .growing []) Holds.reset calls

example : reset.run [.write [0x61, 0x62], .write [0x63], .result] =
    [some ⟨0xA9993E36, 0x4706816A, 0xBA3E2571, 0x7850C26C, 0x9CD0D89D⟩] := by
  decide +kernel

end CSHA1

end RealtimeEx.Base
