import RealtimeEx.Base.BufFile
import RealtimeEx.Support.Crc

/-!
# `crc32`

The check of a text is taken from a table, a byte at a time.  A `char` is signed, so a byte
from `0x80` on is not a small index.
-/

namespace RealtimeEx.Base.Crc32

/-- The polynomial of the table. -/
def poly : BitVec 32 := 0x04c11db7#32

def s_zCrctable : List (BitVec 32) :=
  [0x00000000#32, 0x04c11db7#32, 0x09823b6e#32, 0x0d4326d9#32,
   0x130476dc#32, 0x17c56b6b#32, 0x1a864db2#32, 0x1e475005#32,
   0x2608edb8#32, 0x22c9f00f#32, 0x2f8ad6d6#32, 0x2b4bcb61#32,
   0x350c9b64#32, 0x31cd86d3#32, 0x3c8ea00a#32, 0x384fbdbd#32,
   0x4c11db70#32, 0x48d0c6c7#32, 0x4593e01e#32, 0x4152fda9#32,
   0x5f15adac#32, 0x5bd4b01b#32, 0x569796c2#32, 0x52568b75#32,
   0x6a1936c8#32, 0x6ed82b7f#32, 0x639b0da6#32, 0x675a1011#32,
   0x791d4014#32, 0x7ddc5da3#32, 0x709f7b7a#32, 0x745e66cd#32,
   0x9823b6e0#32, 0x9ce2ab57#32, 0x91a18d8e#32, 0x95609039#32,
   0x8b27c03c#32, 0x8fe6dd8b#32, 0x82a5fb52#32, 0x8664e6e5#32,
   0xbe2b5b58#32, 0xbaea46ef#32, 0xb7a96036#32, 0xb3687d81#32,
   0xad2f2d84#32, 0xa9ee3033#32, 0xa4ad16ea#32, 0xa06c0b5d#32,
   0xd4326d90#32, 0xd0f37027#32, 0xddb056fe#32, 0xd9714b49#32,
   0xc7361b4c#32, 0xc3f706fb#32, 0xceb42022#32, 0xca753d95#32,
   0xf23a8028#32, 0xf6fb9d9f#32, 0xfbb8bb46#32, 0xff79a6f1#32,
   0xe13ef6f4#32, 0xe5ffeb43#32, 0xe8bccd9a#32, 0xec7dd02d#32,
   0x34867077#32, 0x30476dc0#32, 0x3d044b19#32, 0x39c556ae#32,
   0x278206ab#32, 0x23431b1c#32, 0x2e003dc5#32, 0x2ac12072#32,
   0x128e9dcf#32, 0x164f8078#32, 0x1b0ca6a1#32, 0x1fcdbb16#32,
   0x018aeb13#32, 0x054bf6a4#32, 0x0808d07d#32, 0x0cc9cdca#32,
   0x7897ab07#32, 0x7c56b6b0#32, 0x71159069#32, 0x75d48dde#32,
   0x6b93dddb#32, 0x6f52c06c#32, 0x6211e6b5#32, 0x66d0fb02#32,
   0x5e9f46bf#32, 0x5a5e5b08#32, 0x571d7dd1#32, 0x53dc6066#32,
   0x4d9b3063#32, 0x495a2dd4#32, 0x44190b0d#32, 0x40d816ba#32,
   0xaca5c697#32, 0xa864db20#32, 0xa527fdf9#32, 0xa1e6e04e#32,
   0xbfa1b04b#32, 0xbb60adfc#32, 0xb6238b25#32, 0xb2e29692#32,
   0x8aad2b2f#32, 0x8e6c3698#32, 0x832f1041#32, 0x87ee0df6#32,
   0x99a95df3#32, 0x9d684044#32, 0x902b669d#32, 0x94ea7b2a#32,
   0xe0b41de7#32, 0xe4750050#32, 0xe9362689#32, 0xedf73b3e#32,
   0xf3b06b3b#32, 0xf771768c#32, 0xfa325055#32, 0xfef34de2#32,
   0xc6bcf05f#32, 0xc27dede8#32, 0xcf3ecb31#32, 0xcbffd686#32,
   0xd5b88683#32, 0xd1799b34#32, 0xdc3abded#32, 0xd8fba05a#32,
   0x690ce0ee#32, 0x6dcdfd59#32, 0x608edb80#32, 0x644fc637#32,
   0x7a089632#32, 0x7ec98b85#32, 0x738aad5c#32, 0x774bb0eb#32,
   0x4f040d56#32, 0x4bc510e1#32, 0x46863638#32, 0x42472b8f#32,
   0x5c007b8a#32, 0x58c1663d#32, 0x558240e4#32, 0x51435d53#32,
   0x251d3b9e#32, 0x21dc2629#32, 0x2c9f00f0#32, 0x285e1d47#32,
   0x36194d42#32, 0x32d850f5#32, 0x3f9b762c#32, 0x3b5a6b9b#32,
   0x0315d626#32, 0x07d4cb91#32, 0x0a97ed48#32, 0x0e56f0ff#32,
   0x1011a0fa#32, 0x14d0bd4d#32, 0x19939b94#32, 0x1d528623#32,
   0xf12f560e#32, 0xf5ee4bb9#32, 0xf8ad6d60#32, 0xfc6c70d7#32,
   0xe22b20d2#32, 0xe6ea3d65#32, 0xeba91bbc#32, 0xef68060b#32,
   0xd727bbb6#32, 0xd3e6a601#32, 0xdea580d8#32, 0xda649d6f#32,
   0xc423cd6a#32, 0xc0e2d0dd#32, 0xcda1f604#32, 0xc960ebb3#32,
   0xbd3e8d7e#32, 0xb9ff90c9#32, 0xb4bcb610#32, 0xb07daba7#32,
   0xae3afba2#32, 0xaafbe615#32, 0xa7b8c0cc#32, 0xa379dd7b#32,
   0x9b3660c6#32, 0x9ff77d71#32, 0x92b45ba8#32, 0x9675461f#32,
   0x8832161a#32, 0x8cf30bad#32, 0x81b02d74#32, 0x857130c3#32,
   0x5d8a9099#32, 0x594b8d2e#32, 0x5408abf7#32, 0x50c9b640#32,
   0x4e8ee645#32, 0x4a4ffbf2#32, 0x470cdd2b#32, 0x43cdc09c#32,
   0x7b827d21#32, 0x7f436096#32, 0x7200464f#32, 0x76c15bf8#32,
   0x68860bfd#32, 0x6c47164a#32, 0x61043093#32, 0x65c52d24#32,
   0x119b4be9#32, 0x155a565e#32, 0x18197087#32, 0x1cd86d30#32,
   0x029f3d35#32, 0x065e2082#32, 0x0b1d065b#32, 0x0fdc1bec#32,
   0x3793a651#32, 0x3352bbe6#32, 0x3e119d3f#32, 0x3ad08088#32,
   0x2497d08d#32, 0x2056cd3a#32, 0x2d15ebe3#32, 0x29d4f654#32,
   0xc5a92679#32, 0xc1683bce#32, 0xcc2b1d17#32, 0xc8ea00a0#32,
   0xd6ad50a5#32, 0xd26c4d12#32, 0xdf2f6bcb#32, 0xdbee767c#32,
   0xe3a1cbc1#32, 0xe760d676#32, 0xea23f0af#32, 0xeee2ed18#32,
   0xf0a5bd1d#32, 0xf464a0aa#32, 0xf9278673#32, 0xfde69bc4#32,
   0x89b8fd09#32, 0x8d79e0be#32, 0x803ac667#32, 0x84fbdbd0#32,
   0x9abc8bd5#32, 0x9e7d9662#32, 0x933eb0bb#32, 0x97ffad0c#32,
   0xafb010b1#32, 0xab710d06#32, 0xa6322bdf#32, 0xa2f33668#32,
   0xbcb4666d#32, 0xb8757bda#32, 0xb5365d03#32, 0xb1f740b4#32]

/-- A byte as it is in a `uint32_t`: a `char` is signed. -/
def ofChar (c : UInt8) : BitVec 32 := c.toBitVec.signExtend 32

/-- The loop of `encode`.  `none` is a read outside of the table. -/
def encodeFrom (nRet : BitVec 32) : StdString → Option (BitVec 32)
  | [] => some nRet
  | c :: szBuf =>
      let nTableIndex := nRet >>> 24 ^^^ ofChar c
      match s_zCrctable[nTableIndex.toNat]? with
      | none => none
      | some nEntry => encodeFrom (nRet <<< 8 ^^^ nEntry) szBuf

/-- `encode`. -/
def encode (szBuf : StdString) : Option (BitVec 32) := encodeFrom 0 szBuf

/-! ## The table -/

/-- The bits of a byte, the highest one first. -/
def byteBits (c : UInt8) : List Bool := (List.range 8).map c.toBitVec.getMsbD

/-- Every entry is eight steps of the register away from its index. -/
theorem crctable_eq : s_zCrctable =
    (List.range 256).map fun n => (Crc.shift poly)^[8] (BitVec.ofNat 32 n <<< 24) := by
  decide +kernel

theorem getElem?_crctable {n : ℕ} (hn : n < 256) :
    s_zCrctable[n]? = some ((Crc.shift poly)^[8] (BitVec.ofNat 32 n <<< 24)) := by
  rw [crctable_eq, List.getElem?_map, List.getElem?_range hn]
  rfl

theorem getElem?_crctable_of_le {n : ℕ} (hn : 256 ≤ n) : s_zCrctable[n]? = none := by
  rw [crctable_eq]
  exact List.getElem?_eq_none (by simpa using hn)

theorem place_byteBits (c : UInt8) :
    (Crc.place (byteBits c) : BitVec 32) = c.toBitVec.setWidth 32 <<< 24 := by
  have hall : ∀ b : BitVec 8,
      (Crc.place ((List.range 8).map b.getMsbD) : BitVec 32) = b.setWidth 32 <<< 24 := by
    decide +kernel
  exact hall c.toBitVec

theorem length_byteBits (c : UInt8) : (byteBits c).length = 8 := by
  rw [byteBits, List.length_map, List.length_range]

/-- The entry for a byte stands for eight steps of the register. -/
theorem bitwise_byteBits (nRet : BitVec 32) (c : UInt8) :
    Crc.bitwise poly nRet (byteBits c) = nRet <<< 8 ^^^
      (Crc.shift poly)^[8]
        (BitVec.ofNat 32 (nRet >>> 24 ^^^ c.toBitVec.setWidth 32).toNat <<< 24) := by
  have hlow : c.toBitVec.setWidth 32 <<< 24 <<< 8 = 0#32 := by
    rw [← BitVec.shiftLeft_add]
    exact BitVec.shiftLeft_eq_zero (by decide)
  have hhigh : c.toBitVec.setWidth 32 <<< 24 >>> 24 = (c.toBitVec.setWidth 32 : BitVec 32) := by
    have hlt := c.toBitVec.isLt
    apply BitVec.eq_of_toNat_eq
    rw [BitVec.toNat_ushiftRight, BitVec.toNat_shiftLeft, BitVec.toNat_setWidth,
      Nat.shiftLeft_eq, Nat.shiftRight_eq_div_pow]
    omega
  rw [Crc.bitwise_eq_iterate poly (by rw [length_byteBits]; decide), length_byteBits,
    place_byteBits, Crc.iterate_shift_eq poly (by decide : 8 ≤ 32),
    BitVec.shiftLeft_xor_distrib, hlow, BitVec.xor_zero, BitVec.ushiftRight_xor_distrib, hhigh,
    BitVec.ofNat_toNat, BitVec.setWidth_eq]

/-! ## The index -/

/-- A byte below `0x80` is the one that is meant. -/
theorem ofChar_of_lt {c : UInt8} (hc : c < 0x80) : ofChar c = c.toBitVec.setWidth 32 := by
  apply BitVec.signExtend_eq_setWidth_of_msb_false
  rw [BitVec.msb_eq_false_iff_two_mul_lt]
  have hlt : c.toNat < 128 := hc
  show 2 * c.toNat < 256
  omega

theorem index_lt_of_lt {c : UInt8} (hc : c < 0x80) (nRet : BitVec 32) :
    (nRet >>> 24 ^^^ ofChar c).toNat < 256 := by
  rw [ofChar_of_lt hc, BitVec.toNat_xor]
  apply Nat.xor_lt_two_pow (n := 8)
  · rw [BitVec.toNat_ushiftRight, Nat.shiftRight_eq_div_pow]
    have hlt := nRet.isLt
    omega
  · rw [BitVec.toNat_setWidth]
    exact (Nat.mod_le _ _).trans_lt c.toBitVec.isLt

/-- Any other byte is far behind the table. -/
theorem index_ge_of_le {c : UInt8} (hc : 0x80 ≤ c) (nRet : BitVec 32) :
    256 ≤ (nRet >>> 24 ^^^ ofChar c).toNat := by
  have hmsb : (nRet >>> 24 ^^^ ofChar c).msb = true := by
    have hchar : c.toBitVec.msb = true := by
      rw [BitVec.msb_eq_true_iff_two_mul_ge]
      have hge : 128 ≤ c.toNat := hc
      show 256 ≤ 2 * c.toNat
      omega
    rw [BitVec.msb_xor, ofChar, BitVec.msb_signExtend]
    simp [hchar]
  rw [BitVec.msb_eq_true_iff_two_mul_ge] at hmsb
  omega

/-! ## The check -/

theorem encodeFrom_cons_of_lt {c : UInt8} (hc : c < 0x80) (nRet : BitVec 32)
    (szBuf : StdString) :
    encodeFrom nRet (c :: szBuf) = encodeFrom (Crc.bitwise poly nRet (byteBits c)) szBuf := by
  rw [encodeFrom, getElem?_crctable (index_lt_of_lt hc nRet), ofChar_of_lt hc, bitwise_byteBits]

theorem encodeFrom_cons_of_le {c : UInt8} (hc : 0x80 ≤ c) (nRet : BitVec 32)
    (szBuf : StdString) : encodeFrom nRet (c :: szBuf) = none := by
  rw [encodeFrom, getElem?_crctable_of_le (index_ge_of_le hc nRet)]

theorem encodeFrom_eq_iff (nRet : BitVec 32) (szBuf : StdString) :
    encodeFrom nRet szBuf = some (Crc.bitwise poly nRet (szBuf.flatMap byteBits)) ↔
      ∀ c ∈ szBuf, c < 0x80 := by
  induction szBuf generalizing nRet with
  | nil => exact iff_of_true rfl (List.forall_mem_nil _)
  | cons c szBuf ih =>
      rw [List.forall_mem_cons]
      by_cases hc : c < 0x80
      · rw [encodeFrom_cons_of_lt hc, List.flatMap_cons, Crc.bitwise_append, ih]
        exact (and_iff_right hc).symm
      · rw [encodeFrom_cons_of_le (UInt8.not_lt.mp hc)]
        exact iff_of_false (by simp) fun h => hc h.1

/-- The table gives the check of the polynomial, without a read outside of it, just for the
texts of bytes below `0x80`. -/
theorem encode_eq_iff (szBuf : StdString) :
    encode szBuf = some (Crc.bitwise poly 0 (szBuf.flatMap byteBits)) ↔
      ∀ c ∈ szBuf, c < 0x80 :=
  encodeFrom_eq_iff 0 szBuf

theorem not_encode_eq_highByte :
    ¬ encode [0x80] = some (Crc.bitwise poly 0 ([0x80].flatMap byteBits)) := by
  decide

end RealtimeEx.Base.Crc32
