import RealtimeEx.Core.WebsocketFrame

/-!
# The round trip of websocket frames

What a client encodes is decoded, and an incomplete frame is recognised.  What
`serializeFrame` encodes is not, for two reasons: `unserializeFrame` copies the
payload of masked frames only, and `serializeFrame` applies the mask from the start
of the buffer instead of the start of the payload.
-/

namespace RealtimeEx.Core

/-! ## Whole messages -/

/-- The opcodes of frames that carry a whole message. -/
inductive WebsocketMessage
  | text
  | binary
  | close
  | ping
  | pong
  deriving DecidableEq

namespace WebsocketMessage

/-- The opcode. -/
def nOpcode : WebsocketMessage → UInt8
  | text => 0x1
  | binary => 0x2
  | close => 0x8
  | ping => 0x9
  | pong => 0xA

/-- The type that stands for the opcode. -/
def frameType : WebsocketMessage → EWebsocketFrameType
  | text => .textFrame
  | binary => .binaryFrame
  | close => .closeFrame
  | ping => .pingFrame
  | pong => .pongFrame

/-- The first byte of the frame. -/
def nFirst (m : WebsocketMessage) : UInt8 := 0x80 ||| m.nOpcode

/-- The bits of the first byte that decide about the type.  Text frames and final
continuation frames have the same type, and the type of the last three does not
depend on the final bit. -/
def typeBits : WebsocketMessage → UInt8
  | text => 0x8E
  | binary => 0x8F
  | close | ping | pong => 0x0F

end WebsocketMessage

/-- The frame that a conforming client makes of a message: final, and masked with a
key of its own. -/
def clientFrame (m : WebsocketMessage) (key : MaskingKey) (payload : List UInt8) :
    List UInt8 :=
  m.nFirst :: lengthBytes true payload.length ++ key.bytes ++ unmask key.bytes payload

/-- Where the bytes of a frame come from. -/
inductive FrameSource
  | client (key : MaskingKey)
  | serializeFrame (bMasked : Bool) (key : MaskingKey)

/-- The bytes of the frame, if it can be made. -/
def FrameSource.encode (nCapacity : ℕ) (m : WebsocketMessage) (payload : List UInt8) :
    FrameSource → Option (List UInt8)
  | client key => some (clientFrame m key payload)
  | serializeFrame bMasked key =>
      RealtimeEx.Core.serializeFrame nCapacity
        { bFin := true, nOpcode := m.nOpcode, bMasked, zMaskingKey := key } payload

/-- The frame is made, is decoded with exactly its bytes whatever is behind it, and
every proper prefix of it is incomplete. -/
def RoundTrips (nCapacity : ℕ) (m : WebsocketMessage) (payload : List UInt8)
    (source : FrameSource) : Prop :=
  ∃ bytes, source.encode nCapacity m payload = some bytes ∧
    (∀ rest, unserializeFrame nCapacity (bytes ++ rest) =
      some { nRet := bytes.length, eType := m.frameType, vecBuf := payload }) ∧
    ∀ front, front <+: bytes → front ≠ bytes →
      unserializeFrame nCapacity front = some .incomplete

/-! ## Lengths -/

theorem toNat_lengthField {n : ℕ} (hn : n < 128) :
    ((0x80 ||| UInt8.ofNat n) &&& 0x7F : UInt8).toNat = n := by
  revert n
  decide

theorem maskBit_lengthField {n : ℕ} (hn : n < 128) :
    (0x80 ||| UInt8.ofNat n) &&& 0x80 ≠ (0 : UInt8) := by
  revert n
  decide

theorem maskBit_unmasked {n : ℕ} (hn : n < 128) :
    (0 ||| UInt8.ofNat n) &&& 0x80 = (0 : UInt8) := by
  revert n
  decide

theorem toNat_high_low {n : ℕ} (hn : n ≤ payloadSizeExtended) :
    (UInt8.ofNat (n >>> 8)).toNat * 256 + (UInt8.ofNat n).toNat = n := by
  simp only [payloadSizeExtended] at hn
  rw [UInt8.toNat_ofNat', UInt8.toNat_ofNat', Nat.shiftRight_eq_div_pow]
  omega

theorem length_lengthBytes (n : ℕ) :
    (lengthBytes true n).length = if n ≤ payloadSizeBasic then 1 else 3 := by
  rw [lengthBytes]
  split <;> rfl

/-- The position behind the length. -/
def lengthEnd (n : ℕ) : ℕ := 1 + (lengthBytes true n).length

/-- What a masked frame says about its length, in front of anything. -/
theorem payloadLength_lengthBytes (nFirst : UInt8) {n : ℕ}
    (hn : n ≤ payloadSizeExtended) (xs : List UInt8) :
    payloadLength (nFirst :: (lengthBytes true n ++ xs)) = some (n, lengthEnd n) ∧
      (nFirst :: (lengthBytes true n ++ xs)).getD 1 0 &&& 0x80 ≠ 0 := by
  by_cases hsmall : n ≤ payloadSizeBasic
  · have hlt : n < 128 := by
      simp only [payloadSizeBasic] at hsmall
      omega
    have hbytes : lengthBytes true n = [0x80 ||| UInt8.ofNat n] := by
      simp [lengthBytes, hsmall]
    rw [lengthEnd, hbytes]
    refine ⟨?_, maskBit_lengthField hlt⟩
    have hfield : ((nFirst :: ([0x80 ||| UInt8.ofNat n] ++ xs)).getD 1 0 &&&
        0x7F).toNat = n := toNat_lengthField hlt
    simp only [payloadLength, hfield, hsmall, if_true, List.length_singleton]
  · have hbytes : lengthBytes true n =
        [0x80 ||| 126, UInt8.ofNat (n >>> 8), UInt8.ofNat n] := by
      simp [lengthBytes, hsmall]
    rw [lengthEnd, hbytes]
    have hmask : (0x80 ||| 126 : UInt8) &&& 0x80 ≠ 0 := by decide
    refine ⟨?_, hmask⟩
    have hvalue := toNat_high_low hn
    have hfield : ((nFirst :: ([0x80 ||| 126, UInt8.ofNat (n >>> 8), UInt8.ofNat n] ++
        xs)).getD 1 0 &&& 0x7F).toNat = 126 := by
      show ((0x80 ||| 126 : UInt8) &&& 0x7F).toNat = 126
      decide
    have hpair : ((nFirst :: ([0x80 ||| 126, UInt8.ofNat (n >>> 8), UInt8.ofNat n] ++
        xs)).getD 2 0).toNat * 256 + ((nFirst :: ([0x80 ||| 126, UInt8.ofNat (n >>> 8),
          UInt8.ofNat n] ++ xs)).getD 3 0).toNat = n := hvalue
    simp only [payloadLength, hfield, hpair]
    rfl

/-! ## Masked frames -/

/-- A masked frame. -/
def maskedFrame (nFirst : UInt8) (key body : List UInt8) : List UInt8 :=
  nFirst :: (lengthBytes true body.length ++ (key ++ body))

section MaskedFrame

variable {nCapacity : ℕ} {nFirst : UInt8} {key body : List UInt8}

theorem length_maskedFrame (hkey : key.length = 4) :
    (maskedFrame nFirst key body).length = body.length + lengthEnd body.length + 4 := by
  simp only [maskedFrame, List.length_cons, List.length_append, hkey, lengthEnd]
  omega

/-- A masked frame is decoded according to its first byte, whatever is behind
it. -/
theorem unserializeFrame_maskedFrame (hkey : key.length = 4)
    (hbody : body.length ≤ payloadSizeExtended) (hcapacity : body.length ≤ nCapacity)
    (rest : List UInt8) :
    unserializeFrame nCapacity (maskedFrame nFirst key body ++ rest) =
      (frameType nFirst).map fun eType =>
        { nRet := eType.consumed (maskedFrame nFirst key body).length
          eType
          vecBuf := unmask key body } := by
  have happend : maskedFrame nFirst key body ++ rest =
      nFirst :: (lengthBytes true body.length ++ (key ++ (body ++ rest))) := by
    simp [maskedFrame]
  obtain ⟨hlength, hmasked⟩ :=
    payloadLength_lengthBytes nFirst hbody (key ++ (body ++ rest))
  have hsize : (nFirst :: (lengthBytes true body.length ++ (key ++ (body ++ rest)))).length =
      body.length + lengthEnd body.length + 4 + rest.length := by
    simp only [List.length_cons, List.length_append, hkey, lengthEnd]
    omega
  have hdrop : (nFirst :: (lengthBytes true body.length ++ (key ++ (body ++ rest)))).drop
      (lengthEnd body.length) = key ++ (body ++ rest) := by
    rw [lengthEnd, Nat.add_comm, List.drop_succ_cons, List.drop_left]
  have hdrop' : (nFirst :: (lengthBytes true body.length ++ (key ++ (body ++ rest)))).drop
      (lengthEnd body.length + 4) = body ++ rest := by
    rw [← List.drop_drop, hdrop, ← hkey, List.drop_left]
  have hbuf : (if body.length > 0 then unmask key body else []) = unmask key body := by
    split
    · rfl
    · rename_i hempty
      obtain rfl : body = [] := List.eq_nil_of_length_eq_zero (by omega)
      rfl
  rw [length_maskedFrame hkey, happend, unserializeFrame, if_neg (by omega), hlength]
  simp only [hmasked, ne_eq, not_false_eq_true, if_true, true_and, hsize]
  rw [if_neg (by omega), if_neg (by omega), hdrop, hdrop', List.take_left' hkey,
    List.take_left, hbuf]
  rfl

/-- Every proper prefix of a masked frame is incomplete. -/
theorem unserializeFrame_prefix (hkey : key.length = 4)
    (hbody : body.length ≤ payloadSizeExtended) {front : List UInt8}
    (hfront : front <+: maskedFrame nFirst key body)
    (hne : front ≠ maskedFrame nFirst key body) :
    unserializeFrame nCapacity front = some .incomplete := by
  have hshort : front.length < (maskedFrame nFirst key body).length :=
    lt_of_le_of_ne hfront.length_le fun heq => hne (hfront.eq_of_length heq)
  rw [length_maskedFrame hkey] at hshort
  by_cases hthree : front.length < 3
  · rw [unserializeFrame, if_pos hthree]
  · have hgetD {i : ℕ} (hi : i < front.length) :
        front.getD i 0 = (maskedFrame nFirst key body).getD i 0 := by
      obtain ⟨rest, hrest⟩ := hfront
      rw [← hrest, List.getD_eq_getElem?_getD, List.getD_eq_getElem?_getD,
        List.getElem?_append_left hi]
    obtain ⟨hlength, hmasked⟩ := payloadLength_lengthBytes nFirst hbody (key ++ body)
    have hfield : front.getD 1 0 = _ := hgetD (by omega)
    -- Either the length is there, or it starts with 126 and ends behind the data.
    have hfront' : ∃ m pos, payloadLength front = some (m, pos) ∧
        front.length < m + pos + 4 := by
      change payloadLength (maskedFrame nFirst key body) = _ at hlength
      rw [payloadLength, ← hfield] at hlength
      rw [payloadLength]
      split at hlength
      · rename_i hbasic
        obtain ⟨hm, hpos⟩ := Prod.mk.inj (Option.some.inj hlength)
        rw [if_pos hbasic]
        exact ⟨_, _, rfl, by omega⟩
      · rename_i hbasic
        split at hlength
        · rename_i hext
          rw [if_neg hbasic, if_pos hext]
          obtain ⟨hm, hpos⟩ := Prod.mk.inj (Option.some.inj hlength)
          refine ⟨_, _, rfl, ?_⟩
          by_cases hfour : front.length < 4
          · omega
          · rw [hgetD (by omega), hgetD (by omega), hm]
            omega
        · cases hlength
    obtain ⟨m, pos, hparsed, hlt⟩ := hfront'
    have hmasked' : front.getD 1 0 &&& 0x80 ≠ 0 := by
      rw [hfield]
      exact hmasked
    rw [unserializeFrame, if_neg hthree, hparsed]
    simp only [hmasked', ne_eq, not_false_eq_true, if_true]
    rw [if_pos hlt]

/-- A masked frame with the type and the payload of the message passes the round
trip. -/
theorem decodes_maskedFrame {m : WebsocketMessage} {payload : List UInt8}
    (hkey : key.length = 4) (hbody : body.length ≤ payloadSizeExtended)
    (hcapacity : body.length ≤ nCapacity) (htype : frameType nFirst = some m.frameType)
    (hpayload : unmask key body = payload) :
    (∀ rest, unserializeFrame nCapacity (maskedFrame nFirst key body ++ rest) =
      some { nRet := (maskedFrame nFirst key body).length
             eType := m.frameType
             vecBuf := payload }) ∧
      ∀ front, front <+: maskedFrame nFirst key body →
        front ≠ maskedFrame nFirst key body →
          unserializeFrame nCapacity front = some .incomplete := by
  refine ⟨fun rest => ?_, fun front => unserializeFrame_prefix hkey hbody⟩
  rw [unserializeFrame_maskedFrame hkey hbody hcapacity, htype, hpayload]
  cases m <;> rfl

end MaskedFrame

theorem frameType_nFirst (m : WebsocketMessage) :
    frameType m.nFirst = some m.frameType := by
  cases m <;> decide

/-- The first byte of a message may lose its other bits only. -/
theorem frameType_nFirst_xor (m : WebsocketMessage) (k : UInt8) :
    frameType (m.nFirst ^^^ k) = some m.frameType ↔ k &&& m.typeBits = 0 := by
  have hall : ∀ n < 256, frameType (m.nFirst ^^^ UInt8.ofNat n) = some m.frameType ↔
      UInt8.ofNat n &&& m.typeBits = 0 := by
    cases m <;> decide +kernel
  have hk := hall k.toNat k.toNat_lt
  rwa [UInt8.ofNat_toNat] at hk

/-! ## When the round trip works -/

/-- The mask does no harm to the frame it is applied to: either the bytes of the
key that are applied are zero, or the frame is so short that they cancel out. -/
def MaskingKey.Harmless (key : MaskingKey) (m : WebsocketMessage) (n : ℕ) : Prop :=
  (∀ i < n, maskByte key.bytes i = 0) ∨
    (n = 5 ∨ n = 6) ∧ key.k1 = 0 ∧ key.k3 = 0 ∧ key.k0 = key.k2 ∧
      key.k0 &&& m.typeBits = 0

/-- The frames that pass the round trip. -/
def FrameSource.Harmless (nCapacity : ℕ) (m : WebsocketMessage) (n : ℕ) :
    FrameSource → Prop
  | client _ => True
  | serializeFrame false _ => False
  | serializeFrame true key => n + 10 < nCapacity ∧ key.Harmless m n

section Serialize

variable {nCapacity : ℕ} {m : WebsocketMessage} {key : MaskingKey}
  {payload : List UInt8}

theorem MaskingKey.length_bytes (key : MaskingKey) : key.bytes.length = 4 := rfl

theorem maskPrefix_of_zero {zKey : List UInt8} {n : ℕ} {xs : List UInt8}
    (h : ∀ i < n, maskByte zKey i = 0) : maskPrefix zKey n xs = xs := by
  refine List.ext_getElem (by simp) fun i hi hi' => ?_
  simp only [maskPrefix, List.getElem_mapIdx]
  split
  · rename_i hlt
    rw [h i hlt, UInt8.xor_zero]
  · rfl

theorem unmask_of_zero {zKey xs : List UInt8}
    (h : ∀ i < xs.length, maskByte zKey i = 0) : unmask zKey xs = xs := by
  refine List.ext_getElem (by simp) fun i hi hi' => ?_
  simp only [unmask, List.getElem_mapIdx]
  rw [h i hi', UInt8.xor_zero]

/-- A frame of five or six bytes of payload that the mask does not harm. -/
theorem maskPrefix_short (h : payload.length = 5 ∨ payload.length = 6)
    (h1 : key.k1 = 0) (h3 : key.k3 = 0) (h02 : key.k0 = key.k2) :
    maskPrefix key.bytes payload.length (maskedFrame m.nFirst key.bytes payload) =
      maskedFrame (m.nFirst ^^^ key.k0) [0, 0, 0, 0] payload := by
  obtain ⟨k0, k1, k2, k3⟩ := key
  obtain rfl : k1 = 0 := h1
  obtain rfl : k3 = 0 := h3
  obtain rfl : k0 = k2 := h02
  obtain ⟨p0, payload, rfl⟩ := List.exists_cons_of_length_pos
    (by omega : 0 < payload.length)
  obtain ⟨p1, payload, rfl⟩ := List.exists_cons_of_length_pos
    (by simp only [List.length_cons] at h; omega : 0 < payload.length)
  obtain ⟨p2, payload, rfl⟩ := List.exists_cons_of_length_pos
    (by simp only [List.length_cons] at h; omega : 0 < payload.length)
  obtain ⟨p3, payload, rfl⟩ := List.exists_cons_of_length_pos
    (by simp only [List.length_cons] at h; omega : 0 < payload.length)
  obtain ⟨p4, payload, rfl⟩ := List.exists_cons_of_length_pos
    (by simp only [List.length_cons] at h; omega : 0 < payload.length)
  cases payload with
  | nil =>
      simp [maskedFrame, MaskingKey.bytes, maskPrefix, maskByte, lengthBytes,
        payloadSizeBasic]
  | cons p5 payload =>
      obtain rfl : payload = [] := by
        simp only [List.length_cons] at h
        exact List.eq_nil_of_length_eq_zero (by omega)
      simp [maskedFrame, MaskingKey.bytes, maskPrefix, maskByte, lengthBytes,
        payloadSizeBasic]

/-- What `serializeFrame` makes of a masked message. -/
theorem serializeFrame_masked (hlength : payload.length ≤ payloadSizeExtended) :
    (FrameSource.serializeFrame true key).encode nCapacity m payload =
      if payload.length + 10 < nCapacity then
        some (maskPrefix key.bytes payload.length
          (maskedFrame m.nFirst key.bytes payload))
      else
        none := by
  rw [FrameSource.encode, serializeFrame]
  split
  · rename_i hfull
    rw [if_neg (by omega)]
  · rename_i hroom
    rw [if_pos (Nat.lt_of_not_ge hroom)]
    simp [maskedFrame, WebsocketMessage.nFirst]

theorem roundTrips_of_harmless (hlength : payload.length ≤ payloadSizeExtended)
    (hroom : payload.length + 10 < nCapacity)
    (h : key.Harmless m payload.length) :
    RoundTrips nCapacity m payload (.serializeFrame true key) := by
  refine ⟨_, (serializeFrame_masked hlength).trans (if_pos hroom), ?_⟩
  rcases h with hzero | ⟨hshort, h1, h3, h02, htype⟩
  · rw [maskPrefix_of_zero hzero]
    exact decodes_maskedFrame key.length_bytes hlength (by omega)
      (frameType_nFirst m) (unmask_of_zero hzero)
  · rw [maskPrefix_short hshort h1 h3 h02]
    refine decodes_maskedFrame rfl hlength (by omega)
      ((frameType_nFirst_xor m key.k0).mpr htype) (unmask_of_zero fun i _ => ?_)
    have hi : i % 4 = 0 ∨ i % 4 = 1 ∨ i % 4 = 2 ∨ i % 4 = 3 := by omega
    rw [maskByte]
    rcases hi with hi | hi | hi | hi <;> rw [hi] <;> rfl

/-! ## When it does not -/

/-- What a frame with a payload says about its layout. -/
theorem exists_of_unserializeFrame {bytes : List UInt8} {eType : EWebsocketFrameType}
    (h : unserializeFrame nCapacity bytes =
      some { nRet := bytes.length, eType, vecBuf := payload })
    (hpayload : payload ≠ []) :
    ∃ nPos, payloadLength bytes = some (payload.length, nPos) ∧
      bytes.getD 1 0 &&& 0x80 ≠ 0 ∧ bytes.length = payload.length + nPos + 4 ∧
      frameType (bytes.getD 0 0) = some eType ∧
      payload = unmask ((bytes.drop nPos).take 4) (bytes.drop (nPos + 4)) := by
  rw [unserializeFrame] at h
  split at h
  · exact absurd (congrArg WebsocketFrame.vecBuf (Option.some.inj h)).symm hpayload
  · rename_i hthree
    split at h
    · cases h
    · rename_i n nPos hlength
      by_cases hmasked : bytes.getD 1 0 &&& 0x80 ≠ 0
      · simp only [hmasked, ne_eq, not_false_eq_true, if_true, true_and] at h
        split at h
        · exact absurd (congrArg WebsocketFrame.vecBuf (Option.some.inj h)).symm hpayload
        · rename_i hsize
          split at h
          · cases h
          · obtain ⟨eType', htype, hframe⟩ := Option.map_eq_some_iff.mp h
            obtain ⟨hret, rfl, hbuf⟩ := WebsocketFrame.mk.inj hframe
            have hconsumed : n + nPos + 4 = bytes.length := by
              cases eType' with
              | incompleteFrame | incompleteTextFrame | incompleteBinaryFrame =>
                  have hzero : 0 = bytes.length := hret
                  omega
              | textFrame | binaryFrame | closeFrame | pingFrame | pongFrame =>
                  exact hret
            split at hbuf
            · have htake : (bytes.drop (nPos + 4)).take n = bytes.drop (nPos + 4) := by
                rw [List.take_of_length_le]
                rw [List.length_drop]
                omega
              rw [htake] at hbuf
              have hn : payload.length = n := by
                rw [← hbuf, length_unmask, List.length_drop]
                omega
              rw [hn]
              exact ⟨nPos, hlength, hmasked, hconsumed.symm, htype, hbuf.symm⟩
            · exact absurd hbuf.symm hpayload
      · simp only [hmasked, if_false, false_and] at h
        split at h
        · exact absurd (congrArg WebsocketFrame.vecBuf (Option.some.inj h)).symm hpayload
        · split at h
          · cases h
          · obtain ⟨eType', -, hframe⟩ := Option.map_eq_some_iff.mp h
            exact absurd (WebsocketFrame.mk.inj hframe).2.2.symm hpayload

/-- A frame without a mask is decoded without its payload, and a frame of two bytes
is never complete. -/
theorem not_roundTrips_unmasked :
    ¬ RoundTrips nCapacity m payload (.serializeFrame false key) := by
  rintro ⟨bytes, hbytes, hdecode, -⟩
  have hdecode := hdecode []
  rw [List.append_nil] at hdecode
  rw [FrameSource.encode, RealtimeEx.Core.serializeFrame] at hbytes
  split at hbytes
  · cases hbytes
  · split at hbytes
    · obtain rfl := Option.some.inj hbytes
      cases payload with
      | nil =>
          simp [unserializeFrame, lengthBytes, payloadSizeBasic,
            WebsocketFrame.incomplete] at hdecode
      | cons p payload =>
          obtain ⟨nPos, -, hmasked, -⟩ :=
            exists_of_unserializeFrame hdecode (List.cons_ne_nil p payload)
          refine hmasked ?_
          generalize (p :: payload).length = n
          show (lengthBytes false n ++ _).getD 0 0 &&& 0x80 = 0
          rw [lengthBytes]
          split
          · rename_i hsmall
            simp only [payloadSizeBasic] at hsmall
            exact maskBit_unmasked (by omega)
          · show (0 ||| 126 : UInt8) &&& 0x80 = 0
            decide
    · cases hbytes

/-- The byte that the mask applies at a position of the buffer. -/
def MaskingKey.applied (key : MaskingKey) (n j : ℕ) : UInt8 :=
  if j < n then maskByte key.bytes j else 0

theorem lengthEnd_eq (n : ℕ) : lengthEnd n = if n ≤ payloadSizeBasic then 2 else 4 := by
  rw [lengthEnd, length_lengthBytes]
  split <;> rfl

theorem getD_maskedFrame_body {nFirst : UInt8} {zKey body : List UInt8}
    (hkey : zKey.length = 4) (i : ℕ) :
    (maskedFrame nFirst zKey body).getD (lengthEnd body.length + 4 + i) 0 =
      body.getD i 0 := by
  have hpos : lengthEnd body.length + 4 + i =
      ((nFirst :: lengthBytes true body.length) ++ zKey).length + i := by
    simp only [List.length_append, List.length_cons, lengthEnd, hkey]
    omega
  have hframe : maskedFrame nFirst zKey body =
      ((nFirst :: lengthBytes true body.length) ++ zKey) ++ body := by
    simp [maskedFrame]
  rw [hpos, hframe, List.getD_eq_getElem?_getD, List.getD_eq_getElem?_getD,
    List.getElem?_append_right (Nat.le_add_right _ i), Nat.add_sub_cancel_left]

theorem getD_maskedFrame_key {nFirst : UInt8} {zKey body : List UInt8} {i : ℕ}
    (hi : i < zKey.length) :
    (maskedFrame nFirst zKey body).getD (lengthEnd body.length + i) 0 =
      zKey.getD i 0 := by
  have hpos : lengthEnd body.length + i =
      (nFirst :: lengthBytes true body.length).length + i := by
    simp only [List.length_cons, lengthEnd]
    omega
  have hframe : maskedFrame nFirst zKey body =
      (nFirst :: lengthBytes true body.length) ++ (zKey ++ body) := by
    simp [maskedFrame]
  rw [hpos, hframe, List.getD_eq_getElem?_getD, List.getD_eq_getElem?_getD,
    List.getElem?_append_right (Nat.le_add_right _ i), Nat.add_sub_cancel_left,
    List.getElem?_append_left hi]

/-- A byte with the bit for the mask is known by its other bits. -/
theorem eq_of_lengthField {a b : UInt8} (ha : a &&& 0x80 ≠ 0) (hb : b &&& 0x80 ≠ 0)
    (hab : (a &&& 0x7F).toNat = (b &&& 0x7F).toNat) : a = b := by
  have hall : ∀ n < 256, UInt8.ofNat n &&& 0x80 ≠ 0 →
      UInt8.ofNat n = 0x80 ||| UInt8.ofNat n &&& 0x7F := by
    decide +kernel
  have hbit {c : UInt8} (hc : c &&& 0x80 ≠ 0) : c = 0x80 ||| c &&& 0x7F := by
    have h := hall c.toNat c.toNat_lt
    rw [UInt8.ofNat_toNat] at h
    exact h hc
  rw [hbit ha, hbit hb, UInt8.toNat_inj.mp hab]

theorem eq_xor_of_eq {p a k b : UInt8} (h : p = (p ^^^ a) ^^^ (k ^^^ b)) :
    k = a ^^^ b := by
  have hcancel : p ^^^ 0 = p ^^^ (a ^^^ (k ^^^ b)) := by
    rw [UInt8.xor_zero, ← UInt8.xor_assoc]
    exact h
  have hab : a = k ^^^ b :=
    UInt8.xor_eq_zero_iff.mp ((UInt8.xor_right_inj p).mp hcancel).symm
  rw [hab, UInt8.xor_assoc, UInt8.xor_self, UInt8.xor_zero]

/-- If a masked frame is decoded to its payload, the bytes that the mask applies to
the payload and to the key cancel out. -/
theorem maskByte_eq_applied {bytes : List UInt8}
    (hbytes : bytes = maskPrefix key.bytes payload.length
      (maskedFrame m.nFirst key.bytes payload))
    (hpayload : payload = unmask ((bytes.drop (lengthEnd payload.length)).take 4)
      (bytes.drop (lengthEnd payload.length + 4))) {i : ℕ} (hi : i < payload.length) :
    maskByte key.bytes i = key.applied payload.length (lengthEnd payload.length + 4 + i) ^^^
      key.applied payload.length (lengthEnd payload.length + i % 4) := by
  have hmod : i % 4 < 4 := Nat.mod_lt i (by omega)
  have hlength : (maskedFrame m.nFirst key.bytes payload).length = _ :=
    length_maskedFrame key.length_bytes
  have hlength' : bytes.length = payload.length + lengthEnd payload.length + 4 := by
    rw [hbytes, length_maskPrefix, hlength]
  have hgetD {j : ℕ} (hj : j < bytes.length) : bytes.getD j 0 =
      (maskedFrame m.nFirst key.bytes payload).getD j 0 ^^^
        key.applied payload.length j := by
    rw [hbytes, length_maskPrefix] at hj
    rw [hbytes, getD_maskPrefix _ _ _ hj]
    rfl
  have hbody : (bytes.drop (lengthEnd payload.length + 4)).getD i 0 =
      payload.getD i 0 ^^^
        key.applied payload.length (lengthEnd payload.length + 4 + i) := by
    rw [List.getD_eq_getElem?_getD, List.getElem?_drop, ← List.getD_eq_getElem?_getD,
      hgetD (by omega), getD_maskedFrame_body key.length_bytes]
  have hkey : maskByte ((bytes.drop (lengthEnd payload.length)).take 4) i =
      maskByte key.bytes i ^^^
        key.applied payload.length (lengthEnd payload.length + i % 4) := by
    rw [maskByte, List.getD_eq_getElem?_getD, List.getElem?_take_of_lt hmod,
      List.getElem?_drop, ← List.getD_eq_getElem?_getD, hgetD (by omega),
      getD_maskedFrame_key hmod]
    rfl
  refine eq_xor_of_eq (p := payload.getD i 0) ?_
  rw [← hbody, ← hkey, ← getD_unmask _ _ (by rw [List.length_drop]; omega), ← hpayload]

/-- If a masked frame has the header of its message, its second byte is not
changed. -/
theorem k1_eq_zero {bytes : List UInt8}
    (hbytes : bytes = maskPrefix key.bytes payload.length
      (maskedFrame m.nFirst key.bytes payload))
    (hsmall : payload.length ≤ payloadSizeBasic) (htwo : 2 ≤ payload.length)
    (hlength : payloadLength bytes = some (payload.length, 2))
    (hmasked : bytes.getD 1 0 &&& 0x80 ≠ 0) : key.k1 = 0 := by
  have hextended : payload.length ≤ payloadSizeExtended := by
    simp only [payloadSizeBasic, payloadSizeExtended] at *
    omega
  obtain ⟨hlengthF, hmaskedF⟩ := payloadLength_lengthBytes m.nFirst hextended
    (key.bytes ++ payload)
  rw [lengthEnd_eq, if_pos hsmall] at hlengthF
  have hfield {xs : List UInt8} (h : payloadLength xs = some (payload.length, 2)) :
      (xs.getD 1 0 &&& 0x7F).toNat = payload.length := by
    rw [payloadLength] at h
    split at h
    · exact (Prod.mk.inj (Option.some.inj h)).1
    · split at h
      · exact absurd (Prod.mk.inj (Option.some.inj h)).2 (by decide)
      · cases h
  have heq : bytes.getD 1 0 = (maskedFrame m.nFirst key.bytes payload).getD 1 0 :=
    eq_of_lengthField hmasked hmaskedF ((hfield hlength).trans (hfield hlengthF).symm)
  have hone : 1 < (maskedFrame m.nFirst key.bytes payload).length := by
    rw [length_maskedFrame key.length_bytes]
    omega
  rw [hbytes, getD_maskPrefix _ _ _ hone, if_pos (by omega)] at heq
  have hxor : (maskedFrame m.nFirst key.bytes payload).getD 1 0 ^^^ key.k1 =
      (maskedFrame m.nFirst key.bytes payload).getD 1 0 ^^^ 0 := by
    rw [UInt8.xor_zero]
    exact heq
  exact (UInt8.xor_right_inj _).mp hxor

theorem maskByte_eq_zero (h0 : key.k0 = 0) (h1 : key.k1 = 0) (h2 : key.k2 = 0)
    (h3 : key.k3 = 0) (i : ℕ) : maskByte key.bytes i = 0 := by
  have hi : i % 4 = 0 ∨ i % 4 = 1 ∨ i % 4 = 2 ∨ i % 4 = 3 := by omega
  rw [maskByte]
  rcases hi with hi | hi | hi | hi <;> rw [hi]
  · exact h0
  · exact h1
  · exact h2
  · exact h3

/-- The bytes that the mask applies to a short frame cancel out only as stated. -/
theorem harmless_of_small {n : ℕ} (hpos : 0 < n)
    (hk : ∀ i < n, maskByte key.bytes i =
      key.applied n (6 + i) ^^^ key.applied n (2 + i % 4))
    (hk1 : 2 ≤ n → key.k1 = 0) (htype : key.k0 &&& m.typeBits = 0) :
    key.Harmless m n := by
  have hk0 : key.k0 = key.applied n 6 ^^^ key.applied n 2 := hk 0 hpos
  have happlied {j : ℕ} (hj : j < n) : key.applied n j = maskByte key.bytes j :=
    if_pos hj
  have happlied' {j : ℕ} (hj : n ≤ j) : key.applied n j = 0 :=
    if_neg (by omega)
  by_cases hfour : n ≤ 4
  · -- Nothing is applied behind the key, and of the key only its first half.
    rw [happlied' (by omega), UInt8.zero_xor] at hk0
    have hk2 (h : 2 < n) : key.k2 = 0 := by
      have h2 : key.k2 = key.applied n 8 ^^^ key.applied n 4 := hk 2 h
      rw [h2, happlied' (by omega), happlied' (by omega), UInt8.xor_self]
    have hk0' : key.k0 = 0 := by
      by_cases h : 2 < n
      · rw [hk0, happlied h]
        exact hk2 h
      · rw [hk0, happlied' (by omega)]
    refine .inl fun i hi => ?_
    have hcases : i = 0 ∨ i = 1 ∨ i = 2 ∨ i = 3 := by omega
    rcases hcases with rfl | rfl | rfl | rfl
    · exact hk0'
    · exact hk1 (by omega)
    · exact hk2 hi
    · have h3 : key.k3 = key.applied n 9 ^^^ key.applied n 5 := hk 3 hi
      rw [happlied' (by omega), happlied' (by omega), UInt8.xor_self] at h3
      exact h3
  · have h1 : key.k1 = 0 := hk1 (by omega)
    have h2 : key.k2 = key.applied n 8 ^^^ key.applied n 4 := hk 2 (by omega)
    have h3 : key.k3 = key.applied n 9 ^^^ key.applied n 5 := hk 3 (by omega)
    have h4 : key.applied n 4 = key.k0 := happlied (by omega)
    have h5 : key.applied n 5 = 0 := by
      by_cases h : 5 < n
      · rw [happlied h]
        exact h1
      · exact happlied' (by omega)
    have h9 : key.applied n 9 = 0 := by
      by_cases h : 9 < n
      · rw [happlied h]
        exact h1
      · exact happlied' (by omega)
    rw [h9, h5, UInt8.xor_self] at h3
    by_cases hsix : n ≤ 6
    · rw [happlied' (by omega), h4, UInt8.zero_xor] at h2
      exact .inr ⟨by omega, h1, h3, h2.symm, htype⟩
    · -- The key and the payload lose the same byte.
      have h6 : key.applied n 6 = key.k2 := happlied (by omega)
      have h2' : key.applied n 2 = key.k2 := happlied (by omega)
      rw [h6, h2', UInt8.xor_self] at hk0
      have h8 : key.applied n 8 = 0 := by
        by_cases h : 8 < n
        · rw [happlied h]
          exact hk0
        · exact happlied' (by omega)
      rw [h8, h4, hk0, UInt8.xor_self] at h2
      exact .inl fun i _ => maskByte_eq_zero hk0 h1 h2 h3 i

/-- The bytes that the mask applies to a longer frame cancel out only if the key is
zero. -/
theorem harmless_of_large {n : ℕ} (hlarge : 12 ≤ n)
    (hk : ∀ i < n, maskByte key.bytes i =
      key.applied n (8 + i) ^^^ key.applied n (4 + i % 4)) :
    key.Harmless m n := by
  have hzero {i : ℕ} (hi : i < 4) : maskByte key.bytes i = 0 := by
    have happlied {j : ℕ} (hj : j < n) : key.applied n j = maskByte key.bytes j :=
      if_pos hj
    have hperiod (d : ℕ) (hd : d % 4 = 0) :
        maskByte key.bytes (d + i) = maskByte key.bytes i := by
      rw [maskByte, maskByte, Nat.add_mod, hd, Nat.zero_add, Nat.mod_mod]
    rw [hk i (by omega), Nat.mod_eq_of_lt hi, happlied (by omega), happlied (by omega),
      hperiod 8 rfl, hperiod 4 rfl, UInt8.xor_self]
  exact .inl fun i _ => maskByte_eq_zero (hzero (i := 0) (by decide))
    (hzero (i := 1) (by decide)) (hzero (i := 2) (by decide))
    (hzero (i := 3) (by decide)) i

/-- The only frames of `serializeFrame` that pass the round trip are masked frames
that the mask does not harm. -/
theorem harmless_of_roundTrips (hlength : payload.length ≤ payloadSizeExtended)
    (h : RoundTrips nCapacity m payload (.serializeFrame true key)) :
    payload.length + 10 < nCapacity ∧ key.Harmless m payload.length := by
  obtain ⟨bytes, hbytes, hdecode, -⟩ := h
  rw [serializeFrame_masked hlength] at hbytes
  split at hbytes
  · rename_i hroom
    refine ⟨hroom, ?_⟩
    obtain rfl := Option.some.inj hbytes
    have hdecode := hdecode []
    rw [List.append_nil] at hdecode
    by_cases hempty : payload = []
    · refine .inl fun i hi => ?_
      rw [hempty] at hi
      exact absurd hi (Nat.not_lt_zero i)
    · obtain ⟨nPos, hparsed, hmasked, hsize, htype, hpayload⟩ :=
        exists_of_unserializeFrame hdecode hempty
      have hpos := List.length_pos_iff.mpr hempty
      rw [length_maskPrefix, length_maskedFrame key.length_bytes] at hsize
      obtain rfl : nPos = lengthEnd payload.length := by omega
      have hk := fun i hi => maskByte_eq_applied (i := i) rfl hpayload hi
      by_cases hsmall : payload.length ≤ payloadSizeBasic
      · have hend : lengthEnd payload.length = 2 := by rw [lengthEnd_eq, if_pos hsmall]
        rw [hend] at hk hparsed
        refine harmless_of_small hpos hk
          (fun htwo => k1_eq_zero rfl hsmall htwo hparsed hmasked) ?_
        have hfirst : (maskPrefix key.bytes payload.length
            (maskedFrame m.nFirst key.bytes payload)).getD 0 0 = m.nFirst ^^^ key.k0 := by
          rw [getD_maskPrefix _ _ _ (Nat.succ_pos _), if_pos hpos]
          rfl
        rw [hfirst] at htype
        exact (frameType_nFirst_xor m key.k0).mp htype
      · have hend : lengthEnd payload.length = 4 := by rw [lengthEnd_eq, if_neg hsmall]
        rw [hend] at hk
        simp only [payloadSizeBasic] at hsmall
        exact harmless_of_large (by omega) hk
  · cases hbytes

end Serialize

/-- A message of at most 65535 bytes passes the round trip if and only if it comes
from a client, or from `serializeFrame` with a mask that does no harm and room in
the buffer.  The buffer has the capacity that was reserved for it, or more. -/
theorem roundTrips_frame_iff {nCapacity : ℕ} (m : WebsocketMessage)
    {payload : List UInt8} (source : FrameSource)
    (hlength : payload.length ≤ payloadSizeExtended)
    (hcapacity : payloadSizeExtended ≤ nCapacity) :
    RoundTrips nCapacity m payload source ↔
      source.Harmless nCapacity m payload.length := by
  cases source with
  | client key =>
      refine iff_of_true ⟨_, rfl, ?_⟩ trivial
      have hframe : clientFrame m key payload =
          maskedFrame m.nFirst key.bytes (unmask key.bytes payload) := by
        simp [clientFrame, maskedFrame]
      rw [hframe]
      refine decodes_maskedFrame key.length_bytes ?_ ?_ (frameType_nFirst m)
        (unmask_unmask key.bytes payload)
      · rwa [length_unmask]
      · rw [length_unmask]
        omega
  | serializeFrame bMasked key =>
      cases bMasked with
      | false => exact iff_of_false not_roundTrips_unmasked id
      | true =>
          exact ⟨harmless_of_roundTrips hlength,
            fun h => roundTrips_of_harmless hlength h.1 h.2⟩

/-- A masked text frame of a client. -/
theorem roundTrips_frame_iff_client :
    RoundTrips payloadSizeExtended .text [72, 105] (.client ⟨1, 2, 3, 4⟩) ↔
      (FrameSource.client ⟨1, 2, 3, 4⟩).Harmless payloadSizeExtended .text 2 :=
  roundTrips_frame_iff .text (.client ⟨1, 2, 3, 4⟩) (by decide) (Nat.le_refl _)

/-- The bytes `Hi` in a text frame, without a mask or with the key `1 2 3 4`. -/
theorem not_roundTrips_hi :
    ¬ RoundTrips payloadSizeExtended .text [72, 105] (.serializeFrame false ⟨0, 0, 0, 0⟩) ∧
      ¬ RoundTrips payloadSizeExtended .text [72, 105]
        (.serializeFrame true ⟨1, 2, 3, 4⟩) := by
  refine ⟨not_roundTrips_unmasked, ?_⟩
  rintro ⟨bytes, hbytes, hdecode, -⟩
  have hencoded : (FrameSource.serializeFrame true ⟨1, 2, 3, 4⟩).encode
      payloadSizeExtended .text [72, 105] = some [0x80, 0x80, 1, 2, 3, 4, 72, 105] := by
    decide
  obtain rfl := Option.some.inj (hencoded.symm.trans hbytes)
  have hempty : unserializeFrame payloadSizeExtended [0x80, 0x80, 1, 2, 3, 4, 72, 105] =
      some { nRet := 6, eType := .textFrame, vecBuf := [] } := by
    decide
  have hframe := (hdecode []).symm.trans hempty
  cases Option.some.inj hframe

end RealtimeEx.Core
