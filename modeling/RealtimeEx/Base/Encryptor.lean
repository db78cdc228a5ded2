import RealtimeEx.Base.BufFile
import RealtimeEx.Support.Transducer

/-!
# `CEncryptor`

A stream is combined with two key buffers, a byte at a time.  The second buffer moves on
when the first one has been used up.
-/

namespace RealtimeEx.Base

/-- The arguments of `initWithKey`. -/
structure EncryptKey where
  a1 : UInt8
  b1 : UInt8
  c1 : UInt8
  x1 : UInt8
  a2 : UInt8
  b2 : UInt8
  c2 : UInt8
  x2 : UInt8

/-- `nKeyBufSize`. -/
def nKeyBufSize : ℕ := 256

instance : NeZero nKeyBufSize := ⟨by decide⟩

/-- `CEncryptor`. -/
structure CEncryptor where
  bInit : Bool := false
  nPos1 : Fin nKeyBufSize := 0
  nPos2 : Fin nKeyBufSize := 0
  zEncryptKey1 : Fin nKeyBufSize → UInt8 := fun _ => 0
  zEncryptKey2 : Fin nKeyBufSize → UInt8 := fun _ => 0

/-- The next code of a key buffer. -/
def nextCode (a b c nCode : UInt8) : UInt8 :=
  UInt8.ofNat ((a.toNat * nCode.toNat * nCode.toNat + b.toNat * nCode.toNat + c.toNat) %
    nKeyBufSize)

/-- A key buffer is filled. -/
def keyBuf (a b c x : UInt8) (i : Fin nKeyBufSize) : UInt8 := (nextCode a b c)^[i] x

/-- `++nPos`, and whether it has come to the end of the buffer. -/
def nextPos (nPos : Fin nKeyBufSize) : Fin nKeyBufSize × Bool :=
  if h : nPos.val + 1 < nKeyBufSize then (⟨nPos.val + 1, h⟩, false) else (0, true)

namespace CEncryptor

variable (encryptor : CEncryptor)

/-- `initWithKey`.  Nothing is left of the encryptor as it was. -/
def initWithKey (_ : CEncryptor) (key : EncryptKey) : CEncryptor where
  bInit := true
  nPos1 := 0
  nPos2 := 0
  zEncryptKey1 := keyBuf key.a1 key.b1 key.c1 key.x1
  zEncryptKey2 := keyBuf key.a2 key.b2 key.c2 key.x2

/-- The positions move on by one byte. -/
def advance : CEncryptor :=
  let (nPos1, bEnd) := nextPos encryptor.nPos1
  if bEnd then
    { encryptor with nPos1, nPos2 := (nextPos encryptor.nPos2).1 }
  else
    { encryptor with nPos1 }

/-- The loop of `encrypt` for one byte. -/
def encryptByte (c : UInt8) : UInt8 × CEncryptor :=
  (c ^^^ encryptor.zEncryptKey1 encryptor.nPos1 ^^^ encryptor.zEncryptKey2 encryptor.nPos2,
    encryptor.advance)

/-- `encrypt`. -/
def encrypt (szBuf : StdString) : StdString × CEncryptor :=
  if encryptor.bInit then transduce encryptByte encryptor szBuf else (szBuf, encryptor)

/-- `decrypt`. -/
def decrypt (szBuf : StdString) : StdString × CEncryptor :=
  if encryptor.bInit then encryptor.encrypt szBuf else (szBuf, encryptor)

/-- One call of `encrypt` for each chunk. -/
def encryptChunks : CEncryptor → List StdString → List StdString × CEncryptor
  | encryptor, [] => ([], encryptor)
  | encryptor, szBuf :: chunks =>
      let (szEncrypted, next) := encryptor.encrypt szBuf
      let (rest, last) := next.encryptChunks chunks
      (szEncrypted :: rest, last)

/-- One call of `decrypt` for each chunk. -/
def decryptChunks : CEncryptor → List StdString → List StdString × CEncryptor
  | encryptor, [] => ([], encryptor)
  | encryptor, szBuf :: chunks =>
      let (szDecrypted, next) := encryptor.decrypt szBuf
      let (rest, last) := next.decryptChunks chunks
      (szDecrypted :: rest, last)

/-! ## The stream -/

variable {encryptor}

theorem bInit_advance : encryptor.advance.bInit = encryptor.bInit := by
  unfold advance
  dsimp only
  split
  · rfl
  · rfl

theorem xor_xor_cancel (c k k' : UInt8) : c ^^^ k ^^^ k' ^^^ k ^^^ k' = c := by
  calc c ^^^ k ^^^ k' ^^^ k ^^^ k'
      = c ^^^ k ^^^ k ^^^ k' ^^^ k' := by
        rw [UInt8.xor_assoc (c ^^^ k), UInt8.xor_comm k' k, ← UInt8.xor_assoc]
    _ = c ^^^ k ^^^ k := by rw [UInt8.xor_assoc _ k' k', UInt8.xor_self, UInt8.xor_zero]
    _ = c := by rw [UInt8.xor_assoc, UInt8.xor_self, UInt8.xor_zero]

/-- The positions move whatever the byte is, and the same bits are flipped twice. -/
theorem encryptByte_encryptByte (encryptor : CEncryptor) (c : UInt8) :
    encryptor.encryptByte (encryptor.encryptByte c).1 = (c, (encryptor.encryptByte c).2) := by
  simp only [encryptByte, Prod.mk.injEq, and_true]
  exact xor_xor_cancel c _ _

theorem bInit_transduce (szBuf : StdString) :
    (transduce encryptByte encryptor szBuf).2.bInit = encryptor.bInit := by
  induction szBuf generalizing encryptor with
  | nil => rfl
  | cons c szBuf ih =>
      rw [transduce]
      exact ih.trans bInit_advance

theorem decrypt_eq (szBuf : StdString) : encryptor.decrypt szBuf = encryptor.encrypt szBuf := by
  unfold decrypt encrypt
  split
  · rfl
  · rfl

theorem encryptChunks_eq (hinit : encryptor.bInit = true) (chunks : List StdString) :
    encryptor.encryptChunks chunks = transduceChunks encryptByte encryptor chunks := by
  induction chunks generalizing encryptor with
  | nil => rfl
  | cons szBuf chunks ih =>
      have hcall : encryptor.encrypt szBuf = transduce encryptByte encryptor szBuf :=
        if_pos hinit
      rw [encryptChunks, hcall, transduceChunks]
      dsimp only
      rw [ih ((bInit_transduce szBuf).trans hinit)]

theorem decryptChunks_eq (chunks : List StdString) :
    encryptor.decryptChunks chunks = encryptor.encryptChunks chunks := by
  induction chunks generalizing encryptor with
  | nil => rfl
  | cons szBuf chunks ih =>
      rw [decryptChunks, encryptChunks, decrypt_eq]
      dsimp only
      rw [ih]

/-- However a stream is cut for encrypting, and however what comes out is cut for
decrypting, an encryptor with the same key gives the stream back. -/
theorem decryptChunks_encryptChunks (key : EncryptKey) (sender receiver : CEncryptor)
    (chunks received : List StdString)
    (hstream : received.flatten = ((sender.initWithKey key).encryptChunks chunks).1.flatten) :
    ((receiver.initWithKey key).decryptChunks received).1.flatten = chunks.flatten := by
  have hsame : receiver.initWithKey key = sender.initWithKey key := rfl
  rw [decryptChunks_eq, hsame, encryptChunks_eq rfl, (transduceChunks_eq _ _).1, hstream,
    encryptChunks_eq rfl, (transduceChunks_eq _ _).1,
    transduce_inverse encryptByte_encryptByte]

/-- Three bytes are sent as two and one, and received as one and two. -/
theorem decryptChunks_encryptChunks_three :
    ((initWithKey {} ⟨3, 5, 7, 11, 13, 17, 19, 23⟩).decryptChunks [[29], [188, 19]]).1.flatten =
      [[1, 2], [3]].flatten :=
  decryptChunks_encryptChunks ⟨3, 5, 7, 11, 13, 17, 19, 23⟩ {} {} [[1, 2], [3]]
    [[29], [188, 19]] (by decide)

end CEncryptor

end RealtimeEx.Base
