import Mathlib.Tactic.IntervalCases
import RealtimeEx.Base.Base64
import RealtimeEx.Base.Sha1
import RealtimeEx.Core.CoreWebsocketConnection

/-!
# The key of the answer that opens a websocket

`handshark` answers with the base64 text of the SHA-1 digest of the client's key and the magic
string, both of them computed by the library of the engine.
-/

namespace RealtimeEx.Core

open Base

/-- `hton32`. -/
def hton32 (x : UInt32) : UInt32 :=
  (x <<< 24) ||| ((x &&& 0x0000ff00) <<< 8) ||| ((x &&& 0x00ff0000) >>> 8) ||| (x >>> 24)

/-- `zMessageDigest` in memory, behind the loop of `handshark`. -/
def digestBytes (zMessageDigest : Sha1Words) : List UInt8 :=
  leBytes 4 (hton32 zMessageDigest.a).toNat ++ leBytes 4 (hton32 zMessageDigest.b).toNat ++
    leBytes 4 (hton32 zMessageDigest.c).toNat ++ leBytes 4 (hton32 zMessageDigest.d).toNat ++
    leBytes 4 (hton32 zMessageDigest.e).toNat

/-- The C string in `szBuf`; `none` if `handshark` returns `false`.  The size of the key is a
`uint32_t`. -/
def acceptKey? (szServerKey : StdString) : Option StdString := do
  let zMessageDigest ←
    (CSHA1.reset.write (szServerKey.take (szServerKey.length % 2 ^ 32))).result.1
  let (nSize, szBuf) :=
    Base64.encode (some (digestBytes zMessageDigest)) (some (List.replicate 256 0))
  if nSize < 0 then none else szBuf.map (·.takeWhile (· ≠ 0))

def acceptKey (szServerKey : StdString) : StdString := (acceptKey? szServerKey).getD []

/-! ## The digest -/

/-- The digest of a message as bytes, the highest byte of a word first. -/
def sha1Bytes (message : List UInt8) : List UInt8 :=
  let w := CSHA1.sha1 message
  CSHA1.octets w.a ++ CSHA1.octets w.b ++ CSHA1.octets w.c ++ CSHA1.octets w.d ++
    CSHA1.octets w.e

/-- The bytes of a word in memory, the lowest one first. -/
theorem leBytes_toNat (x : UInt32) :
    leBytes 4 x.toNat =
      [x.toUInt8, (x >>> 8).toUInt8, (x >>> 16).toUInt8, (x >>> 24).toUInt8] := by
  have hx := x.toNat_lt
  have h24 : (24 : UInt32).toNat % 32 = 24 := rfl
  have h16 : (16 : UInt32).toNat % 32 = 16 := rfl
  have h8 : (8 : UInt32).toNat % 32 = 8 := rfl
  simp only [leBytes, List.cons.injEq, and_true, ← UInt8.toNat_inj, UInt32.toNat_toUInt8,
    UInt32.toNat_shiftRight, UInt8.toNat_ofNat', Nat.shiftRight_eq_div_pow]
  rw [h24, h16, h8]
  refine ⟨trivial, ?_, ?_, ?_⟩ <;> omega

theorem leBytes_hton32 (x : UInt32) : leBytes 4 (hton32 x).toNat = CSHA1.octets x := by
  rw [leBytes_toNat, CSHA1.octets]
  simp only [List.cons.injEq, and_true, ← UInt8.toBitVec_inj]
  refine ⟨?_, ?_, ?_, ?_⟩ <;>
    (ext i hi
     simp only [hton32]
     interval_cases i <;> simp)

theorem digestBytes_sha1 (message : List UInt8) :
    digestBytes (CSHA1.sha1 message) = sha1Bytes message := by
  simp only [digestBytes, sha1Bytes, leBytes_hton32]

theorem length_sha1Bytes (message : List UInt8) : (sha1Bytes message).length = 20 := rfl

/-- A message of less than 2^32 bytes is not too long. -/
theorem result_write {message : List UInt8} (h : message.length < 2 ^ 32) :
    (CSHA1.reset.write message).result.1 = some (CSHA1.sha1 message) := by
  have hwrite := CSHA1.Represents.write (m := .growing []) CSHA1.Holds.reset message
  have hresult := hwrite.result.1
  have hgrowing : (Sha1Message.growing []).write message = .growing message := by
    rw [Sha1Message.write]
    split
    · rename_i hnil
      rw [hnil]
    · exact if_pos (by rw [List.length_nil]; omega)
  rw [hresult, hgrowing, Sha1Message.result]

/-! ## The text -/

/-- The text has no byte that would end it as a C string. -/
theorem ne_zero_of_mem_encodeText {data : StdString} :
    ∀ c ∈ Base64.encodeText data, c ≠ 0 := by
  obtain ⟨groups, tail, rfl, hgroups, htail⟩ := exists_groups (n := 3) (by decide) data
  intro c hc
  rw [Base64.encodeText_eq hgroups htail] at hc
  obtain hchar | hpadding := List.mem_append.mp hc
  · obtain ⟨i, hi, rfl⟩ := List.mem_map.mp hchar
    have hread := Base64.decodable_charAt i (Base64.toNat_digits groups tail i hi)
    intro hzero
    rw [hzero] at hread
    exact absurd hread (by decide)
  · rw [List.eq_of_mem_replicate hpadding]
    decide

/-- `handshark` computes the key for every request. -/
theorem acceptKey?_eq (szServerKey : StdString) :
    acceptKey? szServerKey = some (Base64.encodeText
      (sha1Bytes (szServerKey.take (szServerKey.length % 2 ^ 32)))) := by
  have hsize : (szServerKey.take (szServerKey.length % 2 ^ 32)).length < 2 ^ 32 := by
    rw [List.length_take]
    omega
  rw [acceptKey?]
  generalize szServerKey.take (szServerKey.length % 2 ^ 32) = message at hsize ⊢
  have hlength : (Base64.encodeText (sha1Bytes message)).length = 28 := by
    rw [Base64.length_encodeText, length_sha1Bytes]
    rfl
  have hne : Base64.encodeText (sha1Bytes message) ≠ [] :=
    Base64.encodeText_ne_nil (List.ne_nil_of_length_pos (by rw [length_sha1Bytes]; decide))
  have hroom : (Base64.encodeText (sha1Bytes message)).length ≤
      (List.replicate 256 (0 : UInt8)).length := by
    rw [hlength, List.length_replicate]
    decide
  -- the zeros behind the text end it
  have hcStr : (Base64.encodeText (sha1Bytes message) ++
      (List.replicate 256 0).drop (Base64.encodeText (sha1Bytes message)).length).takeWhile
        (· ≠ (0 : UInt8)) = Base64.encodeText (sha1Bytes message) := by
    rw [hlength, List.takeWhile_append_of_pos
      fun c hc => decide_eq_true (ne_zero_of_mem_encodeText c hc)]
    exact List.append_nil _
  rw [result_write hsize]
  simp only [Option.bind_eq_bind, Option.bind_some, digestBytes_sha1, Base64.encode,
    Base64.copyOut_of_room hne hroom, Option.map_some, hcStr]
  rw [hlength]
  rfl

example : acceptKey (ascii "dGhlIHNhbXBsZSBub25jZQ==" ++ webSocketMagic) =
    ascii "s3pPLMBiTxaQ9kYGzzhZRbK+xOo=" := by
  decide +kernel

/-! ## The answer -/

/-- Behind the lines of headers there is the end of a line. -/
theorem exists_line (szStatus : StdString) (headers : List (StdString × StdString)) :
    ∃ szLine, szStatus ++ szCRLF ++
      (headers.flatMap fun header => header.1 ++ ascii ": " ++ header.2 ++ szCRLF) =
        szLine ++ szCRLF := by
  rcases List.eq_nil_or_concat headers with rfl | ⟨headers, header, rfl⟩
  · exact ⟨szStatus, List.append_nil _⟩
  · refine ⟨szStatus ++ szCRLF ++
      (headers.flatMap fun header => header.1 ++ ascii ": " ++ header.2 ++ szCRLF) ++
        (header.1 ++ ascii ": " ++ header.2), ?_⟩
    rw [List.concat_eq_append, List.flatMap_append, List.flatMap_singleton]
    simp only [List.append_assoc]

/-- A header has a line of its own. -/
theorem serialize_of_header {response : CHttpResponse} {szKey szValue : StdString}
    (hheader : response.mapHeader[szKey]? = some szValue) :
    ∃ szFront szBack, response.serialize =
      szFront ++ szCRLF ++ (szKey ++ ascii ": " ++ szValue ++ szCRLF) ++ szBack := by
  have hmem : (szKey, szValue) ∈ response.mapHeader.toList :=
    Std.ExtTreeMap.mem_toList_iff_getElem?_eq_some.mpr hheader
  obtain ⟨front, back, hsplit⟩ := List.append_of_mem hmem
  obtain ⟨szFront, hfront⟩ := exists_line (ascii "HTTP/1.1 " ++
    ascii (toString response.nStatusCode) ++ ascii " " ++ response.szStatusMessage) front
  refine ⟨szFront, ?_⟩
  rw [CHttpResponse.serialize, hsplit, List.flatMap_append, List.flatMap_cons, ← List.append_assoc,
    hfront]
  simp only [List.append_assoc, List.append_cancel_left_eq]
  exact ⟨_, rfl⟩

theorem mapHeader_addHeader (response : CHttpResponse) (szKey szValue : StdString) :
    (response.addHeader szKey szValue).mapHeader[szKey]? = some szValue := by
  rw [CHttpResponse.addHeader, StdMap.getElem?_insert, if_pos rfl]

/-- A request is answered if it is a `GET` with a key.  The answer then has a line with the
digest of the key and the magic string, in base64. -/
theorem handshark_acceptKey (sHttpRequest : CHttpRequest) :
    match handshark acceptKey sHttpRequest with
    | none => sHttpRequest.eMethod ≠ .get ∨ sHttpRequest.getHeader secWebSocketKeyHeader = none
    | some szData =>
        sHttpRequest.eMethod = .get ∧
          ∃ szSecWebSocketKey szAccept szFront szBack,
            sHttpRequest.getHeader secWebSocketKeyHeader = some szSecWebSocketKey ∧
            szData = szFront ++ szCRLF ++
              (ascii "Sec-WebSocket-Accept" ++ ascii ": " ++ szAccept ++ szCRLF) ++ szBack ∧
            let szServerKey := szSecWebSocketKey.takeWhile (· ≠ 0) ++ webSocketMagic
            acceptKey? szServerKey = some szAccept ∧ szAccept.length = 28 ∧
              Base64.decodeText szAccept =
                sha1Bytes (szServerKey.take (szServerKey.length % 2 ^ 32)) := by
  rw [handshark]
  by_cases hget : sHttpRequest.eMethod = .get
  · rw [if_neg (not_not.mpr hget)]
    cases hkey : sHttpRequest.getHeader secWebSocketKeyHeader with
    | none => exact Or.inr rfl
    | some szSecWebSocketKey =>
        let szServerKey := szSecWebSocketKey.takeWhile (· ≠ 0) ++ webSocketMagic
        have hanswer := acceptKey?_eq szServerKey
        obtain ⟨szFront, szBack, hserialize⟩ := serialize_of_header
          (mapHeader_addHeader _ (ascii "Sec-WebSocket-Accept") (acceptKey szServerKey))
        rw [acceptKey, hanswer, Option.getD_some] at hserialize
        refine ⟨hget, szSecWebSocketKey, _, szFront, szBack, rfl, ?_, hanswer, ?_,
          Base64.decodeText_encodeText _⟩
        · rw [acceptKey, hanswer, Option.getD_some]
          exact hserialize
        · rw [Base64.length_encodeText, length_sha1Bytes]
          rfl
  · rw [if_pos hget]
    exact Or.inl hget

end RealtimeEx.Core
