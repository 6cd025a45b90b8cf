import LkRequest.Crypto.Tls12Cipher
import LkRequest.Library.Incremental

/-!
# The record reader

Record headers and `RecordReader`, which accumulates transport bytes and returns one decrypted
record at a time. A record that is complete is read the same way whatever follows it in the
buffer, so the reader is a lawful incremental consumer (`recordConsumer_lawful`).
-/

namespace LkRequest.Record

open Library Crypto List

/-! ## Headers -/

namespace ContentType

def changeCipherSpec : UInt8 := 0x14
def alert : UInt8 := 0x15
def handshake : UInt8 := 0x16
def applicationData : UInt8 := 0x17

end ContentType

def maxRecordPayload : Nat := 16384

def recordHeaderSize : Nat := 5

structure RecordHeader where
  contentType : UInt8
  version : UInt16
  length : UInt16

namespace RecordHeader

def fromBytes (bytes : Bytes) : RecordHeader where
  contentType := byteAt bytes 0
  version := UInt16.ofNat (u16At bytes 1)
  length := UInt16.ofNat (u16At bytes 3)

def toBytes (header : RecordHeader) : Bytes :=
  [header.contentType] ++ be16 header.version.toNat ++ be16 header.length.toNat

@[simp]
theorem length_toBytes (header : RecordHeader) : header.toBytes.length = 5 := rfl

@[simp]
theorem fromBytes_toBytes (header : RecordHeader) : fromBytes header.toBytes = header := by
  have hversion := header.version.toNat_lt
  have hlength := header.length.toNat_lt
  simp only [fromBytes, toBytes, byteAt, u16At, be16, cons_append, nil_append,
    getD_cons_zero, getD_cons_succ, readBe16_ofNat]
  rw [Nat.mod_eq_of_lt hversion, Nat.mod_eq_of_lt hlength, UInt16.ofNat_toNat, UInt16.ofNat_toNat]

theorem toBytes_fromBytes {bytes : Bytes} (hlength : bytes.length = 5) :
    (fromBytes bytes).toBytes = bytes := by
  match bytes, hlength with
  | [first, second, third, fourth, fifth], _ =>
    simp only [fromBytes, toBytes, byteAt, u16At, getD_cons_zero, getD_cons_succ,
      be16_toNat_ofNat_readBe16]
    rfl

end RecordHeader

/-! ## The reader -/

/-- A TLS 1.2 record cipher in one of its three modes. -/
inductive Tls12RecordCipher where
  | gcm (cipher : Tls12GcmCipher)
  | chacha20 (cipher : Tls12Chacha20Cipher)
  | cbc (cipher : Tls12CbcCipher)
  deriving DecidableEq

structure PlaintextRecord where
  contentType : UInt8
  payload : Bytes
  deriving DecidableEq

structure RecordReader where
  buf : Bytes
  seqNum : UInt64
  aead : Option Aead
  tls12Cipher : Option Tls12RecordCipher
  deriving DecidableEq

/-- `u64::checked_add(1)`. -/
def checkedSucc (n : UInt64) : Option UInt64 :=
  if n.toNat + 1 < 2 ^ 64 then some (n + 1) else none

theorem checkedSucc_toNat {seqNum next : UInt64} (hsucc : checkedSucc seqNum = some next) :
    next.toNat = seqNum.toNat + 1 := by
  unfold checkedSucc at hsucc
  split at hsucc
  next hlt =>
    rw [← Option.some.inj hsucc, UInt64.toNat_add]
    exact Nat.mod_eq_of_lt hlt
  · cases hsucc

/-- The additional data of a TLS 1.2 record. -/
def tls12Aad (seqNum : UInt64) (contentType : UInt8) (version : UInt16) (length : Nat) : Bytes :=
  be64 seqNum.toNat ++ [contentType] ++ be16 version.toNat ++ be16 length

/-- The inner content type of TLS 1.3 is the last non-zero byte of the decrypted payload. -/
def stripInnerContentType (plaintext : Bytes) : Result (UInt8 × Bytes) :=
  match plaintext.reverse.dropWhile (· == 0) with
  | [] => .error (.unexpectedMessage "Decrypted record has no content type")
  | innerContentType :: payload => .ok (innerContentType, payload.reverse)

namespace RecordReader

def new : RecordReader := ⟨[], 0, none, none⟩

def setKeys (reader : RecordReader) (aead : Aead) : RecordReader :=
  { reader with aead := some aead, tls12Cipher := none, seqNum := 0 }

def setTls12Keys (reader : RecordReader) (cipher : Tls12RecordCipher) : RecordReader :=
  { reader with tls12Cipher := some cipher, aead := none, seqNum := 0 }

def feed (reader : RecordReader) (data : Bytes) : RecordReader :=
  { reader with buf := reader.buf ++ data }

def isEncrypted (reader : RecordReader) : Bool :=
  reader.aead.isSome || reader.tls12Cipher.isSome

def maxLen (reader : RecordReader) : Nat :=
  if reader.isEncrypted then maxRecordPayload + 256 else maxRecordPayload

variable (crypto : Primitives)

/-- Decrypt the payload of a TLS 1.2 record; after key installation this is every record. -/
def decryptTls12 (seqNum : UInt64) (cipher : Tls12RecordCipher) (header : RecordHeader)
    (rawPayload : Bytes) : Result Bytes :=
  match cipher with
  | .gcm gcm =>
    if rawPayload.length < 8 + 16 then
      .error (.cryptoError "TLS 1.2 GCM record too short")
    else
      gcm.decrypt crypto
        (tls12Aad seqNum header.contentType header.version (rawPayload.length - 8 - 16)) rawPayload
  | .chacha20 chacha =>
    if rawPayload.length < 16 then
      .error (.cryptoError "TLS 1.2 ChaCha20 record too short")
    else
      chacha.decrypt crypto seqNum
        (tls12Aad seqNum header.contentType header.version (rawPayload.length - 16)) rawPayload
  | .cbc cbc =>
    cbc.decrypt crypto
      (tls12Aad seqNum header.contentType header.version rawPayload.length) rawPayload

/-- Advance the read sequence number after a successful decryption. -/
def advance (reader : RecordReader) (record : Result PlaintextRecord) :
    RecordReader × Result PlaintextRecord :=
  match checkedSucc reader.seqNum with
  | none => (reader, .error (.unexpectedMessage "record sequence number overflow"))
  | some next => ({ reader with seqNum := next }, record)

/-- What becomes of a complete record that has left the buffer. -/
def openRecord (reader : RecordReader) (header : RecordHeader) (rawPayload : Bytes) :
    RecordReader × Result PlaintextRecord :=
  match reader.tls12Cipher with
  | some cipher =>
    match decryptTls12 crypto reader.seqNum cipher header rawPayload with
    | .error error => (reader, .error error)
    | .ok plaintext => reader.advance (.ok ⟨header.contentType, plaintext⟩)
  | none =>
    match reader.aead with
    | some aead =>
      if header.contentType = ContentType.applicationData then
        match aead.decrypt crypto reader.seqNum header.toBytes rawPayload with
        | .error error => (reader, .error error)
        | .ok plaintext =>
          reader.advance ((stripInnerContentType plaintext).map fun inner => ⟨inner.1, inner.2⟩)
      else
        (reader, .ok ⟨header.contentType, rawPayload⟩)
    | none => (reader, .ok ⟨header.contentType, rawPayload⟩)

def nextRecord (reader : RecordReader) : RecordReader × Result (Option PlaintextRecord) :=
  if reader.buf.length < recordHeaderSize then (reader, .ok none)
  else
    let header := RecordHeader.fromBytes (reader.buf.take recordHeaderSize)
    let payloadLen := header.length.toNat
    if reader.maxLen < payloadLen then
      (reader, .error (.unexpectedMessage
        (s!"TLS record too large: {payloadLen} bytes (max {reader.maxLen})")))
    else
      let totalLen := recordHeaderSize + payloadLen
      if reader.buf.length < totalLen then (reader, .ok none)
      else
        let rawPayload := slice reader.buf recordHeaderSize totalLen
        let (reader, result) :=
          openRecord crypto { reader with buf := reader.buf.drop totalLen } header rawPayload
        (reader, result.map some)

/-! ## One record at a time -/

/-- The buffer starts with a complete record that passes the size limit. -/
structure Framed (reader : RecordReader) (header : RecordHeader) (rawPayload rest : Bytes) :
    Prop where
  buf_eq : reader.buf = header.toBytes ++ (rawPayload ++ rest)
  length_eq : rawPayload.length = header.length.toNat
  length_le : header.length.toNat ≤ reader.maxLen

variable {crypto}

variable {reader : RecordReader} {header : RecordHeader} {rawPayload rest : Bytes} {next :
  RecordReader} {result : Result (Option PlaintextRecord)}

theorem nextRecord_of_framed (hframed : reader.Framed header rawPayload rest) :
    reader.nextRecord crypto =
      ((openRecord crypto { reader with buf := rest } header rawPayload).1,
        (openRecord crypto { reader with buf := rest } header rawPayload).2.map some) := by
  obtain ⟨hbuf, hlength, hle⟩ := hframed
  have hheader : reader.buf.take recordHeaderSize = header.toBytes := by
    rw [hbuf]
    exact take_left' (RecordHeader.length_toBytes header)
  have htotal : reader.buf.length = recordHeaderSize + header.length.toNat + rest.length := by
    rw [hbuf, length_append, length_append, RecordHeader.length_toBytes, hlength,
      recordHeaderSize, Nat.add_assoc]
  have hpayload : slice reader.buf recordHeaderSize (recordHeaderSize + header.length.toNat) =
      rawPayload := by
    rw [slice, hbuf, Nat.add_sub_cancel_left, ← hlength]
    exact (congrArg (List.take _)
      (drop_left' (RecordHeader.length_toBytes header))).trans take_left
  have hrest : reader.buf.drop (recordHeaderSize + header.length.toNat) = rest := by
    rw [hbuf, ← hlength, ← append_assoc]
    exact drop_left' (by simp [recordHeaderSize])
  have hshort : ¬ reader.buf.length < recordHeaderSize := by omega
  have hlarge : ¬ reader.maxLen < header.length.toNat := by omega
  have hcomplete : ¬ reader.buf.length < recordHeaderSize + header.length.toNat := by omega
  simp only [nextRecord, hshort, if_false, hheader, RecordHeader.fromBytes_toBytes, hlarge,
    hcomplete, hpayload, hrest]

/-- The buffer starts with a header whose length is over the limit. -/
structure Oversized (reader : RecordReader) (header : RecordHeader) (rest : Bytes) : Prop where
  buf_eq : reader.buf = header.toBytes ++ rest
  length_gt : reader.maxLen < header.length.toNat

theorem nextRecord_of_oversized (hoversized : reader.Oversized header rest) :
    reader.nextRecord crypto = (reader, .error (.unexpectedMessage
      (s!"TLS record too large: {header.length.toNat} bytes (max {reader.maxLen})"))) := by
  obtain ⟨hbuf, hgt⟩ := hoversized
  have hheader : reader.buf.take recordHeaderSize = header.toBytes := by
    rw [hbuf]
    exact take_left' (RecordHeader.length_toBytes header)
  have hshort : ¬ reader.buf.length < recordHeaderSize := by
    rw [hbuf, length_append, RecordHeader.length_toBytes, recordHeaderSize]
    omega
  simp only [nextRecord, hshort, if_false, hheader, RecordHeader.fromBytes_toBytes, hgt, if_true]

/-- The three ways a call can go: the record is incomplete, its header is over the limit, or a
complete record is opened. -/
theorem nextRecord_cases (reader : RecordReader) :
    (∀ crypto, reader.nextRecord crypto = (reader, .ok none)) ∨
    (∃ header rest, reader.Oversized header rest) ∨
    ∃ header rawPayload rest, reader.Framed header rawPayload rest := by
  by_cases hshort : reader.buf.length < recordHeaderSize
  · left
    intro crypto
    simp only [nextRecord, hshort, if_true]
  set header := RecordHeader.fromBytes (reader.buf.take recordHeaderSize) with hheader
  have hbytes : header.toBytes = reader.buf.take recordHeaderSize := by
    apply RecordHeader.toBytes_fromBytes
    rw [length_take, recordHeaderSize] at *
    omega
  have hbuf : reader.buf = header.toBytes ++ reader.buf.drop recordHeaderSize := by
    rw [hbytes, take_append_drop]
  by_cases hgt : reader.maxLen < header.length.toNat
  · right
    left
    exact ⟨header, _, hbuf, hgt⟩
  by_cases hincomplete : reader.buf.length < recordHeaderSize + header.length.toNat
  · left
    intro crypto
    simp only [nextRecord, hshort, if_false, ← hheader, hgt, hincomplete, if_true]
  · right
    right
    refine ⟨header, (reader.buf.drop recordHeaderSize).take header.length.toNat,
      (reader.buf.drop recordHeaderSize).drop header.length.toNat, ?_, ?_, by omega⟩
    · rw [take_append_drop]
      exact hbuf
    · rw [length_take, length_drop]
      omega

/-! ## Input behind a record -/

theorem Framed.feed (hframed : reader.Framed header rawPayload rest) (more : Bytes) :
    (reader.feed more).Framed header rawPayload (rest ++ more) := by
  refine ⟨?_, hframed.length_eq, hframed.length_le⟩
  change reader.buf ++ more = _
  rw [hframed.buf_eq, append_assoc, append_assoc]

theorem Oversized.feed (hoversized : reader.Oversized header rest) (more : Bytes) :
    (reader.feed more).Oversized header (rest ++ more) := by
  refine ⟨?_, hoversized.length_gt⟩
  change reader.buf ++ more = _
  rw [hoversized.buf_eq, append_assoc]

theorem Framed.length_rest_lt (hframed : reader.Framed header rawPayload rest) :
    rest.length < reader.buf.length := by
  rw [hframed.buf_eq, length_append, RecordHeader.length_toBytes, length_append]
  omega

/-- Opening a record leaves the buffer and the keys alone. -/
theorem openRecord_fields (reader : RecordReader) (header : RecordHeader) (rawPayload : Bytes) :
    (openRecord crypto reader header rawPayload).1.buf = reader.buf ∧
    (openRecord crypto reader header rawPayload).1.aead = reader.aead ∧
    (openRecord crypto reader header rawPayload).1.tls12Cipher = reader.tls12Cipher := by
  unfold openRecord advance
  repeat' split
  all_goals exact ⟨rfl, rfl, rfl⟩

theorem feed_feed (reader : RecordReader) (left right : Bytes) :
    (reader.feed left).feed right = reader.feed (left ++ right) := by
  simp only [RecordReader.feed, append_assoc]

/-- Opening a record does not read the buffer behind it. -/
theorem openRecord_feed (reader : RecordReader) (header : RecordHeader) (rawPayload more : Bytes) :
    openRecord crypto (reader.feed more) header rawPayload =
      ((openRecord crypto reader header rawPayload).1.feed more,
        (openRecord crypto reader header rawPayload).2) := by
  unfold openRecord advance
  simp only [feed]
  repeat' split
  all_goals rfl

/-- A call that returned a record or an error is not changed by later input. -/
theorem nextRecord_feed
    (hnext : reader.nextRecord crypto = (next, result)) (hresult : result ≠ .ok none)
    (more : Bytes) : (reader.feed more).nextRecord crypto = (next.feed more, result) := by
  rcases reader.nextRecord_cases with hnone | ⟨header, rest, hoversized⟩ |
    ⟨header, raw, rest, hframed⟩
  · rw [hnone, Prod.mk.injEq] at hnext
    exact absurd hnext.2.symm hresult
  · rw [nextRecord_of_oversized hoversized, Prod.mk.injEq] at hnext
    rw [nextRecord_of_oversized (hoversized.feed more), ← hnext.1, ← hnext.2]
    rfl
  · rw [nextRecord_of_framed hframed, Prod.mk.injEq] at hnext
    have hopen := @openRecord_feed crypto { reader with buf := rest } header raw more
    rw [nextRecord_of_framed (hframed.feed more), ← hnext.1, ← hnext.2]
    rw [Prod.mk.injEq]
    exact ⟨congrArg Prod.fst hopen, congrArg (fun opened => Except.map some opened.2) hopen⟩

/-- A call that asks for more input leaves the reader as it was. -/
theorem nextRecord_none (hnext : reader.nextRecord crypto = (next, .ok none)) : next = reader := by
  rcases reader.nextRecord_cases with hnone | ⟨header, rest, hoversized⟩ |
    ⟨header, raw, rest, hframed⟩
  · rw [hnone, Prod.mk.injEq] at hnext
    exact hnext.1.symm
  · rw [nextRecord_of_oversized hoversized, Prod.mk.injEq] at hnext
    cases hnext.2
  · rw [nextRecord_of_framed hframed, Prod.mk.injEq] at hnext
    exact absurd hnext.2 (by
      cases (openRecord crypto { reader with buf := rest } header raw).2 <;> simp [Except.map])

/-- Reading a record leaves the keys alone. -/
theorem nextRecord_keys (hnext : reader.nextRecord crypto = (next, result)) :
    next.aead = reader.aead ∧ next.tls12Cipher = reader.tls12Cipher := by
  rcases reader.nextRecord_cases with hnone | ⟨header, rest, hoversized⟩ |
    ⟨header, raw, rest, hframed⟩
  · rw [hnone, Prod.mk.injEq] at hnext
    rw [← hnext.1]
    exact ⟨rfl, rfl⟩
  · rw [nextRecord_of_oversized hoversized, Prod.mk.injEq] at hnext
    rw [← hnext.1]
    exact ⟨rfl, rfl⟩
  · rw [nextRecord_of_framed hframed, Prod.mk.injEq] at hnext
    rw [← hnext.1]
    exact (openRecord_fields _ header raw).2

theorem isEncrypted_of_nextRecord (hnext : reader.nextRecord crypto = (next, result)) :
    next.isEncrypted = reader.isEncrypted := by
  obtain ⟨haead, hcipher⟩ := nextRecord_keys hnext
  rw [isEncrypted, isEncrypted, haead, hcipher]

/-- Every record that is returned has left the buffer. -/
theorem nextRecord_length_lt {record : PlaintextRecord}
    (hnext : reader.nextRecord crypto = (next, .ok (some record))) :
    next.buf.length < reader.buf.length := by
  rcases reader.nextRecord_cases with hnone | ⟨header, rest, hoversized⟩ |
    ⟨header, raw, rest, hframed⟩
  · rw [hnone, Prod.mk.injEq] at hnext
    cases hnext.2
  · rw [nextRecord_of_oversized hoversized, Prod.mk.injEq] at hnext
    cases hnext.2
  · rw [nextRecord_of_framed hframed, Prod.mk.injEq] at hnext
    rw [← hnext.1, (openRecord_fields _ header raw).1]
    exact hframed.length_rest_lt

end RecordReader

end LkRequest.Record
