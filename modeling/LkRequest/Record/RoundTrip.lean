import LkRequest.Record.Writer

/-!
# Reading back what was written

A reader with the writer's keys, at the writer's sequence number, opens every record the writer
emits (`encodeSingleRecord_cases`). The script results below lift this to whole runs of
`write_record` calls with key changes on both sides, for every cut of the bytes into `feed` calls.
-/

namespace LkRequest.Record

open Library Crypto List RecordWriter

/-! ## One record -/

/-- The reader holds the writer's keys and is at its sequence number. -/
structure InSync (writer : RecordWriter) (reader : RecordReader) : Prop where
  aead_eq : reader.aead = writer.aead
  tls12Cipher_eq : reader.tls12Cipher = writer.tls12Cipher
  seqNum_eq : reader.seqNum = writer.seqNum

/-- A CBC cipher whose key is an AES key. -/
def Tls12RecordCipher.AesKeyed : Tls12RecordCipher → Prop
  | .cbc cipher => cipher.encKey.length = 16 ∨ cipher.encKey.length = 32
  | _ => True

/-- The reader's size limit for a record payload. -/
def recordLimit (encrypted : Bool) : Nat :=
  if encrypted then maxRecordPayload + 256 else maxRecordPayload

namespace RecordWriter

def AesKeyed (writer : RecordWriter) : Prop :=
  ∀ cipher, writer.tls12Cipher = some cipher → cipher.AesKeyed

/-- An encrypting writer at the last sequence number: every further write fails. -/
def Exhausted (writer : RecordWriter) : Prop :=
  writer.isEncrypted = true ∧ checkedSucc writer.seqNum = none

/-- The writer emits one record for the payload, and a reader in step opens it. -/
structure Encodes (crypto : Primitives) (writer next : RecordWriter) (contentType : UInt8)
    (payload : Bytes) (header : RecordHeader) (rawPayload : Bytes) : Prop where
  live : ¬ writer.Exhausted
  encode_eq : writer.encodeSingleRecord crypto contentType payload =
    (next, .ok (header.toBytes ++ rawPayload))
  length_eq : rawPayload.length = header.length.toNat
  length_le : header.length.toNat ≤ recordLimit writer.isEncrypted
  opens : ∀ reader, InSync writer reader → ∃ reader', InSync next reader' ∧
    reader.openRecord crypto header rawPayload = (reader', .ok ⟨contentType, payload⟩)

/-- What comes of a payload: a record, or an error because the writer is exhausted. -/
def Attempts (crypto : Primitives) (writer : RecordWriter) (contentType : UInt8)
    (payload : Bytes) : Prop :=
  (∃ next header rawPayload, writer.Encodes crypto next contentType payload header rawPayload) ∨
    ∃ next error, writer.encodeSingleRecord crypto contentType payload = (next, .error error) ∧
      writer.Exhausted ∧ next.Exhausted

end RecordWriter

variable {header : RecordHeader} {contentType : UInt8} {rawPayload : Bytes} {writer : RecordWriter}

theorem RecordWriter.Encodes.sameKeys {crypto : Primitives} {next : RecordWriter} {payload : Bytes}
    (hencodes : writer.Encodes crypto next contentType payload header rawPayload) :
    writer.SameKeys next := by
  have hsame := sameKeys_encodeSingleRecord crypto writer contentType payload
  rw [hencodes.encode_eq] at hsame
  exact hsame

theorem InSync.maxLen_eq {reader : RecordReader} (hsync : InSync writer reader) :
    reader.maxLen = recordLimit writer.isEncrypted := by
  rw [RecordReader.maxLen, RecordReader.isEncrypted, hsync.aead_eq, hsync.tls12Cipher_eq]
  rfl

theorem stripInnerContentType_concat (hnonzero : contentType ≠ 0) (payload : Bytes) :
    stripInnerContentType (payload ++ [contentType]) = .ok (contentType, payload) := by
  have hbeq : (contentType == 0) = false := beq_eq_false_iff_ne.mpr hnonzero
  simp [stripInnerContentType, reverse_append, reverse_cons, reverse_nil, nil_append, hbeq,
    Bool.false_eq_true, reverse_reverse]

theorem toNat_ofNat_length {n : Nat} (hlength : n ≤ 16640) : (UInt16.ofNat n).toNat = n := by
  rw [UInt16.toNat_ofNat']
  omega

/-- The CBC cipher puts the plaintext length where the record length was. -/
theorem macAad_tls12Aad (seqNum : UInt64) (contentType : UInt8) (version : UInt16)
    (recordLength plaintextLength : Nat) :
    Tls12CbcCipher.macAad (tls12Aad seqNum contentType version recordLength) plaintextLength =
      tls12Aad seqNum contentType version plaintextLength := rfl

section Protection

variable {crypto : Primitives} (hcrypto : RecordProtection crypto) {cipher : Tls12RecordCipher}
  {payload : Bytes} {writer : RecordWriter} {contentType : UInt8}

include hcrypto

/-- A payload encrypted for TLS 1.2 decrypts with the header's own length. -/
theorem encryptTls12_ok (writer : RecordWriter) (hkeyed : cipher.AesKeyed) (contentType : UInt8)
    (hlength : payload.length ≤ maxRecordPayload) :
    ∃ next ciphertext, writer.encryptTls12 crypto cipher
        (tls12Aad writer.seqNum contentType 0x0303 payload.length) payload =
          (next, .ok ciphertext) ∧
      next.seqNum = writer.seqNum ∧ next.aead = writer.aead ∧
      next.tls12Cipher = writer.tls12Cipher ∧ ciphertext.length ≤ 16640 ∧
      ∀ length, RecordReader.decryptTls12 crypto writer.seqNum cipher
        ⟨contentType, 0x0303, length⟩ ciphertext = .ok payload := by
  simp only [maxRecordPayload] at hlength
  cases cipher with
  | gcm cipher | chacha20 cipher =>
    obtain ⟨ciphertext, hencrypt, hciphertext, hdecrypt⟩ := cipher.encrypt_ok hcrypto
      writer.seqNum (tls12Aad writer.seqNum contentType 0x0303 payload.length) hlength
    refine ⟨writer, ciphertext, by rw [encryptTls12, hencrypt], rfl, rfl, rfl, by omega, ?_⟩
    intro length
    simp [RecordReader.decryptTls12, hciphertext, hdecrypt]
  | cbc cipher =>
    have haad := macAad_tls12Aad writer.seqNum contentType 0x0303
    obtain ⟨ciphertext, hencrypt, _, hciphertext, _⟩ := cipher.encrypt_ok hcrypto hkeyed
      (.cbcIv writer.draws) (haad 0 payload.length)
    refine ⟨{ writer with draws := writer.draws + 1 }, ciphertext,
      by rw [encryptTls12, hencrypt], rfl, rfl, rfl, by omega, ?_⟩
    intro length
    obtain ⟨ciphertext', hencrypt', _, _, hdecrypt⟩ := cipher.encrypt_ok hcrypto hkeyed
      (.cbcIv writer.draws) (haad ciphertext.length payload.length)
    obtain rfl : ciphertext = ciphertext' := by
      rw [hencrypt] at hencrypt'
      exact Except.ok.inj hencrypt'
    exact hdecrypt

omit hcrypto in
theorem encodePlaintextRecord_encodes (htls12 : writer.tls12Cipher = none)
    (haead : writer.aead = none) (contentType : UInt8)
    (hlength : payload.length ≤ maxRecordPayload) :
    ∃ next header, writer.Encodes crypto next contentType payload header payload := by
  have hsize : (UInt16.ofNat payload.length).toNat = payload.length :=
    toNat_ofNat_length (by simp only [maxRecordPayload] at hlength; omega)
  have hsmall : ¬ maxRecordPayload < payload.length := by omega
  have hplain : writer.isEncrypted = false := by
    simp [isEncrypted, htls12, haead]
  refine ⟨{ writer with firstRecordSent := true },
    ⟨contentType, if writer.firstRecordSent then 0x0303 else 0x0301,
      UInt16.ofNat payload.length⟩, ?_, ?_, hsize.symm, ?_, ?_⟩
  · intro hexhausted
    exact absurd hexhausted.1 (by simp [hplain])
  · simp [encodeSingleRecord, htls12, haead, encodePlaintextRecord, hsmall]
  · simpa only [hsize, recordLimit, hplain, Bool.false_eq_true, if_false] using hlength
  · intro reader hsync
    refine ⟨reader, ⟨hsync.aead_eq, hsync.tls12Cipher_eq, hsync.seqNum_eq⟩, ?_⟩
    simp only [RecordReader.openRecord, hsync.tls12Cipher_eq, htls12, hsync.aead_eq, haead]

omit hcrypto in
/-- An encrypted record is emitted unless the writer is at its last sequence number. -/
theorem attempts_of_advance {middle : RecordWriter} (hencrypted : writer.isEncrypted = true)
    (haead : middle.aead = writer.aead) (hcipher : middle.tls12Cipher = writer.tls12Cipher)
    (hseqNum : middle.seqNum = writer.seqNum)
    (hencode : writer.encodeSingleRecord crypto contentType payload =
      middle.advance (header.toBytes ++ rawPayload))
    (hlength : header.length.toNat = rawPayload.length) (hlimit : rawPayload.length ≤ 16640)
    (hopen : ∀ reader seqNum, InSync writer reader → checkedSucc writer.seqNum = some seqNum →
      reader.openRecord crypto header rawPayload =
        ({ reader with seqNum := seqNum }, .ok ⟨contentType, payload⟩)) :
    writer.Attempts crypto contentType payload := by
  cases hsucc : checkedSucc writer.seqNum with
  | none =>
    have hstuck : middle.Exhausted := by
      rw [Exhausted, isEncrypted, haead, hcipher, hseqNum]
      exact ⟨hencrypted, hsucc⟩
    refine .inr ⟨middle, .cryptoError "write sequence number overflow", ?_,
      ⟨hencrypted, hsucc⟩, hstuck⟩
    rw [hencode, advance, hseqNum, hsucc]
  | some seqNum =>
    refine .inl ⟨{ middle with seqNum := seqNum }, header, rawPayload, ?_, ?_, hlength.symm, ?_, ?_⟩
    · intro hexhausted
      exact absurd (hsucc.symm.trans hexhausted.2) (by simp)
    · rw [hencode, advance, hseqNum, hsucc]
    · rw [recordLimit, hencrypted, hlength]
      exact hlimit
    · intro reader hsync
      exact ⟨{ reader with seqNum := seqNum }, ⟨hsync.aead_eq.trans haead.symm,
        hsync.tls12Cipher_eq.trans hcipher.symm, rfl⟩, hopen reader seqNum hsync hsucc⟩

theorem encodeTls13_cases {aead : Aead} (htls12 : writer.tls12Cipher = none)
    (haead : writer.aead = some aead) (hnonzero : contentType ≠ 0)
    (hlength : payload.length ≤ maxRecordPayload) :
    writer.Attempts crypto contentType payload := by
  have hencrypted : writer.isEncrypted = true := by simp [isEncrypted, haead]
  simp only [maxRecordPayload] at hlength
  have hinner : (payload ++ [contentType]).length = payload.length + 1 := by simp
  set header : RecordHeader := ⟨ContentType.applicationData, 0x0303,
    UInt16.ofNat ((payload ++ [contentType]).length + aead.algorithm.tagLen)⟩ with hheader
  have hheaderLength : header.length.toNat = payload.length + 17 := by
    rw [hheader, hinner]
    exact toNat_ofNat_length (by simp only [AeadAlgorithm.tagLen]; omega)
  obtain ⟨ciphertext, hencrypt, hciphertext, hdecrypt⟩ :=
    aead.encrypt_ok hcrypto writer.seqNum header.toBytes
      (show (payload ++ [contentType]).length ≤ 16385 by omega)
  have hencode : writer.encodeSingleRecord crypto contentType payload =
      writer.advance (header.toBytes ++ ciphertext) := by
    simp only [encodeSingleRecord, htls12, haead, encodeTls13EncryptedRecord, ← hheader, hencrypt]
  refine attempts_of_advance hencrypted rfl rfl rfl hencode (by omega) (by omega) ?_
  intro reader seqNum hsync hsucc
  simp only [RecordReader.openRecord, hsync.tls12Cipher_eq, htls12, hsync.aead_eq, haead,
    hheader, if_true, hsync.seqNum_eq, RecordReader.advance, hsucc]
  rw [← hheader, hdecrypt]
  simp only [stripInnerContentType_concat hnonzero, Except.map]

theorem encodeTls12_cases (htls12 : writer.tls12Cipher = some cipher) (hkeyed : cipher.AesKeyed)
    (contentType : UInt8) (hlength : payload.length ≤ maxRecordPayload) :
    writer.Attempts crypto contentType payload := by
  have hencrypted : writer.isEncrypted = true := by simp [isEncrypted, htls12]
  obtain ⟨middle, ciphertext, hencrypt, hseqNum, haead, hcipher, hciphertext, hdecrypt⟩ :=
    encryptTls12_ok hcrypto writer hkeyed contentType hlength
  set header : RecordHeader := ⟨contentType, 0x0303, UInt16.ofNat ciphertext.length⟩ with hheader
  have hencode : writer.encodeSingleRecord crypto contentType payload =
      middle.advance (header.toBytes ++ ciphertext) := by
    simp only [encodeSingleRecord, htls12, encodeTls12EncryptedRecord, hencrypt, ← hheader]
  refine attempts_of_advance hencrypted haead hcipher hseqNum hencode
    (toNat_ofNat_length hciphertext) hciphertext ?_
  intro reader seqNum hsync hsucc
  rw [← hsync.seqNum_eq] at hsucc
  simp only [RecordReader.openRecord, hsync.tls12Cipher_eq, htls12, hsync.seqNum_eq, hheader,
    hdecrypt, RecordReader.advance]
  rw [← hsync.seqNum_eq, hsucc]

/-- The step lemma of the record layer: encoding a record-sized payload either emits a record that
a reader in step opens, or the writer is at its last sequence number. -/
theorem encodeSingleRecord_cases (hkeyed : writer.AesKeyed) (hnonzero : contentType ≠ 0)
    (hlength : payload.length ≤ maxRecordPayload) :
    writer.Attempts crypto contentType payload := by
  cases htls12 : writer.tls12Cipher with
  | some cipher =>
    exact encodeTls12_cases hcrypto htls12 (hkeyed cipher htls12) contentType hlength
  | none =>
    cases haead : writer.aead with
    | some aead => exact encodeTls13_cases hcrypto htls12 haead hnonzero hlength
    | none =>
      obtain ⟨next, header, hencodes⟩ :=
        @encodePlaintextRecord_encodes crypto payload writer htls12 haead contentType hlength
      exact .inl ⟨next, header, payload, hencodes⟩

end Protection

end LkRequest.Record
