import LkRequest.Record.Reader

/-!
# The record writer

`RecordWriter` frames payloads into records of at most 16384 bytes and protects them with the
installed keys. `encodeSingleRecord_ok` says what every emitted record looks like on the wire; the
reader's side of it is in `LkRequest.Record.RoundTrip`.
-/

namespace LkRequest.Record

open Library Crypto

inductive FlushStrategy where
  | immediate
  | coalesce
  deriving DecidableEq

structure RecordWriter where
  seqNum : UInt64
  aead : Option Aead
  tls12Cipher : Option Tls12RecordCipher
  flushStrategy : FlushStrategy
  coalesceBuf : Bytes
  firstRecordSent : Bool
  /-- Random draws made for CBC records. -/
  draws : Nat
  deriving DecidableEq

/-- `payload.chunks(MAX_RECORD_PAYLOAD)`, with the single empty record of an empty payload. -/
def fragments (payload : Bytes) : List Bytes :=
  if payload = [] then [[]] else chunks maxRecordPayload payload

namespace RecordWriter

def new : RecordWriter := ⟨0, none, none, .immediate, [], false, 0⟩

def markPostInitial (writer : RecordWriter) : RecordWriter :=
  { writer with firstRecordSent := true }

def flush (writer : RecordWriter) : RecordWriter × Bytes :=
  ({ writer with coalesceBuf := [] }, writer.coalesceBuf)

def setKeys (writer : RecordWriter) (aead : Aead) : RecordWriter :=
  { writer with aead := some aead, tls12Cipher := none, seqNum := 0 }

def setTls12Keys (writer : RecordWriter) (cipher : Tls12RecordCipher) : RecordWriter :=
  { writer with tls12Cipher := some cipher, aead := none, seqNum := 0 }

/-- Advance the write sequence number after a successful encryption. -/
def advance (writer : RecordWriter) (record : Bytes) : RecordWriter × Result Bytes :=
  match checkedSucc writer.seqNum with
  | none => (writer, .error (.cryptoError "write sequence number overflow"))
  | some next => ({ writer with seqNum := next }, .ok record)

def encodePlaintextRecord (writer : RecordWriter) (contentType : UInt8) (payload : Bytes) :
    RecordWriter × Result Bytes :=
  if maxRecordPayload < payload.length then (writer, .error (.io "record payload too large"))
  else
    let version : UInt16 := if writer.firstRecordSent then 0x0303 else 0x0301
    let header : RecordHeader := ⟨contentType, version, UInt16.ofNat payload.length⟩
    ({ writer with firstRecordSent := true }, .ok (header.toBytes ++ payload))

variable (crypto : Primitives)

def encodeTls13EncryptedRecord (writer : RecordWriter) (aead : Aead) (contentType : UInt8)
    (payload : Bytes) : RecordWriter × Result Bytes :=
  let inner := payload ++ [contentType]
  let encryptedLen := inner.length + aead.algorithm.tagLen
  let header : RecordHeader :=
    ⟨ContentType.applicationData, 0x0303, UInt16.ofNat encryptedLen⟩
  match aead.encrypt crypto writer.seqNum header.toBytes inner with
  | .error error => (writer, .error error)
  | .ok ciphertext => writer.advance (header.toBytes ++ ciphertext)

/-- Encrypt a TLS 1.2 payload; CBC draws its IV from the system randomness. -/
def encryptTls12 (writer : RecordWriter) (cipher : Tls12RecordCipher) (aad payload : Bytes) :
    RecordWriter × Result Bytes :=
  match cipher with
  | .gcm gcm => (writer, gcm.encrypt crypto writer.seqNum aad payload)
  | .chacha20 chacha => (writer, chacha.encrypt crypto writer.seqNum aad payload)
  | .cbc cbc =>
    ({ writer with draws := writer.draws + 1 },
      cbc.encrypt crypto (.cbcIv writer.draws) aad payload)

def encodeTls12EncryptedRecord (writer : RecordWriter) (cipher : Tls12RecordCipher)
    (contentType : UInt8) (payload : Bytes) : RecordWriter × Result Bytes :=
  let aad := tls12Aad writer.seqNum contentType 0x0303 payload.length
  match writer.encryptTls12 crypto cipher aad payload with
  | (writer, .error error) => (writer, .error error)
  | (writer, .ok ciphertext) =>
    let header : RecordHeader := ⟨contentType, 0x0303, UInt16.ofNat ciphertext.length⟩
    writer.advance (header.toBytes ++ ciphertext)

def encodeSingleRecord (writer : RecordWriter) (contentType : UInt8) (payload : Bytes) :
    RecordWriter × Result Bytes :=
  match writer.tls12Cipher, writer.aead with
  | some cipher, _ => writer.encodeTls12EncryptedRecord crypto cipher contentType payload
  | none, some aead => writer.encodeTls13EncryptedRecord crypto aead contentType payload
  | none, none => writer.encodePlaintextRecord contentType payload

/-- Hand a finished record out, or keep it for the next flush. -/
def emit (writer : RecordWriter) (output record : Bytes) : RecordWriter × Bytes :=
  match writer.flushStrategy with
  | .immediate => (writer, output ++ record)
  | .coalesce => ({ writer with coalesceBuf := writer.coalesceBuf ++ record }, output)

/-- Encode the fragments of one payload in turn; the first failure drops the output. -/
def writeFragments (contentType : UInt8) :
    RecordWriter → Bytes → List Bytes → RecordWriter × Result Bytes
  | writer, output, [] => (writer, .ok output)
  | writer, output, fragment :: rest =>
    match writer.encodeSingleRecord crypto contentType fragment with
    | (writer, .error error) => (writer, .error error)
    | (writer, .ok record) =>
      let (writer, output) := writer.emit output record
      writeFragments contentType writer output rest

def writeRecord (writer : RecordWriter) (contentType : UInt8) (payload : Bytes) :
    RecordWriter × Result Bytes :=
  writeFragments crypto contentType writer [] (fragments payload)

/-- Traffic keys are installed, so that every record is encrypted. -/
def isEncrypted (writer : RecordWriter) : Bool :=
  writer.aead.isSome || writer.tls12Cipher.isSome

/-! ## What encoding leaves alone -/

/-- Two writers with the same keys and the same flush strategy. -/
structure SameKeys (left right : RecordWriter) : Prop where
  tls12Cipher_eq : right.tls12Cipher = left.tls12Cipher
  aead_eq : right.aead = left.aead
  flushStrategy_eq : right.flushStrategy = left.flushStrategy

variable (writer : RecordWriter)

theorem SameKeys.refl : SameKeys writer writer := ⟨rfl, rfl, rfl⟩

theorem SameKeys.trans {first second third : RecordWriter} (hfirst : SameKeys first second)
    (hsecond : SameKeys second third) : SameKeys first third :=
  ⟨hsecond.tls12Cipher_eq.trans hfirst.tls12Cipher_eq, hsecond.aead_eq.trans hfirst.aead_eq,
    hsecond.flushStrategy_eq.trans hfirst.flushStrategy_eq⟩

theorem SameKeys.isEncrypted_eq {writer next : RecordWriter} (hsame : SameKeys writer next) :
    next.isEncrypted = writer.isEncrypted := by
  rw [isEncrypted, hsame.aead_eq, hsame.tls12Cipher_eq]
  rfl

variable {crypto} {writer} {next : RecordWriter} {result : Result Bytes} {payload : Bytes}

theorem advance_spec {record : Bytes} (hadvance : writer.advance record = (next, result)) :
    SameKeys writer next ∧ match result with
      | .ok output => output = record ∧ next.seqNum.toNat = writer.seqNum.toNat + 1
      | .error _ => next.seqNum = writer.seqNum := by
  unfold advance at hadvance
  split at hadvance
  · cases hadvance
    exact ⟨.refl writer, rfl⟩
  next hsucc =>
    cases hadvance
    exact ⟨⟨rfl, rfl, rfl⟩, rfl, checkedSucc_toNat hsucc⟩

theorem encryptTls12_spec {cipher : Tls12RecordCipher} {aad : Bytes}
    (hencrypt : writer.encryptTls12 crypto cipher aad payload = (next, result)) :
    SameKeys writer next ∧ next.seqNum = writer.seqNum := by
  cases cipher <;> cases hencrypt <;> exact ⟨⟨rfl, rfl, rfl⟩, rfl⟩

/-- A record on the wire uses a sequence number up if it is encrypted. -/
theorem encodeSingleRecord_spec {contentType : UInt8}
    (hencode : writer.encodeSingleRecord crypto contentType payload = (next, result)) :
    SameKeys writer next ∧ match result with
      | .ok _ => next.seqNum.toNat = writer.seqNum.toNat + writer.isEncrypted.toNat
      | .error _ => next.seqNum = writer.seqNum := by
  unfold encodeSingleRecord at hencode
  split at hencode
  next _ cipher htls12 =>
    unfold encodeTls12EncryptedRecord at hencode
    dsimp only at hencode
    split at hencode
    next hencrypt =>
      cases hencode
      exact encryptTls12_spec hencrypt
    next middle ciphertext hencrypt =>
      obtain ⟨hsame, hseqNum⟩ := encryptTls12_spec hencrypt
      obtain ⟨hlast, hadvanced⟩ := advance_spec hencode
      refine ⟨hsame.trans hlast, ?_⟩
      cases result with
      | ok record => simpa [isEncrypted, htls12, ← hseqNum] using hadvanced.2
      | error error => exact hadvanced.trans hseqNum
  next aead htls12 haead =>
    unfold encodeTls13EncryptedRecord at hencode
    dsimp only at hencode
    split at hencode
    · cases hencode
      exact ⟨.refl writer, rfl⟩
    · obtain ⟨hsame, hadvanced⟩ := advance_spec hencode
      refine ⟨hsame, ?_⟩
      cases result with
      | ok record => simpa [isEncrypted, haead] using hadvanced.2
      | error error => exact hadvanced
  next htls12 haead =>
    unfold encodePlaintextRecord at hencode
    split at hencode
    · cases hencode
      exact ⟨.refl writer, rfl⟩
    · cases hencode
      exact ⟨⟨rfl, rfl, rfl⟩, by simp [isEncrypted, htls12, haead]⟩

variable (crypto) (writer)

theorem sameKeys_encodeSingleRecord (contentType : UInt8) (payload : Bytes) :
    SameKeys writer (writer.encodeSingleRecord crypto contentType payload).1 :=
  (encodeSingleRecord_spec rfl).1

variable {crypto}

theorem emit_fields (output output' record : Bytes) :
    (writer.emit output record).1 = (writer.emit output' record).1 ∧
    SameKeys writer (writer.emit output record).1 ∧
    (writer.emit output record).1.seqNum = writer.seqNum := by
  unfold emit
  split <;> exact ⟨rfl, ⟨rfl, rfl, rfl⟩, rfl⟩

variable {writer} {next : RecordWriter} {contentType : UInt8}

/-- Writing keeps the keys, and its sequence numbers do not go back, whether it succeeds or
not. -/
theorem writeFragments_spec {output : Bytes} {pieces : List Bytes} {result : Result Bytes}
    (hwrite : writeFragments crypto contentType writer output pieces = (next, result)) :
    SameKeys writer next ∧ writer.seqNum.toNat ≤ next.seqNum.toNat := by
  induction pieces generalizing writer output with
  | nil =>
    cases hwrite
    exact ⟨.refl _, le_refl _⟩
  | cons piece pieces ih =>
    rcases hencode : writer.encodeSingleRecord crypto contentType piece with ⟨middle, encoded⟩
    obtain ⟨hsame, hseqNum⟩ := encodeSingleRecord_spec hencode
    simp only [writeFragments, hencode] at hwrite
    cases encoded with
    | error error =>
      cases hwrite
      exact ⟨hsame, by rw [hseqNum]⟩
    | ok record =>
      obtain ⟨_, hemit, hkept⟩ := middle.emit_fields output output record
      obtain ⟨hlater, hle⟩ := ih hwrite
      rw [hkept] at hle
      exact ⟨(hsame.trans hemit).trans hlater, by omega⟩

theorem isEncrypted_of_writeRecord {result : Result Bytes}
    (hwrite : writer.writeRecord crypto contentType payload = (next, result)) :
    next.isEncrypted = writer.isEncrypted :=
  (writeFragments_spec hwrite).1.isEncrypted_eq

variable (writer)

@[simp]
theorem isEncrypted_setKeys (aead : Aead) : (writer.setKeys aead).isEncrypted = true := rfl

@[simp]
theorem isEncrypted_setTls12Keys (cipher : Tls12RecordCipher) :
    (writer.setTls12Keys cipher).isEncrypted = true := rfl

end RecordWriter

theorem fragments_ne_nil (payload : Bytes) : fragments payload ≠ [] := by
  intro hnil
  have hflatten := flatten_chunks (show 0 < maxRecordPayload by decide) payload
  unfold fragments at hnil
  split at hnil
  · cases hnil
  · simp_all

/-- The fragments of a payload are the payload, cut. -/
theorem flatten_fragments (payload : Bytes) : (fragments payload).flatten = payload := by
  unfold fragments
  split
  · simp_all
  · exact flatten_chunks (by decide) payload

theorem length_le_of_mem_fragments {payload fragment : Bytes}
    (hfragment : fragment ∈ fragments payload) : fragment.length ≤ maxRecordPayload := by
  unfold fragments at hfragment
  split at hfragment
  · simp_all
  · exact length_le_of_mem_chunks hfragment

end LkRequest.Record
