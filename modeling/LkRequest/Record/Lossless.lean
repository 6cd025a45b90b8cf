import LkRequest.Crypto.Recorded
import LkRequest.Record.Nonces

/-!
# The record layer is lossless

The statement for whole sessions: the mirrored reader returns what was written, for every cut of
the bytes, every record passes the reader's size limit, and no key and nonce are used for two
emitted records unless a key is installed twice. A coalescing writer keeps the very bytes that an
immediate one hands out.
-/

namespace LkRequest.Record

open Library Crypto List RecordWriter

variable {crypto : Primitives}

/-! ## Writes succeed while sequence numbers last -/

def WireItem.op : WireItem → WriterOp
  | sent contentType payload _ _ => .write contentType payload
  | rekeyed keys => .rekey keys

/-- The number of records a script asks for. -/
def recordCount : List WriterOp → Nat
  | [] => 0
  | .write _ payload :: ops => (fragments payload).length + recordCount ops
  | .rekey _ :: ops => recordCount ops

section Protection

variable (hcrypto : RecordProtection crypto) {writer : RecordWriter}

include hcrypto

theorem writeFragments_ok {contentType : UInt8} (hnonzero : contentType ≠ 0)
    (hkeyed : writer.AesKeyed) (output : Bytes) {pieces : List Bytes}
    (hpieces : ∀ piece ∈ pieces, piece.length ≤ maxRecordPayload)
    (hcount : writer.seqNum.toNat + pieces.length < 2 ^ 64) :
    ∃ next bytes,
      writeFragments crypto contentType writer output pieces = (next, .ok bytes) ∧
      next.seqNum.toNat ≤ writer.seqNum.toNat + pieces.length := by
  induction pieces generalizing writer output with
  | nil => exact ⟨writer, output, rfl, by simp⟩
  | cons piece pieces ih =>
    rw [length_cons] at hcount
    rcases encodeSingleRecord_cases hcrypto hkeyed hnonzero (hpieces piece mem_cons_self)
      with ⟨middle, header, raw, hencodes⟩ | ⟨middle, error, _, hexhausted, _⟩
    · obtain ⟨_, hemitSame, hemitSeq⟩ :=
        middle.emit_fields output output (header.toBytes ++ raw)
      have hseq := encodeSingleRecord_seqNum_le hencodes.encode_eq
      have hkeyed' := (hencodes.sameKeys.trans hemitSame).aesKeyed hkeyed
      obtain ⟨next, bytes, hwrite, hnext⟩ := ih hkeyed'
        (middle.emit output (header.toBytes ++ raw)).2
        ((forall_mem_cons.mp hpieces).2)
        (by rw [hemitSeq]; omega)
      rw [hemitSeq] at hnext
      refine ⟨next, bytes, ?_, by rw [length_cons]; omega⟩
      simp only [writeFragments, hencodes.encode_eq]
      exact hwrite
    · have hlast := hexhausted.2
      unfold checkedSucc at hlast
      split at hlast
      · cases hlast
      · omega

/-- Every operation of a script reaches the wire. -/
theorem runWriter_complete {ops : List WriterOp} (hops : ∀ op ∈ ops, op.Valid)
    (hkeyed : writer.AesKeyed) (hcount : writer.seqNum.toNat + recordCount ops < 2 ^ 64) :
    (runWriter crypto writer ops).map WireItem.op = ops := by
  induction ops generalizing writer with
  | nil => rfl
  | cons op ops ih =>
    have hrest : ∀ op ∈ ops, op.Valid := (forall_mem_cons.mp hops).2
    cases op with
    | rekey keys =>
      have hreset : (writer.install keys).seqNum = 0 := by cases keys <;> rfl
      simp only [recordCount] at hcount
      rw [runWriter, map_cons, ih hrest
        (aesKeyed_install writer (hops _ mem_cons_self))
        (by rw [hreset]; simp only [UInt64.toNat_zero]; omega)]
      rfl
    | write contentType payload =>
      simp only [recordCount] at hcount
      obtain ⟨next, bytes, hwrite, hnext⟩ := writeFragments_ok hcrypto
        (hops _ mem_cons_self) hkeyed []
        (fun _ => length_le_of_mem_fragments)
        (show writer.seqNum.toNat + (fragments payload).length < 2 ^ 64 by omega)
      have hsame := (writeFragments_spec hwrite).1
      simp only [runWriter, writeRecord, hwrite, map_cons]
      rw [ih hrest (hsame.aesKeyed hkeyed) (by omega)]
      rfl

end Protection

/-! ## Coalesced output -/

namespace RecordWriter

/-- The same writer with another output strategy. -/
def withOutput (writer : RecordWriter) (strategy : FlushStrategy) (coalesced : Bytes) :
    RecordWriter :=
  { writer with flushStrategy := strategy, coalesceBuf := coalesced }

theorem advance_withOutput {writer : RecordWriter} {strategy : FlushStrategy}
    {coalesced record : Bytes} :
    (writer.withOutput strategy coalesced).advance record =
      ((writer.advance record).1.withOutput strategy coalesced, (writer.advance record).2) := by
  unfold advance
  simp only [withOutput]
  split <;> rfl

/-- Encoding a record does not depend on where the output goes. -/
theorem encodeSingleRecord_withOutput (writer : RecordWriter) (strategy : FlushStrategy)
    (coalesced : Bytes) (contentType : UInt8) (payload : Bytes) :
    (writer.withOutput strategy coalesced).encodeSingleRecord crypto contentType payload =
      ((writer.encodeSingleRecord crypto contentType payload).1.withOutput strategy coalesced,
        (writer.encodeSingleRecord crypto contentType payload).2) := by
  unfold encodeSingleRecord
  simp only [show (writer.withOutput strategy coalesced).tls12Cipher = writer.tls12Cipher from rfl,
    show (writer.withOutput strategy coalesced).aead = writer.aead from rfl]
  split
  next _ cipher _ =>
    have hencrypt (aad : Bytes) :
        (writer.withOutput strategy coalesced).encryptTls12 crypto cipher aad payload =
          ((writer.encryptTls12 crypto cipher aad payload).1.withOutput strategy coalesced,
            (writer.encryptTls12 crypto cipher aad payload).2) := by
      cases cipher <;> rfl
    unfold encodeTls12EncryptedRecord
    simp only [show (writer.withOutput strategy coalesced).seqNum = writer.seqNum from rfl,
      hencrypt]
    rcases writer.encryptTls12 crypto cipher _ payload with ⟨next, result⟩
    cases result with
    | error error => rfl
    | ok ciphertext => exact advance_withOutput
  next aead _ _ =>
    unfold encodeTls13EncryptedRecord
    simp only [show (writer.withOutput strategy coalesced).seqNum = writer.seqNum from rfl]
    split
    · rfl
    · exact advance_withOutput
  · unfold encodePlaintextRecord
    split <;> rfl

/-- A coalescing writer keeps what an immediate one hands out. -/
theorem writeFragments_coalesce {contentType : UInt8} {writer next : RecordWriter}
    {output bytes : Bytes} {pieces : List Bytes} (coalesced kept : Bytes)
    (himmediate : writer.flushStrategy = .immediate)
    (hwrite : writeFragments crypto contentType writer output pieces = (next, .ok bytes)) :
    ∃ added, bytes = output ++ added ∧
      writeFragments crypto contentType (writer.withOutput .coalesce coalesced) kept pieces =
        (next.withOutput .coalesce (coalesced ++ added), .ok kept) := by
  induction pieces generalizing writer output coalesced with
  | nil =>
    obtain ⟨rfl, hbytes⟩ := Prod.mk.inj hwrite
    refine ⟨[], by simpa using (Except.ok.inj hbytes).symm, ?_⟩
    rw [append_nil]
    rfl
  | cons piece pieces ih =>
    have hsame := sameKeys_encodeSingleRecord crypto writer contentType piece
    have hcommute :=
      @encodeSingleRecord_withOutput crypto writer .coalesce coalesced contentType piece
    rcases hencode : writer.encodeSingleRecord crypto contentType piece with ⟨middle, result⟩
    rw [hencode] at hsame hcommute
    simp only [writeFragments, hencode] at hwrite
    cases result with
    | error error => cases hwrite
    | ok record =>
      have hmiddle : middle.flushStrategy = .immediate :=
        hsame.flushStrategy_eq.trans himmediate
      simp only [emit, hmiddle] at hwrite
      obtain ⟨added, hadded, hrest⟩ := ih (coalesced ++ record) hmiddle hwrite
      refine ⟨record ++ added, by rw [hadded, append_assoc], ?_⟩
      simp only [writeFragments, hcommute]
      rw [← append_assoc]
      exact hrest

/-- The writer after a script, whose coalesced records a flush returns. -/
def afterScript (crypto : Primitives) : RecordWriter → List WriterOp → RecordWriter
  | writer, [] => writer
  | writer, .write contentType payload :: ops =>
    afterScript crypto (writer.writeRecord crypto contentType payload).1 ops
  | writer, .rekey keys :: ops => afterScript crypto (writer.install keys) ops

theorem length_runWriter_le (writer : RecordWriter) (ops : List WriterOp) :
    (runWriter crypto writer ops).length ≤ ops.length := by
  induction ops generalizing writer with
  | nil => exact le_refl _
  | cons op ops ih =>
    cases op with
    | rekey keys => exact Nat.succ_le_succ (ih _)
    | write contentType payload =>
      rcases hwrite : writer.writeRecord crypto contentType payload with ⟨next, result⟩
      simp only [runWriter, hwrite]
      cases result with
      | error error => exact Nat.le_succ_of_le (ih _)
      | ok bytes => exact Nat.succ_le_succ (ih _)

theorem coalesceBuf_afterScript {ops : List WriterOp} {writer : RecordWriter} (coalesced : Bytes)
    (himmediate : writer.flushStrategy = .immediate)
    (hcomplete : (runWriter crypto writer ops).map WireItem.op = ops) :
    ((writer.withOutput .coalesce coalesced).afterScript crypto ops).coalesceBuf =
      coalesced ++ (runWriter crypto writer ops).flatMap WireItem.bytes := by
  induction ops generalizing writer coalesced with
  | nil => exact (append_nil _).symm
  | cons op ops ih =>
    cases op with
    | rekey keys =>
      have hcommute : (writer.withOutput .coalesce coalesced).install keys =
          (writer.install keys).withOutput .coalesce coalesced := by cases keys <;> rfl
      rw [afterScript, hcommute]
      exact ih coalesced ((flushStrategy_install writer keys).trans himmediate)
        (cons.inj hcomplete).2
    | write contentType payload =>
      rcases hwrite : writer.writeRecord crypto contentType payload with ⟨next, result⟩
      simp only [runWriter, hwrite] at hcomplete ⊢
      have hsame := (writeFragments_spec hwrite).1
      cases result with
      | error error =>
        change (runWriter crypto next ops).map WireItem.op = _ at hcomplete
        have hshort := @length_runWriter_le crypto next ops
        have hlength := congrArg length hcomplete
        rw [length_map, length_cons] at hlength
        omega
      | ok bytes =>
        obtain ⟨added, hadded, hkept⟩ :=
          writeFragments_coalesce coalesced [] himmediate hwrite
        subst hadded
        rw [afterScript, writeRecord, hkept, ih (coalesced ++ bytes)
          (hsame.flushStrategy_eq.trans himmediate) (cons.inj hcomplete).2]
        simp only [flatMap_cons, WireItem.bytes, append_assoc]

end RecordWriter

/-! ## The session theorem -/

/-- For every script of writes and key changes, a reader that starts in step returns the written
fragments, whatever the cut of the bytes, and waits with nothing left. All operations reach the
wire while sequence numbers last, a coalescing writer's flush returns the same bytes, and every
record passes the size limit. The bytes are records that are sealed with keys and nonces of which
none is used for two of them, within an epoch or, if no key is installed twice, at all. -/
theorem recordLayer_lossless {crypto : Primitives} (hcrypto : RecordProtection crypto)
    {writer : RecordWriter} {reader : RecordReader} (hsync : InSync writer reader)
    (hempty : reader.buf = []) (hkeyed : writer.AesKeyed)
    (himmediate : writer.flushStrategy = .immediate) {ops : List WriterOp}
    (hops : ∀ op ∈ ops, op.Valid) :
    (∀ pieces : List Bytes, pieces ≠ [] →
      pieces.flatten = (runWriter crypto writer ops).flatMap WireItem.bytes →
      ∃ final, (scheduledConsumer crypto).deliver
          ⟨reader, (runWriter crypto writer ops).flatMap WireItem.steps⟩ pieces =
        ((runWriter crypto writer ops).flatMap WireItem.records, .waiting ⟨final, []⟩) ∧
        final.buf = []) ∧
    (∀ payload : Bytes, (fragments payload).flatten = payload) ∧
    (writer.seqNum.toNat + recordCount ops < 2 ^ 64 →
      (runWriter crypto writer ops).map WireItem.op = ops ∧
      ((writer.withOutput .coalesce []).afterScript crypto ops).flush.2 =
        (runWriter crypto writer ops).flatMap WireItem.bytes) ∧
    (∀ contentType payload bytes encrypted,
      .sent contentType payload bytes encrypted ∈ runWriter crypto writer ops →
      ∃ frames : List Frame, bytes = frames.flatMap Frame.bytes ∧
        ∀ frame ∈ frames, frame.Fits encrypted) ∧
    (sessionRecords crypto 0 writer ops).flatMap EmittedRecord.bytes =
      (runWriter crypto writer ops).flatMap WireItem.bytes ∧
    (∀ entry ∈ sessionRecords crypto 0 writer ops, ∀ used ∈ entry.used,
      SealedWith crypto entry.bytes used) ∧
    (sessionNonces crypto 0 writer ops).Nodup ∧
    (FreshKeys writer ops →
      ((sessionRecords crypto 0 writer ops).filterMap EmittedRecord.used).Nodup) := by
  obtain ⟨hdrain, hframed⟩ := @drain_wire _ hcrypto ops writer hops
    { reader with buf := (runWriter crypto writer ops).flatMap WireItem.bytes } hkeyed himmediate
    (.inl ⟨hsync.aead_eq, hsync.tls12Cipher_eq, hsync.seqNum_eq⟩) rfl
  obtain ⟨hbytes, hsealed⟩ := @sessionRecords_spec crypto 0 writer himmediate ops
  refine ⟨?_, flatten_fragments, ?_, fun _ _ _ _ hitem => hframed _ hitem, hbytes, hsealed,
    (sessionNonces_spec 0 writer ops).1, nodup_nonces⟩
  · intro pieces hpieces hflatten
    obtain ⟨piece, pieces, rfl⟩ := exists_cons_of_ne_nil hpieces
    rw [Consumer.deliver_eq_drain scheduledConsumer_lawful
      (Consumer.waitsOnly_of_forall (fun _ => trivial) _ _), hflatten]
    simpa only [scheduledConsumer, RecordReader.feed, hempty, nil_append] using hdrain
  · intro hcount
    have hcomplete := runWriter_complete hcrypto hops hkeyed hcount
    exact ⟨hcomplete, coalesceBuf_afterScript [] himmediate hcomplete⟩

/-! A plaintext record, a switch to AES-128-GCM and an encrypted record, cut inside both. -/

def helloAead : Aead := ⟨⟨.aes128Gcm, List.replicate 16 0x42, rfl⟩, List.replicate 12 0x01, rfl⟩

def helloRecording : Recording where
  seals := [⟨.aes128Gcm, List.replicate 16 0x42, List.replicate 12 0x01,
    [0x17, 0x03, 0x03, 0x00, 0x16], [0x68, 0x65, 0x6c, 0x6c, 0x6f, 0x17],
    [0xad, 0x43, 0x3e, 0x69, 0x86, 0xbb, 0xc4, 0x58, 0x17, 0x3c, 0x71, 0x52, 0x3f, 0x2d, 0x54,
      0x91, 0x5c, 0x27, 0xff, 0xab, 0xc4, 0x2c]⟩]

theorem helloRecording_sound : helloRecording.Sound where
  digest_length := by decide
  hmac_length := by decide
  seal_length := by decide
  seal_tag := by decide
  seal_injective := by decide

def helloOps : List WriterOp :=
  [.write 0x16 [0x0e, 0x00, 0x00, 0x00], .rekey (.tls13 helloAead),
    .write 0x17 [0x68, 0x65, 0x6c, 0x6c, 0x6f]]

theorem recordLayer_lossless_hello :
    (∃ final, (scheduledConsumer helloRecording.primitives).deliver
        ⟨RecordReader.new, [.record, .rekey (.tls13 helloAead), .record]⟩
        [[0x16, 0x03, 0x01, 0x00, 0x04, 0x0e],
          [0x00, 0x00, 0x00, 0x17, 0x03, 0x03, 0x00, 0x16, 0xad, 0x43, 0x3e],
          [0x69, 0x86, 0xbb, 0xc4, 0x58, 0x17, 0x3c, 0x71, 0x52, 0x3f, 0x2d, 0x54, 0x91, 0x5c,
            0x27, 0xff, 0xab, 0xc4, 0x2c]] =
      ([⟨0x16, [0x0e, 0x00, 0x00, 0x00]⟩, ⟨0x17, [0x68, 0x65, 0x6c, 0x6c, 0x6f]⟩],
        .waiting ⟨final, []⟩) ∧ final.buf = []) ∧
      (runWriter helloRecording.primitives .new helloOps).map WireItem.op = helloOps ∧
      (∀ entry ∈ sessionRecords helloRecording.primitives 0 .new helloOps, ∀ used ∈ entry.used,
        SealedWith helloRecording.primitives entry.bytes used) ∧
      ((sessionRecords helloRecording.primitives 0 .new helloOps).filterMap
        EmittedRecord.used).Nodup ∧
      (sessionRecords helloRecording.primitives 0 .new helloOps).map EmittedRecord.used =
        [none, some (helloAead.key, helloAead.iv)] := by
  -- Only the second of the two epochs has a key.
  have hfresh : FreshKeys .new helloOps := by
    have hsecond (index : Nat) (key : AeadKey)
        (hkey : (epochKeys .new helloOps)[index]? = some (some key)) : index = 1 := by
      match index with
      | 0 => cases hkey
      | 1 => rfl
      | _ + 2 => cases hkey
    intro left right key hleft hright
    rw [hsecond left key hleft, hsecond right key hright]
  obtain ⟨hread, -, hcomplete, -, -, hsealed, -, hnodup⟩ :=
    @recordLayer_lossless _ helloRecording_sound.protection RecordWriter.new RecordReader.new
      ⟨rfl, rfl, rfl⟩ rfl (fun _ hcipher => by cases hcipher) rfl helloOps
      (by simp [helloOps, WriterOp.Valid, RecordKeys.AesKeyed])
  exact ⟨hread _ (by decide) (by decide), (hcomplete (by decide)).1, hsealed, hnodup hfresh,
    by decide⟩

/-- A key that is installed twice starts again with its first nonce. -/
theorem reused_key_repeats_nonce :
    ¬((sessionRecords helloRecording.primitives 0 .new
      [.rekey (.tls13 helloAead), .write 0x17 [0x68, 0x65, 0x6c, 0x6c, 0x6f],
        .rekey (.tls13 helloAead), .write 0x17 [0x68, 0x65, 0x6c, 0x6c, 0x6f]]).filterMap
      EmittedRecord.used).Nodup := by
  decide

end LkRequest.Record
