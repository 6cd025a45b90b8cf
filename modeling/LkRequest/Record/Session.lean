import LkRequest.Record.RoundTrip

/-!
# Record sessions

Whole runs of the record layer: a writer's `write_record` calls with key changes in between, and
the mirrored reader, which is fed the emitted bytes in arbitrary pieces and installs each new key
after the last record under the old one. `deliver_wire` says that the reader returns exactly the
written fragments; `nodup_nonces` that no key and nonce protect two emitted records.
-/

namespace LkRequest.Record

open Library Crypto List RecordWriter

/-! ## Scripts -/

/-- Keys that both sides install at the same point of the stream. -/
inductive RecordKeys where
  | tls13 (aead : Aead)
  | tls12 (cipher : Tls12RecordCipher)

def RecordKeys.AesKeyed : RecordKeys → Prop
  | tls13 _ => True
  | tls12 cipher => cipher.AesKeyed

def RecordReader.install (reader : RecordReader) : RecordKeys → RecordReader
  | .tls13 aead => reader.setKeys aead
  | .tls12 cipher => reader.setTls12Keys cipher

def RecordWriter.install (writer : RecordWriter) : RecordKeys → RecordWriter
  | .tls13 aead => writer.setKeys aead
  | .tls12 cipher => writer.setTls12Keys cipher

inductive WriterOp where
  | write (contentType : UInt8) (payload : Bytes)
  | rekey (keys : RecordKeys)

/-- Content types are not zero, and CBC keys are AES keys. -/
def WriterOp.Valid : WriterOp → Prop
  | write contentType _ => contentType ≠ 0
  | rekey keys => keys.AesKeyed

/-- What a script puts on the wire: the bytes of a successful write, with the protection they
went out under, or the point of a key change. -/
inductive WireItem where
  | sent (contentType : UInt8) (payload bytes : Bytes) (encrypted : Bool)
  | rekeyed (keys : RecordKeys)

variable (crypto : Primitives)

/-- Run a script; a write that fails emits nothing and the script goes on. -/
def runWriter : RecordWriter → List WriterOp → List WireItem
  | _, [] => []
  | writer, .write contentType payload :: ops =>
    match writer.writeRecord crypto contentType payload with
    | (next, .ok bytes) =>
      .sent contentType payload bytes writer.isEncrypted :: runWriter next ops
    | (next, .error _) => runWriter next ops
  | writer, .rekey keys :: ops => .rekeyed keys :: runWriter (writer.install keys) ops

namespace WireItem

def bytes : WireItem → Bytes
  | sent _ _ bytes _ => bytes
  | rekeyed _ => []

/-- The records a reader has to return for an item. -/
def records : WireItem → List PlaintextRecord
  | sent contentType payload _ _ => (fragments payload).map fun fragment => ⟨contentType, fragment⟩
  | rekeyed _ => []

end WireItem

/-- The mirrored reader's schedule: read a record, or install keys. -/
inductive ReaderStep where
  | record
  | rekey (keys : RecordKeys)

def WireItem.steps : WireItem → List ReaderStep
  | sent _ payload _ _ => (fragments payload).map fun _ => .record
  | rekeyed keys => [.rekey keys]

structure ScheduledReader where
  reader : RecordReader
  schedule : List ReaderStep

/-- Install the keys that are due before the next record. -/
def settle : RecordReader → List ReaderStep → ScheduledReader
  | reader, .rekey keys :: schedule => settle (reader.install keys) schedule
  | reader, schedule => ⟨reader, schedule⟩

def scheduledConsumer :
    Consumer ScheduledReader UInt8 PlaintextRecord (ScheduledReader × TlsError) where
  feed scheduled data := ⟨scheduled.reader.feed data, scheduled.schedule⟩
  call scheduled :=
    let settled := settle scheduled.reader scheduled.schedule
    match settled.reader.nextRecord crypto with
    | (reader, .ok none) => .need ⟨reader, settled.schedule⟩
    | (reader, .ok (some record)) => .emit ⟨reader, settled.schedule.tail⟩ record
    | (reader, .error error) => .stop (⟨reader, settled.schedule⟩, error)
  feedResult result data :=
    (⟨result.1.reader.feed data, result.1.schedule⟩, result.2)
  size scheduled := scheduled.reader.buf.length

/-! ## The mirrored reader does not see the cuts -/

variable {crypto}

variable (reader : RecordReader)

theorem RecordReader.install_feed (keys : RecordKeys) (data : Bytes) :
    (reader.feed data).install keys = (reader.install keys).feed data := by
  cases keys <;> rfl

variable (schedule : List ReaderStep)

theorem settle_feed (data : Bytes) :
    settle (reader.feed data) schedule =
      ⟨(settle reader schedule).reader.feed data, (settle reader schedule).schedule⟩ := by
  induction schedule generalizing reader with
  | nil => rfl
  | cons step schedule ih =>
    cases step with
    | record => rfl
    | rekey keys =>
      rw [settle, RecordReader.install_feed, ih]
      rfl

theorem settle_settle :
    settle (settle reader schedule).reader (settle reader schedule).schedule =
      settle reader schedule := by
  induction schedule generalizing reader with
  | nil => rfl
  | cons step schedule ih =>
    cases step with
    | record => rfl
    | rekey keys => exact ih (reader.install keys)

theorem buf_settle : (settle reader schedule).reader.buf = reader.buf := by
  induction schedule generalizing reader with
  | nil => rfl
  | cons step schedule ih =>
    cases step with
    | record => rfl
    | rekey keys =>
      rw [settle, ih]
      cases keys <;> rfl

theorem scheduledConsumer_lawful : (scheduledConsumer crypto).Lawful fun _ => True where
  feed_append scheduled left right := by
    simp only [scheduledConsumer, RecordReader.feed_feed]
  feedResult_append result left right := by
    simp only [scheduledConsumer, RecordReader.feed_feed]
  emit_size scheduled next output hcall := by
    simp only [scheduledConsumer] at hcall ⊢
    split at hcall
    · cases hcall
    next hnext =>
      obtain ⟨rfl, rfl⟩ := Reply.emit.inj hcall
      rw [← buf_settle scheduled.reader scheduled.schedule]
      exact RecordReader.nextRecord_length_lt hnext
    · cases hcall
  emit_feed scheduled next output more hcall := by
    simp only [scheduledConsumer] at hcall ⊢
    split at hcall
    · cases hcall
    next hnext =>
      obtain ⟨rfl, rfl⟩ := Reply.emit.inj hcall
      rw [settle_feed, RecordReader.nextRecord_feed hnext (by simp) more]
    · cases hcall
  stop_feed scheduled result more hcall := by
    simp only [scheduledConsumer] at hcall ⊢
    split at hcall
    · cases hcall
    · cases hcall
    next hnext =>
      obtain rfl := Reply.stop.inj hcall
      rw [settle_feed, RecordReader.nextRecord_feed hnext (by simp) more]
  need_feed scheduled next more hcall _ := by
    simp only [scheduledConsumer] at hcall ⊢
    split at hcall
    next hnext =>
      obtain rfl := Reply.need.inj hcall
      obtain rfl := RecordReader.nextRecord_none hnext
      rw [settle_feed, settle_feed, settle_settle]
    · cases hcall
    · cases hcall

theorem drain_rekey (keys : RecordKeys) (schedule : List ReaderStep) :
    (scheduledConsumer crypto).drain ⟨reader, .rekey keys :: schedule⟩ =
      (scheduledConsumer crypto).drain ⟨reader.install keys, schedule⟩ :=
  Consumer.drain_congr scheduledConsumer_lawful rfl

/-! ## Fragments of one payload -/

/-- A record on the wire: its header and its payload. -/
structure Frame where
  header : RecordHeader
  payload : Bytes

def Frame.bytes (frame : Frame) : Bytes := frame.header.toBytes ++ frame.payload

/-- The header names the payload's length, and the reader accepts that length. -/
def Frame.Fits (frame : Frame) (encrypted : Bool) : Prop :=
  frame.payload.length = frame.header.length.toNat ∧
    frame.header.length.toNat ≤ recordLimit encrypted

/-- The bytes of a write are whole records. -/
def WireItem.Framed : WireItem → Prop
  | .sent _ _ bytes encrypted => ∃ frames : List Frame, bytes = frames.flatMap Frame.bytes ∧
    ∀ frame ∈ frames, frame.Fits encrypted
  | .rekeyed _ => True

theorem RecordWriter.SameKeys.aesKeyed {writer next : RecordWriter}
    (hsame : RecordWriter.SameKeys writer next) (hkeyed : writer.AesKeyed) : next.AesKeyed := by
  intro cipher hcipher
  exact hkeyed cipher (hsame.tls12Cipher_eq.symm.trans hcipher)

section Protection

variable (hcrypto : RecordProtection crypto) {contentType : UInt8} (hnonzero : contentType ≠ 0)
  {writer next : RecordWriter} {pieces : List Bytes}

include hcrypto hnonzero

/-- A reader in step returns the fragments of a successful write one by one. -/
theorem drain_fragments {output bytes : Bytes}
    (hkeyed : writer.AesKeyed) (himmediate : writer.flushStrategy = .immediate)
    (hpieces : ∀ piece ∈ pieces, piece.length ≤ maxRecordPayload)
    (hwrite : writeFragments crypto contentType writer output pieces =
      (next, .ok bytes)) : ∃ frames : List Frame, bytes = output ++ frames.flatMap Frame.bytes ∧
      (∀ frame ∈ frames, frame.Fits writer.isEncrypted) ∧
      ∀ reader rest schedule, InSync writer reader →
        reader.buf = frames.flatMap Frame.bytes ++ rest →
        ∃ reader', InSync next reader' ∧ reader'.buf = rest ∧
          (scheduledConsumer crypto).drain
            ⟨reader, pieces.map (fun _ => .record) ++ schedule⟩ =
          (pieces.map (fun piece => ⟨contentType, piece⟩) ++
              ((scheduledConsumer crypto).drain ⟨reader', schedule⟩).1,
            ((scheduledConsumer crypto).drain ⟨reader', schedule⟩).2) := by
  induction pieces generalizing writer output with
  | nil =>
    obtain ⟨rfl, rfl⟩ := hwrite
    refine ⟨[], by simp, by simp, ?_⟩
    intro reader rest schedule hsync hbuf
    exact ⟨reader, hsync, by simpa using hbuf, rfl⟩
  | cons piece pieces ih =>
    rcases encodeSingleRecord_cases hcrypto hkeyed hnonzero (hpieces piece mem_cons_self)
      with ⟨middle, header, raw, hencodes⟩ | ⟨middle, error, hencode, _⟩
    · have hsame := hencodes.sameKeys
      have himmediate' := hsame.flushStrategy_eq.trans himmediate
      simp only [writeFragments, hencodes.encode_eq, emit, himmediate'] at hwrite
      obtain ⟨frames, hbytes, hfits, hread⟩ := ih (hsame.aesKeyed hkeyed) himmediate'
        ((forall_mem_cons.mp hpieces).2) hwrite
      refine ⟨⟨header, raw⟩ :: frames, ?_, ?_, ?_⟩
      · rw [hbytes, flatMap_cons, append_assoc]
        rfl
      · intro frame hframe
        rcases mem_cons.mp hframe with rfl | hframe
        · exact ⟨hencodes.length_eq, hencodes.length_le⟩
        · rw [← hsame.isEncrypted_eq]
          exact hfits frame hframe
      · intro reader rest schedule hsync hbuf
        obtain ⟨opened, hopenedSync, hopen⟩ := hencodes.opens
          { reader with buf := frames.flatMap Frame.bytes ++ rest }
          ⟨hsync.aead_eq, hsync.tls12Cipher_eq, hsync.seqNum_eq⟩
        have hframed : reader.Framed header raw (frames.flatMap Frame.bytes ++ rest) := by
          refine ⟨?_, hencodes.length_eq, ?_⟩
          · rw [hbuf, flatMap_cons, Frame.bytes, append_assoc, append_assoc]
          · rw [hsync.maxLen_eq]
            exact hencodes.length_le
        have hnext := @RecordReader.nextRecord_of_framed crypto _ _ _ _ hframed
        have hopenedBuf := (@RecordReader.openRecord_fields crypto
          { reader with buf := frames.flatMap Frame.bytes ++ rest } header raw).1
        rw [hopen] at hnext hopenedBuf
        obtain ⟨final, hfinalSync, hfinalBuf, hdrain⟩ :=
          hread opened rest schedule hopenedSync hopenedBuf
        refine ⟨final, hfinalSync, hfinalBuf, ?_⟩
        replace hnext : reader.nextRecord crypto =
          (opened, .ok (some ⟨contentType, piece⟩)) := hnext
        have hemits : (scheduledConsumer crypto).call
            ⟨reader, .record :: (pieces.map (fun _ => .record) ++ schedule)⟩ =
              .emit ⟨opened, pieces.map (fun _ => .record) ++ schedule⟩ ⟨contentType, piece⟩ := by
          simp only [scheduledConsumer, settle, hnext, tail_cons]
        rw [map_cons, cons_append, Consumer.drain_emit scheduledConsumer_lawful hemits, hdrain]
        rfl
    · simp only [writeFragments, hencode, Prod.mk.injEq] at hwrite
      cases hwrite.2

/-- A write fails only on an exhausted writer, and leaves it exhausted. -/
theorem exhausted_of_writeFragments_error {output : Bytes}
    {error : TlsError} (hkeyed : writer.AesKeyed)
    (hpieces : ∀ piece ∈ pieces, piece.length ≤ maxRecordPayload)
    (hwrite : writeFragments crypto contentType writer output pieces =
      (next, .error error)) : next.Exhausted := by
  induction pieces generalizing writer output with
  | nil => cases hwrite
  | cons piece pieces ih =>
    rcases encodeSingleRecord_cases hcrypto hkeyed hnonzero (hpieces piece mem_cons_self)
      with ⟨middle, header, raw, hencodes⟩ | ⟨middle, error', hencode, _, hexhausted⟩
    · have hsame := hencodes.sameKeys
      simp only [writeFragments, hencodes.encode_eq] at hwrite
      refine ih ?_ ((forall_mem_cons.mp hpieces).2) hwrite
      intro cipher hcipher
      refine hkeyed cipher (hsame.tls12Cipher_eq.symm.trans ?_)
      rw [← hcipher, emit]
      split <;> rfl
    · simp only [writeFragments, hencode, Prod.mk.injEq] at hwrite
      rw [← hwrite.1]
      exact hexhausted

/-- An exhausted writer writes nothing more. -/
theorem writeRecord_of_exhausted (hkeyed : writer.AesKeyed)
    (hexhausted : writer.Exhausted) (payload : Bytes) :
    ∃ next error, writer.writeRecord crypto contentType payload = (next, .error error) := by
  obtain ⟨piece, pieces, hfragments⟩ := exists_cons_of_ne_nil (fragments_ne_nil payload)
  have hpiece : piece.length ≤ maxRecordPayload := by
    apply length_le_of_mem_fragments
    rw [hfragments]
    exact mem_cons_self
  rcases encodeSingleRecord_cases hcrypto hkeyed hnonzero hpiece
    with ⟨middle, header, raw, hencodes⟩ | ⟨middle, error, hencode, _⟩
  · exact absurd hexhausted hencodes.live
  · refine ⟨middle, error, ?_⟩
    simp only [writeRecord, hfragments, writeFragments, hencode]

end Protection

/-! ## Whole scripts -/

theorem inSync_install {writer : RecordWriter} {reader : RecordReader} {keys : RecordKeys} :
    InSync (writer.install keys) (reader.install keys) := by
  cases keys <;> exact ⟨rfl, rfl, rfl⟩

theorem aesKeyed_install (writer : RecordWriter) {keys : RecordKeys} (hkeyed : keys.AesKeyed) :
    (writer.install keys).AesKeyed := by
  intro cipher hcipher
  cases keys with
  | tls13 aead => exact absurd hcipher (by simp [install, setKeys])
  | tls12 installed =>
    obtain rfl := Option.some.inj hcipher
    exact hkeyed

theorem flushStrategy_install (writer : RecordWriter) (keys : RecordKeys) :
    (writer.install keys).flushStrategy = writer.flushStrategy := by
  cases keys <;> rfl

theorem drain_empty {reader : RecordReader} (hbuf : reader.buf = []) :
    (scheduledConsumer crypto).drain ⟨reader, []⟩ = ([], .waiting ⟨reader, []⟩) := by
  apply Consumer.drain_need
  simp only [scheduledConsumer, settle, RecordReader.nextRecord, hbuf, length_nil]
  rfl

section Scripts

variable (hcrypto : RecordProtection crypto) {ops : List WriterOp} {writer : RecordWriter}

include hcrypto

/-- The run lemma: the mirrored reader returns the records of every item, in order, and is left
with an empty buffer, and every record passes the size limit of the reader. After a failed write
the two sides are out of step, but nothing more is emitted before the next key change. -/
theorem drain_wire (hops : ∀ op ∈ ops, op.Valid) {reader : RecordReader} (hkeyed : writer.AesKeyed)
    (himmediate : writer.flushStrategy = .immediate)
    (hsync : InSync writer reader ∨ writer.Exhausted)
    (hbuf : reader.buf = (runWriter crypto writer ops).flatMap WireItem.bytes) :
    (∃ final, (scheduledConsumer crypto).drain
        ⟨reader, (runWriter crypto writer ops).flatMap WireItem.steps⟩ =
      ((runWriter crypto writer ops).flatMap WireItem.records, .waiting ⟨final, []⟩) ∧
      final.buf = []) ∧ ∀ item ∈ runWriter crypto writer ops, item.Framed := by
  induction ops generalizing writer reader with
  | nil => exact ⟨⟨reader, drain_empty hbuf, hbuf⟩, forall_mem_nil _⟩
  | cons op ops ih =>
    have hrest : ∀ op ∈ ops, op.Valid := (forall_mem_cons.mp hops).2
    cases op with
    | rekey keys =>
      have hvalid : keys.AesKeyed := hops _ mem_cons_self
      obtain ⟨⟨final, hdrain, hfinal⟩, hframed⟩ := ih hrest (aesKeyed_install writer hvalid)
        ((flushStrategy_install writer keys).trans himmediate)
        (.inl inSync_install)
        (by
          cases keys <;> exact hbuf)
      refine ⟨⟨final, ?_, hfinal⟩, forall_mem_cons.mpr ⟨trivial, hframed⟩⟩
      simp only [runWriter, flatMap_cons, WireItem.steps, WireItem.records,
        singleton_append, nil_append]
      rw [drain_rekey, hdrain]
    | write contentType payload =>
      have hnonzero : contentType ≠ 0 := hops _ mem_cons_self
      rcases hwrite : writer.writeRecord crypto contentType payload with ⟨next, result⟩
      rw [writeRecord] at hwrite
      have hsame := (writeFragments_spec hwrite).1
      have hkeyed' := hsame.aesKeyed hkeyed
      have himmediate' := hsame.flushStrategy_eq.trans himmediate
      cases result with
      | error error =>
        have hexhausted := exhausted_of_writeFragments_error hcrypto hnonzero hkeyed
          (fun _ => length_le_of_mem_fragments) hwrite
        simp only [runWriter, writeRecord, hwrite] at hbuf ⊢
        exact ih hrest hkeyed' himmediate' (.inr hexhausted) hbuf
      | ok bytes =>
        have hstep : InSync writer reader := by
          rcases hsync with hsync | hexhausted
          · exact hsync
          · obtain ⟨next', error, hfailed⟩ :=
              writeRecord_of_exhausted hcrypto hnonzero hkeyed hexhausted payload
            rw [writeRecord, hwrite] at hfailed
            cases hfailed
        simp only [runWriter, writeRecord, hwrite, flatMap_cons,
          WireItem.bytes, WireItem.steps, WireItem.records] at hbuf ⊢
        obtain ⟨frames, hbytes, hfits, hread⟩ := drain_fragments hcrypto hnonzero hkeyed
          himmediate (fun _ => length_le_of_mem_fragments) hwrite
        rw [hbytes] at hbuf
        obtain ⟨reader', hsync', hbuf', hdrain⟩ := hread reader _
          ((runWriter crypto next ops).flatMap WireItem.steps) hstep hbuf
        obtain ⟨⟨final, hfinal, hfinalBuf⟩, hframed⟩ :=
          ih hrest hkeyed' himmediate' (.inl hsync') hbuf'
        refine ⟨⟨final, ?_, hfinalBuf⟩, forall_mem_cons.mpr ⟨⟨frames, hbytes, hfits⟩, hframed⟩⟩
        rw [hdrain, hfinal]

end Scripts

end LkRequest.Record
