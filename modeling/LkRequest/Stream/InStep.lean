import LkRequest.Record.RoundTrip
import LkRequest.Stream.Connection
import LkRequest.Stream.Polls

/-!
# In step with the server

A stream is in step with a connection if its reader and writer hold the connection's keys at the
connection's sequence numbers, and it has kept the tickets and written the answers of the
connection. Each record that holds one whole message keeps both in step.
-/

namespace LkRequest.Stream

open Library Crypto Session Record Handshake List Action RecordWriter Option Direction

/-! ## Records of one direction -/

theorem stripInnerContentType_innerPlaintext {contentType : UInt8} (hnonzero : contentType ≠ 0)
    (payload : Bytes) (padding : Nat) :
    stripInnerContentType (innerPlaintext contentType payload padding) =
      .ok (contentType, payload) := by
  have hzeros : ∀ bytes : Bytes, (List.replicate padding (0 : UInt8) ++ bytes).dropWhile (· == 0) =
      bytes.dropWhile (· == 0) := by
    intro bytes
    apply dropWhile_append_of_pos
    intro byte hbyte
    rw [eq_of_mem_replicate hbyte]
    rfl
  rw [innerPlaintext, stripInnerContentType, reverse_append, reverse_replicate, hzeros]
  exact stripInnerContentType_concat hnonzero payload

namespace Direction

variable {crypto : Primitives} {direction next : Direction} {contentType : UInt8}
  {payload bytes : Bytes} {padding : Nat}

variable (hcrypto : RecordProtection crypto)
  (hprotect : direction.protect crypto contentType payload padding = some (next, bytes))
include hprotect

theorem protect_eq_some :
    ∃ sealedInner seqNum,
      (innerPlaintext contentType payload padding).length ≤ maxRecordPayload + 1 ∧
      direction.aead.encrypt crypto direction.seqNum
        (direction.header (innerPlaintext contentType payload padding)).toBytes
        (innerPlaintext contentType payload padding) = .ok sealedInner ∧
      checkedSucc direction.seqNum = some seqNum ∧
      next = { direction with seqNum := seqNum } ∧
      bytes = (direction.header (innerPlaintext contentType payload padding)).toBytes ++
        sealedInner := by
  simp only [protect, bind_eq_bind, bind_eq_some_iff, guard_eq_some',
    exists_const, Option.pure_def, Option.some.injEq, Prod.mk.injEq,
    toOption_eq_some] at hprotect
  obtain ⟨hlength, sealedInner, hseal, seqNum, hsucc, rfl, rfl⟩ := hprotect
  exact ⟨sealedInner, seqNum, hlength, hseal, hsucc, rfl, rfl⟩

include hcrypto

/-- A record of a direction is a header with what it announces. -/
theorem length_protect :
    ∃ sealedInner,
      bytes = (direction.header (innerPlaintext contentType payload padding)).toBytes ++
        sealedInner ∧
      sealedInner.length =
        (direction.header (innerPlaintext contentType payload padding)).length.toNat ∧
      sealedInner.length ≤ 16401 ∧
      direction.aead.decrypt crypto direction.seqNum
        (direction.header (innerPlaintext contentType payload padding)).toBytes sealedInner =
          .ok (innerPlaintext contentType payload padding) := by
  obtain ⟨sealedInner, seqNum, hlength, hencrypt, _, _, rfl⟩ := protect_eq_some hprotect
  obtain ⟨ciphertext, hencrypt', hciphertext, hdecrypt⟩ := direction.aead.encrypt_ok hcrypto
    direction.seqNum (direction.header (innerPlaintext contentType payload padding)).toBytes hlength
  obtain rfl := Except.ok.inj (hencrypt.symm.trans hencrypt')
  simp only [maxRecordPayload] at hlength
  have hsize : (direction.header (innerPlaintext contentType payload padding)).length.toNat =
      (innerPlaintext contentType payload padding).length + 16 :=
    toNat_ofNat_length (by simp only [AeadAlgorithm.tagLen]; omega)
  exact ⟨sealedInner, rfl, by rw [hsize, hciphertext], by omega, hdecrypt⟩

variable {reader : RecordReader}

/-- A reader with the direction's keys takes its record out of the buffer. -/
theorem nextRecord_of_protect (hnonzero : contentType ≠ 0)
    (haead : reader.aead = some direction.aead) (htls12 : reader.tls12Cipher = none)
    (hseqNum : reader.seqNum = direction.seqNum) {rest : Bytes}
    (hbuf : reader.buf = bytes ++ rest) :
    reader.nextRecord crypto =
      ({ reader with buf := rest, seqNum := next.seqNum }, .ok (some ⟨contentType, payload⟩)) := by
  obtain ⟨_, seqNum, _, _, hsucc, rfl, _⟩ := protect_eq_some hprotect
  obtain ⟨sealedInner, rfl, hsize, hle, hdecrypt⟩ := length_protect hcrypto hprotect
  have hframed : reader.Framed (direction.header (innerPlaintext contentType payload padding))
      sealedInner rest := by
    refine ⟨by rw [hbuf, append_assoc], hsize, ?_⟩
    rw [← hsize, RecordReader.maxLen, RecordReader.isEncrypted, haead]
    exact hle.trans (by simp [maxRecordPayload])
  rw [RecordReader.nextRecord_of_framed hframed]
  simp only [RecordReader.openRecord, htls12, haead, hseqNum, header, if_true]
  simp only [header] at hdecrypt
  rw [hdecrypt]
  simp only [RecordReader.advance, hsucc, stripInnerContentType_innerPlaintext hnonzero, Except.map]

/-- A part of the direction's record is not yet a record. -/
theorem nextRecord_of_part (haead : reader.aead = some direction.aead) {future more : Bytes}
    (hbuf : reader.buf ++ future = bytes ++ more) (hpart : reader.buf.length < bytes.length) :
    (reader.nextRecord crypto).2 = .ok none := by
  obtain ⟨sealedInner, rfl, hlength, hle, -⟩ := length_protect hcrypto hprotect
  generalize direction.header (innerPlaintext contentType payload padding) = header at *
  have hsameHeader : ∀ (found : RecordHeader) (rest : Bytes),
      reader.buf = found.toBytes ++ rest → found = header := by
    intro found rest hfound
    rw [hfound, append_assoc, append_assoc] at hbuf
    rw [← RecordHeader.fromBytes_toBytes found, ← RecordHeader.fromBytes_toBytes header,
      (append_inj hbuf rfl).1]
  rcases reader.nextRecord_cases with
    hnone | ⟨found, rest, hoversized⟩ | ⟨found, raw, rest, hframed⟩
  · rw [hnone crypto]
  · have hgt := hoversized.length_gt
    rw [hsameHeader found rest hoversized.buf_eq, RecordReader.maxLen, RecordReader.isEncrypted,
      haead] at hgt
    simp only [maxRecordPayload, isSome_some, Bool.true_or, if_true] at hgt
    omega
  · have hwhole := hframed.length_eq
    rw [hsameHeader found _ hframed.buf_eq, ← hlength] at hwhole
    rw [hframed.buf_eq] at hpart
    simp only [length_append, RecordHeader.length_toBytes] at hpart
    omega

omit hcrypto hprotect

/-- A writer with the direction's keys makes its record. -/
theorem writeRecord_of_protect
    (hprotect : direction.protect crypto contentType payload 0 = some (next, bytes))
    {writer : RecordWriter} (haead : writer.aead = some direction.aead)
    (htls12 : writer.tls12Cipher = none) (hseqNum : writer.seqNum = direction.seqNum)
    (himmediate : writer.flushStrategy = .immediate) (hnonempty : payload ≠ [])
    (hlength : payload.length ≤ maxRecordPayload) :
    writer.writeRecord crypto contentType payload =
      ({ writer with seqNum := next.seqNum }, .ok bytes) := by
  obtain ⟨sealedInner, seqNum, _, hencrypt, hsucc, rfl, rfl⟩ := protect_eq_some hprotect
  have hinner : innerPlaintext contentType payload 0 = payload ++ [contentType] := by
    rw [innerPlaintext, replicate_zero, append_nil]
  rw [hinner] at hencrypt ⊢
  have hencode : writer.encodeSingleRecord crypto contentType payload =
      ({ writer with seqNum := seqNum }, .ok ((direction.header (payload ++ [contentType])).toBytes
        ++ sealedInner)) := by
    simp only [header] at hencrypt ⊢
    simp only [encodeSingleRecord, htls12, haead,
      encodeTls13EncryptedRecord, hseqNum, hencrypt, advance, hsucc]
  have hfragments : fragments payload = [payload] := by
    rw [fragments, if_neg hnonempty]
    exact chunks_of_length_le hnonempty hlength
  simp only [writeRecord, hfragments, writeFragments, hencode, emit, himmediate, nil_append]

/-- The client derives the direction's next keys. -/
theorem updateTrafficSecret_of_update (state : PostHandshakeState)
    (hupdate : direction.update crypto state.hkdfAlgorithm state.aeadAlgorithm = some next) :
    updateTrafficSecret crypto state direction.secret = .ok (next.secret, next.aead) ∧
      next.seqNum = 0 := by
  simp only [update, bind_eq_bind, bind_eq_some_iff, toOption_eq_some,
    Option.pure_def, Option.some.injEq] at hupdate
  obtain ⟨secret, hsecret, ⟨key, iv⟩, hkey, aead, haead, rfl⟩ := hupdate
  refine ⟨?_, rfl⟩
  exact bind_eq_ok.mpr ⟨secret, hsecret, bind_eq_ok.mpr ⟨(key, iv), hkey,
    bind_eq_ok.mpr ⟨aead, haead, rfl⟩⟩⟩

end Direction

/-! ## Messages -/

namespace PostHandshakeMessage

variable {crypto : Primitives}

/-- The fields of a ticket before its nonce. -/
def ticketHead (lifetime ageAdd : UInt32) (nonce : Bytes) : Bytes :=
  be32 lifetime.toNat ++ be32 ageAdd.toNat ++ [UInt8.ofNat nonce.length]

theorem u32At_be32 (before : Bytes) (value : UInt32) (rest : Bytes) :
    u32At (before ++ (be32 value.toNat ++ rest)) before.length = value := by
  have hlow : u16At (before ++ (be32 value.toNat ++ rest)) (before.length + 2) =
      value.toNat % 65536 := u16At_append_right before _ 2 |>.trans (readBe16_ofNat value.toNat)
  have hhigh : u16At (before ++ (be32 value.toNat ++ rest)) before.length =
      value.toNat / 65536 % 65536 :=
    u16At_append_right before _ 0 |>.trans (readBe16_ofNat (value.toNat / 65536))
  have hvalue := value.toNat_lt
  rw [u32At, hlow, hhigh]
  apply UInt32.toNat.inj
  rw [UInt32.toNat_ofNat']
  omega

/-- The client reads a ticket as it was sent. -/
theorem processNewSessionTicket_encode {context : SessionTicketContext}
    {lifetime ageAdd : UInt32} {nonce ticket extensions : Bytes} {kept : SessionTicketData}
    (hvalid : (newSessionTicket lifetime ageAdd nonce ticket extensions).Valid)
    (hkept : ticketData crypto context lifetime ageAdd nonce ticket extensions = some kept) :
    processNewSessionTicket crypto context
      (newSessionTicket lifetime ageAdd nonce ticket extensions).encode = some kept := by
  obtain ⟨hnonce, _, hticket, hextensions⟩ := hvalid
  simp only [ticketData, bind_eq_bind, bind_eq_some_iff, toOption_eq_some,
    Option.pure_def, Option.some.injEq] at hkept
  obtain ⟨psk, hpsk, rfl⟩ := hkept
  have hbody : ticketBody (newSessionTicket lifetime ageAdd nonce ticket extensions).encode =
      (newSessionTicket lifetime ageAdd nonce ticket extensions).body := by
    rfl
  set data := (newSessionTicket lifetime ageAdd nonce ticket extensions).body with hdata
  have hnonceLength : (byteAt data 8).toNat = nonce.length := by
    change (UInt8.ofNat nonce.length).toNat = nonce.length
    rw [UInt8.toNat_ofNat', Nat.mod_eq_of_lt hnonce]
  have hlength : data.length = 13 + nonce.length + ticket.length + extensions.length := by
    simp [hdata, body]
    omega
  -- The message is cut after its head, its nonce, its ticket and the length of its extensions.
  have hcut : data = ticketHead lifetime ageAdd nonce ++ (nonce ++
      (be16 ticket.length ++ (ticket ++ (be16 extensions.length ++ extensions)))) := by
    simp [hdata, body, ticketHead]
  have hhead : (ticketHead lifetime ageAdd nonce).length = 9 := rfl
  have hfield (before : Bytes) {middle rest : Bytes} {start : Nat}
      (hdata : data = before ++ (middle ++ rest)) (hstart : before.length = start) :
      slice data start (start + middle.length) = middle := by
    rw [hdata, ← hstart]
    exact slice_append ..
  have hword (before : Bytes) {rest : Bytes} {start length : Nat} (hword : length < 65536)
      (hdata : data = before ++ (be16 length ++ rest)) (hstart : before.length = start) :
      u16At data start = length := by
    rw [hdata, ← hstart]
    exact (u16At_append_right _ _ 0).trans ((u16At_be16_append _ _).trans (Nat.mod_eq_of_lt hword))
  have hnonceSlice := hfield _ hcut hhead
  have hticketLength := hword (ticketHead lifetime ageAdd nonce ++ nonce) hticket
    (hcut.trans (append_assoc ..).symm) (by rw [length_append, hhead])
  have hticketSlice := hfield (ticketHead lifetime ageAdd nonce ++ nonce ++ be16 ticket.length)
    (hcut.trans (by rw [append_assoc, append_assoc]))
    (by rw [length_append, length_append, hhead, length_be16])
  have hend : (ticketHead lifetime ageAdd nonce ++ nonce ++ be16 ticket.length ++ ticket).length =
      9 + nonce.length + 2 + ticket.length := by
    rw [length_append, length_append, length_append, hhead, length_be16]
  have hcutEnd : data = ticketHead lifetime ageAdd nonce ++ nonce ++ be16 ticket.length ++ ticket ++
      (be16 extensions.length ++ extensions) := by
    simp [hcut]
  have hextensionsLength := hword _ hextensions hcutEnd hend
  have hextensionsDrop : data.drop (9 + nonce.length + 2 + ticket.length + 2) = extensions := by
    rw [hcutEnd, ← hend, ← drop_drop, drop_left]
    rfl
  have hlifetime : u32At data 0 = lifetime := by
    exact u32At_be32 [] lifetime _
  have hageAdd : u32At data 4 = ageAdd := by
    exact u32At_be32 (be32 lifetime.toNat) ageAdd _
  simp only [processNewSessionTicket, parseTls13NewSessionTicket, hbody, hnonceLength,
    hticketLength, hnonceSlice, hpsk, hticketSlice, hextensionsLength, hextensionsDrop, hlifetime,
    hageAdd, take_length]
  rw [if_neg (by omega), if_neg (by omega), if_neg (by omega), if_neg (by omega), if_pos (by omega)]

end PostHandshakeMessage

/-! ## The handlers by the type of the message -/

namespace TlsStream

variable {crypto : Primitives} {stream : TlsStream} {payload : Bytes}

theorem handlePostHandshake_keyUpdate {state : PostHandshakeState} (hlong : ¬ payload.length < 4)
    (hkind : byteAt payload 0 = 0x18) (hstate : stream.postHandshake = some state) :
    handlePostHandshake crypto payload stream = handleKeyUpdate crypto state payload stream := by
  simp only [handlePostHandshake, if_neg hlong, if_pos hkind]
  apply (bind_of_ok (rfl : Action.get stream = (stream, .ok stream))).trans
  rw [hstate]

theorem handlePostHandshake_ticket (hlong : ¬ payload.length < 4)
    (hkind : byteAt payload 0 = 0x04) :
    handlePostHandshake crypto payload stream = ({ stream with
      stored := stream.stored ++ (stream.sessionTicketCtx.bind fun context =>
        processNewSessionTicket crypto context payload).toList }, .ok ()) := by
  have hother : byteAt payload 0 ≠ 0x18 := by
    rw [hkind]
    decide
  simp only [handlePostHandshake, if_neg hlong, if_neg hother, if_pos hkind]
  apply (bind_of_ok (rfl : Action.get stream = (stream, .ok stream))).trans
  obtain ⟨reader, writer, readBuf, readPos, writeBuf, closed, postHandshake, context, stored⟩ :=
    stream
  cases context with
  | none => simp [Action.pure_apply]
  | some context => rfl

theorem handlePostHandshake_other (hlong : ¬ payload.length < 4)
    (hkeyUpdate : byteAt payload 0 ≠ 0x18) (hticket : byteAt payload 0 ≠ 0x04) :
    handlePostHandshake crypto payload stream = (stream, .ok ()) := by
  simp only [handlePostHandshake, if_neg hlong, if_neg hkeyUpdate, if_neg hticket]
  exact bind_of_ok (rfl : Action.get stream = (stream, .ok stream))

end TlsStream

/-! ## The simulation -/

/-- The stream holds the connection's keys at its sequence numbers in both directions, has kept its
tickets and has written its answers. -/
structure InStep (connection : Connection) (stream : TlsStream) : Prop where
  reader_aead : stream.reader.aead = some connection.sends.aead
  reader_tls12 : stream.reader.tls12Cipher = none
  reader_seqNum : stream.reader.seqNum = connection.sends.seqNum
  writer_aead : stream.writer.aead = some connection.reads.aead
  writer_tls12 : stream.writer.tls12Cipher = none
  writer_seqNum : stream.writer.seqNum = connection.reads.seqNum
  writer_immediate : stream.writer.flushStrategy = .immediate
  secrets : ∃ exporter, stream.postHandshake =
    some ⟨connection.sends.secret, connection.reads.secret, connection.hkdfAlgorithm,
      connection.aeadAlgorithm, exporter⟩
  context : stream.sessionTicketCtx = connection.context
  stored : stream.stored = connection.tickets
  writeBuf : stream.writeBuf = connection.answers

variable {message : PostHandshakeMessage}

namespace InStep

variable {crypto : Primitives} {connection next : Connection} {stream : TlsStream}
  {state : PostHandshakeState}

section Kept

variable (hstep : InStep connection stream)
include hstep

/-- The application data and what arrives are not part of the relation. -/
theorem of_fields {buf readBuf : Bytes} {readPos : Nat} {begun : Bytes} :
    InStep { connection with begun := begun }
      { stream with reader := { stream.reader with buf := buf }, readBuf := readBuf,
                    readPos := readPos } :=
  { hstep with }

theorem respondKeyUpdate
    (hstate : stream.postHandshake = some state) (hanswer : connection.answer crypto = some next) :
    ∃ stop, TlsStream.respondKeyUpdate crypto state stream = (stop, .ok ()) ∧ InStep next stop := by
  obtain ⟨exporter, hsecrets⟩ := hstep.secrets
  obtain rfl := some.inj (hstate.symm.trans hsecrets)
  simp only [Connection.answer, bind_eq_bind, bind_eq_some_iff,
    Option.pure_def, Option.some.injEq] at hanswer
  obtain ⟨⟨reads, record⟩, hprotect, updated, hupdate, rfl⟩ := hanswer
  set state : PostHandshakeState := ⟨connection.sends.secret, connection.reads.secret,
    connection.hkdfAlgorithm, connection.aeadAlgorithm, exporter⟩ with hstateEq
  have hsecret : reads.secret = connection.reads.secret := by
    obtain ⟨_, _, _, _, _, rfl, _⟩ := protect_eq_some hprotect
    rfl
  obtain ⟨hderived, hfresh⟩ := updateTrafficSecret_of_update state hupdate
  rw [hsecret] at hderived
  have hbuild : buildKeyUpdateResponse crypto state =
      .ok ({ state with clientAppSecret := updated.secret },
        (PostHandshakeMessage.keyUpdate false).encode, updated.aead) :=
    bind_eq_ok.mpr ⟨_, hderived, rfl⟩
  have hwrite := writeRecord_of_protect hprotect hstep.writer_aead hstep.writer_tls12
    hstep.writer_seqNum hstep.writer_immediate (by decide) (by decide)
  refine ⟨{ stream with
    postHandshake := some { state with clientAppSecret := updated.secret }
    writer := ({ stream.writer with seqNum := reads.seqNum }).setKeys updated.aead
    writeBuf := stream.writeBuf ++ record }, ?_, ?_⟩
  · apply bind_returns.mpr
    refine ⟨stream, _, lift_returns.mpr ⟨rfl, by rw [hbuild]; rfl⟩, ?_⟩
    apply bind_returns.mpr
    refine ⟨_, (), rfl, ?_⟩
    apply bind_returns.mpr
    refine ⟨{ stream with
      postHandshake := some { state with clientAppSecret := updated.secret }
      writer := { stream.writer with seqNum := reads.seqNum } }, record, ?_, rfl⟩
    simp only [TlsStream.writeRecord, hwrite]
    rfl
  · exact { hstep with
      writer_aead := rfl
      writer_tls12 := rfl
      writer_seqNum := hfresh.symm
      secrets := ⟨exporter, rfl⟩
      writeBuf := congrArg (· ++ record) hstep.writeBuf }

theorem handleKeyUpdate (hstate : stream.postHandshake = some state) {requested : Bool}
    (hreceive : connection.receive crypto (.keyUpdate requested) = some next) :
    ∃ stop, TlsStream.handleKeyUpdate crypto state
        (PostHandshakeMessage.keyUpdate requested).encode stream = (stop, .ok ()) ∧
      InStep next stop := by
  obtain ⟨exporter, hsecrets⟩ := hstep.secrets
  obtain rfl := some.inj (hstate.symm.trans hsecrets)
  simp only [Connection.receive, bind_eq_bind, bind_eq_some_iff] at hreceive
  obtain ⟨sends, hupdate, hanswer⟩ := hreceive
  set state : PostHandshakeState := ⟨connection.sends.secret, connection.reads.secret,
    connection.hkdfAlgorithm, connection.aeadAlgorithm, exporter⟩ with hstateEq
  obtain ⟨hderived, hfresh⟩ := updateTrafficSecret_of_update state hupdate
  have hprocess : processKeyUpdate crypto state =
      .ok ({ state with serverAppSecret := sends.secret }, sends.aead) :=
    bind_eq_ok.mpr ⟨_, hderived, rfl⟩
  -- The read key is in place before the request is looked at.
  have hrekeyed : InStep { connection with sends := sends } { stream with
      postHandshake := some { state with serverAppSecret := sends.secret }
      reader := stream.reader.setKeys sends.aead } :=
    { hstep with
      reader_aead := rfl
      reader_tls12 := rfl
      reader_seqNum := hfresh.symm
      secrets := ⟨exporter, rfl⟩ }
  cases requested with
  | true =>
    obtain ⟨stop, hstop, hnext⟩ := hrekeyed.respondKeyUpdate rfl hanswer
    refine ⟨stop, bind_returns.mpr ⟨stream, _, lift_returns.mpr ⟨rfl, by rw [hprocess]; rfl⟩, ?_⟩,
      hnext⟩
    exact bind_returns.mpr ⟨_, (), rfl, hstop⟩
  | false =>
    obtain rfl := some.inj hanswer
    refine ⟨_, bind_returns.mpr ⟨stream, _, lift_returns.mpr ⟨rfl, by rw [hprocess]; rfl⟩, ?_⟩,
      hrekeyed⟩
    exact bind_returns.mpr ⟨_, (), rfl, rfl⟩

/-- The client does with a whole message what the connection does. -/
theorem handlePostHandshake (hvalid : message.Valid)
    (hreceive : connection.receive crypto message = some next) :
    ∃ stop, TlsStream.handlePostHandshake crypto message.encode stream = (stop, .ok ()) ∧
      InStep next stop := by
  have hlong : ¬ message.encode.length < 4 := by
    simp only [PostHandshakeMessage.encode, length_append, length_singleton, length_be24]
    omega
  cases message with
  | keyUpdate requested =>
    obtain ⟨exporter, hsecrets⟩ := hstep.secrets
    rw [TlsStream.handlePostHandshake_keyUpdate hlong rfl hsecrets]
    exact hstep.handleKeyUpdate hsecrets hreceive
  | newSessionTicket =>
    refine ⟨_, TlsStream.handlePostHandshake_ticket hlong rfl, ?_⟩
    suffices hkept : connection.tickets ++ (stream.sessionTicketCtx.bind fun context =>
        processNewSessionTicket crypto context _).toList = next.tickets ∧
        next = { connection with tickets := next.tickets } by
      obtain ⟨htickets, hnext⟩ := hkept
      rw [hnext]
      exact { hstep with stored := by rw [hstep.stored, htickets] }
    rw [hstep.context]
    cases hcontext : connection.context with
    | none =>
      simp only [Connection.receive, hcontext, some.injEq] at hreceive
      obtain rfl := hreceive
      exact ⟨append_nil _, by rw [← hcontext]⟩
    | some context =>
      simp only [Connection.receive, hcontext, bind_eq_bind, bind_eq_some_iff,
        Option.pure_def, Option.some.injEq] at hreceive
      obtain ⟨kept, hkept, rfl⟩ := hreceive
      have hparsed := PostHandshakeMessage.processNewSessionTicket_encode hvalid hkept
      rw [bind_some, hparsed, ← hcontext]
      exact ⟨rfl, rfl⟩
  | other kind body =>
    rw [TlsStream.handlePostHandshake_other hlong hvalid.2.1 hvalid.1]
    obtain rfl := some.inj hreceive
    exact ⟨stream, rfl, hstep⟩

end Kept

end InStep

/-! ## One record -/

/-- What a record of the server makes of the search for application data. -/
def ServerRecord.outcome : ServerRecord → Option Bool
  | data _ => some true
  | handshake _ _ => none

variable {middle : Connection} {bytes : Bytes}

namespace Connection

variable {crypto : Primitives} {connection next last : Connection} {record : ServerRecord}
  {bytes : Bytes}

theorem Sends.exists_protect (hsends : Sends crypto connection record next bytes) :
    ∃ contentType payload padding sends,
      connection.sends.protect crypto contentType payload padding = some (sends, bytes) := by
  cases hsends with
  | data _ hprotect | handshake _ _ _ _ _ hprotect => exact ⟨_, _, _, _, hprotect⟩

theorem Sends.length_pos (hcrypto : RecordProtection crypto)
    (hsends : Sends crypto connection record next bytes) : 0 < bytes.length := by
  obtain ⟨_, _, _, _, hprotect⟩ := hsends.exists_protect
  obtain ⟨sealedInner, rfl, _⟩ := length_protect hcrypto hprotect
  rw [length_append, RecordHeader.length_toBytes]
  omega

theorem receive_begun (hreceive : connection.receive crypto message = some next) :
    next.begun = connection.begun := by
  cases message with
  | newSessionTicket =>
    simp only [receive] at hreceive
    split at hreceive
    · cases hreceive
      rfl
    · simp only [Option.bind_eq_bind, Option.bind_eq_some_iff, Option.pure_def,
        some.injEq] at hreceive
      obtain ⟨kept, _, rfl⟩ := hreceive
      rfl
  | keyUpdate requested =>
    simp only [receive, answer, bind_eq_bind, bind_eq_some_iff] at hreceive
    obtain ⟨sends, _, hanswer⟩ := hreceive
    cases requested with
    | false =>
      cases hanswer
      rfl
    | true =>
      simp only [if_true, Option.bind_eq_some_iff, Option.pure_def, some.injEq] at hanswer
      obtain ⟨_, _, _, _, rfl⟩ := hanswer
      rfl
  | other kind body =>
    cases hreceive
    rfl

theorem SendsAll.of_nil (hall : SendsAll crypto connection [] last bytes) : bytes = [] := by
  cases hall
  rfl

variable {records : List ServerRecord}

theorem SendsAll.of_cons {all : Bytes}
    (hall : SendsAll crypto connection (record :: records) last all) :
    ∃ next bytes more, Sends crypto connection record next bytes ∧
      SendsAll crypto next records last more ∧ all = bytes ++ more := by
  cases hall with
  | cons hsends hrest => exact ⟨_, _, _, hsends, hrest, rfl⟩

theorem SendsAll.append {more : List ServerRecord} {later : Bytes}
    (hfirst : SendsAll crypto connection records middle bytes)
    (hrest : SendsAll crypto middle more last later) :
    SendsAll crypto connection (records ++ more) last (bytes ++ later) := by
  induction hfirst with
  | nil connection => exact hrest
  | cons hsends _ ih =>
    rw [append_assoc]
    exact .cons hsends (ih hrest)

end Connection

namespace InStep

variable {crypto : Primitives} {connection next : Connection} {stream : TlsStream}
  {record : ServerRecord} {bytes rest : Bytes}

/-- A whole record is read, and both ends stay in step. -/
theorem readBody (hcrypto : RecordProtection crypto) (hstep : InStep connection stream)
    (hboundary : connection.begun = []) (hsends : connection.Sends crypto record next bytes)
    (hsingle : record.Single) (hbuf : stream.reader.buf = bytes ++ rest) :
    ∃ stop, TlsStream.readBody crypto stream = (stop, .ok record.outcome) ∧ InStep next stop ∧
      next.begun = [] ∧ stop.reader.buf = rest := by
  cases hsends with
  | data _ hprotect =>
    have hread := nextRecord_of_protect hcrypto hprotect (by decide) hstep.reader_aead
      hstep.reader_tls12 hstep.reader_seqNum hbuf
    obtain ⟨_, _, _, _, _, rfl, _⟩ := protect_eq_some hprotect
    rw [TlsStream.readBody_of_record hread, TlsStream.handleRecord_applicationData rfl]
    exact ⟨_, rfl, { hstep with reader_seqNum := rfl }, hboundary, rfl⟩
  | @handshake _ messages payload begun padding sends _ hvalid hpacked _ _ _ hprotect hreceive =>
    obtain ⟨hlength, rfl⟩ := hsingle
    obtain ⟨message, rfl⟩ := length_eq_one_iff.mp hlength
    obtain rfl : payload = message.encode := by simpa [hboundary] using hpacked
    have hread := nextRecord_of_protect hcrypto hprotect (by decide) hstep.reader_aead
      hstep.reader_tls12 hstep.reader_seqNum hbuf
    obtain ⟨_, _, _, _, _, rfl, _⟩ := protect_eq_some hprotect
    simp only [foldlM_cons, foldlM_nil, bind_eq_bind, bind_eq_some_iff,
      Option.pure_def, Option.some.injEq, exists_eq_right] at hreceive
    set reader : RecordReader := { stream.reader with buf := rest, seqNum := _ }
    have hopened : InStep
        { connection with sends := { connection.sends with seqNum := reader.seqNum }, begun := [] }
        { stream with reader := reader } := { hstep with reader_seqNum := rfl }
    obtain ⟨stop, hhandle, hnext⟩ :=
      hopened.handlePostHandshake (hvalid message (mem_singleton_self message)) hreceive
    have hrecord : TlsStream.handleRecord crypto ⟨ContentType.handshake, message.encode⟩
        { stream with reader := reader } = (stop, .ok none) :=
      bind_of_ok hhandle
    refine ⟨stop, (TlsStream.readBody_of_record hread).trans hrecord, hnext, ?_, ?_⟩
    · exact Connection.receive_begun hreceive
    · exact (TlsStream.handleRecord_sameBuffers (fun hkind => by cases hkind) hrecord).buf_eq

end InStep

/-! ## Whole reads -/

/-- The stream is in step, and its buffer together with what still arrives holds the records that
are left, each with one whole message. -/
structure Follows (crypto : Primitives) (last : Connection) (future : Bytes)
    (connection : Connection) (records : List ServerRecord) (stream : TlsStream) : Prop where
  inStep : InStep connection stream
  boundary : connection.begun = []
  single : ∀ record ∈ records, record.Single
  wire : connection.SendsAll crypto records last (stream.reader.buf ++ future)

/-- The stream has read some of the records, and follows the connection from there. If nothing else
arrives and it waits for input, it has read all of them. -/
def Advances (crypto : Primitives) (last : Connection) (future : Bytes)
    (connection : Connection) (records : List ServerRecord) (waits : Bool) (stop : TlsStream) :
    Prop :=
  ∃ read unread now bytes, records = read ++ unread ∧ connection.SendsAll crypto read now bytes ∧
    Follows crypto last future now unread stop ∧ (waits = true → future = [] → unread = [])

section Reads

variable {crypto : Primitives} {connection last : Connection} {records : List ServerRecord}
  {stream stop : TlsStream} {future : Bytes}

theorem Advances.trans {read unread : List ServerRecord} {waits : Bool}
    (hread : connection.SendsAll crypto read middle bytes)
    (hadvances : Advances crypto last future middle unread waits stop) :
    Advances crypto last future connection (read ++ unread) waits stop := by
  obtain ⟨later, rest, now, more, rfl, hlater, hfollows, hwaits⟩ := hadvances
  exact ⟨read ++ later, rest, now, bytes ++ more, (append_assoc _ _ _).symm,
    hread.append hlater, hfollows, hwaits⟩

/-- A search that finds no whole record waits where it is. -/
theorem Follows.idle (hfollows : Follows crypto last future connection records stream)
    (hnone : (stream.reader.nextRecord crypto).2 = .ok none) (hwaits : future = [] → records = [])
    (fuel : Nat) :
    ∃ stop found, (TlsStream.readBody crypto).loop false (fuel + 1) stream = (stop, .ok found) ∧
      Advances crypto last future connection records (!found) stop := by
  refine ⟨stream, false, ?_, [], records, connection, [], rfl, .nil connection, hfollows,
    fun _ => hwaits⟩
  rw [loop_succ, TlsStream.readBody_of_none hnone]

/-- The search for application data keeps the stream in step. -/
theorem Follows.search (hcrypto : RecordProtection crypto)
    (hfollows : Follows crypto last future connection records stream) {fuel : Nat}
    (hfuel : stream.reader.buf.length < fuel) :
    ∃ stop found, (TlsStream.readBody crypto).loop false fuel stream = (stop, .ok found) ∧
      Advances crypto last future connection records (!found) stop := by
  induction records generalizing connection stream fuel with
  | nil =>
    obtain ⟨fuel, rfl⟩ : ∃ less, fuel = less + 1 := ⟨fuel - 1, by omega⟩
    apply hfollows.idle _ (fun _ => rfl)
    have hempty : stream.reader.buf = [] :=
      (append_eq_nil_iff.mp hfollows.wire.of_nil).1
    rw [RecordReader.nextRecord, hempty]
    rfl
  | cons record records ih =>
    obtain ⟨fuel, rfl⟩ : ∃ less, fuel = less + 1 := ⟨fuel - 1, by omega⟩
    obtain ⟨next, bytes, more, hsends, hrest, hbytes⟩ := hfollows.wire.of_cons
    -- The buffer holds the whole record, or only a part of it.
    by_cases hwhole : bytes.length ≤ stream.reader.buf.length
    · obtain ⟨rest, hbuf, hmore⟩ : ∃ rest, stream.reader.buf = bytes ++ rest ∧
          more = rest ++ future := by
        rcases append_eq_append_iff.mp hbytes with ⟨rest, hfirst, hfuture⟩ | hbuf
        · have hnil : rest = [] := by
            rw [hfirst, length_append] at hwhole
            exact length_eq_zero_iff.mp (by omega)
          subst hnil
          exact ⟨[], by simpa using hfirst.symm, by simpa using hfuture.symm⟩
        · exact hbuf
      obtain ⟨stop, hbody, hnext, hboundary, hrestBuf⟩ := hfollows.inStep.readBody hcrypto
        hfollows.boundary hsends (hfollows.single record mem_cons_self) hbuf
      have hstop : Follows crypto last future next records stop := by
        refine ⟨hnext, hboundary, ?_, ?_⟩
        · intro other hother
          exact hfollows.single other (mem_cons_of_mem _ hother)
        · rw [hrestBuf, ← hmore]
          exact hrest
      have hread : connection.SendsAll crypto [record] next (bytes ++ []) :=
        .cons hsends (.nil next)
      rw [loop_succ, hbody]
      cases record with
      | data payload =>
        exact ⟨stop, true, rfl, [.data payload], records, next, _, rfl, hread, hstop,
          fun hfound => by cases hfound⟩
      | handshake messages begun =>
        have hless : stop.reader.buf.length < fuel := by
          have hpos := hsends.length_pos hcrypto
          rw [hbuf, length_append] at hfuel
          rw [hrestBuf]
          omega
        obtain ⟨last', found, hloop, hadvances⟩ := ih hstop hless
        exact ⟨last', found, hloop, hadvances.trans hread⟩
    · have hpart := Nat.not_le.mp hwhole
      obtain ⟨_, _, _, _, hprotect⟩ := hsends.exists_protect
      apply hfollows.idle
      · exact nextRecord_of_part hcrypto hprotect hfollows.inStep.reader_aead hbytes
          hpart
      · rintro rfl
        rw [append_nil] at hbytes
        rw [hbytes, length_append] at hpart
        omega

end Reads

end LkRequest.Stream
