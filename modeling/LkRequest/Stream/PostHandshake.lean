import LkRequest.Stream.InStep
import LkRequest.Stream.Injection

/-!
# Post-handshake messages

Reading from an open transport, call after call, keeps a stream in step with the server if every
record of the handshake stream holds one whole message. The handler looks at the first message of a
record only, so that a KeyUpdate behind a ticket is lost.
-/

namespace LkRequest.Stream

open Library Crypto Session Record Handshake List

/-! ## Calls on an open transport -/

/-- The bytes that the transport's answers bring. -/
def arriving : List TransportRead → Bytes
  | [] => []
  | .ready bytes :: answers => bytes ++ arriving answers
  | _ :: answers => arriving answers

/-- The transport brings bytes or has none yet: it does not end and does not fail. -/
def TransportRead.Open : TransportRead → Prop
  | ready bytes => bytes ≠ []
  | failed _ => False
  | pending => True

instance : DecidablePred TransportRead.Open := fun answer => by
  unfold TransportRead.Open
  cases answer <;> exact inferInstance

/-- Calls of `poll_read` one after the other, with the given room, and what they report. -/
def pollReads (crypto : Primitives) : List Nat → List TransportRead → TlsStream →
    TlsStream × List TransportRead × List (Except StreamError (Poll Bytes))
  | [], answers, stream => (stream, answers, [])
  | capacity :: capacities, answers, stream =>
    let (stream, answers, outcome) := TlsStream.pollRead crypto capacity answers stream
    let (stream, answers, outcomes) := pollReads crypto capacities answers stream
    (stream, answers, outcome :: outcomes)

section Calls

variable {crypto : Primitives} {connection last : Connection} {records : List ServerRecord}
  {stream stop : TlsStream} {future : Bytes} {answers : List TransportRead}

/-- What has arrived is in the buffer. -/
theorem Follows.feed {bytes : Bytes}
    (hfollows : Follows crypto last (bytes ++ future) connection records stream) :
    Follows crypto last future connection records (stream.feed bytes) := by
  refine ⟨hfollows.inStep.of_fields, hfollows.boundary, hfollows.single, ?_⟩
  rw [TlsStream.feed, RecordReader.feed, append_assoc]
  exact hfollows.wire

/-- Handing out application data keeps the stream in step. -/
theorem Advances.putSlice {waits : Bool} (capacity : Nat)
    (hadvances : Advances crypto last future connection records waits stop) :
    Advances crypto last future connection records waits (stop.putSlice capacity).1 := by
  obtain ⟨read, unread, now, bytes, hrecords, hread, hfollows, hwaits⟩ := hadvances
  exact ⟨read, unread, now, bytes, hrecords, hread,
    { hfollows with inStep := hfollows.inStep.of_fields }, hwaits⟩

theorem Advances.refl (hfollows : Follows crypto last future connection records stream) :
    Advances crypto last future connection records false stream :=
  ⟨[], records, connection, [], rfl, .nil connection, hfollows, fun hwaits => by cases hwaits⟩

section Protected

variable (hcrypto : RecordProtection crypto)
include hcrypto

theorem Follows.tryReadAppData (hfollows : Follows crypto last future connection records stream) :
    ∃ stop found, TlsStream.tryReadAppData crypto stream = (stop, .ok found) ∧
      Advances crypto last future connection records (!found) stop :=
  hfollows.search hcrypto (Nat.lt_succ_self _)

variable (hopen : ∀ answer ∈ answers, answer.Open)
  (hfollows : Follows crypto last (arriving answers ++ future) connection records stream)
include hopen hfollows

theorem Follows.pollTransport (capacity : Nat)
    (hwaits : arriving answers ++ future = [] → records = []) :
    ∃ stop rest outcome,
      TlsStream.pollTransport crypto capacity answers stream = (stop, rest, .ok outcome) ∧
      rest <:+ answers ∧ Advances crypto last (arriving rest ++ future) connection records
        (outcome = .pending) stop := by
  induction answers generalizing connection records stream with
  | nil =>
    exact ⟨stream, [], .pending, rfl, suffix_refl _, [], records, connection, [], rfl,
      .nil connection, hfollows, fun _ => hwaits⟩
  | cons answer answers ih =>
    have hrest : ∀ other ∈ answers, other.Open :=
      (forall_mem_cons.mp hopen).2
    cases answer with
    | pending =>
      exact ⟨stream, answers, .pending, rfl, suffix_cons _ _, [], records, connection, [],
        rfl, .nil connection, hfollows, fun _ => hwaits⟩
    | failed message => exact (hopen _ mem_cons_self).elim
    | ready bytes =>
      have hnonempty : bytes ≠ [] := hopen _ mem_cons_self
      obtain ⟨byte, bytes, rfl⟩ := exists_cons_of_ne_nil hnonempty
      rw [arriving, append_assoc] at hfollows
      obtain ⟨middle, found, hsearch, hadvances⟩ := hfollows.feed.tryReadAppData hcrypto
      rw [TlsStream.pollTransport, hsearch]
      cases found with
      | true =>
        exact ⟨_, answers, .ready _, rfl, suffix_cons _ _, hadvances.putSlice capacity⟩
      | false =>
        obtain ⟨read, unread, now, sent, rfl, hread, hnow, hnowWaits⟩ := hadvances
        obtain ⟨stop, rest, outcome, hpoll, hsuffix, hlater⟩ :=
          ih hrest hnow (hnowWaits rfl)
        exact ⟨stop, rest, outcome, hpoll, hsuffix.trans (suffix_cons _ _), hlater.trans hread⟩

/-- One call keeps the stream in step and reports no error. -/
theorem Follows.pollRead (capacity : Nat) :
    ∃ stop rest outcome,
      TlsStream.pollRead crypto capacity answers stream = (stop, rest, .ok outcome) ∧
      rest <:+ answers ∧ Advances crypto last (arriving rest ++ future) connection records
        (outcome = .pending) stop := by
  by_cases hunread : stream.readPos < stream.readBuf.length
  · rw [TlsStream.pollRead, if_pos hunread]
    exact ⟨_, answers, .ready _, rfl, suffix_refl _, (Advances.refl hfollows).putSlice capacity⟩
  · obtain ⟨middle, found, hsearch, hadvances⟩ := hfollows.tryReadAppData hcrypto
    rw [TlsStream.pollRead, if_neg hunread, hsearch]
    cases found with
    | true =>
      exact ⟨_, answers, .ready _, rfl, suffix_refl _, hadvances.putSlice capacity⟩
    | false =>
      obtain ⟨read, unread, now, sent, rfl, hread, hnow, hnowWaits⟩ := hadvances
      obtain ⟨stop, rest, outcome, hpoll, hsuffix, hlater⟩ :=
        hnow.pollTransport hcrypto hopen capacity (hnowWaits rfl)
      exact ⟨stop, rest, outcome, hpoll, hsuffix, hlater.trans hread⟩

/-- Calls one after the other keep the stream in step. -/
theorem Follows.pollReads (capacities : List Nat) :
    ∃ stop rest outcomes,
      Stream.pollReads crypto capacities answers stream = (stop, rest, outcomes) ∧
      (∀ outcome ∈ outcomes, ∃ poll, outcome = .ok poll) ∧
      Advances crypto last (arriving rest ++ future) connection records
        (outcomes.getLast? = some (.ok .pending)) stop := by
  induction capacities generalizing connection records stream answers with
  | nil => exact ⟨stream, answers, [], rfl, by simp, .refl hfollows⟩
  | cons capacity capacities ih =>
    obtain ⟨middle, left, outcome, hpoll, hsuffix, hadvances⟩ :=
      hfollows.pollRead hcrypto hopen capacity
    have hleft : ∀ answer ∈ left, answer.Open :=
      fun answer hanswer => hopen answer (hsuffix.mem hanswer)
    obtain ⟨read, unread, now, sent, rfl, hread, hnow, hnowWaits⟩ := hadvances
    obtain ⟨stop, rest, outcomes, hpolls, hok, hlater⟩ := ih hleft hnow
    refine ⟨stop, rest, .ok outcome :: outcomes, ?_, ?_, ?_⟩
    · simp only [Stream.pollReads, hpoll, hpolls]
    · intro other hother
      rcases mem_cons.mp hother with rfl | hother
      · exact ⟨outcome, rfl⟩
      · exact hok other hother
    · cases capacities with
      | nil =>
        cases hpolls
        refine ⟨read, unread, now, sent, rfl, hread, hnow, ?_⟩
        intro hwaits
        apply hnowWaits
        simpa using hwaits
      | cons other capacities =>
        obtain ⟨_, _, rfl⟩ := hpolls
        exact hlater.trans hread

end Protected

end Calls

/-- **Post-handshake messages are processed as they are sent, if each has a record of its own.**
After any calls of `poll_read` on an open transport, however the bytes arrive, some of the server's
records have been read: the keys and the sequence numbers of both directions, the stored tickets and
the written answers are those of a connection in which exactly these records were sent. No call
reports an error, and once all bytes have arrived a call that waits has read every record. -/
theorem in_step_of_single_messages {crypto : Primitives} (hcrypto : RecordProtection crypto)
    {connection last : Connection} {records : List ServerRecord} {stream : TlsStream}
    {answers : List TransportRead} {future : Bytes}
    (hstep : InStep connection stream) (hboundary : connection.begun = [])
    (hopen : ∀ answer ∈ answers, answer.Open) (hsent : connection.SendsAll crypto records last
      (stream.reader.buf ++ (arriving answers ++ future)))
    (hsingle : ∀ record ∈ records, record.Single) (capacities : List Nat) :
    ∃ stop rest outcomes read unread now bytes,
      pollReads crypto capacities answers stream = (stop, rest, outcomes) ∧
      records = read ++ unread ∧ connection.SendsAll crypto read now bytes ∧ InStep now stop ∧
      (∀ outcome ∈ outcomes, ∃ poll, outcome = .ok poll) ∧
      (outcomes.getLast? = some (.ok .pending) → arriving rest ++ future = [] → unread = []) := by
  have hfollows : Follows crypto last (arriving answers ++ future) connection records stream :=
    ⟨hstep, hboundary, hsingle, hsent⟩
  obtain ⟨stop, rest, outcomes, hpolls, hok, read, unread, now, bytes, hrecords, hread, hnow,
    hwaits⟩ := hfollows.pollReads hcrypto hopen capacities
  refine ⟨stop, rest, outcomes, read, unread, now, bytes, hpolls, hrecords, hread, hnow.inStep, hok,
    ?_⟩
  intro hpending hfuture
  exact hwaits (decide_eq_true hpending) hfuture

/-! ## An established connection that changes its keys -/

namespace Established

def sealedRequest : Bytes := ofHex 22 0x47c82208f05e266e1d50d4a796ec6bb5fe9f8255ae27

def sealedNextHello : Bytes := ofHex 22 0xb0caf741f1044da3772af7aafc3f27f0005c31c60ae6

def sealedAnswer : Bytes := ofHex 22 0x3e98bec71b1bad43fd783d4f89c32479eb748b3ed6fe

def sealedTicketAndUpdate : Bytes :=
  ofHex 40 0x5bc82207f148d626332c0ce60853d1ce8002206eb92565a10aac1e5c0276dca07450f83410a62a1d

def request : PostHandshakeMessage := .keyUpdate true

def ticket : PostHandshakeMessage := .newSessionTicket 60 7 [] [0xaa] []

/-- A record sealed under some keys, as the recordings hold it. -/
def sealCall (aead : Aead) (contentType : UInt8) (payload sealedPayload : Bytes) : SealCall :=
  ⟨.aes128Gcm, aead.key.bytes, aead.makeNonce 0,
    [0x17, 0x03, 0x03, 0x00, UInt8.ofNat sealedPayload.length], payload ++ [contentType],
    sealedPayload⟩

def updateRecording : Recording where
  seals :=
    [sealCall serverAead ContentType.handshake request.encode sealedRequest,
      sealCall nextServerAead ContentType.applicationData hello sealedNextHello,
      sealCall clientAead ContentType.handshake keyUpdate sealedAnswer,
      sealCall serverAead ContentType.handshake (ticket.encode ++ keyUpdate)
        sealedTicketAndUpdate]
  expands := recording.expands

abbrev updateCrypto : Primitives := updateRecording.primitives

theorem updateRecording_sound : updateRecording.Sound where
  digest_length := by decide
  hmac_length := by decide
  seal_length := by decide +kernel
  seal_tag := by decide +kernel
  seal_injective := by decide +kernel

def connection : Connection where
  hkdfAlgorithm := .sha256
  aeadAlgorithm := .aes128Gcm
  sends := ⟨serverSecret, serverAead, 0⟩
  reads := ⟨clientSecret, clientAead, 0⟩
  context := none
  tickets := []
  answers := []
  begun := []

theorem stream_inStep : InStep connection stream :=
  ⟨rfl, rfl, rfl, rfl, rfl, rfl, rfl, ⟨[], rfl⟩, rfl, rfl, rfl⟩

/-- The connection after the server has asked for new keys. -/
def updated : Connection := { connection with
  sends := ⟨nextServerSecret, nextServerAead, 0⟩
  reads := ⟨nextClientSecret, nextClientAead, 0⟩
  answers := onWire sealedAnswer }

theorem connection_sends_request :
    connection.Sends updateCrypto (.handshake [request] []) updated (onWire sealedRequest) := by
  apply @Connection.Sends.handshake updateCrypto connection updated [request] request.encode []
    (onWire sealedRequest) 0 ⟨serverSecret, serverAead, 1⟩
  · decide
  · decide
  · decide
  · decide
  · intro before requested after hmessages
    have hlength := congrArg length hmessages
    simp only [length_append, length_cons, length_nil] at hlength
    exact ⟨length_eq_zero_iff.mp (by omega), rfl⟩
  · decide +kernel
  · decide +kernel

theorem updated_sends_hello :
    updated.Sends updateCrypto (.data hello)
      { updated with sends := ⟨nextServerSecret, nextServerAead, 1⟩ } (onWire sealedNextHello) := by
  apply @Connection.Sends.data updateCrypto updated hello (onWire sealedNextHello) 0
  · rfl
  · decide +kernel

/-- Three calls, while the request and a greeting under the new key arrive one after the other. -/
theorem in_step_after_request :
    ∃ stop rest outcomes read unread now bytes,
      pollReads updateCrypto [5, 5, 5]
          [.ready (onWire sealedRequest), .pending, .ready (onWire sealedNextHello)] stream =
        (stop, rest, outcomes) ∧
      [ServerRecord.handshake [request] [], .data hello] = read ++ unread ∧
      connection.SendsAll updateCrypto read now bytes ∧ InStep now stop ∧
      (∀ outcome ∈ outcomes, ∃ poll, outcome = .ok poll) ∧
      (outcomes.getLast? = some (.ok .pending) → arriving rest ++ [] = [] → unread = []) := by
  have hsent := Connection.SendsAll.cons connection_sends_request
    (.cons updated_sends_hello (.nil _))
  have hwire : onWire sealedRequest ++ (onWire sealedNextHello ++ []) =
      stream.reader.buf ++ (arriving [.ready (onWire sealedRequest), .pending,
        .ready (onWire sealedNextHello)] ++ []) := by
    decide
  exact in_step_of_single_messages updateRecording_sound.protection stream_inStep rfl (by decide)
    hsent (by simp [ServerRecord.Single]) [5, 5, 5]

/-- The server sends a ticket and a KeyUpdate in one record. The client passes over the KeyUpdate
and keeps the old read key. -/
theorem update_behind_ticket_lost :
    InStep connection stream ∧
      ∃ next, connection.Sends updateCrypto (.handshake [ticket, .keyUpdate false] []) next
          (onWire sealedTicketAndUpdate) ∧
        next.sends.aead = nextServerAead ∧
        (TlsStream.pollRead updateCrypto 5 [.ready (onWire sealedTicketAndUpdate)]
          stream).2.2 = .ok .pending ∧
        (TlsStream.pollRead updateCrypto 5 [.ready (onWire sealedTicketAndUpdate)]
          stream).1.reader.aead = some serverAead := by
  refine ⟨stream_inStep, { connection with sends := ⟨nextServerSecret, nextServerAead, 0⟩ }, ?_,
    rfl, by decide +kernel, by decide +kernel⟩
  apply @Connection.Sends.handshake updateCrypto connection _ _ (ticket.encode ++ keyUpdate) []
    (onWire sealedTicketAndUpdate) 0 ⟨serverSecret, serverAead, 1⟩
  · decide
  · decide
  · decide
  · decide
  · intro before requested after hmessages
    rcases before with _ | ⟨first, _ | ⟨second, before⟩⟩
    · cases hmessages
    · cases hmessages
      exact ⟨rfl, rfl⟩
    · have hlength := congrArg length hmessages
      simp at hlength
  · decide +kernel
  · decide +kernel

end Established

end LkRequest.Stream
