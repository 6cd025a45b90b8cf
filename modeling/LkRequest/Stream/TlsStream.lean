import LkRequest.Handshake.Driver

/-!
# The read side of an established connection

`TlsStream` after the handshake: post-handshake messages change keys and store tickets, and
application data is read record by record.
-/

namespace LkRequest.Stream

open Library Crypto Session Record Handshake

/-! ## Post-handshake state -/

section
variable (crypto : Primitives)

/-- The next traffic secret and its record protection. -/
def updateTrafficSecret (state : PostHandshakeState) (secret : Bytes) : Result (Bytes × Aead) := do
  let newSecret ← hkdfExpandLabel crypto state.hkdfAlgorithm secret "traffic upd" []
    state.hkdfAlgorithm.hashLen
  let (newKey, newIv) ← trafficKey crypto state.hkdfAlgorithm state.aeadAlgorithm newSecret
  let newAead ← Aead.new state.aeadAlgorithm newKey newIv
  return (newSecret, newAead)

def processKeyUpdate (state : PostHandshakeState) : Result (PostHandshakeState × Aead) := do
  let (newSecret, newAead) ← updateTrafficSecret crypto state state.serverAppSecret
  return ({ state with serverAppSecret := newSecret }, newAead)

/-- The answering KeyUpdate is sent under the key it replaces. -/
def buildKeyUpdateResponse (state : PostHandshakeState) :
    Result (PostHandshakeState × Bytes × Aead) := do
  let (newSecret, newAead) ← updateTrafficSecret crypto state state.clientAppSecret
  return ({ state with clientAppSecret := newSecret }, [0x18, 0x00, 0x00, 0x01, 0x00], newAead)

/-- The ticket that goes to the store; a message that does not parse is only logged. -/
def processNewSessionTicket (context : SessionTicketContext) (payload : Bytes) :
    Option SessionTicketData :=
  match parseTls13NewSessionTicket crypto payload context.resumptionMasterSecret
      context.hkdfAlgorithm context.aeadAlgorithm context.cipherSuite context.alpn with
  | .ok ticket =>
    some { ticket with peerTransportParameters := context.peerTransportParameters }
  | .error _ => none

end

/-! ## The stream -/

/-- The errors a read reports, before their text is made. -/
inductive StreamError where
  | keyUpdateFailed (error : TlsError)
  | keyUpdateResponseFailed (error : TlsError)
  | keyUpdateWriteFailed (error : TlsError)
  | connectionReset (alert : TlsAlert)
  | record (error : TlsError)
  | transport (message : String)
  deriving DecidableEq

/-- An answer of the transport to `poll_read`; no bytes mean the end of its stream. -/
inductive TransportRead where
  | ready (bytes : Bytes)
  | failed (message : String)
  | pending
  deriving DecidableEq

inductive Poll (α : Type) where
  | ready (value : α)
  | pending
  deriving DecidableEq

structure TlsStream where
  reader : RecordReader
  writer : RecordWriter
  readBuf : Bytes := []
  readPos : Nat := 0
  writeBuf : Bytes := []
  closed : Bool := false
  postHandshake : Option PostHandshakeState
  sessionTicketCtx : Option SessionTicketContext
  /-- The tickets put into the session store. -/
  stored : List SessionTicketData := []
  deriving DecidableEq

abbrev StreamM := Action TlsStream StreamError

namespace TlsStream

def feed (stream : TlsStream) (data : Bytes) : TlsStream :=
  { stream with reader := stream.reader.feed data }

section
variable (crypto : Primitives)

def writeRecord (contentType : UInt8) (payload : Bytes) : StreamM Bytes := fun stream =>
  let written := stream.writer.writeRecord crypto contentType payload
  ({ stream with writer := written.1 }, written.2.mapError .keyUpdateWriteFailed)

/-- Answer a KeyUpdate that asks for one. -/
def respondKeyUpdate (state : PostHandshakeState) : StreamM Unit := do
  let (state, message, newAead) ←
    (buildKeyUpdateResponse crypto state).mapError StreamError.keyUpdateResponseFailed
  Action.modify fun stream => { stream with postHandshake := some state }
  let record ← writeRecord crypto ContentType.handshake message
  Action.modify fun stream => { stream with
    writeBuf := stream.writeBuf ++ record
    writer := stream.writer.setKeys newAead }

def handleKeyUpdate (state : PostHandshakeState) (payload : Bytes) : StreamM Unit := do
  let (state, newAead) ← (processKeyUpdate crypto state).mapError StreamError.keyUpdateFailed
  Action.modify fun stream => { stream with
    postHandshake := some state
    reader := stream.reader.setKeys newAead }
  if byteAt payload 4 = 0x01 then respondKeyUpdate crypto state

/-- The first message of a record; whatever follows it in the record is passed over. -/
def handlePostHandshake (payload : Bytes) : StreamM Unit := do
  if payload.length < 4 then return ()
  let stream ← Action.get
  if byteAt payload 0 = 0x18 then
    match stream.postHandshake with
    | some state => handleKeyUpdate crypto state payload
    | none => pure ()
  else if byteAt payload 0 = 0x04 then
    match stream.sessionTicketCtx with
    | some context => Action.modify fun stream => { stream with
        stored := stream.stored ++ (processNewSessionTicket crypto context payload).toList }
    | none => pure ()
  else pure ()

def nextRecord : StreamM (Option PlaintextRecord) := fun stream =>
  let read := stream.reader.nextRecord crypto
  ({ stream with reader := read.1 }, read.2.mapError .record)

/-- What a record does; `some` ends the search for application data. -/
def handleRecord (record : PlaintextRecord) : StreamM (Option Bool) := do
  if record.contentType = ContentType.applicationData then
    Action.modify fun stream => { stream with readBuf := record.payload, readPos := 0 }
    return some true
  else if record.contentType = ContentType.alert then
    let alert := TlsAlert.fromBytes (byteAt record.payload 0) (byteAt record.payload 1)
    if alert.description = .closeNotify then return some false
    else if alert.level = .warning then return none
    else .fail (.connectionReset alert)
  else if record.contentType = ContentType.handshake then
    handlePostHandshake crypto record.payload
    return none
  else return none

def readBody : StreamM (Option Bool) := do
  match ← nextRecord crypto with
  | some record => handleRecord crypto record
  | none => return some false

/-- Read records up to the next application data; `false` means that there is none, for want of
input or because of a close_notify. -/
def tryReadAppData : StreamM Bool := do
  let stream ← Action.get
  (readBody crypto).loop false (stream.reader.buf.length + 1)

/-- Put unread application data into a buffer with room for `capacity` bytes. -/
def putSlice (stream : TlsStream) (capacity : Nat) : TlsStream × Bytes :=
  let available := stream.readBuf.drop stream.readPos
  ({ stream with readPos := stream.readPos + min available.length capacity },
    available.take (min available.length capacity))

/-- The result of a read: the stream, the answers the transport has not given yet and what is
reported. -/
abbrev ReadResult := TlsStream × List TransportRead × Except StreamError (Poll Bytes)

def putReady (stream : TlsStream) (capacity : Nat) (answers : List TransportRead) : ReadResult :=
  ((stream.putSlice capacity).1, answers, .ok (.ready (stream.putSlice capacity).2))

/-- Read from the transport until there is application data. -/
def pollTransport (capacity : Nat) : List TransportRead → TlsStream → ReadResult
  | [], stream => (stream, [], .ok .pending)
  | .pending :: answers, stream => (stream, answers, .ok .pending)
  | .failed message :: answers, stream => (stream, answers, .error (.transport message))
  | .ready [] :: answers, stream => (stream, answers, .ok (.ready []))
  | .ready (byte :: bytes) :: answers, stream =>
    match tryReadAppData crypto (stream.feed (byte :: bytes)) with
    | (stream, .ok true) => stream.putReady capacity answers
    | (stream, .ok false) => pollTransport capacity answers stream
    | (stream, .error error) => (stream, answers, .error error)

/-- `poll_read` with room for `capacity` bytes; the transport answers as listed, and has nothing
more to say after that. -/
def pollRead (capacity : Nat) (answers : List TransportRead) (stream : TlsStream) : ReadResult :=
  if stream.readPos < stream.readBuf.length then stream.putReady capacity answers
  else
    match tryReadAppData crypto stream with
    | (stream, .ok true) => stream.putReady capacity answers
    | (stream, .error error) => (stream, answers, .error error)
    | (stream, .ok false) => pollTransport crypto capacity answers stream

end

end TlsStream

end LkRequest.Stream
