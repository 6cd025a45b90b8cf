import LkRequest.Handshake.Messages
import LkRequest.Stream.TlsStream

/-!
# A connection as both ends should see it

A TLS 1.3 connection after the handshake, described from the server's side and apart from the
client's code: the server packs post-handshake messages and application data into records, and every
message has its effect at the end of the record that completes it. A KeyUpdate changes the server's
sending key, one that asks for an answer is answered once, and a ticket is kept by the client.
-/

namespace LkRequest.Stream

open Library Crypto Session Record Handshake

/-! ## One direction -/

/-- One direction of a connection: its traffic secret, the record protection made from it and the
number of the next record. -/
structure Direction where
  secret : Bytes
  aead : Aead
  seqNum : UInt64
  deriving DecidableEq

/-- What a record protects: the payload, its content type and padding. -/
def innerPlaintext (contentType : UInt8) (payload : Bytes) (padding : Nat) : Bytes :=
  payload ++ [contentType] ++ List.replicate padding 0

namespace Direction

variable (crypto : Primitives)

/-- The header of a record with the given content; it is also the additional data. -/
def header (direction : Direction) (inner : Bytes) : RecordHeader :=
  ⟨ContentType.applicationData, 0x0303,
    UInt16.ofNat (inner.length + direction.aead.algorithm.tagLen)⟩

/-- Put a payload into a record, if it fits and a sequence number is left. -/
def protect (direction : Direction) (contentType : UInt8) (payload : Bytes) (padding : Nat) :
    Option (Direction × Bytes) := do
  let inner := innerPlaintext contentType payload padding
  let header := direction.header inner
  guard (inner.length ≤ maxRecordPayload + 1)
  let sealedInner ←
    (direction.aead.encrypt crypto direction.seqNum header.toBytes inner).toOption
  let seqNum ← checkedSucc direction.seqNum
  return ({ direction with seqNum := seqNum }, header.toBytes ++ sealedInner)

/-- The next generation of keys. -/
def update (hkdfAlgorithm : HkdfAlgorithm) (aeadAlgorithm : AeadAlgorithm)
    (direction : Direction) : Option Direction := do
  let secret ← (hkdfExpandLabel crypto hkdfAlgorithm direction.secret "traffic upd" []
    hkdfAlgorithm.hashLen).toOption
  let (key, iv) ← (trafficKey crypto hkdfAlgorithm aeadAlgorithm secret).toOption
  let aead ← (Aead.new aeadAlgorithm key iv).toOption
  return ⟨secret, aead, 0⟩

end Direction

/-! ## Post-handshake messages -/

inductive PostHandshakeMessage where
  | newSessionTicket (lifetime ageAdd : UInt32) (nonce ticket extensions : Bytes)
  | keyUpdate (requested : Bool)
  | other (kind : UInt8) (body : Bytes)

namespace PostHandshakeMessage

def kind : PostHandshakeMessage → UInt8
  | newSessionTicket .. => 0x04
  | keyUpdate _ => 0x18
  | other kind _ => kind

def body : PostHandshakeMessage → Bytes
  | newSessionTicket lifetime ageAdd nonce ticket extensions =>
    be32 lifetime.toNat ++ be32 ageAdd.toNat ++ [UInt8.ofNat nonce.length] ++ nonce ++
      be16 ticket.length ++ ticket ++ be16 extensions.length ++ extensions
  | keyUpdate requested => [if requested then 0x01 else 0x00]
  | other _ body => body

def encode (message : PostHandshakeMessage) : Bytes :=
  [message.kind] ++ be24 message.body.length ++ message.body

/-- Every length fits its field, and another message has a type of its own. -/
def Valid : PostHandshakeMessage → Prop
  | newSessionTicket _ _ nonce ticket extensions =>
    nonce.length < 2 ^ 8 ∧ 0 < ticket.length ∧ ticket.length < 2 ^ 16 ∧ extensions.length < 2 ^ 16
  | keyUpdate _ => True
  | other kind body => kind ≠ 0x04 ∧ kind ≠ 0x18 ∧ body.length < 2 ^ 24

instance : DecidablePred Valid := fun message => by
  unfold Valid
  cases message <;> exact inferInstance

/-- The ticket a client keeps, with the PSK of the ticket's nonce. -/
def ticketData (crypto : Primitives) (context : SessionTicketContext)
    (lifetime ageAdd : UInt32) (nonce ticket extensions : Bytes) : Option SessionTicketData := do
  let psk ← (hkdfExpandLabel crypto context.hkdfAlgorithm context.resumptionMasterSecret
    "resumption" nonce context.hkdfAlgorithm.hashLen).toOption
  return { ticket, resumptionPsk := psk, tlsVersion := .tls13
           cipherSuite := context.cipherSuite, lifetimeSecs := lifetime, ageAdd
           alpn := context.alpn, hkdfAlgorithm := context.hkdfAlgorithm
           aeadAlgorithm := context.aeadAlgorithm, masterSecret := []
           maxEarlyDataSize := ticketEarlyData extensions.length extensions 0
           peerTransportParameters := context.peerTransportParameters }

end PostHandshakeMessage

/-! ## Both directions -/

/-- The state both ends agree on once the client has read what the server sent. -/
structure Connection where
  hkdfAlgorithm : HkdfAlgorithm
  aeadAlgorithm : AeadAlgorithm
  /-- From the server to the client. -/
  sends : Direction
  /-- From the client to the server, after the client's answers. -/
  reads : Direction
  /-- Where the client keeps tickets, if it has a store. -/
  context : Option SessionTicketContext
  tickets : List SessionTicketData
  /-- The records with which the client answers. -/
  answers : Bytes
  /-- The start of a message whose end is still to be sent. -/
  begun : Bytes
  deriving DecidableEq

/-- A record the server sends: application data, or a part of the handshake stream, with the
messages that the record completes and the start of the next one. -/
inductive ServerRecord where
  | data (payload : Bytes)
  | handshake (messages : List PostHandshakeMessage) (begun : Bytes)

/-- A record with application data or with one whole message. -/
def ServerRecord.Single : ServerRecord → Prop
  | data _ => True
  | handshake messages begun => messages.length = 1 ∧ begun = []

namespace Connection

variable (crypto : Primitives)

/-- The KeyUpdate that answers a request goes out under the old key. -/
def answer (connection : Connection) : Option Connection := do
  let (reads, record) ← connection.reads.protect crypto ContentType.handshake
    (PostHandshakeMessage.keyUpdate false).encode 0
  let reads ← reads.update crypto connection.hkdfAlgorithm connection.aeadAlgorithm
  return { connection with reads := reads, answers := connection.answers ++ record }

/-- The effect of a message on both ends. -/
def receive (connection : Connection) : PostHandshakeMessage → Option Connection
  | .newSessionTicket lifetime ageAdd nonce ticket extensions =>
    match connection.context with
    | none => some connection
    | some context => do
      let kept ← PostHandshakeMessage.ticketData crypto context lifetime ageAdd nonce ticket
        extensions
      return { connection with tickets := connection.tickets ++ [kept] }
  | .keyUpdate requested => do
    let sends ← connection.sends.update crypto connection.hkdfAlgorithm connection.aeadAlgorithm
    let connection := { connection with sends := sends }
    if requested then connection.answer crypto else return connection
  | .other _ _ => some connection

/-- The server sends a record. Application data stands between messages, and no KeyUpdate is
followed by anything in its record. -/
inductive Sends : Connection → ServerRecord → Connection → Bytes → Prop
  | data {connection : Connection} {payload bytes : Bytes} {padding : Nat} {sends : Direction}
      (hboundary : connection.begun = [])
      (hprotect : connection.sends.protect crypto ContentType.applicationData payload padding =
        some (sends, bytes)) :
      Sends connection (.data payload) { connection with sends := sends } bytes
  | handshake {connection next : Connection} {messages : List PostHandshakeMessage}
      {payload begun bytes : Bytes} {padding : Nat} {sends : Direction}
      (hvalid : ∀ message ∈ messages, message.Valid)
      (hpacked : connection.begun ++ payload =
        (messages.map PostHandshakeMessage.encode).flatten ++ begun)
      (hnonempty : payload ≠ []) (hbegun : messageLength begun = none)
      (hlast : ∀ before requested after, messages = before ++ .keyUpdate requested :: after →
        after = [] ∧ begun = [])
      (hprotect : connection.sends.protect crypto ContentType.handshake payload padding =
        some (sends, bytes))
      (hreceive : messages.foldlM (receive crypto)
        { connection with sends := sends, begun := begun } = some next) :
      Sends connection (.handshake messages begun) next bytes

/-- The server sends records one after the other. -/
inductive SendsAll : Connection → List ServerRecord → Connection → Bytes → Prop
  | nil (connection : Connection) : SendsAll connection [] connection []
  | cons {connection next last : Connection} {record : ServerRecord}
      {records : List ServerRecord} {bytes more : Bytes}
      (hsends : Sends crypto connection record next bytes)
      (hrest : SendsAll next records last more) :
      SendsAll connection (record :: records) last (bytes ++ more)

end Connection

end LkRequest.Stream
