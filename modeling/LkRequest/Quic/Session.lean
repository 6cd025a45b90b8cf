import LkRequest.Handshake.QuicDriver
import LkRequest.Stream.TlsStream

/-!
# The TLS session of a QUIC connection

`LktlsQuicSession` stands between the QUIC transport and the handshake driver. The transport hands
in CRYPTO bytes with `read_handshake`, and takes out bytes and packet keys with `write_handshake`;
both are kept in queues in between.
-/

namespace LkRequest.Quic

open Library Crypto Session Handshake
open LkRequest.Stream (processNewSessionTicket)

/-! ## Packet keys -/

inductive Side where
  | client
  | server
  deriving DecidableEq

structure PacketKeys where
  key : Bytes
  iv : Bytes
  hpKey : Bytes
  deriving DecidableEq

/-- The packet protection of one direction; the header key has the length of its cipher's key. -/
structure PacketProtection where
  aead : Aead
  hpKey : Bytes
  deriving DecidableEq

/-- The keys of one encryption level. -/
structure Keys where
  localKeys : PacketProtection
  remoteKeys : PacketProtection
  deriving DecidableEq

section
variable (crypto : Primitives)

def derivePacketKeys (secret : Bytes) (hkdf : HkdfAlgorithm) (aead : AeadAlgorithm) :
    Result PacketKeys := do
  let key ← hkdfExpandLabel crypto hkdf secret "quic key" [] aead.keyLen
  let iv ← hkdfExpandLabel crypto hkdf secret "quic iv" [] 12
  let hpKey ← hkdfExpandLabel crypto hkdf secret "quic hp" [] aead.keyLen
  return ⟨key, iv, hpKey⟩

/-- `expect` of a derivation. -/
def expectDerived {α : Type} (reason : String) : Result α → Result α
  | .ok value => .ok value
  | .error _ => .error (.noReturn reason)

def packetProtection (keys : PacketKeys) (algorithm : AeadAlgorithm) : Result PacketProtection :=
  if keys.hpKey.length = algorithm.keyLen then do
    let aead ← expectDerived "derived packet keys must have valid sizes"
      (Aead.new algorithm keys.key keys.iv)
    return ⟨aead, keys.hpKey⟩
  else .error (.noReturn "header protection key length mismatch")

def keysFromSecrets (secrets : QuicTrafficSecrets) (side : Side) : Result Keys := do
  let client ← expectDerived "client packet key derivation must succeed"
    (derivePacketKeys crypto secrets.clientSecret secrets.hkdfAlgorithm secrets.aeadAlgorithm)
  let server ← expectDerived "server packet key derivation must succeed"
    (derivePacketKeys crypto secrets.serverSecret secrets.hkdfAlgorithm secrets.aeadAlgorithm)
  let clientKeys ← packetProtection client secrets.aeadAlgorithm
  let serverKeys ← packetProtection server secrets.aeadAlgorithm
  match side with
  | .client => return ⟨clientKeys, serverKeys⟩
  | .server => return ⟨serverKeys, clientKeys⟩

/-! ## The session -/

structure HandshakeData where
  protocol : Option Bytes
  cipherSuite : Option UInt16
  deriving DecidableEq

structure ZeroRttState where
  keys : PacketKeys
  aeadAlgorithm : AeadAlgorithm
  accepted : Bool
  rejected : Bool
  deriving DecidableEq

structure LktlsQuicSession where
  side : Side := .client
  driver : QuicHandshakeDriver
  pendingOutput : List Bytes
  pendingKeys : List Keys := []
  handshakeData : Option HandshakeData := none
  peerTransportParameters : Option Bytes
  postHandshake : Option PostHandshakeState := none
  sessionTicketCtx : Option SessionTicketContext := none
  postHandshakeBuf : Bytes := []
  established : Bool := false
  zeroRtt : Option ZeroRttState
  /-- The tickets put into the session store. -/
  stored : List SessionTicketData := []
  deriving DecidableEq

abbrev SessionM := Action LktlsQuicSession TlsError

def deriveEarlyCrypto (ticket : SessionTicketData) (clientHello : Bytes) : Result ZeroRttState := do
  let zeroSalt := List.replicate ticket.hkdfAlgorithm.hashLen 0
  let earlySecret := hkdfExtract crypto ticket.hkdfAlgorithm zeroSalt ticket.resumptionPsk
  let transcriptHash := crypto.digest ticket.hkdfAlgorithm.hash clientHello
  let earlyTrafficSecret ← earlySecret.deriveSecret crypto "c e traffic" transcriptHash
  let keys ← derivePacketKeys crypto earlyTrafficSecret ticket.hkdfAlgorithm ticket.aeadAlgorithm
  return ⟨keys, ticket.aeadAlgorithm, false, false⟩

/-- The ticket of the store is handed on to the driver's own store. -/
def resumedTicket (config : QuicHandshakeConfig) : Option SessionTicketData :=
  config.tls.sessionStore.bind id

/-- Whether a ticket allows 0-RTT data over QUIC. -/
def allowsEarlyData (ticket : SessionTicketData) : Bool :=
  ticket.tlsVersion = .tls13 ∧ 0 < ticket.maxEarlyDataSize ∧ ticket.peerTransportParameters.isSome

/-- Start a session; the version has been checked to be 1. -/
def startSession (config : QuicHandshakeConfig) : Result LktlsQuicSession :=
  match QuicHandshakeDriver.start crypto (.new config) with
  | (_, .error error) => .error error
  | (driver, .ok initialOutput) =>
    let ticket := resumedTicket config
    .ok
      { driver := driver
        pendingOutput := [initialOutput]
        peerTransportParameters := ticket.bind (·.peerTransportParameters)
        zeroRtt := (ticket.filter allowsEarlyData).bind fun ticket =>
          (deriveEarlyCrypto crypto ticket initialOutput).toOption }

/-- The tickets of the whole messages at the front of the bytes, and how many bytes they take. -/
def processPostHandshakeMessages (context : SessionTicketContext) :
    Nat → Bytes → List SessionTicketData × Nat
  | 0, _ => ([], 0)
  | fuel + 1, payload =>
    if payload.length < 4 then ([], 0)
    else
      let messageEnd := 4 + u24At payload 1
      if payload.length < messageEnd then ([], 0)
      else
        let ticket := if byteAt payload 0 = 0x04 then
          (processNewSessionTicket crypto context (payload.take messageEnd)).toList else []
        let (tickets, consumed) :=
          processPostHandshakeMessages context fuel (payload.drop messageEnd)
        (ticket ++ tickets, messageEnd + consumed)

def maxPostHandshakeBuf : Nat := 256 * 1024

namespace LktlsQuicSession

/-- After the handshake only tickets are looked for. -/
def readPostHandshake (data : Bytes) (session : LktlsQuicSession) : LktlsQuicSession :=
  match session.sessionTicketCtx with
  | none => session
  | some context =>
    let buffered := session.postHandshakeBuf ++ data
    let (tickets, consumed) :=
      processPostHandshakeMessages crypto context buffered.length buffered
    let rest := buffered.drop consumed
    { session with
      stored := session.stored ++ tickets
      postHandshakeBuf := if maxPostHandshakeBuf < rest.length then [] else rest }

def pushOutput (data : Bytes) (session : LktlsQuicSession) : LktlsQuicSession :=
  if data = [] then session else { session with pendingOutput := session.pendingOutput ++ [data] }

def pushKeys (secrets : QuicTrafficSecrets) : SessionM Unit := do
  let keys ← keysFromSecrets crypto secrets (← Action.get).side
  Action.modify fun session => { session with pendingKeys := session.pendingKeys ++ [keys] }

def progress : SessionM QuicHandshakeOutput := fun session =>
  let progressed := session.driver.progress crypto
  ({ session with driver := progressed.1 }, progressed.2)

def finish (result : QuicHandshakeResult) : SessionM Unit := do
  let params ← QuicHandshakeDriver.encodePeerParams result.peerTransportParams
  Action.modify fun session => { session with
    handshakeData := some ⟨result.negotiatedAlpn.map utf8, result.negotiatedCipherSuite⟩
    peerTransportParameters := params
    postHandshake := result.postHandshake
    sessionTicketCtx := result.sessionTicketCtx
    zeroRtt := session.zeroRtt.map fun state =>
      { state with accepted := result.earlyDataAccepted }
    established := true }

/-- What becomes of an output of the driver; `some` ends the read. -/
def handleOutput : QuicHandshakeOutput → SessionM (Option Bool)
  | .sendData data => do
    Action.modify fun session => { session with
      zeroRtt := session.zeroRtt.map fun state => { state with rejected := true }
      pendingOutput := session.pendingOutput ++ [data] }
    return none
  | .needData => return some false
  | .handshakeSecretsReady toSend secrets => do
    Action.modify (pushOutput toSend)
    pushKeys crypto secrets
    return some false
  | .done toSend result => do
    Action.modify (pushOutput toSend)
    pushKeys crypto result.appSecrets
    finish result
    return some true

def readBody : SessionM (Option Bool) := do
  handleOutput crypto (← progress crypto)

/-- The result says whether the handshake data has become available. -/
def readHandshake (data : Bytes) : SessionM Bool := do
  let session ← Action.get
  if session.established then
    Action.modify (readPostHandshake crypto data)
    return false
  else
    Action.modify fun session => { session with driver := session.driver.feed data }
    (readBody crypto).loop false ((session.driver.feed data).input.length + 1)

/-- All bytes that wait, and the first keys that wait. -/
def writeHandshake (session : LktlsQuicSession) : LktlsQuicSession × Bytes × Option Keys :=
  ({ session with pendingOutput := [], pendingKeys := session.pendingKeys.tail },
    session.pendingOutput.flatten, session.pendingKeys.head?)

end LktlsQuicSession

end

end LkRequest.Quic
