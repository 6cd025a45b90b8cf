import LkRequest.Handshake.Driver

/-!
# The QUIC handshake driver

`QuicHandshakeDriver` runs the TLS 1.3 handshake over the CRYPTO stream of a QUIC connection: there
is no record layer, and the traffic secrets are handed to the transport.
-/

namespace LkRequest.Handshake

open Library Crypto Profile Hello Session Verify

structure QuicTrafficSecrets where
  clientSecret : Bytes
  serverSecret : Bytes
  hkdfAlgorithm : HkdfAlgorithm
  aeadAlgorithm : AeadAlgorithm
  deriving DecidableEq

structure QuicHandshakeResult where
  negotiatedAlpn : Option String
  negotiatedCipherSuite : Option UInt16
  handshakeSecrets : QuicTrafficSecrets
  appSecrets : QuicTrafficSecrets
  postHandshake : Option PostHandshakeState
  sessionTicketCtx : Option SessionTicketContext
  peerTransportParams : Option (List QuicTransportParam)
  earlyDataAccepted : Bool

inductive QuicHandshakeOutput where
  | sendData (bytes : Bytes)
  | needData
  | handshakeSecretsReady (toSend : Bytes) (secrets : QuicTrafficSecrets)
  | done (toSend : Bytes) (result : QuicHandshakeResult)

structure QuicHandshakeConfig where
  tls : HandshakeConfig
  transportParameters : Bytes
  deriving DecidableEq

inductive QuicDriverState where
  | start
  | waitServerHello (handshake : Tls13Handshake)
  | tls13Encrypted (handshake : Tls13Handshake)
  | complete
  deriving DecidableEq

structure QuicHandshakeDriver where
  config : QuicHandshakeConfig
  state : QuicDriverState := .start
  input : Bytes := []
  handshakeSecrets : Option QuicTrafficSecrets := none
  deriving DecidableEq

abbrev QuicM := Action QuicHandshakeDriver TlsError

def quicSecretsFromHandshakeKeys (keys : HandshakeKeys) : QuicTrafficSecrets :=
  ⟨keys.clientSecret, keys.serverSecret, keys.hkdfAlgorithm, keys.aeadAlgorithm⟩

def quicSecretsFromTrafficSecrets (secrets : TrafficSecrets) : QuicTrafficSecrets :=
  ⟨secrets.clientAppSecret, secrets.serverAppSecret, secrets.hkdfAlgorithm, secrets.aeadAlgorithm⟩

namespace QuicHandshakeDriver

def new (config : QuicHandshakeConfig) : QuicHandshakeDriver := { config := config }

def setState (state : QuicDriverState) : QuicM Unit :=
  .modify fun driver => { driver with state := state }

/-- The stored ticket, if it is a TLS 1.3 ticket whose protocol is still offered. -/
def usableTicket (config : HandshakeConfig) : Option SessionTicketData := do
  if !config.profile.sessionResumption.tls13Psk then none
  let ticket ← (← config.sessionStore)
  if ticket.tlsVersion = .tls13 ∧ config.alpnCompatible ticket then some ticket else none

/-- The handshake as `start` sets it up. -/
def initialHandshake (config : QuicHandshakeConfig) : Tls13Handshake :=
  { HandshakeDriver.freshHandshake config.tls with
    quicMode := true
    quicTransportParameters := some config.transportParameters
    pskTicket := usableTicket config.tls }

section
variable (crypto : Primitives)

def start : QuicM Bytes := do
  let (handshake, chMsg) ←
    (initialHandshake (← Action.get).config).buildClientHello crypto
  setState (.waitServerHello handshake)
  return chMsg

def feed (driver : QuicHandshakeDriver) (data : Bytes) : QuicHandshakeDriver :=
  { driver with input := driver.input ++ data }

def beginQuicTls13 (handshake : Tls13Handshake) (serverHello : Bytes) :
    QuicM QuicHandshakeOutput := do
  let (handshake, action) ← handshake.processHandshakeRecord crypto serverHello
  match action with
  | .installHandshakeKeys keys =>
    let secrets := quicSecretsFromHandshakeKeys keys
    Action.modify fun driver => { driver with handshakeSecrets := some secrets }
    setState (.tls13Encrypted handshake)
    return .handshakeSecretsReady [] secrets
  | .retryClientHello ch2 =>
    setState (.waitServerHello handshake)
    return .sendData ch2
  | _ => .fail (.handshakeFailure "unexpected action after QUIC ServerHello")

def encodePeerParams : Option (List QuicTransportParam) → Result (Option Bytes)
  | none => .ok none
  | some params => do return some (← encodeTransportParams params)

/-- The client Certificate is not among the bytes to send. -/
def finishQuicTls13 (complete : HandshakeComplete) : QuicM QuicHandshakeOutput := do
  let driver ← Action.get
  let toSend := complete.clientEncryptedExtensions.getD [] ++ complete.clientFinished
  let params ← encodePeerParams complete.peerQuicTransportParams
  let appSecrets := quicSecretsFromTrafficSecrets complete.trafficSecrets
  let handshakeSecrets ← orMalformed
    (.handshakeFailure "missing QUIC handshake traffic secrets") driver.handshakeSecrets
  setState .complete
  return .done toSend
    { negotiatedAlpn := complete.negotiatedAlpn
      negotiatedCipherSuite := some complete.negotiatedCipherSuite
      handshakeSecrets := handshakeSecrets
      appSecrets := appSecrets
      postHandshake := some (HandshakeDriver.postHandshakeState complete.trafficSecrets)
      sessionTicketCtx := HandshakeDriver.ticketContext driver.config.tls complete params
      peerTransportParams := complete.peerQuicTransportParams
      earlyDataAccepted := complete.earlyDataAccepted }

/-- The state is `Complete` while a message is handled, and stays so on an error. -/
def body : QuicM (Option QuicHandshakeOutput) := do
  let driver ← Action.get
  setState .complete
  match driver.state with
  | .start => .fail (.handshakeFailure "start() not called")
  | .complete => .fail (.handshakeFailure "handshake already complete")
  | .waitServerHello handshake =>
    match takeNextHandshakeMessage driver.input with
    | (none, _) =>
      setState (.waitServerHello handshake)
      return some .needData
    | (some serverHello, rest) =>
      Action.modify fun driver => { driver with input := rest }
      let version ← detectVersionFromServerHello serverHello
      if version = 0x0304 then return some (← beginQuicTls13 crypto handshake serverHello)
      else .fail (.handshakeFailure ("QUIC requires TLS 1.3, got 0x" ++ hex04 version))
  | .tls13Encrypted handshake =>
    match takeCompleteHandshakeMessages driver.input with
    | (none, _) =>
      setState (.tls13Encrypted handshake)
      return some .needData
    | (some messages, rest) =>
      Action.modify fun driver => { driver with input := rest }
      let (handshake, action) ← handshake.processHandshakeRecord crypto messages
      match action with
      | .continueReading =>
        setState (.tls13Encrypted handshake)
        return none
      | .complete complete => return some (← finishQuicTls13 complete)
      | _ => .fail (.handshakeFailure "unexpected action during QUIC encrypted handshake")

/-- A pass that goes round again has taken all whole messages, and the next one asks for more. -/
def progress : QuicM QuicHandshakeOutput := do
  let driver ← Action.get
  (body crypto).loop .needData (driver.input.length + 1)

end

end QuicHandshakeDriver

end LkRequest.Handshake
