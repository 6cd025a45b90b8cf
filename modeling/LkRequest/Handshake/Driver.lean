import LkRequest.Handshake.Tls12
import LkRequest.Handshake.Tls13
import LkRequest.Library.Action

/-!
# The handshake driver

`HandshakeDriver` runs a TLS 1.3 or TLS 1.2 handshake over the record layer without input or
output of its own: bytes from the transport are fed in, and each call of `progress` hands out
bytes to send, asks for more input, or ends with the keyed reader and writer.
-/

namespace LkRequest.Handshake

open Library Crypto Profile Hello Session Verify Record

/-! ## Results of a handshake -/

structure PostHandshakeState where
  serverAppSecret : Bytes
  clientAppSecret : Bytes
  hkdfAlgorithm : HkdfAlgorithm
  aeadAlgorithm : AeadAlgorithm
  exporterMasterSecret : Bytes
  deriving DecidableEq

structure SessionTicketContext where
  resumptionMasterSecret : Bytes
  hkdfAlgorithm : HkdfAlgorithm
  aeadAlgorithm : AeadAlgorithm
  cipherSuite : UInt16
  alpn : Option String
  peerTransportParameters : Option Bytes
  hostKey : String
  deriving DecidableEq

structure HandshakeResult where
  reader : RecordReader
  writer : RecordWriter
  negotiatedAlpn : Option String
  negotiatedCipherSuite : Option UInt16
  negotiatedVersion : Option UInt16
  peerCertificates : List Bytes
  postHandshake : Option PostHandshakeState
  sessionTicketCtx : Option SessionTicketContext
  deriving DecidableEq

inductive HandshakeOutput where
  | sendData (bytes : Bytes)
  | needData
  | done (toSend : Bytes) (result : HandshakeResult)
  deriving DecidableEq

/-! ## Messages in a byte stream -/

/-- The length of the longest prefix of whole messages. -/
def completeLength : Nat → Bytes → Nat
  | 0, _ => 0
  | fuel + 1, input =>
    if input.length < 4 then 0
    else
      let messageEnd := 4 + u24At input 1
      if input.length < messageEnd then 0
      else messageEnd + completeLength fuel (input.drop messageEnd)

/-- The whole messages at the front of the input, if there are any, and the rest. -/
def takeCompleteHandshakeMessages (input : Bytes) : Option Bytes × Bytes :=
  let position := completeLength input.length input
  if position = 0 then (none, input) else (some (input.take position), input.drop position)

/-- The first message of the input, if it is whole, and the rest. -/
def takeNextHandshakeMessage (input : Bytes) : Option Bytes × Bytes :=
  if input.length < 4 then (none, input)
  else
    let messageEnd := 4 + u24At input 1
    if input.length < messageEnd then (none, input)
    else (some (input.take messageEnd), input.drop messageEnd)

/-! ## Configuration and state -/

/-- Of a session store, the ticket that its `take` returns for this host. -/
structure HandshakeConfig where
  profile : TlsProfile
  hostname : String
  port : UInt16
  verificationPolicy : VerificationPolicy
  alpsPayload : Option Bytes
  sessionStore : Option (Option SessionTicketData)
  echConfigList : Option Bytes
  customCaAnchors : List Bytes
  deriving DecidableEq

def HandshakeConfig.hostKey (config : HandshakeConfig) : String :=
  config.hostname ++ ":" ++ toString config.port.toNat

/-- Whether the protocol of a ticket is still offered. -/
def HandshakeConfig.alpnCompatible (config : HandshakeConfig) (ticket : SessionTicketData) : Bool :=
  match ticket.alpn with
  | none => true
  | some alpn => config.profile.alpnProtocols.contains alpn

inductive DriverState where
  | start
  | waitServerHello (handshake : Tls13Handshake) (chMsg : Bytes)
  | tls13Encrypted (handshake : Tls13Handshake)
  | tls12ServerFlight (handshake : Tls12Handshake) (clientRandom : Bytes)
  | tls12WaitServerFinished (handshake : Tls12Handshake) (clientRandom : Bytes)
      (trafficKeys : Tls12TrafficKeys) (serverCcsReceived : Bool)
  | complete

structure HandshakeDriver where
  config : HandshakeConfig
  state : DriverState := .start
  reader : RecordReader := .new
  writer : RecordWriter := .new
  hsBuffer : Bytes := []
  originalTicket : Option SessionTicketData := none
  pendingAlert : Option Bytes := none
  /-- The tickets put into the session store. -/
  stored : List SessionTicketData := []

abbrev DriverM := Action HandshakeDriver TlsError

abbrev WriterM := Action RecordWriter TlsError

namespace HandshakeDriver

def new (config : HandshakeConfig) : HandshakeDriver := { config := config }

def setState (state : DriverState) : DriverM Unit :=
  .modify fun driver => { driver with state := state }

section
variable (crypto : Primitives)

def onWriter {α : Type} (action : WriterM α) : DriverM α := fun driver =>
  ({ driver with writer := (action driver.writer).1 }, (action driver.writer).2)

def writeRecord (contentType : UInt8) (payload : Bytes) : WriterM Bytes :=
  fun writer => writer.writeRecord crypto contentType payload

/-- A message that is absent is not written. -/
def writeOptional : Option Bytes → WriterM Bytes
  | some message => writeRecord crypto ContentType.handshake message
  | none => pure []

def nextRecord : DriverM (Option PlaintextRecord) := fun driver =>
  ({ driver with reader := (driver.reader.nextRecord crypto).1 },
    (driver.reader.nextRecord crypto).2)

def setReadKeys (algorithm : AeadAlgorithm) (key iv : Bytes) : DriverM Unit := do
  let aead ← Aead.new algorithm key iv
  .modify fun driver => { driver with reader := driver.reader.setKeys aead }

def setWriteKeys (algorithm : AeadAlgorithm) (key iv : Bytes) : DriverM Unit := do
  let aead ← Aead.new algorithm key iv
  .modify fun driver => { driver with writer := driver.writer.setKeys aead }

def installOnReader (keys : Tls12TrafficKeys) : DriverM Unit := do
  let reader ← keys.installOnReader (← Action.get).reader
  .modify fun driver => { driver with reader := reader }

def installOnWriter (keys : Tls12TrafficKeys) : WriterM Unit := do
  let writer ← keys.installOnWriter (← Action.get)
  .modify fun _ => writer

/-! ## Starting -/

/-- The handshake before its first hello, without a ticket. -/
def freshHandshake (config : HandshakeConfig) : Tls13Handshake :=
  { profile := config.profile
    hostname := config.hostname
    verificationPolicy := config.verificationPolicy
    customCaAnchors := config.customCaAnchors
    alpsPayload := config.alpsPayload
    echConfigList := config.echConfigList }

/-- The stored ticket, if the profile resumes sessions of its version and its protocol is still
offered. -/
def usableTicket (config : HandshakeConfig) : Option SessionTicketData := do
  if !config.profile.sessionResumption.anyEnabled then none
  let ticket ← (← config.sessionStore)
  let enabled := match ticket.tlsVersion with
    | .tls13 => config.profile.sessionResumption.tls13Psk
    | .tls12 => config.profile.sessionResumption.tls12SessionTicket
  if enabled && config.alpnCompatible ticket then some ticket else none

def withTicket (handshake : Tls13Handshake) : Option SessionTicketData → Tls13Handshake
  | none => handshake
  | some ticket =>
    match ticket.tlsVersion with
    | .tls13 => { handshake with pskTicket := some ticket }
    | .tls12 => { handshake with tls12SessionTicketData := some ticket.ticket }

/-- The handshake as `start` sets it up. -/
def initialHandshake (config : HandshakeConfig) : Tls13Handshake :=
  withTicket (freshHandshake config) (usableTicket config)

/-- An unusable ticket leaves `original_ticket` as it was. -/
def start : DriverM Bytes := do
  let driver ← Action.get
  Action.modify fun driver => { driver with
    originalTicket := (usableTicket driver.config).or driver.originalTicket }
  let (handshake, chMsg) ← (initialHandshake driver.config).buildClientHello crypto
  let chRecord ← onWriter (writeRecord crypto ContentType.handshake chMsg)
  setState (.waitServerHello handshake chMsg)
  return chRecord

def feed (driver : HandshakeDriver) (data : Bytes) : HandshakeDriver :=
  { driver with reader := driver.reader.feed data }

/-! ## TLS 1.3 -/

/-- The record of the change of ciphers, which is not sent again after a retry. -/
def middleboxCcs (handshake : Tls13Handshake) : WriterM Bytes :=
  if handshake.hrrReceived then pure []
  else writeRecord crypto ContentType.changeCipherSpec [0x01]

def beginTls13 (handshake : Tls13Handshake) (serverHello : Bytes) : DriverM HandshakeOutput := do
  let (handshake, action) ← handshake.processHandshakeRecord crypto serverHello
  match action with
  | .installHandshakeKeys keys =>
    let ccs ← onWriter (middleboxCcs crypto handshake)
    setReadKeys keys.aeadAlgorithm keys.serverKey keys.serverIv
    setWriteKeys keys.aeadAlgorithm keys.clientKey keys.clientIv
    setState (.tls13Encrypted handshake)
    return .sendData ccs
  | .retryClientHello ch2 =>
    let ccs ← onWriter (writeRecord crypto ContentType.changeCipherSpec [0x01])
    let ch2Record ←
      (RecordWriter.new.markPostInitial.writeRecord crypto ContentType.handshake ch2).2
    setState (.waitServerHello handshake ch2)
    return .sendData (ccs ++ ch2Record)
  | _ => .fail (.handshakeFailure "unexpected action after ServerHello")

/-- `std::mem::take` of the reader and of the writer. -/
def takeRecordLayer : DriverM (RecordReader × RecordWriter) := fun driver =>
  ({ driver with reader := .new, writer := .new }, .ok (driver.reader, driver.writer))

def ticketContext (config : HandshakeConfig) (complete : HandshakeComplete)
    (peerTransportParameters : Option Bytes) : Option SessionTicketContext :=
  if config.profile.sessionResumption.storeTickets ∧ config.sessionStore.isSome then
    some
      { resumptionMasterSecret := complete.resumptionMasterSecret
        hkdfAlgorithm := complete.trafficSecrets.hkdfAlgorithm
        aeadAlgorithm := complete.trafficSecrets.aeadAlgorithm
        cipherSuite := complete.negotiatedCipherSuite
        alpn := complete.negotiatedAlpn
        peerTransportParameters := peerTransportParameters
        hostKey := config.hostKey }
  else none

def postHandshakeState (secrets : TrafficSecrets) : PostHandshakeState where
  serverAppSecret := secrets.serverAppSecret
  clientAppSecret := secrets.clientAppSecret
  hkdfAlgorithm := secrets.hkdfAlgorithm
  aeadAlgorithm := secrets.aeadAlgorithm
  exporterMasterSecret := secrets.exporterMasterSecret

/-- The result of a TLS 1.3 handshake that ends with the given record layer. -/
def tls13Result (config : HandshakeConfig) (complete : HandshakeComplete) (reader : RecordReader)
    (writer : RecordWriter) : HandshakeResult where
  reader := reader
  writer := writer
  negotiatedAlpn := complete.negotiatedAlpn
  negotiatedCipherSuite := some complete.negotiatedCipherSuite
  negotiatedVersion := some 0x0304
  peerCertificates := complete.serverCertificates
  postHandshake := some (postHandshakeState complete.trafficSecrets)
  sessionTicketCtx := ticketContext config complete none

/-- The records after the server Finished, under the handshake keys. -/
def finalFlightRecords (complete : HandshakeComplete) : WriterM Bytes := do
  let clientEe ← writeOptional crypto complete.clientEncryptedExtensions
  let certificate ← writeOptional crypto complete.clientCertificate
  let finished ← writeRecord crypto ContentType.handshake complete.clientFinished
  return clientEe ++ certificate ++ finished

def finishTls13 (complete : HandshakeComplete) : DriverM HandshakeOutput := do
  let toSend ← onWriter (finalFlightRecords crypto complete)
  let secrets := complete.trafficSecrets
  setReadKeys secrets.aeadAlgorithm secrets.serverKey secrets.serverIv
  setWriteKeys secrets.aeadAlgorithm secrets.clientKey secrets.clientIv
  setState .complete
  let config := (← Action.get).config
  let (reader, writer) ← takeRecordLayer
  return .done toSend (tls13Result config complete reader writer)

/-! ## TLS 1.2 -/

/-- The result of a TLS 1.2 handshake that ends with the given record layer. -/
def tls12Result (handshake : Tls12Handshake) (keys : Tls12TrafficKeys) (reader : RecordReader)
    (writer : RecordWriter) : HandshakeResult where
  reader := reader
  writer := writer
  negotiatedAlpn := handshake.negotiatedAlpn
  negotiatedCipherSuite := some keys.cipherSuite.codePoint
  negotiatedVersion := some 0x0303
  peerCertificates := handshake.serverCertificates
  postHandshake := none
  sessionTicketCtx := none

def finishTls12 (handshake : Tls12Handshake) (keys : Tls12TrafficKeys) (toSend : Bytes) :
    DriverM HandshakeOutput := do
  setState .complete
  let (reader, writer) ← takeRecordLayer
  return .done toSend (tls12Result handshake keys reader writer)

/-- The client flight of a full handshake; its Finished is the first record under the new keys. -/
def clientFlightRecords (flight : Tls12ClientFlight) : WriterM Bytes := do
  let certificate ← writeOptional crypto flight.clientCertificate
  let keyExchange ← writeRecord crypto ContentType.handshake flight.clientKeyExchange
  let ccs ← writeRecord crypto ContentType.changeCipherSpec [0x01]
  installOnWriter flight.trafficKeys
  let finished ← writeRecord crypto ContentType.handshake flight.clientFinished
  return certificate ++ keyExchange ++ ccs ++ finished

def finishTls12Full (handshake : Tls12Handshake) (clientRandom : Bytes)
    (flight : Tls12ClientFlight) : DriverM HandshakeOutput := do
  let bytes ← onWriter (clientFlightRecords crypto flight)
  setState (.tls12WaitServerFinished handshake clientRandom flight.trafficKeys false)
  return .sendData bytes

/-- The master secret of a TLS 1.2 ticket, with which a session can be resumed. -/
def ticketMasterSecret (ticket : Option SessionTicketData) : Option Bytes :=
  ticket.bind fun ticket =>
    if ticket.tlsVersion = .tls12 ∧ ticket.masterSecret ≠ [] then some ticket.masterSecret
    else none

def initialTls12 (config : HandshakeConfig) (ticket : Option SessionTicketData)
    (clientRandom chMsg : Bytes) : Tls12Handshake :=
  { Tls12Handshake.new clientRandom config.hostname config.verificationPolicy with
    customCaAnchors := config.customCaAnchors
    resumedMasterSecret := ticketMasterSecret ticket }.feedClientHello chMsg

/-- Only a client that offers TLS 1.3 looks for the sentinel. -/
def checkDowngrade (config : HandshakeConfig) (serverHello : Bytes) : Result Unit :=
  if 0x0304 ≤ config.profile.tlsMaxVersion.asU16 then checkDowngradeSentinel serverHello
  else .ok ()

def beginTls12 (chMsg serverHello : Bytes) : DriverM HandshakeOutput := do
  let driver ← Action.get
  checkDowngrade driver.config serverHello
  let clientRandom ← orMalformed (.noReturn "range end index out of range") (slice? chMsg 6 38)
  Action.modify fun driver => { driver with originalTicket := none }
  let handshake := initialTls12 driver.config driver.originalTicket clientRandom chMsg
  let (messages, trailer) := takeCompleteHandshakeMessages serverHello
  let (handshake, action) ← handshake.processHandshakeRecord crypto (messages.getD [])
  Action.modify fun driver => { driver with hsBuffer := trailer }
  match action with
  | .sendClientFlight flight => finishTls12Full crypto handshake clientRandom flight
  | _ =>
    setState (.tls12ServerFlight handshake clientRandom)
    return .needData

/-- The client's answer in an abbreviated handshake. -/
def abbreviatedFlightRecords (flight : Tls12AbbreviatedFlight) : WriterM Bytes := do
  let ccs ← writeRecord crypto ContentType.changeCipherSpec [0x01]
  installOnWriter flight.trafficKeys
  let finished ← writeRecord crypto ContentType.handshake flight.clientFinished
  return ccs ++ finished

def completeTls12Abbreviated (handshake : Tls12Handshake) (finishedPayload : Bytes) :
    DriverM HandshakeOutput := do
  let (handshake, flight) ← handshake.processAbbreviatedServerFinished crypto finishedPayload
  let toSend ← onWriter (abbreviatedFlightRecords crypto flight)
  finishTls12 handshake flight.trafficKeys toSend

/-- Read on for the server Finished; when it is not there yet, wait in the state of a full
handshake. -/
def abbreviatedBody (handshake : Tls12Handshake) (clientRandom : Bytes) (keys : Tls12TrafficKeys) :
    DriverM (Option HandshakeOutput) := do
  match ← nextRecord crypto with
  | some record =>
    if record.contentType = ContentType.changeCipherSpec then return none
    else if record.contentType = ContentType.handshake then
      return some (← completeTls12Abbreviated crypto handshake record.payload)
    else .fail (.unexpectedMessage
      ("expected server Finished, got 0x" ++ hex02 record.contentType))
  | none =>
    setState (.tls12WaitServerFinished handshake clientRandom keys true)
    return some .needData

def handleTls12AbbreviatedCcs : DriverM HandshakeOutput := do
  let driver ← Action.get
  setState .complete
  match driver.state with
  | .tls12ServerFlight handshake clientRandom =>
    let (handshake, keys) ← handshake.acceptAbbreviatedCcs crypto
    installOnReader keys
    (abbreviatedBody crypto handshake clientRandom keys).loop .needData
      (driver.reader.buf.length + 1)
  | _ => .fail (.handshakeFailure "unexpected state for abbreviated CCS")

/-- Keep the ticket of a NewSessionTicket before the change of ciphers. -/
def tryStoreTls12SessionTicket (handshake : Tls12Handshake) (payload : Bytes) : DriverM Unit :=
  .modify fun driver =>
    if payload.head? = some HandshakeType.newSessionTicket ∧
        driver.config.profile.sessionResumption.storeTickets ∧
        driver.config.sessionStore.isSome then
      match handshake.masterSecret with
      | none => driver
      | some masterSecret =>
        match parseTls12NewSessionTicket payload masterSecret handshake.negotiatedAlpn
            handshake.cipherSuite with
        | .ok ticket => { driver with stored := driver.stored ++ [ticket] }
        | .error _ => driver
    else driver

def alertOf (payload : Bytes) : TlsError :=
  .alert (.fromBytes (byteAt payload 0) (byteAt payload 1))

/-- A handshake record in the state that waits for the server Finished. -/
def waitFinishedRecord (handshake : Tls12Handshake) (clientRandom : Bytes)
    (keys : Tls12TrafficKeys) (serverCcsReceived : Bool) (payload : Bytes) :
    DriverM (Option HandshakeOutput) :=
  if serverCcsReceived then do
    setState .complete
    let (handshake, _) ← handshake.notifyServerCcsReceived.processServerFinished crypto payload
    return some (← finishTls12 handshake keys [])
  else do
    tryStoreTls12SessionTicket handshake payload
    setState (.tls12WaitServerFinished (handshake.feedHandshakeMessage payload) clientRandom keys
      false)
    return none

def waitFinishedBody : DriverM (Option HandshakeOutput) := do
  match ← nextRecord crypto with
  | none => return some .needData
  | some record =>
    if record.contentType = ContentType.alert then .fail (alertOf record.payload)
    else match (← Action.get).state with
      | .tls12WaitServerFinished handshake clientRandom keys serverCcsReceived =>
        if record.contentType = ContentType.changeCipherSpec then
          if serverCcsReceived then return none
          else
            setState .complete
            installOnReader keys
            setState (.tls12WaitServerFinished handshake clientRandom keys true)
            return none
        else if record.contentType = ContentType.handshake then
          waitFinishedRecord crypto handshake clientRandom keys serverCcsReceived record.payload
        else return none
      | _ => .fail (.handshakeFailure "unexpected state")

/-! ## The loop over records -/

/-- The whole messages in the reassembly buffer after a further handshake payload. -/
def messagesWith (driver : HandshakeDriver) (payload : Bytes) : Bytes :=
  (takeCompleteHandshakeMessages (driver.hsBuffer ++ payload)).1.getD []

/-- What stays in the reassembly buffer. -/
def trailerWith (driver : HandshakeDriver) (payload : Bytes) : Bytes :=
  (takeCompleteHandshakeMessages (driver.hsBuffer ++ payload)).2

/-- A handshake record of the encrypted flight. Without a whole message in the buffer there is
nothing to process, and the driver reads on. -/
def tls13Record (handshake : Tls13Handshake) (payload : Bytes) :
    DriverM (Option HandshakeOutput) := do
  let driver ← Action.get
  Action.modify fun driver => { driver with hsBuffer := driver.trailerWith payload }
  let (handshake, action) ←
    handshake.processHandshakeRecord crypto (driver.messagesWith payload)
  match action with
  | .continueReading =>
    setState (.tls13Encrypted handshake)
    return none
  | .complete complete => return some (← finishTls13 crypto complete)
  | _ => .fail (.handshakeFailure "unexpected action during encrypted handshake")

/-- A handshake record of the TLS 1.2 server flight. -/
def tls12Record (handshake : Tls12Handshake) (clientRandom payload : Bytes) :
    DriverM (Option HandshakeOutput) := do
  let driver ← Action.get
  Action.modify fun driver => { driver with hsBuffer := driver.trailerWith payload }
  let (handshake, action) ←
    handshake.processHandshakeRecord crypto (driver.messagesWith payload)
  match action with
  | .continueReading =>
    setState (.tls12ServerFlight handshake clientRandom)
    return none
  | .sendClientFlight flight =>
    return some (← finishTls12Full crypto handshake clientRandom flight)
  | _ => .fail (.handshakeFailure "unexpected TLS 1.2 action during server flight")

/-- The record of the first server message; its version decides the protocol. -/
def serverHelloRecord (handshake : Tls13Handshake) (chMsg payload : Bytes) :
    DriverM (Option HandshakeOutput) := do
  let version ← detectVersionFromServerHello payload
  if version = 0x0304 then return some (← beginTls13 crypto handshake payload)
  else if version = 0x0303 then
    match ← beginTls12 crypto chMsg payload with
    | .needData => return none
    | other => return some other
  else .fail (.handshakeFailure ("unsupported TLS version: 0x" ++ hex04 version))

/-- A handshake record; while it is handled the state is `Complete`, which stays on an error. -/
def handshakeRecord (payload : Bytes) : DriverM (Option HandshakeOutput) := do
  let driver ← Action.get
  setState .complete
  match driver.state with
  | .waitServerHello handshake chMsg => serverHelloRecord crypto handshake chMsg payload
  | .tls13Encrypted handshake => tls13Record crypto handshake payload
  | .tls12ServerFlight handshake clientRandom => tls12Record crypto handshake clientRandom payload
  | .start => .fail (.handshakeFailure "start() not called")
  | .complete => .fail (.handshakeFailure "handshake already complete")
  | .tls12WaitServerFinished .. => .fail (.noReturn "entered unreachable code")

/-- Whether a change of ciphers now is the server's acceptance of a TLS 1.2 ticket. -/
def awaitsAbbreviated (driver : HandshakeDriver) : Bool :=
  match driver.state with
  | .tls12ServerFlight handshake _ => handshake.state = .waitCertificateOrAbbreviated
  | _ => false

def innerBody : DriverM (Option HandshakeOutput) := do
  match ← nextRecord crypto with
  | none => return some .needData
  | some record =>
    if record.contentType = ContentType.changeCipherSpec then
      if (← Action.get).awaitsAbbreviated then
        return some (← handleTls12AbbreviatedCcs crypto)
      else return none
    else if record.contentType = ContentType.alert then .fail (alertOf record.payload)
    else if record.contentType = ContentType.handshake then handshakeRecord crypto record.payload
    else .fail (.unexpectedMessage
      ("expected handshake, got content_type=0x" ++ hex02 record.contentType))

/-- Every pass takes a record out of the buffer, so its length bounds the number of passes. -/
def progressInner : DriverM HandshakeOutput := do
  let driver ← Action.get
  let passes := driver.reader.buf.length + 1
  match driver.state with
  | .tls12WaitServerFinished .. => (waitFinishedBody crypto).loop .needData passes
  | _ => (innerBody crypto).loop .needData passes

/-- A local alert is kept as a record for the transport to send. -/
def keepAlert (error : TlsError) (driver : HandshakeDriver) : HandshakeDriver :=
  match error with
  | .localAlert alert _ =>
    match driver.writer.writeRecord crypto ContentType.alert alert.toBytes with
    | (writer, .ok record) => { driver with writer := writer, pendingAlert := some record }
    | (writer, .error _) => { driver with writer := writer }
  | _ => driver

def progress : DriverM HandshakeOutput := fun driver =>
  match progressInner crypto driver with
  | (driver, .ok output) => (driver, .ok output)
  | (driver, .error error) => (driver.keepAlert crypto error, .error error)

def takePendingAlert (driver : HandshakeDriver) : HandshakeDriver × Option Bytes :=
  ({ driver with pendingAlert := none }, driver.pendingAlert)

end

end HandshakeDriver

end LkRequest.Handshake
