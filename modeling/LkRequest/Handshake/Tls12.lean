import LkRequest.Handshake.Transcript
import LkRequest.Hello.EchBuilder
import LkRequest.Record.Writer
import LkRequest.Verify.CertChain

/-!
# The TLS 1.2 handshake

The state machine of `Tls12Handshake`: the full ECDHE or RSA handshake and the abbreviated one of a
session ticket, with the traffic keys and the record ciphers made from them.
-/

namespace LkRequest.Handshake

open Library Crypto Hello Record Verify

/-! ## States and actions -/

inductive Tls12State where
  | waitServerHello
  | waitCertificateOrAbbreviated
  | waitCertificate
  | waitServerKeyExchange
  | waitServerHelloDone
  | sendClientKeyExchange
  | waitServerChangeCipherSpec
  | waitServerFinished
  | connected
  deriving DecidableEq

/-- The `Debug` text of a state. -/
def Tls12State.debug : Tls12State → String
  | waitServerHello => "WaitServerHello"
  | waitCertificateOrAbbreviated => "WaitCertificateOrAbbreviated"
  | waitCertificate => "WaitCertificate"
  | waitServerKeyExchange => "WaitServerKeyExchange"
  | waitServerHelloDone => "WaitServerHelloDone"
  | sendClientKeyExchange => "SendClientKeyExchange"
  | waitServerChangeCipherSpec => "WaitServerChangeCipherSpec"
  | waitServerFinished => "WaitServerFinished"
  | connected => "Connected"

structure Tls12TrafficKeys where
  cipherSuite : Tls12CipherSuite
  clientWriteKey : Bytes
  serverWriteKey : Bytes
  clientWriteIv : Bytes
  serverWriteIv : Bytes
  clientWriteMacKey : Bytes
  serverWriteMacKey : Bytes

structure Tls12ClientFlight where
  clientCertificate : Option Bytes
  clientKeyExchange : Bytes
  clientFinished : Bytes
  trafficKeys : Tls12TrafficKeys

structure Tls12AbbreviatedFlight where
  clientFinished : Bytes
  trafficKeys : Tls12TrafficKeys

/-- What the caller has to do after a record. -/
inductive Tls12HandshakeAction where
  | continueReading
  | sendClientFlight (flight : Tls12ClientFlight)
  | sendAbbreviatedFlight (flight : Tls12AbbreviatedFlight)
  | complete (keys : Tls12TrafficKeys)

/-! ## Record ciphers -/

/-- The MAC of a CBC suite, by the hash in its name. -/
def cbcMacAlgorithm : Tls12CipherSuite → CbcMacAlgorithm
  | .ecdheRsaAes128CbcSha256 | .rsaAes128CbcSha256 | .rsaAes256CbcSha256 => .hmacSha256
  | .ecdheRsaAes256CbcSha384 => .hmacSha384
  | _ => .hmacSha1

def createChacha20Cipher (key iv : Bytes) : Result Tls12RecordCipher :=
  if hiv : iv.length = 12 then
    if key.length ≠ 32 then
      .error (.cryptoError (s!"ChaCha20-Poly1305 key must be 32 bytes, got {key.length}"))
    else (Tls12Chacha20Cipher.new key iv hiv).map .chacha20
  else .error (.cryptoError (s!"ChaCha20-Poly1305 IV must be 12 bytes, got {iv.length}"))

def createGcmCipher (key iv : Bytes) : Result Tls12RecordCipher :=
  if hiv : iv.length = 4 then
    (Tls12GcmCipher.new key iv hiv (key.length == 32)).map .gcm
  else .error (.cryptoError (s!"GCM implicit IV must be 4 bytes, got {iv.length}"))

def createTls12RecordCipher (suite : Tls12CipherSuite) (key iv macKey : Bytes) :
    Result Tls12RecordCipher :=
  match suite with
  | .ecdheEcdsaChacha20Poly1305 | .ecdheRsaChacha20Poly1305 => createChacha20Cipher key iv
  | suite =>
    if suite.isAead then createGcmCipher key iv
    else .ok (.cbc ⟨key, macKey, cbcMacAlgorithm suite⟩)

namespace Tls12TrafficKeys

def toRecordCipher (keys : Tls12TrafficKeys) (clientSide : Bool) : Result Tls12RecordCipher :=
  if clientSide then
    createTls12RecordCipher keys.cipherSuite keys.clientWriteKey keys.clientWriteIv
      keys.clientWriteMacKey
  else
    createTls12RecordCipher keys.cipherSuite keys.serverWriteKey keys.serverWriteIv
      keys.serverWriteMacKey

def installOnWriter (keys : Tls12TrafficKeys) (writer : RecordWriter) : Result RecordWriter :=
  (keys.toRecordCipher true).map writer.setTls12Keys

def installOnReader (keys : Tls12TrafficKeys) (reader : RecordReader) : Result RecordReader :=
  (keys.toRecordCipher false).map reader.setTls12Keys

end Tls12TrafficKeys

/-! ## The handshake -/

structure ServerKxParams where
  curve : UInt16
  publicKey : Bytes
  signatureAlgorithm : UInt16
  signature : Bytes
  signedParams : Bytes

structure Tls12Handshake where
  state : Tls12State := .waitServerHello
  transcript : Option TranscriptHash := none
  clientHelloBytes : Bytes := []
  clientRandom : Bytes
  serverRandom : Bytes := List.replicate 32 0
  cipherSuite : Option Tls12CipherSuite := none
  prfAlgorithm : PrfAlgorithm := .sha256
  serverCertificates : List Bytes := []
  clientCertificateRequested : Bool := false
  serverKxParams : Option ServerKxParams := none
  masterSecret : Option Bytes := none
  hostname : String
  verificationPolicy : VerificationPolicy
  customCaAnchors : List Bytes := []
  negotiatedAlpn : Option String := none
  useExtendedMasterSecret : Bool := false
  resumedMasterSecret : Option Bytes := none
  abbreviated : Bool := false

namespace Tls12Handshake

def new (clientRandom : Bytes) (hostname : String) (policy : VerificationPolicy) : Tls12Handshake :=
  { clientRandom := clientRandom, hostname := hostname, verificationPolicy := policy }

/-- Feed a message to the transcript, if there is one. -/
def feedHandshakeMessage (handshake : Tls12Handshake) (message : Bytes) : Tls12Handshake :=
  { handshake with transcript := handshake.transcript.map (·.update message) }

def feedOptional (handshake : Tls12Handshake) : Option Bytes → Tls12Handshake
  | some message => handshake.feedHandshakeMessage message
  | none => handshake

def feedClientHello (handshake : Tls12Handshake) (message : Bytes) : Tls12Handshake :=
  { handshake with
    clientHelloBytes := message
    transcript := some ((TranscriptHash.new .sha256).update message) }

def notifyServerCcsReceived (handshake : Tls12Handshake) : Tls12Handshake :=
  if handshake.state = .waitServerChangeCipherSpec then
    { handshake with state := .waitServerFinished }
  else handshake

/-! ## ServerHello -/

/-- The protocol of an ALPN extension, if its bytes are in order. -/
def alpnProtocol (data : Bytes) : Option String :=
  if 2 ≤ data.length ∧ 0 < u16At data 0 ∧ 2 < data.length ∧
      3 + (byteAt data 2).toNat ≤ data.length then
    fromUtf8? (slice data 3 (3 + (byteAt data 2).toNat))
  else none

def applyServerExtension (handshake : Tls12Handshake) (extType : Nat) (data : Bytes) :
    Tls12Handshake :=
  let handshake :=
    if extType = 0x0017 then { handshake with useExtendedMasterSecret := true } else handshake
  if extType = 0x0010 then
    match alpnProtocol data with
    | some protocol => { handshake with negotiatedAlpn := some protocol }
    | none => handshake
  else handshake

/-- The extensions in turn; one may run past the block, but not past the message. -/
def applyServerExtensions (body : Bytes) (extEnd : Nat) :
    Nat → Nat → Tls12Handshake → Tls12Handshake
  | 0, _, handshake => handshake
  | fuel + 1, offset, handshake =>
    if extEnd < offset + 4 ∨ body.length < offset + 4 then handshake
    else
      let extLen := u16At body (offset + 2)
      if body.length < offset + 4 + extLen then handshake
      else
        applyServerExtensions body extEnd fuel (offset + 4 + extLen)
          (handshake.applyServerExtension (u16At body offset)
            (slice body (offset + 4) (offset + 4 + extLen)))

/-- The transcript with the ServerHello, restarted if the suite's hash is not the assumed one. -/
def hashServerHello (handshake : Tls12Handshake) (suite : Tls12CipherSuite) (message : Bytes) :
    Tls12Handshake :=
  if suite.prfAlgorithm = .sha256 then handshake.feedHandshakeMessage message
  else
    { handshake with
      transcript := some (((TranscriptHash.new suite.prfAlgorithm.hash).update
        handshake.clientHelloBytes).update message) }

def processServerHello (handshake : Tls12Handshake) (body message : Bytes) :
    Result (Tls12Handshake × Tls12HandshakeAction) := do
  if body.length < 38 then .error (.handshakeFailure "ServerHello too short")
  let offset := 35 + (byteAt body 34).toNat
  if body.length < offset + 3 then .error (.handshakeFailure "ServerHello truncated")
  let code := UInt16.ofNat (u16At body offset)
  let suite ← orMalformed
    (.handshakeFailure ("unsupported TLS 1.2 cipher suite: 0x" ++ hex04 code))
    (Tls12CipherSuite.fromCodePoint code)
  let handshake := { handshake with
    serverRandom := slice body 2 34
    cipherSuite := some suite
    prfAlgorithm := suite.prfAlgorithm }
  let extStart := offset + 3
  let handshake :=
    if extStart + 2 ≤ body.length then
      applyServerExtensions body (extStart + 2 + u16At body extStart) body.length (extStart + 2)
        handshake
    else handshake
  let handshake := handshake.hashServerHello suite message
  let next := if handshake.resumedMasterSecret.isSome then
    Tls12State.waitCertificateOrAbbreviated else .waitCertificate
  return ({ handshake with state := next }, .continueReading)

/-! ## Certificate and key exchange -/

/-- The certificates of the list; an entry is bounded by the message, not by the list. -/
def parseCertificates (body : Bytes) (listEnd : Nat) : Nat → Nat → Result (List Bytes)
  | 0, _ => .ok []
  | fuel + 1, offset =>
    if listEnd ≤ offset then .ok []
    else if body.length < offset + 3 then .ok []
    else
      let certEnd := offset + 3 + u24At body offset
      if body.length < certEnd then .error (.handshakeFailure "Certificate truncated")
      else do
        let rest ← parseCertificates body listEnd fuel certEnd
        return slice body (offset + 3) certEnd :: rest

section
variable (crypto : Primitives)

def processCertificate (handshake : Tls12Handshake) (body message : Bytes) :
    Result (Tls12Handshake × Tls12HandshakeAction) := do
  if body.length < 3 then .error (.handshakeFailure "Certificate message too short")
  let chain ← parseCertificates body (3 + u24At body 0) body.length 3
  if chain = [] then .error (.certificateError "server sent no certificates")
  handshake.verificationPolicy.verifyCertificateChain crypto chain handshake.hostname
    handshake.customCaAnchors
  let suite ← orMalformed (.handshakeFailure "no cipher suite") handshake.cipherSuite
  let next := match suite.keyExchange with
    | .rsa => Tls12State.waitServerHelloDone
    | .ecdhe => .waitServerKeyExchange
  return ({ handshake.feedHandshakeMessage message with
    serverCertificates := chain
    state := next }, .continueReading)

/-- The parameters and their signature over them. -/
def parseServerKeyExchange (body : Bytes) : Result ServerKxParams := do
  if body.length < 5 then .error (.handshakeFailure "ServerKeyExchange too short")
  let curveType := byteAt body 0
  if curveType ≠ 0x03 then
    .error (.handshakeFailure ("unsupported curve type: 0x" ++ hex02 curveType ++
      " (only named_curve supported)"))
  let sigOffset := 4 + (byteAt body 3).toNat
  if body.length < sigOffset + 4 then
    .error (.handshakeFailure "ServerKeyExchange truncated")
  let sigEnd := sigOffset + 4 + u16At body (sigOffset + 2)
  if body.length < sigEnd then
    .error (.handshakeFailure "ServerKeyExchange signature truncated")
  return {
    curve := UInt16.ofNat (u16At body 1)
    publicKey := slice body 4 sigOffset
    signatureAlgorithm := UInt16.ofNat (u16At body sigOffset)
    signature := slice body (sigOffset + 4) sigEnd
    signedParams := body.take sigOffset }

def processServerKeyExchange (handshake : Tls12Handshake) (body message : Bytes) :
    Result (Tls12Handshake × Tls12HandshakeAction) := do
  let params ← parseServerKeyExchange body
  match handshake.serverCertificates with
  | leaf :: _ =>
    handshake.verificationPolicy.verifyServerKeyExchangeSignature crypto leaf
      params.signatureAlgorithm
      (handshake.clientRandom ++ handshake.serverRandom ++ params.signedParams) params.signature
  | [] => pure ()
  return ({ handshake.feedHandshakeMessage message with
    serverKxParams := some params
    state := .waitServerHelloDone }, .continueReading)

/-- The pre-master secret and the ClientKeyExchange of an ECDHE suite. -/
def buildEcdheKeyExchange (handshake : Tls12Handshake) : Result (Bytes × Bytes) := do
  let params ← orMalformed (.handshakeFailure "no ServerKeyExchange received")
    handshake.serverKxParams
  let group ← orMalformed
    (.handshakeFailure ("unsupported ECDHE curve: 0x" ++ hex04 params.curve))
    (KxGroup.fromCodePoint params.curve)
  let keyPair ← generateKeyPair crypto group .tls12KeyExchange
  let preMasterSecret ← computeSharedSecret crypto keyPair params.publicKey
  return (preMasterSecret, handshakeMessage 0x10 (lengthPrefixed8 keyPair.publicKey))

/-- The pre-master secret and the ClientKeyExchange of an RSA suite. -/
def buildRsaKeyExchange (handshake : Tls12Handshake) : Result (Bytes × Bytes) := do
  let leaf ← orMalformed (.handshakeFailure "no server certificate for RSA key exchange")
    handshake.serverCertificates.head?
  let random ← orMalformed (.cryptoError "failed to generate RSA pre_master_secret")
    (crypto.random .preMasterSecret 46)
  let preMasterSecret := [0x03, 0x03] ++ random
  let spki ← extractSpkiFromCert leaf
  let encrypted ← (crypto.rsaEncrypt spki preMasterSecret .rsaPadding).mapError .cryptoError
  return (preMasterSecret, handshakeMessage 0x10 (be16 encrypted.length ++ encrypted))

/-- The key exchange of the suite. -/
def buildKeyExchange (handshake : Tls12Handshake) (suite : Tls12CipherSuite) :
    Result (Bytes × Bytes) :=
  match suite.keyExchange with
  | .ecdhe => handshake.buildEcdheKeyExchange crypto
  | .rsa => handshake.buildRsaKeyExchange crypto

/-! ## The client flight -/

/-- The empty Certificate that answers a CertificateRequest. -/
def clientCertificate (handshake : Tls12Handshake) : Option Bytes :=
  if handshake.clientCertificateRequested then
    some (handshakeMessage HandshakeType.certificate [0, 0, 0]) else none

def deriveTrafficKeys (handshake : Tls12Handshake) (suite : Tls12CipherSuite)
    (masterSecret : Bytes) : Tls12TrafficKeys :=
  let block := expandKeyBlock crypto handshake.prfAlgorithm masterSecret handshake.serverRandom
    handshake.clientRandom suite.macKeyLen suite.encKeyLen suite.fixedIvLen
  { cipherSuite := suite
    clientWriteKey := block.clientWriteKey
    serverWriteKey := block.serverWriteKey
    clientWriteIv := block.clientWriteIv
    serverWriteIv := block.serverWriteIv
    clientWriteMacKey := block.clientWriteMacKey
    serverWriteMacKey := block.serverWriteMacKey }

def deriveMasterSecret (handshake : Tls12Handshake) (preMasterSecret : Bytes) : Result Bytes :=
  if handshake.useExtendedMasterSecret then do
    let transcript ← orMalformed (.handshakeFailure "no transcript for extended master secret")
      handshake.transcript
    return computeExtendedMasterSecret crypto handshake.prfAlgorithm preMasterSecret
      (transcript.currentHash crypto)
  else .ok (computeMasterSecret crypto handshake.prfAlgorithm preMasterSecret
    handshake.clientRandom handshake.serverRandom)

def processServerHelloDone (handshake : Tls12Handshake) (message : Bytes) :
    Result (Tls12Handshake × Tls12HandshakeAction) := do
  let handshake := handshake.feedHandshakeMessage message
  let suite ← orMalformed (.handshakeFailure "no cipher suite") handshake.cipherSuite
  let (preMasterSecret, clientKeyExchange) ← handshake.buildKeyExchange crypto suite
  let clientCertificate := handshake.clientCertificate
  let handshake := handshake.feedOptional clientCertificate
  let handshake := handshake.feedHandshakeMessage clientKeyExchange
  let masterSecret ← handshake.deriveMasterSecret crypto preMasterSecret
  let trafficKeys := handshake.deriveTrafficKeys crypto suite masterSecret
  let transcript ← orMalformed (.handshakeFailure "no transcript") handshake.transcript
  let clientFinished := handshakeMessage HandshakeType.finished
    (computeVerifyData crypto handshake.prfAlgorithm masterSecret "client finished"
      (transcript.currentHash crypto))
  return ({ handshake.feedHandshakeMessage clientFinished with
    masterSecret := some masterSecret
    state := .waitServerChangeCipherSpec },
    .sendClientFlight ⟨clientCertificate, clientKeyExchange, clientFinished, trafficKeys⟩)

/-! ## Messages and records -/

def requestClientCertificate (handshake : Tls12Handshake) (message : Bytes) : Tls12Handshake :=
  { handshake.feedHandshakeMessage message with clientCertificateRequested := true }

def processSingleMessage (handshake : Tls12Handshake) (messageType : UInt8)
    (body message : Bytes) : Result (Tls12Handshake × Tls12HandshakeAction) :=
  let code := "0x" ++ hex02 messageType
  match handshake.state with
  | .waitServerHello =>
    if messageType ≠ HandshakeType.serverHello then
      .error (.handshakeFailure ("expected ServerHello, got type " ++ code))
    else handshake.processServerHello body message
  | .waitCertificateOrAbbreviated =>
    if messageType = HandshakeType.certificate then
      { handshake with resumedMasterSecret := none }.processCertificate crypto body message
    else if messageType = HandshakeType.newSessionTicket then
      .ok (handshake.feedHandshakeMessage message, .continueReading)
    else .error (.handshakeFailure
      ("expected Certificate or NewSessionTicket in abbreviated handshake, got type " ++ code))
  | .waitCertificate =>
    if messageType ≠ HandshakeType.certificate then
      .error (.handshakeFailure ("expected Certificate, got type " ++ code))
    else handshake.processCertificate crypto body message
  | .waitServerKeyExchange =>
    if messageType = 0x0c then handshake.processServerKeyExchange crypto body message
    else if messageType = HandshakeType.certificateStatus then
      .ok (handshake.feedHandshakeMessage message, .continueReading)
    else if messageType = 0x0e then handshake.processServerHelloDone crypto message
    else .error (.handshakeFailure
      ("expected ServerKeyExchange or ServerHelloDone, got type " ++ code))
  | .waitServerHelloDone =>
    if messageType = 0x0d then
      .ok (handshake.requestClientCertificate message, .continueReading)
    else if messageType = 0x0e then handshake.processServerHelloDone crypto message
    else .error (.handshakeFailure ("expected ServerHelloDone, got type " ++ code))
  | state => .error (.handshakeFailure
      ("unexpected handshake message type " ++ code ++ " in state " ++ state.debug))

/-- The messages of a record in turn, up to the first that asks for something else than more
messages; those after it are passed over. -/
def processMessages : Nat → Tls12Handshake → Bytes → Result (Tls12Handshake × Tls12HandshakeAction)
  | 0, handshake, _ => .ok (handshake, .continueReading)
  | fuel + 1, handshake, data =>
    if data = [] then .ok (handshake, .continueReading)
    else if data.length < 4 then
      .error (.handshakeFailure "handshake message too short for header")
    else
      let length := u24At data 1
      if data.length < 4 + length then
        .error (.handshakeFailure ("handshake message truncated: type=0x" ++
          hex02 (byteAt data 0) ++ s!", len={length}, available={data.length - 4}"))
      else do
        let (handshake, action) ← handshake.processSingleMessage crypto (byteAt data 0)
          (slice data 4 (4 + length)) (data.take (4 + length))
        match action with
        | .continueReading => processMessages fuel handshake (data.drop (4 + length))
        | action => return (handshake, action)

def processHandshakeRecord (handshake : Tls12Handshake) (record : Bytes) :
    Result (Tls12Handshake × Tls12HandshakeAction) :=
  processMessages crypto record.length handshake record

/-! ## Finished -/

/-- The texts of the errors that the two checks of a server Finished give. -/
structure FinishedErrors where
  noMasterSecret : String
  noTranscript : String
  badLength : String
  mismatch : String

def fullFinishedErrors : FinishedErrors where
  noMasterSecret := "no master secret for Finished verification"
  noTranscript := "no transcript for Finished verification"
  badLength := "unexpected Finished length: "
  mismatch := "server Finished verify_data mismatch"

def abbreviatedFinishedErrors : FinishedErrors where
  noMasterSecret := "no master secret for abbreviated Finished"
  noTranscript := "no transcript for abbreviated Finished"
  badLength := "unexpected abbreviated Finished length: "
  mismatch := "server Finished verify_data mismatch (abbreviated)"

/-- The verify data of a whole Finished message, or of its body alone. -/
def finishedVerifyData (errors : FinishedErrors) (finishedBody : Bytes) : Result Bytes :=
  if finishedBody.length = 16 ∧ byteAt finishedBody 0 = HandshakeType.finished then
    .ok (finishedBody.drop 4)
  else if finishedBody.length = 12 then .ok finishedBody
  else .error (.handshakeFailure (errors.badLength ++ toString finishedBody.length))

/-- Check the server Finished; the results are the master secret and the verify data. -/
def checkServerFinished (handshake : Tls12Handshake) (errors : FinishedErrors)
    (finishedBody : Bytes) : Result (Bytes × Bytes) := do
  let masterSecret ← orMalformed (.handshakeFailure errors.noMasterSecret) handshake.masterSecret
  let transcript ← orMalformed (.handshakeFailure errors.noTranscript) handshake.transcript
  let expected := computeVerifyData crypto handshake.prfAlgorithm masterSecret "server finished"
    (transcript.currentHash crypto)
  let verifyData ← finishedVerifyData errors finishedBody
  if verifyData ≠ expected then .error (.handshakeFailure errors.mismatch)
  return (masterSecret, verifyData)

def processServerFinished (handshake : Tls12Handshake) (finishedBody : Bytes) :
    Result (Tls12Handshake × Tls12HandshakeAction) := do
  if handshake.state ≠ .waitServerFinished then
    .error (.handshakeFailure
      ("unexpected server Finished in state " ++ handshake.state.debug))
  let (masterSecret, _) ← handshake.checkServerFinished crypto fullFinishedErrors finishedBody
  let suite ← orMalformed (.handshakeFailure "no cipher suite") handshake.cipherSuite
  return ({ handshake with state := .connected },
    .complete (handshake.deriveTrafficKeys crypto suite masterSecret))

/-- The change of ciphers by which the server takes the ticket. -/
def acceptAbbreviatedCcs (handshake : Tls12Handshake) :
    Result (Tls12Handshake × Tls12TrafficKeys) := do
  if handshake.state ≠ .waitCertificateOrAbbreviated then
    .error (.handshakeFailure
      ("accept_abbreviated_ccs called in wrong state: " ++ handshake.state.debug))
  let masterSecret ← orMalformed
    (.handshakeFailure "no resumed master_secret for abbreviated handshake")
    handshake.resumedMasterSecret
  let suite ← orMalformed (.handshakeFailure "no cipher suite for abbreviated handshake")
    handshake.cipherSuite
  return ({ handshake with
    resumedMasterSecret := none
    masterSecret := some masterSecret
    abbreviated := true
    state := .waitServerFinished }, handshake.deriveTrafficKeys crypto suite masterSecret)

def processAbbreviatedServerFinished (handshake : Tls12Handshake) (finishedBody : Bytes) :
    Result (Tls12Handshake × Tls12AbbreviatedFlight) := do
  if handshake.state ≠ .waitServerFinished ∨ !handshake.abbreviated then
    .error (.handshakeFailure
      ("process_abbreviated_server_finished called in wrong state: " ++ handshake.state.debug ++
        s!", abbreviated={handshake.abbreviated}"))
  let (masterSecret, verifyData) ←
    handshake.checkServerFinished crypto abbreviatedFinishedErrors finishedBody
  let handshake := handshake.feedHandshakeMessage
    (handshakeMessage HandshakeType.finished verifyData)
  let transcript ← orMalformed (.handshakeFailure "no transcript for client Finished")
    handshake.transcript
  let clientFinished := handshakeMessage HandshakeType.finished
    (computeVerifyData crypto handshake.prfAlgorithm masterSecret "client finished"
      (transcript.currentHash crypto))
  let suite ← orMalformed (.handshakeFailure "no cipher suite") handshake.cipherSuite
  return ({ handshake with state := .connected },
    ⟨clientFinished, handshake.deriveTrafficKeys crypto suite masterSecret⟩)

end

end Tls12Handshake

end LkRequest.Handshake
