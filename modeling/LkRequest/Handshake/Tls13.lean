import LkRequest.Handshake.Tls13Hello

/-!
# TLS 1.3 message processing

The state machine of `Tls13Handshake`: ServerHello and HelloRetryRequest with the ECH
confirmations, EncryptedExtensions, the certificate messages and Finished, and the loop over the
messages of a record.
-/

namespace LkRequest.Handshake

open Library Crypto Profile Hello Session Verify

/-! ## Certificates -/

/-- The certificates of a list block; the extensions of the last entry may be missing. -/
def parseCertificateEntries : Nat → Bytes → Result (List Bytes)
  | 0, _ => .ok []
  | fuel + 1, block =>
    if block.length < 3 then .ok []
    else
      let certEnd := 3 + u24At block 0
      if block.length < certEnd then .error (.unexpectedMessage "Certificate entry exceeds list")
      else
        let certificate := slice block 3 certEnd
        if block.length < certEnd + 2 then .ok [certificate]
        else do
          let rest ← parseCertificateEntries fuel
            (block.drop (certEnd + 2 + u16At block certEnd))
          return certificate :: rest

def parseCertificateMessage (payload : Bytes) : Result (List Bytes) :=
  if payload.length < 1 then .error (.unexpectedMessage "Certificate message too short")
  else
    let contextLen := (byteAt payload 0).toNat
    if contextLen ≠ 0 then
      .error (.handshakeFailure
        s!"server Certificate has non-empty request_context (len={contextLen})")
    else if payload.length < 4 then
      .error (.unexpectedMessage "Certificate message truncated at list length")
    else
      let listLen := u24At payload 1
      if payload.length < 4 + listLen then
        .error (.unexpectedMessage "Certificate list length exceeds message")
      else parseCertificateEntries (listLen + 1) (slice payload 4 (4 + listLen))

def maxDecompressedCertLen : Nat := 262144

section
variable (crypto : Primitives)

def checkDecompressed (name : String) (expected : Nat) : Except String Bytes → Result Bytes
  | .error reason => .error (.handshakeFailure (name ++ " decompression failed: " ++ reason))
  | .ok data =>
    if data.length ≠ expected then
      .error (.handshakeFailure
        s!"decompressed certificate size mismatch: expected {expected}, got {data.length}")
    else .ok data

def decompressCertificate (algorithm : Nat) (compressed : Bytes) (uncompressedLen : Nat) :
    Result Bytes :=
  if maxDecompressedCertLen < uncompressedLen then
    .error (.handshakeFailure
      (s!"decompressed certificate too large: {uncompressedLen} bytes " ++
        s!"(max {maxDecompressedCertLen})"))
  else if algorithm = 1 then
    checkDecompressed "zlib" uncompressedLen (crypto.zlibDecompress compressed)
  else if algorithm = 2 then
    checkDecompressed "brotli" uncompressedLen (crypto.brotliDecompress compressed)
  else .error (.handshakeFailure
    s!"unsupported certificate compression algorithm: {algorithm}")

end

def parseCertificateRequestContext (payload : Bytes) : Result Bytes :=
  match payload with
  | [] => .error (.unexpectedMessage "truncated TLS 1.3 CertificateRequest")
  | contextLen :: rest =>
    if rest.length < contextLen.toNat then
      .error (.unexpectedMessage "truncated TLS 1.3 CertificateRequest context")
    else .ok (rest.take contextLen.toNat)

def buildEmptyClientCertificate (requestContext : Bytes) : Bytes :=
  handshakeMessage HandshakeType.certificate
    (lengthPrefixed8 requestContext ++ [0, 0, 0])

/-! ## Key derivation -/

section
variable (crypto : Primitives)

def computeFinishedVerifyData (algorithm : HkdfAlgorithm) (baseKey transcriptHash : Bytes) :
    Result Bytes := do
  let finishedKey ← hkdfExpandLabel crypto algorithm baseKey "finished" [] algorithm.hashLen
  return crypto.hmac algorithm.hash finishedKey transcriptHash

/-- The record key and IV of a traffic secret. -/
def trafficKey (hkdf : HkdfAlgorithm) (aead : AeadAlgorithm) (secret : Bytes) :
    Result (Bytes × Bytes) := do
  let key ← hkdfExpandLabel crypto hkdf secret "key" [] aead.keyLen
  let iv ← hkdfExpandLabel crypto hkdf secret "iv" [] 12
  return (key, iv)

end

/-- `Vec::swap_remove`: the last element takes the place of the removed one. -/
def swapRemove {α : Type} (items : List α) (index : Nat) : List α :=
  match items.getLast? with
  | some last => (items.set index last).dropLast
  | none => []

namespace Tls13Handshake

section
variable (crypto : Primitives)

def computeSharedSecret (handshake : Tls13Handshake) (hello : ServerHello) :
    Result (Tls13Handshake × Bytes) :=
  match hello.extensions.keyShare with
  | none => .error (.handshakeFailure "ServerHello missing key_share extension")
  | some (group, publicKey) =>
    match handshake.keyPairs.findIdx? (fun pair => pair.group.codePoint == group) with
    | none => .error (.handshakeFailure
        ("server selected group 0x" ++ hex04 group ++ " but we don't have a key for it"))
    | some index =>
      match handshake.keyPairs[index]? with
      | none => .error (.noReturn "index out of bounds")
      | some keyPair => do
        let secret ← Crypto.computeSharedSecret crypto keyPair publicKey
        return ({ handshake with keyPairs := swapRemove handshake.keyPairs index }, secret)

/-- The early secret: the ticket's if the server took it, and that of a zero key otherwise. -/
def earlySecret (handshake : Tls13Handshake) (algorithm : HkdfAlgorithm) : HkdfPrk :=
  let zeros := List.replicate algorithm.hashLen 0
  if handshake.pskAccepted then
    handshake.earlySecretFromPsk.getD (hkdfExtract crypto algorithm zeros zeros)
  else hkdfExtract crypto algorithm zeros zeros

def deriveHandshakeKeys (handshake : Tls13Handshake) (hkdf : HkdfAlgorithm) (aead : AeadAlgorithm)
    (sharedSecret : Bytes) : Result (Tls13Handshake × HandshakeKeys) := do
  let handshakeSecret ← (handshake.earlySecret crypto hkdf).deriveNext crypto sharedSecret
  let transcript ← orMalformed (.handshakeFailure "missing transcript") handshake.transcript
  let hash := transcript.currentHash crypto
  let clientSecret ← handshakeSecret.deriveSecret crypto "c hs traffic" hash
  let serverSecret ← handshakeSecret.deriveSecret crypto "s hs traffic" hash
  let (clientKey, clientIv) ← trafficKey crypto hkdf aead clientSecret
  let (serverKey, serverIv) ← trafficKey crypto hkdf aead serverSecret
  let handshake := { handshake with
    earlySecretFromPsk := if handshake.pskAccepted then none else handshake.earlySecretFromPsk
    handshakeSecret := some handshakeSecret
    clientHsTrafficSecret := some clientSecret
    serverHsTrafficSecret := some serverSecret }
  return (handshake,
    ⟨hkdf, aead, serverSecret, clientSecret, serverKey, serverIv, clientKey, clientIv⟩)

/-! ## ECH acceptance -/

/-- The confirmation value over a transcript hash. -/
def echConfirmation (algorithm : HkdfAlgorithm) (label : String)
    (innerHello transcriptHash : Bytes) : Result Bytes :=
  let secret := hkdfExtract crypto algorithm (List.replicate algorithm.hashLen 0)
    (slice innerHello 6 38)
  secret.expandLabel crypto label transcriptHash 8

/-- A ServerHello with the confirmation bytes of its random zeroed. -/
def zeroShConfirmation (message : Bytes) : Bytes :=
  if 38 ≤ message.length then overwrite message 30 (List.replicate 8 0) else message

/-- The inner transcript up to the second hello, if there was a retry. -/
def innerTranscript (handshake : Tls13Handshake) (algorithm : HkdfAlgorithm) (innerHello : Bytes) :
    Result TranscriptHash :=
  let transcript := (TranscriptHash.new algorithm.hash).update innerHello
  if handshake.hrrReceived then do
    let hrr ← orMalformed (.handshakeFailure "missing HRR transcript bytes for ECH")
      handshake.hrrRawBytes
    let innerCh2 ← orMalformed (.handshakeFailure "missing inner CH2 transcript bytes for ECH")
      handshake.hrrInnerCh2
    return ((transcript.replaceWithMessageHash crypto).update hrr).update innerCh2
  else .ok transcript

def checkEchAcceptance (handshake : Tls13Handshake) (algorithm : HkdfAlgorithm)
    (innerHello message random : Bytes) : Result Bool := do
  let transcript ← handshake.innerTranscript crypto algorithm innerHello
  let hash := (transcript.update (zeroShConfirmation message)).currentHash crypto
  if innerHello.length < 38 then return false
  let confirmation ← echConfirmation crypto algorithm "ech accept confirmation" innerHello hash
  return slice random 24 32 == confirmation.take 8

/-- The walk to the ECH confirmation of a HelloRetryRequest. -/
def zeroHrrFrom (message : Bytes) (extEnd : Nat) : Nat → Nat → Result Bytes
  | 0, _ => .error (.handshakeFailure "HRR ECH confirmation extension not found")
  | fuel + 1, position =>
    if extEnd < position + 4 then
      .error (.handshakeFailure "HRR ECH confirmation extension not found")
    else
      let extLen := u16At message (position + 2)
      if extEnd < position + 4 + extLen then
        .error (.handshakeFailure "HRR ECH confirmation extension not found")
      else if UInt16.ofNat (u16At message position) = ExtType.encryptedClientHello ∧ extLen = 8 then
        .ok (overwrite message (position + 4) (List.replicate 8 0))
      else zeroHrrFrom message extEnd fuel (position + 4 + extLen)

def zeroHrrEchConfirmation (message : Bytes) : Result Bytes :=
  if message.length < 44 then .error (.handshakeFailure "HRR too short for ECH confirmation")
  else
    let afterSid := 39 + (byteAt message 38).toNat
    if message.length < afterSid + 5 then
      .error (.handshakeFailure "malformed HRR before extensions")
    else
      let extStart := afterSid + 5
      let extEnd := extStart + u16At message (afterSid + 3)
      if message.length < extEnd then
        .error (.handshakeFailure "malformed HRR extensions length")
      else zeroHrrFrom message extEnd message.length extStart

def checkEchHrrAcceptance (algorithm : HkdfAlgorithm) (innerHello message expected : Bytes) :
    Result Bool := do
  if innerHello.length < 38 then return false
  let zeroed ← zeroHrrEchConfirmation message
  let transcript := ((TranscriptHash.new algorithm.hash).update innerHello).update zeroed
  let confirmation ← echConfirmation crypto algorithm "hrr ech accept confirmation" innerHello
    (transcript.currentHash crypto)
  return expected == confirmation

/-! ## HelloRetryRequest -/

/-- Whether the retry accepts a real ECH offer. -/
def hrrEchAcceptance (handshake : Tls13Handshake) (message : Bytes) (hello : ServerHello)
    (algorithm : HkdfAlgorithm) : Result (Option Bool) :=
  if handshake.echOffered then
    match hello.extensions.echConfirmation with
    | none => .ok (some false)
    | some expected => do
      let innerHello ← orMalformed
        (.fatalAlert .internalError "real ECH was offered without a saved inner ClientHello")
        handshake.echInnerHello
      let accepted ← checkEchHrrAcceptance crypto algorithm innerHello message expected
      if accepted then return some true
      else .error (.fatalAlert .illegalParameter "ECH HRR accept confirmation mismatch")
  else if hello.extensions.echConfirmation.isSome then
    .error (.fatalAlert .unsupportedExtension
      "server sent ECH HRR confirmation without a real ECH offer")
  else .ok handshake.echHrrAccepted

/-- The key pair for the requested group; `none` when the retry asks for none. -/
def hrrKeyPair (handshake : Tls13Handshake) (hello : ServerHello) :
    Result (Option EphemeralKeyPair) :=
  match hello.extensions.selectedGroup with
  | none => .ok none
  | some group => do
    if group ∉ handshake.profile.supportedGroups then
      .error (.fatalAlert .illegalParameter
        ("HRR requested group not offered in supported_groups: 0x" ++ hex04 group))
    if handshake.keyPairs.any (fun pair => pair.group.codePoint == group) then
      .error (.fatalAlert .illegalParameter
        ("HRR requested group already present in CH1 key_share: 0x" ++ hex04 group))
    let kxGroup ← orMalformed
      (.fatalAlert .illegalParameter ("HRR requested unsupported group: 0x" ++ hex04 group))
      (KxGroup.fromCodePoint group)
    return some (← generateKeyPair crypto kxGroup .retryKeyShare)

def processHelloRetryRequest (handshake : Tls13Handshake) (message : Bytes) (hello : ServerHello)
    (algorithm : HkdfAlgorithm) : Result (Tls13Handshake × HandshakeAction) := do
  if handshake.hrrReceived then
    .error (.fatalAlert .unexpectedMessage "received second HelloRetryRequest")
  if hello.legacyVersion ≠ 0x0303 then
    .error (.fatalAlert .illegalParameter
      ("HRR legacy_version must be 0x0303, got 0x" ++ hex04 hello.legacyVersion))
  if hello.extensions.supportedVersion ≠ some 0x0304 then
    .error (.fatalAlert .illegalParameter
      "HRR must contain supported_versions selecting TLS 1.3")
  let echHrrAccepted ← handshake.hrrEchAcceptance crypto message hello algorithm
  let transcript := (((TranscriptHash.new algorithm.hash).update
    (handshake.bufferedClientHello.getD [])).replaceWithMessageHash crypto).update message
  let keyPair ← handshake.hrrKeyPair crypto hello
  if keyPair.isNone ∧ hello.extensions.cookie.isNone then
    .error (.fatalAlert .illegalParameter "HRR would not change the second ClientHello")
  let handshake := { handshake with
    echHrrAccepted := echHrrAccepted
    hrrReceived := true
    hrrRawBytes := some message
    transcript := some transcript
    keyPairs := (keyPair.map ([·])).getD handshake.keyPairs }
  let (handshake, ch2) ←
    handshake.buildClientHelloRetry crypto hello.extensions.cookie keyPair.isSome
  return ({ handshake.hashMessage ch2 with
    bufferedClientHello := none
    state := .waitServerHello }, .retryClientHello ch2)

/-! ## ServerHello -/

/-- The checks on a ServerHello before it is acted on. -/
def checkServerHello (handshake : Tls13Handshake) (hello : ServerHello) :
    Result (HkdfAlgorithm × AeadAlgorithm) := do
  if !hello.isTls13 then .error (.handshakeFailure "server did not negotiate TLS 1.3")
  if hello.compressionMethod ≠ 0 then
    .error (.handshakeFailure
      s!"ServerHello compression_method must be 0, got {hello.compressionMethod.toNat}")
  if handshake.sessionId.any (· != hello.sessionId) then
    .error (.handshakeFailure "ServerHello session_id does not match ClientHello")
  let info ← cipherSuiteInfo hello.cipherSuite
  if hello.cipherSuite ∉ handshake.profile.cipherSuites then
    .error (.handshakeFailure ("server selected cipher suite 0x" ++ hex04 hello.cipherSuite ++
      " not offered by client"))
  match handshake.hrrReceived, handshake.cipherSuite with
  | true, some previous =>
    if previous ≠ hello.cipherSuite then
      .error (.handshakeFailure ("ServerHello cipher suite 0x" ++ hex04 hello.cipherSuite ++
        " differs from HRR 0x" ++ hex04 previous))
  | _, _ => pure ()
  return info

/-- Whether the server takes the offered ticket. -/
def selectPsk (handshake : Tls13Handshake) (hello : ServerHello) (algorithm : HkdfAlgorithm) :
    Result Tls13Handshake :=
  match hello.extensions.selectedPskIdentity with
  | none => .ok handshake
  | some identity =>
    match handshake.pskTicket with
    | some ticket =>
      if identity = 0 then
        if ticket.hkdfAlgorithm ≠ algorithm then
          .error (.handshakeFailure ("server selected PSK but cipher suite hash " ++
            hkdfDebug algorithm ++ " does not match ticket hash " ++
            hkdfDebug ticket.hkdfAlgorithm))
        else .ok { handshake with pskAccepted := true }
      else .error (.handshakeFailure
        s!"server selected PSK identity {identity.toNat} but we only offered 1")
    | none => .error (.handshakeFailure
        s!"server selected PSK identity {identity.toNat} but we only offered 1")

/-- The transcript with the ServerHello, started now unless a retry started it. -/
def startTranscript (handshake : Tls13Handshake) (message : Bytes) (algorithm : HkdfAlgorithm) :
    Tls13Handshake :=
  if handshake.hrrReceived then handshake.hashMessage message
  else
    { handshake with
      transcript := some (((TranscriptHash.new algorithm.hash).update
        (handshake.bufferedClientHello.getD [])).update message)
      bufferedClientHello := none }

/-- The transcript over the inner hellos; the parts of a retry are added if they are there. -/
def rebuildTranscript (handshake : Tls13Handshake) (algorithm : HkdfAlgorithm)
    (innerHello message : Bytes) : TranscriptHash :=
  let transcript := (TranscriptHash.new algorithm.hash).update innerHello
  if handshake.hrrReceived then
    (((transcript.replaceWithMessageHash crypto).update (handshake.hrrRawBytes.getD [])).update
      (handshake.hrrInnerCh2.getD [])).update message
  else transcript.update message

/-- Switch to the inner transcript if the server accepted ECH. -/
def confirmEch (handshake : Tls13Handshake) (message : Bytes) (hello : ServerHello)
    (algorithm : HkdfAlgorithm) : Result Tls13Handshake :=
  match handshake.echOffered, handshake.echInnerHello with
  | true, some innerHello => do
    let accepted ←
      handshake.checkEchAcceptance crypto algorithm innerHello message hello.random
    if handshake.echHrrAccepted.any (· != accepted) then
      .error (.handshakeFailure "server changed ECH acceptance across HelloRetryRequest")
    if accepted then
      return { handshake with
        echAccepted := true
        transcript := some (handshake.rebuildTranscript crypto algorithm innerHello message)
        bufferedClientHello := none }
    else return handshake
  | _, _ => .ok handshake

def processServerHello (handshake : Tls13Handshake) (message payload : Bytes) :
    Result (Tls13Handshake × HandshakeAction) := do
  let hello ← parseServerHello payload
  let (hkdf, aead) ← handshake.checkServerHello hello
  let handshake := { handshake with
    cipherSuite := some hello.cipherSuite
    hkdfAlgorithm := some hkdf
    aeadAlgorithm := some aead }
  if hello.isHelloRetryRequest then
    handshake.processHelloRetryRequest crypto message hello hkdf
  else
    let handshake ← handshake.selectPsk hello hkdf
    let handshake := handshake.startTranscript message hkdf
    let (handshake, sharedSecret) ← handshake.computeSharedSecret crypto hello
    let handshake ← handshake.confirmEch crypto message hello hkdf
    let (handshake, keys) ← handshake.deriveHandshakeKeys crypto hkdf aead sharedSecret
    return ({ handshake with state := .waitEncryptedExtensions }, .installHandshakeKeys keys)

/-! ## EncryptedExtensions -/

/-- One extension; the flag says whether QUIC parameters were among those read. -/
def applyEncryptedExtension (handshake : Tls13Handshake) (extType : UInt16) (data : Bytes) :
    Result (Tls13Handshake × Bool) :=
  if extType = ExtType.alpn then
    if 4 ≤ data.length ∧ 3 + (byteAt data 2).toNat ≤ data.length then
      let name := fromUtf8Lossy crypto (slice data 3 (3 + (byteAt data 2).toNat))
      .ok ({ handshake with negotiatedAlpn := some name }, false)
    else .ok (handshake, false)
  else if extType = ExtType.applicationSettings ∨ extType = ExtType.applicationSettingsNew then
    .ok ({ handshake with serverAlpsData := some data, alpsCodePoint := some extType }, false)
  else if extType = ExtType.encryptedClientHello then
    .ok ({ handshake with echRetryConfigs := some data }, false)
  else if extType = ExtType.earlyData then
    .ok ({ handshake with earlyDataAccepted := true }, false)
  else if extType = ExtType.quicTransportParameters then do
    let params ← decodeTransportParams data
    return ({ handshake with peerQuicTransportParams := some params }, true)
  else .ok (handshake, false)

/-- The extensions of the block in turn; one that overruns the block ends the walk. -/
def applyEncryptedExtensions : Nat → Tls13Handshake → Bool → Bytes → Result (Tls13Handshake × Bool)
  | 0, handshake, sawParams, _ => .ok (handshake, sawParams)
  | fuel + 1, handshake, sawParams, block =>
    if block.length < 4 then .ok (handshake, sawParams)
    else
      let extEnd := 4 + u16At block 2
      if block.length < extEnd then .ok (handshake, sawParams)
      else do
        let (handshake, saw) ← handshake.applyEncryptedExtension crypto
          (UInt16.ofNat (u16At block 0)) (slice block 4 extEnd)
        applyEncryptedExtensions fuel handshake (sawParams || saw) (block.drop extEnd)

def processEncryptedExtensions (handshake : Tls13Handshake) (message payload : Bytes) :
    Result (Tls13Handshake × HandshakeAction) := do
  let handshake := handshake.hashMessage message
  if payload.length < 2 then .error (.unexpectedMessage "EncryptedExtensions too short")
  let extLen := u16At payload 0
  if payload.length < 2 + extLen then
    .error (.unexpectedMessage "EncryptedExtensions length mismatch")
  let (handshake, sawParams) ←
    applyEncryptedExtensions crypto extLen handshake false (slice payload 2 (2 + extLen))
  if handshake.quicMode ∧ !sawParams then
    .error (.handshakeFailure "server did not provide QUIC transport parameters")
  let next := if handshake.pskAccepted then Tls13State.waitFinished else .waitCertificate
  return ({ handshake with state := next }, .continueReading)

/-! ## Certificate messages -/

def processCertificateRequest (handshake : Tls13Handshake) (message payload : Bytes) :
    Result (Tls13Handshake × HandshakeAction) := do
  let context ← parseCertificateRequestContext payload
  return ({ handshake.hashMessage message with
    clientCertificateRequestContext := some context }, .continueReading)

/-- Keep a parsed chain, which may not be empty. -/
def acceptCertificates (handshake : Tls13Handshake) (chain : List Bytes) :
    Result (Tls13Handshake × HandshakeAction) :=
  if chain = [] then .error (.certificateError "server sent empty certificate chain")
  else .ok ({ handshake with
    serverCertificates := chain
    state := .waitCertificateVerify }, .continueReading)

def processCertificate (handshake : Tls13Handshake) (message payload : Bytes) :
    Result (Tls13Handshake × HandshakeAction) := do
  let chain ← parseCertificateMessage payload
  (handshake.hashMessage message).acceptCertificates chain

/-- The compressed form is what enters the transcript. -/
def processCompressedCertificate (handshake : Tls13Handshake) (message payload : Bytes) :
    Result (Tls13Handshake × HandshakeAction) := do
  if payload.length < 5 then .error (.unexpectedMessage "CompressedCertificate too short")
  if payload.length < 8 then .error (.unexpectedMessage "CompressedCertificate truncated")
  let compressedEnd := 8 + u24At payload 5
  if payload.length < compressedEnd then
    .error (.unexpectedMessage "CompressedCertificate data extends past message")
  let decompressed ← decompressCertificate crypto (u16At payload 0)
    (slice payload 8 compressedEnd) (u24At payload 2)
  let chain ← parseCertificateMessage decompressed
  (handshake.hashMessage message).acceptCertificates chain

def processCertificateVerify (handshake : Tls13Handshake) (message payload : Bytes) :
    Result (Tls13Handshake × HandshakeAction) := do
  let transcript ← orMalformed (.handshakeFailure "missing transcript") handshake.transcript
  let verified := ({ handshake.hashMessage message with state := .waitFinished },
    HandshakeAction.continueReading)
  if handshake.verificationPolicy.isInsecure then return verified
  if payload.length < 4 then .error (.unexpectedMessage "CertificateVerify too short")
  let sigEnd := 4 + u16At payload 2
  if payload.length < sigEnd then
    .error (.unexpectedMessage "CertificateVerify signature length mismatch")
  let leaf ← orMalformed (.noReturn "index out of bounds") handshake.serverCertificates.head?
  handshake.verificationPolicy.verifyCertificateVerify crypto (UInt16.ofNat (u16At payload 0)) leaf
    (transcript.currentHash crypto) (slice payload 4 sigEnd)
  handshake.verificationPolicy.verifyCertificateChain crypto handshake.serverCertificates
    handshake.hostname handshake.customCaAnchors
  return verified

/-! ## Finished -/

/-- The client's EncryptedExtensions, if the server negotiated ALPS and there is a payload. -/
def buildClientEncryptedExtensions (handshake : Tls13Handshake) : Option Bytes := do
  let codePoint ← handshake.alpsCodePoint
  let payload ← handshake.alpsPayload
  return HandshakeType.encryptedExtensions :: be24 (2 + (4 + payload.length)) ++
    be16 (4 + payload.length) ++ be16Of codePoint ++ be16 payload.length ++ payload

/-- Feed the optional messages between the two Finished messages to the transcript. -/
def hashClientMessages (handshake : Tls13Handshake) (messages : List (Option Bytes)) :
    Tls13Handshake :=
  messages.foldl (fun handshake message => match message with
    | some message => handshake.hashMessage message
    | none => handshake) handshake

/-- The secrets of application traffic, over the transcript up to the server Finished. -/
def deriveTrafficSecrets (masterSecret : HkdfPrk) (hkdf : HkdfAlgorithm) (aead : AeadAlgorithm)
    (hash : Bytes) : Result TrafficSecrets := do
  let clientAppSecret ← masterSecret.deriveSecret crypto "c ap traffic" hash
  let serverAppSecret ← masterSecret.deriveSecret crypto "s ap traffic" hash
  let exporterMasterSecret ← masterSecret.deriveSecret crypto "exp master" hash
  let (clientKey, clientIv) ← trafficKey crypto hkdf aead clientAppSecret
  let (serverKey, serverIv) ← trafficKey crypto hkdf aead serverAppSecret
  return ⟨aead, hkdf, clientKey, clientIv, serverKey, serverIv, serverAppSecret, clientAppSecret,
    exporterMasterSecret⟩

/-- Check the server Finished against the transcript before it. -/
def checkServerFinished (handshake : Tls13Handshake) (hkdf : HkdfAlgorithm) (payload : Bytes) :
    Result Unit := do
  let transcript ← orMalformed (.handshakeFailure "missing transcript") handshake.transcript
  let secret ← orMalformed (.handshakeFailure "missing server_hs_traffic_secret")
    handshake.serverHsTrafficSecret
  let expected ← computeFinishedVerifyData crypto hkdf secret (transcript.currentHash crypto)
  if payload ≠ expected then
    .error (.handshakeFailure "server Finished verify_data mismatch")

def unwrap {α : Type} : Option α → Result α :=
  orMalformed (.noReturn "called Option::unwrap() on a None value")

def processFinished (handshake : Tls13Handshake) (message payload : Bytes) :
    Result (Tls13Handshake × HandshakeAction) := do
  let hkdf ← unwrap handshake.hkdfAlgorithm
  let aead ← unwrap handshake.aeadAlgorithm
  handshake.checkServerFinished crypto hkdf payload
  let handshake := handshake.hashMessage message
  let handshakeSecret ← orMalformed (.handshakeFailure "missing handshake_secret")
    handshake.handshakeSecret
  let masterSecret ← handshakeSecret.deriveNext crypto (List.replicate hkdf.hashLen 0)
  let transcript ← unwrap handshake.transcript
  let trafficSecrets ←
    deriveTrafficSecrets crypto masterSecret hkdf aead (transcript.currentHash crypto)
  let clientEe := handshake.buildClientEncryptedExtensions
  let clientCertificate :=
    handshake.clientCertificateRequestContext.map buildEmptyClientCertificate
  let handshake := handshake.hashClientMessages [clientEe, clientCertificate]
  let clientSecret ← orMalformed (.handshakeFailure "missing client_hs_traffic_secret")
    handshake.clientHsTrafficSecret
  let transcript ← unwrap handshake.transcript
  let verifyData ←
    computeFinishedVerifyData crypto hkdf clientSecret (transcript.currentHash crypto)
  let clientFinished := handshakeMessage HandshakeType.finished verifyData
  let handshake := handshake.hashMessage clientFinished
  let transcript ← unwrap handshake.transcript
  let resumptionMasterSecret ←
    masterSecret.deriveSecret crypto "res master" (transcript.currentHash crypto)
  let handshake := { handshake with handshakeSecret := none, state := .connected }
  return (handshake, .complete
    { clientEncryptedExtensions := clientEe
      clientCertificate := clientCertificate
      clientFinished := clientFinished
      trafficSecrets := trafficSecrets
      negotiatedAlpn := handshake.negotiatedAlpn
      resumptionMasterSecret := resumptionMasterSecret
      negotiatedCipherSuite := handshake.cipherSuite.getD 0x1301
      serverCertificates := handshake.serverCertificates
      echRetryConfigs := handshake.echRetryConfigs
      echAccepted := handshake.echAccepted
      peerQuicTransportParams := handshake.peerQuicTransportParams
      earlyDataAccepted := handshake.earlyDataAccepted })

/-! ## Messages and records -/

def processSingleMessage (handshake : Tls13Handshake) (messageType : UInt8)
    (message payload : Bytes) : Result (Tls13Handshake × HandshakeAction) :=
  let unexpected : TlsError := .unexpectedMessage ("unexpected message type 0x" ++
    hex02 messageType ++ " in state " ++ handshake.state.debug)
  match handshake.state with
  | .waitServerHello =>
    if messageType = HandshakeType.serverHello then
      handshake.processServerHello crypto message payload
    else .error unexpected
  | .waitEncryptedExtensions =>
    if messageType = HandshakeType.encryptedExtensions then
      handshake.processEncryptedExtensions crypto message payload
    else .error unexpected
  | .waitCertificate =>
    if messageType = HandshakeType.certificateRequest then
      handshake.processCertificateRequest message payload
    else if messageType = HandshakeType.certificate then
      handshake.processCertificate message payload
    else if messageType = HandshakeType.compressedCertificate then
      handshake.processCompressedCertificate crypto message payload
    else .error unexpected
  | .waitCertificateVerify =>
    if messageType = HandshakeType.certificateVerify then
      handshake.processCertificateVerify crypto message payload
    else .error unexpected
  | .waitFinished =>
    if messageType = HandshakeType.finished then
      handshake.processFinished crypto message payload
    else .error unexpected
  | .start => .error unexpected
  | .connected => .error unexpected

/-- The messages of a record in turn; the action is that of the last one, and fewer than four
trailing bytes are passed over. -/
def processMessages : Nat → Tls13Handshake → HandshakeAction → Bytes →
    Result (Tls13Handshake × HandshakeAction)
  | 0, handshake, lastAction, _ => .ok (handshake, lastAction)
  | fuel + 1, handshake, lastAction, data =>
    if data.length < 4 then .ok (handshake, lastAction)
    else
      let messageEnd := 4 + u24At data 1
      if data.length < messageEnd then
        .error (.unexpectedMessage "truncated handshake message in record")
      else do
        let (handshake, action) ← handshake.processSingleMessage crypto (byteAt data 0)
          (data.take messageEnd) (slice data 4 messageEnd)
        processMessages fuel handshake action (data.drop messageEnd)

def processHandshakeRecord (handshake : Tls13Handshake) (data : Bytes) :
    Result (Tls13Handshake × HandshakeAction) :=
  processMessages crypto data.length handshake .continueReading data

end

end Tls13Handshake

end LkRequest.Handshake
