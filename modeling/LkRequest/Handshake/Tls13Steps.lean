import LkRequest.Handshake.Messages

/-!
# The steps of a TLS 1.3 handshake

`Step` lists what a message can do to a TLS 1.3 handshake, with the checks it has passed;
`processMessage_step` says that the code does nothing else. Results about runs of a handshake are
proved by cases on the steps.
-/

namespace LkRequest.Handshake

open Library Crypto Profile Hello Session Verify List Option

namespace Tls13Handshake

/-- The certificates of a Certificate or CompressedCertificate message. -/
inductive CarriesChain (crypto : Primitives) (message : Bytes) (chain : List Bytes) : Prop
  | plain (htype : byteAt message 0 = HandshakeType.certificate)
      (hparse : parseCertificateMessage (message.drop 4) = .ok chain)
  | compressed {decompressed : Bytes}
      (htype : byteAt message 0 = HandshakeType.compressedCertificate)
      (hdecompress : decompressCertificate crypto (u16At (message.drop 4) 0)
        (slice (message.drop 4) 8 (8 + u24At (message.drop 4) 5)) (u24At (message.drop 4) 2) =
          .ok decompressed)
      (hparse : parseCertificateMessage decompressed = .ok chain)

/-- The suite that a ServerHello or HelloRetryRequest selects. -/
def withSuite (handshake : Tls13Handshake) (suite : UInt16) (hkdf : HkdfAlgorithm)
    (aead : AeadAlgorithm) : Tls13Handshake :=
  { handshake with
    cipherSuite := some suite
    hkdfAlgorithm := some hkdf
    aeadAlgorithm := some aead }

/-- The handshake that builds the second hello, after a retry. -/
def retried (crypto : Primitives) (handshake : Tls13Handshake) (message : Bytes) (suite : UInt16)
    (hkdf : HkdfAlgorithm) (aead : AeadAlgorithm) (echHrrAccepted : Option Bool)
    (keyPair : Option EphemeralKeyPair) : Tls13Handshake :=
  { handshake.withSuite suite hkdf aead with
    echHrrAccepted := echHrrAccepted
    hrrReceived := true
    hrrRawBytes := some message
    transcript := some ((((TranscriptHash.new hkdf.hash).update
      (handshake.bufferedClientHello.getD [])).replaceWithMessageHash crypto).update message)
    keyPairs := (keyPair.map ([·])).getD handshake.keyPairs }

/-- The values that a Finished exchange computes. -/
structure FinishedValues where
  hkdf : HkdfAlgorithm
  aead : AeadAlgorithm
  transcript : TranscriptHash
  serverSecret : Bytes
  clientSecret : Bytes
  handshakeSecret : HkdfPrk
  masterSecret : HkdfPrk
  trafficSecrets : TrafficSecrets
  verifyData : Bytes
  resumptionMasterSecret : Bytes

namespace FinishedValues

/-- The client Finished. -/
def clientFinished (values : FinishedValues) : Bytes :=
  handshakeMessage HandshakeType.finished values.verifyData

end FinishedValues

/-- The optional messages between the two Finished messages. -/
def clientMessages (handshake : Tls13Handshake) : List Bytes :=
  handshake.buildClientEncryptedExtensions.toList ++
    (handshake.clientCertificateRequestContext.map buildEmptyClientCertificate).toList

/-- The checks and computations of a server Finished and of the answer to it. -/
structure FinishedStep (crypto : Primitives) (handshake : Tls13Handshake) (message : Bytes)
    (values : FinishedValues) : Prop where
  hkdf_eq : handshake.hkdfAlgorithm = some values.hkdf
  aead_eq : handshake.aeadAlgorithm = some values.aead
  transcript_eq : handshake.transcript = some values.transcript
  serverSecret_eq : handshake.serverHsTrafficSecret = some values.serverSecret
  clientSecret_eq : handshake.clientHsTrafficSecret = some values.clientSecret
  handshakeSecret_eq : handshake.handshakeSecret = some values.handshakeSecret
  verified : computeFinishedVerifyData crypto values.hkdf values.serverSecret
    (values.transcript.currentHash crypto) = .ok (message.drop 4)
  masterSecret_eq : values.handshakeSecret.deriveNext crypto
    (List.replicate values.hkdf.hashLen 0) = .ok values.masterSecret
  trafficSecrets_eq : deriveTrafficSecrets crypto values.masterSecret values.hkdf values.aead
    ((values.transcript.update message).currentHash crypto) = .ok values.trafficSecrets
  verifyData_eq : computeFinishedVerifyData crypto values.hkdf values.clientSecret
    (((values.transcript.update message).update
      handshake.clientMessages.flatten).currentHash crypto) = .ok values.verifyData
  resumption_eq : values.masterSecret.deriveSecret crypto "res master"
    ((((values.transcript.update message).update handshake.clientMessages.flatten).update
      values.clientFinished).currentHash crypto) = .ok values.resumptionMasterSecret

/-- The handshake after the Finished exchange. -/
def finishedState (handshake : Tls13Handshake) (message : Bytes) (values : FinishedValues) :
    Tls13Handshake :=
  { handshake with
    transcript := some (((values.transcript.update message).update
      handshake.clientMessages.flatten).update values.clientFinished)
    handshakeSecret := none
    state := .connected }

/-- The result of the Finished exchange. -/
def finishedResult (handshake : Tls13Handshake) (values : FinishedValues) : HandshakeComplete where
  clientEncryptedExtensions := handshake.buildClientEncryptedExtensions
  clientCertificate := handshake.clientCertificateRequestContext.map buildEmptyClientCertificate
  clientFinished := values.clientFinished
  trafficSecrets := values.trafficSecrets
  negotiatedAlpn := handshake.negotiatedAlpn
  resumptionMasterSecret := values.resumptionMasterSecret
  negotiatedCipherSuite := handshake.cipherSuite.getD 0x1301
  serverCertificates := handshake.serverCertificates
  echRetryConfigs := handshake.echRetryConfigs
  echAccepted := handshake.echAccepted
  peerQuicTransportParams := handshake.peerQuicTransportParams
  earlyDataAccepted := handshake.earlyDataAccepted

/-- The checks of a CertificateVerify, which an insecure policy leaves out. -/
structure VerifyStep (crypto : Primitives) (handshake : Tls13Handshake) (message leaf : Bytes)
    (transcript : TranscriptHash) : Prop where
  leaf_eq : handshake.serverCertificates.head? = some leaf
  signature : verifyCertificateVerify crypto (UInt16.ofNat (u16At (message.drop 4) 0)) leaf
    (transcript.currentHash crypto)
    (slice (message.drop 4) 4 (4 + u16At (message.drop 4) 2)) = .ok ()
  chain : verifyCertificateChain crypto handshake.serverCertificates handshake.hostname
    handshake.customCaAnchors = .ok ()

/-- What one whole message can do. -/
inductive Step (crypto : Primitives) (handshake : Tls13Handshake) (message : Bytes) :
    Tls13Handshake → HandshakeAction → Prop
  | retry {hello : ServerHello} {hkdf : HkdfAlgorithm} {aead : AeadAlgorithm}
      {echHrrAccepted : Option Bool} {keyPair : Option EphemeralKeyPair} {built : Tls13Handshake}
      {ch2 : Bytes}
      (hstate : handshake.state = .waitServerHello)
      (htype : byteAt message 0 = HandshakeType.serverHello)
      (hparse : parseServerHello (message.drop 4) = .ok hello)
      (hcheck : handshake.checkServerHello hello = .ok (hkdf, aead))
      (hretry : hello.isHelloRetryRequest = true)
      (hfirst : handshake.hrrReceived = false)
      (hech : handshake.hrrEchAcceptance crypto message hello hkdf = .ok echHrrAccepted)
      (hkeyPair : handshake.hrrKeyPair crypto hello = .ok keyPair)
      (hbuild : (handshake.retried crypto message hello.cipherSuite hkdf aead echHrrAccepted
        keyPair).buildClientHelloRetry crypto hello.extensions.cookie keyPair.isSome =
          .ok (built, ch2)) :
      Step crypto handshake message
        { built.hashMessage ch2 with
          bufferedClientHello := none
          state := .waitServerHello } (.retryClientHello ch2)
  | serverHello {hello : ServerHello} {hkdf : HkdfAlgorithm} {aead : AeadAlgorithm}
      {selected exchanged confirmed derived : Tls13Handshake} {sharedSecret : Bytes}
      {keys : HandshakeKeys}
      (hstate : handshake.state = .waitServerHello)
      (htype : byteAt message 0 = HandshakeType.serverHello)
      (hparse : parseServerHello (message.drop 4) = .ok hello)
      (hcheck : handshake.checkServerHello hello = .ok (hkdf, aead))
      (hretry : hello.isHelloRetryRequest = false)
      (hselect : (handshake.withSuite hello.cipherSuite hkdf aead).selectPsk hello hkdf =
        .ok selected)
      (hexchange : (selected.startTranscript message hkdf).computeSharedSecret crypto hello =
        .ok (exchanged, sharedSecret))
      (hconfirm : exchanged.confirmEch crypto message hello hkdf = .ok confirmed)
      (hderive : confirmed.deriveHandshakeKeys crypto hkdf aead sharedSecret =
        .ok (derived, keys)) :
      Step crypto handshake message { derived with state := .waitEncryptedExtensions }
        (.installHandshakeKeys keys)
  | encryptedExtensions {applied : Tls13Handshake} {sawParams : Bool}
      (hstate : handshake.state = .waitEncryptedExtensions)
      (htype : byteAt message 0 = HandshakeType.encryptedExtensions)
      (happly : applyEncryptedExtensions crypto (u16At (message.drop 4) 0)
        (handshake.hashMessage message) false
        (slice (message.drop 4) 2 (2 + u16At (message.drop 4) 0)) = .ok (applied, sawParams)) :
      Step crypto handshake message
        { applied with
          state := if applied.pskAccepted then .waitFinished else .waitCertificate }
        .continueReading
  | certificateRequest {context : Bytes}
      (hstate : handshake.state = .waitCertificate)
      (htype : byteAt message 0 = HandshakeType.certificateRequest) :
      Step crypto handshake message
        { handshake.hashMessage message with clientCertificateRequestContext := some context }
        .continueReading
  | certificate {chain : List Bytes}
      (hstate : handshake.state = .waitCertificate)
      (hchain : CarriesChain crypto message chain) (hne : chain ≠ []) :
      Step crypto handshake message
        { handshake.hashMessage message with
          serverCertificates := chain
          state := .waitCertificateVerify } .continueReading
  | certificateVerify {transcript : TranscriptHash}
      (hstate : handshake.state = .waitCertificateVerify)
      (htype : byteAt message 0 = HandshakeType.certificateVerify)
      (htranscript : handshake.transcript = some transcript)
      (hverify : handshake.verificationPolicy = .strict →
        ∃ leaf, VerifyStep crypto handshake message leaf transcript) :
      Step crypto handshake message
        { handshake.hashMessage message with state := .waitFinished } .continueReading
  | finished {values : FinishedValues}
      (hstate : handshake.state = .waitFinished)
      (htype : byteAt message 0 = HandshakeType.finished)
      (hfinished : FinishedStep crypto handshake message values) :
      Step crypto handshake message (handshake.finishedState message values)
        (.complete (handshake.finishedResult values))

/-! ## The code takes these steps -/

section Code

variable {crypto : Primitives} {handshake next : Tls13Handshake} {message payload : Bytes}
  {action : HandshakeAction}

theorem unwrap_eq_ok {α : Type} {option : Option α} {value : α} :
    unwrap option = .ok value ↔ option = some value := orMalformed_eq_ok

theorem processServerHello_step (hstate : handshake.state = .waitServerHello)
    (htype : byteAt message 0 = HandshakeType.serverHello)
    (hprocess : handshake.processServerHello crypto message (message.drop 4) =
      .ok (next, action)) : Step crypto handshake message next action := by
  obtain ⟨hello, hparse, hprocess⟩ := bind_eq_ok.mp hprocess
  obtain ⟨⟨hkdf, aead⟩, hcheck, hprocess⟩ := bind_eq_ok.mp hprocess
  cases hretry : hello.isHelloRetryRequest with
  | true =>
    simp only [hretry, if_true] at hprocess
    unfold processHelloRetryRequest at hprocess
    obtain ⟨hfirst, hprocess⟩ := guard_eq_ok.mp hprocess
    obtain ⟨_, hprocess⟩ := guard_eq_ok.mp hprocess
    obtain ⟨_, hprocess⟩ := guard_eq_ok.mp hprocess
    obtain ⟨echHrrAccepted, hech, hprocess⟩ := bind_eq_ok.mp hprocess
    obtain ⟨keyPair, hkeyPair, hprocess⟩ := bind_eq_ok.mp hprocess
    obtain ⟨_, hprocess⟩ := guard_eq_ok.mp hprocess
    obtain ⟨⟨built, ch2⟩, hbuild, hprocess⟩ := bind_eq_ok.mp hprocess
    cases hprocess
    exact .retry hstate htype hparse hcheck hretry (Bool.eq_false_iff.mpr hfirst) hech hkeyPair
      hbuild
  | false =>
    simp only [hretry, Bool.false_eq_true, if_false] at hprocess
    obtain ⟨selected, hselect, hprocess⟩ := bind_eq_ok.mp hprocess
    obtain ⟨⟨exchanged, sharedSecret⟩, hexchange, hprocess⟩ := bind_eq_ok.mp hprocess
    obtain ⟨confirmed, hconfirm, hprocess⟩ := bind_eq_ok.mp hprocess
    obtain ⟨⟨derived, keys⟩, hderive, hprocess⟩ := bind_eq_ok.mp hprocess
    cases hprocess
    exact .serverHello hstate htype hparse hcheck hretry hselect hexchange hconfirm hderive

theorem processEncryptedExtensions_step (hstate : handshake.state = .waitEncryptedExtensions)
    (htype : byteAt message 0 = HandshakeType.encryptedExtensions)
    (hprocess : handshake.processEncryptedExtensions crypto message (message.drop 4) =
      .ok (next, action)) : Step crypto handshake message next action := by
  unfold processEncryptedExtensions at hprocess
  obtain ⟨_, hprocess⟩ := guard_eq_ok.mp hprocess
  obtain ⟨_, hprocess⟩ := guard_eq_ok.mp hprocess
  obtain ⟨⟨applied, sawParams⟩, happly, hprocess⟩ := bind_eq_ok.mp hprocess
  obtain ⟨_, hprocess⟩ := guard_eq_ok.mp hprocess
  cases hprocess
  exact .encryptedExtensions hstate htype happly

variable (hstate : handshake.state = .waitCertificate) {transcript : TranscriptHash}
include hstate

theorem processCertificateRequest_step (htype : byteAt message 0 = HandshakeType.certificateRequest)
    (hprocess : handshake.processCertificateRequest message payload = .ok (next, action)) :
    Step crypto handshake message next action := by
  obtain ⟨context, _, hprocess⟩ := bind_eq_ok.mp hprocess
  cases hprocess
  exact .certificateRequest hstate htype

theorem acceptCertificates_step {chain : List Bytes} (hchain : CarriesChain crypto message chain)
    (haccept : (handshake.hashMessage message).acceptCertificates chain = .ok (next, action)) :
    Step crypto handshake message next action := by
  unfold acceptCertificates at haccept
  split at haccept
  · cases haccept
  next hne =>
    cases haccept
    exact .certificate hstate hchain hne

theorem processCertificate_step (htype : byteAt message 0 = HandshakeType.certificate)
    (hprocess : handshake.processCertificate message (message.drop 4) = .ok (next, action)) :
    Step crypto handshake message next action := by
  obtain ⟨chain, hparse, hprocess⟩ := bind_eq_ok.mp hprocess
  exact acceptCertificates_step hstate (.plain htype hparse) hprocess

theorem processCompressedCertificate_step
    (htype : byteAt message 0 = HandshakeType.compressedCertificate)
    (hprocess : handshake.processCompressedCertificate crypto message (message.drop 4) =
      .ok (next, action)) : Step crypto handshake message next action := by
  unfold processCompressedCertificate at hprocess
  obtain ⟨_, hprocess⟩ := guard_eq_ok.mp hprocess
  obtain ⟨_, hprocess⟩ := guard_eq_ok.mp hprocess
  obtain ⟨_, hprocess⟩ := guard_eq_ok.mp hprocess
  obtain ⟨decompressed, hdecompress, hprocess⟩ := bind_eq_ok.mp hprocess
  obtain ⟨chain, hparse, hprocess⟩ := bind_eq_ok.mp hprocess
  exact acceptCertificates_step hstate (.compressed htype hdecompress hparse) hprocess

omit hstate

theorem processCertificateVerify_step (hstate : handshake.state = .waitCertificateVerify)
    (htype : byteAt message 0 = HandshakeType.certificateVerify)
    (hprocess : handshake.processCertificateVerify crypto message (message.drop 4) =
      .ok (next, action)) : Step crypto handshake message next action := by
  obtain ⟨transcript, htranscript, hprocess⟩ := bind_eq_ok.mp hprocess
  cases hpolicy : handshake.verificationPolicy with
  | insecure =>
    rw [hpolicy] at hprocess
    cases hprocess
    refine .certificateVerify hstate htype (orMalformed_eq_ok.mp htranscript) ?_
    intro hstrict
    cases hpolicy.symm.trans hstrict
  | strict =>
    have hsecure : ¬ VerificationPolicy.strict.isInsecure = true := by decide
    rw [hpolicy] at hprocess
    replace hprocess := (if_neg hsecure).symm.trans hprocess
    obtain ⟨_, hprocess⟩ := guard_eq_ok.mp hprocess
    obtain ⟨_, hprocess⟩ := guard_eq_ok.mp hprocess
    obtain ⟨leaf, hleaf, hprocess⟩ := bind_eq_ok.mp hprocess
    obtain ⟨_, hsignature, hprocess⟩ := bind_eq_ok.mp hprocess
    obtain ⟨_, hchain, hprocess⟩ := bind_eq_ok.mp hprocess
    cases hprocess
    exact .certificateVerify hstate htype (orMalformed_eq_ok.mp htranscript) fun _ =>
      ⟨leaf, orMalformed_eq_ok.mp hleaf, hsignature, hchain⟩

theorem hashMessage_of_some (htranscript : handshake.transcript = some transcript) :
    handshake.hashMessage message =
      { handshake with transcript := some (transcript.update message) } := by
  rw [hashMessage, htranscript, map_some]

/-- The messages between the two Finished messages enter the transcript at once. -/
theorem hashClientMessages_of_some
    (htranscript : handshake.transcript = some transcript) (clientEe certificate : Option Bytes) :
    handshake.hashClientMessages [clientEe, certificate] =
      { handshake with
        transcript :=
          some (transcript.update (clientEe.toList ++ certificate.toList).flatten) } := by
  cases clientEe <;> cases certificate <;>
    simp only [hashClientMessages, hashMessage, htranscript, TranscriptHash.update,
      foldl_cons, foldl_nil, map_some, toList_some, toList_none,
      nil_append, append_nil, flatten_cons, flatten_nil, append_assoc,
      cons_append]
  rw [← htranscript]

theorem checkServerFinished_ok {hkdf : HkdfAlgorithm}
    (hcheck : handshake.checkServerFinished crypto hkdf payload = .ok ()) :
    ∃ transcript secret, handshake.transcript = some transcript ∧
      handshake.serverHsTrafficSecret = some secret ∧
      computeFinishedVerifyData crypto hkdf secret (transcript.currentHash crypto) =
        .ok payload := by
  obtain ⟨transcript, htranscript, hcheck⟩ := bind_eq_ok.mp hcheck
  obtain ⟨secret, hsecret, hcheck⟩ := bind_eq_ok.mp hcheck
  obtain ⟨expected, hexpected, hcheck⟩ := bind_eq_ok.mp hcheck
  split at hcheck
  · cases hcheck
  next heq =>
    rw [← Decidable.not_not.mp heq] at hexpected
    exact ⟨transcript, secret, orMalformed_eq_ok.mp htranscript, orMalformed_eq_ok.mp hsecret,
      hexpected⟩

theorem processFinished_step (hstate : handshake.state = .waitFinished)
    (htype : byteAt message 0 = HandshakeType.finished)
    (hprocess : handshake.processFinished crypto message (message.drop 4) =
      .ok (next, action)) : Step crypto handshake message next action := by
  obtain ⟨hkdf, hhkdf, hprocess⟩ := bind_eq_ok.mp hprocess
  obtain ⟨aead, haead, hprocess⟩ := bind_eq_ok.mp hprocess
  obtain ⟨_, hcheck, hprocess⟩ := bind_eq_ok.mp hprocess
  obtain ⟨handshakeSecret, hsecret, hprocess⟩ := bind_eq_ok.mp hprocess
  obtain ⟨masterSecret, hmaster, hprocess⟩ := bind_eq_ok.mp hprocess
  obtain ⟨afterFinished, hafter, hprocess⟩ := bind_eq_ok.mp hprocess
  obtain ⟨trafficSecrets, htraffic, hprocess⟩ := bind_eq_ok.mp hprocess
  obtain ⟨clientSecret, hclient, hprocess⟩ := bind_eq_ok.mp hprocess
  obtain ⟨sent, hsent, hprocess⟩ := bind_eq_ok.mp hprocess
  obtain ⟨verifyData, hverify, hprocess⟩ := bind_eq_ok.mp hprocess
  obtain ⟨final, hfinal, hprocess⟩ := bind_eq_ok.mp hprocess
  obtain ⟨resumption, hresumption, hprocess⟩ := bind_eq_ok.mp hprocess
  obtain ⟨transcript, serverSecret, htranscript, hserver, hverified⟩ :=
    checkServerFinished_ok hcheck
  have hhashed : (handshake.hashMessage message).transcript = some (transcript.update message) := by
    rw [hashMessage_of_some htranscript]
  have hafterEq : afterFinished = transcript.update message :=
    some.inj ((unwrap_eq_ok.mp hafter).symm.trans hhashed)
  rw [hashClientMessages_of_some hhashed] at hclient hsent hfinal hprocess
  have hsentEq := some.inj (unwrap_eq_ok.mp hsent)
  have hfinalEq := some.inj (unwrap_eq_ok.mp hfinal)
  rw [hafterEq] at htraffic
  rw [← hsentEq] at hverify
  rw [← hfinalEq] at hresumption
  cases hprocess
  have hfinished : FinishedStep crypto handshake message
      ⟨hkdf, aead, transcript, serverSecret, clientSecret, handshakeSecret, masterSecret,
        trafficSecrets, verifyData, resumption⟩ :=
    { hkdf_eq := unwrap_eq_ok.mp hhkdf
      aead_eq := unwrap_eq_ok.mp haead
      transcript_eq := htranscript
      serverSecret_eq := hserver
      clientSecret_eq := orMalformed_eq_ok.mp hclient
      handshakeSecret_eq := orMalformed_eq_ok.mp hsecret
      verified := hverified
      masterSecret_eq := hmaster
      trafficSecrets_eq := htraffic
      verifyData_eq := hverify
      resumption_eq := hresumption }
  exact .finished hstate htype hfinished

theorem processMessage_step
    (hprocess : handshake.processMessage crypto message = .ok (next, action)) :
    Step crypto handshake message next action := by
  unfold processMessage at hprocess
  revert hprocess
  fun_cases processSingleMessage with
  | case1 hstate htype => exact processServerHello_step hstate htype
  | case3 hstate htype => exact processEncryptedExtensions_step hstate htype
  | case5 hstate htype => exact processCertificateRequest_step hstate htype
  | case6 hstate _ htype => exact processCertificate_step hstate htype
  | case7 hstate _ _ htype => exact processCompressedCertificate_step hstate htype
  | case9 hstate htype => exact processCertificateVerify_step hstate htype
  | case11 hstate htype => exact processFinished_step hstate htype
  | _ => exact nofun

end Code

/-! ## Records -/

/-- The steps of whole messages in turn; the action is that of the last one. -/
inductive Steps (crypto : Primitives) : Tls13Handshake → HandshakeAction → List Bytes →
    Tls13Handshake → HandshakeAction → Prop
  | nil (handshake : Tls13Handshake) (action : HandshakeAction) :
      Steps crypto handshake action [] handshake action
  | cons {handshake middle next : Tls13Handshake} {before between action : HandshakeAction}
      {message : Bytes} {messages : List Bytes}
      (hstep : Step crypto handshake message middle between)
      (hrest : Steps crypto middle between messages next action) :
      Steps crypto handshake before (message :: messages) next action

section Records

variable {crypto : Primitives} {handshake next : Tls13Handshake}
  {before action : HandshakeAction} {messages : List Bytes}

theorem feedMessages_steps
    (hfeed : handshake.feedMessages crypto before messages = .ok (next, action)) :
    Steps crypto handshake before messages next action := by
  induction messages generalizing handshake before with
  | nil =>
    cases hfeed
    exact .nil _ _
  | cons message messages ih =>
    obtain ⟨⟨middle, between⟩, hprocess, hrest⟩ := bind_eq_ok.mp hfeed
    exact .cons (processMessage_step hprocess) (ih hrest)

theorem feedMessages_append {first second : List Bytes}
    (hfeed : handshake.feedMessages crypto before (first ++ second) = .ok (next, action)) :
    ∃ middle between, handshake.feedMessages crypto before first = .ok (middle, between) ∧
      middle.feedMessages crypto between second = .ok (next, action) := by
  induction first generalizing handshake before with
  | nil => exact ⟨handshake, before, rfl, hfeed⟩
  | cons message first ih =>
    obtain ⟨⟨held, after⟩, hprocess, hrest⟩ := bind_eq_ok.mp hfeed
    obtain ⟨middle, between, hfirst, hsecond⟩ := ih hrest
    exact ⟨middle, between, bind_eq_ok.mpr ⟨(held, after), hprocess, hfirst⟩, hsecond⟩

/-- A record that is processed is the steps of its whole messages. -/
theorem feedMessages_of_processHandshakeRecord {data : Bytes}
    (hprocess : handshake.processHandshakeRecord crypto data = .ok (next, action)) :
    handshake.feedMessages crypto .continueReading (wholeMessages data) = .ok (next, action) := by
  rw [processHandshakeRecord_eq] at hprocess
  obtain ⟨result, hfeed, hprocess⟩ := bind_eq_ok.mp hprocess
  split at hprocess
  · cases hprocess
    exact hfeed
  · cases hprocess

theorem processHandshakeRecord_steps {data : Bytes}
    (hprocess : handshake.processHandshakeRecord crypto data = .ok (next, action)) :
    Steps crypto handshake .continueReading (wholeMessages data) next action :=
  feedMessages_steps (feedMessages_of_processHandshakeRecord hprocess)

/-- The last step decides the action. -/
theorem Steps.last (hsteps : Steps crypto handshake before messages next action) :
    (messages = [] ∧ next = handshake ∧ action = before) ∨
      ∃ first message middle between, messages = first ++ [message] ∧
        Steps crypto handshake before first middle between ∧
        Step crypto middle message next action := by
  induction hsteps with
  | nil handshake action => exact .inl ⟨rfl, rfl, rfl⟩
  | cons hstep hrest ih =>
    right
    obtain ⟨rfl, rfl, rfl⟩ | ⟨first, last, middle, between, rfl, hfirst, hlast⟩ := ih
    · exact ⟨[], _, _, _, rfl, .nil _ _, hstep⟩
    · exact ⟨_ :: first, last, middle, between, rfl, .cons hstep hfirst, hlast⟩

end Records

end Tls13Handshake

end LkRequest.Handshake
