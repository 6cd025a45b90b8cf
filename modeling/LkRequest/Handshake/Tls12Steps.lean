import LkRequest.Handshake.Messages

/-!
# The steps of a TLS 1.2 handshake

`Step` lists what a message of the server flight can do to a TLS 1.2 handshake, with the checks it
has passed; the lemmas after it do the same for the change of ciphers and the Finished messages.
-/

namespace LkRequest.Handshake

open Library Crypto Hello Verify Option

namespace Tls12Handshake

/-! ## The parts of a ServerHello -/

/-- Where the cipher suite stands in the body of a ServerHello. -/
def suiteOffset (body : Bytes) : Nat := 35 + (byteAt body 34).toNat

def selectedSuite (body : Bytes) : Option Tls12CipherSuite :=
  Tls12CipherSuite.fromCodePoint (UInt16.ofNat (u16At body (suiteOffset body)))

/-- The handshake after the fields and the extensions of a ServerHello. -/
def withServerHello (handshake : Tls12Handshake) (body : Bytes) (suite : Tls12CipherSuite) :
    Tls12Handshake :=
  let handshake := { handshake with
    serverRandom := slice body 2 34
    cipherSuite := some suite
    prfAlgorithm := suite.prfAlgorithm }
  let extStart := suiteOffset body + 3
  if extStart + 2 ≤ body.length then
    applyServerExtensions body (extStart + 2 + u16At body extStart) body.length (extStart + 2)
      handshake
  else handshake

/-! ## The client flight -/

/-- The values that a ServerHelloDone makes the client compute. -/
structure DoneValues where
  suite : Tls12CipherSuite
  transcript : TranscriptHash
  preMasterSecret : Bytes
  clientKeyExchange : Bytes
  masterSecret : Bytes

/-- The transcript up to the ClientKeyExchange. -/
def exchangeTranscript (handshake : Tls12Handshake) (message : Bytes) (values : DoneValues) :
    TranscriptHash :=
  values.transcript.update
    (message ++ (handshake.clientCertificate.toList.flatten ++ values.clientKeyExchange))

structure DoneStep (crypto : Primitives) (handshake : Tls12Handshake) (message : Bytes)
    (values : DoneValues) : Prop where
  suite_eq : handshake.cipherSuite = some values.suite
  transcript_eq : handshake.transcript = some values.transcript
  exchange_eq : handshake.buildKeyExchange crypto values.suite =
    .ok (values.preMasterSecret, values.clientKeyExchange)
  masterSecret_eq : values.masterSecret =
    if handshake.useExtendedMasterSecret then
      computeExtendedMasterSecret crypto handshake.prfAlgorithm values.preMasterSecret
        ((handshake.exchangeTranscript message values).currentHash crypto)
    else computeMasterSecret crypto handshake.prfAlgorithm values.preMasterSecret
      handshake.clientRandom handshake.serverRandom

/-- The client Finished of a full handshake. -/
def clientFinished (crypto : Primitives) (handshake : Tls12Handshake) (message : Bytes)
    (values : DoneValues) : Bytes :=
  handshakeMessage HandshakeType.finished
    (computeVerifyData crypto handshake.prfAlgorithm values.masterSecret "client finished"
      ((handshake.exchangeTranscript message values).currentHash crypto))

def doneState (crypto : Primitives) (handshake : Tls12Handshake) (message : Bytes)
    (values : DoneValues) : Tls12Handshake :=
  { handshake with
    transcript := some ((handshake.exchangeTranscript message values).update
      (handshake.clientFinished crypto message values))
    masterSecret := some values.masterSecret
    state := .waitServerChangeCipherSpec }

def doneFlight (crypto : Primitives) (handshake : Tls12Handshake) (message : Bytes)
    (values : DoneValues) : Tls12ClientFlight where
  clientCertificate := handshake.clientCertificate
  clientKeyExchange := values.clientKeyExchange
  clientFinished := handshake.clientFinished crypto message values
  trafficKeys := handshake.deriveTrafficKeys crypto values.suite values.masterSecret

/-! ## Steps -/

/-- The state after a Certificate, by the key exchange of the suite. -/
def afterCertificate (suite : Tls12CipherSuite) : Tls12State :=
  match suite.keyExchange with
  | .rsa => .waitServerHelloDone
  | .ecdhe => .waitServerKeyExchange

/-- What one whole message of the server flight can do. -/
inductive Step (crypto : Primitives) (handshake : Tls12Handshake) (message : Bytes) :
    Tls12Handshake → Tls12HandshakeAction → Prop
  | serverHello {suite : Tls12CipherSuite}
      (hstate : handshake.state = .waitServerHello)
      (htype : byteAt message 0 = HandshakeType.serverHello)
      (hsuite : selectedSuite (message.drop 4) = some suite) :
      Step crypto handshake message
        { (handshake.withServerHello (message.drop 4) suite).hashServerHello suite message with
          state := if handshake.resumedMasterSecret.isSome then
            .waitCertificateOrAbbreviated else .waitCertificate } .continueReading
  | certificate {chain : List Bytes} {suite : Tls12CipherSuite} {resumed : Option Bytes}
      (hstate : handshake.state = .waitCertificate ∨
        handshake.state = .waitCertificateOrAbbreviated ∧ resumed = none)
      (hparse : parseCertificates (message.drop 4) (3 + u24At (message.drop 4) 0)
        (message.drop 4).length 3 = .ok chain)
      (hne : chain ≠ [])
      (hverify : handshake.verificationPolicy.verifyCertificateChain crypto chain
        handshake.hostname handshake.customCaAnchors = .ok ())
      (hsuite : handshake.cipherSuite = some suite) :
      Step crypto handshake message
        { handshake.feedHandshakeMessage message with
          serverCertificates := chain
          resumedMasterSecret := resumed
          state := afterCertificate suite } .continueReading
  | hashed (hstate : handshake.state = .waitCertificateOrAbbreviated ∨
        handshake.state = .waitServerKeyExchange) :
      Step crypto handshake message (handshake.feedHandshakeMessage message) .continueReading
  | serverKeyExchange {params : ServerKxParams}
      (hstate : handshake.state = .waitServerKeyExchange)
      (hparse : parseServerKeyExchange (message.drop 4) = .ok params)
      (hverify : ∀ leaf, handshake.serverCertificates.head? = some leaf →
        handshake.verificationPolicy.verifyServerKeyExchangeSignature crypto leaf
          params.signatureAlgorithm
          (handshake.clientRandom ++ handshake.serverRandom ++ params.signedParams)
          params.signature = .ok ()) :
      Step crypto handshake message
        { handshake.feedHandshakeMessage message with
          serverKxParams := some params
          state := .waitServerHelloDone } .continueReading
  | certificateRequest (hstate : handshake.state = .waitServerHelloDone) :
      Step crypto handshake message (handshake.requestClientCertificate message) .continueReading
  | serverHelloDone {values : DoneValues}
      (hstate : handshake.state = .waitServerKeyExchange ∨ handshake.state = .waitServerHelloDone)
      (hdone : DoneStep crypto handshake message values) :
      Step crypto handshake message (handshake.doneState crypto message values)
        (.sendClientFlight (handshake.doneFlight crypto message values))

section Code

variable {crypto : Primitives} {handshake next : Tls12Handshake} {message : Bytes}
  {action : Tls12HandshakeAction}

theorem applyServerExtension_eq (handshake : Tls12Handshake) {extType : Nat} {data : Bytes} :
    ∃ extended alpn, handshake.applyServerExtension extType data =
      { handshake with useExtendedMasterSecret := extended, negotiatedAlpn := alpn } := by
  simp only [applyServerExtension]
  repeat' split
  all_goals exact ⟨_, _, rfl⟩

/-- The extensions of a ServerHello set two fields only. -/
theorem applyServerExtensions_eq {body : Bytes} (extEnd fuel offset : Nat)
    (handshake : Tls12Handshake) :
    ∃ extended alpn, applyServerExtensions body extEnd fuel offset handshake =
      { handshake with useExtendedMasterSecret := extended, negotiatedAlpn := alpn } := by
  induction fuel generalizing offset handshake with
  | zero => exact ⟨_, _, rfl⟩
  | succ fuel ih =>
    rw [applyServerExtensions]
    simp only
    split
    · exact ⟨_, _, rfl⟩
    · split
      · exact ⟨_, _, rfl⟩
      · obtain ⟨extended, alpn, happly⟩ := applyServerExtension_eq handshake
        rw [happly]
        obtain ⟨extended', alpn', hrest⟩ := ih (offset + 4 + u16At body (offset + 2))
          { handshake with useExtendedMasterSecret := extended, negotiatedAlpn := alpn }
        exact ⟨extended', alpn', hrest⟩

theorem hashServerHello_eq (handshake : Tls12Handshake) {suite : Tls12CipherSuite}
    {message : Bytes} :
    ∃ transcript, handshake.hashServerHello suite message =
      { handshake with transcript := transcript } := by
  unfold hashServerHello
  split
  · exact ⟨_, rfl⟩
  · exact ⟨_, rfl⟩

/-- A ServerHello sets its own fields only. -/
theorem afterServerHello_eq (handshake : Tls12Handshake) (suite : Tls12CipherSuite)
    (message : Bytes) :
    ∃ extended alpn transcript,
      (handshake.withServerHello (message.drop 4) suite).hashServerHello suite message =
        { handshake with
          serverRandom := slice (message.drop 4) 2 34
          cipherSuite := some suite
          prfAlgorithm := suite.prfAlgorithm
          useExtendedMasterSecret := extended
          negotiatedAlpn := alpn
          transcript := transcript } := by
  obtain ⟨transcript, hhash⟩ := hashServerHello_eq
    (handshake.withServerHello (message.drop 4) suite)
  rw [hhash]
  generalize hhello : handshake.withServerHello (message.drop 4) suite = hello
  simp only [withServerHello] at hhello
  split at hhello
  · obtain ⟨extended, alpn, hfields⟩ := applyServerExtensions_eq _ _ _ _
    rw [← hhello, hfields]
    exact ⟨extended, alpn, transcript, rfl⟩
  · rw [← hhello]
    exact ⟨_, _, transcript, rfl⟩

theorem processServerHello_step (hstate : handshake.state = .waitServerHello)
    (htype : byteAt message 0 = HandshakeType.serverHello)
    (hprocess : handshake.processServerHello (message.drop 4) message = .ok (next, action)) :
    Step crypto handshake message next action := by
  unfold processServerHello at hprocess
  obtain ⟨_, hprocess⟩ := guard_eq_ok.mp hprocess
  obtain ⟨_, hprocess⟩ := guard_eq_ok.mp hprocess
  obtain ⟨suite, hsuite, hprocess⟩ := bind_eq_ok.mp hprocess
  have hresumed : ((handshake.withServerHello (message.drop 4) suite).hashServerHello suite
      message).resumedMasterSecret = handshake.resumedMasterSecret := by
    obtain ⟨extended, alpn, transcript, hfields⟩ := handshake.afterServerHello_eq suite message
    rw [hfields]
  cases hprocess
  have hstep := @Step.serverHello crypto _ _ _ hstate htype (orMalformed_eq_ok.mp hsuite)
  rw [← hresumed] at hstep
  exact hstep

theorem processCertificate_step {resumed : Option Bytes}
    (hstate : handshake.state = .waitCertificate ∨
      handshake.state = .waitCertificateOrAbbreviated ∧ resumed = none)
    (hprocess : { handshake with resumedMasterSecret := resumed }.processCertificate crypto
      (message.drop 4) message = .ok (next, action)) :
    Step crypto handshake message next action := by
  unfold processCertificate at hprocess
  obtain ⟨_, hprocess⟩ := guard_eq_ok.mp hprocess
  obtain ⟨chain, hparse, hprocess⟩ := bind_eq_ok.mp hprocess
  obtain ⟨hne, hprocess⟩ := guard_eq_ok.mp hprocess
  obtain ⟨_, hverify, hprocess⟩ := bind_eq_ok.mp hprocess
  obtain ⟨suite, hsuite, hprocess⟩ := bind_eq_ok.mp hprocess
  cases hprocess
  exact .certificate hstate hparse hne hverify (orMalformed_eq_ok.mp hsuite)

theorem processServerKeyExchange_step (hstate : handshake.state = .waitServerKeyExchange)
    (hprocess : handshake.processServerKeyExchange crypto (message.drop 4) message =
      .ok (next, action)) : Step crypto handshake message next action := by
  obtain ⟨params, hparse, hprocess⟩ := bind_eq_ok.mp hprocess
  cases hchain : handshake.serverCertificates with
  | nil =>
    simp only [hchain] at hprocess
    cases hprocess
    apply Step.serverKeyExchange hstate hparse
    intro leaf hleaf
    rw [hchain] at hleaf
    cases hleaf
  | cons first rest =>
    simp only [hchain] at hprocess
    obtain ⟨_, hverify, hprocess⟩ := bind_eq_ok.mp hprocess
    cases hprocess
    apply Step.serverKeyExchange hstate hparse
    intro leaf hleaf
    rw [hchain] at hleaf
    cases hleaf
    exact hverify

theorem clientCertificate_feedHandshakeMessage (fed : Bytes) :
    (handshake.feedHandshakeMessage fed).clientCertificate = handshake.clientCertificate := rfl

theorem feedHandshakeMessage_append (first second : Bytes) :
    (handshake.feedHandshakeMessage first).feedHandshakeMessage second =
      handshake.feedHandshakeMessage (first ++ second) := by
  simp only [feedHandshakeMessage, map_map]
  congr 2
  funext transcript
  simp only [Function.comp, TranscriptHash.update, List.append_assoc]

theorem feedOptional_eq (optional : Option Bytes) :
    handshake.feedOptional optional = handshake.feedHandshakeMessage optional.toList.flatten := by
  cases optional with
  | some message => simp [feedOptional]
  | none =>
    have hupdate : (fun transcript : TranscriptHash => transcript.update []) = id := by
      funext transcript
      simp only [TranscriptHash.update, List.append_nil, id]
    simp only [feedOptional, feedHandshakeMessage, toList_none, List.flatten_nil, hupdate,
      map_id, id]

theorem processServerHelloDone_step
    (hstate : handshake.state = .waitServerKeyExchange ∨ handshake.state = .waitServerHelloDone)
    (hprocess : handshake.processServerHelloDone crypto message = .ok (next, action)) :
    Step crypto handshake message next action := by
  obtain ⟨suite, hsuite, hprocess⟩ := bind_eq_ok.mp hprocess
  obtain ⟨⟨preMasterSecret, clientKeyExchange⟩, hexchange, hprocess⟩ := bind_eq_ok.mp hprocess
  obtain ⟨masterSecret, hmaster, hprocess⟩ := bind_eq_ok.mp hprocess
  obtain ⟨transcript, htranscript, hprocess⟩ := bind_eq_ok.mp hprocess
  rw [feedOptional_eq, feedHandshakeMessage_append, feedHandshakeMessage_append]
    at hmaster htranscript hprocess
  cases hstart : handshake.transcript with
  | none =>
    rw [feedHandshakeMessage, hstart] at htranscript
    cases htranscript
  | some start =>
    have hfed : handshake.feedHandshakeMessage (message ++
        (handshake.clientCertificate.toList.flatten ++ clientKeyExchange)) =
          { handshake with
            transcript := some (start.update (message ++
              (handshake.clientCertificate.toList.flatten ++ clientKeyExchange))) } := by
      rw [feedHandshakeMessage, hstart, map_some]
    rw [clientCertificate_feedHandshakeMessage, hfed] at hmaster htranscript hprocess
    have htranscriptEq := Option.some.inj (orMalformed_eq_ok.mp htranscript)
    have hdone : DoneStep crypto handshake message
        ⟨suite, start, preMasterSecret, clientKeyExchange, masterSecret⟩ :=
      { suite_eq := orMalformed_eq_ok.mp hsuite
        transcript_eq := hstart
        exchange_eq := hexchange
        masterSecret_eq := by
          rw [deriveMasterSecret] at hmaster
          split at hmaster
          next hextended => exact (Except.ok.inj hmaster).symm.trans (if_pos hextended).symm
          next hplain => exact (Except.ok.inj hmaster).symm.trans (if_neg hplain).symm }
    have hnext := Step.serverHelloDone hstate hdone
    rw [← htranscriptEq] at hprocess
    cases hprocess
    exact hnext

theorem processMessage_step
    (hprocess : handshake.processMessage crypto message = .ok (next, action)) :
    Step crypto handshake message next action := by
  unfold processMessage at hprocess
  revert hprocess
  fun_cases processSingleMessage with
  | case2 hstate htype => exact processServerHello_step hstate (Decidable.not_not.mp htype)
  | case3 hstate => exact processCertificate_step (.inr ⟨hstate, rfl⟩)
  | case4 hstate =>
    rintro ⟨⟩
    exact .hashed (.inl hstate)
  | case7 hstate => exact processCertificate_step (.inl hstate)
  | case8 hstate => exact processServerKeyExchange_step hstate
  | case9 hstate =>
    rintro ⟨⟩
    exact .hashed (.inr hstate)
  | case10 hstate => exact processServerHelloDone_step (.inl hstate)
  | case12 hstate =>
    rintro ⟨⟩
    exact .certificateRequest hstate
  | case13 hstate => exact processServerHelloDone_step (.inr hstate)
  | _ => exact nofun

end Code

/-! ## Records -/

/-- The steps of whole messages in turn, up to the first that asks for the client flight. -/
inductive Steps (crypto : Primitives) : Tls12Handshake → List Bytes → Tls12Handshake →
    Tls12HandshakeAction → Prop
  | nil (handshake : Tls12Handshake) : Steps crypto handshake [] handshake .continueReading
  | stop {handshake next : Tls12Handshake} {message : Bytes} {flight : Tls12ClientFlight}
      (hstep : Step crypto handshake message next (.sendClientFlight flight))
      (dropped : List Bytes) :
      Steps crypto handshake (message :: dropped) next (.sendClientFlight flight)
  | cons {handshake middle next : Tls12Handshake} {action : Tls12HandshakeAction}
      {message : Bytes} {messages : List Bytes}
      (hstep : Step crypto handshake message middle .continueReading)
      (hrest : Steps crypto middle messages next action) :
      Steps crypto handshake (message :: messages) next action

section Records

variable {crypto : Primitives} {handshake next : Tls12Handshake} {action : Tls12HandshakeAction}
  {messages : List Bytes}

theorem feedMessages_steps (hfeed : handshake.feedMessages crypto messages = .ok (next, action)) :
    Steps crypto handshake messages next action := by
  induction messages generalizing handshake with
  | nil =>
    cases hfeed
    exact .nil _
  | cons message messages ih =>
    obtain ⟨⟨middle, between⟩, hprocess, hrest⟩ := bind_eq_ok.mp hfeed
    have hstep := processMessage_step hprocess
    cases between with
    | continueReading => exact .cons hstep (ih hrest)
    | sendClientFlight flight =>
      cases hrest
      exact .stop hstep messages
    | sendAbbreviatedFlight flight => cases hstep
    | complete keys => cases hstep

/-- The whole messages of some bytes that are processed are steps. -/
theorem processHandshakeRecord_steps {data : Bytes}
    (hprocess : handshake.processHandshakeRecord crypto (wholeMessages data).flatten =
      .ok (next, action)) : Steps crypto handshake (wholeMessages data) next action := by
  rw [processHandshakeRecord_eq (messageRest_wholeMessages data),
    wholeMessages_wholeMessages] at hprocess
  exact feedMessages_steps hprocess

/-- The client flight comes from a ServerHelloDone. -/
theorem Steps.flight {flight : Tls12ClientFlight}
    (hsteps : Steps crypto handshake messages next (.sendClientFlight flight)) :
    ∃ first message dropped held values, messages = first ++ message :: dropped ∧
      Steps crypto handshake first held .continueReading ∧
      DoneStep crypto held message values ∧
      next = held.doneState crypto message values ∧
      flight = held.doneFlight crypto message values := by
  generalize haction : Tls12HandshakeAction.sendClientFlight flight = action at hsteps
  induction hsteps with
  | nil => cases haction
  | stop hstep dropped =>
    cases haction
    cases hstep with
    | serverHelloDone hstate hdone =>
      exact ⟨[], _, dropped, _, _, rfl, .nil _, hdone, rfl, rfl⟩
  | cons hstep hrest ih =>
    obtain ⟨first, message, dropped, held, values, rfl, hfirst, hdone, rfl, rfl⟩ := ih haction
    exact ⟨_ :: first, message, dropped, held, values, rfl, .cons hstep hfirst, hdone, rfl, rfl⟩

/-- The rule of invariants for the messages of a record. -/
theorem Steps.induct (hsteps : Steps crypto handshake messages next action)
    (invariant : Tls12Handshake → Prop) (hstart : invariant handshake)
    (hstep : ∀ state message after action, invariant state →
      Step crypto state message after action → invariant after) : invariant next := by
  induction hsteps with
  | nil => exact hstart
  | stop hlast dropped => exact hstep _ _ _ _ hstart hlast
  | cons hfirst _ ih => exact ih (hstep _ _ _ _ hstart hfirst)

end Records

/-! ## Changes of ciphers and Finished messages -/

section Finished

variable {crypto : Primitives} {handshake next : Tls12Handshake} {finishedBody : Bytes}

/-- A server Finished that has been checked against the transcript so far. -/
structure VerifiedFinished (crypto : Primitives) (handshake : Tls12Handshake)
    (finishedBody masterSecret verifyData : Bytes) (transcript : TranscriptHash) : Prop where
  masterSecret_eq : handshake.masterSecret = some masterSecret
  transcript_eq : handshake.transcript = some transcript
  verifyData_eq : verifyData = computeVerifyData crypto handshake.prfAlgorithm masterSecret
    "server finished" (transcript.currentHash crypto)
  body_eq : finishedBody = verifyData ∨ finishedBody.drop 4 = verifyData ∧
    byteAt finishedBody 0 = HandshakeType.finished

theorem checkServerFinished_ok {errors : FinishedErrors} {masterSecret verifyData : Bytes}
    (hcheck : handshake.checkServerFinished crypto errors finishedBody =
      .ok (masterSecret, verifyData)) :
    ∃ transcript, VerifiedFinished crypto handshake finishedBody masterSecret verifyData
      transcript := by
  obtain ⟨secret, hsecret, hcheck⟩ := bind_eq_ok.mp hcheck
  obtain ⟨transcript, htranscript, hcheck⟩ := bind_eq_ok.mp hcheck
  obtain ⟨data, hdata, hcheck⟩ := bind_eq_ok.mp hcheck
  obtain ⟨hequal, hcheck⟩ := guard_eq_ok.mp hcheck
  cases hcheck
  refine ⟨transcript, orMalformed_eq_ok.mp hsecret, orMalformed_eq_ok.mp htranscript,
    Decidable.not_not.mp hequal, ?_⟩
  unfold finishedVerifyData at hdata
  split at hdata
  next hmessage =>
    cases hdata
    exact .inr ⟨rfl, hmessage.2⟩
  · split at hdata
    · cases hdata
      exact .inl rfl
    · cases hdata

theorem processServerFinished_ok {action : Tls12HandshakeAction}
    (hprocess : handshake.processServerFinished crypto finishedBody = .ok (next, action)) :
    ∃ masterSecret verifyData transcript,
      VerifiedFinished crypto handshake finishedBody masterSecret verifyData transcript ∧
      next = { handshake with state := .connected } := by
  unfold processServerFinished at hprocess
  obtain ⟨-, hprocess⟩ := guard_eq_ok.mp hprocess
  obtain ⟨⟨masterSecret, verifyData⟩, hcheck, hprocess⟩ := bind_eq_ok.mp hprocess
  obtain ⟨suite, hsuite, hprocess⟩ := bind_eq_ok.mp hprocess
  cases hprocess
  obtain ⟨transcript, hverified⟩ := checkServerFinished_ok hcheck
  exact ⟨masterSecret, verifyData, transcript, hverified, rfl⟩

theorem acceptAbbreviatedCcs_ok {keys : Tls12TrafficKeys}
    (haccept : handshake.acceptAbbreviatedCcs crypto = .ok (next, keys)) :
    ∃ masterSecret, next = { handshake with
      resumedMasterSecret := none
      masterSecret := some masterSecret
      abbreviated := true
      state := .waitServerFinished } := by
  unfold acceptAbbreviatedCcs at haccept
  obtain ⟨-, haccept⟩ := guard_eq_ok.mp haccept
  obtain ⟨masterSecret, -, haccept⟩ := bind_eq_ok.mp haccept
  obtain ⟨suite, -, haccept⟩ := bind_eq_ok.mp haccept
  cases haccept
  exact ⟨masterSecret, rfl⟩

theorem processAbbreviatedServerFinished_ok {flight : Tls12AbbreviatedFlight}
    (hprocess : handshake.processAbbreviatedServerFinished crypto finishedBody =
      .ok (next, flight)) :
    ∃ masterSecret verifyData transcript,
      VerifiedFinished crypto handshake finishedBody masterSecret verifyData transcript ∧
      flight.clientFinished = handshakeMessage HandshakeType.finished
        (computeVerifyData crypto handshake.prfAlgorithm masterSecret "client finished"
          ((transcript.update
            (handshakeMessage HandshakeType.finished verifyData)).currentHash crypto)) ∧
      next = { handshake.feedHandshakeMessage
        (handshakeMessage HandshakeType.finished verifyData) with state := .connected } := by
  unfold processAbbreviatedServerFinished at hprocess
  obtain ⟨-, hprocess⟩ := guard_eq_ok.mp hprocess
  obtain ⟨⟨masterSecret, verifyData⟩, hcheck, hprocess⟩ := bind_eq_ok.mp hprocess
  obtain ⟨updated, hupdated, hprocess⟩ := bind_eq_ok.mp hprocess
  obtain ⟨suite, -, hprocess⟩ := bind_eq_ok.mp hprocess
  cases hprocess
  obtain ⟨transcript, hverified⟩ := checkServerFinished_ok hcheck
  have hfed := orMalformed_eq_ok.mp hupdated
  rw [feedHandshakeMessage, hverified.transcript_eq] at hfed
  cases hfed
  exact ⟨masterSecret, verifyData, transcript, hverified, rfl, rfl⟩

end Finished

end Tls12Handshake

end LkRequest.Handshake
