import LkRequest.Handshake.Tls13Steps

/-!
# Runs of the TLS 1.3 engine

A run builds the first hello and processes records one after the other. Beside the handshake it
keeps the log of what was sent and received: the messages of each record, and a second hello only
if the action of its record hands it out. Before that, for each part of a step, the fields that it
changes.
-/

namespace LkRequest.Handshake

open Library Crypto Profile Hello Session Verify

namespace Tls13Handshake

/-! ## What the parts of a step change -/

section Fields

variable {crypto : Primitives} {handshake next : Tls13Handshake}

variable {hello : ServerHello} {hkdf : HkdfAlgorithm} {message : Bytes} {aead : AeadAlgorithm}
  {saw replaceKeyShare : Bool} {cookie : Option Bytes} {ch2 : Bytes}

/-- What the checks on a ServerHello establish about its suite. -/
theorem checkServerHello_ok (hcheck : handshake.checkServerHello hello = .ok (hkdf, aead)) :
    cipherSuiteInfo hello.cipherSuite = .ok (hkdf, aead) ∧
      (handshake.hrrReceived = true → ∀ previous, handshake.cipherSuite = some previous →
        previous = hello.cipherSuite) := by
  rw [checkServerHello] at hcheck
  obtain ⟨-, hcheck⟩ := guard_eq_ok.mp hcheck
  obtain ⟨-, hcheck⟩ := guard_eq_ok.mp hcheck
  obtain ⟨-, hcheck⟩ := guard_eq_ok.mp hcheck
  obtain ⟨info, hinfo, hcheck⟩ := bind_eq_ok.mp hcheck
  obtain ⟨-, hcheck⟩ := guard_eq_ok.mp hcheck
  split at hcheck
  next previous hretry hprevious =>
    obtain ⟨hkept, hpure⟩ := guard_eq_ok.mp hcheck
    cases hpure
    refine ⟨hinfo, fun _ other hother => ?_⟩
    cases hprevious.symm.trans hother
    exact not_not.mp hkept
  next hnone =>
    cases hcheck
    exact ⟨hinfo, fun hretry previous hprevious => absurd hprevious (hnone previous hretry)⟩

theorem selectPsk_eq (hselect : handshake.selectPsk hello hkdf = .ok next) :
    ∃ accepted, next = { handshake with pskAccepted := accepted } := by
  revert hselect
  fun_cases selectPsk with
  | case1 | case3 =>
    rintro ⟨⟩
    exact ⟨_, rfl⟩
  | _ => exact nofun

theorem computeSharedSecret_eq {secret : Bytes}
    (hexchange : handshake.computeSharedSecret crypto hello = .ok (next, secret)) :
    ∃ keyPairs, next = { handshake with keyPairs := keyPairs } := by
  revert hexchange
  fun_cases computeSharedSecret with
  | case4 =>
    intro hexchange
    obtain ⟨_, _, hpure⟩ := bind_eq_ok.mp hexchange
    cases hpure
    exact ⟨_, rfl⟩
  | _ => exact nofun

/-- The handshake secrets are derived from the transcript as it stands. -/
theorem deriveHandshakeKeys_eq {shared : Bytes} {keys : HandshakeKeys}
    (hderive : handshake.deriveHandshakeKeys crypto hkdf aead shared = .ok (next, keys)) :
    ∃ transcript secret clientSecret serverSecret earlySecret,
      handshake.transcript = some transcript ∧
      (handshake.earlySecret crypto hkdf).deriveNext crypto shared = .ok secret ∧
      secret.deriveSecret crypto "c hs traffic" (transcript.currentHash crypto) = .ok clientSecret ∧
      secret.deriveSecret crypto "s hs traffic" (transcript.currentHash crypto) = .ok serverSecret ∧
      keys.clientSecret = clientSecret ∧ keys.serverSecret = serverSecret ∧
      next = { handshake with
        earlySecretFromPsk := earlySecret
        handshakeSecret := some secret
        clientHsTrafficSecret := some clientSecret
        serverHsTrafficSecret := some serverSecret } := by
  obtain ⟨secret, hsecret, hderive⟩ := bind_eq_ok.mp hderive
  obtain ⟨transcript, htranscript, hderive⟩ := bind_eq_ok.mp hderive
  obtain ⟨clientSecret, hclient, hderive⟩ := bind_eq_ok.mp hderive
  obtain ⟨serverSecret, hserver, hderive⟩ := bind_eq_ok.mp hderive
  obtain ⟨_, _, hderive⟩ := bind_eq_ok.mp hderive
  obtain ⟨_, _, hderive⟩ := bind_eq_ok.mp hderive
  cases hderive
  exact ⟨transcript, secret, clientSecret, serverSecret, _, orMalformed_eq_ok.mp htranscript,
    hsecret, hclient, hserver, rfl, rfl, rfl⟩

/-- Without an inner hello nothing changes; with one, the flag and the transcript follow the
confirmation in the ServerHello, which a confirmation in a retry has to agree with. -/
theorem confirmEch_cases (hconfirm : handshake.confirmEch crypto message hello hkdf = .ok next) :
    (¬ (handshake.echOffered = true ∧ handshake.echInnerHello.isSome) ∧ next = handshake) ∨
    ∃ inner accepted, handshake.echOffered = true ∧ handshake.echInnerHello = some inner ∧
      handshake.checkEchAcceptance crypto hkdf inner message hello.random = .ok accepted ∧
      (∀ earlier, handshake.echHrrAccepted = some earlier → earlier = accepted) ∧
      next = if accepted then
        { handshake with
          echAccepted := true
          transcript := some (handshake.rebuildTranscript crypto hkdf inner message)
          bufferedClientHello := none }
        else handshake := by
  unfold confirmEch at hconfirm
  split at hconfirm
  next inner hoffered hinner =>
    right
    obtain ⟨accepted, hcheck, hconfirm⟩ := bind_eq_ok.mp hconfirm
    obtain ⟨hsame, hconfirm⟩ := guard_eq_ok.mp hconfirm
    refine ⟨inner, accepted, hoffered, hinner, hcheck, ?_, ?_⟩
    · intro earlier hearlier
      rw [hearlier] at hsame
      simpa using hsame
    · cases accepted <;> cases hconfirm <;> rfl
  next hnone =>
    left
    cases hconfirm
    refine ⟨fun hboth => ?_, rfl⟩
    obtain ⟨inner, hinner⟩ := Option.isSome_iff_exists.mp hboth.2
    exact hnone inner hboth.1 hinner

/-- The fields that EncryptedExtensions set. -/
def Extended (handshake next : Tls13Handshake) : Prop :=
  ∃ alpn alpsData alpsCodePoint retryConfigs early params, next = { handshake with
    negotiatedAlpn := alpn
    serverAlpsData := alpsData
    alpsCodePoint := alpsCodePoint
    echRetryConfigs := retryConfigs
    earlyDataAccepted := early
    peerQuicTransportParams := params }

theorem applyEncryptedExtension_eq {extType : UInt16} {data : Bytes}
    (happly : handshake.applyEncryptedExtension crypto extType data = .ok (next, saw)) :
    handshake.Extended next := by
  unfold applyEncryptedExtension at happly
  split_ifs at happly
  iterate 5
    · cases happly
      exact ⟨_, _, _, _, _, _, rfl⟩
  · obtain ⟨params, _, hpure⟩ := bind_eq_ok.mp happly
    cases hpure
    exact ⟨_, _, _, _, _, _, rfl⟩
  · cases happly
    exact ⟨_, _, _, _, _, _, rfl⟩

theorem applyEncryptedExtensions_eq {fuel : Nat} {sawNext : Bool} {block : Bytes}
    (happly : applyEncryptedExtensions crypto fuel handshake saw block = .ok (next, sawNext)) :
    handshake.Extended next := by
  induction fuel generalizing handshake saw block with
  | zero =>
    cases happly
    exact ⟨_, _, _, _, _, _, rfl⟩
  | succ fuel ih =>
    simp only [applyEncryptedExtensions] at happly
    split_ifs at happly
    · cases happly
      exact ⟨_, _, _, _, _, _, rfl⟩
    · cases happly
      exact ⟨_, _, _, _, _, _, rfl⟩
    · obtain ⟨⟨middle, sawOne⟩, hone, hrest⟩ := bind_eq_ok.mp happly
      obtain ⟨_, _, _, _, _, _, rfl⟩ := applyEncryptedExtension_eq hone
      obtain ⟨_, _, _, _, _, _, rfl⟩ := ih hrest
      exact ⟨_, _, _, _, _, _, rfl⟩

theorem finishHello_eq {offered : Bool} {ch : Bytes}
    {transcriptPrefix : Option TranscriptHash} {hello : Nat}
    (hfinish : handshake.finishHello crypto offered message transcriptPrefix hello =
      .ok (next, ch)) :
    ∃ earlySecret, next = { handshake with earlySecretFromPsk := earlySecret } := by
  revert hfinish
  fun_cases finishHello with
  | case1 | case2 =>
    rintro ⟨⟩
    exact ⟨_, rfl⟩
  | case3 =>
    intro hfinish
    obtain ⟨_, _, hfinish⟩ := bind_eq_ok.mp hfinish
    obtain ⟨_, _, hfinish⟩ := bind_eq_ok.mp hfinish
    obtain ⟨_, _, hfinish⟩ := bind_eq_ok.mp hfinish
    cases hfinish
    exact ⟨_, rfl⟩

/-- The handshake that has built the output of a second hello. -/
def withRetryOutput (handshake : Tls13Handshake) (output : ClientHelloOutput)
    (echRetryState : Option EchRetryState) : Tls13Handshake :=
  { handshake with
    echRetryState := echRetryState
    hrrInnerCh2 := if output.echOffered then output.innerHello else handshake.hrrInnerCh2 }

/-- A second hello is built once, with or without a new key share. -/
theorem buildClientHelloRetry_eq
    (hbuild : handshake.buildClientHelloRetry crypto cookie replaceKeyShare = .ok (next, ch2)) :
    ∃ echRetryState innerCh2 earlySecret, next = { handshake with
      echRetryState := echRetryState
      hrrInnerCh2 := innerCh2
      earlySecretFromPsk := earlySecret } := by
  obtain ⟨random, -, hbuild⟩ := bind_eq_ok.mp hbuild
  obtain ⟨sessionId, -, hbuild⟩ := bind_eq_ok.mp hbuild
  obtain ⟨offer, -, hbuild⟩ := bind_eq_ok.mp hbuild
  cases replaceKeyShare with
  | true | false =>
    obtain ⟨⟨output, echRetryState⟩, -, hbuild⟩ := bind_eq_ok.mp hbuild
    have hfinish : (handshake.withRetryOutput output echRetryState).finishHello crypto
      output.echOffered output.message handshake.transcript 1 = .ok (next, ch2) := hbuild
    obtain ⟨earlySecret, rfl⟩ := finishHello_eq hfinish
    exact ⟨_, _, _, rfl⟩

/-- What a first hello leaves in the handshake. -/
theorem buildClientHello_eq (hbuild : handshake.buildClientHello crypto = .ok (next, message)) :
    ∃ output earlySecret,
      (handshake.firstBuilder crypto).buildWithPskHint crypto handshake.pskExtraLen = .ok output ∧
      next = { handshake.rememberHello output with
        earlySecretFromPsk := earlySecret
        bufferedClientHello := some message
        state := .waitServerHello } := by
  rw [buildClientHello] at hbuild
  obtain ⟨_, hbuild⟩ := guard_eq_ok.mp hbuild
  obtain ⟨output, houtput, hbuild⟩ := bind_eq_ok.mp hbuild
  obtain ⟨_, hbuild⟩ := guard_eq_ok.mp hbuild
  obtain ⟨⟨finished, ch⟩, hfinish, hbuild⟩ := bind_eq_ok.mp hbuild
  obtain ⟨earlySecret, rfl⟩ := finishHello_eq hfinish
  cases hbuild
  exact ⟨output, earlySecret, houtput, rfl⟩

end Fields

/-! ## Runs -/

/-- What is set on a handshake before its first hello. -/
structure Settings where
  profile : TlsProfile
  hostname : String
  verificationPolicy : VerificationPolicy
  customCaAnchors : List Bytes
  alpsPayload : Option Bytes
  echConfigList : Option Bytes
  quicMode : Bool
  quicTransportParameters : Option Bytes
  pskTicket : Option SessionTicketData
  tls12SessionTicketData : Option Bytes

def Settings.handshake (settings : Settings) : Tls13Handshake :=
  { profile := settings.profile
    hostname := settings.hostname
    verificationPolicy := settings.verificationPolicy
    customCaAnchors := settings.customCaAnchors
    alpsPayload := settings.alpsPayload
    echConfigList := settings.echConfigList
    quicMode := settings.quicMode
    quicTransportParameters := settings.quicTransportParameters
    pskTicket := settings.pskTicket
    tls12SessionTicketData := settings.tls12SessionTicketData }

/-- A message that was sent or received; a ClientHello comes with its inner hello, if it has one. -/
inductive Logged where
  | hello (message : Bytes) (inner : Option Bytes)
  | received (message : Bytes)

/-- The ClientHello that an action hands out. -/
def helloSent (handshake : Tls13Handshake) : HandshakeAction → List Logged
  | .retryClientHello ch2 => [.hello ch2 handshake.hrrInnerCh2]
  | _ => []

@[simp]
theorem helloSent_continueReading (handshake : Tls13Handshake) :
    handshake.helloSent .continueReading = [] := rfl

/-- The handshakes that records can lead to, with the records and the log. -/
inductive EngineRun (crypto : Primitives) (settings : Settings) :
    List Bytes → List Logged → Tls13Handshake → Prop
  | start {handshake : Tls13Handshake} {message : Bytes}
      (hbuild : settings.handshake.buildClientHello crypto = .ok (handshake, message)) :
      EngineRun crypto settings [] [.hello message handshake.echInnerHello] handshake
  | record {records : List Bytes} {log : List Logged} {handshake next : Tls13Handshake}
      {data : Bytes} {action : HandshakeAction}
      (hrun : EngineRun crypto settings records log handshake)
      (hprocess : handshake.processHandshakeRecord crypto data = .ok (next, action)) :
      EngineRun crypto settings (records ++ [data])
        (log ++ (wholeMessages data).map .received ++ next.helloSent action) next

/-- A HelloRetryRequest as it stands in a message. -/
def isRetryRequest (message : Bytes) : Bool :=
  byteAt message 0 == HandshakeType.serverHello &&
    match parseServerHello (message.drop 4) with
    | .ok hello => hello.isHelloRetryRequest
    | .error _ => false

/-- No message follows a HelloRetryRequest within the record. -/
def RetriesLast (data : Bytes) : Prop :=
  ∀ message ∈ (wholeMessages data).dropLast, isRetryRequest message = false

end Tls13Handshake

end LkRequest.Handshake
