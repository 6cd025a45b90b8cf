import LkRequest.Handshake.Engine
import LkRequest.Handshake.FinalFlight

/-!
# The transcript of a TLS 1.3 handshake

`transcriptOf` is the transcript of RFC 8446 and RFC 9849 over the log of a run: all messages in
order, the first hello replaced by its hash if a retry follows, and inner hellos for sent ones if
the server accepted ECH. The engine keeps a digest context instead, which it starts late and
rebuilds on two paths; `Hashed` relates the two.
-/

namespace LkRequest.Handshake.Tls13Handshake

open Library Crypto Profile Hello Session Verify List Option

/-! ## The specification -/

/-- The bytes of a message in the transcript. -/
def Logged.bytes (accepted : Bool) : Logged → Bytes
  | .hello message inner => if accepted then inner.getD message else message
  | .received message => message

def transcriptOf (crypto : Primitives) (algorithm : HashAlgorithm) (accepted : Bool) :
    List Logged → Bytes
  | .hello message inner :: .received answer :: rest =>
    let first := (Logged.hello message inner).bytes accepted
    (if isRetryRequest answer then messageHash (crypto.digest algorithm first) else first) ++
      answer ++ rest.flatMap (Logged.bytes accepted)
  | log => log.flatMap (Logged.bytes accepted)

/-- The hash of the messages of a log and of later ones. -/
def logHash (crypto : Primitives) (hkdf : HkdfAlgorithm) (accepted : Bool) (log : List Logged)
    (later : List Bytes) : Bytes :=
  crypto.digest hkdf.hash (transcriptOf crypto hkdf.hash accepted log ++ later.flatten)

/-- The secret that a key of the schedule gives under a label for a transcript hash. -/
def SecretOver (crypto : Primitives) (key : HkdfPrk) (label : String) (hash secret : Bytes) :
    Prop :=
  crypto.hkdfExpand key.algorithm.hash key.prk
    (buildHkdfLabel label hash key.algorithm.hashLen) key.algorithm.hashLen = some secret

/-- The `verify_data` of a Finished for a transcript hash. -/
def FinishedOver (crypto : Primitives) (hkdf : HkdfAlgorithm) (secret hash verifyData : Bytes) :
    Prop :=
  ∃ key, crypto.hkdfExpand hkdf.hash secret (buildHkdfLabel "finished" [] hkdf.hashLen)
    hkdf.hashLen = some key ∧ verifyData = crypto.hmac hkdf.hash key hash

/-- A signature under the key of a certificate for a transcript hash. -/
def SignedOver (crypto : Primitives) (leaf hash signature : Bytes) : Prop :=
  ∃ spki extract publicKey algorithm, extractSpkiFromCert leaf = .ok spki ∧
    extract ∈ [extractRsaPublicKeyFromSpki, extractEcPointFromSpki] ∧
    extract spki = .ok publicKey ∧
    crypto.verifySignature algorithm publicKey (replicate 64 0x20 ++
      utf8 "TLS 1.3, server CertificateVerify" ++ [0x00] ++ hash) signature = true

/-- The values of a Finished exchange, where `hashOf later` is the hash of the messages before the
server Finished `message` and of the later ones. -/
structure FinishedHashes (crypto : Primitives) (hkdf : HkdfAlgorithm)
    (hashOf : List Bytes → Bytes) (held : Tls13Handshake) (message : Bytes)
    (complete : HandshakeComplete) : Prop where
  server : ∃ secret, held.serverHsTrafficSecret = some secret ∧
    FinishedOver crypto hkdf secret (hashOf []) (message.drop 4)
  client : ∃ secret verifyData, held.clientHsTrafficSecret = some secret ∧
    complete.clientFinished = handshakeMessage HandshakeType.finished verifyData ∧
    FinishedOver crypto hkdf secret (hashOf (message ::
      (complete.clientEncryptedExtensions.toList ++ complete.clientCertificate.toList)))
      verifyData
  secrets : ∃ handshakeSecret master, held.handshakeSecret = some handshakeSecret ∧
    handshakeSecret.deriveNext crypto (replicate hkdf.hashLen 0) = .ok master ∧
    SecretOver crypto master "c ap traffic" (hashOf [message])
      complete.trafficSecrets.clientAppSecret ∧
    SecretOver crypto master "s ap traffic" (hashOf [message])
      complete.trafficSecrets.serverAppSecret ∧
    SecretOver crypto master "exp master" (hashOf [message])
      complete.trafficSecrets.exporterMasterSecret ∧
    SecretOver crypto master "res master" (hashOf (message :: complete.messages))
      complete.resumptionMasterSecret

/-- What the engine takes out of a message, as far as a transcript hash goes into it: `hashOf later`
is the hash of the messages before `message` and of the later ones. -/
structure UsesHashes (crypto : Primitives) (hkdf : HkdfAlgorithm) (hashOf : List Bytes → Bytes)
    (held next : Tls13Handshake) (message : Bytes) (action : HandshakeAction) : Prop where
  handshakeSecrets : ∀ keys, action = .installHandshakeKeys keys →
    ∃ secret, next.handshakeSecret = some secret ∧
      SecretOver crypto secret "c hs traffic" (hashOf [message]) keys.clientSecret ∧
      SecretOver crypto secret "s hs traffic" (hashOf [message]) keys.serverSecret ∧
      next.clientHsTrafficSecret = some keys.clientSecret ∧
      next.serverHsTrafficSecret = some keys.serverSecret
  certificateVerify : held.state = .waitCertificateVerify → held.verificationPolicy = .strict →
    ∃ leaf, held.serverCertificates.head? = some leaf ∧ SignedOver crypto leaf (hashOf [])
      (slice (message.drop 4) 4 (4 + u16At (message.drop 4) 2))
  finished : ∀ complete, action = .complete complete →
    FinishedHashes crypto hkdf hashOf held message complete

/-! ## The invariant -/

/-- The suite that a handshake has negotiated, with its hash. -/
def Negotiated (handshake : Tls13Handshake) (hkdf : HkdfAlgorithm) : Prop :=
  handshake.hkdfAlgorithm = some hkdf ∧
    ∃ suite aead, handshake.cipherSuite = some suite ∧ cipherSuiteInfo suite = .ok (hkdf, aead)

/-- What the digest context and the kept copies have to do with the log: before any answer, between
a retry and the ServerHello, and after the ServerHello. -/
inductive Hashed (crypto : Primitives) : List Logged → Tls13Handshake → Prop
  | first {handshake : Tls13Handshake} {message : Bytes} {inner : Option Bytes}
      (hstate : handshake.state = .waitServerHello) (hretry : handshake.hrrReceived = false)
      (hbuffered : handshake.bufferedClientHello = some message)
      (haccepted : handshake.echAccepted = false) (hinner : handshake.echInnerHello = inner) :
      Hashed crypto [.hello message inner] handshake
  | retried {handshake : Tls13Handshake} {message retry second : Bytes} {hkdf : HkdfAlgorithm}
      {inner innerSecond : Option Bytes} (hstate : handshake.state = .waitServerHello)
      (hretry : handshake.hrrReceived = true)
      (hrequest : isRetryRequest retry = true) (hraw : handshake.hrrRawBytes = some retry)
      (htranscript : handshake.transcript = some ⟨hkdf.hash,
        messageHash (crypto.digest hkdf.hash message) ++ retry ++ second⟩)
      (hnegotiated : handshake.Negotiated hkdf) (haccepted : handshake.echAccepted = false)
      (hinner : handshake.echInnerHello = inner)
      (hinnerSecond : handshake.hrrInnerCh2 = innerSecond) :
      Hashed crypto [.hello message inner, .received retry, .hello second innerSecond] handshake
  | answered {handshake : Tls13Handshake} {log : List Logged} {hkdf : HkdfAlgorithm}
      (hstate : handshake.state ≠ .waitServerHello)
      (hlog : ∃ message inner answer rest, log = .hello message inner :: .received answer :: rest)
      (htranscript : handshake.transcript = some ⟨hkdf.hash,
        transcriptOf crypto hkdf.hash handshake.echAccepted log⟩)
      (hnegotiated : handshake.Negotiated hkdf) : Hashed crypto log handshake
  | connected {handshake : Tls13Handshake} {log : List Logged}
      (hstate : handshake.state = .connected) : Hashed crypto log handshake

section Steps

variable {crypto : Primitives} {log : List Logged} {held next : Tls13Handshake} {message : Bytes}
  {action : HandshakeAction} {algorithm : HashAlgorithm} {accepted : Bool} {hello : Bytes}
  {hkdf : HkdfAlgorithm} {exchanged : Tls13Handshake} {keyPairs : List EphemeralKeyPair}
  {messages : List Bytes}

theorem transcriptOf_append
    (hlog : ∃ hello inner answer rest, log = .hello hello inner :: .received answer :: rest)
    (logged : Logged) : transcriptOf crypto algorithm accepted (log ++ [logged]) =
      transcriptOf crypto algorithm accepted log ++ logged.bytes accepted := by
  obtain ⟨hello, inner, answer, rest, rfl⟩ := hlog
  simp [transcriptOf]

theorem transcriptOf_first {inner : Option Bytes} (hanswer : isRetryRequest message = false) :
    transcriptOf crypto algorithm accepted ([.hello hello inner] ++ [.received message]) =
      transcriptOf crypto algorithm accepted [.hello hello inner] ++ message := by
  simp [transcriptOf, hanswer]

theorem isRetryRequest_eq {hello : ServerHello}
    (hparse : parseServerHello (message.drop 4) = .ok hello)
    (htype : byteAt message 0 = HandshakeType.serverHello) :
    isRetryRequest message = hello.isHelloRetryRequest := by
  simp [isRetryRequest, hparse, htype]

/-- The kept copies of a retry are there when the confirmation is checked. -/
theorem exists_of_checkEchAcceptance {inner random : Bytes}
    (hcheck : held.checkEchAcceptance crypto hkdf inner message random = .ok accepted)
    (hretry : held.hrrReceived = true) : ∃ second, held.hrrInnerCh2 = some second := by
  obtain ⟨transcript, htranscript, -⟩ := bind_eq_ok.mp hcheck
  rw [innerTranscript, if_pos hretry] at htranscript
  obtain ⟨retry, _, htranscript⟩ := bind_eq_ok.mp htranscript
  obtain ⟨second, hsecond, _⟩ := bind_eq_ok.mp htranscript
  exact ⟨second, orMalformed_eq_ok.mp hsecond⟩

/-- The context of an unconfirmed handshake over the sent hellos, and the one that would be rebuilt
over the inner hellos. -/
structure BothContexts (crypto : Primitives) (log : List Logged) (message : Bytes)
    (hkdf : HkdfAlgorithm) (exchanged : Tls13Handshake) : Prop where
  sent : exchanged.transcript = some ⟨hkdf.hash, transcriptOf crypto hkdf.hash false log ++ message⟩
  accepted : exchanged.echAccepted = false
  rebuilt : ∀ inner random confirmed, exchanged.echInnerHello = some inner →
    exchanged.checkEchAcceptance crypto hkdf inner message random = .ok confirmed →
    exchanged.rebuildTranscript crypto hkdf inner message =
      ⟨hkdf.hash, transcriptOf crypto hkdf.hash true log ++ message⟩

theorem BothContexts.confirmed {hello : ServerHello} {confirmed : Tls13Handshake}
    (hboth : BothContexts crypto log message hkdf exchanged)
    (hconfirm : exchanged.confirmEch crypto message hello hkdf = .ok confirmed) :
    confirmed.transcript = some ⟨hkdf.hash,
        transcriptOf crypto hkdf.hash confirmed.echAccepted log ++ message⟩ ∧
      confirmed.hkdfAlgorithm = exchanged.hkdfAlgorithm ∧
      confirmed.cipherSuite = exchanged.cipherSuite := by
  rcases confirmEch_cases hconfirm with ⟨_, rfl⟩ | ⟨inner, accepted, _, hinner, hcheck, _, rfl⟩
  · rw [hboth.accepted]
    exact ⟨hboth.sent, rfl, rfl⟩
  · cases accepted with
    | false =>
      rw [if_neg Bool.false_ne_true, hboth.accepted]
      exact ⟨hboth.sent, rfl, rfl⟩
    | true =>
      exact ⟨congrArg some (hboth.rebuilt inner _ _ hinner hcheck), rfl, rfl⟩

/-- Without a retry the context is started from the buffered hello. -/
theorem bothContexts_first (held : Tls13Handshake) (hretry : held.hrrReceived = false)
    (hbuffered : held.bufferedClientHello = some hello) (haccepted : held.echAccepted = false) :
    BothContexts crypto [.hello hello held.echInnerHello] message hkdf
      { held.startTranscript message hkdf with keyPairs := keyPairs } := by
  have hstarted : held.startTranscript message hkdf = { held with
      transcript := some ⟨hkdf.hash, hello ++ message⟩
      bufferedClientHello := none } := by
    simp [startTranscript, hretry, hbuffered, TranscriptHash.new, TranscriptHash.update]
  rw [hstarted]
  constructor
  · simp [transcriptOf, Logged.bytes]
  · exact haccepted
  · intro inner random confirmed hinner _
    simp [rebuildTranscript, hretry, TranscriptHash.new, TranscriptHash.update, transcriptOf,
      Logged.bytes, show held.echInnerHello = some inner from hinner]

/-- After a retry the context is fed with the ServerHello, or rebuilt from the kept copies. -/
theorem bothContexts_retried (held : Tls13Handshake) {retry second : Bytes}
    (hretry : held.hrrReceived = true)
    (hrequest : isRetryRequest retry = true) (hraw : held.hrrRawBytes = some retry)
    (htranscript : held.transcript = some ⟨hkdf.hash,
      messageHash (crypto.digest hkdf.hash hello) ++ retry ++ second⟩)
    (haccepted : held.echAccepted = false) :
    BothContexts crypto [.hello hello held.echInnerHello, .received retry,
      .hello second held.hrrInnerCh2] message hkdf
      { held.startTranscript message hkdf with keyPairs := keyPairs } := by
  have hstarted : held.startTranscript message hkdf = { held with
      transcript := some ⟨hkdf.hash,
        messageHash (crypto.digest hkdf.hash hello) ++ retry ++ second ++ message⟩ } := by
    simp [startTranscript, hretry, hashMessage, htranscript, TranscriptHash.update]
  rw [hstarted]
  constructor
  · simp [transcriptOf, Logged.bytes, hrequest]
  · exact haccepted
  · intro inner random confirmed hinner hcheck
    obtain ⟨innerSecond, hsecond⟩ := exists_of_checkEchAcceptance hcheck hretry
    simp [rebuildTranscript, hretry, hraw, TranscriptHash.new, TranscriptHash.update,
      TranscriptHash.replaceWithMessageHash, TranscriptHash.currentHash, transcriptOf,
      Logged.bytes, hrequest, show held.echInnerHello = some inner from hinner,
      show held.hrrInnerCh2 = some innerSecond from hsecond]

variable (hhashed : Hashed crypto log held)
include hhashed

/-- The context from which the handshake secrets are derived. -/
theorem Hashed.confirmed {hello : ServerHello} {aead : AeadAlgorithm}
    {selected confirmed : Tls13Handshake} {sharedSecret : Bytes}
    (hstate : held.state = .waitServerHello)
    (hcheck : held.checkServerHello hello = .ok (hkdf, aead))
    (hselect : (held.withSuite hello.cipherSuite hkdf aead).selectPsk hello hkdf = .ok selected)
    (hexchange : (selected.startTranscript message hkdf).computeSharedSecret crypto hello =
      .ok (exchanged, sharedSecret))
    (hconfirm : exchanged.confirmEch crypto message hello hkdf = .ok confirmed) :
    confirmed.transcript = some ⟨hkdf.hash,
        transcriptOf crypto hkdf.hash confirmed.echAccepted log ++ message⟩ ∧
      confirmed.Negotiated hkdf := by
  obtain ⟨hinfo, hkept⟩ := checkServerHello_ok hcheck
  obtain ⟨pskAccepted, rfl⟩ := selectPsk_eq hselect
  obtain ⟨keyPairs, rfl⟩ := computeSharedSecret_eq hexchange
  have hboth : BothContexts crypto log message hkdf
      { startTranscript
        { held.withSuite hello.cipherSuite hkdf aead with pskAccepted := pskAccepted }
        message hkdf with keyPairs := keyPairs } := by
    cases hhashed with
    | first _ hretry hbuffered haccepted hinner =>
      rw [← hinner]
      exact bothContexts_first
        { held.withSuite hello.cipherSuite hkdf aead with pskAccepted := pskAccepted }
        hretry hbuffered haccepted
    | retried _ hretry hrequest hraw htranscript hnegotiated haccepted hinner hsecond =>
      rw [← hinner, ← hsecond]
      obtain ⟨-, suite, _, hsuite, hsuiteInfo⟩ := hnegotiated
      obtain rfl := hkept hretry suite hsuite
      obtain ⟨rfl, -⟩ := Prod.mk.inj (Except.ok.inj (hinfo.symm.trans hsuiteInfo))
      exact bothContexts_retried
        { held.withSuite hello.cipherSuite hkdf aead with pskAccepted := pskAccepted }
        hretry hrequest hraw htranscript haccepted
    | answered hlater => exact absurd hstate hlater
    | connected hconnected =>
      cases hconnected.symm.trans hstate
  obtain ⟨htranscript, halgorithm, hsuite⟩ := hboth.confirmed hconfirm
  refine ⟨htranscript, ?_, hello.cipherSuite, aead, ?_, hinfo⟩
  · rw [halgorithm, startTranscript]
    split <;> rfl
  · rw [hsuite, startTranscript]
    split <;> rfl

/-- Between the ServerHello and the end the context is that of the log. -/
theorem Hashed.open (hopen : held.state ≠ .waitServerHello ∧ held.state ≠ .connected) :
    ∃ hkdf, (∃ hello inner answer rest, log = .hello hello inner :: .received answer :: rest) ∧
      held.transcript = some ⟨hkdf.hash, transcriptOf crypto hkdf.hash held.echAccepted log⟩ ∧
      held.Negotiated hkdf := by
  cases hhashed with
  | first hstate _ _ _ _ | retried hstate _ _ _ _ _ _ _ _ => exact absurd hstate hopen.1
  | connected hstate => exact absurd hstate hopen.2
  | answered _ hlog hheld hnegotiated => exact ⟨_, hlog, hheld, hnegotiated⟩

/-- A message after the ServerHello is added to the context. -/
theorem Hashed.hashed (hopen : held.state ≠ .waitServerHello ∧ held.state ≠ .connected)
    (hnext : next.state ≠ .waitServerHello)
    (htranscript : next.transcript = held.transcript.map (·.update message))
    (halgorithm : next.hkdfAlgorithm = held.hkdfAlgorithm)
    (hsuite : next.cipherSuite = held.cipherSuite)
    (haccepted : next.echAccepted = held.echAccepted) :
    Hashed crypto (log ++ [.received message]) next := by
  obtain ⟨hkdf, hlog, hheld, hhkdf, suite, aead, hsome, hinfo⟩ := hhashed.open hopen
  refine .answered hnext ?_ ?_ ⟨halgorithm.trans hhkdf, suite, aead, hsuite.trans hsome, hinfo⟩
  · obtain ⟨hello, inner, answer, rest, rfl⟩ := hlog
    exact ⟨hello, inner, answer, rest ++ [.received message], rfl⟩
  · rw [htranscript, hheld, haccepted, transcriptOf_append hlog]
    rfl

/-- A retry replaces the first hello by its hash. -/
theorem Hashed.retry {ch2 : Bytes} (hstep : Step crypto held message next (.retryClientHello ch2)) :
    Hashed crypto (log ++ [.received message] ++ [.hello ch2 next.hrrInnerCh2]) next := by
  cases hstep with
  | @retry hello hkdf aead _ _ _ _ hstate htype hparse hcheck hretry hfirst _ _ hbuild =>
    obtain ⟨hinfo, _⟩ := checkServerHello_ok hcheck
    obtain ⟨echRetryState, innerCh2, earlySecret, rfl⟩ := buildClientHelloRetry_eq hbuild
    have hrequest : isRetryRequest message = true := (isRetryRequest_eq hparse htype).trans hretry
    cases hhashed with
    | retried _ hagain =>
      cases hfirst.symm.trans hagain
    | answered hlater => exact absurd hstate hlater
    | connected hconnected =>
      cases hconnected.symm.trans hstate
    | first _ _ hbuffered haccepted hinner =>
      refine .retried rfl rfl hrequest rfl ?_ ⟨rfl, _, aead, rfl, hinfo⟩ haccepted hinner rfl
      simp [hashMessage, Tls13Handshake.retried, withSuite, hbuffered, TranscriptHash.new,
        TranscriptHash.update, TranscriptHash.replaceWithMessageHash, TranscriptHash.currentHash]

/-- The ServerHello starts, continues or rebuilds the context. -/
theorem Hashed.serverHello {keys : HandshakeKeys}
    (hstep : Step crypto held message next (.installHandshakeKeys keys)) :
    Hashed crypto (log ++ [.received message]) next := by
  cases hstep with
  | serverHello hstate htype hparse hcheck hretry hselect hexchange hconfirm hderive =>
    obtain ⟨htranscript, hnegotiated⟩ :=
      hhashed.confirmed hstate hcheck hselect hexchange hconfirm
    obtain ⟨_, _, _, _, _, _, _, _, _, _, _, rfl⟩ := deriveHandshakeKeys_eq hderive
    have hanswer : isRetryRequest message = false := (isRetryRequest_eq hparse htype).trans hretry
    cases hhashed with
    | first _ _ _ _ _ =>
      refine .answered (fun heq => by cases heq) ⟨_, _, _, _, rfl⟩ ?_ hnegotiated
      exact htranscript.trans (by rw [transcriptOf_first hanswer])
    | retried _ _ _ _ _ _ _ _ _ =>
      refine .answered (fun heq => by cases heq) ⟨_, _, _, _, rfl⟩ ?_ hnegotiated
      exact htranscript.trans (by rw [transcriptOf_append ⟨_, _, _, _, rfl⟩]; rfl)
    | answered hlater => exact absurd hstate hlater
    | connected hconnected =>
      cases hconnected.symm.trans hstate

/-- Every step keeps the context in line with the log. -/
theorem Hashed.step (hstep : Step crypto held message next action) :
    Hashed crypto (log ++ [.received message] ++ next.helloSent action) next := by
  cases action with
  | retryClientHello ch2 => exact hhashed.retry hstep
  | installHandshakeKeys keys =>
    simp only [helloSent, append_nil]
    exact hhashed.serverHello hstep
  | complete result =>
    cases hstep
    exact .connected rfl
  | continueReading =>
    rw [helloSent_continueReading, append_nil]
    cases hstep with
    | encryptedExtensions hstate htype happly =>
      obtain ⟨_, _, _, _, _, _, rfl⟩ := applyEncryptedExtensions_eq happly
      refine hhashed.hashed (by rw [hstate]; decide) ?_ rfl rfl rfl rfl
      dsimp only
      split <;> decide
    | certificateRequest hstate =>
      exact hhashed.hashed (by rw [hstate]; decide)
        (fun heq => by cases hstate.symm.trans heq) rfl rfl rfl rfl
    | certificate hstate | certificateVerify hstate =>
      exact hhashed.hashed (by rw [hstate]; decide)
        (fun heq => by cases heq) rfl rfl rfl rfl

omit hhashed in
/-- Only a retry hands out a hello. -/
theorem helloSent_of_not_retry (hstep : Step crypto held message next action)
    (hanswer : isRetryRequest message = false) (handshake : Tls13Handshake) :
    handshake.helloSent action = [] := by
  cases action with
  | retryClientHello ch2 =>
    cases hstep with
    | retry _ htype hparse _ hretry =>
      rw [isRetryRequest_eq hparse htype, hretry] at hanswer
      cases hanswer
  | installHandshakeKeys _ | continueReading | complete _ => rfl

/-- Messages without a retry keep the context in line with the log. -/
theorem Hashed.quiet_steps {before : HandshakeAction}
    (hsteps : Steps crypto held before messages next action)
    (hquiet : ∀ message ∈ messages, isRetryRequest message = false) :
    Hashed crypto (log ++ messages.map .received) next := by
  induction hsteps generalizing log with
  | nil handshake action =>
    rw [map_nil, append_nil]
    exact hhashed
  | @cons held middle next before between action message messages hstep hrest ih =>
    have hmiddle := hhashed.step hstep
    rw [helloSent_of_not_retry hstep (hquiet message mem_cons_self), append_nil] at hmiddle
    rw [map_cons, append_cons]
    exact ih hmiddle (forall_mem_cons.mp hquiet).2

/-- The messages of a record keep the context in line with the log, if a retry is the last one. -/
theorem Hashed.steps (hsteps : Steps crypto held .continueReading messages next action)
    (hlast : ∀ message ∈ messages.dropLast, isRetryRequest message = false) :
    Hashed crypto (log ++ messages.map .received ++ next.helloSent action) next := by
  obtain ⟨rfl, rfl, rfl⟩ | ⟨first, message, middle, between, rfl, hfirst, hstep⟩ := hsteps.last
  · rw [map_nil, append_nil, helloSent_continueReading, append_nil]
    exact hhashed
  · rw [dropLast_concat] at hlast
    rw [map_append, ← append_assoc]
    exact (hhashed.quiet_steps hfirst hlast).step hstep

end Steps

variable {crypto : Primitives} {settings : Settings} {records : List Bytes} {log : List Logged}
  {handshake : Tls13Handshake} {transcript : TranscriptHash}

theorem EngineRun.hashed (hrun : EngineRun crypto settings records log handshake)
    (hlast : ∀ data ∈ records, RetriesLast data) : Hashed crypto log handshake := by
  induction hrun with
  | start hbuild =>
    obtain ⟨output, earlySecret, _, rfl⟩ := buildClientHello_eq hbuild
    refine .first rfl ?_ rfl ?_ rfl
    · simp only [rememberHello]
      split <;> rfl
    · simp only [rememberHello]
      split <;> rfl
  | record _ hprocess ih =>
    have hbefore := ih fun data hmem => hlast data (mem_append_left _ hmem)
    exact hbefore.steps (processHandshakeRecord_steps hprocess)
      (hlast _ (mem_append_right _ mem_cons_self))

/-! ## The uses -/

section Uses

variable {hkdf : HkdfAlgorithm} {hash : Bytes}

theorem secretOver_of_deriveSecret {key : HkdfPrk} {label : String} {secret : Bytes}
    (hderive : key.deriveSecret crypto label hash = .ok secret) :
    SecretOver crypto key label hash secret :=
  hkdfExpandLabel_eq_ok.mp hderive

theorem finishedOver_of_compute {secret verifyData : Bytes}
    (hcompute : computeFinishedVerifyData crypto hkdf secret hash = .ok verifyData) :
    FinishedOver crypto hkdf secret hash verifyData := by
  obtain ⟨key, hkey, hcompute⟩ := bind_eq_ok.mp hcompute
  cases hcompute
  exact ⟨key, hkdfExpandLabel_eq_ok.mp hkey, rfl⟩

theorem verifySignature_of_verifyWith {extract : Bytes → Result Bytes}
    {algorithm : SignatureAlgorithm} {error : TlsError} {spki content signature : Bytes}
    (hverify : verifyWith crypto extract algorithm error spki content signature = .ok ()) :
    ∃ publicKey, extract spki = .ok publicKey ∧
      crypto.verifySignature algorithm publicKey content signature = true := by
  obtain ⟨publicKey, hextract, hverify⟩ := bind_eq_ok.mp hverify
  rw [verifyOr] at hverify
  split at hverify
  next hvalid => exact ⟨publicKey, hextract, hvalid⟩
  · cases hverify

theorem signedOver_of_verify {scheme : UInt16} {leaf signature : Bytes}
    (hverify : verifyCertificateVerify crypto scheme leaf hash signature = .ok ()) :
    SignedOver crypto leaf hash signature := by
  obtain ⟨spki, hspki, hverify⟩ := bind_eq_ok.mp hverify
  split_ifs at hverify
  iterate 3
    · obtain ⟨publicKey, hextract, hvalid⟩ := verifySignature_of_verifyWith hverify
      exact ⟨spki, _, publicKey, _, hspki, mem_cons_self, hextract, hvalid⟩
  iterate 3
    · obtain ⟨publicKey, hextract, hvalid⟩ := verifySignature_of_verifyWith hverify
      exact ⟨spki, _, publicKey, _, hspki, mem_cons_of_mem _ mem_cons_self, hextract, hvalid⟩

/-- The values of a Finished exchange over a context with the bytes `data`. -/
theorem FinishedStep.hashes {held : Tls13Handshake} {message data : Bytes}
    {values : FinishedValues} (hfinished : FinishedStep crypto held message values)
    (hhkdf : held.hkdfAlgorithm = some hkdf)
    (htranscript : held.transcript = some ⟨hkdf.hash, data⟩) :
    FinishedHashes crypto hkdf (fun later => crypto.digest hkdf.hash (data ++ later.flatten)) held
      message (held.finishedResult values) := by
  obtain rfl : values.hkdf = hkdf := some.inj (hfinished.hkdf_eq.symm.trans hhkdf)
  have hcontext : values.transcript = ⟨values.hkdf.hash, data⟩ :=
    some.inj (hfinished.transcript_eq.symm.trans htranscript)
  have hverified := hfinished.verified
  have htraffic := hfinished.trafficSecrets_eq
  have hclient := hfinished.verifyData_eq
  have hresumption := hfinished.resumption_eq
  simp only [hcontext, TranscriptHash.update, TranscriptHash.currentHash,
    append_assoc] at hverified htraffic hclient hresumption
  constructor
  · refine ⟨_, hfinished.serverSecret_eq, ?_⟩
    rw [flatten_nil, append_nil]
    exact finishedOver_of_compute hverified
  · refine ⟨_, values.verifyData, hfinished.clientSecret_eq, rfl, ?_⟩
    rw [flatten_cons]
    exact finishedOver_of_compute hclient
  · obtain ⟨_, hclientApp, htraffic⟩ := bind_eq_ok.mp htraffic
    obtain ⟨_, hserverApp, htraffic⟩ := bind_eq_ok.mp htraffic
    obtain ⟨_, hexporter, htraffic⟩ := bind_eq_ok.mp htraffic
    obtain ⟨_, -, htraffic⟩ := bind_eq_ok.mp htraffic
    obtain ⟨_, -, htraffic⟩ := bind_eq_ok.mp htraffic
    have hsecrets := Except.ok.inj htraffic
    refine ⟨_, _, hfinished.handshakeSecret_eq, hfinished.masterSecret_eq, ?_, ?_, ?_, ?_⟩
    · rw [flatten_singleton, finishedResult, ← hsecrets]
      exact secretOver_of_deriveSecret hclientApp
    · rw [flatten_singleton, finishedResult, ← hsecrets]
      exact secretOver_of_deriveSecret hserverApp
    · rw [flatten_singleton, finishedResult, ← hsecrets]
      exact secretOver_of_deriveSecret hexporter
    · rw [flatten_cons, HandshakeComplete.messages, flatten_append, flatten_singleton]
      exact secretOver_of_deriveSecret hresumption

/-- A message without keys, a signature or a Finished. -/
theorem usesHashes_of_none {held next : Tls13Handshake} {message : Bytes}
    {action : HandshakeAction} {hashOf : List Bytes → Bytes}
    (hkeys : ∀ keys, action ≠ .installHandshakeKeys keys)
    (hstate : held.state ≠ .waitCertificateVerify)
    (hcomplete : ∀ complete, action ≠ .complete complete) :
    UsesHashes crypto hkdf hashOf held next message action where
  handshakeSecrets keys haction := absurd haction (hkeys keys)
  certificateVerify hheld _ := absurd hheld hstate
  finished complete haction := absurd haction (hcomplete complete)

/-- Where a message makes the engine hash its transcript, the hash is that of the log. -/
theorem Hashed.uses {held next : Tls13Handshake} {message : Bytes} {action : HandshakeAction}
    (hhashed : Hashed crypto log held) (hstep : Step crypto held message next action) :
    ∃ hkdf, next.Negotiated hkdf ∧
      UsesHashes crypto hkdf (logHash crypto hkdf next.echAccepted log) held next message
        action := by
  cases hstep with
  | retry hstate _ _ hcheck _ _ _ _ hbuild =>
    obtain ⟨hinfo, _⟩ := checkServerHello_ok hcheck
    obtain ⟨_, _, _, rfl⟩ := buildClientHelloRetry_eq hbuild
    exact ⟨_, ⟨rfl, _, _, rfl, hinfo⟩,
      usesHashes_of_none (fun _ => HandshakeAction.noConfusion) (by rw [hstate]; decide)
        fun _ => HandshakeAction.noConfusion⟩
  | serverHello hstate htype hparse hcheck hretry hselect hexchange hconfirm hderive =>
    obtain ⟨hconfirmed, hnegotiated⟩ :=
      hhashed.confirmed hstate hcheck hselect hexchange hconfirm
    obtain ⟨transcript, secret, _, _, _, htranscript, -, hclient, hserver, hclientKey,
      hserverKey, rfl⟩ := deriveHandshakeKeys_eq hderive
    obtain rfl := some.inj (htranscript.symm.trans hconfirmed)
    refine ⟨_, hnegotiated, ?_, ?_, fun _ => HandshakeAction.noConfusion⟩
    · rintro keys ⟨⟩
      subst hclientKey hserverKey
      refine ⟨secret, rfl, ?_, ?_, rfl, rfl⟩
      · rw [logHash, flatten_singleton]
        exact secretOver_of_deriveSecret hclient
      · rw [logHash, flatten_singleton]
        exact secretOver_of_deriveSecret hserver
    · intro hlater
      cases hstate.symm.trans hlater
  | encryptedExtensions hstate _ happly =>
    obtain ⟨hkdf, -, -, hnegotiated⟩ := hhashed.open (by rw [hstate]; decide)
    obtain ⟨_, _, _, _, _, _, rfl⟩ := applyEncryptedExtensions_eq happly
    exact ⟨hkdf, hnegotiated, usesHashes_of_none (fun _ => HandshakeAction.noConfusion)
      (by rw [hstate]; decide) fun _ => HandshakeAction.noConfusion⟩
  | certificateRequest hstate | certificate hstate =>
    obtain ⟨hkdf, -, -, hnegotiated⟩ := hhashed.open (by rw [hstate]; decide)
    exact ⟨hkdf, hnegotiated, usesHashes_of_none (fun _ => HandshakeAction.noConfusion)
      (by rw [hstate]; decide) fun _ => HandshakeAction.noConfusion⟩
  | certificateVerify hstate _ htranscript hverify =>
    obtain ⟨hkdf, -, hheld, hnegotiated⟩ := hhashed.open (by rw [hstate]; decide)
    obtain rfl := some.inj (htranscript.symm.trans hheld)
    refine ⟨hkdf, hnegotiated, fun _ => HandshakeAction.noConfusion, ?_,
      fun _ => HandshakeAction.noConfusion⟩
    intro _ hstrict
    obtain ⟨leaf, hleaf⟩ := hverify hstrict
    refine ⟨leaf, hleaf.leaf_eq, ?_⟩
    rw [logHash, flatten_nil, append_nil]
    exact signedOver_of_verify hleaf.signature
  | finished hstate _ hfinished =>
    obtain ⟨hkdf, -, hheld, hnegotiated⟩ := hhashed.open (by rw [hstate]; decide)
    refine ⟨hkdf, hnegotiated, fun _ => HandshakeAction.noConfusion, ?_, ?_⟩
    · intro hlater
      cases hstate.symm.trans hlater
    · rintro complete ⟨⟩
      exact hfinished.hashes hnegotiated.1 hheld

end Uses

end LkRequest.Handshake.Tls13Handshake

/-! ## A retry and a ServerHello in one record -/

namespace LkRequest.Handshake.Exchange

open Library Crypto Profile Hello Session Verify Tls13Handshake

def settings : Settings where
  profile := config.profile
  hostname := config.hostname
  verificationPolicy := config.verificationPolicy
  customCaAnchors := []
  alpsPayload := none
  echConfigList := none
  quicMode := false
  quicTransportParameters := none
  pskTicket := none
  tls12SessionTicketData := none

/-- A HelloRetryRequest that only carries a cookie. -/
def retryRequest : Bytes :=
  [0x02, 0x00, 0x00, 0x36, 0x03, 0x03] ++ hrrRandom ++ ofHex 4 0x00130100 ++
    ofHex 8 0x000e002b00020304 ++ ofHex 8 0x002c00040002aabb

/-- The second hello repeats the first one and the cookie. -/
def secondHello : Bytes :=
  helloStart 0x74 0x49 ++ helloExtensions ++ ofHex 8 0x002c00040002aabb

def firstHelloHash : Bytes :=
  ofHex 32 0xcea93825df6c5b44244910fb8fe898b203e3c7ad1a358aa96d85eb841e1ad90f

/-- The messages of the exchange with the retry, the first hello replaced. -/
def retriedMessages : Bytes :=
  messageHash firstHelloHash ++ retryRequest ++ secondHello ++ serverHello

def retriedHash : Bytes :=
  ofHex 32 0xbce0abad8ccefdad4d6b9d466ecd728e4e9f8384f3477d2ac1f199a3b89396f7

def retriedClientSecret : Bytes :=
  ofHex 32 0xc5418ae2e5665d73ef636969b300c2736ee39c6a1380c5416441e6af5fd71626

def retryRecording : Recording :=
  { recording with
    digests := recording.digests ++
      [⟨.sha256, clientHello, firstHelloHash⟩, ⟨.sha256, retriedMessages, retriedHash⟩]
    expands := recording.expands ++
      [expanded handshakeSecret "c hs traffic" retriedHash retriedClientSecret,
        expanded handshakeSecret "s hs traffic" retriedHash
        (ofHex 32 0xf3f2ea8f1ce0dceb935625db7d60db5e6236ab02eef333dd8ee83477e12d3572)] }

/-- The engine after the first hello and the given messages. -/
def engineAfter (messages : List Bytes) : Result (Tls13Handshake × HandshakeAction) := do
  let (handshake, _) ← settings.handshake.buildClientHello retryRecording.primitives
  handshake.feedMessages retryRecording.primitives .continueReading messages

theorem engine_started : ∃ handshake,
    settings.handshake.buildClientHello retryRecording.primitives = .ok (handshake, clientHello) ∧
    handshake.echInnerHello = none := by
  have hview : (settings.handshake.buildClientHello retryRecording.primitives).toOption.map
      (fun built => (built.2, built.1.echInnerHello)) = some (clientHello, none) := by
    decide +kernel
  obtain ⟨⟨handshake, message⟩, hbuilt, heq⟩ := Option.map_eq_some_iff.mp hview
  obtain ⟨rfl, hinner⟩ := Prod.mk.inj heq
  exact ⟨handshake, toOption_eq_some.mp hbuilt, hinner⟩

/-- The client Finished of an engine that has just completed the handshake. -/
def completedWith : Tls13Handshake × HandshakeAction → Option Bytes
  | (_, .complete complete) => some complete.clientFinished
  | _ => none

/-- The engine after the ServerHello and the flight of the server, with a certificate request. -/
def engineFinished : Result (Tls13Handshake × HandshakeAction) := do
  let (handshake, _) ← settings.handshake.buildClientHello retryRecording.primitives
  let (handshake, _) ← handshake.processHandshakeRecord retryRecording.primitives serverHello
  handshake.feedMessages retryRecording.primitives .continueReading
    (wholeMessages serverFlight ++ [serverFinished])

/-- The secrets of an engine that has just installed the handshake keys. -/
def installedWith : Tls13Handshake × HandshakeAction → Option (Option HkdfPrk × Bytes)
  | (handshake, .installHandshakeKeys keys) => some (handshake.handshakeSecret, keys.clientSecret)
  | _ => none

end LkRequest.Handshake.Exchange
