import LkRequest.Crypto.Recorded
import LkRequest.Handshake.QuicRuns
import LkRequest.Handshake.Runs

/-!
# The client's final flight

After the server Finished the client hashes its own messages, EncryptedExtensions for ALPS and an
empty Certificate for a certificate request, and then its Finished. The TCP driver sends these
messages. The QUIC driver leaves the Certificate out.
-/

namespace LkRequest.Handshake

open Library Crypto Profile Hello Session Verify Record QuicHandshakeDriver Option List

variable {complete : HandshakeComplete} {values : FinishedValues} {message : Bytes}

namespace Tls13Handshake

/-- The messages of `data` end with the server Finished `message`, and `held` is the handshake when
it comes. -/
structure ReadsFinished (crypto : Primitives) (handshake : Tls13Handshake) (data : Bytes)
    (held : Tls13Handshake) (message : Bytes) (values : FinishedValues) : Prop where
  messages : ∃ first between, wholeMessages data = first ++ [message] ∧
    handshake.feedMessages crypto .continueReading first = .ok (held, between)
  processed : handshake.processHandshakeRecord crypto data =
    .ok (held.finishedState message values, .complete (held.finishedResult values))
  finished : FinishedStep crypto held message values

/-- A server that has sent its Finished and hashes the messages of `flight` accepts the client
Finished and derives the resumption secret of the client. -/
structure ServerAccepts (crypto : Primitives) (values : FinishedValues) (serverFinished : Bytes)
    (flight : List Bytes) : Prop where
  finished : computeFinishedVerifyData crypto values.hkdf values.clientSecret
    (((values.transcript.update serverFinished).update flight.flatten).currentHash crypto) =
      .ok (values.clientFinished.drop 4)
  resumption : values.masterSecret.deriveSecret crypto "res master"
    ((((values.transcript.update serverFinished).update flight.flatten).update
      values.clientFinished).currentHash crypto) = .ok values.resumptionMasterSecret

variable {crypto : Primitives} {handshake next : Tls13Handshake} {data : Bytes}

/-- Only a server Finished completes a handshake. -/
theorem readsFinished_of_complete
    (hprocess : handshake.processHandshakeRecord crypto data = .ok (next, .complete complete)) :
    ∃ held message values, ReadsFinished crypto handshake data held message values ∧
      complete = held.finishedResult values := by
  have hfeed := feedMessages_of_processHandshakeRecord hprocess
  obtain hnone | ⟨first, message, hmessages⟩ := eq_nil_or_concat (wholeMessages data)
  · rw [hnone] at hfeed
    cases hfeed
  rw [concat_eq_append] at hmessages
  rw [hmessages] at hfeed
  obtain ⟨held, between, hfirst, hlast⟩ := feedMessages_append hfeed
  obtain ⟨⟨final, action⟩, hmessage, heq⟩ := bind_eq_ok.mp hlast
  cases heq
  cases processMessage_step hmessage with
  | finished _ _ hfinished =>
    exact ⟨held, message, _, ⟨⟨first, between, hmessages, hfirst⟩, hprocess, hfinished⟩, rfl⟩

theorem FinishedStep.serverAccepts (hfinished : FinishedStep crypto handshake message values) :
    ServerAccepts crypto values message handshake.clientMessages where
  finished := hfinished.verifyData_eq
  resumption := hfinished.resumption_eq

end Tls13Handshake

open Tls13Handshake

/-! ## The TCP driver -/

variable {events : List Event}

namespace HandshakeDriver

variable {crypto : Primitives} {writer last : RecordWriter} {bytes : Bytes}
  {driver stop : HandshakeDriver}

/-- The bytes are the records of the handshake messages in turn. -/
inductive Emits (crypto : Primitives) : RecordWriter → List Bytes → RecordWriter → Bytes → Prop
  | nil (writer : RecordWriter) : Emits crypto writer [] writer []
  | cons {writer next last : RecordWriter} {message record bytes : Bytes} {messages : List Bytes}
      (hwrite : writer.writeRecord crypto ContentType.handshake message = (next, .ok record))
      (hrest : Emits crypto next messages last bytes) :
      Emits crypto writer (message :: messages) last (record ++ bytes)

theorem Emits.append {middle : RecordWriter} {first second : List Bytes}
    {before after : Bytes} (hfirst : Emits crypto writer first middle before)
    (hsecond : Emits crypto middle second last after) :
    Emits crypto writer (first ++ second) last (before ++ after) := by
  induction hfirst with
  | nil writer => exact hsecond
  | cons hwrite _ ih =>
    rw [append_assoc]
    exact .cons hwrite (ih hsecond)

theorem Emits.single {record : Bytes}
    (hwrite : writer.writeRecord crypto ContentType.handshake message = (last, .ok record)) :
    Emits crypto writer [message] last record := by
  have hemits := Emits.cons hwrite (.nil last)
  rwa [append_nil] at hemits

theorem emits_of_writeOptional {message : Option Bytes}
    (hwrite : writeOptional crypto message writer = (last, .ok bytes)) :
    Emits crypto writer message.toList last bytes := by
  cases message with
  | none =>
    cases hwrite
    exact .nil _
  | some message => exact .single hwrite

theorem emits_of_finalFlightRecords
    (hflight : finalFlightRecords crypto complete writer = (last, .ok bytes)) :
    Emits crypto writer (complete.clientEncryptedExtensions.toList ++
      complete.clientCertificate.toList ++ [complete.clientFinished]) last bytes := by
  simp only [finalFlightRecords, Action.bind_returns, Action.pure_returns] at hflight
  obtain ⟨_, clientEe, hclientEe, _, certificate, hcertificate, _, finished, hfinished, rfl,
    rfl⟩ := hflight
  have hmessages := (emits_of_writeOptional hclientEe).append (emits_of_writeOptional hcertificate)
  exact hmessages.append (.single hfinished)

/-- The drivers that a call passes through before its last pass, with what they exchange. -/
inductive Again (crypto : Primitives) (driver : HandshakeDriver) :
    List Event → HandshakeDriver → Prop
  | refl : Again crypto driver [] driver
  | pass {read events : List Event} {last next : HandshakeDriver}
      (hagain : Again crypto driver read last)
      (hpass : Transition crypto last events next (.ok none)) :
      Again crypto driver (read ++ events) next

theorem Passes.exists_again {result : Result HandshakeOutput}
    (hpasses : Passes crypto driver events stop result) :
    ∃ read last final, events = read ++ final ∧ Again crypto driver read last ∧
      Transition crypto last final stop (result.map some) :=
  hpasses.last (Again crypto driver) (fun _ _ _ _ => .pass) .refl

end HandshakeDriver

/-! ## The QUIC driver -/

/-- What a call that completes the handshake returns. -/
def QuicHandshakeOutput.completed :
    Result QuicHandshakeOutput → Option (Bytes × QuicHandshakeResult)
  | .ok (.done bytes result) => some (bytes, result)
  | _ => none

theorem QuicHandshakeOutput.exists_of_completed {α : Type} {outcome : Result QuicHandshakeOutput}
    {view : Bytes × QuicHandshakeResult → α} {value : α}
    (hcompleted : (completed outcome).map view = some value) :
    ∃ toSend result, outcome = .ok (.done toSend result) ∧ view (toSend, result) = value := by
  unfold completed at hcompleted
  split at hcompleted
  · exact ⟨_, _, rfl, some.inj hcompleted⟩
  · cases hcompleted

/-- The handshake of a driver that has the handshake keys. -/
def QuicDriverState.encrypted? : QuicDriverState → Option Tls13Handshake
  | .tls13Encrypted handshake => some handshake
  | _ => none

theorem QuicDriverState.encrypted?_eq_some {state : QuicDriverState} {handshake : Tls13Handshake} :
    state.encrypted? = some handshake ↔ state = .tls13Encrypted handshake := by
  cases state <;> simp [encrypted?]

namespace QuicHandshakeDriver

variable {crypto : Primitives} {driver stop : QuicHandshakeDriver}

/-- The drivers that a call passes through before its last pass, with what they exchange. -/
inductive Again (crypto : Primitives) (driver : QuicHandshakeDriver) :
    List Event → QuicHandshakeDriver → Prop
  | refl : Again crypto driver [] driver
  | pass {read events : List Event} {last next : QuicHandshakeDriver}
      (hagain : Again crypto driver read last)
      (hpass : Transition crypto last events next (.ok none)) :
      Again crypto driver (read ++ events) next

theorem Passes.exists_again {result : Result QuicHandshakeOutput}
    (hpasses : Passes crypto driver events stop result) :
    ∃ read last final, events = read ++ final ∧ Again crypto driver read last ∧
      Transition crypto last final stop (result.map some) :=
  hpasses.last (Again crypto driver) (fun _ _ _ _ => .pass) .refl

theorem finalFlight_finishedResult (held : Tls13Handshake) (values : FinishedValues) :
    finalFlight (held.finishedResult values) =
      held.buildClientEncryptedExtensions.toList.flatten ++ values.clientFinished := by
  rw [finalFlight, finishedResult]
  cases held.buildClientEncryptedExtensions with
  | none => rfl
  | some message => simp

/-- The Certificate is missing whenever one was hashed. -/
theorem finalFlight_eq_iff (held : Tls13Handshake) :
    finalFlight (held.finishedResult values) =
        (held.clientMessages ++ [values.clientFinished]).flatten ↔
      held.clientCertificateRequestContext = none := by
  rw [finalFlight_finishedResult, clientMessages]
  cases held.clientCertificateRequestContext with
  | none => simp
  | some context =>
    constructor
    · intro hequal
      have hlength := congrArg length hequal
      simp [buildEmptyClientCertificate, handshakeMessage] at hlength
      omega
    · intro hnone
      cases hnone

end QuicHandshakeDriver

/-- Every TLS 1.3 handshake that ends has hashed, between the two Finished messages, the messages
`clientMessages`, so that a server that hashes them agrees with the client. The TCP driver hands
out exactly these messages and the client Finished. The QUIC driver does so if and only if the
server has not asked for a certificate. The messages that end with the server Finished are those
that the last pass of the call takes out of its record or of the CRYPTO stream. -/
theorem sends_what_it_hashes (crypto : Primitives) :
    (∀ (driver stop : HandshakeDriver) (toSend : Bytes) (result : HandshakeResult),
      driver.progress crypto = (stop, .ok (.done toSend result)) →
      result.negotiatedVersion = some 0x0304 →
      ∃ read last handshake reader payload held message values writer,
        HandshakeDriver.Again crypto driver read last ∧ last.state = .tls13Encrypted handshake ∧
        last.reader.nextRecord crypto = (reader, .ok (some (handshakeRec payload))) ∧
        ReadsFinished crypto handshake (last.messagesWith payload) held message values ∧
        ServerAccepts crypto values message held.clientMessages ∧
        HandshakeDriver.Emits crypto last.writer
          (held.clientMessages ++ [values.clientFinished]) writer toSend) ∧
    (∀ (driver stop : QuicHandshakeDriver) (toSend : Bytes) (result : QuicHandshakeResult),
      driver.progress crypto = (stop, .ok (.done toSend result)) →
      ∃ read last handshake data rest held message values,
        QuicHandshakeDriver.Again crypto driver read last ∧
        last.state = .tls13Encrypted handshake ∧
        takeCompleteHandshakeMessages last.input = (some data, rest) ∧
        ReadsFinished crypto handshake data held message values ∧
        ServerAccepts crypto values message held.clientMessages ∧
        (toSend = (held.clientMessages ++ [values.clientFinished]).flatten ↔
          held.clientCertificateRequestContext = none)) := by
  constructor
  · intro driver stop toSend result hprogress hversion
    obtain ⟨events, hpasses⟩ := HandshakeDriver.progress_returns hprogress
    obtain ⟨read, last, final, -, hagain, hleave⟩ := hpasses.exists_again
    cases hleave with
    | done13 hstate hread hprocess hflight =>
      obtain ⟨held, message, values, hreads, rfl⟩ := readsFinished_of_complete hprocess
      exact ⟨read, last, _, _, _, held, message, values, _, hagain, hstate, hread, hreads,
        hreads.finished.serverAccepts, HandshakeDriver.emits_of_finalFlightRecords hflight⟩
    | abbreviatedDone | done12 => cases hversion
  · intro driver stop toSend result hprogress
    obtain ⟨events, hpasses⟩ := QuicHandshakeDriver.progress_passes hprogress
    obtain ⟨read, last, final, -, hagain, hleave⟩ := hpasses.exists_again
    cases hleave with
    | done hstate htake hprocess =>
      obtain ⟨held, message, values, hreads, rfl⟩ := readsFinished_of_complete hprocess
      exact ⟨read, last, _, _, _, held, message, values, hagain, hstate, htake, hreads,
        hreads.finished.serverAccepts, QuicHandshakeDriver.finalFlight_eq_iff held⟩

/-! ## An exchange with a certificate request

TLS_AES_128_GCM_SHA256 over X25519, with a profile that does not verify the server. The recorded
values are those of SHA-256, HKDF, X25519 and AES-128-GCM. -/

namespace Exchange

def config : HandshakeConfig where
  profile := {
    tlsMinVersion := .tls13
    tlsMaxVersion := .tls13
    cipherSuites := [0x1301]
    extensions := [⟨ExtType.supportedGroups, .auto⟩, ⟨ExtType.signatureAlgorithms, .auto⟩,
      ⟨ExtType.supportedVersions, .auto⟩, ⟨ExtType.keyShare, .auto⟩]
    supportedGroups := [0x001d]
    signatureAlgorithms := [0x0804]
    keyShareCurves := [0x001d]
    sessionIdLength := 0 }
  hostname := "example.com"
  port := 443
  verificationPolicy := .insecure
  alpsPayload := none
  sessionStore := none
  echConfigList := none
  customCaAnchors := []

def quicConfig : QuicHandshakeConfig := ⟨config, [0x01, 0x02, 0x03]⟩

def publicKey : Bytes :=
  ofHex 32 0x1cf579aba45a10ba1d1ef06d91fca2aa9ed0a1150515653155405d0b18cb9a67

def serverPublicKey : Bytes :=
  ofHex 32 0x38ab664bd86f77d7e66bdd9ae0792913a94fd8b33a1260027e4b46c1f4884c67

/-- The ClientHello up to the length of its extensions. -/
def helloStart (length extensionsLength : UInt8) : Bytes :=
  [0x01, 0x00, 0x00, length, 0x03, 0x03] ++ List.replicate 32 0x22 ++
    [0x00, 0x00, 0x02, 0x13, 0x01, 0x01, 0x00, 0x00, extensionsLength]

/-- The groups, the signature algorithms, the versions and the key share. -/
def helloExtensions : Bytes :=
  ofHex 8 0x000a00040002001d ++ ofHex 8 0x000d000400020804 ++ ofHex 7 0x002b0003020304 ++
    ofHex 10 0x003300260024001d0020 ++ publicKey

def clientHello : Bytes := helloStart 0x6c 0x41 ++ helloExtensions

/-- The transport parameters come last. -/
def quicClientHello : Bytes :=
  helloStart 0x73 0x48 ++ helloExtensions ++ ofHex 7 0x00390003010203

def serverHello : Bytes :=
  [0x02, 0x00, 0x00, 0x56, 0x03, 0x03] ++ List.replicate 32 0x44 ++
    ofHex 4 0x00130100 ++ ofHex 8 0x002e002b00020304 ++ ofHex 8 0x00330024001d0020 ++
    serverPublicKey

def encryptedExtensions : Bytes := ofHex 6 0x080000020000

def quicEncryptedExtensions : Bytes := ofHex 10 0x08000006000400390000

def certificateRequest : Bytes := ofHex 15 0x0d00000b000008000d000400020804

/-- Certificate and CertificateVerify. -/
def authentication : Bytes :=
  ofHex 15 0x0b00000b0000000700000230000000 ++ ofHex 8 0x0f00000408040000

/-- The answer to a certificate request. -/
def emptyCertificate : Bytes := ofHex 8 0x0b00000400000000

def emptyHash : Bytes :=
  ofHex 32 0xe3b0c44298fc1c149afbf4c8996fb92427ae41e4649b934ca495991b7852b855

def earlySecret : Bytes :=
  ofHex 32 0x33ad0a1c607ec03b09e6cd9893680ce210adf300aa1f2660e1b22e10f170f92a

def earlySalt : Bytes :=
  ofHex 32 0x6f2615a108c702c5678f54fc9dbab69716c076189c48250cebeac3576c3611ba

def handshakeSecret : Bytes :=
  ofHex 32 0xc477a03cdb2ee7ad1fa79aa9e5529ae4c6f520c691cfe5bd8ac064fabf4df7c0

def sharedSecret : Bytes :=
  ofHex 32 0x7d4f93e85cbc43a91afecd02834312dfec4a300639236d7bd486626b9b3af741

/-- A call of HKDF-Expand-Label. -/
def expanded (secret : Bytes) (label : String) (context output : Bytes) : ExpandCall :=
  ⟨.sha256, secret, buildHkdfLabel label context output.length, output⟩

/-- What both transports compute. -/
def schedule : Recording where
  draws := [(.helloRandom 0, List.replicate 32 0x22)]
  keyPairs := [(.x25519, List.replicate 32 0x77, publicKey)]
  agreements := [⟨.x25519, List.replicate 32 0x77, serverPublicKey, sharedSecret⟩]
  digests := [⟨.sha256, [], emptyHash⟩]
  extracts :=
    [⟨.sha256, List.replicate 32 0x00, List.replicate 32 0x00, earlySecret⟩,
      ⟨.sha256, earlySalt, sharedSecret, handshakeSecret⟩]
  expands := [expanded earlySecret "derived" emptyHash earlySalt]

def quicHelloHash : Bytes :=
  ofHex 32 0xbef250e84812a925ce5e92798cb4e03542995af35c03d67f566880f01db1ca79

def quicClientSecret : Bytes :=
  ofHex 32 0x345a8e8dbcbc8048b376895b13d4c5527bd89ac6f8110c21d5b41ee431ea9706

def quicServerSecret : Bytes :=
  ofHex 32 0xd6d190cc95549fa742831a6c57eaf6dcdf9d1be4169edfd336793489d8f4f8dc

def quicClientFinishedKey : Bytes :=
  ofHex 32 0x2fc36674adf93b108cca26b7c53e2cfe2199a0f461ff80a2c3a8e234426d0fab

def quicServerFinishedKey : Bytes :=
  ofHex 32 0x4ad2210ad19caa4862fc71c9f16ed7086d93489878897fd1320453607b21665f


def quicServerFinished : Bytes :=
  ofHex 36 0x14000020b7fcb0360289ee8c3bd2ebcbb7bfd424780ec5b34e957b6581f6e173c8e48bb2

def quicClientFinished : Bytes :=
  ofHex 36 0x140000206522fe4d23518616e0644c936b87f6ea700ef1dd2a45766929f71f682477f2fb

def requestedServerFinished : Bytes :=
  ofHex 36 0x1400002029823a346079dbf329a0e80141b9820744e5b3cfd907e73367c1af8a0d7010b5

def requestedClientFinished : Bytes :=
  ofHex 36 0x14000020ba3606f2670b9adf8f8b4864f6255397389fb804542f29c3a109f8a98853f0cd

/-- The flight of the server without a certificate request. -/
def quicFlight : Bytes := quicEncryptedExtensions ++ authentication

/-- The flight of the server with a certificate request. -/
def requestedFlight : Bytes := quicEncryptedExtensions ++ certificateRequest ++ authentication

/-- The hashes up to the server flight and up to the client Finished. -/
def quicHashes : Bytes × Bytes :=
  (ofHex 32 0xe3bf134955e8ddc3ebc790e0d721db0751c4714f6451018f0a3420a6c3d2d5ca,
    ofHex 32 0x4dfd6a2f413660daf8f563c8a9ef326c73d8eee8d66edbb73743287642313451)

def requestedHashes : Bytes × Bytes :=
  (ofHex 32 0x9e523a4b871bf54190ec23ca89d70868b69775a0887dd1c65d6668eceb84697b,
    ofHex 32 0xa4ed52c6cd46ca89af49c10da6e65d82a1166161402483c3ef4ddce6241fd9bf)

def quicRecording : Recording :=
  { schedule with
    digests := schedule.digests ++
      [⟨.sha256, quicClientHello ++ serverHello, quicHelloHash⟩,
        ⟨.sha256, quicClientHello ++ serverHello ++ quicFlight, quicHashes.1⟩,
        ⟨.sha256, quicClientHello ++ serverHello ++ quicFlight ++ quicServerFinished, quicHashes.2⟩,
        ⟨.sha256, quicClientHello ++ serverHello ++ requestedFlight, requestedHashes.1⟩,
        ⟨.sha256, quicClientHello ++ serverHello ++ requestedFlight ++ requestedServerFinished ++
          emptyCertificate, requestedHashes.2⟩]
    expands := schedule.expands ++
      [expanded handshakeSecret "c hs traffic" quicHelloHash quicClientSecret,
        expanded handshakeSecret "s hs traffic" quicHelloHash quicServerSecret,
        expanded quicClientSecret "finished" [] quicClientFinishedKey,
        expanded quicServerSecret "finished" [] quicServerFinishedKey]
    hmacs :=
      [⟨.sha256, quicServerFinishedKey, quicHashes.1, quicServerFinished.drop 4⟩,
        ⟨.sha256, quicClientFinishedKey, quicHashes.2, quicClientFinished.drop 4⟩,
        ⟨.sha256, quicServerFinishedKey, requestedHashes.1, requestedServerFinished.drop 4⟩,
        ⟨.sha256, quicClientFinishedKey, requestedHashes.2, requestedClientFinished.drop 4⟩] }

def helloHash : Bytes :=
  ofHex 32 0x625e3f44107314d40c0878c0b380709ba56e350263c4042e926b7920234902bf

def clientSecret : Bytes :=
  ofHex 32 0x5904483f84293f08c2f851ad1f21e5cfa212e7f8840b2176e6ded3bc98765683

def serverSecret : Bytes :=
  ofHex 32 0x753db3766a4f472eb2932c982a94e76e6a057de127f00621b10f1970a94cf377

def clientFinishedKey : Bytes :=
  ofHex 32 0x237c980448cc4113b262de08f3a22b6ddad188b227c2e9f74334d1c5da7f4e4b

def serverFinishedKey : Bytes :=
  ofHex 32 0x32947cedfbc0653a56a1356bcb5cd873b0dddfca6561e9dbf827e478645a98e0


def serverFinished : Bytes :=
  ofHex 36 0x14000020215758c02bc6d9175723a476559ae784833e4ef85d67976907cc1c8f65c2c2b8

def clientFinished : Bytes :=
  ofHex 36 0x1400002068df28dae73280b0c5c671d594e28a4eb6793be30d9b3058bdf6b9338b4b1d66

/-- The flight of the server up to its Finished. -/
def serverFlight : Bytes := encryptedExtensions ++ certificateRequest ++ authentication

def hashes : Bytes × Bytes :=
  (ofHex 32 0x69cc56f47a336ffa8c3f95ef1c291d2a5c348c31bce674cfce8e1190ae79e15c,
    ofHex 32 0xe5943fb6c0dc5411f48fba33d7d693bb65e216f4df0a4b92e793d84ff6ed161d)

def serverKey : Bytes := ofHex 16 0x32f5d4ba4779b01b9c3c62a263693b2f

def serverIv : Bytes := ofHex 12 0xa678e11f9e22d3183912d0cf

def clientKey : Bytes := ofHex 16 0xc20fa2c1b974b4817f1850df1e83be69

def clientIv : Bytes := ofHex 12 0xcd80349f6376039f497a76d6

/-- The flight of the server under its handshake key. -/
def sealedFlight : Bytes :=
  ofHex 32 0xb93e5afff69bc7295336ac72ce51023207734067cf57dace496a93de63ab7adc ++
    ofHex 32 0x2be444a28d6eaa6640b44252b5d1e8964dddb2c97411fa4c46a526ae94182e85 ++
    ofHex 32 0xa57e189a9a5ead73cf21b574135363e83ba2330e5ffddddd4e3faa586e099bae ++
    ofHex 1 0x4e

def sealedCertificate : Bytes :=
  ofHex 25 0x9386ece9ce9380887149d01b80b4d6a319bba2126c1298fe12

def sealedFinished : Bytes :=
  ofHex 32 0x810a099532d8e3d31aec43e93536f3cf99c74e29f8cc4215b14ca60d9e20e4ee ++
    ofHex 21 0x458acf8395e1322f442c1536b6ef51478402c4526f

/-- The header of a protected record. -/
def protectedHeader (ciphertext : Bytes) : Bytes :=
  [0x17, 0x03, 0x03] ++ be16 ciphertext.length

def recording : Recording :=
  { schedule with
    digests := schedule.digests ++
      [⟨.sha256, clientHello ++ serverHello, helloHash⟩,
        ⟨.sha256, clientHello ++ serverHello ++ serverFlight, hashes.1⟩,
        ⟨.sha256, clientHello ++ serverHello ++ serverFlight ++ serverFinished ++
          emptyCertificate, hashes.2⟩]
    expands := schedule.expands ++
      [expanded handshakeSecret "c hs traffic" helloHash clientSecret,
        expanded handshakeSecret "s hs traffic" helloHash serverSecret,
        expanded clientSecret "finished" [] clientFinishedKey,
        expanded serverSecret "finished" [] serverFinishedKey,
        expanded clientSecret "key" [] clientKey, expanded clientSecret "iv" [] clientIv,
        expanded serverSecret "key" [] serverKey, expanded serverSecret "iv" [] serverIv]
    hmacs :=
      [⟨.sha256, serverFinishedKey, hashes.1, serverFinished.drop 4⟩,
        ⟨.sha256, clientFinishedKey, hashes.2, clientFinished.drop 4⟩]
    seals :=
      [⟨.aes128Gcm, serverKey, serverIv, protectedHeader sealedFlight,
          serverFlight ++ serverFinished ++ [0x16], sealedFlight⟩,
        ⟨.aes128Gcm, clientKey, clientIv, protectedHeader sealedCertificate,
          emptyCertificate ++ [0x16], sealedCertificate⟩,
        ⟨.aes128Gcm, clientKey, ofHex 12 0xcd80349f6376039f497a76d7,
          protectedHeader sealedFinished, clientFinished ++ [0x16], sealedFinished⟩] }


def started : HandshakeDriver :=
  (HandshakeDriver.start recording.primitives (.new config)).1

def serverHelloRecord : Bytes := [0x16, 0x03, 0x03, 0x00, 0x5a] ++ serverHello

/-- The driver after the ServerHello. -/
def opened : HandshakeDriver :=
  ((started.feed serverHelloRecord).progress recording.primitives).1

def flightRecord : Bytes := protectedHeader sealedFlight ++ sealedFlight

def finalRecords : Bytes :=
  protectedHeader sealedCertificate ++ sealedCertificate ++ protectedHeader sealedFinished ++
    sealedFinished

def quicStarted : QuicHandshakeDriver :=
  (QuicHandshakeDriver.start quicRecording.primitives (.new quicConfig)).1

/-- The QUIC driver after the ServerHello. -/
def quicOpened : QuicHandshakeDriver :=
  ((quicStarted.feed serverHello).progress quicRecording.primitives).1

theorem quicStart_eq : start quicRecording.primitives (.new quicConfig) =
    (quicStarted, .ok quicClientHello) :=
  Prod.ext rfl (by decide +kernel)

theorem quicOpened_run :
    ∃ events, QuicHandshakeDriver.Run quicRecording.primitives quicConfig events quicOpened := by
  exact ((QuicHandshakeDriver.Run.start quicStart_eq).feed serverHello).exists_of_progress

/-- Over TCP the answer to a certificate request is sent; over QUIC nothing is missing without a
request. -/
theorem final_flights_sent :
    (∃ (read : List Event) (last : HandshakeDriver) (handshake : Tls13Handshake) (payload : Bytes)
        (held : Tls13Handshake) (message : Bytes) (values : FinishedValues) (writer : RecordWriter),
      HandshakeDriver.Again recording.primitives (opened.feed flightRecord) read last ∧
      ReadsFinished recording.primitives handshake (last.messagesWith payload) held message
        values ∧
      HandshakeDriver.Emits recording.primitives last.writer
        (held.clientMessages ++ [values.clientFinished]) writer finalRecords) ∧
    ∃ (read : List Event) (last : QuicHandshakeDriver) (handshake : Tls13Handshake)
        (data rest : Bytes) (held : Tls13Handshake) (message : Bytes) (values : FinishedValues),
      QuicHandshakeDriver.Again quicRecording.primitives
        (quicOpened.feed (quicFlight ++ quicServerFinished)) read last ∧
      takeCompleteHandshakeMessages last.input = (some data, rest) ∧
      ReadsFinished quicRecording.primitives handshake data held message values ∧
      ServerAccepts quicRecording.primitives values message held.clientMessages ∧
      (quicClientFinished = (held.clientMessages ++ [values.clientFinished]).flatten ↔
        held.clientCertificateRequestContext = none) := by
  constructor
  · obtain ⟨toSend, result, hprogress, hview⟩ := HandshakeOutput.exists_of_completed
      (show (HandshakeOutput.completed ((opened.feed flightRecord).progress
        recording.primitives).2).map (fun done => (done.1, done.2.negotiatedVersion)) =
          some (finalRecords, some 0x0304) by decide +kernel)
    obtain ⟨rfl, hversion⟩ := Prod.mk.inj hview
    obtain ⟨read, last, handshake, _, payload, held, message, values, writer, hagain, _, _, hreads,
      _, hemits⟩ :=
      (sends_what_it_hashes recording.primitives).1 _ _ _ _ (Prod.ext rfl hprogress) hversion
    exact ⟨read, last, handshake, payload, held, message, values, writer, hagain, hreads, hemits⟩
  · obtain ⟨toSend, result, hprogress, rfl⟩ := QuicHandshakeOutput.exists_of_completed
      (show (QuicHandshakeOutput.completed ((quicOpened.feed (quicFlight ++
        quicServerFinished)).progress quicRecording.primitives).2).map Prod.fst =
          some quicClientFinished by decide +kernel)
    obtain ⟨read, last, handshake, data, rest, held, message, values, hagain, _, htake, hreads,
      haccepts, hequal⟩ :=
      (sends_what_it_hashes quicRecording.primitives).2 _ _ _ _ (Prod.ext rfl hprogress)
    exact ⟨read, last, handshake, data, rest, held, message, values, hagain, htake, hreads,
      haccepts, hequal⟩

/-- Asked for a certificate over QUIC, the client hashes an empty Certificate and hands out its
Finished alone. -/
theorem certificate_hashed_not_sent :
    ∃ events handshake next action result,
      QuicHandshakeDriver.Run quicRecording.primitives quicConfig events quicOpened ∧
      quicOpened.state = .tls13Encrypted handshake ∧
      handshake.processHandshakeRecord quicRecording.primitives
        (requestedFlight ++ requestedServerFinished) = .ok (next, action) ∧
      next.transcript = some ⟨.sha256, quicClientHello ++ serverHello ++ requestedFlight ++
        requestedServerFinished ++ emptyCertificate ++ requestedClientFinished⟩ ∧
      ((quicOpened.feed (requestedFlight ++ requestedServerFinished)).progress
        quicRecording.primitives).2 = .ok (.done requestedClientFinished result) := by
  obtain ⟨events, hrun⟩ := quicOpened_run
  obtain ⟨toSend, result, hprogress, rfl⟩ := QuicHandshakeOutput.exists_of_completed
    (show (QuicHandshakeOutput.completed ((quicOpened.feed (requestedFlight ++
      requestedServerFinished)).progress quicRecording.primitives).2).map Prod.fst =
        some requestedClientFinished by decide +kernel)
  have hreads : (quicOpened.state.encrypted?.bind fun handshake =>
      (handshake.processHandshakeRecord quicRecording.primitives
        (requestedFlight ++ requestedServerFinished)).toOption).bind (fun processed =>
          processed.1.transcript) = some ⟨.sha256, quicClientHello ++ serverHello ++
            requestedFlight ++ requestedServerFinished ++ emptyCertificate ++
            requestedClientFinished⟩ := by decide +kernel
  obtain ⟨⟨next, action⟩, hprocessed, htranscript⟩ := bind_eq_some_iff.mp hreads
  obtain ⟨handshake, hstate, hprocess⟩ := bind_eq_some_iff.mp hprocessed
  exact ⟨events, handshake, next, action, result, hrun,
    QuicDriverState.encrypted?_eq_some.mp hstate, toOption_eq_some.mp hprocess, htranscript,
    hprogress⟩

end Exchange

end LkRequest.Handshake
