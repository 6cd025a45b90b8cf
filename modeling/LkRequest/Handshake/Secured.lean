import LkRequest.Crypto.Recorded
import LkRequest.Handshake.Runs

/-!
# A handshake ends secured

What the result of a handshake has to bring with it: traffic keys on both sides of the record layer,
a server Finished that has been verified, and a client Finished among the bytes handed out. The
invariant of runs behind it says which keys are installed in which state. A driver that is parked
between the server's change of ciphers and its Finished, in the abbreviated TLS 1.2 handshake, is
the one place from which a handshake ends otherwise.
-/

namespace LkRequest.Handshake

open Library Crypto Hello Profile Record Session List Action RecordWriter RecordReader

namespace HandshakeDriver

/-- The bytes end with the record of the client Finished, under handshake keys. -/
inductive Sends13 (crypto : Primitives) (bytes clientFinished : Bytes) : Prop
  | intro {before finished : Bytes} {writer last : RecordWriter}
      (hbytes : bytes = before ++ finished)
      (hkeyed : writer.isEncrypted = true)
      (hfinished : writer.writeRecord crypto ContentType.handshake clientFinished =
        (last, .ok finished))

/-- The bytes end with a change of ciphers and the record of the client Finished, the first one
under the new keys. -/
inductive Sends12 (crypto : Primitives) (bytes clientFinished : Bytes) : Prop
  | intro {before ccs finished : Bytes} {plain changed keyed last : RecordWriter}
      {keys : Tls12TrafficKeys}
      (hbytes : bytes = before ++ ccs ++ finished)
      (hccs : plain.writeRecord crypto ContentType.changeCipherSpec [0x01] = (changed, .ok ccs))
      (hkeyed : keys.installOnWriter changed = .ok keyed)
      (hfinished : keyed.writeRecord crypto ContentType.handshake clientFinished =
        (last, .ok finished))

/-- The client Finished of a TLS 1.2 handshake over some transcript. -/
def clientFinished12 (crypto : Primitives) (held : Tls12Handshake) (masterSecret : Bytes)
    (transcript : TranscriptHash) : Bytes :=
  handshakeMessage HandshakeType.finished
    (computeVerifyData crypto held.prfAlgorithm masterSecret "client finished"
      (transcript.currentHash crypto))

/-- Both Finished messages have been exchanged: the server's is verified by the handshake whose
values are in the result, and the client's has been handed out. -/
inductive FinishedExchange (crypto : Primitives) (handed : List Bytes) (events : List Event)
    (result : HandshakeResult) : Prop
  | tls13 {held : Tls13Handshake} {values : Tls13Handshake.FinishedValues}
      {buffered payload message toSend : Bytes}
      (hreceived : .received (handshakeRec payload) ∈ events)
      (hmessage : (wholeMessages (buffered ++ payload)).getLast? = some message)
      (hverified : held.FinishedStep crypto message values)
      (hcertificates : result.peerCertificates = held.serverCertificates)
      (hsecrets : result.postHandshake = some (postHandshakeState values.trafficSecrets))
      (hhanded : toSend ∈ handed)
      (hsends : Sends13 crypto toSend values.clientFinished)
  | tls12 {held : Tls12Handshake} {transcript fed : TranscriptHash}
      {finishedBody masterSecret verifyData toSend : Bytes}
      (hreceived : .received (handshakeRec finishedBody) ∈ events)
      (hverified : held.VerifiedFinished crypto finishedBody masterSecret verifyData transcript)
      (hcertificates : result.peerCertificates = held.serverCertificates)
      (hhanded : toSend ∈ handed)
      (hsends : Sends12 crypto toSend (clientFinished12 crypto held masterSecret fed))

/-- The record layer has its traffic keys, and both Finished messages have been exchanged. -/
structure Secured (crypto : Primitives) (handed : List Bytes) (events : List Event)
    (result : HandshakeResult) : Prop where
  reader : result.reader.isEncrypted = true
  writer : result.writer.isEncrypted = true
  finished : FinishedExchange crypto handed events result

/-- The driver waits for the server Finished of an abbreviated TLS 1.2 handshake. -/
def parked (driver : HandshakeDriver) : Bool :=
  match driver.state with
  | .tls12WaitServerFinished handshake _ _ _ => handshake.abbreviated
  | _ => false

/-! ## Keys by state -/

/-- The client flight of a full handshake has been handed out. -/
def FlightHanded (crypto : Primitives) (handed : List Bytes) (held : Tls12Handshake) : Prop :=
  ∃ masterSecret fed, held.masterSecret = some masterSecret ∧
    ∃ toSend ∈ handed, Sends12 crypto toSend (clientFinished12 crypto held masterSecret fed)

/-- Which keys are installed in which state. -/
def KeysByState (crypto : Primitives) (handed : List Bytes) (driver : HandshakeDriver) : Prop :=
  match driver.state with
  | .start => True
  | .waitServerHello _ _ => driver.writer.isEncrypted = false
  | .tls13Encrypted _ => driver.writer.isEncrypted = true
  | .tls12ServerFlight handshake _ =>
    driver.writer.isEncrypted = false ∧ handshake.abbreviated = false
  | .tls12WaitServerFinished handshake _ _ serverCcsReceived =>
    if handshake.abbreviated then driver.writer.isEncrypted = false
    else driver.writer.isEncrypted = true ∧
      (serverCcsReceived = true → driver.reader.isEncrypted = true) ∧
      FlightHanded crypto handed handshake
  | .complete => True

variable {reader : RecordReader}

section Keys

variable {crypto : Primitives} {handed : List Bytes} {driver next : HandshakeDriver}

variable (hkeys : KeysByState crypto handed driver)
include hkeys

/-- The invariant reads the state and whether there are keys, nothing else. -/
theorem KeysByState.congr (hstate : next.state = driver.state)
    (hreader : next.reader.isEncrypted = driver.reader.isEncrypted)
    (hwriter : next.writer.isEncrypted = driver.writer.isEncrypted) :
    KeysByState crypto handed next := by
  unfold KeysByState at hkeys ⊢
  rw [hstate, hreader, hwriter]
  exact hkeys

theorem KeysByState.read {result : Result (Option PlaintextRecord)}
    (hread : driver.reader.nextRecord crypto = (reader, result)) :
    KeysByState crypto handed { driver with reader := reader } :=
  hkeys.congr rfl (isEncrypted_of_nextRecord hread) rfl

theorem KeysByState.keepAlert (error : TlsError) :
    KeysByState crypto handed (driver.keepAlert crypto error) := by
  unfold HandshakeDriver.keepAlert
  split
  · split
    next hwrite => exact hkeys.congr rfl rfl (isEncrypted_of_writeRecord hwrite)
    next hwrite => exact hkeys.congr rfl rfl (isEncrypted_of_writeRecord hwrite)
  · exact hkeys

omit hkeys in
theorem FlightHanded.mono {held : Tls12Handshake} (hflight : FlightHanded crypto handed held)
    (more : List Bytes) : FlightHanded crypto (handed ++ more) held := by
  obtain ⟨masterSecret, fed, hsecret, toSend, hmem, hsends⟩ := hflight
  exact ⟨masterSecret, fed, hsecret, toSend, mem_append_left _ hmem, hsends⟩

theorem KeysByState.mono (more : List Bytes) : KeysByState crypto (handed ++ more) driver := by
  unfold KeysByState at hkeys ⊢
  cases hstate : driver.state with
  | tls12WaitServerFinished =>
    simp only [hstate] at hkeys ⊢
    split at hkeys
    next habbreviated =>
      rw [if_pos habbreviated]
      exact hkeys
    next hfull =>
      rw [if_neg hfull]
      exact ⟨hkeys.1, hkeys.2.1, hkeys.2.2.mono more⟩
  | start | complete => trivial
  | waitServerHello | tls13Encrypted | tls12ServerFlight => simpa only [hstate] using hkeys

omit hkeys

theorem keysByState_complete (hstate : driver.state = .complete) :
    KeysByState crypto handed driver := by
  unfold KeysByState
  rw [hstate]
  trivial

end Keys

/-! ## Flights -/

variable {handed : List Bytes}

section Flights

variable {crypto : Primitives} {writer last : RecordWriter} {bytes : Bytes}
  {keys : Tls12TrafficKeys} {flight : Tls12ClientFlight} {handshake next : Tls12Handshake}

theorem installOnWriter_eq_ok {keyed : RecordWriter} : keys.installOnWriter writer = .ok keyed ↔
      ∃ cipher, keys.toRecordCipher true = .ok cipher ∧ writer.setTls12Keys cipher = keyed :=
  map_eq_ok

theorem installOnWriter_returns {value : Unit} :
    installOnWriter keys writer = (last, .ok value) ↔ keys.installOnWriter writer = .ok last := by
  simp only [installOnWriter, get_bind, lift_bind, modify_returns, exists_eq_right']

theorem isEncrypted_of_installOnWriter
    (hinstall : keys.installOnWriter writer = .ok last) : last.isEncrypted = true := by
  obtain ⟨cipher, _, rfl⟩ := installOnWriter_eq_ok.mp hinstall
  exact isEncrypted_setTls12Keys writer cipher

theorem isEncrypted_of_installOnReader {keyed : RecordReader}
    (hinstall : keys.installOnReader reader = .ok keyed) : keyed.isEncrypted = true := by
  obtain ⟨cipher, _, rfl⟩ := installOnReader_eq_ok.mp hinstall
  simp [RecordReader.isEncrypted, RecordReader.setTls12Keys]

theorem clientFlightRecords_sends
    (hflight : clientFlightRecords crypto flight writer = (last, .ok bytes)) :
    Sends12 crypto bytes flight.clientFinished ∧ last.isEncrypted = true := by
  simp only [clientFlightRecords, bind_returns, pure_returns, installOnWriter_returns] at hflight
  obtain ⟨_, certificate, _, _, keyExchange, _, changed, ccs, hccs, keyed, _, hkeyed, _, finished,
    hfinished, rfl, rfl⟩ := hflight
  constructor
  · exact .intro rfl hccs hkeyed hfinished
  · rw [isEncrypted_of_writeRecord hfinished]
    exact isEncrypted_of_installOnWriter hkeyed

theorem abbreviatedFlightRecords_sends {flight : Tls12AbbreviatedFlight}
    (hflight : abbreviatedFlightRecords crypto flight writer = (last, .ok bytes)) :
    Sends12 crypto bytes flight.clientFinished ∧ last.isEncrypted = true := by
  simp only [abbreviatedFlightRecords, bind_returns, pure_returns,
    installOnWriter_returns] at hflight
  obtain ⟨changed, ccs, hccs, keyed, _, hkeyed, _, finished, hfinished, rfl, rfl⟩ := hflight
  have hbytes : ccs ++ finished = [] ++ ccs ++ finished := rfl
  constructor
  · exact .intro hbytes hccs hkeyed hfinished
  · rw [isEncrypted_of_writeRecord hfinished]
    exact isEncrypted_of_installOnWriter hkeyed

theorem isEncrypted_of_writeOptional {message : Option Bytes}
    (hwrite : writeOptional crypto message writer = (last, .ok bytes)) :
    last.isEncrypted = writer.isEncrypted := by
  cases message with
  | none =>
    cases hwrite
    rfl
  | some message => exact isEncrypted_of_writeRecord hwrite

theorem finalFlightRecords_sends {complete : HandshakeComplete} (hkeyed : writer.isEncrypted = true)
    (hflight : finalFlightRecords crypto complete writer = (last, .ok bytes)) :
    Sends13 crypto bytes complete.clientFinished := by
  simp only [finalFlightRecords, bind_returns, pure_returns] at hflight
  obtain ⟨_, clientEe, hclientEe, _, certificate, hcertificate, _, finished, hfinished, rfl,
    rfl⟩ := hflight
  refine .intro rfl ?_ hfinished
  rw [isEncrypted_of_writeOptional hcertificate, isEncrypted_of_writeOptional hclientEe, hkeyed]

variable {messages : List Bytes}

/-- No message of the server flight makes a handshake abbreviated. -/
theorem abbreviated_of_steps {action : Tls12HandshakeAction}
    (hsteps : Tls12Handshake.Steps crypto handshake messages next action)
    (hfull : handshake.abbreviated = false) : next.abbreviated = false := by
  apply hsteps.induct (fun state => state.abbreviated = false) hfull
  intro state message after action hstate hstep
  cases hstep with
  | serverHello _ _ _ =>
    obtain ⟨extended, alpn, transcript, hfields⟩ := state.afterServerHello_eq _ message
    rw [hfields]
    exact hstate
  | certificate | hashed | serverKeyExchange | certificateRequest | serverHelloDone =>
    exact hstate

/-- The flight after a ServerHelloDone is handed out with the keys. -/
theorem flightHanded_of_steps
    (hsteps : Tls12Handshake.Steps crypto handshake messages next (.sendClientFlight flight))
    (hflight : clientFlightRecords crypto flight writer = (last, .ok bytes)) :
    FlightHanded crypto (handed ++ [bytes]) next := by
  obtain ⟨first, message, dropped, held, values, _, _, _, rfl, rfl⟩ := hsteps.flight
  exact ⟨values.masterSecret, held.exchangeTranscript message values, rfl, bytes, by simp,
    (clientFlightRecords_sends hflight).1⟩

end Flights

/-! ## The invariant -/

/-- What a pass hands out. -/
def handedBy : Result (Option HandshakeOutput) → List Bytes
  | .ok (some output) => [output.toSend]
  | .ok none => []
  | .error _ => []

variable {crypto : Primitives} {events : List Event} {driver : HandshakeDriver}

theorem KeysByState.transition {next : HandshakeDriver} {result : Result (Option HandshakeOutput)}
    (hkeys : KeysByState crypto handed driver)
    (htransition : Transition crypto driver events next result) :
    KeysByState crypto (handed ++ handedBy result) next := by
  cases htransition with
  | readFailed hread | ignored hread | rejected hread => exact (hkeys.read hread).mono _
  | needData => exact hkeys.mono _
  | failed hstate => exact keysByState_complete hstate
  | hello13 =>
    exact isEncrypted_setKeys _ _
  | retry hstate hread hversion hprocess hccs =>
    rw [KeysByState, hstate] at hkeys
    exact (isEncrypted_of_writeRecord hccs).trans hkeys
  | hello12 hstate hread hversion hsentinel hrandom hprocess =>
    rw [KeysByState, hstate] at hkeys
    rw [takeCompleteHandshakeMessages_getD] at hprocess
    exact ⟨hkeys, abbreviated_of_steps
      (Tls12Handshake.processHandshakeRecord_steps hprocess) rfl⟩
  | hello12Flight hstate hread hversion hsentinel hrandom hprocess hflight =>
    rw [takeCompleteHandshakeMessages_getD] at hprocess
    have hsteps := Tls12Handshake.processHandshakeRecord_steps hprocess
    have hfull := abbreviated_of_steps hsteps rfl
    simp only [KeysByState, hfull]
    exact ⟨(clientFlightRecords_sends hflight).2, nofun, flightHanded_of_steps hsteps hflight⟩
  | encrypted13 hstate =>
    rw [KeysByState, hstate] at hkeys
    exact hkeys
  | done13 | abbreviatedDone | done12 => exact keysByState_complete rfl
  | flight12 hstate hread hprocess =>
    rw [KeysByState, hstate] at hkeys
    rw [messagesWith_eq] at hprocess
    exact ⟨hkeys.1, abbreviated_of_steps
      (Tls12Handshake.processHandshakeRecord_steps hprocess) hkeys.2⟩
  | clientFlight12 hstate hread hprocess hflight =>
    rw [KeysByState, hstate] at hkeys
    rw [messagesWith_eq] at hprocess
    have hsteps := Tls12Handshake.processHandshakeRecord_steps hprocess
    have hfull := abbreviated_of_steps hsteps hkeys.2
    simp only [KeysByState, hfull]
    exact ⟨(clientFlightRecords_sends hflight).2, nofun, flightHanded_of_steps hsteps hflight⟩
  | abbreviatedWaits hstate hwaits hread hfirst haccept =>
    rw [KeysByState, hstate] at hkeys
    obtain ⟨masterSecret, rfl⟩ := Tls12Handshake.acceptAbbreviatedCcs_ok haccept
    exact hkeys.1
  | ccs12 hstate hread hccs hinstall =>
    rw [KeysByState, hstate] at hkeys
    apply KeysByState.mono
    simp only [KeysByState] at hkeys ⊢
    split at hkeys
    next habbreviated =>
      rw [if_pos habbreviated]
      exact hkeys
    next hfull =>
      rw [if_neg hfull]
      exact ⟨hkeys.1, fun _ => isEncrypted_of_installOnReader hinstall, hkeys.2.2⟩
  | fed12 hstate =>
    rw [KeysByState, hstate] at hkeys
    apply KeysByState.mono
    simp only [KeysByState] at hkeys ⊢
    split at hkeys
    next habbreviated =>
      rw [if_pos (by exact habbreviated)]
      exact hkeys
    next hfull =>
      rw [if_neg (by exact hfull)]
      exact ⟨hkeys.1, nofun, hkeys.2.2⟩

theorem Run.keysByState {config : HandshakeConfig} (hrun : Run crypto config handed events driver) :
    KeysByState crypto handed driver := by
  apply hrun.induct (fun handed _ driver => KeysByState crypto handed driver)
  · intro driver chRecord handshake chMsg hstart hstate
    obtain ⟨handshake, chMsg, writer, _, hwrite, rfl⟩ := start_returns hstart
    exact isEncrypted_of_writeRecord hwrite
  · intro handed events driver data hkeys
    exact hkeys.congr rfl rfl rfl
  · intro handed events driver passed next hkeys htransition
    have hnext := hkeys.transition htransition
    rwa [handedBy, append_nil] at hnext
  · intro handed events driver passed next output hkeys htransition
    exact hkeys.transition htransition
  · intro handed events driver passed next error hkeys htransition
    have hnext := hkeys.transition htransition
    rw [handedBy, append_nil] at hnext
    exact hnext.keepAlert error
  · intro handed events driver hkeys
    exact (hkeys.congr rfl rfl rfl).mono _

/-! ## The end of a handshake -/

section Done

variable {crypto : Primitives} {config : HandshakeConfig} {handed : List Bytes}
  {driver stop : HandshakeDriver} {events : List Event} {toSend : Bytes}
  {result : HandshakeResult}

theorem isEncrypted_of_skipsCcs {stop : RecordReader} {records : List PlaintextRecord}
    (hskips : SkipsCcs crypto reader records stop) : stop.isEncrypted = reader.isEncrypted := by
  induction hskips with
  | refl reader => rfl
  | step hread _ _ ih => rw [ih, isEncrypted_of_nextRecord hread]

theorem notifyServerCcsReceived_eq (handshake : Tls12Handshake) :
    ∃ state, handshake.notifyServerCcsReceived = { handshake with state := state } := by
  unfold Tls12Handshake.notifyServerCcsReceived
  split
  · exact ⟨_, rfl⟩
  · exact ⟨_, rfl⟩

/-- A transition that ends the handshake of a driver that is not parked ends it secured. -/
theorem secured_of_transition (hkeys : KeysByState crypto handed driver)
    (hfree : driver.parked = false)
    (htransition : Transition crypto driver events stop (.ok (some (.done toSend result)))) :
    Secured crypto (handed ++ [toSend]) events result := by
  cases htransition with
  | done13 hstate hread hprocess hflight =>
    rw [KeysByState, hstate] at hkeys
    rw [messagesWith_eq] at hprocess
    -- The Finished exchange of TLS 1.3 happens within one record.
    have hsteps := Tls13Handshake.processHandshakeRecord_steps hprocess
    rw [wholeMessages_wholeMessages] at hsteps
    obtain ⟨_, _, haction⟩ | ⟨first, message, held, between, hmessages, _, hstep⟩ := hsteps.last
    · cases haction
    · cases hstep with
      | finished _ _ hfinished =>
        have hlast := congrArg getLast? hmessages
        rw [getLast?_concat] at hlast
        exact ⟨rfl, rfl, .tls13 mem_cons_self hlast hfinished rfl rfl
          (mem_append_right _ mem_cons_self) (finalFlightRecords_sends hkeys hflight)⟩
  | abbreviatedDone hstate hwaits hread hfirst haccept hinstall hskips hfinished hprocess
      hflight =>
      have hsends := abbreviatedFlightRecords_sends hflight
      obtain ⟨masterSecret, verifyData, transcript, hverified, hclient, rfl⟩ :=
        Tls12Handshake.processAbbreviatedServerFinished_ok hprocess
      have hreader := (isEncrypted_of_nextRecord hfinished).trans
        ((isEncrypted_of_skipsCcs hskips).trans (isEncrypted_of_installOnReader hinstall))
      rw [hclient] at hsends
      exact ⟨hreader, hsends.2, .tls12 (by simp) hverified rfl
        (mem_append_right _ mem_cons_self) hsends.1⟩
  | done12 hstate hread hprocess =>
    rw [parked, hstate] at hfree
    rw [KeysByState, hstate] at hkeys
    simp only at hfree hkeys
    rw [hfree, if_neg Bool.false_ne_true] at hkeys
    obtain ⟨hwriter, hreader, hflight⟩ := hkeys
    have hkeyed := (isEncrypted_of_nextRecord hread).trans (hreader trivial)
    -- The client flight of a full TLS 1.2 handshake has come before the server Finished.
    obtain ⟨state, hnotified⟩ := notifyServerCcsReceived_eq _
    rw [hnotified] at hprocess
    obtain ⟨masterSecret, verifyData, transcript, hverified, rfl⟩ :=
      Tls12Handshake.processServerFinished_ok hprocess
    obtain ⟨secret, fed, hsecret, toSend, hmem, hsends⟩ := hflight.mono [[]]
    obtain rfl : secret = masterSecret :=
      Option.some.inj (hsecret.symm.trans hverified.masterSecret_eq)
    exact ⟨hkeyed, hwriter, .tls12 mem_cons_self hverified rfl hmem hsends⟩

/-- The writer of a parked driver was never given keys. -/
theorem plaintext_of_transition (hkeys : KeysByState crypto handed driver)
    (hparked : driver.parked = true)
    (htransition : Transition crypto driver events stop (.ok (some (.done toSend result)))) :
    result.writer.isEncrypted = false := by
  cases htransition with
  | done13 hstate | abbreviatedDone hstate =>
    rw [parked, hstate] at hparked
    cases hparked
  | done12 hstate =>
    rw [parked, hstate] at hparked
    rw [KeysByState, hstate] at hkeys
    simp only at hparked hkeys
    rw [if_pos hparked] at hkeys
    exact hkeys

/-- Going round again does not park a driver. -/
theorem parked_eq_of_again (htransition : Transition crypto driver events stop (.ok none)) :
    stop.parked = driver.parked := by
  cases htransition with
  | ignored => rfl
  | hello12 hstate | encrypted13 hstate | flight12 hstate | ccs12 hstate =>
    simp only [parked, hstate]
  | fed12 hstate =>
    simp only [parked, hstate]
    rfl

theorem FinishedExchange.mono (hexchange : FinishedExchange crypto handed events result)
    (before : List Event) : FinishedExchange crypto handed (before ++ events) result := by
  cases hexchange with
  | tls13 hreceived hmessage hverified hcertificates hsecrets hhanded hsends =>
    exact .tls13 (mem_append_right _ hreceived) hmessage hverified hcertificates hsecrets
      hhanded hsends
  | tls12 hreceived hverified hcertificates hhanded hsends =>
    exact .tls12 (mem_append_right _ hreceived) hverified hcertificates hhanded hsends

theorem Secured.mono (hsecured : Secured crypto handed events result) (before : List Event) :
    Secured crypto handed (before ++ events) result :=
  ⟨hsecured.reader, hsecured.writer, hsecured.finished.mono before⟩

/-- **A handshake never completes in plaintext, unless the call finds the driver parked.** In
every run, a call of `progress` that returns `Done` returns a keyed record layer, with a verified
server Finished and a client Finished that has been handed out, exactly if the driver was not
parked in the abbreviated handshake when it was called. -/
theorem done_secured_iff_not_parked (hrun : Run crypto config handed events driver)
    (hprogress : progress crypto driver = (stop, .ok (.done toSend result))) :
    ∃ passed, Run crypto config (handed ++ [toSend]) (events ++ passed) stop ∧
      (Secured crypto (handed ++ [toSend]) (events ++ passed) result ↔ driver.parked = false) := by
  obtain ⟨passed, hpasses⟩ := progress_returns hprogress
  refine ⟨passed, hrun.returns hprogress hpasses, ?_⟩
  obtain ⟨seen, last, final, heq, ⟨hkeys, hparked⟩, hleave⟩ := hpasses.last
    (fun _ state => KeysByState crypto handed state ∧ state.parked = driver.parked)
    (by
      rintro seen state passed next ⟨hkeys, hparked⟩ htransition
      have hnext := hkeys.transition htransition
      rw [handedBy, append_nil] at hnext
      exact ⟨hnext, (parked_eq_of_again htransition).trans hparked⟩)
    ⟨hrun.keysByState, rfl⟩
  rw [heq]
  constructor
  · intro hsecured
    cases hcalled : driver.parked with
    | false => rfl
    | true =>
      have hplain := plaintext_of_transition hkeys (hparked.trans hcalled) hleave
      exact absurd (hplain.symm.trans hsecured.writer) (by decide)
  · intro hfree
    exact (secured_of_transition hkeys (hparked.trans hfree) hleave).mono seen

end Done

end HandshakeDriver

/-! ## An abbreviated handshake

A client that offers the TLS 1.2 ticket `01 02 03 04`, and a server that resumes the session. The
recorded values are those of SHA-256, HMAC-SHA256 and AES-128-GCM. -/

namespace Resumption

def masterSecret : Bytes := List.replicate 48 0x11

def ticket : SessionTicketData where
  ticket := [0x01, 0x02, 0x03, 0x04]
  resumptionPsk := []
  tlsVersion := .tls12
  cipherSuite := 0xc02f
  lifetimeSecs := 3600
  ageAdd := 0
  alpn := none
  hkdfAlgorithm := .sha256
  aeadAlgorithm := .aes128Gcm
  masterSecret := masterSecret
  maxEarlyDataSize := 0
  peerTransportParameters := none

def config : HandshakeConfig where
  profile := {
    tlsMinVersion := .tls12
    tlsMaxVersion := .tls12
    cipherSuites := [0xc02f]
    extensions := [⟨ExtType.sessionTicket, .auto⟩]
    supportedGroups := []
    signatureAlgorithms := []
    keyShareCurves := []
    sessionIdLength := 0 }
  hostname := "example.com"
  port := 443
  verificationPolicy := .strict
  alpsPayload := none
  sessionStore := some (some ticket)
  echConfigList := none
  customCaAnchors := []

def clientHello : Bytes :=
  [0x01, 0x00, 0x00, 0x33, 0x03, 0x03] ++ List.replicate 32 0x22 ++
    [0x00, 0x00, 0x02, 0xc0, 0x2f, 0x01, 0x00, 0x00, 0x08, 0x00, 0x23, 0x00, 0x04, 0x01, 0x02,
      0x03, 0x04]

def serverHello : Bytes :=
  [0x02, 0x00, 0x00, 0x26, 0x03, 0x03] ++ List.replicate 32 0x33 ++ [0x00, 0xc0, 0x2f, 0x00]

def serverFinished : Bytes := ofHex 16 0x1400000cab304b0ef70de1a22170e2a4

def clientFinished : Bytes := ofHex 16 0x1400000ce9a9c98f13a3619e8bcf212a

def sealedServerFinished : Bytes :=
  ofHex 32 0x01a7d6ce4d48f1925024d599e6d0cbce80c0557f25f1e689cbbadbd3369c2d76

def sealedClientFinished : Bytes :=
  ofHex 32 0x040a1b6a2a35c839a3840a04288bca1f7c7d3545f462777eca53a58ce3775201

/-- One block of the PRF under the master secret. -/
def prfBlock (seed link linked block : Bytes) : List HmacCall :=
  [⟨.sha256, masterSecret, link, linked⟩, ⟨.sha256, masterSecret, linked ++ seed, block⟩]

def keySeed : Bytes :=
  utf8 "key expansion" ++ List.replicate 32 0x33 ++ List.replicate 32 0x22

def keyLink : Bytes :=
  ofHex 32 0x1e6dbca92182b96613de61dd9196345766fad27379e9d73ea42c487a5eee763f

def serverSeed : Bytes := utf8 "server finished" ++
  ofHex 32 0x17fa759fa45a69ed0ad79c88820bc4d167563fbe2b6bab2dfb478ab82aa8016d

def clientSeed : Bytes := utf8 "client finished" ++
  ofHex 32 0x0a4c0f6f44ccbbb5ff2f0926fde6bcb39279720103e051599350bd7de9a3a9c3

/-- The additional data of both Finished records: sequence number, header and length. -/
def finishedAad : Bytes := List.replicate 8 0x00 ++ [0x16, 0x03, 0x03, 0x00, 0x10]

def recording : Recording where
  draws := [(.helloRandom 0, List.replicate 32 0x22)]
  digests :=
    [⟨.sha256, clientHello ++ serverHello, serverSeed.drop 15⟩,
      ⟨.sha256, clientHello ++ serverHello ++ serverFinished, clientSeed.drop 15⟩]
  hmacs :=
    prfBlock keySeed keySeed keyLink
      (ofHex 32 0x61f73b13f5b58a38033027737db6ca04327c3c5bbe33cd90dac795272b78ded9) ++
    prfBlock keySeed keyLink
      (ofHex 32 0xf8c2b7b8b7efdec84c9198687eddb519a595ea8a0aac527b1e76ca0d3bf9335d)
      (ofHex 32 0xbca930294ac57e87a48c4d9261063504d963070786308b358e7fea4965b43172) ++
    prfBlock serverSeed serverSeed
      (ofHex 32 0x39e8e8e1c5ad6afba77137afee9fdca075fa068deab60883d7048224ecc86f31)
      (ofHex 32 0xab304b0ef70de1a22170e2a482e2ed17534afefa00e646a3e7375a43c8e776af) ++
    prfBlock clientSeed clientSeed
      (ofHex 32 0xca2e77ec6b39647078b2c52b21b4c79c11a2d87a3972a82ce83085c97d1fac4d)
      (ofHex 32 0xe9a9c98f13a3619e8bcf212a64b029ce7ad733dab3b293c0c5e4d3f2383ccc8f)
  seals :=
    [⟨.aes128Gcm, ofHex 16 0x327c3c5bbe33cd90dac795272b78ded9,
        ofHex 4 0x4ac57e87 ++ List.replicate 8 0x00, finishedAad, serverFinished,
        sealedServerFinished⟩,
      ⟨.aes128Gcm, ofHex 16 0x61f73b13f5b58a38033027737db6ca04,
        ofHex 4 0xbca93029 ++ List.replicate 8 0x00, finishedAad, clientFinished,
        sealedClientFinished⟩]

abbrev crypto : Primitives := recording.primitives

def helloRecord : Bytes := [0x16, 0x03, 0x01, 0x00, 0x37] ++ clientHello

/-- The ServerHello and the change of ciphers. -/
def serverFlight : Bytes :=
  [0x16, 0x03, 0x03, 0x00, 0x2a] ++ serverHello ++ [0x14, 0x03, 0x03, 0x00, 0x01, 0x01]

def finishedRecord : Bytes :=
  [0x16, 0x03, 0x03, 0x00, 0x28] ++ List.replicate 8 0x00 ++ sealedServerFinished

def clientFlight : Bytes :=
  [0x14, 0x03, 0x03, 0x00, 0x01, 0x01] ++ [0x16, 0x03, 0x03, 0x00, 0x28] ++
    List.replicate 8 0x00 ++ sealedClientFinished

def started : HandshakeDriver := (HandshakeDriver.start crypto (.new config)).1

/-- The driver once the ServerHello and the change of ciphers have come, without the Finished. -/
def opened : HandshakeDriver := (started.feed serverFlight |>.progress crypto).1

open HandshakeDriver

theorem start_eq : start crypto (.new config) = (started, .ok helloRecord) :=
  Prod.ext rfl (by decide +kernel)

/-- Delivered at once, the flight of the server completes the handshake, and the answer ends with
the client Finished. -/
theorem secured_at_once :
    ∃ events result,
      (progress crypto (started.feed (serverFlight ++ finishedRecord))).2 =
        .ok (.done clientFlight result) ∧
      Secured crypto [helloRecord, clientFlight] events result := by
  obtain ⟨events, hrun⟩ := exists_run_of_start start_eq
  obtain ⟨toSend, result, hprogress, rfl⟩ := HandshakeOutput.exists_of_completed
    (show (HandshakeOutput.completed (progress crypto
      (started.feed (serverFlight ++ finishedRecord))).2).map Prod.fst = some clientFlight by
        decide +kernel)
  obtain ⟨passed, -, hsecured⟩ :=
    done_secured_iff_not_parked (hrun.feed _) (Prod.ext rfl hprogress)
  exact ⟨_, result, hprogress, hsecured.mpr (by decide +kernel)⟩

/-- Delivered in two parts, cut before the Finished, the same flight completes the handshake with a
writer that has no keys, and no client Finished is handed out. -/
theorem unsecured_when_parked :
    ∃ events stop result,
      Run crypto config [helloRecord, []] events (opened.feed finishedRecord) ∧
      progress crypto (opened.feed finishedRecord) = (stop, .ok (.done [] result)) ∧
      result.writer.isEncrypted = false := by
  obtain ⟨events, hrun⟩ := exists_run_of_start start_eq
  have hwaits : progress crypto (started.feed serverFlight) =
      (opened, .ok .needData) := Prod.ext rfl (by decide +kernel)
  obtain ⟨passed, hopened⟩ := (hrun.feed serverFlight).exists_of_progress hwaits
  obtain ⟨toSend, result, hprogress, hview⟩ := HandshakeOutput.exists_of_completed
    (show (HandshakeOutput.completed (progress crypto
      (opened.feed finishedRecord)).2).map (fun done => (done.1, done.2.writer.isEncrypted)) =
        some ([], false) by decide +kernel)
  obtain ⟨rfl, hplain⟩ := Prod.mk.inj hview
  exact ⟨passed, _, result, hopened.feed _, Prod.ext rfl hprogress, hplain⟩

end Resumption

end LkRequest.Handshake
