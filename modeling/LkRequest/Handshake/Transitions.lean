import LkRequest.Handshake.Driver

/-!
# The transitions of the handshake driver

One pass of the driver's loops reads a record and acts on it. `Transition` lists everything a pass
can do, with the records it reads and the messages it writes. The lemmas below peel the actions of
the driver apart; that the code does nothing else is `HandshakeDriver.body_transition`.
-/

namespace LkRequest.Handshake

open Library Crypto Profile Hello Session Verify Record Action

/-- A handshake record. -/
def handshakeRec (payload : Bytes) : PlaintextRecord := ⟨ContentType.handshake, payload⟩

/-- What a driver exchanges with its peer: a record read, or a handshake message written. -/
inductive Event where
  | received (record : PlaintextRecord)
  | sent (message : Bytes)

/-- The messages of a flight in the order in which they are written. -/
def Tls12ClientFlight.messages (flight : Tls12ClientFlight) : List Bytes :=
  flight.clientCertificate.toList ++ [flight.clientKeyExchange, flight.clientFinished]

/-- The messages after the server Finished in the order in which they are written. -/
def HandshakeComplete.messages (complete : HandshakeComplete) : List Bytes :=
  complete.clientEncryptedExtensions.toList ++ complete.clientCertificate.toList ++
    [complete.clientFinished]

/-- Records of changes of ciphers that are read and passed over. -/
inductive SkipsCcs (crypto : Primitives) : RecordReader → List PlaintextRecord → RecordReader → Prop
  | refl (reader : RecordReader) : SkipsCcs crypto reader [] reader
  | step {reader next stop : RecordReader} {record : PlaintextRecord}
      {records : List PlaintextRecord}
      (hread : reader.nextRecord crypto = (next, .ok (some record)))
      (hccs : record.contentType = ContentType.changeCipherSpec)
      (hrest : SkipsCcs crypto next records stop) :
      SkipsCcs crypto reader (record :: records) stop

theorem SkipsCcs.snoc {crypto : Primitives} {reader next stop : RecordReader}
    {record : PlaintextRecord} {records : List PlaintextRecord}
    (hskips : SkipsCcs crypto reader records next)
    (hread : next.nextRecord crypto = (stop, .ok (some record)))
    (hccs : record.contentType = ContentType.changeCipherSpec) :
    SkipsCcs crypto reader (records ++ [record]) stop := by
  induction hskips with
  | refl reader => exact .step hread hccs (.refl stop)
  | step hfirst hfirstCcs _ ih => exact .step hfirst hfirstCcs (ih hread)

namespace HandshakeDriver

/-- The driver after a handshake has ended: the record layer has gone to the result. -/
def ended (driver : HandshakeDriver) : HandshakeDriver :=
  { driver with state := .complete, reader := .new, writer := .new }

/-- What one pass can do: what it exchanges, the driver it leaves and its result. -/
inductive Transition (crypto : Primitives) (driver : HandshakeDriver) :
    List Event → HandshakeDriver → Result (Option HandshakeOutput) → Prop
  | readFailed {reader : RecordReader} {error : TlsError}
      (hread : driver.reader.nextRecord crypto = (reader, .error error)) :
      Transition crypto driver [] { driver with reader := reader } (.error error)
  | needData (hread : driver.reader.nextRecord crypto = (driver.reader, .ok none)) :
      Transition crypto driver [] driver (.ok (some .needData))
  | ignored {reader : RecordReader} {record : PlaintextRecord}
      (hread : driver.reader.nextRecord crypto = (reader, .ok (some record)))
      (hkind : record.contentType ≠ ContentType.handshake) :
      Transition crypto driver [.received record] { driver with reader := reader } (.ok none)
  | rejected {reader : RecordReader} {record : PlaintextRecord} {error : TlsError}
      (hread : driver.reader.nextRecord crypto = (reader, .ok (some record)))
      (hkind : record.contentType ≠ ContentType.handshake) :
      Transition crypto driver [.received record] { driver with reader := reader } (.error error)
  | failed {events : List Event} {stop : HandshakeDriver} {error : TlsError}
      (hstate : stop.state = .complete) (hconfig : stop.config = driver.config) :
      Transition crypto driver events stop (.error error)
  | hello13 {handshake next : Tls13Handshake} {chMsg payload ccs : Bytes} {keys : HandshakeKeys}
      {reader : RecordReader} {writer : RecordWriter} {readAead writeAead : Aead}
      (hstate : driver.state = .waitServerHello handshake chMsg)
      (hread : driver.reader.nextRecord crypto = (reader, .ok (some (handshakeRec payload))))
      (hversion : detectVersionFromServerHello payload = .ok 0x0304)
      (hprocess : handshake.processHandshakeRecord crypto payload =
        .ok (next, .installHandshakeKeys keys))
      (hccs : middleboxCcs crypto next driver.writer = (writer, .ok ccs))
      (hreadKeys : Aead.new keys.aeadAlgorithm keys.serverKey keys.serverIv = .ok readAead)
      (hwriteKeys : Aead.new keys.aeadAlgorithm keys.clientKey keys.clientIv = .ok writeAead) :
      Transition crypto driver [.received (handshakeRec payload)]
        { driver with
          state := .tls13Encrypted next
          reader := reader.setKeys readAead
          writer := writer.setKeys writeAead } (.ok (some (.sendData ccs)))
  | retry {handshake next : Tls13Handshake} {chMsg payload ccs ch2 ch2Record : Bytes}
      {reader : RecordReader} {writer : RecordWriter}
      (hstate : driver.state = .waitServerHello handshake chMsg)
      (hread : driver.reader.nextRecord crypto = (reader, .ok (some (handshakeRec payload))))
      (hversion : detectVersionFromServerHello payload = .ok 0x0304)
      (hprocess : handshake.processHandshakeRecord crypto payload =
        .ok (next, .retryClientHello ch2))
      (hccs : driver.writer.writeRecord crypto ContentType.changeCipherSpec [0x01] =
        (writer, .ok ccs))
      (hch2 : (RecordWriter.new.markPostInitial.writeRecord crypto ContentType.handshake ch2).2 =
        .ok ch2Record) :
      Transition crypto driver [.received (handshakeRec payload), .sent ch2]
        { driver with
          state := .waitServerHello next ch2
          reader := reader
          writer := writer } (.ok (some (.sendData (ccs ++ ch2Record))))
  | hello12 {handshake : Tls13Handshake} {next : Tls12Handshake}
      {chMsg payload clientRandom : Bytes} {action : Tls12HandshakeAction} {reader : RecordReader}
      (hstate : driver.state = .waitServerHello handshake chMsg)
      (hread : driver.reader.nextRecord crypto = (reader, .ok (some (handshakeRec payload))))
      (hversion : detectVersionFromServerHello payload = .ok 0x0303)
      (hsentinel : checkDowngrade driver.config payload = .ok ())
      (hrandom : slice? chMsg 6 38 = some clientRandom)
      (hprocess : (initialTls12 driver.config driver.originalTicket clientRandom
        chMsg).processHandshakeRecord crypto
          ((takeCompleteHandshakeMessages payload).1.getD []) = .ok (next, action))
      (haction : ∀ flight, action ≠ .sendClientFlight flight) :
      Transition crypto driver [.received (handshakeRec payload)]
        { driver with
          state := .tls12ServerFlight next clientRandom
          reader := reader
          hsBuffer := (takeCompleteHandshakeMessages payload).2
          originalTicket := none } (.ok none)
  | hello12Flight {handshake : Tls13Handshake} {next : Tls12Handshake}
      {chMsg payload clientRandom bytes : Bytes} {flight : Tls12ClientFlight}
      {reader : RecordReader} {writer : RecordWriter}
      (hstate : driver.state = .waitServerHello handshake chMsg)
      (hread : driver.reader.nextRecord crypto = (reader, .ok (some (handshakeRec payload))))
      (hversion : detectVersionFromServerHello payload = .ok 0x0303)
      (hsentinel : checkDowngrade driver.config payload = .ok ())
      (hrandom : slice? chMsg 6 38 = some clientRandom)
      (hprocess : (initialTls12 driver.config driver.originalTicket clientRandom
        chMsg).processHandshakeRecord crypto
          ((takeCompleteHandshakeMessages payload).1.getD []) =
        .ok (next, .sendClientFlight flight))
      (hflight : clientFlightRecords crypto flight driver.writer = (writer, .ok bytes)) :
      Transition crypto driver
        (.received (handshakeRec payload) :: flight.messages.map .sent)
        { driver with
          state := .tls12WaitServerFinished next clientRandom flight.trafficKeys false
          reader := reader
          writer := writer
          hsBuffer := (takeCompleteHandshakeMessages payload).2
          originalTicket := none } (.ok (some (.sendData bytes)))
  | encrypted13 {handshake next : Tls13Handshake} {payload : Bytes} {reader : RecordReader}
      (hstate : driver.state = .tls13Encrypted handshake)
      (hread : driver.reader.nextRecord crypto = (reader, .ok (some (handshakeRec payload))))
      (hprocess : handshake.processHandshakeRecord crypto (driver.messagesWith payload) =
        .ok (next, .continueReading)) :
      Transition crypto driver [.received (handshakeRec payload)]
        { driver with
          state := .tls13Encrypted next
          reader := reader
          hsBuffer := driver.trailerWith payload } (.ok none)
  | done13 {handshake next : Tls13Handshake} {payload toSend : Bytes}
      {complete : HandshakeComplete} {reader : RecordReader} {writer : RecordWriter}
      {readAead writeAead : Aead}
      (hstate : driver.state = .tls13Encrypted handshake)
      (hread : driver.reader.nextRecord crypto = (reader, .ok (some (handshakeRec payload))))
      (hprocess : handshake.processHandshakeRecord crypto (driver.messagesWith payload) =
        .ok (next, .complete complete))
      (hflight : finalFlightRecords crypto complete driver.writer = (writer, .ok toSend))
      (hreadKeys : Aead.new complete.trafficSecrets.aeadAlgorithm
        complete.trafficSecrets.serverKey complete.trafficSecrets.serverIv = .ok readAead)
      (hwriteKeys : Aead.new complete.trafficSecrets.aeadAlgorithm
        complete.trafficSecrets.clientKey complete.trafficSecrets.clientIv = .ok writeAead) :
      Transition crypto driver
        (.received (handshakeRec payload) :: complete.messages.map .sent)
        { driver with hsBuffer := driver.trailerWith payload }.ended
        (.ok (some (.done toSend (tls13Result driver.config complete (reader.setKeys readAead)
          (writer.setKeys writeAead)))))
  | flight12 {handshake next : Tls12Handshake} {clientRandom payload : Bytes}
      {reader : RecordReader}
      (hstate : driver.state = .tls12ServerFlight handshake clientRandom)
      (hread : driver.reader.nextRecord crypto = (reader, .ok (some (handshakeRec payload))))
      (hprocess : handshake.processHandshakeRecord crypto (driver.messagesWith payload) =
        .ok (next, .continueReading)) :
      Transition crypto driver [.received (handshakeRec payload)]
        { driver with
          state := .tls12ServerFlight next clientRandom
          reader := reader
          hsBuffer := driver.trailerWith payload } (.ok none)
  | clientFlight12 {handshake next : Tls12Handshake} {clientRandom payload bytes : Bytes}
      {flight : Tls12ClientFlight} {reader : RecordReader} {writer : RecordWriter}
      (hstate : driver.state = .tls12ServerFlight handshake clientRandom)
      (hread : driver.reader.nextRecord crypto = (reader, .ok (some (handshakeRec payload))))
      (hprocess : handshake.processHandshakeRecord crypto (driver.messagesWith payload) =
        .ok (next, .sendClientFlight flight))
      (hflight : clientFlightRecords crypto flight driver.writer = (writer, .ok bytes)) :
      Transition crypto driver
        (.received (handshakeRec payload) :: flight.messages.map .sent)
        { driver with
          state := .tls12WaitServerFinished next clientRandom flight.trafficKeys false
          reader := reader
          writer := writer
          hsBuffer := driver.trailerWith payload } (.ok (some (.sendData bytes)))
  | abbreviatedDone {handshake accepted next : Tls12Handshake}
      {clientRandom payload toSend : Bytes} {keys : Tls12TrafficKeys}
      {flight : Tls12AbbreviatedFlight} {first : PlaintextRecord}
      {skipped : List PlaintextRecord} {afterCcs keyed before reader : RecordReader}
      {writer : RecordWriter}
      (hstate : driver.state = .tls12ServerFlight handshake clientRandom)
      (hwaits : handshake.state = .waitCertificateOrAbbreviated)
      (hread : driver.reader.nextRecord crypto = (afterCcs, .ok (some first)))
      (hfirst : first.contentType = ContentType.changeCipherSpec)
      (haccept : handshake.acceptAbbreviatedCcs crypto = .ok (accepted, keys))
      (hinstall : keys.installOnReader afterCcs = .ok keyed)
      (hskips : SkipsCcs crypto keyed skipped before)
      (hfinished : before.nextRecord crypto = (reader, .ok (some (handshakeRec payload))))
      (hprocess : accepted.processAbbreviatedServerFinished crypto payload = .ok (next, flight))
      (hflight : abbreviatedFlightRecords crypto flight driver.writer = (writer, .ok toSend)) :
      Transition crypto driver
        ((first :: skipped ++ [handshakeRec payload]).map .received ++
          [.sent flight.clientFinished])
        driver.ended
        (.ok (some (.done toSend (tls12Result next flight.trafficKeys reader writer))))
  | abbreviatedWaits {handshake accepted : Tls12Handshake} {clientRandom : Bytes}
      {keys : Tls12TrafficKeys} {first : PlaintextRecord} {skipped : List PlaintextRecord}
      {afterCcs keyed reader : RecordReader}
      (hstate : driver.state = .tls12ServerFlight handshake clientRandom)
      (hwaits : handshake.state = .waitCertificateOrAbbreviated)
      (hread : driver.reader.nextRecord crypto = (afterCcs, .ok (some first)))
      (hfirst : first.contentType = ContentType.changeCipherSpec)
      (haccept : handshake.acceptAbbreviatedCcs crypto = .ok (accepted, keys))
      (hinstall : keys.installOnReader afterCcs = .ok keyed)
      (hskips : SkipsCcs crypto keyed skipped reader) :
      Transition crypto driver ((first :: skipped).map .received)
        { driver with
          state := .tls12WaitServerFinished accepted clientRandom keys true
          reader := reader } (.ok (some .needData))
  | ccs12 {handshake : Tls12Handshake} {clientRandom : Bytes} {keys : Tls12TrafficKeys}
      {record : PlaintextRecord} {reader keyed : RecordReader}
      (hstate : driver.state = .tls12WaitServerFinished handshake clientRandom keys false)
      (hread : driver.reader.nextRecord crypto = (reader, .ok (some record)))
      (hccs : record.contentType = ContentType.changeCipherSpec)
      (hinstall : keys.installOnReader reader = .ok keyed) :
      Transition crypto driver [.received record]
        { driver with
          state := .tls12WaitServerFinished handshake clientRandom keys true
          reader := keyed } (.ok none)
  | fed12 {handshake : Tls12Handshake} {clientRandom payload : Bytes} {keys : Tls12TrafficKeys}
      {reader : RecordReader} {stored : List SessionTicketData}
      (hstate : driver.state = .tls12WaitServerFinished handshake clientRandom keys false)
      (hread : driver.reader.nextRecord crypto = (reader, .ok (some (handshakeRec payload)))) :
      Transition crypto driver [.received (handshakeRec payload)]
        { driver with
          state := .tls12WaitServerFinished (handshake.feedHandshakeMessage payload) clientRandom
            keys false
          reader := reader
          stored := stored } (.ok none)
  | done12 {handshake next : Tls12Handshake} {clientRandom payload : Bytes}
      {keys : Tls12TrafficKeys} {action : Tls12HandshakeAction} {reader : RecordReader}
      (hstate : driver.state = .tls12WaitServerFinished handshake clientRandom keys true)
      (hread : driver.reader.nextRecord crypto = (reader, .ok (some (handshakeRec payload))))
      (hprocess : handshake.notifyServerCcsReceived.processServerFinished crypto payload =
        .ok (next, action)) :
      Transition crypto driver [.received (handshakeRec payload)] driver.ended
        (.ok (some (.done [] (tls12Result next keys reader driver.writer))))

/-! ## What the actions return -/

section Returns

variable {crypto : Primitives} {driver stop : HandshakeDriver}

variable {value : Unit} {keys : Tls12TrafficKeys} {payload : Bytes} {output : HandshakeOutput}
  {handshake : Tls12Handshake} {clientRandom : Bytes} {α : Type} {algorithm : AeadAlgorithm}
  {key iv : Bytes} {result : Option HandshakeOutput}

theorem setState_bind {state : DriverState} {rest : Unit → DriverM α} {value : α} :
    (setState state >>= rest) driver = (stop, .ok value) ↔
      rest () { driver with state := state } = (stop, .ok value) :=
  modify_bind

theorem onWriter_returns {action : WriterM α} {value : α} :
    onWriter action driver = (stop, .ok value) ↔
      ∃ writer, action driver.writer = (writer, .ok value) ∧
        stop = { driver with writer := writer } := by
  unfold onWriter
  rw [Prod.mk.injEq]
  constructor
  · rintro ⟨rfl, hvalue⟩
    exact ⟨_, Prod.ext rfl hvalue, rfl⟩
  · rintro ⟨writer, haction, rfl⟩
    rw [haction]
    exact ⟨rfl, rfl⟩

theorem nextRecord_returns {value : Option PlaintextRecord} :
    nextRecord crypto driver = (stop, .ok value) ↔
      ∃ reader, driver.reader.nextRecord crypto = (reader, .ok value) ∧
        stop = { driver with reader := reader } := by
  unfold nextRecord
  rw [Prod.mk.injEq]
  constructor
  · rintro ⟨rfl, hvalue⟩
    exact ⟨_, Prod.ext rfl hvalue, rfl⟩
  · rintro ⟨reader, haction, rfl⟩
    rw [haction]
    exact ⟨rfl, rfl⟩

theorem setReadKeys_returns : setReadKeys algorithm key iv driver = (stop, .ok value) ↔
      ∃ aead, Aead.new algorithm key iv = .ok aead ∧
        stop = { driver with reader := driver.reader.setKeys aead } := by
  simp only [setReadKeys, lift_bind, modify_returns]

theorem setWriteKeys_returns : setWriteKeys algorithm key iv driver = (stop, .ok value) ↔
      ∃ aead, Aead.new algorithm key iv = .ok aead ∧
        stop = { driver with writer := driver.writer.setKeys aead } := by
  simp only [setWriteKeys, lift_bind, modify_returns]

theorem installOnReader_returns :
    installOnReader keys driver = (stop, .ok value) ↔
      ∃ reader, keys.installOnReader driver.reader = .ok reader ∧
        stop = { driver with reader := reader } := by
  simp only [installOnReader, get_bind, lift_bind, modify_returns]

theorem takeRecordLayer_returns {value : RecordReader × RecordWriter} :
    takeRecordLayer driver = (stop, .ok value) ↔
      stop = { driver with reader := .new, writer := .new } ∧
        value = (driver.reader, driver.writer) := by
  unfold takeRecordLayer
  rw [Prod.mk.injEq, Except.ok.injEq, eq_comm, @eq_comm _ value]

theorem finishTls12_returns {toSend : Bytes} :
    finishTls12 handshake keys toSend driver = (stop, .ok output) ↔
      stop = driver.ended ∧
      output = .done toSend (tls12Result handshake keys driver.reader driver.writer) := by
  unfold finishTls12
  simp only [↓setState_bind, bind_returns, takeRecordLayer_returns, pure_returns]
  constructor
  · rintro ⟨_, _, ⟨rfl, rfl⟩, rfl, rfl⟩
    exact ⟨rfl, rfl⟩
  · rintro ⟨rfl, rfl⟩
    exact ⟨_, _, ⟨rfl, rfl⟩, rfl, rfl⟩

theorem finishTls12Full_returns {flight : Tls12ClientFlight}
    (hfinish : finishTls12Full crypto handshake clientRandom flight driver = (stop, .ok output)) :
    ∃ writer bytes, clientFlightRecords crypto flight driver.writer = (writer, .ok bytes) ∧
      stop = { driver with
        state := .tls12WaitServerFinished handshake clientRandom flight.trafficKeys false
        writer := writer } ∧
      output = .sendData bytes := by
  simp only [finishTls12Full, ↓setState_bind, bind_returns, onWriter_returns,
    pure_returns] at hfinish
  obtain ⟨_, bytes, ⟨writer, hflight, rfl⟩, rfl, rfl⟩ := hfinish
  exact ⟨writer, bytes, hflight, rfl, rfl⟩

theorem abbreviatedBody_again
    (hbody : abbreviatedBody crypto handshake clientRandom keys driver = (stop, .ok none)) :
    ∃ reader record, driver.reader.nextRecord crypto = (reader, .ok (some record)) ∧
      record.contentType = ContentType.changeCipherSpec ∧
      stop = { driver with reader := reader } := by
  simp only [abbreviatedBody, bind_returns, nextRecord_returns] at hbody
  obtain ⟨_, record, ⟨reader, hread, rfl⟩, hbody⟩ := hbody
  cases record with
  | none =>
    simp only [bind_returns, pure_returns] at hbody
    obtain ⟨_, _, _, _, hnone⟩ := hbody
    cases hnone
  | some record =>
    simp only at hbody
    split at hbody
    next hccs =>
      obtain ⟨rfl, _⟩ := pure_returns.mp hbody
      exact ⟨reader, record, hread, hccs, rfl⟩
    · split at hbody
      · simp only [bind_returns, pure_returns] at hbody
        obtain ⟨_, _, _, _, hnone⟩ := hbody
        cases hnone
      · exact absurd hbody fail_returns

theorem abbreviatedBody_leaves (hbody : abbreviatedBody crypto handshake clientRandom keys driver =
      (stop, .ok (some output))) :
    (∃ reader payload, driver.reader.nextRecord crypto =
        (reader, .ok (some (handshakeRec payload))) ∧
      completeTls12Abbreviated crypto handshake payload { driver with reader := reader } =
        (stop, .ok output)) ∨
    (driver.reader.nextRecord crypto = (driver.reader, .ok none) ∧
      stop = { driver with
        state := .tls12WaitServerFinished handshake clientRandom keys true } ∧
      output = .needData) := by
  simp only [abbreviatedBody, bind_returns, nextRecord_returns] at hbody
  obtain ⟨_, record, ⟨reader, hread, rfl⟩, hbody⟩ := hbody
  cases record with
  | none =>
    obtain rfl := RecordReader.nextRecord_none hread
    obtain ⟨rfl, rfl⟩ := hbody
    exact .inr ⟨hread, rfl, rfl⟩
  | some record =>
    obtain ⟨contentType, payload⟩ := record
    simp only at hbody
    split at hbody
    · cases (pure_returns.mp hbody).2
    · split at hbody
      next hkind =>
        simp only [bind_returns, pure_returns, Option.some.injEq] at hbody
        obtain ⟨_, _, hcomplete, rfl, rfl⟩ := hbody
        subst hkind
        exact .inl ⟨reader, payload, hread, hcomplete⟩
      · exact absurd hbody fail_returns

theorem installOnReader_eq_ok {reader keyed : RecordReader} :
    keys.installOnReader reader = .ok keyed ↔
      ∃ cipher, keys.toRecordCipher false = .ok cipher ∧ reader.setTls12Keys cipher = keyed :=
  map_eq_ok

theorem abbreviatedLoop_returns {fuel : Nat} (hfuel : driver.reader.buf.length < fuel)
    (hloop : (abbreviatedBody crypto handshake clientRandom keys).loop .needData fuel driver =
      (stop, .ok output)) :
    ∃ skipped before, SkipsCcs crypto driver.reader skipped before ∧
      abbreviatedBody crypto handshake clientRandom keys { driver with reader := before } =
        (stop, .ok (some output)) := by
  have hshrinks : ∀ state next : HandshakeDriver,
      abbreviatedBody crypto handshake clientRandom keys state = (next, .ok none) →
      next.reader.buf.length < state.reader.buf.length := by
    intro state next hbody
    obtain ⟨reader, record, hread, _, rfl⟩ := abbreviatedBody_again hbody
    exact RecordReader.nextRecord_length_lt hread
  have hexits := loop_exits (fun driver : HandshakeDriver => driver.reader.buf.length)
    hshrinks hfuel hloop
  obtain ⟨last, ⟨skipped, before, hskips, rfl⟩, hlast⟩ := hexits.induct
    (fun state => ∃ skipped before, SkipsCcs crypto driver.reader skipped before ∧
      state = { driver with reader := before })
    ⟨[], driver.reader, .refl _, rfl⟩
    (by
      rintro state next ⟨skipped, before, hskips, rfl⟩ hpass
      obtain ⟨reader, record, hread, hccs, rfl⟩ :=
        abbreviatedBody_again (pass_eq_again.mp hpass)
      exact ⟨skipped ++ [record], reader, hskips.snoc hread hccs, rfl⟩)
  exact ⟨skipped, before, hskips, pass_eq_leave.mp hlast⟩

end Returns

end HandshakeDriver

end LkRequest.Handshake
