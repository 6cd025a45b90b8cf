import LkRequest.Handshake.Transitions

/-!
# Passes and calls of the handshake driver

Every pass of the driver's loops is a transition, and a call of `progress` is some transitions that
go round again and one that leaves. Invariants of the driver are proved by cases on the
transitions and carried through a call by the rule `Passes.last`.
-/

namespace LkRequest.Handshake

open Library Crypto Profile Hello Session Verify Record Action RecordReader

namespace HandshakeDriver

/-! ## Where the actions fail -/

/-- The handshake has been dropped, and the configuration is still the same. -/
def Dropped (config : HandshakeConfig) (driver : HandshakeDriver) : Prop :=
  driver.state = .complete ∧ driver.config = config

section Fails

variable {crypto : Primitives} {config : HandshakeConfig}

theorem dropped_setState : (setState .complete).Preserves (Dropped config) :=
  ⟨fun _ hdropped => ⟨rfl, hdropped.2⟩⟩

variable {α : Type} {driver stop : HandshakeDriver} {error : TlsError} {chMsg clientRandom : Bytes}
  {handshake : Tls12Handshake} {tls13 : Tls13Handshake} {keys : Tls12TrafficKeys} {payload : Bytes}

theorem dropped_onWriter {action : WriterM α} : (onWriter action).Preserves (Dropped config) :=
  ⟨fun _ hdropped => hdropped⟩

theorem dropped_nextRecord : (nextRecord crypto).Preserves (Dropped config) :=
  ⟨fun _ hdropped => hdropped⟩

theorem dropped_takeRecordLayer : takeRecordLayer.Preserves (Dropped config) :=
  ⟨fun _ hdropped => hdropped⟩

theorem dropped_modify {f : HandshakeDriver → HandshakeDriver}
    (hstate : ∀ driver, (f driver).state = driver.state)
    (hconfig : ∀ driver, (f driver).config = driver.config) :
    (Action.modify f : DriverM Unit).Preserves (Dropped config) :=
  ⟨fun driver hdropped => ⟨(hstate driver).trans hdropped.1, (hconfig driver).trans hdropped.2⟩⟩

variable {algorithm : AeadAlgorithm} {key iv toSend : Bytes}

theorem dropped_setReadKeys : (setReadKeys algorithm key iv).Preserves (Dropped config) :=
  .bind .lift fun _ => dropped_modify (fun _ => rfl) fun _ => rfl

theorem dropped_setWriteKeys : (setWriteKeys algorithm key iv).Preserves (Dropped config) :=
  .bind .lift fun _ => dropped_modify (fun _ => rfl) fun _ => rfl

theorem dropped_installOnReader : (installOnReader keys).Preserves (Dropped config) :=
  .bind .get fun _ => .bind .lift fun _ => dropped_modify (fun _ => rfl) fun _ => rfl

theorem fail_fails : (Action.fail error : DriverM α).FailsWithin (Dropped config) :=
  Preserves.fail.failsWithin

theorem setState_pure_fails {state : DriverState} {value : α} :
    (do setState state; return value : DriverM α).FailsWithin (Dropped config) := by
  constructor
  intro driver _ next error heq
  cases heq

theorem pure_total {β : Type} {f : α → β} (value : α) (state next : HandshakeDriver)
    (error : TlsError) : (pure (f value) : DriverM β) state ≠ (next, .error error) := by
  intro heq
  cases heq

theorem finishTls13_fails {complete : HandshakeComplete} :
    (finishTls13 crypto complete).FailsWithin (Dropped config) := by
  apply Preserves.failsWithin
  apply Preserves.bind dropped_onWriter
  intro toSend
  apply Preserves.bind dropped_setReadKeys
  intro _
  apply Preserves.bind dropped_setWriteKeys
  intro _
  apply Preserves.bind dropped_setState
  intro _
  apply Preserves.bind .get
  intro _
  exact .bind dropped_takeRecordLayer fun _ => .pure

theorem finishTls12_fails : (finishTls12 handshake keys toSend).FailsWithin (Dropped config) :=
  Preserves.failsWithin
    (.bind dropped_setState fun _ => .bind dropped_takeRecordLayer fun _ => .pure)

theorem finishTls12Full_fails {flight : Tls12ClientFlight} :
    (finishTls12Full crypto handshake clientRandom flight).FailsWithin (Dropped config) :=
  .bind dropped_onWriter fun _ => setState_pure_fails

theorem beginTls13_fails : (beginTls13 crypto tls13 payload).FailsWithin (Dropped config) := by
  apply FailsWithin.bind .lift
  rintro ⟨next, action⟩
  cases action with
  | installHandshakeKeys keys =>
    apply FailsWithin.bind dropped_onWriter
    intro ccs
    apply FailsWithin.bind dropped_setReadKeys
    intro _
    apply FailsWithin.bind dropped_setWriteKeys
    intro _
    exact setState_pure_fails
  | retryClientHello ch2 =>
    apply FailsWithin.bind dropped_onWriter
    intro ccs
    apply FailsWithin.bind .lift
    intro _
    exact setState_pure_fails
  | continueReading | complete complete => exact fail_fails

theorem beginTls12_fails : (beginTls12 crypto chMsg payload).FailsWithin (Dropped config) := by
  apply FailsWithin.bind .get
  intro driver
  apply FailsWithin.bind .lift
  intro _
  apply FailsWithin.bind .lift
  intro clientRandom
  apply FailsWithin.bind
  · exact dropped_modify (fun _ => rfl) fun _ => rfl
  intro _
  apply FailsWithin.bind .lift
  rintro ⟨next, action⟩
  apply FailsWithin.bind
  · exact dropped_modify (fun _ => rfl) fun _ => rfl
  intro _
  cases action with
  | sendClientFlight flight => exact finishTls12Full_fails
  | continueReading | sendAbbreviatedFlight flight | complete keys => exact setState_pure_fails

theorem serverHelloRecord_fails :
    (serverHelloRecord crypto tls13 chMsg payload).FailsWithin (Dropped config) := by
  apply FailsWithin.bind .lift
  intro version
  split
  · exact .bind_total beginTls13_fails pure_total
  · split
    · apply FailsWithin.bind_total beginTls12_fails
      intro output state next error heq
      cases output <;> cases heq
    · exact fail_fails

theorem tls13Record_fails : (tls13Record crypto tls13 payload).FailsWithin (Dropped config) := by
  apply FailsWithin.bind .get
  intro driver
  apply FailsWithin.bind
  · exact dropped_modify (fun _ => rfl) fun _ => rfl
  intro _
  apply FailsWithin.bind .lift
  rintro ⟨next, action⟩
  cases action with
  | continueReading => exact setState_pure_fails
  | complete complete => exact .bind_total finishTls13_fails pure_total
  | installHandshakeKeys keys | retryClientHello ch2 => exact fail_fails

theorem tls12Record_fails :
    (tls12Record crypto handshake clientRandom payload).FailsWithin (Dropped config) := by
  apply FailsWithin.bind .get
  intro driver
  apply FailsWithin.bind
  · exact dropped_modify (fun _ => rfl) fun _ => rfl
  intro _
  apply FailsWithin.bind .lift
  rintro ⟨next, action⟩
  cases action with
  | continueReading => exact setState_pure_fails
  | sendClientFlight flight => exact .bind_total finishTls12Full_fails pure_total
  | sendAbbreviatedFlight flight | complete keys => exact fail_fails

theorem completeTls12Abbreviated_fails :
    (completeTls12Abbreviated crypto handshake payload).FailsWithin (Dropped config) := by
  apply FailsWithin.bind .lift
  rintro ⟨next, flight⟩
  apply FailsWithin.bind dropped_onWriter
  intro toSend
  exact finishTls12_fails

theorem abbreviatedBody_fails :
    (abbreviatedBody crypto handshake clientRandom keys).FailsWithin (Dropped config) := by
  apply FailsWithin.bind dropped_nextRecord
  intro record
  cases record with
  | none => exact setState_pure_fails
  | some record =>
    simp only
    split
    · exact Preserves.pure.failsWithin
    · split
      · exact .bind_total completeTls12Abbreviated_fails pure_total
      · exact fail_fails

theorem abbreviatedLoop_fails {fuel : Nat} :
    ((abbreviatedBody crypto handshake clientRandom keys).loop .needData fuel).FailsWithin
      (Dropped config) := by
  apply FailsWithin.loop
  · intro state next hdropped hbody
    obtain ⟨reader, record, _, _, rfl⟩ := abbreviatedBody_again hbody
    exact hdropped
  · exact abbreviatedBody_fails

/-- An action that drops the handshake before anything can fail. -/
theorem dropped_of_fails {rest : Unit → DriverM α}
    (hrest : (rest ()).FailsWithin (Dropped driver.config))
    (haction : (setState .complete >>= rest) driver = (stop, .error error)) :
    Dropped driver.config stop :=
  hrest.after { driver with state := .complete } ⟨rfl, rfl⟩ stop error haction

theorem dropped_of_get {rest : HandshakeDriver → Unit → DriverM α}
    (hrest : (rest driver ()).FailsWithin (Dropped driver.config))
    (haction : (Action.get >>= fun driver => setState .complete >>= rest driver) driver =
      (stop, .error error)) : Dropped driver.config stop :=
  dropped_of_fails hrest haction

theorem handleTls12AbbreviatedCcs_fails
    (hhandle : handleTls12AbbreviatedCcs crypto driver = (stop, .error error)) :
    Dropped driver.config stop := by
  apply dropped_of_get _ hhandle
  split
  · apply FailsWithin.bind .lift
    rintro ⟨accepted, keys⟩
    apply FailsWithin.bind dropped_installOnReader
    intro _
    exact abbreviatedLoop_fails
  · exact fail_fails

theorem handshakeRecord_fails
    (hrecord : handshakeRecord crypto payload driver = (stop, .error error)) :
    Dropped driver.config stop := by
  apply dropped_of_get _ hrecord
  cases driver.state with
  | waitServerHello handshake chMsg => exact serverHelloRecord_fails
  | tls13Encrypted => exact tls13Record_fails
  | tls12ServerFlight handshake clientRandom => exact tls12Record_fails
  | start | complete | tls12WaitServerFinished _ _ _ _ => exact fail_fails

theorem waitFinishedRecord_fails {serverCcsReceived : Bool}
    (hrecord : waitFinishedRecord crypto handshake clientRandom keys serverCcsReceived payload
      driver = (stop, .error error)) : Dropped driver.config stop := by
  cases serverCcsReceived with
  | false => cases hrecord
  | true =>
    apply dropped_of_fails _ hrecord
    apply FailsWithin.bind .lift
    rintro ⟨next, action⟩
    exact .bind_total finishTls12_fails pure_total

end Fails

/-! ## One pass -/

section Pass

/-- Keeping a ticket changes the session store only. -/
theorem tryStoreTls12SessionTicket_returns (driver : HandshakeDriver) (handshake : Tls12Handshake)
    (payload : Bytes) :
    ∃ stored, tryStoreTls12SessionTicket handshake payload driver =
      ({ driver with stored := stored }, .ok ()) := by
  simp only [tryStoreTls12SessionTicket, Action.modify]
  split
  · split
    · exact ⟨driver.stored, rfl⟩
    · split
      · exact ⟨_, rfl⟩
      · exact ⟨driver.stored, rfl⟩
  · exact ⟨driver.stored, rfl⟩

variable {crypto : Primitives} {driver stop : HandshakeDriver} {payload : Bytes}

variable {reader : RecordReader} {result : Result (Option HandshakeOutput)} {handshake :
  Tls12Handshake} {clientRandom : Bytes} {keys : Tls12TrafficKeys} {record : PlaintextRecord}
  {serverCcsReceived : Bool}

section Records

variable {output : HandshakeOutput}
  (hread : driver.reader.nextRecord crypto = (reader, .ok (some (handshakeRec payload))))
include hread

/-- The first flight of a TLS 1.3 server. -/
theorem beginTls13_transition {handshake : Tls13Handshake} {chMsg : Bytes}
    (hstate : driver.state = .waitServerHello handshake chMsg)
    (hversion : detectVersionFromServerHello payload = .ok 0x0304)
    (hbegin : beginTls13 crypto handshake payload
      { driver with state := .complete, reader := reader } = (stop, .ok output)) :
    ∃ events, Transition crypto driver events stop (.ok (some output)) := by
  simp only [beginTls13, lift_bind] at hbegin
  obtain ⟨⟨next, action⟩, hprocess, hbegin⟩ := hbegin
  cases action with
  | installHandshakeKeys keys =>
    simp only [↓setState_bind, bind_returns, onWriter_returns, setReadKeys_returns,
      setWriteKeys_returns, pure_returns] at hbegin
    obtain ⟨_, ccs, ⟨writer, hccs, rfl⟩, _, _, ⟨readAead, hreadKeys, rfl⟩, _, _,
      ⟨writeAead, hwriteKeys, rfl⟩, rfl, rfl⟩ := hbegin
    exact ⟨_, .hello13 hstate hread hversion hprocess hccs hreadKeys hwriteKeys⟩
  | retryClientHello ch2 =>
    simp only [↓lift_bind, ↓setState_bind, bind_returns, onWriter_returns, pure_returns] at hbegin
    obtain ⟨_, ccs, ⟨writer, hccs, rfl⟩, ch2Record, hch2, rfl, rfl⟩ := hbegin
    exact ⟨_, .retry hstate hread hversion hprocess hccs hch2⟩
  | continueReading | complete complete => exact absurd hbegin fail_returns

variable {result : Option HandshakeOutput}

theorem serverHelloRecord_transition {handshake : Tls13Handshake} {chMsg : Bytes}
    (hstate : driver.state = .waitServerHello handshake chMsg)
    (hrecord : serverHelloRecord crypto handshake chMsg payload
      { driver with state := .complete, reader := reader } = (stop, .ok result)) :
    ∃ events, Transition crypto driver events stop (.ok result) := by
  simp only [serverHelloRecord, lift_bind] at hrecord
  obtain ⟨version, hversion, hrecord⟩ := hrecord
  split at hrecord
  next h0304 =>
    subst h0304
    simp only [bind_returns, pure_returns] at hrecord
    obtain ⟨_, output, hbegin, rfl, rfl⟩ := hrecord
    exact beginTls13_transition hread hstate hversion hbegin
  · split at hrecord
    next h0303 =>
      subst h0303
      obtain ⟨_, output, hbegin, hrecord⟩ := bind_returns.mp hrecord
      simp only [beginTls12, get_bind, lift_bind, modify_bind] at hbegin
      obtain ⟨_, hsentinel, clientRandom, hrandom, ⟨next, action⟩, hprocess, hbegin⟩ := hbegin
      have hslice := orMalformed_eq_ok.mp hrandom
      cases action with
      | sendClientFlight flight =>
        obtain ⟨writer, bytes, hflight, rfl, rfl⟩ := finishTls12Full_returns hbegin
        obtain ⟨rfl, rfl⟩ := pure_returns.mp hrecord
        exact ⟨_, .hello12Flight hstate hread hversion hsentinel hslice hprocess hflight⟩
      | continueReading | sendAbbreviatedFlight flight | complete keys =>
        obtain ⟨rfl, rfl⟩ := hbegin
        obtain ⟨rfl, rfl⟩ := pure_returns.mp hrecord
        exact ⟨_, .hello12 hstate hread hversion hsentinel hslice hprocess nofun⟩
    · exact absurd hrecord fail_returns

theorem tls13Record_transition {handshake : Tls13Handshake}
    (hstate : driver.state = .tls13Encrypted handshake)
    (hrecord : tls13Record crypto handshake payload
      { driver with state := .complete, reader := reader } = (stop, .ok result)) :
    ∃ events, Transition crypto driver events stop (.ok result) := by
  simp only [tls13Record, get_bind, lift_bind, modify_bind] at hrecord
  obtain ⟨⟨next, action⟩, hprocess, hrecord⟩ := hrecord
  cases action with
  | continueReading =>
    obtain ⟨rfl, rfl⟩ := hrecord
    exact ⟨_, .encrypted13 hstate hread hprocess⟩
  | complete complete =>
    simp only [finishTls13, ↓get_bind, ↓setState_bind, bind_returns, onWriter_returns,
      setReadKeys_returns, setWriteKeys_returns, takeRecordLayer_returns, pure_returns] at hrecord
    obtain ⟨_, _, ⟨_, toSend, ⟨writer, hflight, rfl⟩, _, _, ⟨readAead, hreadKeys, rfl⟩, _, _,
      ⟨writeAead, hwriteKeys, rfl⟩, _, _, ⟨rfl, rfl⟩, rfl, rfl⟩, rfl, rfl⟩ := hrecord
    exact ⟨_, .done13 hstate hread hprocess hflight hreadKeys hwriteKeys⟩
  | installHandshakeKeys keys | retryClientHello ch2 => exact absurd hrecord fail_returns

theorem tls12Record_transition
    (hstate : driver.state = .tls12ServerFlight handshake clientRandom)
    (hrecord : tls12Record crypto handshake clientRandom payload
      { driver with state := .complete, reader := reader } = (stop, .ok result)) :
    ∃ events, Transition crypto driver events stop (.ok result) := by
  simp only [tls12Record, get_bind, lift_bind, modify_bind] at hrecord
  obtain ⟨⟨next, action⟩, hprocess, hrecord⟩ := hrecord
  cases action with
  | continueReading =>
    obtain ⟨rfl, rfl⟩ := hrecord
    exact ⟨_, .flight12 hstate hread hprocess⟩
  | sendClientFlight flight =>
    simp only [bind_returns, pure_returns] at hrecord
    obtain ⟨_, _, hfinish, rfl, rfl⟩ := hrecord
    obtain ⟨writer, bytes, hflight, rfl, rfl⟩ := finishTls12Full_returns hfinish
    exact ⟨_, .clientFlight12 hstate hread hprocess hflight⟩
  | sendAbbreviatedFlight flight | complete keys => exact absurd hrecord fail_returns

/-- A handshake record outside the state that waits for the server Finished. -/
theorem handshakeRecord_transition
    (hrecord : handshakeRecord crypto payload { driver with reader := reader } =
      (stop, .ok result)) : ∃ events, Transition crypto driver events stop (.ok result) := by
  generalize hstate : driver.state = state at hrecord
  cases state with
  | waitServerHello handshake chMsg =>
    exact serverHelloRecord_transition hread hstate hrecord
  | tls13Encrypted =>
    exact tls13Record_transition hread hstate hrecord
  | tls12ServerFlight handshake clientRandom =>
    exact tls12Record_transition hread hstate hrecord
  | start | tls12WaitServerFinished _ _ _ _ | complete =>
    exact absurd hrecord fail_returns

end Records

/-- The change of ciphers with which the server takes a ticket. -/
theorem abbreviated_transition {output : HandshakeOutput}
    (hread : driver.reader.nextRecord crypto = (reader, .ok (some record)))
    (hccs : record.contentType = ContentType.changeCipherSpec) (hawaits : driver.awaitsAbbreviated)
    (hhandle : handleTls12AbbreviatedCcs crypto { driver with reader := reader } =
      (stop, .ok output)) : ∃ events, Transition crypto driver events stop (.ok (some output)) := by
  cases hstate : driver.state with
  | tls12ServerFlight handshake clientRandom =>
    have hwaits : handshake.state = .waitCertificateOrAbbreviated := by
      simpa [awaitsAbbreviated, hstate] using hawaits
    rw [hstate] at hhandle
    obtain ⟨⟨accepted, keys⟩, haccept, hhandle⟩ := lift_bind.mp hhandle
    obtain ⟨_, _, hinstalled, hloop⟩ := bind_returns.mp hhandle
    obtain ⟨keyed, hinstall, rfl⟩ := installOnReader_returns.mp hinstalled
    have hfuel : keyed.buf.length < reader.buf.length + 1 := by
      obtain ⟨cipher, _, rfl⟩ := installOnReader_eq_ok.mp hinstall
      exact Nat.lt_succ_self _
    obtain ⟨skipped, before, hskips, hbody⟩ := abbreviatedLoop_returns hfuel hloop
    obtain ⟨reader', payload, hfinished, hcomplete⟩ | ⟨_, rfl, rfl⟩ := abbreviatedBody_leaves hbody
    · unfold completeTls12Abbreviated at hcomplete
      simp only [↓lift_bind, bind_returns, onWriter_returns, finishTls12_returns] at hcomplete
      obtain ⟨⟨next, flight⟩, hprocess, _, toSend, ⟨writer, hflight, rfl⟩, rfl, rfl⟩ := hcomplete
      exact ⟨_, .abbreviatedDone hstate hwaits hread hccs haccept hinstall hskips hfinished hprocess
        hflight⟩
    · exact ⟨_, .abbreviatedWaits hstate hwaits hread hccs haccept hinstall hskips⟩
  | start | waitServerHello _ _ | tls13Encrypted _ | tls12WaitServerFinished _ _ _ _ | complete =>
    rw [hstate] at hhandle
    exact absurd hhandle fail_returns

/-- A pass begins with a read. -/
theorem read_transition {rest : Option PlaintextRecord → DriverM (Option HandshakeOutput)}
    (hnone : rest none = pure (some .needData))
    (hsome : ∀ reader record, driver.reader.nextRecord crypto = (reader, .ok (some record)) →
      rest (some record) { driver with reader := reader } = (stop, result) →
        ∃ events, Transition crypto driver events stop result)
    (hbody : (nextRecord crypto >>= rest) driver = (stop, result)) :
    ∃ events, Transition crypto driver events stop result := by
  rw [bind_apply, nextRecord] at hbody
  rcases hnext : driver.reader.nextRecord crypto with ⟨reader, error | _ | record⟩
  · rw [hnext] at hbody
    cases hbody
    exact ⟨[], .readFailed hnext⟩
  · simp only [hnext, hnone] at hbody
    cases hbody
    obtain rfl := nextRecord_none hnext
    exact ⟨[], .needData hnext⟩
  · rw [hnext] at hbody
    exact hsome reader record hnext hbody

theorem innerBody_transition (hbody : innerBody crypto driver = (stop, result)) :
    ∃ events, Transition crypto driver events stop result := by
  refine read_transition rfl (fun reader record hnext hbody => ?_) hbody
  simp only at hbody
  split at hbody
  next hccs =>
    change (if driver.awaitsAbbreviated then _ else _ : DriverM _) _ = _ at hbody
    split at hbody
    next hawaits =>
      rw [bind_apply] at hbody
      split at hbody
      next next output hreturns =>
        cases hbody
        exact abbreviated_transition hnext hccs hawaits hreturns
      next next error hfails =>
        cases hbody
        have hdropped := handleTls12AbbreviatedCcs_fails hfails
        exact ⟨[], .failed hdropped.1 hdropped.2⟩
    · cases hbody
      exact ⟨_, .ignored hnext (by rw [hccs]; decide)⟩
  · split at hbody
    next hccs halert =>
      cases hbody
      exact ⟨_, .rejected hnext (by rw [halert]; decide)⟩
    · split at hbody
      next hkind =>
        obtain ⟨contentType, payload⟩ := record
        obtain rfl : contentType = ContentType.handshake := hkind
        cases result with
        | ok output => exact handshakeRecord_transition hnext hbody
        | error error =>
          have hdropped := handshakeRecord_fails hbody
          exact ⟨[], .failed hdropped.1 hdropped.2⟩
      next hkind =>
        cases hbody
        exact ⟨_, .rejected hnext hkind⟩

theorem waitFinishedRecord_transition {result : Option HandshakeOutput} (hstate : driver.state =
      .tls12WaitServerFinished handshake clientRandom keys serverCcsReceived)
    (hread : driver.reader.nextRecord crypto = (reader, .ok (some (handshakeRec payload))))
    (hrecord : waitFinishedRecord crypto handshake clientRandom keys serverCcsReceived payload
      { driver with reader := reader } = (stop, .ok result)) :
    ∃ events, Transition crypto driver events stop (.ok result) := by
  cases serverCcsReceived with
  | true =>
    simp only [waitFinishedRecord, if_true, setState_bind, lift_bind] at hrecord
    obtain ⟨⟨next, action⟩, hprocess, hrecord⟩ := hrecord
    obtain ⟨_, _, ⟨rfl, rfl⟩, rfl, rfl⟩ := hrecord
    exact ⟨_, .done12 hstate hread hprocess⟩
  | false =>
    obtain ⟨stored, hstored⟩ :=
      tryStoreTls12SessionTicket_returns { driver with reader := reader } handshake payload
    simp only [waitFinishedRecord, Bool.false_eq_true, if_false, bind_of_ok hstored,
      setState_bind, pure_returns] at hrecord
    obtain ⟨rfl, rfl⟩ := hrecord
    exact ⟨_, .fed12 hstate hread⟩

theorem waitFinishedBody_transition
    (hstate : driver.state = .tls12WaitServerFinished handshake clientRandom keys serverCcsReceived)
    (hbody : waitFinishedBody crypto driver = (stop, result)) :
    ∃ events, Transition crypto driver events stop result := by
  obtain ⟨config, state, before, writer, hsBuffer, originalTicket, pendingAlert, stored⟩ := driver
  obtain rfl : state = _ := hstate
  refine read_transition rfl (fun reader record hnext hbody => ?_) hbody
  simp only at hbody
  split at hbody
  next halert =>
    cases hbody
    exact ⟨_, .rejected hnext (by rw [halert]; decide)⟩
  · rw [bind_apply] at hbody
    simp only [Action.get] at hbody
    split at hbody
    next hccs =>
      cases serverCcsReceived with
      | true =>
        cases hbody
        exact ⟨_, .ignored hnext (by rw [hccs]; decide)⟩
      | false =>
        rw [if_neg Bool.false_ne_true] at hbody
        cases result with
        | ok output =>
          simp only [↓setState_bind, bind_returns, installOnReader_returns, pure_returns] at hbody
          obtain ⟨_, _, ⟨keyed, hinstall, rfl⟩, rfl, rfl⟩ := hbody
          exact ⟨_, .ccs12 rfl hnext hccs hinstall⟩
        | error error =>
          have hdropped := dropped_of_fails
            (.bind dropped_installOnReader fun _ => setState_pure_fails) hbody
          exact ⟨[], .failed hdropped.1 hdropped.2⟩
    · split at hbody
      next hkind =>
        obtain ⟨contentType, payload⟩ := record
        obtain rfl : contentType = ContentType.handshake := hkind
        cases result with
        | ok output => exact waitFinishedRecord_transition rfl hnext hbody
        | error error =>
          have hdropped := waitFinishedRecord_fails hbody
          exact ⟨[], .failed hdropped.1 hdropped.2⟩
      next hkind =>
        cases hbody
        exact ⟨_, .ignored hnext hkind⟩

/-- One pass, in the loop that the state selects. -/
def body (crypto : Primitives) : DriverM (Option HandshakeOutput) := fun driver =>
  match driver.state with
  | .tls12WaitServerFinished .. => waitFinishedBody crypto driver
  | _ => innerBody crypto driver

/-- **Every pass is a transition.** -/
theorem body_transition (hbody : body crypto driver = (stop, result)) :
    ∃ events, Transition crypto driver events stop result := by
  unfold body at hbody
  split at hbody
  next hstate => exact waitFinishedBody_transition hstate hbody
  · exact innerBody_transition hbody

end Pass

/-! ## Calls -/

section Calls

variable {crypto : Primitives} {driver stop : HandshakeDriver}

def waitsFinished (driver : HandshakeDriver) : Bool :=
  match driver.state with
  | .tls12WaitServerFinished .. => true
  | _ => false

variable {events : List Event} {result : Result HandshakeOutput} {output : HandshakeOutput}
  {reader : RecordReader} {error : TlsError}

/-- A pass that goes round again stays in its loop. -/
theorem Transition.waitsFinished_eq
    (htransition : Transition crypto driver events stop (.ok none)) :
    stop.waitsFinished = driver.waitsFinished := by
  cases htransition with
  | ignored => rfl
  | hello12 hstate | encrypted13 hstate | flight12 hstate | ccs12 hstate | fed12 hstate =>
    simp only [waitsFinished, hstate]

/-- A pass that goes round again has taken a record out of the buffer. -/
theorem Transition.length_lt (htransition : Transition crypto driver events stop (.ok none)) :
    stop.reader.buf.length < driver.reader.buf.length := by
  cases htransition with
  | ignored hread | hello12 _ hread | encrypted13 _ hread | flight12 _ hread | fed12 _ hread =>
    exact nextRecord_length_lt hread
  | ccs12 hstate hread hccs hinstall =>
    obtain ⟨cipher, _, rfl⟩ := installOnReader_eq_ok.mp hinstall
    have hshorter := nextRecord_length_lt hread
    exact hshorter

theorem body_eq : body crypto driver =
    if driver.waitsFinished then waitFinishedBody crypto driver else innerBody crypto driver := by
  unfold body waitsFinished
  cases driver.state <;> rfl

theorem progressInner_eq {passes : Nat} (hpasses : passes = driver.reader.buf.length + 1) :
    progressInner crypto driver =
      if driver.waitsFinished then (waitFinishedBody crypto).loop .needData passes driver
      else (innerBody crypto).loop .needData passes driver := by
  unfold progressInner waitsFinished
  rw [bind_apply, hpasses]
  change (match driver.state with
    | .tls12WaitServerFinished .. => _
    | _ => _ : DriverM HandshakeOutput) driver = _
  cases driver.state <;> rfl

/-- Both loops of the driver are one loop over `body`. -/
theorem progressInner_eq_loop :
    progressInner crypto driver =
      (body crypto).loop .needData (driver.reader.buf.length + 1) driver := by
  have hkeeps : ∀ wanted, ∀ state next : HandshakeDriver, state.waitsFinished = wanted →
      Action.pass (body crypto) state = .again next → next.waitsFinished = wanted := by
    intro wanted state next hstate hpass
    obtain ⟨events, htransition⟩ := body_transition (pass_eq_again.mp hpass)
    exact htransition.waitsFinished_eq.trans hstate
  have hloop : ∀ (wanted : Bool) (other : DriverM (Option HandshakeOutput)),
      (∀ state, state.waitsFinished = wanted → body crypto state = other state) →
      driver.waitsFinished = wanted →
      (body crypto).loop .needData (driver.reader.buf.length + 1) driver =
        other.loop .needData (driver.reader.buf.length + 1) driver := by
    intro wanted other hsame hdriver
    apply iterate_congr (fun state => state.waitsFinished = wanted)
    · intro state hstate
      simp only [Action.pass, hsame state hstate]
    · exact hkeeps wanted
    · exact hdriver
  rw [progressInner_eq rfl]
  cases hdriver : driver.waitsFinished with
  | true =>
    rw [if_pos rfl, hloop true (waitFinishedBody crypto) _ hdriver]
    intro state hstate
    rw [body_eq, hstate, if_pos rfl]
  | false =>
    rw [if_neg Bool.false_ne_true, hloop false (innerBody crypto) _ hdriver]
    intro state hstate
    rw [body_eq, hstate, if_neg Bool.false_ne_true]

/-- The passes of one call: some that go round again and one that leaves. -/
inductive Passes (crypto : Primitives) : HandshakeDriver → List Event → HandshakeDriver →
    Result HandshakeOutput → Prop
  | leave {driver stop : HandshakeDriver} {events : List Event} {result : Result HandshakeOutput}
      (hleave : Transition crypto driver events stop (result.map some)) :
      Passes crypto driver events stop result
  | again {driver next stop : HandshakeDriver} {events later : List Event}
      {result : Result HandshakeOutput}
      (hagain : Transition crypto driver events next (.ok none))
      (hrest : Passes crypto next later stop result) :
      Passes crypto driver (events ++ later) stop result

theorem Passes.of_exits (hexits : Exits (Action.pass (body crypto)) driver stop result) :
    ∃ events, Passes crypto driver events stop result := by
  obtain ⟨last, hpasses, hleaves⟩ := hexits
  induction hpasses using Relation.ReflTransGen.head_induction_on with
  | refl =>
    cases result with
    | ok output =>
      obtain ⟨events, htransition⟩ := body_transition (pass_eq_leave.mp hleaves)
      exact ⟨events, .leave htransition⟩
    | error error =>
      obtain ⟨events, htransition⟩ := body_transition (pass_eq_leave_error.mp hleaves)
      exact ⟨events, .leave htransition⟩
  | head hpass _ ih =>
    obtain ⟨events, htransition⟩ := body_transition (pass_eq_again.mp hpass)
    obtain ⟨later, hrest⟩ := ih
    exact ⟨events ++ later, .again htransition hrest⟩

theorem progressInner_exits (hprogress : progressInner crypto driver = (stop, result)) :
    Exits (Action.pass (body crypto)) driver stop result := by
  rw [progressInner_eq_loop] at hprogress
  have hshrinks : ∀ state next : HandshakeDriver, body crypto state = (next, .ok none) →
      next.reader.buf.length < state.reader.buf.length := by
    intro state next hbody
    obtain ⟨events, htransition⟩ := body_transition hbody
    exact htransition.length_lt
  exact loop_exits (fun driver : HandshakeDriver => driver.reader.buf.length) hshrinks
    (Nat.lt_succ_self _) hprogress

theorem progress_eq_ok : progress crypto driver = (stop, .ok output) ↔
      progressInner crypto driver = (stop, .ok output) := by
  unfold progress
  split
  next heq => rw [heq]
  next heq => simp [heq]

/-- The loops of the driver begin with a read. -/
theorem body_of_readFailed (hread : driver.reader.nextRecord crypto = (reader, .error error)) :
    body crypto driver = ({ driver with reader := reader }, .error error) := by
  have hnext : nextRecord crypto driver = ({ driver with reader := reader }, .error error) := by
    unfold nextRecord
    rw [hread]
  rw [body_eq]
  split
  · exact bind_of_error hnext
  · exact bind_of_error hnext

/-- A call that fails in the record layer changes nothing of the handshake. -/
theorem progress_of_readFailed (hread : driver.reader.nextRecord crypto = (reader, .error error)) :
    ∃ writer alert, progress crypto driver =
      ({ driver with reader := reader, writer := writer, pendingAlert := alert },
        .error error) := by
  have hinner : progressInner crypto driver = ({ driver with reader := reader }, .error error) := by
    rw [progressInner_eq_loop, loop_succ, body_of_readFailed hread]
  unfold progress
  rw [hinner]
  simp only [keepAlert]
  split
  · split
    · exact ⟨_, _, rfl⟩
    · exact ⟨_, _, rfl⟩
  · exact ⟨_, _, rfl⟩

/-- A call that returns has made the passes that lead to its output. -/
theorem progress_returns (hprogress : progress crypto driver = (stop, .ok output)) :
    ∃ events, Passes crypto driver events stop (.ok output) :=
  Passes.of_exits (progressInner_exits (progress_eq_ok.mp hprogress))

/-- The rule of invariants for a call: what every pass keeps that goes round again. -/
theorem Passes.last (hpasses : Passes crypto driver events stop result)
    (invariant : List Event → HandshakeDriver → Prop)
    (hagain : ∀ seen state events next, invariant seen state →
      Transition crypto state events next (.ok none) → invariant (seen ++ events) next)
    {before : List Event} (hstart : invariant before driver) :
    ∃ seen last final, before ++ events = seen ++ final ∧ invariant seen last ∧
      Transition crypto last final stop (result.map some) := by
  induction hpasses generalizing before with
  | leave hleave => exact ⟨before, _, _, rfl, hstart, hleave⟩
  | again hpass _ ih =>
    obtain ⟨seen, last, final, heq, hlast, hleave⟩ := ih (hagain _ _ _ _ hstart hpass)
    exact ⟨seen, last, final, by rw [← heq, List.append_assoc], hlast, hleave⟩

end Calls

end HandshakeDriver

end LkRequest.Handshake
