import LkRequest.Handshake.Secured
import LkRequest.Library.Mirror

/-!
# The handshake does not see the cuts of the transport

The driver as a consumer of the server's bytes: `feed` puts a piece into the reader and `progress`
is called until it asks for more. Every action of the driver does the same with more input in the
reader, unless it ends by asking for input, and a driver that asks for input carries on as if the
input had come at once, unless it is parked.
-/

namespace LkRequest.Handshake

open Library Crypto Profile Hello Session Verify Record Action RecordReader List

/-- Input that comes after the handshake goes to the reader of its result. -/
def HandshakeResult.feed (result : HandshakeResult) (data : Bytes) : HandshakeResult :=
  { result with reader := result.reader.feed data }

namespace HandshakeDriver

/-! ## More input in the reader -/

section Tracks

variable {more : Bytes} {α : Type} {handshake : Tls12Handshake} {payload : Bytes}
  {keys : Tls12TrafficKeys} {algorithm : AeadAlgorithm} {key iv : Bytes} {state : DriverState}

theorem tracks_setState : (setState state).Tracks (feed · more) :=
  .modify fun _ => rfl

theorem tracks_onWriter {action : WriterM α} : (onWriter action).Tracks (feed · more) :=
  fun _ => rfl

theorem tracks_setReadKeys : (setReadKeys algorithm key iv).Tracks (feed · more) :=
  .bind .lift fun _ => .modify fun _ => rfl

theorem tracks_setWriteKeys : (setWriteKeys algorithm key iv).Tracks (feed · more) :=
  .bind .lift fun _ => .modify fun _ => rfl

theorem tracks_installOnReader : (installOnReader keys).Tracks (feed · more) := by
  intro driver
  have hread : ∀ driver : HandshakeDriver, installOnReader keys driver =
      match keys.toRecordCipher false with
      | .ok cipher => ({ driver with reader := driver.reader.setTls12Keys cipher }, .ok ())
      | .error error => (driver, .error error) := by
    intro driver
    simp only [installOnReader, bind_apply, Tls12TrafficKeys.installOnReader]
    cases keys.toRecordCipher false <;> rfl
  rw [hread, hread]
  cases keys.toRecordCipher false <;> rfl

theorem tracks_tryStoreTls12SessionTicket :
    (tryStoreTls12SessionTicket handshake payload).Tracks (feed · more) := by
  apply Tracks.modify
  intro driver
  by_cases hstores : payload.head? = some HandshakeType.newSessionTicket ∧
      driver.config.profile.sessionResumption.storeTickets ∧ driver.config.sessionStore.isSome
  · apply (if_pos hstores).trans
    apply Eq.trans _ (congrArg (feed · more) (if_pos hstores)).symm
    cases handshake.masterSecret with
    | none => rfl
    | some masterSecret => simp only; split <;> rfl
  · exact (if_neg hstores).trans (congrArg (feed · more) (if_neg hstores)).symm

end Tracks

/-! ## Calls with more input -/

/-- The end of a call that finds more input in the reader. -/
def fedEnd (more : Bytes) : HandshakeDriver × HandshakeOutput → HandshakeDriver × HandshakeOutput
  | (driver, .done toSend result) => (driver, .done toSend (result.feed more))
  | (driver, .sendData bytes) => (driver.feed more, .sendData bytes)
  | (driver, .needData) => (driver.feed more, .needData)

/-- The actions that end a call do the same with more input, unless they ask for it. -/
abbrev Carries (more : Bytes) (action mirror : DriverM HandshakeOutput) : Prop :=
  Mirrors (feed · more) (· = .needData) (fedEnd more) action mirror

/-- The same for the bodies of the driver's loops. -/
abbrev BodyCarries (more : Bytes) (body : DriverM (Option HandshakeOutput)) : Prop :=
  Mirrors (feed · more) (Action.leavesIdle (· = .needData))
    (Action.leavesAlong (feed · more) (fedEnd more)) body body

/-- The same for actions that answer the peer, even where they ask for more. -/
abbrev Answers (more : Bytes) (action : DriverM HandshakeOutput) : Prop :=
  Mirrors (feed · more) (fun _ => False) (fedEnd more) action action

section Carries

variable {crypto : Primitives} {more : Bytes} {handshake : Tls12Handshake} {payload : Bytes}
  {tls13 : Tls13Handshake} {clientRandom chMsg : Bytes} {keys : Tls12TrafficKeys}

theorem setState_answers {output : HandshakeOutput} {state : DriverState}
    (houtput : ∀ driver, fedEnd more (driver, output) = (driver.feed more, output)) :
    Answers more (do setState state; return output) := by
  refine .of_tracks (.bind tracks_setState fun _ => .pure) ?_
  intro driver next _ hreturns
  cases hreturns
  exact houtput _

theorem finishTls12Full_answers {flight : Tls12ClientFlight} :
    Answers more (finishTls12Full crypto handshake clientRandom flight) :=
  .bind tracks_onWriter fun _ => setState_answers fun _ => rfl

theorem beginTls13_answers : Answers more (beginTls13 crypto tls13 payload) := by
  apply Mirrors.bind .lift
  rintro ⟨next, action⟩
  cases action with
  | installHandshakeKeys keys =>
    apply Mirrors.bind tracks_onWriter
    intro ccs
    apply Mirrors.bind tracks_setReadKeys
    intro _
    apply Mirrors.bind tracks_setWriteKeys
    intro _
    exact setState_answers fun _ => rfl
  | retryClientHello ch2 =>
    apply Mirrors.bind tracks_onWriter
    intro ccs
    apply Mirrors.bind .lift
    intro _
    exact setState_answers fun _ => rfl
  | continueReading | complete complete => exact .fail

theorem beginTls12_answers : Answers more (beginTls12 crypto chMsg payload) := by
  apply Mirrors.get_bind
  intro driver
  apply Mirrors.bind .lift
  intro _
  apply Mirrors.bind .lift
  intro clientRandom
  apply Mirrors.bind
  · exact .modify fun _ => rfl
  intro _
  apply Mirrors.bind .lift
  rintro ⟨next, action⟩
  apply Mirrors.bind
  · exact .modify fun _ => rfl
  intro _
  cases action with
  | sendClientFlight flight => exact finishTls12Full_answers
  | continueReading | sendAbbreviatedFlight flight | complete keys =>
    exact setState_answers fun _ => rfl

variable {toSend : Bytes}

theorem takeRecordLayer_carries {ending : RecordReader → RecordWriter → HandshakeResult}
    (hending : ∀ reader writer, ending (reader.feed more) writer =
      (ending reader writer).feed more) :
    Carries more
      (do let (reader, writer) ← takeRecordLayer; return .done toSend (ending reader writer))
      (do let (reader, writer) ← takeRecordLayer; return .done toSend (ending reader writer)) where
  ok driver next output hreturns _ := by
    cases hreturns
    change (_, Except.ok (HandshakeOutput.done toSend (ending (driver.reader.feed more)
      driver.writer))) = _
    rw [hending]
    rfl
  error driver next error hfails := by cases hfails

theorem finishTls13_carries {complete : HandshakeComplete} :
    Carries more (finishTls13 crypto complete) (finishTls13 crypto complete) := by
  apply Mirrors.bind tracks_onWriter
  intro toSend
  apply Mirrors.bind tracks_setReadKeys
  intro _
  apply Mirrors.bind tracks_setWriteKeys
  intro _
  apply Mirrors.bind tracks_setState
  intro _
  apply Mirrors.get_bind
  intro driver
  exact takeRecordLayer_carries fun _ _ => rfl

theorem finishTls12_carries :
    Carries more (finishTls12 handshake keys toSend) (finishTls12 handshake keys toSend) :=
  .bind tracks_setState fun _ => takeRecordLayer_carries fun _ _ => rfl

theorem completeTls12Abbreviated_carries :
    Carries more (completeTls12Abbreviated crypto handshake payload)
      (completeTls12Abbreviated crypto handshake payload) := by
  apply Mirrors.bind .lift
  rintro ⟨next, flight⟩
  apply Mirrors.bind tracks_onWriter
  intro toSend
  exact finishTls12_carries

/-- A body that reads a record: without one it asks for input. -/
theorem nextRecord_carries {rest : Option PlaintextRecord → DriverM (Option HandshakeOutput)}
    (hnone : ∀ driver, ∃ next, rest none driver = (next, .ok (some .needData)))
    (hsome : ∀ record, BodyCarries more (rest (some record))) :
    BodyCarries more (nextRecord crypto >>= rest) := by
  have hread : ∀ driver : HandshakeDriver, driver.reader.nextRecord crypto =
      ((nextRecord crypto driver).1.reader, (nextRecord crypto driver).2) := fun _ => rfl
  have hfed : ∀ driver : HandshakeDriver, (nextRecord crypto driver).2 ≠ .ok none →
      nextRecord crypto (driver.feed more) =
        ((nextRecord crypto driver).1.feed more, (nextRecord crypto driver).2) := by
    intro driver hresult
    have hreader := nextRecord_feed (hread driver) hresult more
    change (_, _) = _
    rw [show (driver.feed more).reader = driver.reader.feed more from rfl, hreader]
    rfl
  apply mirrors_iff.mpr
  intro driver
  rw [bind_apply, bind_apply]
  rcases hrecord : nextRecord crypto driver with ⟨middle, _ | _ | record⟩
  · rw [hfed driver (by rw [hrecord]; simp), hrecord]
    rfl
  · obtain ⟨_, hidle⟩ := hnone middle
    dsimp only
    rw [hidle]
    exact absurd ⟨_, rfl, rfl⟩
  · rw [hfed driver (by rw [hrecord]; simp), hrecord]
    exact mirrors_iff.mp (hsome record) middle

theorem none_carries : BodyCarries more (pure none : DriverM (Option HandshakeOutput)) :=
  .of_tracks .pure fun _ _ _ hreturns => by cases hreturns; rfl

/-- A body that leaves with an answer. -/
theorem Answers.leave {action : DriverM HandshakeOutput} (haction : Answers more action) :
    BodyCarries more (do return some (← action)) :=
  Mirrors.leave (haction.mono fun _ => False.elim)

theorem serverHelloRecord_carries :
    BodyCarries more (serverHelloRecord crypto tls13 chMsg payload) := by
  apply Mirrors.bind .lift
  intro version
  split
  · exact beginTls13_answers.leave
  · split
    · apply mirrors_iff.mpr
      intro driver
      have hbegin := mirrors_iff.mp (@beginTls12_answers crypto more payload chMsg) driver
      rw [bind_apply, bind_apply]
      generalize beginTls12 crypto chMsg payload driver = ended at hbegin
      rcases ended with ⟨stop, _ | output⟩ <;> dsimp only [MirrorsAt] at hbegin ⊢
      · rw [hbegin]
      · rw [hbegin id]
        cases output <;> exact fun _ => rfl
    · exact .fail

theorem tls13Record_carries : BodyCarries more (tls13Record crypto tls13 payload) := by
  apply Mirrors.get_bind
  intro driver
  apply Mirrors.bind
  · exact .modify fun _ => rfl
  intro _
  apply Mirrors.bind .lift
  rintro ⟨next, action⟩
  cases action with
  | continueReading => exact .again tracks_setState
  | complete complete => exact finishTls13_carries.leave
  | installHandshakeKeys keys | retryClientHello ch2 => exact .fail

theorem tls12Record_carries :
    BodyCarries more (tls12Record crypto handshake clientRandom payload) := by
  apply Mirrors.get_bind
  intro driver
  apply Mirrors.bind
  · exact .modify fun _ => rfl
  intro _
  apply Mirrors.bind .lift
  rintro ⟨next, action⟩
  cases action with
  | continueReading => exact .again tracks_setState
  | sendClientFlight flight => exact finishTls12Full_answers.leave
  | sendAbbreviatedFlight flight | complete keys => exact .fail

theorem handshakeRecord_carries : BodyCarries more (handshakeRecord crypto payload) := by
  apply Mirrors.get_bind
  intro driver
  apply Mirrors.bind tracks_setState
  intro _
  change BodyCarries more (match driver.state with | _ => _)
  cases driver.state with
  | waitServerHello handshake chMsg => exact serverHelloRecord_carries
  | tls13Encrypted => exact tls13Record_carries
  | tls12ServerFlight handshake clientRandom => exact tls12Record_carries
  | start | complete | tls12WaitServerFinished _ _ _ _ => exact .fail

theorem abbreviatedBody_carries :
    BodyCarries more (abbreviatedBody crypto handshake clientRandom keys) := by
  apply nextRecord_carries
  · intro driver
    exact ⟨_, rfl⟩
  · intro record
    simp only
    split
    · exact none_carries
    · split
      · exact completeTls12Abbreviated_carries.leave
      · exact .fail

variable {driver : HandshakeDriver}

/-- The loops of the driver have fuel for every record in the buffer. -/
theorem loop_carries {body : DriverM (Option HandshakeOutput)} (hbody : BodyCarries more body) :
    Carries more (body.loop .needData (driver.reader.buf.length + 1))
      (body.loop .needData ((driver.feed more).reader.buf.length + 1)) := by
  refine .loop ?_ hbody ?_
  · rfl
  change driver.reader.buf.length + 1 ≤ (driver.reader.buf ++ more).length + 1
  rw [length_append]
  exact Nat.succ_le_succ (Nat.le_add_right _ _)

theorem handleTls12AbbreviatedCcs_carries :
    Carries more (handleTls12AbbreviatedCcs crypto) (handleTls12AbbreviatedCcs crypto) := by
  apply Mirrors.get_bind
  intro driver
  apply Mirrors.bind tracks_setState
  intro _
  obtain ⟨config, state, reader, writer, hsBuffer, originalTicket, pendingAlert, stored⟩ := driver
  cases state with
  | tls12ServerFlight handshake clientRandom =>
    apply Mirrors.bind .lift
    rintro ⟨accepted, keys⟩
    apply Mirrors.bind tracks_installOnReader
    intro _
    exact loop_carries abbreviatedBody_carries
  | _ => exact .fail

theorem waitFinishedRecord_carries {serverCcsReceived : Bool} :
    BodyCarries more
      (waitFinishedRecord crypto handshake clientRandom keys serverCcsReceived payload) := by
  unfold waitFinishedRecord
  split
  · apply Mirrors.bind tracks_setState
    intro _
    apply Mirrors.bind .lift
    rintro ⟨next, action⟩
    exact finishTls12_carries.leave
  · apply Mirrors.bind tracks_tryStoreTls12SessionTicket
    intro _
    exact .again tracks_setState

theorem waitFinishedBody_carries : BodyCarries more (waitFinishedBody crypto) := by
  apply nextRecord_carries
  · intro driver
    exact ⟨driver, rfl⟩
  · intro record
    simp only
    split
    · exact .fail
    · apply Mirrors.get_bind
      intro driver
      obtain ⟨config, state, reader, writer, hsBuffer, originalTicket, pendingAlert, stored⟩ :=
        driver
      cases state with
      | tls12WaitServerFinished =>
        change BodyCarries more (ite _ (ite _ _ _) (ite _ _ _))
        split
        · split
          · exact none_carries
          · apply Mirrors.bind tracks_setState
            intro _
            apply Mirrors.bind tracks_installOnReader
            intro _
            exact .again tracks_setState
        · split
          · exact waitFinishedRecord_carries
          · exact none_carries
      | _ => exact .fail

theorem innerBody_carries : BodyCarries more (innerBody crypto) := by
  apply nextRecord_carries
  · intro driver
    exact ⟨driver, rfl⟩
  · intro record
    simp only
    split
    · apply Mirrors.get_bind
      intro driver
      change BodyCarries more (if driver.awaitsAbbreviated = true then _ else _)
      split
      · exact handleTls12AbbreviatedCcs_carries.leave
      · exact none_carries
    · split
      · exact .fail
      · split
        · exact handshakeRecord_carries
        · exact .fail

theorem body_carries : BodyCarries more (body crypto) := by
  apply mirrors_iff.mpr
  intro driver
  have hfed : body crypto (driver.feed more) =
      if driver.waitsFinished then waitFinishedBody crypto (driver.feed more)
      else innerBody crypto (driver.feed more) := body_eq
  rw [hfed, body_eq]
  split
  · exact mirrors_iff.mp waitFinishedBody_carries driver
  · exact mirrors_iff.mp innerBody_carries driver

theorem progressInner_carries : Carries more (progressInner crypto) (progressInner crypto) := by
  apply mirrors_iff.mpr
  intro driver
  rw [progressInner_eq_loop, progressInner_eq_loop]
  exact mirrors_iff.mp (loop_carries body_carries) driver

theorem keepAlert_feed {error : TlsError} :
    keepAlert crypto error (driver.feed more) = (keepAlert crypto error driver).feed more := by
  unfold keepAlert
  cases error with
  | localAlert alert message =>
    rw [show (driver.feed more).writer = driver.writer from rfl]
    simp only
    split <;> rfl
  | _ => rfl

/-- A call that does not ask for input is not changed by more of it. -/
theorem progress_carries : Carries more (progress crypto) (progress crypto) where
  ok driver next output hprogress hnot := by
    exact progress_eq_ok.mpr
      (progressInner_carries.ok driver next output (progress_eq_ok.mp hprogress) hnot)
  error driver next error hprogress := by
    unfold progress at hprogress
    split at hprogress
    · cases hprogress
    next stop error' heq =>
      cases hprogress
      unfold progress
      rw [progressInner_carries.error driver stop error heq]
      exact Prod.ext keepAlert_feed rfl

variable {next : HandshakeDriver}

/-- The last pass of a call that asks for input found no record, unless it has parked the
driver. -/
theorem eq_of_asks {last : HandshakeDriver}
    (hbody : body crypto last = (next, .ok (some .needData))) (hfree : next.parked = false) :
    next = last := by
  obtain ⟨events, htransition⟩ := body_transition hbody
  cases htransition with
  | needData => rfl
  | abbreviatedWaits hstate hwaits hread hfirst haccept =>
    obtain ⟨_, rfl⟩ := Tls12Handshake.acceptAbbreviatedCcs_ok haccept
    cases hfree

/-- A driver that asks for input carries on as if it had come at once, unless it is parked. -/
theorem progress_resumes (hprogress : progress crypto driver = (next, .ok .needData))
    (hfree : next.parked = false) :
    progress crypto (driver.feed more) = progress crypto (next.feed more) := by
  suffices hinner :
      progressInner crypto (driver.feed more) = progressInner crypto (next.feed more) by
    unfold progress
    rw [hinner]
  obtain ⟨last, hpasses, hleaves⟩ := progressInner_exits (progress_eq_ok.mp hprogress)
  obtain rfl : next = last := eq_of_asks (pass_eq_leave.mp hleaves) hfree
  obtain ⟨final, hmore, hfinal⟩ :=
    progressInner_exits (show progressInner crypto (next.feed more) = (_, _) from rfl)
  have hfed : Exits (Action.pass (body crypto)) (driver.feed more) _ _ :=
    ⟨final, (body_carries.passes hpasses).trans hmore, hfinal⟩
  obtain ⟨hstop, hresult⟩ := hfed.unique
    (progressInner_exits (show progressInner crypto (driver.feed more) = (_, _) from rfl))
  exact Prod.ext hstop.symm hresult.symm

end Carries

/-! ## The driver as a consumer -/

/-- How a handshake ends: with an error, or with a result and the last bytes to send. -/
inductive Settled where
  | failed (driver : HandshakeDriver) (error : TlsError)
  | done (driver : HandshakeDriver) (toSend : Bytes) (result : HandshakeResult)

def Settled.feed : Settled → Bytes → Settled
  | failed driver error, data => .failed (driver.feed data) error
  | done driver toSend result, data => .done driver toSend (result.feed data)

/-- The reply of a call of `progress`. -/
def reply : HandshakeDriver × Result HandshakeOutput → Reply HandshakeDriver Bytes Settled
  | (next, .ok .needData) => .need next
  | (next, .ok (.sendData bytes)) => .emit next bytes
  | (next, .ok (.done toSend result)) => .stop (.done next toSend result)
  | (next, .error error) => .stop (.failed next error)

def consumer (crypto : Primitives) : Consumer HandshakeDriver UInt8 Bytes Settled where
  feed := feed
  call driver := reply (progress crypto driver)
  feedResult := Settled.feed
  size driver := driver.reader.buf.length

section Consumer

variable {crypto : Primitives} {driver next : HandshakeDriver} {outcome : Result HandshakeOutput}
  {last : HandshakeDriver} {bytes : Bytes}

theorem reply_eq_need :
    reply (next, outcome) = .need last ↔ next = last ∧ outcome = .ok .needData := by
  rcases outcome with _ | _ | _ | _ <;> simp [reply]

theorem reply_eq_emit :
    reply (next, outcome) = .emit last bytes ↔ next = last ∧ outcome = .ok (.sendData bytes) := by
  rcases outcome with _ | _ | _ | _ <;> simp [reply]

/-- A call that hands out bytes before the end has taken a record out of the buffer. -/
theorem length_lt_of_sendData (hprogress : progress crypto driver = (next, .ok (.sendData bytes))) :
    next.reader.buf.length < driver.reader.buf.length := by
  obtain ⟨events, hpasses⟩ := progress_returns hprogress
  obtain ⟨seen, last, final, -, hlast, hleave⟩ := @Passes.last _ _ _ _ _ hpasses
    (fun _ state => state.reader.buf.length ≤ driver.reader.buf.length)
    (fun _ _ _ _ hstate htransition => htransition.length_lt.le.trans hstate) [] le_rfl
  apply Nat.lt_of_lt_of_le _ hlast
  cases hleave with
  | hello13 hstate hread =>
    have hshorter := nextRecord_length_lt hread
    exact hshorter
  | retry _ hread | hello12Flight _ hread | clientFlight12 _ hread =>
    exact nextRecord_length_lt hread

theorem consumer_lawful : (consumer crypto).Lawful (fun driver => driver.parked = false) where
  feed_append driver left right := by
    change { driver with reader := (driver.reader.feed left).feed right } = driver.feed _
    rw [feed_feed]
    rfl
  feedResult_append settled left right := by
    cases settled with
    | failed driver error =>
      change Settled.failed { driver with reader := (driver.reader.feed left).feed right } error = _
      rw [feed_feed]
      rfl
    | done driver toSend result =>
      change Settled.done driver toSend
        { result with reader := (result.reader.feed left).feed right } = _
      rw [feed_feed]
      rfl
  emit_size driver next bytes hcall := by
    obtain ⟨hnext, houtcome⟩ := reply_eq_emit.mp hcall
    exact length_lt_of_sendData (Prod.ext hnext houtcome)
  emit_feed driver next bytes more hcall := by
    obtain ⟨hnext, houtcome⟩ := reply_eq_emit.mp hcall
    have hfed := (@progress_carries crypto more).ok driver next _ (Prod.ext hnext houtcome) nofun
    exact congrArg reply hfed
  stop_feed driver settled more hcall := by
    rcases hprogress : progress crypto driver with ⟨next, error | output⟩
    · have hfed := (@progress_carries crypto more).error driver next error hprogress
      change reply (progress crypto driver) = _ at hcall
      rw [hprogress] at hcall
      cases hcall
      exact congrArg reply hfed
    · change reply (progress crypto driver) = _ at hcall
      rw [hprogress] at hcall
      cases output with
      | done toSend result =>
        cases hcall
        exact congrArg reply ((@progress_carries crypto more).ok driver next _ hprogress nofun)
      | sendData bytes | needData => cases hcall
  need_feed driver next more hcall hfree := by
    obtain ⟨hnext, houtcome⟩ := reply_eq_need.mp hcall
    exact congrArg reply (progress_resumes (Prod.ext hnext houtcome) hfree)

/-- **Cuts of the transport do not matter while the driver is never left parked.** Two ways of
delivering the same bytes hand out the same bytes and end in the same way: in the same driver, with
the same error, or with the same result, unread bytes included. -/
theorem deliver_eq_of_flatten_eq {pieces others : List Bytes}
    (hpieces : pieces ≠ []) (hothers : others ≠ []) (hflatten : pieces.flatten = others.flatten)
    (hwaits : (consumer crypto).WaitsOnly (fun driver => driver.parked = false) driver pieces)
    (hwaitsOthers : (consumer crypto).WaitsOnly (fun driver => driver.parked = false) driver
      others) :
    (consumer crypto).deliver driver pieces = (consumer crypto).deliver driver others := by
  obtain ⟨piece, pieces, rfl⟩ := exists_cons_of_ne_nil hpieces
  obtain ⟨other, others, rfl⟩ := exists_cons_of_ne_nil hothers
  calc (consumer crypto).deliver driver (piece :: pieces)
      = (consumer crypto).drain (driver.feed (piece :: pieces).flatten) :=
        Consumer.deliver_eq_drain consumer_lawful hwaits
    _ = (consumer crypto).drain (driver.feed (other :: others).flatten) := by rw [hflatten]
    _ = (consumer crypto).deliver driver (other :: others) :=
        (Consumer.deliver_eq_drain consumer_lawful hwaitsOthers).symm

end Consumer

end HandshakeDriver

namespace Resumption

open HandshakeDriver

/-- Cut inside the ServerHello, the flight is answered as if it had come at once. -/
theorem deliver_cut_hello :
    (consumer crypto).deliver started
        [serverFlight.take 20, serverFlight.drop 20 ++ finishedRecord] =
      (consumer crypto).deliver started [serverFlight ++ finishedRecord] :=
  deliver_eq_of_flatten_eq (by decide) (by decide) (by decide +kernel) (by decide +kernel) trivial

/-- Cut before the Finished it is not: the handshake ends without an answer. -/
theorem deliver_cut_finished :
    (consumer crypto).deliver started [serverFlight, finishedRecord] ≠
      (consumer crypto).deliver started [serverFlight ++ finishedRecord] := by
  intro heq
  have hanswer := congrArg (fun delivered : List Bytes × Ending HandshakeDriver Settled =>
    match delivered.2 with
    | .stopped (.done _ toSend _) => toSend
    | _ => []) heq
  exact absurd hanswer (by decide +kernel)

end Resumption

end LkRequest.Handshake
