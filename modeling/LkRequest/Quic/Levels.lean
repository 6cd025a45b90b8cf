import LkRequest.Handshake.FinalFlight
import LkRequest.Quic.Session

/-!
# Encryption levels of a QUIC handshake

A transport calls `read_handshake` and `write_handshake` in any order. The ledger of a run adds up
what was written and interpreted at each encryption level: beside what the calls read and write, it
is told by `readEvents` which messages the engine takes and builds during a read. The levels are
kept apart as long as the transport reads nothing between the ServerHello and the handshake keys,
neither behind the ServerHello nor in another call.
-/

namespace LkRequest.Quic

open Library Crypto Hello Handshake List Option

/-! ## The ledger of a run -/

/-- What happens in a session: bytes are read, the driver makes a ClientHello, takes a ServerHello
and leaves input behind it, takes messages as those after the ServerHello, makes the final flight,
and bytes and keys are written. -/
inductive LevelEvent where
  | read (data : Bytes)
  | hello (message : Bytes)
  | serverHello (rest : Bytes)
  | encrypted (messages : Bytes)
  | flight (bytes : Bytes)
  | wrote (bytes : Bytes) (keys : Option Keys)

structure Ledger where
  /-- The ClientHello messages. -/
  hellos : Bytes := []
  /-- The client's final flight. -/
  flight : Bytes := []
  /-- Written up to the handshake keys. -/
  initial : Bytes := []
  /-- Written after the handshake keys and up to the 1-RTT keys. -/
  handshake : Bytes := []
  /-- Read after the handshake keys were handed out. -/
  late : Bytes := []
  /-- Taken as EncryptedExtensions or as a later message. -/
  interpreted : Bytes := []
  /-- How often keys were handed out. -/
  keysOut : Nat := 0
  /-- A ServerHello has been taken. -/
  answered : Bool := false
  /-- Nothing was read between the ServerHello and the handshake keys. -/
  inOrder : Bool := true

namespace Ledger

def record (ledger : Ledger) : LevelEvent → Ledger
  | .read data => { ledger with
      late := if ledger.keysOut = 0 then ledger.late else ledger.late ++ data
      inOrder := ledger.inOrder && !(ledger.answered && ledger.keysOut = 0 && data ≠ []) }
  | .hello message => { ledger with hellos := ledger.hellos ++ message }
  | .serverHello rest => { ledger with
      answered := true
      inOrder := ledger.inOrder && rest = [] }
  | .encrypted messages => { ledger with interpreted := ledger.interpreted ++ messages }
  | .flight bytes => { ledger with flight := ledger.flight ++ bytes }
  | .wrote bytes keys => { ledger with
      initial := if ledger.keysOut = 0 then ledger.initial ++ bytes else ledger.initial
      handshake := if ledger.keysOut = 1 then ledger.handshake ++ bytes else ledger.handshake
      keysOut := ledger.keysOut + if keys.isSome then 1 else 0 }

def recordAll (ledger : Ledger) (events : List LevelEvent) : Ledger := events.foldl record ledger

/-- The levels are kept apart: what is written up to the handshake keys are the ClientHello
messages, what is written from there to the 1-RTT keys is the final flight, and nothing that was
read before the handshake keys is taken as a message after the ServerHello. -/
structure Kept (ledger : Ledger) : Prop where
  initial : ledger.initial <+: ledger.hellos
  initial_eq : 0 < ledger.keysOut → ledger.initial = ledger.hellos
  handshake : ledger.handshake <+: ledger.flight
  handshake_eq : 1 < ledger.keysOut → ledger.handshake = ledger.flight
  interpreted : ledger.interpreted <+: ledger.late

theorem inOrder_of_record {ledger : Ledger} {event : LevelEvent}
    (horder : (ledger.record event).inOrder = true) : ledger.inOrder = true := by
  cases event with
  | read data | serverHello rest => exact (Bool.and_eq_true_iff.mp horder).1
  | hello message | encrypted messages | flight bytes | wrote bytes keys => exact horder

end Ledger

/-! ## Runs -/

/-- What the engine takes and builds in one pass of the driver: the ClientHello for a retry, a
ServerHello with the input behind it, and after the ServerHello the messages of the server and the
final flight. -/
def passEvents (crypto : Primitives) (driver : QuicHandshakeDriver) : List LevelEvent :=
  match driver.state with
  | .waitServerHello handshake =>
    match (QuicHandshakeDriver.body crypto driver).2, takeNextHandshakeMessage driver.input with
    | .ok _, (some message, rest) =>
      match handshake.processHandshakeRecord crypto message with
      | .ok (_, .retryClientHello ch2) => [.hello ch2]
      | _ => [.serverHello rest]
    | _, _ => []
  | .tls13Encrypted handshake =>
    match takeCompleteHandshakeMessages driver.input with
    | (none, _) => []
    | (some messages, _) =>
      .encrypted messages ::
        match (QuicHandshakeDriver.body crypto driver).2,
          handshake.processHandshakeRecord crypto messages with
        | .ok _, .ok (_, .complete complete) => [.flight (QuicHandshakeDriver.finalFlight complete)]
        | _, _ => []
  | .start | .complete => []

/-- The passes of one call of `progress`. -/
def progressEvents (crypto : Primitives) : Nat → QuicHandshakeDriver → List LevelEvent
  | 0, _ => []
  | fuel + 1, driver => passEvents crypto driver ++
    match QuicHandshakeDriver.body crypto driver with
    | (next, .ok none) => progressEvents crypto fuel next
    | _ => []

/-- The calls of `progress` during a read, which goes on after a ClientHello. -/
def readEvents (crypto : Primitives) : Nat → QuicHandshakeDriver → List LevelEvent
  | 0, _ => []
  | fuel + 1, driver => progressEvents crypto (driver.input.length + 1) driver ++
    match driver.progress crypto with
    | (next, .ok (.sendData _)) => readEvents crypto fuel next
    | _ => []

namespace LktlsQuicSession

/-- A panic ends a run: there is no result then. -/
def Returns {α : Type} (outcome : Result α) : Prop :=
  ∀ reason, outcome ≠ .error (.noReturn reason)

/-- The sessions that a transport can reach, with what has happened. -/
inductive Run (crypto : Primitives) (config : QuicHandshakeConfig) :
    List LevelEvent → LktlsQuicSession → Prop
  | start {driver : QuicHandshakeDriver} {session : LktlsQuicSession} {message : Bytes}
      (hdriver : QuicHandshakeDriver.start crypto (.new config) = (driver, .ok message))
      (hstart : startSession crypto config = .ok session) :
      Run crypto config [.hello message] session
  | read {events : List LevelEvent} {session stop : LktlsQuicSession} {data : Bytes}
      {outcome : Result Bool} (hrun : Run crypto config events session)
      (hopen : session.established = false)
      (hread : readHandshake crypto data session = (stop, outcome)) (hreturns : Returns outcome) :
      Run crypto config (events ++ .read data :: readEvents crypto
        ((session.driver.feed data).input.length + 1) (session.driver.feed data)) stop
  | readLate {events : List LevelEvent} {session stop : LktlsQuicSession} {data : Bytes}
      {outcome : Result Bool} (hrun : Run crypto config events session)
      (hestablished : session.established = true)
      (hread : readHandshake crypto data session = (stop, outcome)) :
      Run crypto config (events ++ [.read data]) stop
  | write {events : List LevelEvent} {session : LktlsQuicSession}
      (hrun : Run crypto config events session) :
      Run crypto config (events ++ [.wrote session.writeHandshake.2.1 session.writeHandshake.2.2])
        session.writeHandshake.1

/-! ## What a pass can do to a session -/

/-- One pass of the driver during a read, with what it does to the session. -/
inductive Step (crypto : Primitives) (session : LktlsQuicSession) :
    List LevelEvent → LktlsQuicSession → Prop
  | failed {driver : QuicHandshakeDriver}
      (hstate : ∀ handshake, session.driver.state ≠ .tls13Encrypted handshake)
      (hstop : driver.state = .complete) :
      Step crypto session [] { session with driver := driver }
  | rejected {handshake : Tls13Handshake} {messages rest : Bytes} {driver : QuicHandshakeDriver}
      (hstate : session.driver.state = .tls13Encrypted handshake)
      (htake : takeCompleteHandshakeMessages session.driver.input = (some messages, rest))
      (hstop : driver.state = .complete) :
      Step crypto session [.encrypted messages] { session with driver := driver }
  | retry {handshake next : Tls13Handshake} {ch2 : Bytes} {driver : QuicHandshakeDriver}
      {zeroRtt : Option ZeroRttState}
      (hstate : session.driver.state = .waitServerHello handshake)
      (hstop : driver.state = .waitServerHello next) :
      Step crypto session [.hello ch2] { session with
        driver := driver
        zeroRtt := zeroRtt
        pendingOutput := session.pendingOutput ++ [ch2] }
  | hello {handshake next : Tls13Handshake} {rest : Bytes} {driver : QuicHandshakeDriver}
      {keys : Keys} (hstate : session.driver.state = .waitServerHello handshake)
      (hstop : driver.state = .tls13Encrypted next) (hinput : driver.input = rest) :
      Step crypto session [.serverHello rest] { session with
        driver := driver
        pendingKeys := session.pendingKeys ++ [keys] }
  | encrypted {handshake next : Tls13Handshake} {messages rest : Bytes}
      (hstate : session.driver.state = .tls13Encrypted handshake)
      (htake : takeCompleteHandshakeMessages session.driver.input = (some messages, rest)) :
      Step crypto session [.encrypted messages] { session with
        driver := { session.driver with state := .tls13Encrypted next, input := rest } }
  | done {handshake : Tls13Handshake} {messages rest toSend : Bytes}
      {driver : QuicHandshakeDriver} {keys : Keys} {stop : LktlsQuicSession}
      (hstate : session.driver.state = .tls13Encrypted handshake)
      (htake : takeCompleteHandshakeMessages session.driver.input = (some messages, rest))
      (hdriver : driver.state = .complete)
      (hstop : stop.driver = driver)
      (houtput : stop.pendingOutput.flatten = session.pendingOutput.flatten ++ toSend)
      (hkeys : stop.pendingKeys = session.pendingKeys ++ [keys])
      (hestablished : stop.established = true) :
      Step crypto session [.encrypted messages, .flight toSend] stop

/-- The passes of a read. -/
inductive Reading (crypto : Primitives) :
    LktlsQuicSession → List LevelEvent → LktlsQuicSession → Prop
  | nil (session : LktlsQuicSession) : Reading crypto session [] session
  | cons {session next stop : LktlsQuicSession} {events later : List LevelEvent}
      (hstep : Step crypto session events next) (hrest : Reading crypto next later stop) :
      Reading crypto session (events ++ later) stop

variable {crypto : Primitives} {session stop : LktlsQuicSession}

/-! ### Where a panic can come from -/

theorem expectDerived_error {α : Type} {reason : String} {result : Result α} {error : TlsError}
    (hresult : expectDerived reason result = .error error) : error = .noReturn reason := by
  cases result with
  | ok value => cases hresult
  | error other => exact (Except.error.inj hresult).symm

theorem packetProtection_error {keys : PacketKeys} {algorithm : AeadAlgorithm} {error : TlsError}
    (herror : packetProtection keys algorithm = .error error) :
    ∃ reason, error = .noReturn reason := by
  unfold packetProtection at herror
  split at herror
  · rcases bind_eq_error herror with hderived | ⟨aead, _, hpure⟩
    · exact ⟨_, expectDerived_error hderived⟩
    · cases hpure
  · exact ⟨_, (Except.error.inj herror).symm⟩

theorem keysFromSecrets_error {secrets : QuicTrafficSecrets} {side : Side} {error : TlsError}
    (herror : keysFromSecrets crypto secrets side = .error error) :
    ∃ reason, error = .noReturn reason := by
  unfold keysFromSecrets at herror
  rcases bind_eq_error herror with hclient | ⟨_, _, herror⟩
  · exact ⟨_, expectDerived_error hclient⟩
  rcases bind_eq_error herror with hserver | ⟨_, _, herror⟩
  · exact ⟨_, expectDerived_error hserver⟩
  rcases bind_eq_error herror with hkeys | ⟨_, _, herror⟩
  · exact packetProtection_error hkeys
  rcases bind_eq_error herror with hkeys | ⟨_, _, herror⟩
  · exact packetProtection_error hkeys
  cases side <;> cases herror

theorem encodeVarint_error {value : Nat} {error : TlsError}
    (herror : encodeVarint value = .error error) : ∃ reason, error = .noReturn reason := by
  unfold encodeVarint at herror
  split_ifs at herror
  exact ⟨_, (Except.error.inj herror).symm⟩

theorem encodeTransportParams_error {params : List QuicTransportParam} {error : TlsError}
    (herror : encodeTransportParams params = .error error) :
    ∃ reason, error = .noReturn reason := by
  induction params with
  | nil => cases herror
  | cons param params ih =>
    rcases bind_eq_error herror with hid | ⟨_, _, herror⟩
    · exact encodeVarint_error hid
    rcases bind_eq_error herror with hlength | ⟨_, _, herror⟩
    · exact encodeVarint_error hlength
    rcases bind_eq_error herror with hrest | ⟨_, _, herror⟩
    · exact ih hrest
    · cases herror

theorem encodePeerParams_error {params : Option (List QuicTransportParam)} {error : TlsError}
    (herror : QuicHandshakeDriver.encodePeerParams params = .error error) :
    ∃ reason, error = .noReturn reason := by
  cases params with
  | none => cases herror
  | some params =>
    rcases bind_eq_error herror with hparams | ⟨_, _, hpure⟩
    · exact encodeTransportParams_error hparams
    · cases hpure

/-! ### Reads are made of passes -/

theorem Reading.append {middle : LktlsQuicSession} {events later : List LevelEvent}
    (hfirst : Reading crypto session events middle) (hrest : Reading crypto middle later stop) :
    Reading crypto session (events ++ later) stop := by
  induction hfirst with
  | nil session => exact hrest
  | cons hstep _ ih =>
    rw [append_assoc]
    exact .cons hstep (ih hrest)

theorem Reading.single {events : List LevelEvent} (hstep : Step crypto session events stop) :
    Reading crypto session events stop := by
  have hreading := Reading.cons hstep (.nil stop)
  rwa [append_nil] at hreading

variable {driver : QuicHandshakeDriver}

/-- A pass that goes round again takes messages after the ServerHello. -/
theorem step_of_again
    (hagain : QuicHandshakeDriver.body crypto session.driver = (driver, .ok none)) :
    Step crypto session (passEvents crypto session.driver) { session with driver := driver } := by
  obtain ⟨_, htransition⟩ := QuicHandshakeDriver.body_transition hagain
  cases htransition with
  | encrypted hstate htake hprocess =>
    simp only [passEvents, hstate, htake, hprocess, hagain]
    exact .encrypted hstate htake

theorem step_of_error {error : TlsError}
    (hbody : QuicHandshakeDriver.body crypto session.driver = (driver, .error error)) :
    Step crypto session (passEvents crypto session.driver) { session with driver := driver } := by
  obtain ⟨_, htransition⟩ := QuicHandshakeDriver.body_transition hbody
  cases htransition with
  | failed hstate =>
    have hnone : passEvents crypto session.driver = [] := by
      rw [passEvents, hbody]
      split
      · rfl
      next hencrypted => exact absurd hencrypted (hstate _)
      · rfl
      · rfl
    rw [hnone]
    exact .failed hstate rfl
  | rejected hstate htake =>
    simp only [passEvents, hstate, htake, hbody]
    exact .rejected hstate htake rfl

theorem pushKeys_apply (secrets : QuicTrafficSecrets) :
    pushKeys crypto secrets session =
      match keysFromSecrets crypto secrets session.side with
      | .ok keys => ({ session with pendingKeys := session.pendingKeys ++ [keys] }, .ok ())
      | .error error => (session, .error error) := by
  simp only [pushKeys, Action.bind_apply, Action.get_apply, Action.lift_apply, Action.modify_apply]
  cases keysFromSecrets crypto secrets session.side <;> rfl

theorem finish_apply (result : QuicHandshakeResult) :
    finish result session =
      match QuicHandshakeDriver.encodePeerParams result.peerTransportParams with
      | .ok params => ({ session with
          handshakeData := some ⟨result.negotiatedAlpn.map utf8, result.negotiatedCipherSuite⟩
          peerTransportParameters := params
          postHandshake := result.postHandshake
          sessionTicketCtx := result.sessionTicketCtx
          zeroRtt := session.zeroRtt.map fun state =>
            { state with accepted := result.earlyDataAccepted }
          established := true }, .ok ())
      | .error error => (session, .error error) := by
  simp only [finish, Action.bind_apply, Action.lift_apply, Action.modify_apply]
  cases QuicHandshakeDriver.encodePeerParams result.peerTransportParams <;> rfl

theorem pushOutput_eq (data : Bytes) (session : LktlsQuicSession) :
    ∃ output, pushOutput data session = { session with pendingOutput := output } ∧
      output.flatten = session.pendingOutput.flatten ++ data := by
  unfold pushOutput
  split
  next hempty =>
    rw [hempty, append_nil]
    exact ⟨_, rfl, rfl⟩
  · exact ⟨_, rfl, flatten_concat⟩

theorem handleOutput_secretsReady {secrets : QuicTrafficSecrets} {outcome : Result (Option Bool)}
    (hhandle : handleOutput crypto (.handshakeSecretsReady [] secrets) session = (stop, outcome))
    (hreturns : Returns outcome) :
    ∃ keys, stop = { session with pendingKeys := session.pendingKeys ++ [keys] } := by
  simp only [handleOutput, Action.bind_apply, Action.modify_apply, pushKeys_apply,
    Action.pure_apply, pushOutput, if_true] at hhandle
  cases hkeys : keysFromSecrets crypto secrets session.side with
  | ok keys =>
    simp only [hkeys] at hhandle
    cases hhandle
    exact ⟨keys, rfl⟩
  | error error =>
    simp only [hkeys] at hhandle
    cases hhandle
    obtain ⟨reason, rfl⟩ := keysFromSecrets_error hkeys
    exact absurd rfl (hreturns reason)

theorem handleOutput_done {toSend : Bytes} {result : QuicHandshakeResult}
    {outcome : Result (Option Bool)}
    (hhandle : handleOutput crypto (.done toSend result) session = (stop, outcome))
    (hreturns : Returns outcome) :
    ∃ keys, stop.driver = session.driver ∧
      stop.pendingOutput.flatten = session.pendingOutput.flatten ++ toSend ∧
      stop.pendingKeys = session.pendingKeys ++ [keys] ∧ stop.established = true := by
  obtain ⟨output, hpushed, houtput⟩ := pushOutput_eq toSend session
  simp only [handleOutput, Action.bind_apply, Action.modify_apply, pushKeys_apply,
    Action.pure_apply, hpushed] at hhandle
  cases hkeys : keysFromSecrets crypto result.appSecrets session.side with
  | error error =>
    simp only [hkeys] at hhandle
    cases hhandle
    obtain ⟨reason, rfl⟩ := keysFromSecrets_error hkeys
    exact absurd rfl (hreturns reason)
  | ok keys =>
    simp only [hkeys, finish_apply] at hhandle
    cases hparams : QuicHandshakeDriver.encodePeerParams result.peerTransportParams with
    | error error =>
      simp only [hparams] at hhandle
      cases hhandle
      obtain ⟨reason, rfl⟩ := encodePeerParams_error hparams
      exact absurd rfl (hreturns reason)
    | ok params =>
      simp only [hparams] at hhandle
      cases hhandle
      exact ⟨keys, rfl, houtput, rfl, rfl⟩

/-- A read goes on only after a ClientHello. -/
theorem handleOutput_again {output : QuicHandshakeOutput}
    (hhandle : handleOutput crypto output session = (stop, .ok none)) :
    ∃ data, output = .sendData data := by
  cases output with
  | sendData data => exact ⟨data, rfl⟩
  | needData => cases hhandle
  | handshakeSecretsReady | done =>
    simp [handleOutput, Action.bind_returns, Action.pure_returns] at hhandle

/-- The pass that ends a call of the driver, and what the session does with its output. -/
theorem reading_of_leave {output : QuicHandshakeOutput} {outcome : Result (Option Bool)}
    (hbody : QuicHandshakeDriver.body crypto session.driver = (driver, .ok (some output)))
    (hhandle : handleOutput crypto output { session with driver := driver } = (stop, outcome))
    (hreturns : Returns outcome) :
    Reading crypto session (passEvents crypto session.driver) stop := by
  obtain ⟨_, htransition⟩ := QuicHandshakeDriver.body_transition hbody
  cases htransition with
  | needHello hstate htake =>
    cases hhandle
    have hnone : passEvents crypto session.driver = [] := by
      simp only [passEvents, hstate, hbody]
      split
      next htaken => rw [htaken] at htake; cases htake
      · rfl
    rw [hnone]
    exact .nil session
  | needMessages hstate htake =>
    cases hhandle
    have hnone : passEvents crypto session.driver = [] := by
      simp only [passEvents, hstate]
      split
      · rfl
      next htaken => rw [htaken] at htake; cases htake
    rw [hnone]
    exact .nil session
  | retry hstate htake hversion hprocess =>
    cases hhandle
    simp only [passEvents, hstate, hbody, htake, hprocess]
    exact .single (.retry hstate rfl)
  | hello hstate htake hversion hprocess =>
    obtain ⟨keys, rfl⟩ := handleOutput_secretsReady hhandle hreturns
    simp only [passEvents, hstate, hbody, htake, hprocess]
    exact .single (.hello hstate rfl rfl)
  | done hstate htake hprocess =>
    obtain ⟨keys, hdriver, houtput, hkeys, hestablished⟩ := handleOutput_done hhandle hreturns
    simp only [passEvents, hstate, hbody, htake, hprocess]
    exact .single (.done hstate htake rfl hdriver houtput hkeys hestablished)

/-- The passes of one call of the driver that returns. -/
theorem reading_of_output {fuel : Nat} {output : QuicHandshakeOutput}
    {outcome : Result (Option Bool)}
    (hloop : (QuicHandshakeDriver.body crypto).loop .needData fuel session.driver =
      (driver, .ok output))
    (hhandle : handleOutput crypto output { session with driver := driver } = (stop, outcome))
    (hreturns : Returns outcome) :
    Reading crypto session (progressEvents crypto fuel session.driver) stop := by
  induction fuel generalizing session with
  | zero =>
    cases hloop
    cases hhandle
    exact .nil session
  | succ fuel ih =>
    rw [Action.loop_succ] at hloop
    rw [progressEvents]
    rcases hbody : QuicHandshakeDriver.body crypto session.driver with ⟨next, error | _ | value⟩
    · rw [hbody] at hloop
      cases hloop
    · rw [hbody] at hloop
      exact .cons (step_of_again hbody) (@ih { session with driver := next } hloop hhandle)
    · rw [hbody] at hloop
      cases hloop
      dsimp only
      rw [append_nil]
      exact reading_of_leave hbody hhandle hreturns

/-- The passes of one call of the driver that fails. -/
theorem reading_of_error {fuel : Nat} {error : TlsError}
    (hloop : (QuicHandshakeDriver.body crypto).loop .needData fuel session.driver =
      (driver, .error error)) :
    Reading crypto session (progressEvents crypto fuel session.driver)
      { session with driver := driver } := by
  induction fuel generalizing session with
  | zero => cases hloop
  | succ fuel ih =>
    rw [Action.loop_succ] at hloop
    rw [progressEvents]
    rcases hbody : QuicHandshakeDriver.body crypto session.driver with ⟨next, error | _ | value⟩
    · rw [hbody] at hloop
      cases hloop
      dsimp only
      rw [append_nil]
      exact .single (step_of_error hbody)
    · rw [hbody] at hloop
      exact .cons (step_of_again hbody) (@ih { session with driver := next } hloop)
    · rw [hbody] at hloop
      cases hloop

/-- A read before the handshake has ended is made of passes. -/
theorem reading_of_loop {fuel : Nat} {outcome : Result Bool}
    (hloop : (readBody crypto).loop false fuel session = (stop, outcome))
    (hreturns : Returns outcome) :
    Reading crypto session (readEvents crypto fuel session.driver) stop := by
  induction fuel generalizing session with
  | zero =>
    cases hloop
    exact .nil _
  | succ fuel ih =>
    rw [Action.loop_succ, readBody, Action.bind_apply, progress] at hloop
    rw [readEvents]
    rcases hprogress : session.driver.progress crypto with ⟨driver, error | output⟩
    · rw [hprogress] at hloop
      cases hloop
      dsimp only
      rw [append_nil]
      exact reading_of_error hprogress
    · rw [hprogress] at hloop
      have hlast (hmore : ∀ data, output ≠ .sendData data) : Reading crypto session
          (progressEvents crypto (session.driver.input.length + 1) session.driver) stop := by
        rcases hhandle : handleOutput crypto output { session with driver := driver } with
          ⟨next, error | _ | value⟩
        · simp only [hhandle] at hloop
          cases hloop
          exact reading_of_output hprogress hhandle fun reason heq =>
            hreturns reason (by cases heq; rfl)
        · obtain ⟨data, rfl⟩ := handleOutput_again hhandle
          exact absurd rfl (hmore data)
        · simp only [hhandle] at hloop
          cases hloop
          exact reading_of_output hprogress hhandle nofun
      cases output with
      | sendData data => exact (reading_of_output hprogress rfl nofun).append (ih hloop)
      | needData | handshakeSecretsReady | done =>
        dsimp only
        rw [append_nil]
        exact hlast nofun

/-- What a read does before the handshake has ended. -/
theorem readHandshake_reading {data : Bytes} {outcome : Result Bool}
    (hopen : session.established = false)
    (hread : readHandshake crypto data session = (stop, outcome)) (hreturns : Returns outcome) :
    Reading crypto { session with driver := session.driver.feed data }
      (readEvents crypto ((session.driver.feed data).input.length + 1)
        (session.driver.feed data)) stop := by
  rw [readHandshake, Action.bind_apply, Action.get_apply] at hread
  dsimp only at hread
  rw [if_neg (by rw [hopen]; decide)] at hread
  exact reading_of_loop hread hreturns

end LktlsQuicSession

/-! ## The invariant of runs -/

/-- Before the handshake keys are handed out only ClientHello messages have been made. -/
structure BeforeKeys (ledger : Ledger) (session : LktlsQuicSession) : Prop where
  keysOut : ledger.keysOut = 0
  opened : session.established = false
  hellos : ledger.initial ++ session.pendingOutput.flatten = ledger.hellos
  flight : ledger.flight = []
  handshake : ledger.handshake = []
  interpreted : ledger.interpreted = []
  late : ledger.late = []

/-- Between the handshake keys and the final flight nothing waits to be written. -/
structure AfterKeys (ledger : Ledger) (session : LktlsQuicSession) : Prop where
  keysOut : ledger.keysOut = 1
  opened : session.established = false
  pendingKeys : session.pendingKeys = []
  pendingOutput : session.pendingOutput.flatten = []
  initial : ledger.initial = ledger.hellos
  flight : ledger.flight = []
  handshake : ledger.handshake = []

/-- What the ledger and the queues hold in each phase of a run. -/
inductive Consistent (ledger : Ledger) (session : LktlsQuicSession) : Prop
  | waiting (hbefore : BeforeKeys ledger session) (hkeys : session.pendingKeys = [])
      (hstate : ∀ handshake, session.driver.state ≠ .tls13Encrypted handshake)
  | due {keys : Keys} {handshake : Tls13Handshake} (hbefore : BeforeKeys ledger session)
      (hanswered : ledger.answered = true) (hkeys : session.pendingKeys = [keys])
      (hstate : session.driver.state = .tls13Encrypted handshake)
      (hinput : session.driver.input = [])
  | encrypted {handshake : Tls13Handshake} (hafter : AfterKeys ledger session)
      (hstate : session.driver.state = .tls13Encrypted handshake)
      (hinput : ledger.interpreted ++ session.driver.input = ledger.late)
  | failed (hafter : AfterKeys ledger session) (hstate : session.driver.state = .complete)
      (hinterpreted : ledger.interpreted <+: ledger.late)
  | done {keys : Keys} (hkeysOut : ledger.keysOut = 1) (hstate : session.driver.state = .complete)
      (hestablished : session.established = true) (hkeys : session.pendingKeys = [keys])
      (hinitial : ledger.initial = ledger.hellos)
      (hflight : ledger.handshake ++ session.pendingOutput.flatten = ledger.flight)
      (hinterpreted : ledger.interpreted <+: ledger.late)
  | finished (hkeysOut : 1 < ledger.keysOut) (hstate : session.driver.state = .complete)
      (hestablished : session.established = true) (hkeys : session.pendingKeys = [])
      (hinitial : ledger.initial = ledger.hellos) (hflight : ledger.handshake = ledger.flight)
      (hinterpreted : ledger.interpreted <+: ledger.late)

theorem BeforeKeys.kept {ledger : Ledger} {session : LktlsQuicSession}
    (hbefore : BeforeKeys ledger session) : ledger.Kept where
  initial := ⟨_, hbefore.hellos⟩
  initial_eq hpos := absurd hbefore.keysOut (Nat.ne_of_gt hpos)
  handshake := hbefore.handshake ▸ nil_prefix
  handshake_eq hpos := absurd hbefore.keysOut (Nat.ne_of_gt (Nat.lt_of_succ_lt hpos))
  interpreted := hbefore.interpreted ▸ nil_prefix

theorem AfterKeys.kept {ledger : Ledger} {session : LktlsQuicSession}
    (hafter : AfterKeys ledger session) (hinterpreted : ledger.interpreted <+: ledger.late) :
    ledger.Kept where
  initial := hafter.initial ▸ prefix_refl _
  initial_eq _ := hafter.initial
  handshake := hafter.handshake ▸ nil_prefix
  handshake_eq hpos := absurd hafter.keysOut (Nat.ne_of_gt hpos)
  interpreted := hinterpreted

theorem Consistent.kept {ledger : Ledger} {session : LktlsQuicSession}
    (hconsistent : Consistent ledger session) : ledger.Kept := by
  cases hconsistent with
  | waiting hbefore | due hbefore => exact hbefore.kept
  | encrypted hafter hstate hinput => exact hafter.kept ⟨_, hinput⟩
  | failed hafter hstate hinterpreted => exact hafter.kept hinterpreted
  | done hkeysOut hstate hestablished hkeys hinitial hflight hinterpreted =>
    exact ⟨hinitial ▸ prefix_refl _, fun _ => hinitial, ⟨_, hflight⟩,
      fun hpos => absurd hkeysOut (Nat.ne_of_gt hpos), hinterpreted⟩
  | finished hkeysOut hstate hestablished hkeys hinitial hflight hinterpreted =>
    exact ⟨hinitial ▸ prefix_refl _, fun _ => hinitial, hflight ▸ prefix_refl _,
      fun _ => hflight, hinterpreted⟩

theorem append_of_takeComplete {input messages rest : Bytes}
    (htake : takeCompleteHandshakeMessages input = (some messages, rest)) :
    messages ++ rest = input := by
  simp only [takeCompleteHandshakeMessages] at htake
  split at htake
  · cases htake
  · obtain ⟨hmessages, rfl⟩ := Prod.mk.inj htake
    rw [← some.inj hmessages, take_append_drop]

section Steps

open Ledger LktlsQuicSession

variable {crypto : Primitives} {ledger : Ledger} {session next : LktlsQuicSession}
  {events : List LevelEvent} {handshake : Tls13Handshake}

/-- The driver is the only thing that a failing pass changes. -/
theorem AfterKeys.of_driver (hafter : AfterKeys ledger session) {driver : QuicHandshakeDriver}
    {interpreted : Bytes} :
    AfterKeys { ledger with interpreted := interpreted } { session with driver := driver } :=
  { hafter with }

theorem AfterKeys.write (hafter : AfterKeys ledger session) :
    AfterKeys (ledger.record (.wrote session.writeHandshake.2.1 session.writeHandshake.2.2))
      session.writeHandshake.1 where
  keysOut := by simp [record, writeHandshake, hafter.pendingKeys, hafter.keysOut]
  opened := hafter.opened
  pendingKeys := by simp [writeHandshake, hafter.pendingKeys]
  pendingOutput := rfl
  initial := by simp [record, hafter.keysOut, hafter.initial]
  flight := hafter.flight
  handshake := by
    simp [record, writeHandshake, hafter.keysOut, hafter.handshake, hafter.pendingOutput]

/-- A pass while the driver waits for the ServerHello. -/
theorem Consistent.step_waiting (hbefore : BeforeKeys ledger session)
    (hkeys : session.pendingKeys = [])
    (hstate : ∀ handshake, session.driver.state ≠ .tls13Encrypted handshake)
    (hstep : Step crypto session events next) (horder : (ledger.recordAll events).inOrder = true) :
    Consistent (ledger.recordAll events) next := by
  cases hstep with
  | failed _ hstop =>
    refine .waiting ?_ ?_ ?_
    · exact { hbefore with }
    · exact hkeys
    · intro handshake heq
      cases hstop.symm.trans heq
  | retry _ hstop =>
    refine .waiting ?_ ?_ ?_
    · refine { hbefore with hellos := ?_ }
      simp [recordAll, record, ← hbefore.hellos]
    · exact hkeys
    · intro handshake heq
      cases hstop.symm.trans heq
  | hello _ hstop hinput =>
    have hempty := of_decide_eq_true (Bool.and_eq_true_iff.mp horder).2
    refine .due ?_ rfl (congrArg (· ++ [_]) hkeys) hstop (hinput.trans hempty)
    exact { hbefore with }
  | rejected hencrypted | encrypted hencrypted | done hencrypted =>
    exact absurd hencrypted (hstate _)

/-- Without input there is no pass after the ServerHello. -/
theorem not_step_of_empty (hstate : session.driver.state = .tls13Encrypted handshake)
    (hinput : session.driver.input = []) : ¬ Step crypto session events next := by
  have hnone : ∀ {messages rest : Bytes},
      takeCompleteHandshakeMessages session.driver.input ≠ (some messages, rest) := by
    intro messages rest htake
    rw [hinput] at htake
    cases htake
  intro hstep
  cases hstep with
  | failed hother => exact hother _ hstate
  | retry hother | hello hother => cases hstate.symm.trans hother
  | rejected _ htake | encrypted _ htake | done _ htake => exact hnone htake

/-- A pass after the handshake keys have been handed out. -/
theorem Consistent.step_encrypted (hafter : AfterKeys ledger session)
    (hstate : session.driver.state = .tls13Encrypted handshake)
    (hinput : ledger.interpreted ++ session.driver.input = ledger.late)
    (hstep : Step crypto session events next) : Consistent (ledger.recordAll events) next := by
  have htaken : ∀ {messages rest : Bytes},
      takeCompleteHandshakeMessages session.driver.input = (some messages, rest) →
        (ledger.interpreted ++ messages) ++ rest = ledger.late := by
    intro messages rest htake
    rw [append_assoc, append_of_takeComplete htake, hinput]
  cases hstep with
  | failed hother => exact absurd hstate (hother _)
  | retry hother | hello hother => cases hstate.symm.trans hother
  | rejected _ htake hstop =>
    exact .failed hafter.of_driver hstop ⟨_, htaken htake⟩
  | encrypted _ htake => exact .encrypted hafter.of_driver rfl (htaken htake)
  | done _ htake hcomplete hdriver houtput hkeys hestablished =>
    rw [hafter.pendingKeys] at hkeys
    refine .done hafter.keysOut (hdriver ▸ hcomplete) hestablished hkeys hafter.initial ?_
      ⟨_, htaken htake⟩
    simp [recordAll, record, houtput, hafter.pendingOutput, hafter.flight,
      hafter.handshake]

/-- A driver that has ended makes no pass but one that fails. -/
theorem driver_of_step_complete (hstate : session.driver.state = .complete)
    (hstep : Step crypto session events next) :
    ∃ driver, driver.state = .complete ∧ next = { session with driver := driver } ∧
      events = [] := by
  cases hstep with
  | failed _ hstop => exact ⟨_, hstop, rfl, rfl⟩
  | retry hother | hello hother | rejected hother | encrypted hother | done hother =>
    cases hstate.symm.trans hother

variable (hconsistent : Consistent ledger session)
include hconsistent

theorem Consistent.step
    (hstep : Step crypto session events next) (horder : (ledger.recordAll events).inOrder = true) :
    Consistent (ledger.recordAll events) next := by
  cases hconsistent with
  | waiting hbefore hkeys hstate => exact step_waiting hbefore hkeys hstate hstep horder
  | due hbefore hanswered hkeys hstate hinput =>
    exact absurd hstep (not_step_of_empty hstate hinput)
  | encrypted hafter hstate hinput => exact step_encrypted hafter hstate hinput hstep
  | failed hafter hstate hinterpreted =>
    obtain ⟨driver, hstop, rfl, rfl⟩ := driver_of_step_complete hstate hstep
    exact .failed hafter.of_driver hstop hinterpreted
  | done hkeysOut hstate hestablished hkeys hinitial hflight hinterpreted =>
    obtain ⟨driver, hstop, rfl, rfl⟩ := driver_of_step_complete hstate hstep
    exact .done hkeysOut hstop hestablished hkeys hinitial hflight hinterpreted
  | finished hkeysOut hstate hestablished hkeys hinitial hflight hinterpreted =>
    obtain ⟨driver, hstop, rfl, rfl⟩ := driver_of_step_complete hstate hstep
    exact .finished hkeysOut hstop hestablished hkeys hinitial hflight hinterpreted

omit hconsistent in
theorem Ledger.inOrder_of_recordAll
    (horder : (ledger.recordAll events).inOrder = true) : ledger.inOrder = true := by
  induction events generalizing ledger with
  | nil => exact horder
  | cons event events ih => exact inOrder_of_record (ih horder)

omit hconsistent in
theorem Ledger.recordAll_append (ledger : Ledger) (first rest : List LevelEvent) :
    ledger.recordAll (first ++ rest) = (ledger.recordAll first).recordAll rest :=
  foldl_append

theorem Consistent.reading (hreading : Reading crypto session events next)
    (horder : (ledger.recordAll events).inOrder = true) :
    Consistent (ledger.recordAll events) next := by
  induction hreading generalizing ledger with
  | nil session => exact hconsistent
  | cons hstep _ ih =>
    rw [recordAll_append] at horder ⊢
    exact ih (hconsistent.step hstep (inOrder_of_recordAll horder)) horder

/-- What has been read waits in the driver. -/
theorem Consistent.feed (hopen : session.established = false) {data : Bytes}
    (horder : (ledger.record (.read data)).inOrder = true) :
    Consistent (ledger.record (.read data))
      { session with driver := session.driver.feed data } := by
  cases hconsistent with
  | waiting hbefore hkeys hstate =>
    refine .waiting { hbefore with late := ?_ } hkeys hstate
    rw [record, hbefore.keysOut, if_pos rfl, hbefore.late]
  | due hbefore hanswered hkeys hstate hinput =>
    have hdata : data = [] := by
      simpa [record, hanswered, hbefore.keysOut] using
        (Bool.and_eq_true_iff.mp horder).2
    subst hdata
    refine .due { hbefore with late := ?_ } hanswered hkeys hstate ?_
    · rw [record, hbefore.keysOut, if_pos rfl, hbefore.late]
    · exact (append_nil _).trans hinput
  | encrypted hafter hstate hinput =>
    refine .encrypted { hafter with } hstate ?_
    rw [record, hafter.keysOut, if_neg Nat.one_ne_zero, ← hinput, append_assoc]
    rfl
  | failed hafter hstate hinterpreted =>
    refine .failed { hafter with } hstate ?_
    rw [record, hafter.keysOut, if_neg Nat.one_ne_zero]
    exact hinterpreted.trans (prefix_append _ _)
  | done _ _ hestablished | finished _ _ hestablished =>
    cases hopen.symm.trans hestablished

theorem Consistent.readLate (hestablished : session.established = true) (data : Bytes) :
    Consistent (ledger.record (.read data)) (session.readPostHandshake crypto data) := by
  have hsame : ∃ tickets buffered, session.readPostHandshake crypto data =
      { session with stored := tickets, postHandshakeBuf := buffered } := by
    unfold readPostHandshake
    split
    · exact ⟨session.stored, session.postHandshakeBuf, rfl⟩
    · exact ⟨_, _, rfl⟩
  obtain ⟨tickets, buffered, hsession⟩ := hsame
  rw [hsession]
  cases hconsistent with
  | waiting hopen | due hopen | encrypted hopen | failed hopen =>
    cases hestablished.symm.trans hopen.opened
  | done hkeysOut hstate _ hkeys hinitial hflight hinterpreted =>
    refine .done hkeysOut hstate hestablished hkeys hinitial hflight ?_
    rw [record, hkeysOut, if_neg Nat.one_ne_zero]
    exact hinterpreted.trans (prefix_append _ _)
  | finished hkeysOut hstate _ hkeys hinitial hflight hinterpreted =>
    refine .finished hkeysOut hstate hestablished hkeys hinitial hflight ?_
    rw [record, if_neg (by omega)]
    exact hinterpreted.trans (prefix_append _ _)

/-- A write hands out all that waits, with the first keys. -/
theorem Consistent.write :
    Consistent (ledger.record (.wrote session.writeHandshake.2.1 session.writeHandshake.2.2))
      session.writeHandshake.1 := by
  cases hconsistent with
  | waiting hbefore hkeys hstate =>
    refine .waiting ⟨?_, hbefore.opened, ?_, hbefore.flight, ?_, hbefore.interpreted,
      hbefore.late⟩ ?_ hstate
    · simp [record, writeHandshake, hkeys, hbefore.keysOut]
    · simp [record, writeHandshake, hbefore.keysOut, hbefore.hellos]
    · simp [record, hbefore.keysOut, hbefore.handshake]
    · simp [writeHandshake, hkeys]
  | due hbefore hanswered hkeys hstate hinput =>
    refine .encrypted ⟨?_, hbefore.opened, ?_, rfl, ?_, hbefore.flight, ?_⟩ hstate ?_
    · simp [record, writeHandshake, hkeys, hbefore.keysOut]
    · simp [writeHandshake, hkeys]
    · simp [record, writeHandshake, hbefore.keysOut, hbefore.hellos]
    · simp [record, hbefore.keysOut, hbefore.handshake]
    · simp [record, writeHandshake, hbefore.interpreted, hinput, hbefore.late]
  | encrypted hafter hstate hinput => exact .encrypted hafter.write hstate hinput
  | failed hafter hstate hinterpreted => exact .failed hafter.write hstate hinterpreted
  | done hkeysOut hstate hestablished hkeys hinitial hflight hinterpreted =>
    refine .finished ?_ hstate hestablished ?_ ?_ ?_ hinterpreted
    · simp [record, writeHandshake, hkeys, hkeysOut]
    · simp [writeHandshake, hkeys]
    · simp [record, hkeysOut, hinitial]
    · simp [record, writeHandshake, hkeysOut, hflight]
  | finished hkeysOut hstate hestablished hkeys hinitial hflight hinterpreted =>
    refine .finished ?_ hstate hestablished ?_ ?_ ?_ hinterpreted
    · simp [record]
      omega
    · simp [writeHandshake, hkeys]
    · simp [record, hinitial, show ledger.keysOut ≠ 0 by omega]
    · simp [record, hflight, show ledger.keysOut ≠ 1 by omega]

omit hconsistent

theorem Consistent.of_run {config : QuicHandshakeConfig} (hrun : Run crypto config events session)
    (horder : (({} : Ledger).recordAll events).inOrder = true) :
    Consistent (({} : Ledger).recordAll events) session := by
  induction hrun with
  | start hdriver hstart =>
    obtain ⟨handshake, _, rfl⟩ := QuicHandshakeDriver.start_returns hdriver
    rw [startSession, hdriver] at hstart
    cases hstart
    refine .waiting ⟨rfl, rfl, ?_, rfl, rfl, rfl, rfl⟩ rfl (fun _ heq => by cases heq)
    simp [recordAll, record]
  | read hrun hopen hread hreturns ih =>
    rw [recordAll_append] at horder ⊢
    have hfed : ((({} : Ledger).recordAll _).record (.read _)).inOrder = true :=
      inOrder_of_recordAll horder
    exact ((ih (inOrder_of_record hfed)).feed hopen hfed).reading
      (readHandshake_reading hopen hread hreturns) horder
  | @readLate _ session _ data _ hrun hestablished hread ih =>
    rw [recordAll_append] at horder ⊢
    rw [readHandshake, Action.bind_apply, Action.get_apply] at hread
    simp only [hestablished, if_true, Action.bind_apply, Action.modify_apply,
      Action.pure_apply] at hread
    cases hread
    exact (ih (inOrder_of_recordAll horder)).readLate hestablished data
  | write hrun ih =>
    rw [recordAll_append] at horder ⊢
    exact (ih (inOrder_of_recordAll horder)).write

end Steps

/-- **Handshake bytes stay at their encryption level, if nothing is read between the ServerHello and
the handshake keys.** In every run of reads and writes in which no bytes stand behind the
ServerHello and none are read before the handshake keys are handed out, the levels are kept
apart. -/
theorem levels_kept_of_inOrder {crypto : Primitives} {config : QuicHandshakeConfig}
    {events : List LevelEvent} {session : LktlsQuicSession}
    (hrun : LktlsQuicSession.Run crypto config events session)
    (horder : (({} : Ledger).recordAll events).inOrder = true) :
    (({} : Ledger).recordAll events).Kept :=
  (Consistent.of_run hrun horder).kept

/-! ## Two orders of the same exchange -/

namespace Exchange

open Handshake.Exchange LktlsQuicSession

abbrev crypto : Primitives := quicRecording.primitives

def started : LktlsQuicSession where
  driver := quicStarted
  pendingOutput := [quicClientHello]
  peerTransportParameters := none
  zeroRtt := none

/-- The session once its ClientHello has been written. -/
def greeted : LktlsQuicSession := started.writeHandshake.1

/-- The session after a first read. -/
def answered (data : Bytes) : LktlsQuicSession := (greeted.readHandshake crypto data).1

/-- The session that has handed out the handshake keys. -/
def keyed (data : Bytes) : LktlsQuicSession := (answered data).writeHandshake.1

/-- What happens up to the handshake keys. -/
def opening (data : Bytes) : List LevelEvent :=
  [.hello quicClientHello, .wrote quicClientHello none] ++
    .read data :: readEvents crypto ((greeted.driver.feed data).input.length + 1)
      (greeted.driver.feed data) ++
    [.wrote (answered data).pendingOutput.flatten (answered data).pendingKeys.head?]

theorem run_greeted : Run crypto quicConfig
    [.hello quicClientHello, .wrote quicClientHello none] greeted := by
  have hstart : startSession crypto quicConfig = .ok started := by decide +kernel
  exact (Run.start quicStart_eq hstart).write

/-- A read that returns continues a run. -/
theorem run_read {events : List LevelEvent} {session : LktlsQuicSession} {data : Bytes}
    {outcome : Bool} (hrun : Run crypto quicConfig events session)
    (hopen : session.established = false)
    (hread : (session.readHandshake crypto data).2 = .ok outcome) :
    Run crypto quicConfig (events ++ .read data :: readEvents crypto
      ((session.driver.feed data).input.length + 1) (session.driver.feed data))
      (session.readHandshake crypto data).1 :=
  hrun.read hopen (Prod.snd_eq_iff.mp hread) nofun

/-- A first read, and the keys handed out after it. -/
theorem run_keyed {data : Bytes} (hread : (greeted.readHandshake crypto data).2 = .ok false) :
    Run crypto quicConfig (opening data) (keyed data) :=
  (run_read run_greeted rfl hread).write

/-- The whole exchange in order: the ServerHello, the handshake keys, the flight of the server, and
the final flight with the 1-RTT keys. -/
theorem levels_kept_in_order :
    ∃ events session, Run crypto quicConfig events session ∧
      (({} : Ledger).recordAll events).keysOut = 2 ∧
      (({} : Ledger).recordAll events).handshake = quicClientFinished ∧
      (({} : Ledger).recordAll events).Kept := by
  have hkeyed : Run crypto quicConfig (opening serverHello) (keyed serverHello) :=
    run_keyed (by decide +kernel)
  have hread : ((keyed serverHello).readHandshake crypto (quicFlight ++ quicServerFinished)).2 =
      .ok true := by decide +kernel
  have hrun := (run_read hkeyed (by decide +kernel) hread).write
  exact ⟨_, _, hrun, by decide +kernel, by decide +kernel,
    levels_kept_of_inOrder hrun (by decide +kernel)⟩

/-- The session that has read the ServerHello and what the server sent behind it. -/
def overtaken : LktlsQuicSession := keyed (serverHello ++ quicEncryptedExtensions)

/-- EncryptedExtensions that come with the ServerHello, before the handshake keys, are interpreted
once the keys are handed out. -/
theorem encrypted_extensions_from_initial_level :
    ∃ events session, Run crypto quicConfig events session ∧
      ¬ (({} : Ledger).recordAll events).Kept := by
  have hkeyed : Run crypto quicConfig (opening (serverHello ++ quicEncryptedExtensions))
      overtaken := run_keyed (by decide +kernel)
  have hread : (overtaken.readHandshake crypto []).2 = .ok false := by decide +kernel
  refine ⟨_, _, run_read hkeyed (by decide +kernel) hread, fun hkept => ?_⟩
  have hprefix := hkept.interpreted
  revert hprefix
  decide +kernel

end Exchange

end LkRequest.Quic
