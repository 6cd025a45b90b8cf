import LkRequest.Handshake.Passes
import LkRequest.Handshake.Tls12Steps
import LkRequest.Handshake.Tls13Steps

/-!
# Runs of the handshake driver

A run starts a driver and then feeds it, calls `progress` and takes pending alerts in any order,
also after a call has failed. Beside the driver it keeps what has been handed out to the transport
and what has been exchanged with the peer.
-/

namespace LkRequest.Handshake

open Library Crypto Record Action

/-- The bytes of an output for the transport. -/
def HandshakeOutput.toSend : HandshakeOutput → Bytes
  | sendData bytes => bytes
  | needData => []
  | done bytes _ => bytes

/-- What a call that completes the handshake returns. -/
def HandshakeOutput.completed : Result HandshakeOutput → Option (Bytes × HandshakeResult)
  | .ok (.done bytes result) => some (bytes, result)
  | _ => none

theorem HandshakeOutput.exists_of_completed {α : Type} {outcome : Result HandshakeOutput}
    {view : Bytes × HandshakeResult → α} {value : α}
    (hcompleted : (completed outcome).map view = some value) :
    ∃ toSend result, outcome = .ok (.done toSend result) ∧ view (toSend, result) = value := by
  unfold completed at hcompleted
  split at hcompleted
  · exact ⟨_, _, rfl, Option.some.inj hcompleted⟩
  · cases hcompleted

namespace HandshakeDriver

/-- The drivers that calls can reach, with the bytes handed out and the events so far. -/
inductive Run (crypto : Primitives) (config : HandshakeConfig) :
    List Bytes → List Event → HandshakeDriver → Prop
  | start {driver : HandshakeDriver} {handshake : Tls13Handshake} {chMsg chRecord : Bytes}
      (hstart : start crypto (.new config) = (driver, .ok chRecord))
      (hstate : driver.state = .waitServerHello handshake chMsg) :
      Run crypto config [chRecord] [.sent chMsg] driver
  | feed {handed : List Bytes} {events : List Event} {driver : HandshakeDriver}
      (hrun : Run crypto config handed events driver) (data : Bytes) :
      Run crypto config handed events (driver.feed data)
  | returns {handed : List Bytes} {events passed : List Event} {driver next : HandshakeDriver}
      {output : HandshakeOutput} (hrun : Run crypto config handed events driver)
      (hprogress : progress crypto driver = (next, .ok output))
      (hpasses : Passes crypto driver passed next (.ok output)) :
      Run crypto config (handed ++ [output.toSend]) (events ++ passed) next
  | fails {handed : List Bytes} {events passed : List Event} {driver next : HandshakeDriver}
      {error : TlsError} (hrun : Run crypto config handed events driver)
      (hprogress : progress crypto driver = (next.keepAlert crypto error, .error error))
      (hpasses : Passes crypto driver passed next (.error error)) :
      Run crypto config handed (events ++ passed) (next.keepAlert crypto error)
  | alert {handed : List Bytes} {events : List Event} {driver : HandshakeDriver}
      (hrun : Run crypto config handed events driver) :
      Run crypto config (handed ++ driver.takePendingAlert.2.toList) events
        driver.takePendingAlert.1

variable {crypto : Primitives} {config : HandshakeConfig} {driver : HandshakeDriver}
  {chRecord : Bytes} {handed : List Bytes} {events : List Event}

/-- What the driver looks like after `start`. -/
theorem start_returns (hstart : start crypto (.new config) = (driver, .ok chRecord)) :
    ∃ handshake chMsg writer,
      (initialHandshake config).buildClientHello crypto = .ok (handshake, chMsg) ∧
      RecordWriter.new.writeRecord crypto ContentType.handshake chMsg = (writer, .ok chRecord) ∧
      driver = { HandshakeDriver.new config with
        state := .waitServerHello handshake chMsg
        writer := writer
        originalTicket := usableTicket config } := by
  unfold start at hstart
  simp only [↓get_bind, ↓modify_bind, ↓lift_bind, ↓setState_bind, bind_returns, onWriter_returns,
    pure_returns] at hstart
  obtain ⟨⟨handshake, chMsg⟩, hbuild, _, _, ⟨writer, hwrite, rfl⟩, rfl, rfl⟩ := hstart
  refine ⟨handshake, chMsg, writer, hbuild, hwrite, ?_⟩
  rw [HandshakeDriver.new, Option.or_none]

/-- A started driver is the beginning of a run. -/
theorem exists_run_of_start (hstart : start crypto (.new config) = (driver, .ok chRecord)) :
    ∃ events, Run crypto config [chRecord] events driver := by
  obtain ⟨handshake, chMsg, writer, -, -, hdriver⟩ := start_returns hstart
  have hstate : driver.state = .waitServerHello handshake chMsg := by rw [hdriver]
  exact ⟨_, .start hstart hstate⟩

/-- A call that returns continues a run. -/
theorem Run.exists_of_progress {next : HandshakeDriver}
    {output : HandshakeOutput} (hrun : Run crypto config handed events driver)
    (hprogress : progress crypto driver = (next, .ok output)) :
    ∃ events, Run crypto config (handed ++ [output.toSend]) events next := by
  obtain ⟨passed, hpasses⟩ := progress_returns hprogress
  exact ⟨_, hrun.returns hprogress hpasses⟩

/-- The rule of invariants for runs, by cases on what a pass can do. -/
theorem Run.induct (hrun : Run crypto config handed events driver)
    (invariant : List Bytes → List Event → HandshakeDriver → Prop)
    (hstart : ∀ driver chRecord handshake chMsg,
      HandshakeDriver.start crypto (.new config) = (driver, .ok chRecord) →
      driver.state = .waitServerHello handshake chMsg → invariant [chRecord] [.sent chMsg] driver)
    (hfeed : ∀ handed events driver data, invariant handed events driver →
      invariant handed events (HandshakeDriver.feed driver data))
    (hagain : ∀ handed events driver passed next, invariant handed events driver →
      Transition crypto driver passed next (.ok none) → invariant handed (events ++ passed) next)
    (hreturns : ∀ handed events driver passed next output, invariant handed events driver →
      Transition crypto driver passed next (.ok (some output)) →
      invariant (handed ++ [output.toSend]) (events ++ passed) next)
    (hfails : ∀ handed events driver passed next error, invariant handed events driver →
      Transition crypto driver passed next (.error error) →
      invariant handed (events ++ passed) (next.keepAlert crypto error))
    (halert : ∀ handed events driver, invariant handed events driver →
      invariant (handed ++ (takePendingAlert driver).2.toList) events
        (takePendingAlert driver).1) : invariant handed events driver := by
  induction hrun with
  | start hstarted hstate => exact hstart _ _ _ _ hstarted hstate
  | feed _ data ih => exact hfeed _ _ _ data ih
  | @returns handed events passed driver next output _ _ hpasses ih =>
    obtain ⟨seen, last, final, heq, hlast, hleave⟩ := hpasses.last
      (invariant handed) (hagain handed) ih
    rw [heq]
    exact hreturns handed seen last final next output hlast hleave
  | @fails handed events passed driver next error _ _ hpasses ih =>
    obtain ⟨seen, last, final, heq, hlast, hleave⟩ := hpasses.last
      (invariant handed) (hagain handed) ih
    rw [heq]
    exact hfails handed seen last final next error hlast hleave
  | alert _ ih => exact halert _ _ _ ih

end HandshakeDriver

end LkRequest.Handshake
