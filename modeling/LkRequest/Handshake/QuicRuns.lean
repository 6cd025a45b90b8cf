import LkRequest.Handshake.Messages
import LkRequest.Handshake.QuicDriver
import LkRequest.Handshake.Transitions

/-!
# Runs of the QUIC handshake driver

`Transition` lists what one pass of the QUIC driver's loop can do, and `progress_cases` what a call
of `progress` can. The messages that are taken out of the input stand for the records of the TCP
driver.
-/

namespace LkRequest.Handshake

open Library Crypto Profile Hello Session Verify Record Action List

namespace QuicHandshakeDriver

/-- The messages that the driver sends at the end. -/
def finalFlight (complete : HandshakeComplete) : Bytes :=
  complete.clientEncryptedExtensions.getD [] ++ complete.clientFinished

/-- What one pass can do: what it exchanges, the driver it leaves and its result. -/
inductive Transition (crypto : Primitives) (driver : QuicHandshakeDriver) :
    List Event → QuicHandshakeDriver → Result (Option QuicHandshakeOutput) → Prop
  | needHello {handshake : Tls13Handshake} (hstate : driver.state = .waitServerHello handshake)
      (htake : (takeNextHandshakeMessage driver.input).1 = none) :
      Transition crypto driver [] driver (.ok (some .needData))
  | needMessages {handshake : Tls13Handshake} (hstate : driver.state = .tls13Encrypted handshake)
      (htake : (takeCompleteHandshakeMessages driver.input).1 = none) :
      Transition crypto driver [] driver (.ok (some .needData))
  | failed {input : Bytes} {error : TlsError}
      (hstate : ∀ handshake, driver.state ≠ .tls13Encrypted handshake) :
      Transition crypto driver [] { driver with state := .complete, input := input } (.error error)
  | rejected {handshake : Tls13Handshake} {messages rest : Bytes} {error : TlsError}
      (hstate : driver.state = .tls13Encrypted handshake)
      (htake : takeCompleteHandshakeMessages driver.input = (some messages, rest)) :
      Transition crypto driver [.received (handshakeRec messages)]
        { driver with state := .complete, input := rest } (.error error)
  | hello {handshake next : Tls13Handshake} {serverHello rest : Bytes} {keys : HandshakeKeys}
      (hstate : driver.state = .waitServerHello handshake)
      (htake : takeNextHandshakeMessage driver.input = (some serverHello, rest))
      (hversion : detectVersionFromServerHello serverHello = .ok 0x0304)
      (hprocess : handshake.processHandshakeRecord crypto serverHello =
        .ok (next, .installHandshakeKeys keys)) :
      Transition crypto driver [.received (handshakeRec serverHello)]
        { driver with
          state := .tls13Encrypted next
          input := rest
          handshakeSecrets := some (quicSecretsFromHandshakeKeys keys) }
        (.ok (some (.handshakeSecretsReady [] (quicSecretsFromHandshakeKeys keys))))
  | retry {handshake next : Tls13Handshake} {retryRequest rest ch2 : Bytes}
      (hstate : driver.state = .waitServerHello handshake)
      (htake : takeNextHandshakeMessage driver.input = (some retryRequest, rest))
      (hversion : detectVersionFromServerHello retryRequest = .ok 0x0304)
      (hprocess : handshake.processHandshakeRecord crypto retryRequest =
        .ok (next, .retryClientHello ch2)) :
      Transition crypto driver [.received (handshakeRec retryRequest), .sent ch2]
        { driver with state := .waitServerHello next, input := rest }
        (.ok (some (.sendData ch2)))
  | encrypted {handshake next : Tls13Handshake} {messages rest : Bytes}
      (hstate : driver.state = .tls13Encrypted handshake)
      (htake : takeCompleteHandshakeMessages driver.input = (some messages, rest))
      (hprocess : handshake.processHandshakeRecord crypto messages = .ok (next, .continueReading)) :
      Transition crypto driver [.received (handshakeRec messages)]
        { driver with state := .tls13Encrypted next, input := rest } (.ok none)
  | done {handshake next : Tls13Handshake} {messages rest : Bytes} {complete : HandshakeComplete}
      {result : QuicHandshakeResult}
      (hstate : driver.state = .tls13Encrypted handshake)
      (htake : takeCompleteHandshakeMessages driver.input = (some messages, rest))
      (hprocess : handshake.processHandshakeRecord crypto messages = .ok (next, .complete complete))
      (halpn : result.negotiatedAlpn = complete.negotiatedAlpn)
      (hsuite : result.negotiatedCipherSuite = some complete.negotiatedCipherSuite)
      (hkeys : result.appSecrets = quicSecretsFromTrafficSecrets complete.trafficSecrets)
      (hsecrets : driver.handshakeSecrets = some result.handshakeSecrets) :
      Transition crypto driver
        (.received (handshakeRec messages) ::
          (complete.clientEncryptedExtensions.toList ++ [complete.clientFinished]).map .sent)
        { driver with state := .complete, input := rest }
        (.ok (some (.done (finalFlight complete) result)))

variable {crypto : Primitives} {driver stop : QuicHandshakeDriver}

theorem body_transition {result : Result (Option QuicHandshakeOutput)}
    (hbody : body crypto driver = (stop, result)) :
    ∃ events, Transition crypto driver events stop result := by
  obtain ⟨config, state, input, secrets⟩ := driver
  cases state with
  | start | complete =>
    cases hbody
    exact ⟨[], .failed (by simp)⟩
  | waitServerHello handshake =>
    simp only [body, setState, bind_apply, get_apply, modify_apply] at hbody
    generalize htake : takeNextHandshakeMessage input = taken at hbody
    obtain ⟨_ | serverHello, rest⟩ := taken
    · cases hbody
      exact ⟨[], .needHello rfl (by rw [htake])⟩
    simp only [bind_apply, lift_apply, modify_apply, beginQuicTls13] at hbody
    generalize hversion : detectVersionFromServerHello serverHello = detected at hbody
    obtain error | version := detected
    · cases hbody
      exact ⟨[], .failed (by simp)⟩
    dsimp only at hbody
    split at hbody
    next hnewest =>
      subst hnewest
      simp only [bind_apply, lift_apply] at hbody
      generalize hprocess : handshake.processHandshakeRecord crypto serverHello = processed at hbody
      obtain error | ⟨next, action⟩ := processed
      · cases hbody
        exact ⟨[], .failed (by simp)⟩
      cases action with
      | installHandshakeKeys keys =>
        cases hbody
        exact ⟨_, .hello rfl htake hversion hprocess⟩
      | retryClientHello ch2 =>
        cases hbody
        exact ⟨_, .retry rfl htake hversion hprocess⟩
      | continueReading | complete =>
        cases hbody
        exact ⟨[], .failed (by simp)⟩
    · cases hbody
      exact ⟨[], .failed (by simp)⟩
  | tls13Encrypted handshake =>
    simp only [body, setState, bind_apply, get_apply, modify_apply] at hbody
    generalize htake : takeCompleteHandshakeMessages input = taken at hbody
    obtain ⟨_ | messages, rest⟩ := taken
    · cases hbody
      exact ⟨[], .needMessages rfl (by rw [htake])⟩
    simp only [bind_apply, lift_apply, modify_apply] at hbody
    generalize hprocess : handshake.processHandshakeRecord crypto messages = processed at hbody
    obtain error | ⟨next, action⟩ := processed
    · cases hbody
      exact ⟨_, .rejected rfl htake⟩
    cases action with
    | continueReading =>
      cases hbody
      exact ⟨_, .encrypted rfl htake hprocess⟩
    | complete complete =>
      simp only [finishQuicTls13, bind_apply, get_apply, lift_apply] at hbody
      generalize encodePeerParams complete.peerQuicTransportParams = encoded at hbody
      cases encoded with
      | error error =>
        cases hbody
        exact ⟨_, .rejected rfl htake⟩
      | ok params =>
        cases secrets with
        | none =>
          cases hbody
          exact ⟨_, .rejected rfl htake⟩
        | some secrets =>
          cases hbody
          exact ⟨_, .done rfl htake hprocess rfl rfl rfl rfl⟩
    | installHandshakeKeys | retryClientHello =>
      cases hbody
      exact ⟨_, .rejected rfl htake⟩

/-! ## Calls -/

variable {events : List Event} {result : Result QuicHandshakeOutput} {config : QuicHandshakeConfig}

/-- Taking whole messages shortens the input. -/
theorem Transition.length_lt (hagain : Transition crypto driver events stop (.ok none)) :
    stop.input.length < driver.input.length := by
  cases hagain with
  | encrypted _ htake _ =>
    rw [takeCompleteHandshakeMessages] at htake
    split at htake
    · cases htake
    next hposition =>
      obtain ⟨hmessages, rfl⟩ := Prod.mk.inj htake
      have hlength := congrArg length (messageFraming.flatten_split driver.input)
      rw [length_append, ← completeLength_eq (Nat.le_refl driver.input.length)] at hlength
      rw [length_drop]
      omega

/-- The passes of one call: some that go round again and one that leaves. -/
inductive Passes (crypto : Primitives) : QuicHandshakeDriver → List Event → QuicHandshakeDriver →
    Result QuicHandshakeOutput → Prop
  | leave {driver stop : QuicHandshakeDriver} {events : List Event}
      {result : Result QuicHandshakeOutput}
      (hleave : Transition crypto driver events stop (result.map some)) :
      Passes crypto driver events stop result
  | again {driver next stop : QuicHandshakeDriver} {events later : List Event}
      {result : Result QuicHandshakeOutput}
      (hagain : Transition crypto driver events next (.ok none))
      (hrest : Passes crypto next later stop result) :
      Passes crypto driver (events ++ later) stop result

theorem Passes.of_exits (hexits : Exits (Action.pass (body crypto)) driver stop result) :
    ∃ events, Passes crypto driver events stop result := by
  obtain ⟨last, hpasses, hleaves⟩ := hexits
  induction hpasses using Relation.ReflTransGen.head_induction_on with
  | refl =>
    cases result with
    | ok output =>
      obtain ⟨events, htransition⟩ := body_transition (pass_eq_leave.mp hleaves)
      exact ⟨events, .leave htransition⟩
    | error error =>
      obtain ⟨events, htransition⟩ := body_transition (pass_eq_leave_error.mp hleaves)
      exact ⟨events, .leave htransition⟩
  | head hpass _ ih =>
    obtain ⟨events, htransition⟩ := body_transition (pass_eq_again.mp hpass)
    obtain ⟨later, hrest⟩ := ih
    exact ⟨events ++ later, .again htransition hrest⟩

/-- Every call makes the passes that lead to its result. -/
theorem progress_passes (hprogress : progress crypto driver = (stop, result)) :
    ∃ events, Passes crypto driver events stop result := by
  have hshrinks : ∀ state next : QuicHandshakeDriver, body crypto state = (next, .ok none) →
      next.input.length < state.input.length := by
    intro state next hbody
    obtain ⟨events, htransition⟩ := body_transition hbody
    exact htransition.length_lt
  exact Passes.of_exits (loop_exits (fun driver : QuicHandshakeDriver => driver.input.length)
    hshrinks (Nat.lt_succ_self _) hprogress)

/-- The rule of invariants for a call: what every pass keeps that goes round again. -/
theorem Passes.last (hpasses : Passes crypto driver events stop result)
    (invariant : List Event → QuicHandshakeDriver → Prop)
    (hagain : ∀ seen state events next, invariant seen state →
      Transition crypto state events next (.ok none) → invariant (seen ++ events) next)
    {before : List Event} (hstart : invariant before driver) :
    ∃ seen last final, before ++ events = seen ++ final ∧ invariant seen last ∧
      Transition crypto last final stop (result.map some) := by
  induction hpasses generalizing before with
  | leave hleave => exact ⟨before, _, _, rfl, hstart, hleave⟩
  | again hpass _ ih =>
    obtain ⟨seen, last, final, heq, hlast, hleave⟩ := ih (hagain _ _ _ _ hstart hpass)
    exact ⟨seen, last, final, by rw [← heq, append_assoc], hlast, hleave⟩

/-! ## Runs -/

/-- The drivers that calls can reach, with the events so far. -/
inductive Run (crypto : Primitives) (config : QuicHandshakeConfig) :
    List Event → QuicHandshakeDriver → Prop
  | start {driver : QuicHandshakeDriver} {chMsg : Bytes}
      (hstart : start crypto (.new config) = (driver, .ok chMsg)) :
      Run crypto config [.sent chMsg] driver
  | feed {events : List Event} {driver : QuicHandshakeDriver}
      (hrun : Run crypto config events driver) (data : Bytes) :
      Run crypto config events (driver.feed data)
  | progress {events passed : List Event} {driver next : QuicHandshakeDriver}
      {result : Result QuicHandshakeOutput} (hrun : Run crypto config events driver)
      (hprogress : progress crypto driver = (next, result))
      (hpasses : Passes crypto driver passed next result) :
      Run crypto config (events ++ passed) next

/-- Every call continues a run. -/
theorem Run.exists_of_progress (hrun : Run crypto config events driver) :
    ∃ events, Run crypto config events (driver.progress crypto).1 := by
  have hprogress := (Prod.mk.eta : (_, _) = driver.progress crypto).symm
  obtain ⟨passed, hpasses⟩ := progress_passes hprogress
  exact ⟨_, hrun.progress hprogress hpasses⟩

/-- What the driver looks like after `start`. -/
theorem start_returns {chMsg : Bytes} (hstart : start crypto (.new config) = (driver, .ok chMsg)) :
    ∃ handshake, (initialHandshake config).buildClientHello crypto = .ok (handshake, chMsg) ∧
      driver = { QuicHandshakeDriver.new config with state := .waitServerHello handshake } := by
  simp only [start, setState, get_bind, modify_bind, lift_bind, pure_returns] at hstart
  obtain ⟨⟨handshake, message⟩, hbuild, rfl, rfl⟩ := hstart
  exact ⟨handshake, hbuild, rfl⟩

/-- The rule of invariants for runs, by cases on what a pass can do. -/
theorem Run.induct (hrun : Run crypto config events driver)
    (invariant : List Event → QuicHandshakeDriver → Prop) (hstart : ∀ driver chMsg,
      QuicHandshakeDriver.start crypto (.new config) = (driver, .ok chMsg) →
      invariant [.sent chMsg] driver) (hfeed : ∀ events driver data, invariant events driver →
      invariant events (QuicHandshakeDriver.feed driver data))
    (hpass : ∀ events driver passed next result, invariant events driver →
      Transition crypto driver passed next result → invariant (events ++ passed) next) :
    invariant events driver := by
  induction hrun with
  | start hstarted => exact hstart _ _ hstarted
  | feed _ data ih => exact hfeed _ _ data ih
  | progress _ _ hpasses ih =>
    obtain ⟨seen, last, final, heq, hlast, hleave⟩ := hpasses.last invariant
      (fun seen state events next hseen hagain => hpass _ _ _ _ _ hseen hagain) ih
    rw [heq]
    exact hpass _ _ _ _ _ hlast hleave

end QuicHandshakeDriver

end LkRequest.Handshake
