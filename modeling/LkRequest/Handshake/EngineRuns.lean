import LkRequest.Handshake.Engine
import LkRequest.Handshake.QuicRuns
import LkRequest.Handshake.Runs

/-!
# The TLS 1.3 engine inside the drivers

Whatever a driver is fed with, the TLS 1.3 handshake that it holds has been reached by a run of the
engine: the drivers only build the first hello and hand records on. The records of that run are what
the driver has read.
-/

namespace LkRequest.Handshake

open Library Crypto Profile Hello Session Verify Record Tls13Handshake List

/-- The handshake bytes that an event brings. -/
def Event.handshakeBytes : Event → Bytes
  | .received record => if record.contentType = ContentType.handshake then record.payload else []
  | .sent _ => []

theorem Event.handshakeBytes_handshakeRec (payload : Bytes) :
    (Event.received (handshakeRec payload)).handshakeBytes = payload := rfl

/-! ## The TCP driver -/

/-- The TLS 1.3 handshake that a driver holds. -/
def DriverState.engine? : DriverState → Option Tls13Handshake
  | .waitServerHello handshake _ => some handshake
  | .tls13Encrypted handshake => some handshake
  | _ => none

namespace HandshakeDriver

/-- What `start` sets on the handshake: a ticket of each version goes its own way. -/
def settings (config : HandshakeConfig) : Settings where
  profile := config.profile
  hostname := config.hostname
  verificationPolicy := config.verificationPolicy
  customCaAnchors := config.customCaAnchors
  alpsPayload := config.alpsPayload
  echConfigList := config.echConfigList
  quicMode := false
  quicTransportParameters := none
  pskTicket := (usableTicket config).filter fun ticket => ticket.tlsVersion = .tls13
  tls12SessionTicketData :=
    ((usableTicket config).filter fun ticket => ticket.tlsVersion = .tls12).map (·.ticket)

theorem settings_handshake (config : HandshakeConfig) :
    (settings config).handshake = initialHandshake config := by
  rw [initialHandshake, Settings.handshake, settings]
  cases usableTicket config with
  | none => rfl
  | some ticket =>
    cases hversion : ticket.tlsVersion with
    | tls12 | tls13 => simp [withTicket, freshHandshake, hversion]

variable {crypto : Primitives} {config : HandshakeConfig} {driver next : HandshakeDriver}
  {events : List Event}

/-- The handshake of a driver comes from a run of the engine over what the driver has read. What is
left of it is in the reassembly buffer, which is empty before the ServerHello. -/
structure HoldsEngine (crypto : Primitives) (config : HandshakeConfig) (events : List Event)
    (driver : HandshakeDriver) : Prop where
  engine : ∀ handshake, driver.state.engine? = some handshake →
    ∃ records log, EngineRun crypto (settings config) records log handshake ∧
      records.flatten ++ driver.hsBuffer = events.flatMap Event.handshakeBytes
  buffer : ∀ handshake chMsg, driver.state = .waitServerHello handshake chMsg →
    driver.hsBuffer = []

theorem HoldsEngine.congr {later : List Event} (hholds : HoldsEngine crypto config events driver)
    (hstate : next.state = driver.state) (hbuffer : next.hsBuffer = driver.hsBuffer)
    (hevents : later.flatMap Event.handshakeBytes = events.flatMap Event.handshakeBytes) :
    HoldsEngine crypto config later next := by
  constructor
  · rw [hstate, hbuffer, hevents]
    exact hholds.engine
  · rw [hstate, hbuffer]
    exact hholds.buffer

theorem holdsEngine_of_none (hnone : next.state.engine? = none) :
    HoldsEngine crypto config events next := by
  constructor
  · intro handshake hengine
    cases hnone.symm.trans hengine
  · intro handshake chMsg hstate
    rw [hstate] at hnone
    cases hnone

theorem holdsEngine_of_encrypted {handshake : Tls13Handshake}
    (hstate : next.state = .tls13Encrypted handshake)
    (hengine : ∃ records log, EngineRun crypto (settings config) records log handshake ∧
      records.flatten ++ next.hsBuffer = events.flatMap Event.handshakeBytes) :
    HoldsEngine crypto config events next := by
  constructor
  · intro held hheld
    rw [hstate] at hheld
    cases hheld
    exact hengine
  · intro _ _ hwaits
    cases hstate.symm.trans hwaits

/-- The first flight of the server is handed on record by record. -/
theorem HoldsEngine.hello {handshake after : Tls13Handshake} {chMsg payload : Bytes}
    {action : HandshakeAction} (hholds : HoldsEngine crypto config events driver)
    (hstate : driver.state = .waitServerHello handshake chMsg)
    (hprocess : handshake.processHandshakeRecord crypto payload = .ok (after, action)) :
    driver.hsBuffer = [] ∧
      ∃ records log, EngineRun crypto (settings config) records log after ∧
        records.flatten ++ driver.hsBuffer = events.flatMap Event.handshakeBytes ++ payload := by
  have hbuffer := hholds.buffer _ _ hstate
  obtain ⟨records, log, hrun, hread⟩ := hholds.engine handshake (by rw [hstate]; rfl)
  refine ⟨hbuffer, _, _, hrun.record hprocess, ?_⟩
  rw [hbuffer, append_nil] at hread
  rw [hbuffer, append_nil, flatten_concat, hread]

theorem messagesWith_append_trailerWith (driver : HandshakeDriver) (payload : Bytes) :
    driver.messagesWith payload ++ driver.trailerWith payload = driver.hsBuffer ++ payload := by
  rw [messagesWith_eq, trailerWith, takeCompleteHandshakeMessages_eq]
  exact messageFraming.flatten_split _

theorem HoldsEngine.transition {passed : List Event} {result : Result (Option HandshakeOutput)}
    (hholds : HoldsEngine crypto config events driver)
    (htransition : Transition crypto driver passed next result) :
    HoldsEngine crypto config (events ++ passed) next := by
  cases htransition with
  | readFailed | needData => exact hholds.congr rfl rfl (by rw [append_nil])
  | ignored _ hkind | rejected _ hkind =>
    refine hholds.congr rfl rfl ?_
    rw [flatMap_append, flatMap_singleton, Event.handshakeBytes, if_neg hkind, append_nil]
  | failed hstate => exact holdsEngine_of_none (by rw [hstate]; rfl)
  | hello13 hstate _ _ hprocess =>
    obtain ⟨-, records, log, hrun, hread⟩ := hholds.hello hstate hprocess
    refine holdsEngine_of_encrypted rfl ⟨records, log, hrun, ?_⟩
    rw [flatMap_append, flatMap_singleton, Event.handshakeBytes_handshakeRec]
    exact hread
  | retry hstate _ _ hprocess =>
    obtain ⟨hbuffer, records, log, hrun, hread⟩ := hholds.hello hstate hprocess
    constructor
    · intro handshake hengine
      cases hengine
      refine ⟨records, log, hrun, ?_⟩
      rw [flatMap_append, flatMap_cons, Event.handshakeBytes_handshakeRec, flatMap_singleton,
        Event.handshakeBytes, append_nil]
      exact hread
    · exact fun _ _ _ => hbuffer
  | @encrypted13 held after payload _ hstate _ hprocess =>
    obtain ⟨records, log, hrun, hread⟩ := hholds.engine held (by rw [hstate]; rfl)
    refine holdsEngine_of_encrypted rfl ⟨_, _, hrun.record hprocess, ?_⟩
    rw [flatMap_append, flatMap_singleton, Event.handshakeBytes_handshakeRec, ← hread,
      flatten_concat, append_assoc, append_assoc]
    exact congrArg (records.flatten ++ ·) (driver.messagesWith_append_trailerWith payload)
  | hello12 | hello12Flight | done13 | flight12 | clientFlight12 | abbreviatedDone
  | abbreviatedWaits | ccs12 | fed12 | done12 => exact holdsEngine_of_none rfl

theorem keepAlert_state {error : TlsError} {driver : HandshakeDriver} :
    (driver.keepAlert crypto error).state = driver.state ∧
      (driver.keepAlert crypto error).hsBuffer = driver.hsBuffer := by
  simp only [keepAlert]
  split
  · split <;> exact ⟨rfl, rfl⟩
  · exact ⟨rfl, rfl⟩

theorem Run.holdsEngine {handed : List Bytes}
    (hrun : Run crypto config handed events driver) :
    HoldsEngine crypto config events driver := by
  apply hrun.induct (fun _ events driver => HoldsEngine crypto config events driver)
  · intro driver chRecord handshake chMsg hstart hstate
    obtain ⟨built, message, writer, hbuild, _, hdriver⟩ := start_returns hstart
    rw [← settings_handshake] at hbuild
    constructor
    · intro held hengine
      rw [hdriver] at hengine ⊢
      cases hengine
      exact ⟨_, _, .start hbuild, rfl⟩
    · intro _ _ _
      rw [hdriver]
      rfl
  · intro _ _ driver data hholds
    exact hholds.congr rfl rfl rfl
  · intro _ _ driver passed next hholds htransition
    exact hholds.transition htransition
  · intro _ _ driver passed next output hholds htransition
    exact hholds.transition htransition
  · intro _ _ driver passed next error hholds htransition
    exact (hholds.transition htransition).congr keepAlert_state.1 keepAlert_state.2 rfl
  · intro _ _ driver hholds
    exact hholds.congr rfl rfl rfl

end HandshakeDriver

/-! ## The QUIC driver -/

/-- The handshake that a driver holds. -/
def QuicDriverState.engine? : QuicDriverState → Option Tls13Handshake
  | .waitServerHello handshake => some handshake
  | .tls13Encrypted handshake => some handshake
  | _ => none

namespace QuicHandshakeDriver

def settings (config : QuicHandshakeConfig) : Settings where
  profile := config.tls.profile
  hostname := config.tls.hostname
  verificationPolicy := config.tls.verificationPolicy
  customCaAnchors := config.tls.customCaAnchors
  alpsPayload := config.tls.alpsPayload
  echConfigList := config.tls.echConfigList
  quicMode := true
  quicTransportParameters := some config.transportParameters
  pskTicket := usableTicket config.tls
  tls12SessionTicketData := none

variable {crypto : Primitives} {config : QuicHandshakeConfig} {driver next : QuicHandshakeDriver}
  {events : List Event}

/-- The handshake of a driver comes from a run of the engine over what the driver has read. -/
def HoldsEngine (crypto : Primitives) (config : QuicHandshakeConfig) (events : List Event)
    (driver : QuicHandshakeDriver) : Prop :=
  ∀ handshake, driver.state.engine? = some handshake →
    ∃ records log, EngineRun crypto (settings config) records log handshake ∧
      records.flatten = events.flatMap Event.handshakeBytes

theorem HoldsEngine.transition {passed : List Event} {result : Result (Option QuicHandshakeOutput)}
    (hholds : HoldsEngine crypto config events driver)
    (htransition : Transition crypto driver passed next result) :
    HoldsEngine crypto config (events ++ passed) next := by
  intro handshake hengine
  cases htransition with
  | needHello _ _ | needMessages _ _ =>
    rw [append_nil]
    exact hholds handshake hengine
  | failed _ | rejected _ _ | done _ _ _ _ _ _ _ => cases hengine
  | hello hstate _ _ hprocess | retry hstate _ _ hprocess | encrypted hstate _ hprocess =>
    cases hengine
    obtain ⟨records, log, hrun, hread⟩ := hholds _ (by rw [hstate]; rfl)
    refine ⟨_, _, hrun.record hprocess, ?_⟩
    simp [hread, Event.handshakeBytes, handshakeRec]

theorem Run.holdsEngine (hrun : Run crypto config events driver) :
    HoldsEngine crypto config events driver := by
  apply hrun.induct (fun events driver => HoldsEngine crypto config events driver)
  · intro driver chMsg hstart handshake hengine
    obtain ⟨built, hbuild, hdriver⟩ := start_returns hstart
    rw [hdriver] at hengine
    cases hengine
    exact ⟨_, _, .start hbuild, rfl⟩
  · intro _ driver data hholds
    exact hholds
  · intro _ driver passed next result hholds htransition
    exact hholds.transition htransition

end QuicHandshakeDriver

end LkRequest.Handshake
