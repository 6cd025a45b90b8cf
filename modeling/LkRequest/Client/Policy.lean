import LkRequest.Client.ErrorText
import LkRequest.Client.Headers

/-!
# Protocol policies

`protocol.rs` and the pure decisions of `pipeline.rs`: which protocol a request asks for, what is
known about QUIC on its route, and whether it goes over TCP, over QUIC, or over both in a race.
-/

namespace LkRequest.Client

open Library

/-! ## Policies -/

inductive HttpIntent where
  | h2Only
  | h3Only
  | acquireH3WhenViable
  | reuseExistingProtocol
  | preferH3
  | auto
  deriving DecidableEq

/-- `RacePolicy`. The delays are in nanoseconds. -/
structure RacePolicy where
  enableTcp : Bool
  enableQuic : Bool
  tcpDelay : Nat
  onlyWhenH3Advertised : Bool
  deriving DecidableEq

inductive AcquisitionPolicy where
  | reuseExistingFirst
  | establishBestAvailable
  | race (race : RacePolicy)
  deriving DecidableEq

inductive UpgradePolicy where
  | off
  | probeOnly
  | probeAndMigrate
  | forceForNewRequests
  | disabled
  | backgroundProbe
  | backgroundProbeAndMigrate
  | forceUpgradeForNewRequests
  deriving DecidableEq

inductive FallbackPolicy where
  | allowFallback
  | allowFallbackOnNetworkErrors
  | noFallback
  deriving DecidableEq

structure ProtocolPolicy where
  intent : HttpIntent
  acquisition : AcquisitionPolicy
  upgrade : UpgradePolicy
  fallback : FallbackPolicy

namespace ProtocolPolicy

/-- The race of the policy, if it has one. -/
def race? (policy : ProtocolPolicy) : Option RacePolicy :=
  match policy.acquisition with
  | .race race => some race
  | _ => none

/-- `validate`: the first conflict. -/
def validate (policy : ProtocolPolicy) : Except Error Unit :=
  if policy.intent = .h2Only ∧ policy.fallback ≠ .noFallback then
    .error (.invalidConfig
      "ProtocolPolicy conflict: H2Only disables H3, so fallback must be NoFallback".toList)
  else if policy.intent = .h2Only ∧ policy.upgrade ≠ .off ∧ policy.upgrade ≠ .disabled then
    .error (.invalidConfig
      "ProtocolPolicy conflict: H2Only disables H3, so upgrade policy must be Off".toList)
  else if policy.intent = .h3Only ∧ policy.fallback ≠ .noFallback then
    .error (.invalidConfig "ProtocolPolicy conflict: H3Only requires NoFallback".toList)
  else
    match policy.race? with
    | none => .ok ()
    | some race =>
      if !race.enableTcp && !race.enableQuic then
        .error (.invalidConfig
          "ProtocolPolicy conflict: RacePolicy must enable TCP, QUIC, or both".toList)
      else if policy.intent = .h2Only ∧ race.enableQuic then
        .error (.invalidConfig "ProtocolPolicy conflict: H2Only cannot race a QUIC job".toList)
      else if policy.intent = .h3Only ∧ race.enableTcp then
        .error (.invalidConfig
          "ProtocolPolicy conflict: H3Only cannot race a TCP fallback job".toList)
      else .ok ()

end ProtocolPolicy

inductive PreferredHttpVersion where
  | auto
  | http1Only
  | http2Only
  | http3Only
  | http3WithFallback
  deriving DecidableEq

/-- `protocol_policy_http_version`. -/
def protocolPolicyHttpVersion (policy : ProtocolPolicy) : PreferredHttpVersion :=
  match policy.intent with
  | .h2Only => .http2Only
  | .h3Only => .http3Only
  | .acquireH3WhenViable | .preferH3 => .http3WithFallback
  | .reuseExistingProtocol | .auto => .auto

/-! ## What is known about QUIC -/

/-- `alt_svc::Origin`. -/
structure Origin where
  scheme : Scheme
  host : Text
  port : Nat
  deriving DecidableEq

inductive H3Reachability where
  | unknown
  | advertised
  | validated
  | failedTransiently
  | failedPersistently
  deriving DecidableEq

/-- The fields of `AltSvcEntry` that discovery reads. -/
structure AltSvcEntry where
  host : Option Text
  port : Nat

/-- `LearnedProtocolState`. -/
structure LearnedProtocolState where
  altSvc : Option AltSvcEntry
  h3Status : H3Reachability

/-- The fields of `HttpsRecord` that the client reads. -/
structure HttpsRecord where
  echConfigList : Option Bytes
  alpn : List Text
  target : Option Text
  port : Option Nat
  deriving DecidableEq

def HttpsRecord.supportsH3 (record : HttpsRecord) : Bool :=
  record.alpn.any fun proto => proto == "h3".toList || "h3-".toList.isPrefixOf proto

inductive QuicDiscoverySource where
  | altSvc
  | dnsHttps

inductive QuicSkipReason where
  | cleartextHttp
  | httpVersionPreference
  | httpProxyConfigured
  | brokenOrigin
  | proxyUdpUnavailable
  | missingProfile

structure QuicDiscovery where
  route : RouteKey
  origin : Origin
  learnedState : LearnedProtocolState
  source : Option QuicDiscoverySource
  forceAttempt : Bool
  advertisedHost : Option Text
  advertisedPort : Option Nat
  dnsHttps : Option HttpsRecord
  skipReason : Option QuicSkipReason

/-- The discovery of a request that does not look for QUIC. -/
def QuicDiscovery.skipped (route : RouteKey) (origin : Origin) (reason : QuicSkipReason) :
    QuicDiscovery where
  route := route
  origin := origin
  learnedState := ⟨none, .unknown⟩
  source := none
  forceAttempt := false
  advertisedHost := none
  advertisedPort := none
  dnsHttps := none
  skipReason := some reason

/-! ## Decisions -/

inductive ProtocolDecision where
  | tcp
  | quic
  | race
  deriving DecidableEq

def H3Reachability.isKnown (status : H3Reachability) : Bool :=
  status == .advertised || status == .validated

def UpgradePolicy.isForce : UpgradePolicy → Bool
  | forceForNewRequests | forceUpgradeForNewRequests => true
  | _ => false

def UpgradePolicy.migrates : UpgradePolicy → Bool
  | probeAndMigrate | forceForNewRequests | backgroundProbeAndMigrate |
    forceUpgradeForNewRequests => true
  | _ => false

def UpgradePolicy.probes : UpgradePolicy → Bool
  | probeOnly | probeAndMigrate | forceForNewRequests | backgroundProbe |
    backgroundProbeAndMigrate | forceUpgradeForNewRequests => true
  | _ => false

/-- `decide_protocol` for the intents that want H3. -/
def decideForH3 (policy : ProtocolPolicy) (status : H3Reachability) : ProtocolDecision :=
  match policy.acquisition with
  | .race race => if race.enableQuic && race.enableTcp then .race else .quic
  | .reuseExistingFirst =>
    if policy.upgrade.isForce && status == .validated then .quic else .tcp
  | .establishBestAvailable => .quic

/-- `decide_protocol` for the intents that keep the protocol in use. -/
def decideForReuse (policy : ProtocolPolicy) (status : H3Reachability) : ProtocolDecision :=
  let canForceUpgrade := policy.upgrade.migrates && status == .validated
  match policy.acquisition with
  | .race race =>
    if race.enableQuic && race.enableTcp && (!race.onlyWhenH3Advertised || status.isKnown) then
      .race
    else .tcp
  | .establishBestAvailable | .reuseExistingFirst => if canForceUpgrade then .quic else .tcp

/-- `decide_protocol`. -/
def decideProtocol (httpVersion : PreferredHttpVersion) (policy : ProtocolPolicy)
    (discovery : QuicDiscovery) : ProtocolDecision :=
  if httpVersion = .http1Only then .tcp
  else if policy.intent = .h2Only ∨ httpVersion = .http2Only then .tcp
  else if policy.intent = .h3Only ∨ httpVersion = .http3Only then .quic
  else if discovery.skipReason.isSome then .tcp
  else if !(discovery.learnedState.h3Status.isKnown || discovery.forceAttempt) then .tcp
  else
    match policy.intent with
    | .acquireH3WhenViable | .preferH3 => decideForH3 policy discovery.learnedState.h3Status
    | .reuseExistingProtocol | .auto => decideForReuse policy discovery.learnedState.h3Status
    | .h2Only => .tcp
    | .h3Only => .quic

/-- `should_background_probe`. -/
def shouldBackgroundProbe (policy : ProtocolPolicy) (discovery : QuicDiscovery) : Bool :=
  policy.upgrade.probes && discovery.learnedState.h3Status == .advertised &&
    discovery.skipReason.isNone

/-- `fallback_permitted`. -/
def fallbackPermitted (policy : ProtocolPolicy) (error : Error) : Bool :=
  match policy.fallback with
  | .allowFallback => true
  | .allowFallbackOnNetworkErrors =>
    error.isQuicHandshakeFailure || error.isTimeout || error.isProxyTunnel
  | .noFallback => false

/-- `is_connection_limit_error`. -/
def isConnectionLimitError : Error → Bool
  | .pool message => "session connection limit reached".toList.isPrefixOf message
  | _ => false

/-- `protocol_race_error`. -/
def protocolRaceError (tcpError quicError : Error) : Error :=
  .connection .quicFallback
    ("protocol race failed (tcp: ".toList ++ tcpError.display ++ "; quic: ".toList ++
      quicError.display ++ ")".toList)

/-- `should_use_h2`. -/
def shouldUseH2 (negotiatedAlpn : Option Text) (version : PreferredHttpVersion) :
    Except Error Bool :=
  if version = .http1Only then .ok false
  else if negotiatedAlpn = some "h2".toList then .ok true
  else if version = .http2Only then
    .error (.http "HTTP/2 required but server did not negotiate h2 via ALPN".toList)
  else .ok false

/-- `alpn_for_h1_only`. -/
def alpnForH1Only (base : List Text) : List Text :=
  let filtered := base.filter (· != "h2".toList)
  if filtered.isEmpty then ["http/1.1".toList] else filtered

/-- `ChromeLikeProtocolConfig`. The delay is in nanoseconds. -/
structure ChromeLikeProtocolConfig where
  tcpMainJobDelay : Nat
  keepQuicProbeAfterTcpWin : Bool
  keepTcpProbeAfterQuicWin : Bool

/-- `protocol_policy_chrome_like_config`. -/
def protocolPolicyChromeLikeConfig (policy : ProtocolPolicy)
    (legacy : ChromeLikeProtocolConfig) : ChromeLikeProtocolConfig :=
  match policy.race? with
  | some race => ⟨race.tcpDelay, policy.upgrade.probes, false⟩
  | none => legacy

/-! ## Replays and redirects -/

inductive Idempotency where
  | default
  | idempotent
  | notIdempotent

/-- `can_send_early_data`. -/
def canSendEarlyData (method : Text) : Idempotency → Bool
  | .idempotent => true
  | .notIdempotent => false
  | .default =>
    method == "GET".toList || method == "HEAD".toList || method == "OPTIONS".toList ||
      method == "TRACE".toList

/-- `is_retryable_status`. -/
def isRetryableStatus (status : Nat) : Bool :=
  status == 429 || status == 502 || status == 503 || (520 ≤ status && status ≤ 530)

/-- `retry_is_replay_safe`. -/
def retryIsReplaySafe (method : Text) (idempotency : Idempotency) (error : Error) : Bool :=
  error.isSafeToReplay || canSendEarlyData method idempotency

inductive RedirectPolicy where
  | none
  | follow (limit : Nat)
  deriving DecidableEq

def RedirectPolicy.maxRedirects : RedirectPolicy → Option Nat
  | none => .none
  | follow limit => some limit

/-- `FallbackConfig`. -/
structure FallbackConfig where
  h2ToH1 : Bool
  proxyToDirect : Bool
  retryOnConnectionClose : Bool

end LkRequest.Client
