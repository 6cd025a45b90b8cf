import LkRequest.Client.Exchange

/-!
# Buffered requests

`transport.rs`: discovery of QUIC, the paths over TCP, over QUIC and over both in a race, and reuse
of pooled connections, for one hop of a request.
-/

namespace LkRequest.Client

open Library

/-! ## Discovery -/

/-- The end of `discover_quic_support`: what the caches and the record of the host add up to. -/
def QuicDiscovery.assemble (route : RouteKey) (origin : Origin) (isHttpProxy force : Bool)
    (learned : LearnedProtocolState) (record : Option HttpsRecord) (routeBroken : Bool) :
    QuicDiscovery :=
  let (source, advertisedHost, advertisedPort) :=
    match learned.altSvc with
    | some entry => (some QuicDiscoverySource.altSvc, entry.host, some entry.port)
    | none =>
      match record.filter HttpsRecord.supportsH3 with
      | some record => (some .dnsHttps, record.target, some (record.port.getD origin.port))
      | none => (none, none, none)
  let skipReason :=
    if routeBroken && !force then some QuicSkipReason.proxyUdpUnavailable
    else if source.isNone then none
    else if isHttpProxy && !force then some .httpProxyConfigured
    else if (learned.h3Status == .failedTransiently || learned.h3Status == .failedPersistently) &&
        !force then some .brokenOrigin
    else none
  { route, origin, learnedState := learned, source, forceAttempt := force, advertisedHost,
    advertisedPort, dnsHttps := record, skipReason }

/-- The HTTPS record of a host, on routes that resolve names locally. -/
def dnsHttpsRecord (route : RouteKey) (host : Text) : Task (Option HttpsRecord) :=
  if route.dnsMode = .localDns then ask (.lookupHttps host) else return none

/-- `discover_quic_support`. -/
def discoverQuicSupport (session : Session) (scheme : Scheme) (host : Text) (port : Nat)
    (proxy : Option ProxyConfig) (policy : ProtocolPolicy) (version : PreferredHttpVersion) :
    Task QuicDiscovery := do
  let origin : Origin := ⟨scheme, host, port⟩
  let route := RouteKey.fromProxy proxy
  if scheme ≠ .https then return .skipped route origin .cleartextHttp
  else if version = .http1Only ∨ version = .http2Only then
    return .skipped route origin .httpVersionPreference
  else if !session.hasQuicProfile then return .skipped route origin .missingProfile
  else
    let learned ← ask (.learnedState route origin)
    let record ← dnsHttpsRecord route host
    let force := version == .http3Only || policy.intent == .h3Only
    let isHttpProxy := match proxy with
      | some proxy => !proxy.scheme.isSocks5
      | none => false
    let routeBroken ← ask (.isRouteBroken route)
    return .assemble route origin isHttpProxy force learned record routeBroken

/-! ## Fresh connections -/

/-- `reserve_connection`. -/
def reserveConnection : Async Unit := do
  orError (fun limit => .pool ("session connection limit reached (".toList ++ Text.ofNat limit ++
    " connections)".toList)) (← perform .reserveConnection)

/-- The error of a request over a new HTTP/2 connection allows the fallback to HTTP/1.1. -/
def fallsBackToH1 (session : Session) (error : Error) : Bool :=
  session.fallback.h2ToH1 &&
    ((match error with
      | .h2 _ => true
      | _ => false) || error.isConnectionClosed)

/-- The error of a request over a used connection allows a retry on a new one. -/
def retriesOnClose (session : Session) (error : Error) : Bool :=
  error.isConnectionClosed && session.fallback.retryOnConnectionClose

section Paths

variable (session : Session) (request : RequestBuilder) (hop : RequestHop)

/-- `send_cleartext`. -/
def sendCleartext (transport : Transport) : Async Response := do
  let policy := request.effectiveProtocolPolicy session
  orError id policy.validate
  match request.httpVersion session with
  | .http1Only | .auto | .http3WithFallback =>
    sendH1Request session request hop (← handshakeH1 transport)
  | .http2Only =>
    let established ← attempt (establishH2AndPool hop.target.key transport)
    let connection ← orError (fun error => .connection .h2Negotiation
      ("h2c prior knowledge handshake failed: ".toList ++ error.display)) established
    sendH2Request session request hop connection
  | .http3Only =>
    throw (.invalidConfig
      "HTTP/3 requires HTTPS and QUIC, but the request URL is cleartext `http://`".toList)

/-- The errors of a first request that goes out with the connection preface. -/
def firstRequestErrors : SenderErrors where
  sendHead := fun reason => .h2 ("first request response failed: ".toList ++ reason)
  sendBody := fun reason => .h2 ("first request response failed: ".toList ++ reason)
  response := fun reason => .h2 ("first request response failed: ".toList ++ reason)
  body := fun reason => .h2 ("error reading response body: ".toList ++ reason)

/-- A request that goes out with the preface of a new HTTP/2 connection. -/
def sendWithPreface (transport : Transport) : Async Response := do
  let first ← buildH2RequestForPreface session request hop
  let connection ← establishH2WithFirstRequest hop.target.key transport first
  let head ← orError firstRequestErrors.response (← perform (.awaitResponse connection))
  receive session request hop firstRequestErrors connection head

/-- `establish_and_send_tcp`. -/
def establishAndSendTcp : Async Response := do
  reserveConnection
  let target := hop.target
  let proxy := request.effectiveProxy session
  let version := request.httpVersion session
  let config := { buildConnectConfig session version target.scheme with
    proxyToDirectFallback := session.fallback.proxyToDirect && proxy.isSome }
  let established ← establishConnection session target.host target.port proxy config
  if target.scheme = .http then sendCleartext session request hop established.transport
  else if ← orError id (shouldUseH2 established.negotiatedAlpn version) then
    match ← attempt (sendWithPreface session request hop established.transport) with
    | .ok response => return response
    | .error error =>
      if fallsBackToH1 session error then
        reserveConnection
        let again ← establishConnection session target.host target.port proxy
          (buildH1OnlyConnectConfig session target.scheme)
        sendH1Request session request hop (← handshakeH1 again.transport)
      else throw error
  else sendH1Request session request hop (← handshakeH1 established.transport)

/-- `send_h3_0rtt_request`: the early request, and its response if the early data was accepted. -/
def sendH30rttRequest (connection : Connection) : Async (Option Response) := do
  let early ← buildH3Request session request hop
  let sent ← perform (.sendRequest connection early)
  if ← perform (.earlyDataAccepted connection) then
    match sent with
    | .error (.head reason) => throw (h3Errors.sendHead reason)
    | .error (.body reason) => throw (h3Errors.sendBody reason)
    | .ok () =>
      let head ← orError h3Errors.response (← perform (.awaitResponse connection))
      return some (← receive session request hop h3Errors connection head)
  else return none

/-- QUIC works on the route and for the origin. -/
def markWorking (discovery : QuicDiscovery) : Async Unit :=
  perform (.markWorking discovery.route discovery.origin)

/-- QUIC is broken for the origin on the route. -/
def markBroken (discovery : QuicDiscovery) : Async Unit :=
  perform (.markBroken discovery.route discovery.origin)

/-- The connection that a rejected or failed early request is replayed on. -/
def replayConnection (discovery : QuicDiscovery) : Async Connection :=
  establishH3Connection session hop.target.scheme hop.target.host hop.target.port
    discovery.advertisedHost discovery.advertisedPort (request.effectiveProxy session)

/-- The 0-RTT branch of `establish_and_send_quic`: a response, or the connection to replay the
request on. -/
def sendEarly (discovery : QuicDiscovery) (connection : Connection) :
    Async (Response ⊕ Connection) := do
  match ← attempt (sendH30rttRequest session request hop connection) with
  | .ok (some response) =>
    markWorking discovery
    perform (.insert hop.target.key connection)
    return .inl response
  | .ok none =>
    markWorking discovery
    return .inr (← replayConnection session request hop discovery)
  | .error error =>
    if retriesOnClose session error then
      let replay ← replayConnection session request hop discovery
      markWorking discovery
      return .inr replay
    else throw error

/-- The end of `establish_and_send_quic`: pool the connection and send. -/
def poolAndSendH3 (discovery : QuicDiscovery) (connection : Connection) : Async Response := do
  markWorking discovery
  perform (.insert hop.target.key connection)
  sendH3Request session request hop connection

/-- Another request may already run the handshake: wait for it and look into the pool again. -/
def awaitPooledH3 (key : ConnectionKey) : Async (Option Connection) := do
  if ← perform (.joinQuicHandshake key) then perform (.tryAcquireH3 key) else return none

/-- What `establish_and_send_quic` does with an error of its call. -/
def quicFailed (discovery : QuicDiscovery) (error : Error) : Async Response := do
  let isHandshakeClass := error.isQuicHandshakeFailure
  runIf isHandshakeClass (markBroken discovery)
  if isHandshakeClass && fallbackPermitted (request.effectiveProtocolPolicy session) error then
    establishAndSendTcp session request hop
  else throw error

/-- `establish_and_send_quic`. -/
def establishAndSendQuic (discovery : QuicDiscovery) : Async Response := do
  let target := hop.target
  match ← awaitPooledH3 target.key with
  | some connection => sendH3Request session request hop connection
  | none =>
    reserveConnection
    let outcome ← attempt (establishH3ConnectionWith0rtt session target.scheme target.host
      target.port discovery.advertisedHost discovery.advertisedPort (request.effectiveProxy session)
      (canSendEarlyData hop.method request.idempotency))
    match outcome with
    | .ok (.handshake connection) => poolAndSendH3 session request hop discovery connection
    | .ok (.zeroRtt connection) =>
      match ← sendEarly session request hop discovery connection with
      | .inl response => return response
      | .inr connection => poolAndSendH3 session request hop discovery connection
    | .error error => quicFailed session request hop discovery error

end Paths

/-! ## Races -/

/-- What a race between QUIC and TCP does, for requests and for preconnects: the futures, the probes
that a winner leaves behind, and whether TCP is tried again when the pool was full. -/
structure Racers (α : Type) where
  quic : Async α
  tcp : Async α
  tcpDelay : Nat
  quicWon : Async Unit
  tcpWon : Async Unit
  retriesWhenFull : Bool

namespace Racers

variable {α : Type} (racers : Racers α)

/-- TCP after QUIC has failed. -/
def tcpAfter (quicError : Error) (code : Async α) : Async α := do
  match ← attempt code with
  | .ok value => return value
  | .error tcpError => throw (protocolRaceError tcpError quicError)

/-- TCP has failed too, or first; it gets another attempt if the pool had no room. -/
def bothFailed (tcpError quicError : Error) : Async α :=
  if racers.retriesWhenFull && isConnectionLimitError tcpError then
    tcpAfter quicError racers.tcp
  else throw (protocolRaceError tcpError quicError)

/-- The result of QUIC with TCP still under way. -/
def quicFirst (tcpLeft : Async α) : Except Error α → Async α
  | .ok value => do
    racers.quicWon
    return value
  | .error quicError => do
    match ← attempt tcpLeft with
    | .ok value => return value
    | .error tcpError => racers.bothFailed tcpError quicError

/-- The result of TCP with QUIC still under way. -/
def tcpFirst (quicLeft : Async α) : Except Error α → Async α
  | .ok value => do
    racers.tcpWon
    return value
  | .error tcpError => do
    match ← attempt quicLeft with
    | .ok value => return value
    | .error quicError => racers.bothFailed tcpError quicError

/-- Both futures run. -/
def runBoth (quicLeft : Async α) : Async α := do
  match ← ExceptT.lift (Prog.race quicLeft.run racers.tcp.run) with
  | .inl (result, tcpLeft) => racers.quicFirst (ExceptT.mk tcpLeft) result
  | .inr (quicLeft, result) => racers.tcpFirst (ExceptT.mk quicLeft) result

/-- QUIC starts, TCP joins after its delay or when QUIC has failed. -/
def run : Async α := do
  if racers.tcpDelay = 0 then racers.runBoth racers.quic
  else
    match ← ExceptT.lift (Prog.untilTimer racers.quic.run) with
    | .inl (.ok value) =>
      racers.quicWon
      return value
    | .inl (.error quicError) => tcpAfter quicError racers.tcp
    | .inr quicLeft => racers.runBoth (ExceptT.mk quicLeft)

end Racers

/-- `spawn_background_quic_probe`, if it is wanted. -/
def spawnIf (wanted : Bool) (probe : Probe) : Async Unit :=
  runIf wanted (perform (.spawn probe))

/-- The probes of a race, as `establish_and_send_race` and its siblings start them. -/
def raceOf {α : Type} (config : ChromeLikeProtocolConfig) (target : ParsedTarget)
    (discovery : QuicDiscovery) (proxy : Option ProxyConfig) (version : PreferredHttpVersion)
    (retriesWhenFull : Bool) (quic tcp : Async α) : Racers α where
  quic := quic
  tcp := tcp
  tcpDelay := config.tcpMainJobDelay
  quicWon := spawnIf config.keepTcpProbeAfterQuicWin
    (.tcp target.host target.port target.scheme target.key proxy version)
  tcpWon := spawnIf config.keepQuicProbeAfterTcpWin
    (.quic target.host target.port target.key discovery proxy)
  retriesWhenFull := retriesWhenFull

/-! ## One hop -/

section Hop

variable (session : Session) (request : RequestBuilder) (hop : RequestHop)

/-- `establish_and_send`. -/
def establishAndSend : Async Response := do
  let target := hop.target
  let policy := request.effectiveProtocolPolicy session
  let version := request.httpVersion session
  let proxy := request.effectiveProxy session
  orError id policy.validate
  failIf (version == .http3Only && !session.hasQuicProfile)
    (.invalidConfig "HTTP/3 requested but client has no QUIC/H3 profile".toList)
  let discovery ← ExceptT.lift (discoverQuicSupport session target.scheme target.host target.port
    proxy policy version)
  match decideProtocol version policy discovery with
  | .tcp =>
    let response ← establishAndSendTcp session request hop
    spawnIf (shouldBackgroundProbe policy discovery)
      (.quic target.host target.port target.key discovery proxy)
    return response
  | .race =>
    (raceOf (protocolPolicyChromeLikeConfig policy session.chromeLike) target discovery proxy
      version true (establishAndSendQuic session request hop discovery)
      (establishAndSendTcp session request hop)).run
  | .quic => establishAndSendQuic session request hop discovery

/-- The request failed on a pooled connection: the errors of a closed connection lead to a new
one. -/
def retryFresh (evict : Bool) (code : Async Response) : Async Response := do
  match ← attempt code with
  | .ok response => return response
  | .error error =>
    if retriesOnClose session error then
      runIf evict (perform (.remove hop.target.key))
      establishAndSend session request hop
    else throw error

/-- `send_single_request_inner`, with the target of the URL parsed. -/
def sendOnConnection : Async Response := do
  let key := hop.target.key
  match ← perform (.tryAcquire key (request.httpVersion session)) with
  | none => establishAndSend session request hop
  | some connection =>
    match connection.version with
    | .h3 => retryFresh session request hop true (sendH3Request session request hop connection)
    | .h2 =>
      match ← perform (.ready connection) with
      | .ok () => retryFresh session request hop true (sendH2Request session request hop connection)
      | .error _ =>
        perform (.remove key)
        establishAndSend session request hop
    | .http11 =>
      match ← perform (.ready connection) with
      | .ok () =>
        retryFresh session request hop false (sendH1Request session request hop connection)
      | .error _ => establishAndSend session request hop

end Hop

/-- `send_single_request`: one hop within what is left of the total timeout. -/
def sendSingleRequest (session : Session) (request : RequestBuilder) (url : Text)
    (method : Text) (headers : HeaderMap) (body : Option Bytes) : Async Response := do
  let total := request.effectiveTotalTimeout session
  withTimeout
    (.timeout ("request timed out (total deadline of ".toList ++ durationText total ++
      " exceeded)".toList) none)
    (do
      orError id (request.effectiveProtocolPolicy session).validate
      let target ← orError id
        (parseRequestTarget session.urls url (request.effectiveProxy session))
      sendOnConnection session request ⟨method, headers, body, target⟩)

/-! ## URLs -/

/-- The URL of a request with its query parameters. -/
def requestUrl (session : Session) (request : RequestBuilder) : Except Error Text :=
  if request.queryParams.isEmpty then .ok request.url
  else
    match session.urls.parse request.url with
    | .error reason => .error (.urlParse (request.url ++ ": ".toList ++ reason))
    | .ok url => .ok (session.urls.render (session.urls.appendPairs url request.queryParams))

end LkRequest.Client
