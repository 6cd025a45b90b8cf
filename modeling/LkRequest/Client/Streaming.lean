import LkRequest.Client.Redirects

/-!
# Streamed requests, preconnects and probes

`streaming.rs`, `preconnect` and the background probes of `session/mod.rs`, and the connection of a
WebSocket: the other entry points of a session. A streamed request follows no redirects.
-/

namespace LkRequest.Client

open Library

/-! ## Streamed requests -/

section Streaming

variable (session : Session) (request : RequestBuilder) (hop : RequestHop)

/-- `establish_and_send_streaming_tcp`. -/
def establishAndSendStreamingTcp : Async ResponseHead := do
  reserveConnection
  let target := hop.target
  let proxy := request.effectiveProxy session
  let version := request.httpVersion session
  let established ← establishConnection session target.host target.port proxy
    (buildConnectConfig session version target.scheme)
  if ← orError id (shouldUseH2 established.negotiatedAlpn version) then
    let result ← attempt do
      let connection ← establishH2AndPool target.key established.transport
      sendH2Streaming session request hop connection
    match result with
    | .ok response => return response
    | .error error =>
      if fallsBackToH1 session error then
        reserveConnection
        let again ← establishConnection session target.host target.port proxy
          (buildH1OnlyConnectConfig session target.scheme)
        sendH1Streaming session request hop (← handshakeH1 again.transport)
      else throw error
  else sendH1Streaming session request hop (← handshakeH1 established.transport)

/-- What `establish_and_send_streaming_quic` does with an error of its call: each one marks the
origin as broken. -/
def streamingQuicFailed (discovery : QuicDiscovery) (error : Error) : Async ResponseHead := do
  markBroken discovery
  if fallbackPermitted (request.effectiveProtocolPolicy session) error then
    establishAndSendStreamingTcp session request hop
  else throw error

/-- `establish_and_send_streaming_quic`. -/
def establishAndSendStreamingQuic (discovery : QuicDiscovery) : Async ResponseHead := do
  reserveConnection
  let target := hop.target
  match ← attempt (establishH3Connection session target.scheme target.host target.port
    discovery.advertisedHost discovery.advertisedPort (request.effectiveProxy session)) with
  | .ok connection =>
    markWorking discovery
    perform (.insert target.key connection)
    sendH3Streaming session request hop connection
  | .error error => streamingQuicFailed session request hop discovery error

/-- `establish_and_send_streaming`. -/
def establishAndSendStreaming : Async ResponseHead := do
  let target := hop.target
  let policy := request.effectiveProtocolPolicy session
  let version := request.httpVersion session
  let proxy := request.effectiveProxy session
  orError id policy.validate
  failIf (version == .http3Only && !session.hasQuicProfile)
    (.invalidConfig "HTTP/3 requested but client has no QUIC/H3 profile".toList)
  let discovery ← ExceptT.lift (discoverQuicSupport session target.scheme target.host target.port
    proxy policy version)
  match decideProtocol version policy discovery with
  | .tcp =>
    let response ← establishAndSendStreamingTcp session request hop
    spawnIf (shouldBackgroundProbe policy discovery)
      (.quic target.host target.port target.key discovery proxy)
    return response
  | .race =>
    (raceOf (protocolPolicyChromeLikeConfig policy session.chromeLike) target discovery proxy
      version true (establishAndSendStreamingQuic session request hop discovery)
      (establishAndSendStreamingTcp session request hop)).run
  | .quic => establishAndSendStreamingQuic session request hop discovery

/-- The streamed request failed on a pooled connection. -/
def retryFreshStreaming (code : Async ResponseHead) : Async ResponseHead := do
  match ← attempt code with
  | .ok response => return response
  | .error error =>
    if retriesOnClose session error then
      perform (.remove hop.target.key)
      establishAndSendStreaming session request hop
    else throw error

/-- `send_streaming_inner`, with the target of the URL parsed. A pooled HTTP/1.1 connection is used
without a check and without a retry. -/
def sendStreamingOnConnection : Async ResponseHead := do
  let key := hop.target.key
  match ← perform (.tryAcquire key (request.httpVersion session)) with
  | none => establishAndSendStreaming session request hop
  | some connection =>
    match connection.version with
    | .h3 =>
      retryFreshStreaming session request hop (sendH3Streaming session request hop connection)
    | .h2 =>
      match ← perform (.ready connection) with
      | .ok () =>
        retryFreshStreaming session request hop (sendH2Streaming session request hop connection)
      | .error _ =>
        perform (.remove key)
        establishAndSendStreaming session request hop
    | .http11 => sendH1Streaming session request hop connection

end Streaming

/-- `send_streaming_impl`. -/
def sendStreaming (session : Session) (request : RequestBuilder) : Async ResponseHead := do
  let url ← orError id (requestUrl session request)
  let timeout := request.effectiveTotalTimeout session
  withTimeout
    (.timeout ("streaming request timed out after ".toList ++ durationText timeout) none)
    (do
      orError id (request.effectiveProtocolPolicy session).validate
      let target ← orError id
        (parseRequestTarget session.urls url (request.effectiveProxy session))
      sendStreamingOnConnection session request
        ⟨request.method, request.headers, request.body, target⟩)

/-! ## Preconnects -/

/-- What `preconnect_h3` does with an error of its call. -/
def preconnectH3Failed (discovery : QuicDiscovery) (error : Error) : Async Unit := do
  markBroken discovery
  throw error

/-- `preconnect_h3`. -/
def preconnectH3 (session : Session) (host : Text) (port : Nat) (key : ConnectionKey)
    (discovery : QuicDiscovery) (proxy : Option ProxyConfig) : Async Unit := do
  reserveConnection
  match ← attempt (establishH3Connection session key.scheme host port discovery.advertisedHost
    discovery.advertisedPort proxy) with
  | .ok connection =>
    markWorking discovery
    perform (.insert key connection)
  | .error error => preconnectH3Failed discovery error

/-- `preconnect_tcp`. -/
def preconnectTcp (session : Session) (host : Text) (port : Nat) (scheme : Scheme)
    (key : ConnectionKey) (proxy : Option ProxyConfig) (version : PreferredHttpVersion) :
    Async Unit := do
  reserveConnection
  let established ← establishConnection session host port proxy
    (buildConnectConfig session version scheme)
  if ← orError id (shouldUseH2 established.negotiatedAlpn version) then
    orError Error.http (← perform (.h2Handshake established.transport none))
    perform (.insert key ⟨.h2, established.transport⟩)
  else
    let answer ← perform (.h1Handshake established.transport)
    orError (fun reason => .http ("preconnect HTTP/1.1 handshake failed: ".toList ++ reason)) answer
    perform (.insert key ⟨.http11, established.transport⟩)

/-- `preconnect`, for a target that has no pooled connection. -/
def preconnectFresh (session : Session) (target : ParsedTarget) : Async Unit := do
  let policy := session.protocolPolicy
  let proxy := session.proxy
  let version := effectiveHttpVersion session none policy
  failIf (version == .http3Only && !session.hasQuicProfile)
    (.invalidConfig "HTTP/3 requested but client has no QUIC/H3 profile".toList)
  let discovery ← ExceptT.lift (discoverQuicSupport session target.scheme target.host target.port
    proxy policy version)
  let quic := preconnectH3 session target.host target.port target.key discovery proxy
  let tcp := preconnectTcp session target.host target.port target.scheme target.key proxy version
  match decideProtocol version policy discovery with
  | .tcp =>
    tcp
    spawnIf (shouldBackgroundProbe policy discovery)
      (.quic target.host target.port target.key discovery proxy)
  | .quic => quic
  | .race =>
    (raceOf (protocolPolicyChromeLikeConfig policy session.chromeLike) target discovery proxy
      version false quic tcp).run

/-- `preconnect`. An unknown scheme has its own error text. -/
def preconnect (session : Session) (text : Text) : Async Unit := do
  let url ← orError (fun reason => .urlParse (text ++ ": ".toList ++ reason))
    (session.urls.parse text)
  failIf (url.scheme != "https".toList && url.scheme != "http".toList)
    (.urlParse ("preconnect: unsupported scheme: ".toList ++ url.scheme))
  let target ← orError id (parseRequestTarget session.urls text session.proxy)
  let version := effectiveHttpVersion session none session.protocolPolicy
  if ← perform (.hasConnection target.key version) then return ()
  else preconnectFresh session target

/-! ## Probes -/

/-- What a probe does with an error of its call. -/
def quicProbeFailed (discovery : QuicDiscovery) (error : Error) : Async Unit :=
  runIf error.isQuicHandshakeFailure (markBroken discovery)

/-- `spawn_background_quic_probe`. -/
def quicProbe (session : Session) (host : Text) (port : Nat) (key : ConnectionKey)
    (discovery : QuicDiscovery) (proxy : Option ProxyConfig) : Async Unit := do
  reserveConnection
  match ← attempt (establishH3Connection session key.scheme host port discovery.advertisedHost
    discovery.advertisedPort proxy) with
  | .ok connection =>
    markWorking discovery
    perform (.insert key connection)
  | .error error => quicProbeFailed discovery error

/-- The task of a probe. `spawn_background_tcp_probe` runs `preconnect_tcp`. -/
def Probe.task (session : Session) : Probe → Async Unit
  | .quic host port key discovery proxy => quicProbe session host port key discovery proxy
  | .tcp host port scheme key proxy version =>
    preconnectTcp session host port scheme key proxy version

/-! ## WebSockets -/

/-- Whether the scheme of a WebSocket URL asks for TLS. -/
def websocketIsTls (scheme : Text) : Except Error Bool :=
  if scheme = "wss".toList ∨ scheme = "https".toList then .ok true
  else if scheme = "ws".toList ∨ scheme = "http".toList then .ok false
  else .error (.urlParse ("Unsupported WebSocket scheme: ".toList ++ scheme))

/-- `WsBuilder::connect` up to the upgrade: a TLS connection through the session's proxy. -/
def websocketConnect (session : Session) (text : Text) : Async EstablishedConnection := do
  let url ← orError .urlParse (session.urls.parse text)
  let isTls ← orError id (websocketIsTls url.scheme)
  match url.host with
  | none => throw (.urlParse "Missing host in WebSocket URL".toList)
  | some host =>
    let port := url.port.getD (if isTls then 443 else 80)
    failIf (!isTls)
      (.http "Only wss:// (TLS) WebSocket connections are supported".toList)
    establishConnection session host port session.proxy
      ⟨.https, alpnForH1Only session.alpnProtocols, none, false⟩

end LkRequest.Client
