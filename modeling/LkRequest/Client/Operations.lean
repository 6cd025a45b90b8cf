import LkRequest.Client.Policy
import LkRequest.Library.Effects

/-!
# The operations of a session

What the request pipeline asks of everything around it: the resolver, the sockets and handshakes,
the HTTP layers, the connection pool and the caches of the session, the policies set by the user,
and the scheduler. A connection carries how it was opened.
-/

namespace LkRequest.Client

open Library

/-! ## Connections -/

/-- A socket address: four or sixteen bytes and a port. -/
structure SocketAddr where
  ip : Bytes
  port : Nat
  deriving DecidableEq

def SocketAddr.isIpv6 (address : SocketAddr) : Bool := address.ip.length == 16

/-- `SocksTarget`. -/
inductive SocksTarget where
  | ip (address : SocketAddr)
  | domain (host : Text) (port : Nat)
  deriving DecidableEq

/-- A tunnel that a proxy opened: the proxy as it was asked, and where it was asked to go. -/
structure Tunnel where
  hop : Hop
  target : SocksTarget
  deriving DecidableEq

/-- A TCP stream: the host that was dialled, the address that answered, and the tunnels that were
opened over it, in order. -/
structure TcpStream where
  serial : Nat
  host : Text
  port : Nat
  peer : SocketAddr
  tunnels : List Tunnel
  deriving DecidableEq

def TcpStream.hops (stream : TcpStream) : List Hop := stream.tunnels.map Tunnel.hop

/-- What a transport is made of. A QUIC connection goes through the UDP relays of its proxies, and
with TLS there is a name that the peer was authenticated for. -/
inductive Link where
  | plain (stream : TcpStream)
  | tls (stream : TcpStream) (serverName : Text)
  | quic (serial : Nat) (relays : List Tunnel) (target : SocksTarget) (serverName : Text)
  deriving DecidableEq

/-- What carries an HTTP connection, with the origin that it was opened for. -/
structure Transport where
  origin : Origin
  link : Link
  deriving DecidableEq

namespace Transport

def isCleartext (transport : Transport) : Bool :=
  match transport.link with
  | .plain _ => true
  | _ => false

/-- The proxies that the transport goes through. -/
def hops (transport : Transport) : List Hop :=
  match transport.link with
  | .plain stream | .tls stream _ => stream.hops
  | .quic _ relays _ _ => relays.map Tunnel.hop

end Transport

inductive HttpVersion where
  | http11
  | h2
  | h3
  deriving DecidableEq

structure Connection where
  version : HttpVersion
  transport : Transport
  deriving DecidableEq

/-! ## Messages -/

/-- A request as it is handed to the HTTP layer, with the URL that it is for. -/
structure HttpRequest where
  method : Text
  url : Url
  uri : Text
  headers : HeaderMap
  body : Option Bytes

structure ResponseHead where
  status : Nat
  headers : HeaderMap

/-- Why a request could not be handed over: its head, or its body after the head. -/
inductive SendFailure where
  | head (message : Text)
  | body (message : Text)

/-- How reading a body ends. The limits on its size and rate are checked chunk by chunk. -/
inductive BodyRead where
  | complete (data : Bytes)
  | failed (message : Text)
  | refused (error : Error)

/-- The settings of one TLS handshake. -/
structure TlsConfig where
  serverName : Text
  port : Nat
  alpn : List Text
  alpsPayload : Option Bytes
  echConfig : Option Bytes
  verify : Bool

/-- One QUIC connection attempt, with the origin it is made for. -/
structure QuicDial where
  origin : Origin
  dialHost : Text
  dialPort : Nat
  relays : List Tunnel
  target : SocksTarget
  tls : TlsConfig
  allow0rtt : Bool

/-! ## Operations -/

/-- A background task. -/
inductive Probe where
  | quic (host : Text) (port : Nat) (key : ConnectionKey) (discovery : QuicDiscovery)
      (proxy : Option ProxyConfig)
  | tcp (host : Text) (port : Nat) (scheme : Scheme) (key : ConnectionKey)
      (proxy : Option ProxyConfig) (version : PreferredHttpVersion)

/-- The lines of the log that tell where a hop of a request ends and where an attempt ends. -/
inductive LogLine where
  | redirect (status : Nat) (source target : Text)
  | retryOnStatus (attempt status : Nat)
  | retryOnError (attempt : Nat) (error : Error)

inductive Op where
  -- The resolver.
  | resolve (host : Text) (port : Nat)
  | lookupHttps (host : Text)
  -- Streams and proxies.
  | dialTcp (host : Text) (port : Nat) (addresses : List SocketAddr)
  | sendConnectRequest (stream : TcpStream) (target : Text) (auth : Option ProxyAuth)
  | socks5Handshake (stream : TcpStream) (auth : Option ProxyAuth)
  | socks5Connect (stream : TcpStream) (target : SocksTarget)
  | socks5UdpAssociate (stream : TcpStream)
  -- Handshakes.
  | tlsConnect (stream : TcpStream) (config : TlsConfig)
  | quicConnect (dial : QuicDial)
  | h3Setup (transport : Transport)
  | h1Handshake (transport : Transport)
  | h2Handshake (transport : Transport) (first : Option HttpRequest)
  -- The HTTP layers.
  | ready (connection : Connection)
  | sendRequest (connection : Connection) (request : HttpRequest)
  | awaitResponse (connection : Connection)
  | readBody (connection : Connection)
  | earlyDataAccepted (connection : Connection)
  -- The pool.
  | reserveConnection
  | tryAcquire (key : ConnectionKey) (version : PreferredHttpVersion)
  | tryAcquireH3 (key : ConnectionKey)
  | hasConnection (key : ConnectionKey) (version : PreferredHttpVersion)
  | insert (key : ConnectionKey) (connection : Connection)
  | remove (key : ConnectionKey)
  | joinQuicHandshake (key : ConnectionKey)
  -- The caches.
  | learnedState (route : RouteKey) (origin : Origin)
  | isRouteBroken (route : RouteKey)
  | markWorking (route : RouteKey) (origin : Origin)
  | markBroken (route : RouteKey) (origin : Origin)
  | markRouteBroken (route : RouteKey)
  | storeAltSvc (route : RouteKey) (origin : Origin) (header : Text)
  | cookies (url : Url)
  | storeCookies (url : Url) (values : List Text)
  -- The user's policies.
  | shouldUpgrade (host : Text)
  | recordSts (host header : Text)
  | shouldRetry (attempt : Nat) (error : Option Error) (status : Option Nat)
  -- Time, tasks and the log.
  | remainingTime
  | spawn (probe : Probe)
  | log (line : LogLine)

/-- The answers. Errors of other crates are their texts. -/
abbrev Ans : Op → Type
  | .resolve .. => Except (IoErrorKind × Text) (List SocketAddr)
  | .lookupHttps _ => Option HttpsRecord
  | .dialTcp .. => Except Text (Nat × SocketAddr)
  | .sendConnectRequest .. => Except Error (Nat × Text)
  | .socks5Handshake .. => Except Error Unit
  | .socks5Connect .. => Except Error Unit
  | .socks5UdpAssociate _ => Except Error SocketAddr
  | .tlsConnect .. => Except TlsError (Option Text)
  | .quicConnect _ => Except Text (Nat × Bool)
  | .h3Setup _ => Except Text Unit
  | .h1Handshake _ => Except Text Unit
  | .h2Handshake .. => Except Text Unit
  | .ready _ => Except Text Unit
  | .sendRequest .. => Except SendFailure Unit
  | .awaitResponse _ => Except Text ResponseHead
  | .readBody _ => BodyRead
  | .earlyDataAccepted _ => Bool
  | .reserveConnection => Except Nat Unit
  | .tryAcquire .. => Option Connection
  | .tryAcquireH3 _ => Option Connection
  | .hasConnection .. => Bool
  | .insert .. => Unit
  | .remove _ => Unit
  | .joinQuicHandshake _ => Bool
  | .learnedState .. => LearnedProtocolState
  | .isRouteBroken _ => Bool
  | .markWorking .. => Unit
  | .markBroken .. => Unit
  | .markRouteBroken _ => Unit
  | .storeAltSvc .. => Unit
  | .cookies _ => List (Text × Text)
  | .storeCookies .. => Unit
  | .shouldUpgrade _ => Bool
  | .recordSts .. => Unit
  | .shouldRetry .. => Bool
  | .remainingTime => Nat
  | .spawn _ => Unit
  | .log _ => Unit

/-- Asynchronous code that cannot fail. -/
abbrev Task (α : Type) : Type := Prog Op Ans α

/-- Asynchronous code that returns a `Result`. -/
abbrev Async (α : Type) : Type := ExceptT Error (Prog Op Ans) α

/-- An operation. -/
def ask (op : Op) : Task (Ans op) := Prog.op op

/-- An operation in fallible code. -/
def perform (op : Op) : Async (Ans op) := ExceptT.lift (ask op)

/-- Pass on the error of a result, as `map_err(..)?` does. -/
def orError {O : Type} {A : O → Type} {ε α : Type} (error : ε → Error) :
    Except ε α → ExceptT Error (Prog O A) α
  | .ok value => pure value
  | .error reason => throw (error reason)

/-- Return with an error if the condition holds. -/
def failIf {O : Type} {A : O → Type} (condition : Bool) (error : Error) :
    ExceptT Error (Prog O A) Unit :=
  if condition then throw error else pure ()

/-- Run the code if the condition holds. -/
def runIf (condition : Bool) (code : Async Unit) : Async Unit :=
  if condition then code else pure ()

/-- The result of fallible code as a value. -/
def attempt {α : Type} (code : Async α) : Async (Except Error α) := ExceptT.lift code.run

/-- `tokio::time::timeout(..).await.map_err(..)?` around fallible code. -/
def withTimeout {α : Type} (error : Error) (code : Async α) : Async α :=
  ExceptT.mk (code.run.timeout.bind fun
    | some result => .pure result
    | none => .pure (.error error))

/-! ## Settings -/

/-- The settings of a session and its client that the pipeline reads. Durations are in nanoseconds.
`quicTransportParameters` says whether the parameters of the QUIC profile can be encoded. The last
fields are code from elsewhere: addresses as texts, the URIs that the `http` crate refuses, the
limits on response headers, decompression, and the value of the `priority` header. -/
structure Session where
  urls : UrlCrate
  proxy : Option ProxyConfig
  protocolPolicy : ProtocolPolicy
  preferredHttpVersion : PreferredHttpVersion
  chromeLike : ChromeLikeProtocolConfig
  redirectPolicy : RedirectPolicy
  httpsOnly : Bool
  hasRetryPolicy : Bool
  fallback : FallbackConfig
  verify : Bool
  sessionEch : Option Bytes
  clientEch : Option Bytes
  alpnProtocols : List Text
  hasAlps : Bool
  hasQuicProfile : Bool
  quicHasAlps : Bool
  alpsH3Settings : Bytes
  quicTransportParameters : Except Error Unit
  defaultHeaders : HeaderMap
  sessionHeaderOrder : Option (List Text)
  clientHeaderOrder : Option (List Text)
  sessionH3HeaderOrder : Option (List Text)
  clientH3HeaderOrder : Option (List Text)
  sessionCookieOrder : Option (List Text)
  clientCookieOrder : Option (List Text)
  tcpConnectTimeout : Nat
  tlsHandshakeTimeout : Nat
  quicConnectTimeout : Nat
  totalTimeout : Nat
  autoPriorityHeader : Bool
  addressText : SocketAddr → Text
  parseIp : Text → Option Bytes
  uriError : Text → Option Text
  checkResponseHeaders : HeaderMap → Except Error Unit
  decompress : HeaderMap → Bytes → Except Error Bytes
  h2Priority : Option Text → HeaderMap → HeaderMap → Text
  prefacePriority : Option Text → HeaderMap → Text
  h3Priority : Option Text → HeaderMap → HeaderMap → Text

/-- `RequestBuilder`, as the request middlewares leave it. -/
structure RequestBuilder where
  method : Text
  url : Text
  headers : HeaderMap
  body : Option Bytes
  queryParams : List (Text × Text)
  extraCookies : List (Text × Text)
  cookieOverrides : List Text
  timeout : Option Nat
  proxyOverride : Option ProxyConfig
  versionOverride : Option PreferredHttpVersion
  protocolPolicyOverride : Option ProtocolPolicy
  noDecompress : Bool
  headerOrder : Option (List Text)
  h3HeaderOrder : Option (List Text)
  cookieOrder : Option (List Text)
  headerInsertionOrder : List Text
  priority : Option Text
  idempotency : Idempotency

namespace RequestBuilder

variable (session : Session) (request : RequestBuilder)

/-- `effective_proxy`. -/
def effectiveProxy : Option ProxyConfig := request.proxyOverride.orElse fun _ => session.proxy

/-- `effective_protocol_policy`. -/
def effectiveProtocolPolicy : ProtocolPolicy :=
  request.protocolPolicyOverride.getD session.protocolPolicy

end RequestBuilder

/-- `effective_http_version`. -/
def effectiveHttpVersion (session : Session) (override : Option PreferredHttpVersion)
    (policy : ProtocolPolicy) : PreferredHttpVersion :=
  match override with
  | some version => version
  | none =>
    if session.preferredHttpVersion = .http1Only then .http1Only
    else protocolPolicyHttpVersion policy

namespace RequestBuilder

variable (session : Session) (request : RequestBuilder)

def httpVersion : PreferredHttpVersion :=
  effectiveHttpVersion session request.versionOverride (request.effectiveProtocolPolicy session)

/-- `effective_header_order`. -/
def effectiveHeaderOrder : List Text :=
  ((request.headerOrder.orElse fun _ => session.sessionHeaderOrder).orElse fun _ =>
    session.clientHeaderOrder).getD request.headerInsertionOrder

/-- `effective_h3_header_order`. -/
def effectiveH3HeaderOrder : List Text :=
  ([request.h3HeaderOrder, request.headerOrder, session.sessionH3HeaderOrder,
    session.sessionHeaderOrder, session.clientH3HeaderOrder, session.clientHeaderOrder].findSome?
      id).getD request.headerInsertionOrder

/-- `effective_cookie_order`. -/
def effectiveCookieOrder : Option (List Text) :=
  (request.cookieOrder.orElse fun _ => session.sessionCookieOrder).orElse fun _ =>
    session.clientCookieOrder

def mergeSettings (headerOrder : List Text) : MergeSettings where
  defaultHeaders := session.defaultHeaders
  extraCookies := request.extraCookies
  cookieOverrides := request.cookieOverrides
  headerOrder := headerOrder
  cookieOrder := request.effectiveCookieOrder session

/-- `effective_total_timeout`. -/
def effectiveTotalTimeout : Nat := request.timeout.getD session.totalTimeout

end RequestBuilder

/-! ## A plain session in a calm network -/

/-- The URLs of a table. -/
def UrlCrate.ofTable (table : List (Text × Url)) : UrlCrate where
  parse text := ((table.find? fun entry => entry.1 == text).map Prod.snd).elim
    (.error "relative URL without a base".toList) .ok
  render url := ((table.find? fun entry => entry.2 == url).map Prod.fst).getD []
  join _ location := ((table.find? fun entry => entry.1 == location).map Prod.snd).elim
    (.error "relative URL without a base".toList) .ok
  appendPairs url _ := url
  setScheme url scheme := some { url with scheme := scheme }
  setPort url port :=
    some { url with port := if port = Url.defaultPort url.scheme then none else port }

theorem UrlCrate.mem_of_ofTable_parse {table : List (Text × Url)} {text : Text} {url : Url}
    (hparse : (ofTable table).parse text = .ok url) : ∃ entry ∈ table, entry.2 = url := by
  rw [ofTable] at hparse
  dsimp only at hparse
  cases hfind : table.find? fun entry => entry.1 == text with
  | none =>
    rw [hfind] at hparse
    exact nomatch hparse
  | some entry =>
    rw [hfind] at hparse
    exact ⟨entry, List.mem_of_find?_eq_some hfind, Except.ok.inj hparse⟩

/-- A session that has no proxy, follows no redirects and knows only HTTP over TCP. -/
def Session.plain (urls : UrlCrate) : Session where
  urls := urls
  proxy := none
  protocolPolicy := ⟨.auto, .reuseExistingFirst, .off, .allowFallback⟩
  preferredHttpVersion := .auto
  chromeLike := ⟨300000000, false, false⟩
  redirectPolicy := .none
  httpsOnly := false
  hasRetryPolicy := false
  fallback := ⟨false, false, false⟩
  verify := true
  sessionEch := none
  clientEch := none
  alpnProtocols := ["h2".toList, "http/1.1".toList]
  hasAlps := false
  hasQuicProfile := false
  quicHasAlps := false
  alpsH3Settings := []
  quicTransportParameters := .ok ()
  defaultHeaders := []
  sessionHeaderOrder := none
  clientHeaderOrder := none
  sessionH3HeaderOrder := none
  clientH3HeaderOrder := none
  sessionCookieOrder := none
  clientCookieOrder := none
  tcpConnectTimeout := 10000000000
  tlsHandshakeTimeout := 10000000000
  quicConnectTimeout := 10000000000
  totalTimeout := 30000000000
  autoPriorityHeader := false
  addressText _ := "192.0.2.1:443".toList
  parseIp _ := none
  uriError _ := none
  checkResponseHeaders _ := .ok ()
  decompress _ body := .ok body
  h2Priority _ _ _ := []
  prefacePriority _ _ := []
  h3Priority _ _ _ := []

/-- A request with nothing set but its method and URL. -/
def RequestBuilder.plain (method url : Text) : RequestBuilder where
  method := method
  url := url
  headers := []
  body := none
  queryParams := []
  extraCookies := []
  cookieOverrides := []
  timeout := none
  proxyOverride := none
  versionOverride := none
  protocolPolicyOverride := none
  noDecompress := false
  headerOrder := none
  h3HeaderOrder := none
  cookieOrder := none
  headerInsertionOrder := []
  priority := none
  idempotency := .default

/-- A network in which every name has one address, every proxy opens tunnels, every server speaks
HTTP/1.1 and answers `200`, and nothing is pooled or cached. -/
def calmNetwork : (op : Op) → Ans op
  | .resolve _ port => .ok [⟨[192, 0, 2, 1], port⟩]
  | .lookupHttps _ => none
  | .dialTcp _ port _ => .ok (1, ⟨[192, 0, 2, 1], port⟩)
  | .sendConnectRequest .. => .ok (200, [])
  | .socks5Handshake .. => .ok ()
  | .socks5Connect .. => .ok ()
  | .socks5UdpAssociate _ => .ok ⟨[192, 0, 2, 1], 1080⟩
  | .tlsConnect .. => .ok (some "http/1.1".toList)
  | .quicConnect _ => .ok (2, false)
  | .h3Setup _ => .ok ()
  | .h1Handshake _ => .ok ()
  | .h2Handshake .. => .ok ()
  | .ready _ => .ok ()
  | .sendRequest .. => .ok ()
  | .awaitResponse _ => .ok ⟨200, []⟩
  | .readBody _ => .complete []
  | .earlyDataAccepted _ => false
  | .reserveConnection => .ok ()
  | .tryAcquire .. => none
  | .tryAcquireH3 _ => none
  | .hasConnection .. => false
  | .insert .. => ()
  | .remove _ => ()
  | .joinQuicHandshake _ => false
  | .learnedState .. => ⟨none, .unknown⟩
  | .isRouteBroken _ => false
  | .markWorking .. => ()
  | .markBroken .. => ()
  | .markRouteBroken _ => ()
  | .storeAltSvc .. => ()
  | .cookies _ => []
  | .storeCookies .. => ()
  | .shouldUpgrade _ => false
  | .recordSts .. => ()
  | .shouldRetry .. => false
  | .remainingTime => 30000000000
  | .spawn _ => ()
  | .log _ => ()

end LkRequest.Client
