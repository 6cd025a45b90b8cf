import LkRequest.Client.Operations

/-!
# Opening streams

`proxy/connect.rs`, `connect.rs` and the TCP part of `session/mod.rs`: dialling a host directly or
through a chain of proxies, the fallback from a proxy to a direct connection, and the TLS handshake
on top.
-/

namespace LkRequest.Client

open Library

def hostPort (host : Text) (port : Nat) : Text := host ++ ':' :: Text.ofNat port

/-- The length of a text in bytes. -/
def utf8Length (text : Text) : Nat := (text.map Char.utf8Size).sum

/-- `str::lines`: the lines of a text without their ends. -/
def textLines (text : Text) : List Text :=
  let lines := (text.splitOn '\n').map fun line => (Text.stripSuffix? line ['\r']).getD line
  if lines.getLast? = some [] then lines.dropLast else lines

/-! ## Dialling -/

def interleave : List SocketAddr → List SocketAddr → List SocketAddr
  | first :: preferred, second :: fallback => first :: second :: interleave preferred fallback
  | [], fallback => fallback
  | preferred, [] => preferred

/-- `interleave_address_families`. -/
def interleaveAddressFamilies (addresses : List SocketAddr) : List SocketAddr :=
  match addresses with
  | [] => []
  | first :: _ =>
    interleave (addresses.filter fun address => address.isIpv6 == first.isIpv6)
      (addresses.filter fun address => address.isIpv6 != first.isIpv6)

/-- `connect_tcp_with_fingerprint`. An error is the text of an I/O error. -/
def connectTcpWithFingerprint (host : Text) (port : Nat) : Task (Except Text TcpStream) := do
  match ← ask (.resolve host port) with
  | .error reason => return .error reason.2
  | .ok resolved =>
    let addresses := interleaveAddressFamilies resolved
    if addresses.isEmpty then
      return .error ("DNS resolution returned no addresses for ".toList ++ host)
    else
      match ← ask (.dialTcp host port addresses) with
      | .error reason => return .error reason
      | .ok (serial, peer) => return .ok ⟨serial, host, port, peer, []⟩

/-- `connect_tcp_to_proxy`. -/
def connectTcpToProxy (host : Text) (port : Nat) : Async TcpStream := do
  let result ← ExceptT.lift (connectTcpWithFingerprint host port)
  orError (fun reason => .proxy .tcpConnectFailed
    ("failed to connect to proxy ".toList ++ hostPort host port ++ ": ".toList ++ reason)) result

/-- The stream after a proxy opened a tunnel over it. -/
def TcpStream.through (stream : TcpStream) (hop : Hop) (target : SocksTarget) : TcpStream :=
  { stream with tunnels := stream.tunnels ++ [⟨hop, target⟩] }

/-! ## Proxies -/

namespace ProxyScheme

def display : ProxyScheme → Text
  | http host port => "http://".toList ++ hostPort host port
  | socks5 host port remoteDns =>
    (if remoteDns then "socks5h".toList else "socks5".toList) ++ "://".toList ++ hostPort host port

def isSocks5 : ProxyScheme → Bool
  | socks5 .. => true
  | http .. => false

/-- The proxy asks the local resolver for the names it connects to. -/
def isLocalDns : ProxyScheme → Bool
  | socks5 _ _ remoteDns => !remoteDns
  | http .. => false

end ProxyScheme

namespace ProxyConfig

mutual

/-- The `Display` of a proxy: the hops in order. -/
def display : ProxyConfig → Text
  | mk final chain => chainDisplay chain ++ final.scheme.display

def chainDisplay : List ProxyConfig → Text
  | [] => []
  | hop :: rest => display hop ++ " -> ".toList ++ chainDisplay rest

end

def auth (proxy : ProxyConfig) : Option ProxyAuth := proxy.final.auth

/-- The proxies of the path, in order. -/
def path (proxy : ProxyConfig) : List ProxyConfig := proxy.chain ++ [proxy]

end ProxyConfig

/-- `is_retryable_socks5_target_error`. -/
def isRetryableSocks5TargetError : Error → Bool
  | .proxy (.socks5Error code) _ => [1, 3, 4, 5, 6, 8].contains code
  | _ => false

/-- The target of `socks5_send_connect`: a name for the proxy to resolve, or the first address that
the local resolver gives. -/
def socks5SendTarget (host : Text) (port : Nat) (remoteDns : Bool) : Async SocksTarget := do
  if remoteDns then
    if 255 < utf8Length host then
      throw (.proxy .protocolError ("SOCKS5 target hostname too long (".toList ++
        Text.ofNat (utf8Length host) ++ " bytes, max: 255)".toList))
    else return .domain host port
  else
    let resolved ← perform (.resolve host port)
    let addresses ← orError (fun reason => .proxy .ioError
      ("SOCKS5 local DNS resolution failed for ".toList ++ host ++ ": ".toList ++ reason.2))
      resolved
    match addresses with
    | address :: _ => return .ip ⟨address.ip, port⟩
    | [] =>
      throw (.proxy .ioError
        ("SOCKS5 local DNS resolution returned no addresses for ".toList ++ host))

/-- `negotiate_over`: one hop of a chain over an open stream. -/
def negotiateOver (proxy : ProxyConfig) (stream : TcpStream) (host : Text) (port : Nat) :
    Async TcpStream := do
  match proxy.scheme with
  | .http .. =>
    let answer ← perform (.sendConnectRequest stream (hostPort host port) proxy.auth)
    let (status, response) ← orError id answer
    if status = 200 then return stream.through proxy.final (.domain host port)
    else if status = 407 then
      throw (.proxy .authenticationRequired ("proxy chain hop ".toList ++ proxy.display ++
        " requires authentication (407)".toList))
    else
      throw (.proxy (.tunnelRefused status) ("proxy chain hop ".toList ++ proxy.display ++
        " CONNECT failed: ".toList ++ (textLines response).headD []))
  | .socks5 _ _ remoteDns =>
    orError id (← perform (.socks5Handshake stream proxy.auth))
    let target ← socks5SendTarget host port remoteDns
    orError id (← perform (.socks5Connect stream target))
    return stream.through proxy.final target

/-- `negotiate_over_address`. -/
def negotiateOverAddress (proxy : ProxyConfig) (stream : TcpStream) (target : SocketAddr) :
    Async TcpStream := do
  failIf (!proxy.scheme.isSocks5)
    (.proxy .protocolError "address-specific negotiation requires a SOCKS5 hop".toList)
  orError id (← perform (.socks5Handshake stream proxy.auth))
  orError id (← perform (.socks5Connect stream (.ip target)))
  return stream.through proxy.final (.ip target)

/-- The last hop of a chain goes to an address or to a name. -/
def negotiateLast (proxy : ProxyConfig) (stream : TcpStream) (finalTarget : Option SocketAddr)
    (host : Text) (port : Nat) : Async TcpStream :=
  match finalTarget with
  | some target => negotiateOverAddress proxy stream target
  | none => negotiateOver proxy stream host port

/-- The inner loop of `connect_chain`. An error tells whether the last hop failed. -/
def negotiateHops (finalTarget : Option SocketAddr) (host : Text) (port : Nat) :
    List ProxyConfig → TcpStream → Task (Except (Bool × Error) TcpStream)
  | [], stream => return .ok stream
  | [hop], stream => do
    match ← (negotiateLast hop stream finalTarget host port).run with
    | .ok stream => return .ok stream
    | .error error => return .error (true, error)
  | hop :: next :: rest, stream => do
    match ← (negotiateOver hop stream next.scheme.host next.scheme.port).run with
    | .ok stream => negotiateHops finalTarget host port (next :: rest) stream
    | .error error => return .error (false, error)

/-- The outer loop of `connect_chain`: one attempt for each address of the target. -/
def connectChainAttempts (session : Session) (proxy : ProxyConfig) (host : Text) (port : Nat) :
    List (Option SocketAddr) → List Text → Async TcpStream
  | [], failures =>
    throw (.proxy .ioError ("SOCKS5 chain target connect failed for all addresses: ".toList ++
      List.intercalate "; ".toList failures))
  | finalTarget :: targets, failures => do
    let first := proxy.path.headD proxy
    let stream ← connectTcpToProxy first.scheme.host first.scheme.port
    match ← ExceptT.lift (negotiateHops finalTarget host port proxy.path stream) with
    | .ok stream => return stream
    | .error (lastHop, error) =>
      match finalTarget with
      | some target =>
        if lastHop && isRetryableSocks5TargetError error then
          connectChainAttempts session proxy host port targets
            (failures ++ [session.addressText target ++ ": ".toList ++ error.display])
        else throw error
      | none => throw error

/-- `connect_chain`. -/
def connectChain (session : Session) (proxy : ProxyConfig) (host : Text) (port : Nat) :
    Async TcpStream := do
  if proxy.scheme.isLocalDns then
    let resolved ← perform (.resolve host port)
    let addresses ← orError (fun reason => .proxy .ioError
      ("SOCKS5 chain target DNS resolution failed for ".toList ++ host ++ ": ".toList ++
        reason.2)) resolved
    failIf addresses.isEmpty (.proxy .ioError
      ("SOCKS5 chain target DNS returned no addresses for ".toList ++ host))
    connectChainAttempts session proxy host port
      ((interleaveAddressFamilies addresses).map some) []
  else connectChainAttempts session proxy host port [none] []

/-- The scheme of a `Proxy-Authenticate` header offers `Basic`. -/
def supportsBasic (response : Text) : Bool :=
  (textLines response).any fun line =>
    "proxy-authenticate:".toList.isPrefixOf (Text.lower line) &&
      Text.contains (Text.lower line) "basic".toList

/-- `connect_http`. -/
def connectHttp (proxy : ProxyConfig) (host : Text) (port : Nat) : Async TcpStream := do
  let target := hostPort host port
  let proxyHost := proxy.scheme.host
  let proxyPort := proxy.scheme.port
  let stream ← connectTcpToProxy proxyHost proxyPort
  let (status, response) ←
    orError id (← perform (.sendConnectRequest stream target proxy.auth))
  if status = 200 then return stream.through proxy.final (.domain host port)
  else if status = 407 then
    if proxy.auth.isSome && supportsBasic response then
      let retried ← attempt (connectTcpToProxy proxyHost proxyPort)
      let stream ← orError (fun error => .proxy .tcpConnectFailed
        ("failed to reconnect to proxy ".toList ++ hostPort proxyHost proxyPort ++
          " for 407 retry: ".toList ++ error.display)) retried
      let (retryStatus, _) ←
        orError id (← perform (.sendConnectRequest stream target proxy.auth))
      if retryStatus = 200 then return stream.through proxy.final (.domain host port)
      else
        throw (.proxy .authenticationFailed
          ("proxy authentication failed after retry (status ".toList ++ Text.ofNat retryStatus ++
            ")".toList))
    else
      throw (.proxy .authenticationRequired
        ("proxy requires authentication (407): ".toList ++ (textLines response).headD []))
  else
    throw (.proxy (.tunnelRefused status)
      ("proxy CONNECT failed: ".toList ++ (textLines response).headD []))

/-- The loop of `connect_socks5_inner` over locally resolved addresses. -/
def connectSocks5Attempts (session : Session) (proxy : ProxyConfig) :
    List SocketAddr → List Text → Async TcpStream
  | [], failures =>
    throw (.proxy .ioError
      ("SOCKS5 target connect failed for all locally resolved addresses: ".toList ++
        List.intercalate "; ".toList failures))
  | target :: targets, failures => do
    let stream ← connectTcpToProxy proxy.scheme.host proxy.scheme.port
    orError id (← perform (.socks5Handshake stream proxy.auth))
    match ← perform (.socks5Connect stream (.ip target)) with
    | .ok () => return stream.through proxy.final (.ip target)
    | .error error =>
      if isRetryableSocks5TargetError error then
        connectSocks5Attempts session proxy targets
          (failures ++ [session.addressText target ++ ": ".toList ++ error.display])
      else throw error

/-- `connect_socks5`. -/
def connectSocks5 (session : Session) (proxy : ProxyConfig) (host : Text) (port : Nat)
    (remoteDns : Bool) : Async TcpStream := do
  if remoteDns then
    let stream ← connectTcpToProxy proxy.scheme.host proxy.scheme.port
    orError id (← perform (.socks5Handshake stream proxy.auth))
    let target ← socks5SendTarget host port true
    orError id (← perform (.socks5Connect stream target))
    return stream.through proxy.final target
  else
    let resolved ← perform (.resolve host port)
    let addresses ← orError (fun reason => .proxy .ioError
      ("SOCKS5 local DNS resolution failed for ".toList ++ host ++ ": ".toList ++ reason.2))
      resolved
    failIf addresses.isEmpty (.proxy .ioError
      ("SOCKS5 local DNS resolution returned no addresses for ".toList ++ host))
    connectSocks5Attempts session proxy (interleaveAddressFamilies addresses) []

/-- `connect_with_budget`. -/
def ProxyConfig.connect (session : Session) (proxy : ProxyConfig) (host : Text) (port : Nat) :
    Async TcpStream :=
  if !proxy.chain.isEmpty then connectChain session proxy host port
  else
    match proxy.scheme with
    | .http .. => connectHttp proxy host port
    | .socks5 _ _ remoteDns => connectSocks5 session proxy host port remoteDns

/-! ## Connections over TCP -/

/-- The fields of `ConnectConfig` that the pipeline reads. -/
structure ConnectConfig where
  scheme : Scheme
  alpn : List Text
  alpsPayload : Option Bytes
  proxyToDirectFallback : Bool

/-- `connect_tcp_direct`. -/
def connectTcpDirect (session : Session) (host : Text) (port : Nat) : Async TcpStream := do
  let timeout := session.tcpConnectTimeout
  let result ← withTimeout
    (.timeout ("TCP connect timed out after ".toList ++ durationText timeout) (some .tcpConnect))
    (ExceptT.lift (connectTcpWithFingerprint host port))
  orError (fun reason => .connection .tcpConnect
    ("TCP connect to ".toList ++ hostPort host port ++ " failed: ".toList ++ reason)) result

/-- The time that a proxy gets: half of what is left if a direct connection may follow. -/
def proxyTimeout (session : Session) (config : ConnectConfig) : Async Nat :=
  if config.proxyToDirectFallback then do
    let remaining ← perform .remainingTime
    return min session.tcpConnectTimeout (remaining / 2)
  else return session.tcpConnectTimeout

/-- `connect_tcp`. -/
def connectTcp (session : Session) (host : Text) (port : Nat) (proxy : Option ProxyConfig)
    (config : ConnectConfig) : Async TcpStream := do
  match proxy with
  | none => connectTcpDirect session host port
  | some proxy =>
    let timeout ← proxyTimeout session config
    let result ← attempt (withTimeout
      (.timeout ("proxy tunnel timed out after ".toList ++ durationText timeout)
        (some .proxyTunnel))
      (proxy.connect session host port))
    match result with
    | .ok stream => return stream
    | .error error =>
      if config.proxyToDirectFallback then connectTcpDirect session host port else throw error

/-- The ECH configuration of the session, of the client, or of the HTTPS record of the host, which
is not looked up on a route with remote DNS. -/
def echConfigFor (session : Session) (host : Text) (isRemoteDns : Bool) : Async (Option Bytes) :=
  match session.sessionEch.orElse fun _ => session.clientEch with
  | some ech => return some ech
  | none =>
    if isRemoteDns then return none
    else do
      let record ← perform (.lookupHttps host)
      return record.bind HttpsRecord.echConfigList

/-- `build_tls_connector`. -/
def buildTlsConnector (session : Session) (config : ConnectConfig) (host : Text) (port : Nat)
    (isRemoteDns : Bool) : Async TlsConfig := do
  let ech ← echConfigFor session host isRemoteDns
  return ⟨host, port, config.alpn, config.alpsPayload, ech, session.verify⟩

/-- `EstablishedConnection::Tcp`. -/
structure EstablishedConnection where
  transport : Transport
  negotiatedAlpn : Option Text

/-- `establish_connection`. -/
def establishConnection (session : Session) (host : Text) (port : Nat)
    (proxy : Option ProxyConfig) (config : ConnectConfig) : Async EstablishedConnection := do
  let stream ← connectTcp session host port proxy config
  match config.scheme with
  | .https =>
    let tls ← buildTlsConnector session config host port (proxyUsesRemoteDns proxy)
    let timeout := session.tlsHandshakeTimeout
    let answer ← withTimeout
      (.timeout ("TLS handshake timed out after ".toList ++ durationText timeout)
        (some .tlsHandshake))
      (perform (.tlsConnect stream tls))
    let alpn ← orError .tls answer
    return ⟨⟨⟨config.scheme, host, port⟩, .tls stream tls.serverName⟩, alpn⟩
  | .http => return ⟨⟨⟨config.scheme, host, port⟩, .plain stream⟩, none⟩

/-- `build_connect_config`. -/
def buildConnectConfig (session : Session) (version : PreferredHttpVersion) (scheme : Scheme) :
    ConnectConfig where
  scheme := scheme
  alpn := if version = .http1Only then alpnForH1Only session.alpnProtocols
    else session.alpnProtocols
  alpsPayload := if version ≠ .http1Only ∧ session.hasAlps then some [] else none
  proxyToDirectFallback := false

/-- `build_h1_only_connect_config`. -/
def buildH1OnlyConnectConfig (session : Session) (scheme : Scheme) : ConnectConfig where
  scheme := scheme
  alpn := alpnForH1Only session.alpnProtocols
  alpsPayload := none
  proxyToDirectFallback := false

end LkRequest.Client
