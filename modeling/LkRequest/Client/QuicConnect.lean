import LkRequest.Client.Connect

/-!
# Opening QUIC connections

`udp_associate` of `proxy/connect.rs` and the HTTP/3 part of `session/mod.rs`: a QUIC connection is
opened directly or through the UDP relays of SOCKS5 proxies, for the host that discovery advertised
or else for the origin's host.
-/

namespace LkRequest.Client

open Library

/-! ## UDP relays -/

def SocketAddr.isUnspecified (address : SocketAddr) : Bool := address.ip.all (· == 0)

/-- `resolve_first_relay`. -/
def resolveFirstRelay (raw : SocketAddr) (control : TcpStream) : SocketAddr :=
  if raw.isUnspecified then ⟨control.peer.ip, raw.port⟩ else raw

/-- `resolve_inner_relay`. -/
def resolveInnerRelay (session : Session) (raw : SocketAddr) (hop : ProxyConfig) : SocksTarget :=
  if raw.isUnspecified then
    match session.parseIp hop.scheme.host with
    | some ip => .ip ⟨ip, raw.port⟩
    | none => .domain hop.scheme.host raw.port
  else .ip raw

/-- Tunnel from the first proxy of a path to its last. -/
def tunnelTo : List ProxyConfig → TcpStream → Async TcpStream
  | hop :: next :: rest, stream => do
    let stream ← negotiateOver hop stream next.scheme.host next.scheme.port
    tunnelTo (next :: rest) stream
  | _, stream => return stream

/-- The control connection to the first proxy, with the error text of its call site. -/
def controlConnection (host : Text) (port : Nat) (message : Text → Text) : Async TcpStream := do
  let result ← attempt (connectTcpToProxy host port)
  orError (fun error => .proxy .tcpConnectFailed (message error.display)) result

/-- The loop of `udp_associate_chain`: every hop gets its own control connection. -/
def associateHops (session : Session) (first : ProxyConfig) :
    List ProxyConfig → List ProxyConfig → Async (List Tunnel)
  | _, [] => return []
  | before, hop :: rest => do
    let host := first.scheme.host
    let port := first.scheme.port
    let stream ← controlConnection host port fun reason =>
      "failed to connect to first chain hop ".toList ++ hostPort host port ++
        " for UDP ASSOCIATE: ".toList ++ reason
    let stream ← tunnelTo (before ++ [hop]) stream
    orError id (← perform (.socks5Handshake stream hop.auth))
    let raw ← orError id (← perform (.socks5UdpAssociate stream))
    let relay :=
      if before.isEmpty then .ip (resolveFirstRelay raw stream)
      else resolveInnerRelay session raw hop
    let relays ← associateHops session first (before ++ [hop]) rest
    return ⟨hop.final, relay⟩ :: relays

/-- `udp_associate_chain`. -/
def udpAssociateChain (session : Session) (proxy : ProxyConfig) : Async (List Tunnel) := do
  match proxy.path.find? fun hop => !hop.scheme.isSocks5 with
  | some hop =>
    throw (.proxy .protocolError
      ("QUIC over a proxy chain requires every hop to be SOCKS5 ".toList ++
        "(UDP ASSOCIATE is SOCKS5-only); hop ".toList ++ hop.display ++
          " is not SOCKS5 — ".toList ++
            "use a single SOCKS5 hop for QUIC, or fall back to H2 over the chain".toList))
  | none => associateHops session (proxy.path.headD proxy) [] proxy.path

/-- `udp_associate`. -/
def udpAssociate (session : Session) (proxy : ProxyConfig) : Async (List Tunnel) := do
  if !proxy.chain.isEmpty then udpAssociateChain session proxy
  else
    let host := proxy.scheme.host
    let port := proxy.scheme.port
    let stream ← controlConnection host port fun reason =>
      "failed to connect to SOCKS5 proxy ".toList ++ hostPort host port ++ ": ".toList ++ reason
    orError id (← perform (.socks5Handshake stream proxy.auth))
    let raw ← orError id (← perform (.socks5UdpAssociate stream))
    return [⟨proxy.final, .ip (resolveFirstRelay raw stream)⟩]

/-! ## HTTP/3 connections -/

inductive H3ConnectOutcome where
  | handshake (connection : Connection)
  | zeroRtt (connection : Connection)
  deriving DecidableEq

/-- `Error::quic(QuicPhase::Handshake, ..)`. -/
def quicFailure (message : Text) : Error := .quicTransport .handshake message

/-- The TLS settings of a QUIC connection. The session's own ECH configuration is not read. -/
def quicTlsConfig (session : Session) (serverName : Text) (dialPort : Nat) : TlsConfig where
  serverName := serverName
  port := dialPort
  alpn := ["h3".toList]
  alpsPayload := if session.quicHasAlps then some session.alpsH3Settings else none
  echConfig := session.clientEch
  verify := session.verify

/-- The transport of a QUIC connection that was opened. -/
def QuicDial.transport (dial : QuicDial) (serial : Nat) : Transport :=
  ⟨dial.origin, .quic serial dial.relays dial.target dial.tls.serverName⟩

/-- One QUIC handshake within its time. -/
def quicHandshake (session : Session) (dial : QuicDial) : Async (Transport × Bool) := do
  let answer ← withTimeout
    (.timeout ("QUIC handshake to ".toList ++ hostPort dial.dialHost dial.dialPort ++
      " timed out after ".toList ++ durationText session.quicConnectTimeout) (some .quicHandshake))
    (perform (.quicConnect dial))
  let (serial, zeroRtt) ← orError quicFailure answer
  return (dial.transport serial, zeroRtt)

/-- `connect_quic_via_socks5`: a proxy that gives no relay is remembered for the whole route. -/
def connectQuicViaSocks5 (session : Session) (proxy : ProxyConfig) (dial : QuicDial) :
    Async Transport := do
  let associated ← attempt (withTimeout
    (.timeout ("SOCKS5 UDP ASSOCIATE to ".toList ++
      hostPort proxy.scheme.host proxy.scheme.port ++ " timed out after ".toList ++
        durationText session.tcpConnectTimeout) (some .proxyTunnel))
    (udpAssociate session proxy))
  match associated with
  | .error error =>
    perform (.markRouteBroken (.fromProxy (some proxy)))
    throw error
  | .ok relays =>
    let (transport, _) ← quicHandshake session { dial with relays := relays }
    return transport

/-- The H3 control streams on a new connection. -/
def h3Setup (transport : Transport) (timeout : Error) (message : Text) : Async Connection := do
  let answer ← withTimeout timeout (perform (.h3Setup transport))
  orError (fun reason => quicFailure (message ++ reason)) answer
  return ⟨.h3, transport⟩

/-- The address of the host to dial, unless the proxy resolves it. -/
def resolveDialHost (host : Text) (port : Nat) (isRemoteDns : Bool) :
    Async (Option SocketAddr) := do
  if isRemoteDns then return none
  else
    let resolved ← perform (.resolve host port)
    let addresses ← orError (fun reason => .io reason.1 reason.2) resolved
    match addresses with
    | address :: _ => return some address
    | [] =>
      throw (.connection .dnsResolution
        ("DNS resolution returned no addresses for ".toList ++ hostPort host port))

/-- `establish_h3_connection_with_0rtt`. The scheme of the origin is only kept with the
connection. -/
def establishH3ConnectionWith0rtt (session : Session) (scheme : Scheme) (host : Text) (port : Nat)
    (advertisedHost : Option Text) (advertisedPort : Option Nat) (proxy : Option ProxyConfig)
    (allow0rtt : Bool) : Async H3ConnectOutcome := do
  failIf (!session.hasQuicProfile)
    (.invalidConfig "HTTP/3 requested but client has no QUIC/H3 profile".toList)
  let dialHost := advertisedHost.getD host
  let dialPort := advertisedPort.getD port
  let serverName := advertisedHost.getD host
  let remoteAddr ← resolveDialHost dialHost dialPort (proxyUsesRemoteDns proxy)
  orError id session.quicTransportParameters
  let target := match remoteAddr with
    | some address => .ip address
    | none => .domain dialHost dialPort
  let dial : QuicDial := ⟨⟨scheme, host, port⟩, dialHost, dialPort, [], target,
    quicTlsConfig session serverName dialPort, false⟩
  let controlTimeout := Error.timeout ("HTTP/3 control setup to ".toList ++
    hostPort dialHost dialPort ++ " timed out after ".toList ++
      durationText session.quicConnectTimeout) (some .quicHandshake)
  match proxy with
  | some proxy =>
    match proxy.scheme with
    | .socks5 .. =>
      let transport ← connectQuicViaSocks5 session proxy dial
      return .handshake (← h3Setup transport controlTimeout "H3 control setup: ".toList)
    | .http host port =>
      throw (.invalidConfig
        ("HTTP/3 requires a SOCKS5 proxy to relay UDP; proxy scheme ".toList ++
          "Http \x7b host: \"".toList ++ host ++ "\", port: ".toList ++ Text.ofNat port ++
            " \x7d cannot carry QUIC".toList))
  | none =>
    match remoteAddr with
    | none =>
      throw (.invalidConfig "remote DNS (socks5h) requires a SOCKS5 proxy for QUIC".toList)
    | some _ =>
      let (transport, zeroRtt) ← quicHandshake session { dial with allow0rtt := allow0rtt }
      if allow0rtt && zeroRtt then
        let timeout := Error.timeout ("HTTP/3 0-RTT control setup to ".toList ++
          hostPort dialHost dialPort ++ " timed out after ".toList ++
            durationText session.quicConnectTimeout) (some .h3Negotiation)
        return .zeroRtt (← h3Setup transport timeout "H3 0-RTT control setup: ".toList)
      else return .handshake (← h3Setup transport controlTimeout "H3 control setup: ".toList)

/-- `establish_h3_connection`. -/
def establishH3Connection (session : Session) (scheme : Scheme) (host : Text) (port : Nat)
    (advertisedHost : Option Text) (advertisedPort : Option Nat) (proxy : Option ProxyConfig) :
    Async Connection := do
  match ← establishH3ConnectionWith0rtt session scheme host port advertisedHost advertisedPort proxy
    false with
  | .handshake connection => return connection
  | .zeroRtt _ =>
    throw (.invalidConfig "internal error: unexpected HTTP/3 0-RTT connection".toList)

end LkRequest.Client
