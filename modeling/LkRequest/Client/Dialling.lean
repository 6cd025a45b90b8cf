import LkRequest.Client.Keeps

/-!
# What opening a connection does

The names that are resolved when a stream or a QUIC connection is opened, the proxies that it then
goes through, and the name that its peer is authenticated for.
-/

namespace LkRequest.Client

open Library List Option
open Keeps (answered seq orThrow orFail)

variable {session : Session} {rely : (op : Op) → Ans op → Prop} {guarantee : Op → Prop}
  {route : RouteKey}

/-- The operations that no demand on a session is about. -/
def Op.isQuiet : Op → Bool
  | .resolve .. | .lookupHttps _ | .quicConnect _ | .h2Handshake _ (some _) | .sendRequest .. |
    .insert .. | .spawn _ => false
  | _ => true

/-- The hops of a route. -/
def routeHops : Option ProxyConfig → List Hop
  | none => []
  | some proxy => proxy.hops

theorem ProxyConfig.path_final (proxy : ProxyConfig) :
    proxy.path.map ProxyConfig.final = proxy.hops := by
  simp [ProxyConfig.path, ProxyConfig.hops]

theorem ProxyConfig.headD_path_mem (proxy : ProxyConfig) : proxy.path.headD proxy ∈ proxy.path := by
  rw [ProxyConfig.path]
  cases proxy.chain with
  | nil => exact mem_singleton.mpr rfl
  | cons first rest => exact mem_cons_self

variable {stream : TcpStream}

theorem TcpStream.hops_through (hop : Hop) {target : SocksTarget} :
    (stream.through hop target).hops = stream.hops ++ [hop] := by
  simp [TcpStream.hops, TcpStream.through]

/-- The names of the proxies of a route may be resolved. -/
def ResolvesHops (guarantee : Op → Prop) (proxies : List ProxyConfig) : Prop :=
  ∀ hop ∈ proxies, guarantee (.resolve hop.scheme.host hop.scheme.port)

/-! ## Streams -/

variable {proxies : List ProxyConfig}

section Streams

variable (hquiet : ∀ op, op.isQuiet → guarantee op)

include hquiet

variable {host : Text} {port : Nat} {proxy : ProxyConfig} {stream : TcpStream}
  {finalTarget : Option SocketAddr}

theorem keeps_connectTcpWithFingerprint (hresolve : guarantee (.resolve host port)) :
    (connectTcpWithFingerprint host port).Always rely guarantee
      (OnOk fun stream => stream.hops = []) := by
  apply always_ask hresolve
  intro resolved _
  cases resolved with
  | error reason => exact trivial
  | ok addresses =>
    dsimp only
    split
    · exact trivial
    · apply always_ask (hquiet _ rfl)
      intro dialled _
      cases dialled with
      | error reason => exact trivial
      | ok peer => exact rfl

theorem keeps_connectTcpToProxy (hresolve : guarantee (.resolve host port)) :
    Keeps rely guarantee (connectTcpToProxy host port) fun stream => stream.hops = [] := by
  apply Keeps.bind (.lift (keeps_connectTcpWithFingerprint hquiet hresolve))
  intro result hresult
  exact .orError hresult

variable {remoteDns : Bool}

omit hquiet in
theorem keeps_socks5SendTarget (hresolve : remoteDns = false → guarantee (.resolve host port)) :
    Meets rely guarantee (socks5SendTarget host port remoteDns) := by
  cases remoteDns with
  | true =>
    apply Keeps.ite
    · intro _
      apply Keeps.ite
      · exact fun _ => .throw
      · exact fun _ => .pure trivial
    · exact fun hfalse => absurd rfl hfalse
  | false =>
    apply answered (hresolve rfl)
    intro addresses
    cases addresses with
    | nil => exact .throw
    | cons address rest => exact .pure trivial

theorem keeps_negotiateOver
    (hresolve : proxy.scheme.isLocalDns = true → guarantee (.resolve host port)) :
    Keeps rely guarantee (negotiateOver proxy stream host port) fun opened =>
      opened.hops = stream.hops ++ [proxy.final] := by
  rw [negotiateOver]
  cases hscheme : proxy.scheme with
  | http proxyHost proxyPort =>
    apply answered (hquiet _ rfl)
    intro status
    apply Keeps.ite
    · exact fun _ => .pure (stream.hops_through _)
    · intro _
      exact .orThrow .throw
  | socks5 =>
    apply answered (hquiet _ rfl)
    intro _
    apply Keeps.bind (keeps_socks5SendTarget fun hlocal => hresolve (by
      rw [hscheme, hlocal]
      rfl))
    intro target _
    apply answered (hquiet _ rfl)
    intro _
    exact .pure (stream.hops_through _)

theorem keeps_negotiateOverAddress {target : SocketAddr} :
    Keeps rely guarantee (negotiateOverAddress proxy stream target) fun opened =>
      opened.hops = stream.hops ++ [proxy.final] := by
  apply seq .failIf
  apply answered (hquiet _ rfl)
  intro _
  apply answered (hquiet _ rfl)
  intro _
  exact .pure (stream.hops_through _)

theorem keeps_negotiateLast
    (hresolve : proxy.scheme.isLocalDns = true → guarantee (.resolve host port)) :
    Keeps rely guarantee (negotiateLast proxy stream finalTarget host port) fun opened =>
      opened.hops = stream.hops ++ [proxy.final] := by
  cases finalTarget with
  | some target => exact keeps_negotiateOverAddress hquiet
  | none => exact keeps_negotiateOver hquiet hresolve

/-- A chain of proxies is walked hop by hop: the last one may need the address of the target, the
others the address of the next proxy. -/
theorem keeps_negotiateHops (hproxies : ResolvesHops guarantee proxies)
    (hlast : ∀ last ∈ proxies.getLast?, last.scheme.isLocalDns = true →
      guarantee (.resolve host port)) :
    (negotiateHops finalTarget host port proxies stream).Always rely guarantee
      (OnOk fun opened => opened.hops = stream.hops ++ proxies.map ProxyConfig.final) := by
  induction proxies generalizing stream with
  | nil => exact (append_nil _).symm
  | cons hop rest ih =>
    cases rest with
    | nil =>
      apply Prog.always_bind.mpr
      apply Prog.Always.mono (keeps_negotiateLast hquiet (hlast hop rfl))
      intro result hresult
      cases result with
      | error error => exact trivial
      | ok opened => exact hresult
    | cons next rest =>
      apply Prog.always_bind.mpr
      apply Prog.Always.mono (keeps_negotiateOver hquiet fun _ => hproxies next (by simp))
      intro result hresult
      cases result with
      | error error => exact trivial
      | ok opened =>
        apply Prog.Always.mono (ih ((forall_mem_cons.mp hproxies).2)
          (fun last hmem => hlast last (by rwa [getLast?_cons_cons])))
        intro final hfinal
        cases final with
        | error error => exact trivial
        | ok final =>
          calc final.hops
              = opened.hops ++ (next :: rest).map ProxyConfig.final := hfinal
            _ = stream.hops ++ [hop.final] ++ (next :: rest).map ProxyConfig.final := by
              rw [show opened.hops = stream.hops ++ [hop.final] from hresult]
            _ = stream.hops ++ (hop :: next :: rest).map ProxyConfig.final := by simp

variable {failures : List Text}

section Single

variable {proxy : ProxyConfig} {host : Text} {port : Nat}
  (hproxy : guarantee (.resolve proxy.scheme.host proxy.scheme.port))

include hproxy

theorem keeps_connectHttp :
    Keeps rely guarantee (connectHttp proxy host port) fun stream =>
      stream.hops = [proxy.final] := by
  have hthrough : ∀ {stream : TcpStream} {target : SocksTarget}, stream.hops = [] →
      (stream.through proxy.final target).hops = [proxy.final] := by
    intro stream target hstream
    rw [TcpStream.hops_through, hstream, nil_append]
  apply Keeps.bind (keeps_connectTcpToProxy hquiet hproxy)
  intro stream hstream
  apply answered (hquiet _ rfl)
  intro answer
  apply Keeps.ite
  · exact fun _ => .pure (hthrough hstream)
  · intro _
    apply orThrow
    apply orThrow
    apply Keeps.bind (.attempt (keeps_connectTcpToProxy hquiet hproxy))
    intro retried hretried
    apply Keeps.bind (.orError hretried)
    intro stream hstream
    apply answered (hquiet _ rfl)
    intro answer
    exact .orThrow (.pure (hthrough hstream))

theorem keeps_connectSocks5Attempts {targets : List SocketAddr} :
    Keeps rely guarantee (connectSocks5Attempts session proxy targets failures) fun stream =>
      stream.hops = [proxy.final] := by
  induction targets generalizing failures with
  | nil => exact .throw
  | cons target targets ih =>
    apply Keeps.bind (keeps_connectTcpToProxy hquiet hproxy)
    intro stream hstream
    apply answered (hquiet _ rfl)
    intro _
    apply Keeps.bind (.quiet (hquiet _ rfl))
    intro answer _
    cases answer with
    | ok => exact .pure (by rw [TcpStream.hops_through, hstream, nil_append])
    | error error =>
      exact .orThrow ih

theorem keeps_connectSocks5 (htarget : remoteDns = false → guarantee (.resolve host port)) :
    Keeps rely guarantee (connectSocks5 session proxy host port remoteDns) fun stream =>
      stream.hops = [proxy.final] := by
  cases remoteDns with
  | true =>
    apply Keeps.bind (keeps_connectTcpToProxy hquiet hproxy)
    intro stream hstream
    apply answered (hquiet _ rfl)
    intro _
    apply Keeps.bind (keeps_socks5SendTarget fun hfalse => nomatch hfalse)
    intro target _
    apply answered (hquiet _ rfl)
    intro _
    exact .pure (by rw [TcpStream.hops_through, hstream, nil_append])
  | false =>
    apply answered (htarget rfl)
    intro _
    apply seq .failIf
    exact keeps_connectSocks5Attempts hquiet hproxy

end Single

variable (hproxies : ResolvesHops guarantee proxy.path)
  (htarget : proxy.scheme.isLocalDns = true → guarantee (.resolve host port))
include hproxies htarget

theorem keeps_connectChainAttempts {targets : List (Option SocketAddr)} :
    Keeps rely guarantee (connectChainAttempts session proxy host port targets failures)
      fun stream => stream.hops = proxy.hops := by
  induction targets generalizing failures with
  | nil => exact .throw
  | cons finalTarget targets ih =>
    apply Keeps.bind (keeps_connectTcpToProxy hquiet (hproxies _ proxy.headD_path_mem))
    intro stream hstream
    apply Keeps.bind (.lift (keeps_negotiateHops hquiet hproxies fun last hlast => by
      rw [ProxyConfig.path, getLast?_concat] at hlast
      obtain rfl := some.inj hlast
      exact htarget))
    intro result hresult
    rcases result with ⟨lastHop, error⟩ | opened
    · cases finalTarget with
      | none => exact .throw
      | some target =>
        exact .orThrow ih
    · apply Keeps.pure
      calc opened.hops
          = stream.hops ++ proxy.path.map ProxyConfig.final := hresult
        _ = proxy.hops := by rw [hstream, nil_append, proxy.path_final]

theorem keeps_connectChain :
    Keeps rely guarantee (connectChain session proxy host port) fun stream =>
      stream.hops = proxy.hops := by
  apply Keeps.ite
  · intro hlocal
    apply answered (htarget hlocal)
    intro _
    apply seq .failIf
    exact keeps_connectChainAttempts hquiet hproxies htarget
  · exact fun _ => keeps_connectChainAttempts hquiet hproxies htarget

/-- Only a proxy with local DNS asks for the address of the target. -/
theorem keeps_connect :
    Keeps rely guarantee (proxy.connect session host port) fun stream =>
      stream.hops = proxy.hops := by
  have hself : proxy ∈ proxy.path := mem_append_right _ (mem_singleton.mpr rfl)
  apply Keeps.ite
  · exact fun _ => keeps_connectChain hquiet hproxies htarget
  · intro hchain
    have hempty : proxy.chain = [] := by simpa using hchain
    have hhops : proxy.hops = [proxy.final] := by
      rw [ProxyConfig.hops, hempty]
      rfl
    rw [hhops]
    cases hscheme : proxy.scheme with
    | http proxyHost proxyPort => exact keeps_connectHttp hquiet (hproxies proxy hself)
    | socks5 =>
      apply keeps_connectSocks5 hquiet (hproxies proxy hself)
      intro hlocal
      exact htarget (by rw [hscheme, hlocal]; rfl)

end Streams

/-! ## Connections over TCP -/

variable {proxy : ProxyConfig}

theorem proxyUsesRemoteDns_of_isLocalDns (hlocal : proxy.scheme.isLocalDns = true) :
    proxyUsesRemoteDns (some proxy) = false := by
  obtain ⟨⟨scheme, auth⟩, chain⟩ := proxy
  cases scheme with
  | http proxyHost proxyPort => exact nomatch hlocal
  | socks5 proxyHost proxyPort remoteDns =>
    cases remoteDns with
    | true => exact nomatch hlocal
    | false => rfl

/-- A stream that was opened for a route: through all of its proxies, or through none if the
fallback to a direct connection was taken. -/
def TcpStream.Opened (proxy : Option ProxyConfig) (fallback : Bool) (stream : TcpStream) : Prop :=
  stream.hops = routeHops proxy ∨ fallback = true ∧ stream.hops = []

/-- The transport that is opened over a stream for an origin. -/
def Origin.transport (origin : Origin) (stream : TcpStream) : Transport :=
  match origin.scheme with
  | .https => ⟨origin, .tls stream origin.host⟩
  | .http => ⟨origin, .plain stream⟩

variable {isRemoteDns : Bool}

section Connections

variable {proxy : Option ProxyConfig} {host : Text} {port : Nat} {config : ConnectConfig}
  (hquiet : ∀ op, op.isQuiet → guarantee op)
  (hproxies : ∀ config, proxy = some config → ResolvesHops guarantee config.path)

include hquiet

theorem keeps_connectTcpDirect (htarget : guarantee (.resolve host port)) :
    Keeps rely guarantee (connectTcpDirect session host port) fun stream => stream.hops = [] := by
  apply Keeps.bind (.withTimeout (.lift (keeps_connectTcpWithFingerprint hquiet htarget)))
  intro result hresult
  exact .orError hresult

theorem keeps_proxyTimeout : Meets rely guarantee (proxyTimeout session config) := by
  apply Keeps.ite
  · intro _
    apply Keeps.bind (.quiet (hquiet _ rfl))
    intro _ _
    exact .pure trivial
  · exact fun _ => .pure trivial

include hproxies

/-- The target's name is resolved on routes with local DNS, and when the fallback to a direct
connection is taken. -/
theorem keeps_connectTcp
    (htarget : proxyUsesRemoteDns proxy = false ∨ config.proxyToDirectFallback = true →
      guarantee (.resolve host port)) :
    Keeps rely guarantee (connectTcp session host port proxy config)
      (TcpStream.Opened proxy config.proxyToDirectFallback) := by
  cases proxy with
  | none =>
    apply Keeps.mono (keeps_connectTcpDirect hquiet (htarget (.inl rfl)))
    intro stream hstream
    exact .inl hstream
  | some proxy =>
    have hlocal : proxy.scheme.isLocalDns = true → guarantee (.resolve host port) := by
      intro hlocal
      exact htarget (.inl (proxyUsesRemoteDns_of_isLocalDns hlocal))
    apply Keeps.bind (keeps_proxyTimeout hquiet)
    intro timeout _
    apply Keeps.bind (.attempt (.withTimeout (keeps_connect hquiet (hproxies proxy rfl) hlocal)))
    intro result hresult
    cases result with
    | ok stream => exact .pure (.inl hresult)
    | error error =>
      apply Keeps.ite
      · intro hfallback
        apply Keeps.mono (keeps_connectTcpDirect hquiet (htarget (.inr hfallback)))
        intro stream hstream
        exact .inr ⟨hfallback, hstream⟩
      · exact fun _ => .throw

omit hquiet hproxies in
theorem keeps_echConfigFor (hlookup : isRemoteDns = false → guarantee (.lookupHttps host)) :
    Meets rely guarantee (echConfigFor session host isRemoteDns) := by
  rw [echConfigFor]
  split
  · exact .pure trivial
  · apply Keeps.ite
    · exact fun _ => .pure trivial
    · intro hremote
      apply Keeps.bind (.quiet (hlookup (Bool.eq_false_iff.mpr hremote)))
      intro _ _
      exact .pure trivial

/-- What is opened for a host over TCP. -/
theorem keeps_establishConnection
    (htarget : proxyUsesRemoteDns proxy = false ∨ config.proxyToDirectFallback = true →
      guarantee (.resolve host port))
    (hlookup : proxyUsesRemoteDns proxy = false → guarantee (.lookupHttps host)) :
    Keeps rely guarantee (establishConnection session host port proxy config) fun established =>
      ∃ stream : TcpStream, stream.Opened proxy config.proxyToDirectFallback ∧
        established.transport = Origin.transport ⟨config.scheme, host, port⟩ stream := by
  apply Keeps.bind (keeps_connectTcp hquiet hproxies htarget)
  intro stream hstream
  cases config.scheme with
  | http => exact .pure ⟨stream, hstream, rfl⟩
  | https =>
    have htls : Keeps rely guarantee (buildTlsConnector session config host port
        (proxyUsesRemoteDns proxy)) fun tls => tls.serverName = host := by
      apply Keeps.bind (keeps_echConfigFor hlookup)
      intro ech _
      exact .pure rfl
    apply Keeps.bind htls
    intro tls hname
    apply Keeps.bind (.withTimeout (.quiet (hquiet _ rfl)))
    intro answer _
    apply orFail
    intro alpn
    exact .pure ⟨stream, hstream, by rw [hname]; rfl⟩

end Connections

/-! ## QUIC connections -/

variable {host : Text} {port : Nat}

section Relays

variable (hquiet : ∀ op, op.isQuiet → guarantee op)

include hquiet

theorem keeps_tunnelTo (hproxies : ResolvesHops guarantee proxies) :
    Meets rely guarantee (tunnelTo proxies stream) := by
  induction proxies generalizing stream with
  | nil => exact .pure trivial
  | cons hop rest ih =>
    cases rest with
    | nil => exact .pure trivial
    | cons next rest =>
      apply Keeps.bind (keeps_negotiateOver hquiet fun _ => hproxies next (by simp))
      intro opened _
      exact ih (forall_mem_cons.mp hproxies).2

theorem keeps_controlConnection {message : Text → Text}
    (hresolve : guarantee (.resolve host port)) :
    Meets rely guarantee (controlConnection host port message) := by
  apply Keeps.bind (.attempt (keeps_connectTcpToProxy hquiet hresolve))
  intro result _
  exact .orError (OnOk.trivial _)

theorem keeps_associateHops {first : ProxyConfig} {before rest : List ProxyConfig}
    (hfirst : guarantee (.resolve first.scheme.host first.scheme.port))
    (hproxies : ResolvesHops guarantee (before ++ rest)) :
    Keeps rely guarantee (associateHops session first before rest) fun relays =>
      relays.map Tunnel.hop = rest.map ProxyConfig.final := by
  induction rest generalizing before with
  | nil => exact .pure rfl
  | cons hop rest ih =>
    have hassoc : before ++ [hop] ++ rest = before ++ hop :: rest := by simp
    apply Keeps.bind (keeps_controlConnection hquiet hfirst)
    intro stream _
    apply Keeps.bind (keeps_tunnelTo hquiet fun hop hhop => hproxies hop (by
      rw [← hassoc]
      exact mem_append_left _ hhop))
    intro stream _
    apply answered (hquiet _ rfl)
    intro _
    apply answered (hquiet _ rfl)
    intro raw
    apply Keeps.bind (ih (by rwa [hassoc]))
    intro relays hrelays
    exact .pure (congrArg (hop.final :: ·) hrelays)

theorem keeps_udpAssociate (hproxies : ResolvesHops guarantee proxy.path) :
    Keeps rely guarantee (udpAssociate session proxy) fun relays =>
      relays.map Tunnel.hop = proxy.hops := by
  apply Keeps.ite
  · intro _
    rw [udpAssociateChain]
    split
    · exact .throw
    · rw [← proxy.path_final]
      exact keeps_associateHops hquiet (hproxies _ proxy.headD_path_mem) hproxies
  · intro hchain
    have hempty : proxy.chain = [] := by simpa using hchain
    have hself : proxy ∈ proxy.path := mem_append_right _ (mem_singleton.mpr rfl)
    apply Keeps.bind (keeps_controlConnection hquiet (hproxies proxy hself))
    intro stream _
    apply answered (hquiet _ rfl)
    intro _
    apply answered (hquiet _ rfl)
    intro raw
    apply Keeps.pure
    rw [ProxyConfig.hops, hempty]
    rfl

end Relays

section Quic

variable {proxy : Option ProxyConfig} {scheme : Scheme} {host : Text} {port : Nat}
  {advertisedHost : Option Text} {advertisedPort : Option Nat}
  (hquiet : ∀ op, op.isQuiet → guarantee op) {dial : QuicDial}

include hquiet

omit hquiet in
theorem keeps_quicHandshake (hdial : guarantee (.quicConnect dial)) :
    Keeps rely guarantee (quicHandshake session dial) fun result =>
      ∃ serial, result.1 = dial.transport serial := by
  apply Keeps.bind (.withTimeout (.quiet hdial))
  intro answer _
  apply orFail
  intro opened
  exact .pure ⟨opened.1, rfl⟩

theorem keeps_h3Setup {transport : Transport} {timeout : Error} {message : Text} :
    Keeps rely guarantee (h3Setup transport timeout message) fun connection =>
      connection = ⟨.h3, transport⟩ := by
  apply Keeps.bind (.withTimeout (.quiet (hquiet _ rfl)))
  intro answer _
  apply orFail
  intro _
  exact .pure rfl

omit hquiet in
theorem keeps_resolveDialHost (htarget : isRemoteDns = false → guarantee (.resolve host port)) :
    Meets rely guarantee (resolveDialHost host port isRemoteDns) := by
  apply Keeps.ite
  · exact fun _ => .pure trivial
  · intro hremote
    apply answered (htarget (Bool.eq_false_iff.mpr hremote))
    intro addresses
    cases addresses with
    | nil => exact .throw
    | cons address rest => exact .pure trivial

theorem keeps_connectQuicViaSocks5 {config : ProxyConfig}
    (hproxies : ResolvesHops guarantee config.path)
    (hdial : ∀ relays, guarantee (.quicConnect { dial with relays := relays })) :
    Keeps rely guarantee (connectQuicViaSocks5 session config dial) fun transport =>
      ∃ serial relays, relays.map Tunnel.hop = config.hops ∧
        transport = ⟨dial.origin, .quic serial relays dial.target dial.tls.serverName⟩ := by
  apply Keeps.bind (.attempt (.withTimeout (keeps_udpAssociate hquiet hproxies)))
  intro associated hassociated
  cases associated with
  | error error =>
    apply seq (.quiet (hquiet _ rfl))
    exact .throw
  | ok relays =>
    apply Keeps.bind (keeps_quicHandshake (hdial relays))
    rintro ⟨transport, zeroRtt⟩ ⟨serial, rfl⟩
    exact .pure ⟨serial, relays, hassociated, rfl⟩

/-- What is opened for a host over QUIC: through all proxies of the route, and authenticated for
the advertised host if there is one. -/
theorem keeps_establishH3ConnectionWith0rtt {allow0rtt : Bool}
    (hproxies : ∀ config, proxy = some config → ResolvesHops guarantee config.path)
    (htarget : proxyUsesRemoteDns proxy = false →
      guarantee (.resolve (advertisedHost.getD host) (advertisedPort.getD port)))
    (hdial : ∀ dial : QuicDial, dial.origin = ⟨scheme, host, port⟩ →
      dial.tls.serverName = advertisedHost.getD host → guarantee (.quicConnect dial)) :
    Keeps rely guarantee (establishH3ConnectionWith0rtt session scheme host port advertisedHost
      advertisedPort proxy allow0rtt) fun
        | .handshake connection | .zeroRtt connection => ∃ serial relays target,
          relays.map Tunnel.hop = routeHops proxy ∧ connection.transport =
            ⟨⟨scheme, host, port⟩, .quic serial relays target (advertisedHost.getD host)⟩ := by
  apply seq .failIf
  apply Keeps.bind (keeps_resolveDialHost htarget)
  intro remoteAddr _
  apply orFail
  intro _
  cases proxy with
  | some config =>
    cases hscheme : config.scheme with
    | http proxyHost proxyPort =>
      simp only [hscheme]
      exact .throw
    | socks5 =>
      simp only [hscheme]
      apply Keeps.bind (keeps_connectQuicViaSocks5 hquiet (hproxies config rfl)
        fun relays => hdial _ rfl rfl)
      rintro transport ⟨serial, relays, hrelays, rfl⟩
      apply Keeps.bind (keeps_h3Setup hquiet)
      rintro connection rfl
      exact .pure ⟨serial, relays, _, hrelays, rfl⟩
  | none =>
    cases remoteAddr with
    | none => exact .throw
    | some address =>
      apply Keeps.bind (keeps_quicHandshake (hdial _ rfl rfl))
      rintro ⟨transport, zeroRtt⟩ ⟨serial, rfl⟩
      apply Keeps.ite
      all_goals
        intro _
        apply Keeps.bind (keeps_h3Setup hquiet)
        rintro connection rfl
        exact .pure ⟨serial, [], _, rfl, rfl⟩

end Quic

/-! ## Discovery -/

/-- The host that discovery names: none, the one of a cached `Alt-Svc` header, or the target of the
HTTPS record. -/
def Discovered (rely : (op : Op) → Ans op → Prop) (route : RouteKey) (origin : Origin)
    (advertisedHost : Option Text) : Prop :=
  advertisedHost = none ∨
    (∃ learned : LearnedProtocolState, rely (.learnedState route origin) learned ∧
      ∃ entry, learned.altSvc = some entry ∧ advertisedHost = entry.host) ∨
    ∃ record : HttpsRecord, rely (.lookupHttps origin.host) (some record) ∧
      advertisedHost = record.target

theorem QuicDiscovery.assemble_advertisedHost {origin : Origin}
    {isHttpProxy force routeBroken : Bool} {learned : LearnedProtocolState}
    {record : Option HttpsRecord} :
    (assemble route origin isHttpProxy force learned record routeBroken).advertisedHost =
      match learned.altSvc with
      | some entry => entry.host
      | none => (record.filter HttpsRecord.supportsH3).bind HttpsRecord.target := by
  rw [assemble]
  cases learned.altSvc with
  | some entry => rfl
  | none =>
    cases record.filter HttpsRecord.supportsH3 with
    | none => rfl
    | some record => rfl

theorem keeps_dnsHttpsRecord (hlookup : route.dnsMode = .localDns → guarantee (.lookupHttps host)) :
    (dnsHttpsRecord route host).Always rely guarantee fun record =>
      ∀ found, record = some found → rely (.lookupHttps host) (some found) := by
  rw [dnsHttpsRecord]
  split
  · refine ⟨hlookup ‹_›, fun answer hanswer => ?_⟩
    rintro found rfl
    exact hanswer
  · rintro found hfound
    exact nomatch hfound

theorem keeps_discoverQuicSupport {scheme : Scheme} {proxy : Option ProxyConfig}
    {policy : ProtocolPolicy} {version : PreferredHttpVersion}
    (hquiet : ∀ op, op.isQuiet → guarantee op)
    (hlookup : proxyUsesRemoteDns proxy = false → guarantee (.lookupHttps host)) :
    (discoverQuicSupport session scheme host port proxy policy version).Always rely guarantee
      fun discovery => Discovered rely (.fromProxy proxy) ⟨scheme, host, port⟩
        discovery.advertisedHost := by
  have hrecord : (dnsHttpsRecord (.fromProxy proxy) host).Always rely guarantee fun record =>
      ∀ found, record = some found → rely (.lookupHttps host) (some found) :=
    keeps_dnsHttpsRecord fun hlocal => hlookup (by rw [proxyUsesRemoteDns, hlocal]; rfl)
  unfold discoverQuicSupport
  extract_lets origin route
  split
  · exact .inl rfl
  split
  · exact .inl rfl
  split
  · exact .inl rfl
  apply always_ask (hquiet _ rfl)
  intro learned hlearned
  apply Prog.always_bind.mpr
  apply Prog.Always.mono hrecord
  intro record hrecord
  apply always_ask (hquiet _ rfl)
  intro routeBroken _
  apply Prog.always_pure.mpr
  rw [QuicDiscovery.assemble_advertisedHost]
  cases hcached : learned.altSvc with
  | some entry => exact .inr (.inl ⟨learned, hlearned, entry, hcached, rfl⟩)
  | none =>
    cases hfound : record.filter HttpsRecord.supportsH3 with
    | none => exact .inl rfl
    | some found =>
      exact .inr (.inr ⟨found, hrecord found (filter_eq_some_iff.mp hfound).1, rfl⟩)

end LkRequest.Client
