import LkRequest.Client.Sessions

/-!
# Routes of pooled connections

A pooled connection is found again by the key of an origin and the text of a proxy. The text leaves
out what tells some proxies apart, and a connection that fell back to no proxy at all is filed under
the key of its proxy. Where texts tell the proxies of a session apart and there is no such fallback,
every request goes through the proxies that it is configured with.
-/

namespace LkRequest.Client

open Library

/-! ## Requests on their routes -/

/-- The scheme, host and port that a URL asks for. -/
def Url.origin? (url : Url) : Option Origin :=
  match requestScheme url, url.host with
  | .ok scheme, some host =>
    some ⟨scheme, host, url.portOrKnownDefault.getD (if scheme = .https then 443 else 80)⟩
  | _, _ => none

/-- A transport was opened for the origin of the URL, and it goes through exactly the proxies of the
route. -/
def Transport.IsOn (transport : Transport) (proxy : Option ProxyConfig) (url : Url) : Prop :=
  url.origin? = some transport.origin ∧ transport.hops = routeHops proxy

/-- A request is sent over a transport of its origin and its route. -/
def Op.StaysOnRoute (proxy : Option ProxyConfig) : Op → Prop
  | .sendRequest connection request => connection.transport.IsOn proxy request.url
  | .h2Handshake transport (some first) => transport.IsOn proxy first.url
  | _ => True

instance {transport : Transport} {proxy : Option ProxyConfig} {url : Url} :
    Decidable (transport.IsOn proxy url) :=
  inferInstanceAs (Decidable (_ ∧ _))

instance {proxy : Option ProxyConfig} : DecidablePred (Op.StaysOnRoute proxy) := fun op => by
  induction op using Op.casesOn with
  | h2Handshake _ first =>
    induction first using Option.casesOn <;> dsimp only [Op.StaysOnRoute] <;> infer_instance
  | _ =>
    dsimp only [Op.StaysOnRoute]
    infer_instance

theorem ParsedTarget.Of.origin? {urls : UrlCrate} {text : Text} {proxy : Option ProxyConfig}
    {target : ParsedTarget} (htarget : target.Of urls text proxy) :
    target.url.origin? = some target.origin := by
  have hscheme : requestScheme target.url = .ok target.scheme := by
    rcases htarget.scheme with ⟨hurl, hscheme⟩ | ⟨hurl, hscheme⟩
    · rw [requestScheme, if_pos hurl, hscheme]
    · rw [requestScheme, if_neg (by rw [hurl]; decide), if_pos hurl, hscheme]
  rw [Url.origin?, hscheme, htarget.host]
  dsimp only
  rw [← htarget.port]
  rfl

/-! ## The proxies of a run -/

/-- The proxies that the calls of a run are configured with. A probe has the one of the call that
left it behind. -/
def UsesProxy (session : Session) (calls : Nat → Call) (proxy : Option ProxyConfig) : Prop :=
  ∃ index, (∀ probe, calls index ≠ .probe probe) ∧ (calls index).proxy session = proxy

/-- The keys of routes tell the proxies of the run apart. -/
def RoutesSeparated (session : Session) (calls : Nat → Call) : Prop :=
  ∀ first second, UsesProxy session calls first → UsesProxy session calls second →
    RouteKey.fromProxy first = RouteKey.fromProxy second → routeHops first = routeHops second

/-! ## The contract -/

/-- What is filed under a key: opened for its origin, through the proxies of every route that has
this key. -/
def FiledUnder (Proxy : Option ProxyConfig → Prop) (key : ConnectionKey) (transport : Transport) :
    Prop :=
  transport.origin = ⟨key.scheme, key.host, key.port⟩ ∧
    ∀ proxy, Proxy proxy → RouteKey.fromProxy proxy = key.route → transport.hops = routeHops proxy

def RoutedAnswer (Proxy : Option ProxyConfig → Prop) : (op : Op) → Ans op → Prop
  | .tryAcquire key _, found =>
    ∀ connection ∈ (found : Option Connection), FiledUnder Proxy key connection.transport
  | .tryAcquireH3 key, found =>
    ∀ connection ∈ (found : Option Connection), FiledUnder Proxy key connection.transport
  | _, _ => True

/-- What is demanded of a call through a proxy of the run. -/
def RoutedOp (Proxy : Option ProxyConfig → Prop) (proxy : Option ProxyConfig) (op : Op) : Prop :=
  Proxy proxy → op.StaysOnRoute proxy ∧
    (∀ key connection, op = .insert key connection → FiledUnder Proxy key connection.transport) ∧
    ∀ probe, op = .spawn probe → probe.Keyed ∧ probe.proxy = proxy

variable {stream : TcpStream} {origin : Origin}

theorem hops_transport : (origin.transport stream).hops = stream.hops := by
  rw [Origin.transport]
  cases origin.scheme with
  | http | https => rfl

theorem origin_transport : (origin.transport stream).origin = origin := by
  rw [Origin.transport]
  cases origin.scheme with
  | http | https => rfl

section Contract

variable {session : Session} {Proxy : Option ProxyConfig → Prop} {proxy : Option ProxyConfig}

theorem routedOp_of_isQuiet {op : Op} (hquiet : op.isQuiet) : RoutedOp Proxy proxy op := by
  intro _
  refine ⟨?_, fun key connection hinsert => ?_, fun probe hspawn => ?_⟩
  · cases op with
    | sendRequest connection request => cases hquiet
    | h2Handshake transport first =>
      cases first with
      | none => exact trivial
      | some request => cases hquiet
    | _ => exact trivial
  · rw [hinsert] at hquiet
    cases hquiet
  · rw [hspawn] at hquiet
    cases hquiet

/-- A hop whose URL is the one of its origin may be sent over what is filed under its key. -/
theorem FiledUnder.isOn {hop : RequestHop} {transport : Transport} (hproxy : Proxy proxy)
    (horigin : hop.target.url.origin? = some hop.target.origin) (hkeyed : hop.target.Keyed proxy)
    (hfiled : FiledUnder Proxy hop.target.key transport) : transport.IsOn proxy hop.target.url := by
  rw [hkeyed] at hfiled
  exact ⟨horigin.trans (congrArg some hfiled.1.symm), hfiled.2 proxy hproxy rfl⟩

variable (session Proxy)
  (hseparated : ∀ first second, Proxy first → Proxy second →
    RouteKey.fromProxy first = RouteKey.fromProxy second → routeHops first = routeHops second)
  (hdirect : session.fallback.proxyToDirect = false)

/-- The contract of routes. -/
def routeContract (proxy : Option ProxyConfig) : Contract session proxy where
  rely := RoutedAnswer Proxy
  guarantee := RoutedOp Proxy proxy
  Hop _ hop := hop.target.url.origin? = some hop.target.origin
  Carries key transport := Proxy proxy → FiledUnder Proxy key transport
  Advertised _ _ := True
  quiet _ hquiet := routedOp_of_isQuiet hquiet
  resolvesProxies _ _ _ _ _ := ⟨trivial, fun _ _ => Op.noConfusion, fun _ => Op.noConfusion⟩
  resolves _ _ _ _ := ⟨trivial, fun _ _ => Op.noConfusion, fun _ => Op.noConfusion⟩
  looksUp _ _ _ := ⟨trivial, fun _ _ => Op.noConfusion, fun _ => Op.noConfusion⟩
  opened scheme host port stream hopened hproxy := by
    refine ⟨origin_transport, fun other hother hroute => ?_⟩
    rw [hops_transport]
    rcases hopened with hhops | ⟨hfallback, -⟩
    · exact hhops.trans (hseparated proxy other hproxy hother hroute.symm)
    · rw [hdirect] at hfallback
      cases hfallback
  discovered _ _ _ _ _ := trivial
  dials _ _ _ _ _ _ _ _ _ := ⟨trivial, fun _ _ => Op.noConfusion, fun _ => Op.noConfusion⟩
  openedQuic scheme host port advertised serial relays target _ hrelays hproxy :=
    ⟨rfl, fun other hother hroute =>
      hrelays.trans (hseparated proxy other hproxy hother hroute.symm)⟩
  acquired _ _ _ _ connection hfound _ := hfound connection rfl
  acquiredH3 _ _ _ connection hfound _ := hfound connection rfl
  pooled scheme host port connection hcarries hproxy := by
    refine ⟨trivial, fun key inserted hinsert => ?_, fun _ => Op.noConfusion⟩
    cases hinsert
    exact hcarries hproxy
  probesQuic scheme host port discovery _ _ := by
    refine ⟨trivial, fun _ _ => Op.noConfusion, fun probe hspawn => ?_⟩
    cases hspawn
    exact ⟨⟨scheme, rfl⟩, rfl⟩
  probesTcp scheme host port version _ := by
    refine ⟨trivial, fun _ _ => Op.noConfusion, fun probe hspawn => ?_⟩
    cases hspawn
    exact ⟨rfl, rfl⟩
  sent request hop isH1 built connection hhop hkeyed hbuilt _ hcarries hproxy := by
    refine ⟨?_, fun _ _ => Op.noConfusion, fun _ => Op.noConfusion⟩
    show connection.transport.IsOn proxy built.url
    rw [hbuilt.url]
    exact (hcarries hproxy).isOn hproxy hhop hkeyed
  sentFirst request hop built transport hhop hkeyed hbuilt hcarries hproxy := by
    refine ⟨?_, fun _ _ => Op.noConfusion, fun _ => Op.noConfusion⟩
    show transport.IsOn proxy built.url
    rw [hbuilt.url]
    exact (hcarries hproxy).isOn hproxy hhop hkeyed

def routeContracts : Contracts session where
  Proxy := Proxy
  rely _ := RoutedAnswer Proxy
  guarantee _ := RoutedOp Proxy
  contract _ := routeContract session Proxy hseparated hdirect
  rely_eq _ _ := rfl
  guarantee_eq _ _ := rfl
  missed _ _ _ _ hfound := nomatch hfound
  missedH3 _ _ _ hfound := nomatch hfound
  found _ _ _ key version connection hproxy hinsert :=
    forall_mem_some ((hinsert hproxy).2.1 key connection rfl)
  foundH3 _ _ _ key connection hproxy hinsert :=
    forall_mem_some ((hinsert hproxy).2.1 key connection rfl)
  probes _ _ _ probe hproxy hspawn := by
    obtain ⟨hkeyed, hsame⟩ := (hspawn hproxy).2.2 probe rfl
    refine ⟨hsame ▸ hproxy, ?_⟩
    cases probe with
    | quic =>
      obtain ⟨scheme, hkey⟩ := hkeyed
      exact ⟨scheme, hkey, trivial⟩
    | tcp => exact hkeyed

end Contract

/-! ## Runs -/

/-- Along every run whose proxies the route keys tell apart, with the fallback to a direct
connection off, each request goes over a connection of its own origin, through exactly the proxies
of its call. -/
theorem requests_stay_on_route (session : Session) (calls : Nat → Call) (history : History)
    (hrun : SessionRun session calls history) (hseparated : RoutesSeparated session calls)
    (hdirect : session.fallback.proxyToDirect = false) :
    ∀ entry ∈ history, entry.2.1.StaysOnRoute ((calls entry.1).proxy session) := by
  intro entry hentry
  have hdemand := (routeContracts session _ hseparated hdirect).run_guarantee hrun ?_ ?_ entry
    hentry
  · exact (hdemand.2 hdemand.1).1
  · intro index hnone
    refine ⟨⟨index, hnone, rfl⟩, Contract.admits_ofHops rfl ?_ ?_⟩
    · exact fun _ _ _ htarget => htarget.origin?
    · exact fun probe hprobe => absurd hprobe (hnone probe)
  · intro entry hentry hasks
    obtain ⟨index, op, answer⟩ := entry
    cases op with
    | tryAcquire key version | tryAcquireH3 key => cases hasks
    | _ => exact trivial

/-- A proxy that knows its users by name and password. -/
def passwordProxy (password : Text) : ProxyConfig :=
  .single ⟨.http "p.example".toList 3128, some ⟨"user".toList, password⟩⟩

def routeSession : Session :=
  .plain (.ofTable [("http://a.example/".toList,
    ⟨"http".toList, [], none, some "a.example".toList, none, "/".toList, none, none⟩)])

/-- A request through the proxy with a password. -/
def passwordCall (password : Text) : Call :=
  .send { RequestBuilder.plain "GET".toList "http://a.example/".toList with
    proxyOverride := some (passwordProxy password) } 1

/-- The key of both requests, and the connection that the first one pools. -/
def passwordKey : ConnectionKey :=
  keyOf (some (passwordProxy "one".toList)) .http "a.example".toList 80

def passwordConnection : Connection :=
  ⟨.http11, ⟨.http, "a.example".toList, 80⟩,
    .plain ⟨1, "p.example".toList, 3128, ⟨[192, 0, 2, 1], 3128⟩,
      [⟨(passwordProxy "one".toList).final, .domain "a.example".toList 80⟩]⟩⟩

/-- A network whose pool has the connection of the first request. -/
def pooledNetwork : (op : Op) → Ans op
  | .tryAcquire key _ => if key = passwordKey then some passwordConnection else none
  | op => calmNetwork op

/-- Two requests through the proxy, with two passwords or with the same. -/
def passwordHistory (password : Text) : History :=
  turnHistory routeSession (passwordCall "one".toList) (passwordCall password)
    (fun _ => calmNetwork) fun _ => pooledNetwork

theorem passwordConnection_pooled :
    ((((passwordCall "one".toList).task routeSession).run (fun _ => calmNetwork) [] []).1.any
      fun event => match event.1 with
        | .insert key connection => key == passwordKey && connection == passwordConnection
        | _ => false) = true := by
  decide +kernel

theorem password_run (password : Text) :
    SessionRun routeSession (inTurn (passwordCall "one".toList) (passwordCall password))
      (passwordHistory password) := by
  apply SessionRun.turn
  · exact fun _ => Call.noConfusion
  · exact fun _ => Call.noConfusion
  · exact fun _ _ _ => rfl
  · exact fun _ _ => rfl
  · intro past key version connection hfound
    by_cases hkey : key = passwordKey
    · obtain ⟨event, hevent, hinsert⟩ := List.any_eq_true.mp passwordConnection_pooled
      refine ⟨event, hevent, ?_⟩
      rw [show pooledNetwork (.tryAcquire key version) = some passwordConnection from
        if_pos hkey] at hfound
      obtain rfl := Option.some.inj hfound
      split at hinsert
      · rename_i op inserted pooled hop
        rw [Bool.and_eq_true, beq_iff_eq, beq_iff_eq] at hinsert
        rw [hop, hinsert.1, hinsert.2, hkey]
      · cases hinsert
    · rw [show pooledNetwork (.tryAcquire key version) = none from if_neg hkey] at hfound
      exact nomatch hfound
  · exact fun _ _ => rfl

/-- The second request with the same password reuses the connection of the first. -/
theorem requests_stay_on_route_reused :
    ((passwordHistory "one".toList).any fun entry =>
        entry.1 == 1 && entry.2.1 matches .sendRequest ..) = true ∧
      ∀ entry ∈ passwordHistory "one".toList, entry.2.1.StaysOnRoute
        ((inTurn (passwordCall "one".toList) (passwordCall "one".toList) entry.1).proxy
          routeSession) := by
  have hproxy : ∀ proxy, UsesProxy routeSession
      (inTurn (passwordCall "one".toList) (passwordCall "one".toList)) proxy →
        proxy = some (passwordProxy "one".toList) := by
    rintro proxy ⟨index, -, rfl⟩
    rw [inTurn, ite_self]
    rfl
  constructor
  · decide +kernel
  · apply requests_stay_on_route _ _ _ (password_run "one".toList) _ rfl
    intro first second hfirst hsecond _
    rw [hproxy first hfirst, hproxy second hsecond]

/-- The second request goes through the tunnel that was opened with the password of the first. -/
theorem requests_share_passwords :
    SessionRun routeSession (inTurn (passwordCall "one".toList) (passwordCall "two".toList))
        (passwordHistory "two".toList) ∧
      ¬∀ entry ∈ passwordHistory "two".toList, entry.2.1.StaysOnRoute
        ((inTurn (passwordCall "one".toList) (passwordCall "two".toList) entry.1).proxy
          routeSession) :=
  ⟨password_run _, by decide +kernel⟩

end LkRequest.Client
