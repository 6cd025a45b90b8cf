import LkRequest.Client.Dialling
import LkRequest.Client.HeaderFacts

/-!
# Contracts of the pipeline

A `Contract` says what is demanded of the operations of a call, and what is known about the
connections that the call opens, finds in the pool and pools again. Its fields are the obligations
of the leaves of the pipeline. The lemmas of this file walk through the pipeline once, so that every
call of a session keeps to every contract.
-/

namespace LkRequest.Client

open Library

/-! ## Requests as they are built -/

/-- The values of the `Content-Length` header for a body. -/
def lengthHeader : Option Bytes → List Text
  | some data => [Text.ofNat data.length]
  | none => []

/-- A request as the senders build it for a hop. The HTTP/1.1 senders measure the body of the
builder, the others the body of the hop. -/
structure Built (session : Session) (request : RequestBuilder) (hop : RequestHop) (isH1 : Bool)
    (built : HttpRequest) : Prop where
  url : built.url = hop.target.url
  body : built.body.getD [] = hop.body.getD []
  lengths : ∀ value, built.headers.Has "content-length".toList value →
    session.defaultHeaders.Has "content-length".toList value ∨
      hop.headers.Has "content-length".toList value ∨
        value ∈ lengthHeader (if isH1 then request.body else hop.body)

/-! ## Contracts -/

/-- The key of an origin on the route of a proxy. -/
def keyOf (proxy : Option ProxyConfig) (scheme : Scheme) (host : Text) (port : Nat) :
    ConnectionKey :=
  ⟨scheme, host, port, .fromProxy proxy⟩

/-- The key of a target is the one of its origin on the route of the proxy. -/
def ParsedTarget.Keyed (proxy : Option ProxyConfig) (target : ParsedTarget) : Prop :=
  target.key = keyOf proxy target.scheme target.host target.port

variable {proxy : Option ProxyConfig} {target : ParsedTarget}

theorem ParsedTarget.Keyed.scheme (hkeyed : target.Keyed proxy) :
    target.key.scheme = target.scheme := by
  rw [hkeyed]
  rfl

/-- A target as it was parsed from the text of a URL. -/
structure ParsedTarget.Of (urls : UrlCrate) (text : Text) (proxy : Option ProxyConfig)
    (target : ParsedTarget) : Prop where
  parsed : urls.parse text = .ok target.url
  scheme : target.url.scheme = "https".toList ∧ target.scheme = .https ∨
    target.url.scheme = "http".toList ∧ target.scheme = .http
  host : target.url.host = some target.host
  port : target.port =
    target.url.portOrKnownDefault.getD (if target.scheme = .https then 443 else 80)
  keyed : target.Keyed proxy

theorem requestScheme_ok {url : Url} {scheme : Scheme} (hscheme : requestScheme url = .ok scheme) :
    url.scheme = "https".toList ∧ scheme = .https ∨
      url.scheme = "http".toList ∧ scheme = .http := by
  revert hscheme
  fun_cases requestScheme with
  | case1 hhttps =>
    rintro ⟨⟩
    exact .inl ⟨hhttps, rfl⟩
  | case2 _ hhttp =>
    rintro ⟨⟩
    exact .inr ⟨hhttp, rfl⟩
  | case3 => exact nofun

variable {text : Text}

theorem parseRequestTarget_ok {urls : UrlCrate}
    (htarget : parseRequestTarget urls text proxy = .ok target) : target.Of urls text proxy := by
  revert htarget
  fun_cases parseRequestTarget with
  | case4 url hparse scheme hscheme host hhost =>
    rintro ⟨⟩
    exact ⟨hparse, requestScheme_ok hscheme, hhost, rfl, rfl⟩
  | _ => exact nofun

/-- What is demanded of a call through `proxy`. -/
structure Contract (session : Session) (proxy : Option ProxyConfig) where
  rely : (op : Op) → Ans op → Prop
  guarantee : Op → Prop
  /-- The hops that may be sent. -/
  Hop : RequestBuilder → RequestHop → Prop
  /-- The transports that may carry requests under a key. -/
  Carries : ConnectionKey → Transport → Prop
  /-- The hosts that discovery may name for a key. -/
  Advertised : ConnectionKey → Option Text → Prop
  quiet : ∀ op, op.isQuiet → guarantee op
  resolvesProxies : ∀ config, proxy = some config → ∀ hop ∈ config.path,
    guarantee (.resolve hop.scheme.host hop.scheme.port)
  resolves : proxyUsesRemoteDns proxy = false ∨ session.fallback.proxyToDirect = true →
    ∀ host port, guarantee (.resolve host port)
  looksUp : proxyUsesRemoteDns proxy = false → ∀ host, guarantee (.lookupHttps host)
  opened : ∀ scheme host port stream, TcpStream.Opened proxy session.fallback.proxyToDirect stream →
    Carries (keyOf proxy scheme host port) (Origin.transport ⟨scheme, host, port⟩ stream)
  discovered : ∀ scheme host port advertisedHost,
    Discovered rely (.fromProxy proxy) ⟨scheme, host, port⟩ advertisedHost →
      Advertised (keyOf proxy scheme host port) advertisedHost
  dials : ∀ scheme host port advertisedHost dial,
    Advertised (keyOf proxy scheme host port) advertisedHost → dial.origin = ⟨scheme, host, port⟩ →
      dial.tls.serverName = advertisedHost.getD host → guarantee (.quicConnect dial)
  openedQuic : ∀ scheme host port advertisedHost serial relays target,
    Advertised (keyOf proxy scheme host port) advertisedHost →
      relays.map Tunnel.hop = routeHops proxy → Carries (keyOf proxy scheme host port)
        ⟨⟨scheme, host, port⟩, .quic serial relays target (advertisedHost.getD host)⟩
  acquired : ∀ scheme host port version connection,
    rely (.tryAcquire (keyOf proxy scheme host port) version) (some connection) →
      Carries (keyOf proxy scheme host port) connection.transport
  acquiredH3 : ∀ scheme host port connection,
    rely (.tryAcquireH3 (keyOf proxy scheme host port)) (some connection) →
      Carries (keyOf proxy scheme host port) connection.transport
  pooled : ∀ scheme host port connection,
    Carries (keyOf proxy scheme host port) connection.transport →
      guarantee (.insert (keyOf proxy scheme host port) connection)
  probesQuic : ∀ scheme host port discovery,
    Advertised (keyOf proxy scheme host port) discovery.advertisedHost →
      guarantee (.spawn (.quic host port (keyOf proxy scheme host port) discovery proxy))
  probesTcp : ∀ scheme host port version,
    guarantee (.spawn (.tcp host port scheme (keyOf proxy scheme host port) proxy version))
  sent : ∀ request hop isH1 built connection, Hop request hop → hop.target.Keyed proxy →
    Built session request hop isH1 built → (isH1 → connection.version = .http11) →
      Carries hop.target.key connection.transport → guarantee (.sendRequest connection built)
  sentFirst : ∀ request hop built transport, Hop request hop → hop.target.Keyed proxy →
    Built session request hop false built → Carries hop.target.key transport →
      guarantee (.h2Handshake transport (some built))

namespace Contract

variable {session : Session} {proxy : Option ProxyConfig} (contract : Contract session proxy)

/-- The code keeps to the contract. -/
abbrev Keeps {α : Type} (code : Async α) (post : α → Prop) : Prop :=
  Client.Keeps contract.rely contract.guarantee code post

/-- The code keeps to the contract, whatever it returns. -/
abbrev Meets {α : Type} (code : Async α) : Prop :=
  Client.Meets contract.rely contract.guarantee code

variable {contract}

theorem keeps_quiet {op : Op} (hquiet : op.isQuiet = true) : contract.Meets (perform op) :=
  .quiet (contract.quiet op hquiet)

/-! ## Building -/

section Build

variable {request : RequestBuilder} {hop : RequestHop} {initial : HeaderMap} {body : Option Bytes}
  {value uri : Text}

theorem lengthHeader_of_autoInsert
    (hhas : (autoInsertContentLength initial body).Has "content-length".toList value)
    (hinitial : ¬initial.Has "content-length".toList value) : value ∈ lengthHeader body := by
  cases body with
  | none => exact absurd hhas hinitial
  | some data =>
    rw [autoInsertContentLength] at hhas
    split at hhas
    · exact absurd hhas hinitial
    · obtain ⟨-, rfl⟩ := hhas.of_insertText.resolve_left hinitial
      exact List.mem_singleton.mpr rfl

theorem not_has_nil {name : Text} : ¬HeaderMap.Has [] name value := by
  rintro ⟨entry, hentry, -⟩
  cases hentry

theorem not_has_priority :
    ¬HeaderMap.Has (HeaderMap.insertText [] "priority".toList text) "content-length".toList
      value := by
  intro hhas
  rcases hhas.of_insertText with hnil | ⟨hname, -⟩
  · exact not_has_nil hnil
  · cases hname

/-- A request whose first headers measure the right body. -/
theorem keeps_mergedRequest {isH1 : Bool} {order : List Text}
    (hbody : body.getD [] = hop.body.getD [])
    (hinitial : ∀ value, initial.Has "content-length".toList value →
      value ∈ lengthHeader (if isH1 then request.body else hop.body)) :
    contract.Keeps (mergedRequest session request hop initial isH1 order uri body)
      (Built session request hop isH1) := by
  apply Client.Keeps.bind (keeps_quiet rfl)
  intro jar _
  apply Client.Keeps.pure
  refine ⟨rfl, hbody, fun value hhas => ?_⟩
  rcases hhas.of_mergeHeadersCommon (by decide) (by decide) with hhas | hdefault | hextra
  · exact .inr (.inr (hinitial value hhas))
  · exact .inl hdefault
  · exact .inr (.inl hextra)

theorem keeps_checkUri {error : Text → Error} : contract.Meets (checkUri session uri error) := by
  rw [checkUri]
  split
  · exact .throw
  · exact .pure trivial

theorem not_has_h2Priority :
    ¬(h2PriorityHeaders session request hop).Has "content-length".toList value := by
  rw [h2PriorityHeaders]
  split
  · exact not_has_priority
  · exact not_has_nil

theorem not_has_h3Priority :
    ¬(h3PriorityHeaders session request hop).Has "content-length".toList value := by
  rw [h3PriorityHeaders]
  split
  · exact not_has_priority
  · exact not_has_nil

theorem keeps_buildH2Request :
    contract.Keeps (buildH2Request session request hop) (Built session request hop false) := by
  apply Client.Keeps.seq keeps_checkUri
  exact keeps_mergedRequest rfl fun value hhas =>
    lengthHeader_of_autoInsert hhas not_has_h2Priority

theorem keeps_buildH2StreamingRequest :
    contract.Keeps (buildH2StreamingRequest session request hop)
      (Built session request hop false) := by
  apply Client.Keeps.seq keeps_checkUri
  exact keeps_mergedRequest rfl fun value hhas => lengthHeader_of_autoInsert hhas not_has_nil

theorem keeps_buildH2RequestForPreface :
    contract.Keeps (buildH2RequestForPreface session request hop)
      (Built session request hop false) := by
  refine Client.Keeps.bind (keeps_mergedRequest rfl fun value hhas => ?_) fun built hbuilt =>
    Client.Keeps.bind keeps_checkUri fun _ _ => .pure hbuilt
  split at hhas
  · rcases hhas.of_insertText with hhas | ⟨hname, -⟩
    · exact lengthHeader_of_autoInsert hhas not_has_nil
    · cases hname
  · exact lengthHeader_of_autoInsert hhas not_has_nil

theorem keeps_buildH3Request :
    contract.Keeps (buildH3Request session request hop) (Built session request hop false) := by
  apply Client.Keeps.seq keeps_checkUri
  exact keeps_mergedRequest rfl fun value hhas =>
    lengthHeader_of_autoInsert hhas not_has_h3Priority

theorem keeps_buildH1Request :
    contract.Keeps (buildH1Request session request hop request.body)
      (Built session request hop true) := by
  apply Client.Keeps.seq keeps_checkUri
  refine keeps_mergedRequest ?_ fun value hhas => lengthHeader_of_autoInsert hhas not_has_nil
  rw [Option.getD_some]

end Build

end Contract

end LkRequest.Client
