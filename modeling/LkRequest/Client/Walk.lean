import LkRequest.Client.Contract

/-!
# The walk through the pipeline

Every part of the pipeline keeps to a contract, from the senders up to whole calls.
-/

namespace LkRequest.Client

open Library
open Keeps (orFail seq answered recover)

namespace Contract

variable {session : Session} {proxy : Option ProxyConfig} {contract : Contract session proxy}
  {transport : Transport}

/-! ## Senders -/

variable {connection : Connection} {errors : SenderErrors}

theorem keeps_exchange {built : HttpRequest}
    (hsent : contract.guarantee (.sendRequest connection built)) :
    contract.Meets (exchange errors connection built) := by
  apply Keeps.bind (.quiet hsent)
  intro sent _
  cases sent with
  | error failure => cases failure <;> exact .throw
  | ok _ => exact .checked (contract.quiet _ rfl)

variable {target : ParsedTarget}

theorem keeps_storeResponseState {route : Option ProxyConfig} {headers : HeaderMap} :
    contract.Meets (storeResponseState session route target headers) := by
  apply orFail
  intro _
  apply seq (.runIf fun _ => keeps_quiet rfl)
  exact .runIf fun _ => keeps_quiet rfl

theorem keeps_readBody {error : Text → Error} : contract.Meets (readBody connection error) := by
  apply Keeps.bind (keeps_quiet rfl)
  intro outcome _
  cases outcome with
  | complete data => exact .pure trivial
  | failed reason | refused error => exact .throw

theorem keeps_makeResponse {noDecompress : Bool} {head : ResponseHead} {body : Bytes}
    {version : HttpVersion} :
    contract.Meets (makeResponse session noDecompress head body version) := by
  apply orFail
  intro _
  exact .pure trivial

/-- A transport that carries requests under the key of a target may be pooled under it. -/
theorem pooled_target (hkeyed : target.Keyed proxy)
    (hcarries : contract.Carries target.key connection.transport) :
    contract.guarantee (.insert target.key connection) := by
  rw [hkeyed] at hcarries ⊢
  exact contract.pooled _ _ _ connection hcarries

section Hop

variable {request : RequestBuilder} {hop : RequestHop} {head : ResponseHead}

theorem keeps_receive : contract.Meets (receive session request hop errors connection head) := by
  apply seq keeps_storeResponseState
  apply Keeps.bind keeps_readBody
  intro _ _
  exact keeps_makeResponse

theorem keeps_receiveStreaming : contract.Meets (receiveStreaming session request hop head) := by
  apply seq keeps_storeResponseState
  exact .pure trivial

variable {connection : Connection} (hhop : contract.Hop request hop)
  (hkeyed : hop.target.Keyed proxy)

include hhop hkeyed

variable (hcarries : contract.Carries hop.target.key connection.transport)
include hcarries

/-- A request is built, exchanged for the head of a response, and the response received. -/
theorem keeps_sendBuilt {α : Type} {isH1 : Bool} {build : Async HttpRequest}
    {rest : ResponseHead → Async α} (hbuild : contract.Keeps build (Built session request hop isH1))
    (hversion : isH1 → connection.version = .http11) (hrest : ∀ head, contract.Meets (rest head)) :
    contract.Meets (do rest (← exchange errors connection (← build))) := by
  apply Keeps.bind hbuild
  intro built hbuilt
  apply Keeps.bind (keeps_exchange
    (contract.sent request hop isH1 built connection hhop hkeyed hbuilt hversion hcarries))
  intro head _
  exact hrest head

theorem keeps_sendH2Request : contract.Meets (sendH2Request session request hop connection) :=
  keeps_sendBuilt hhop hkeyed hcarries keeps_buildH2Request nofun fun _ => keeps_receive

theorem keeps_sendH3Request : contract.Meets (sendH3Request session request hop connection) :=
  keeps_sendBuilt hhop hkeyed hcarries keeps_buildH3Request nofun fun _ => keeps_receive

omit hcarries in
theorem keeps_sendH1Request (hversion : connection.version = .http11)
    (hcarries : contract.Carries hop.target.key connection.transport) :
    contract.Meets (sendH1Request session request hop connection) := by
  apply keeps_sendBuilt hhop hkeyed hcarries keeps_buildH1Request fun _ => hversion
  intro head
  apply seq keeps_storeResponseState
  apply Keeps.bind keeps_readBody
  intro _ _
  apply seq (.runIf fun _ => .quiet (pooled_target hkeyed hcarries))
  exact keeps_makeResponse

theorem keeps_sendH2Streaming : contract.Meets (sendH2Streaming session request hop connection) :=
  keeps_sendBuilt hhop hkeyed hcarries keeps_buildH2StreamingRequest nofun fun _ =>
    keeps_receiveStreaming

theorem keeps_sendH3Streaming : contract.Meets (sendH3Streaming session request hop connection) :=
  keeps_sendBuilt hhop hkeyed hcarries keeps_buildH3Request nofun fun _ => keeps_receiveStreaming

omit hcarries

theorem keeps_sendH1Streaming (hbody : hop.body = request.body)
    (hversion : connection.version = .http11)
    (hcarries : contract.Carries hop.target.key connection.transport) :
    contract.Meets (sendH1Streaming session request hop connection) := by
  rw [sendH1Streaming, hbody]
  exact keeps_sendBuilt hhop hkeyed hcarries keeps_buildH1Request (fun _ => hversion) fun _ =>
    keeps_receiveStreaming

end Hop

/-! ## Handshakes -/

theorem keeps_handshakeH1 :
    contract.Keeps (handshakeH1 transport) fun connection => connection = ⟨.http11, transport⟩ := by
  apply answered (contract.quiet _ rfl)
  intro _
  exact .pure rfl

theorem keeps_establishH2 {key : ConnectionKey}
    {first : Option HttpRequest} (hfirst : contract.guarantee (.h2Handshake transport first))
    (hpooled : contract.guarantee (.insert key ⟨.h2, transport⟩)) :
    contract.Keeps (establishH2 key transport first) fun connection =>
      connection = ⟨.h2, transport⟩ := by
  apply answered hfirst
  intro _
  apply seq (.quiet hpooled)
  apply answered (contract.quiet _ rfl)
  intro _
  exact .pure rfl

theorem keeps_reserveConnection : contract.Meets reserveConnection :=
  .checked (contract.quiet _ rfl)

/-! ## Connections of a target -/

section Target

variable {target : ParsedTarget} (hkeyed : target.Keyed proxy) {version : PreferredHttpVersion}
  {wanted : Bool}

include hkeyed

theorem keeps_establish {config : ConnectConfig} (hscheme : config.scheme = target.scheme)
    (hdirect : config.proxyToDirectFallback = true → session.fallback.proxyToDirect = true) :
    contract.Keeps (establishConnection session target.host target.port proxy config)
      fun established => contract.Carries target.key established.transport := by
  have hopened : contract.Keeps (establishConnection session target.host target.port proxy config)
      fun established => ∃ stream : TcpStream, stream.Opened proxy config.proxyToDirectFallback ∧
        established.transport = Origin.transport ⟨config.scheme, target.host, target.port⟩ stream :=
    keeps_establishConnection contract.quiet contract.resolvesProxies
      (fun hlocal => contract.resolves (hlocal.imp_right hdirect) _ _)
      fun hlocal => contract.looksUp hlocal _
  apply hopened.mono
  rintro established ⟨stream, hstream, htransport⟩
  rw [htransport, hkeyed, hscheme]
  apply contract.opened
  exact hstream.imp_right fun hfallback => ⟨hdirect hfallback.1, hfallback.2⟩

theorem keeps_discover {policy : ProtocolPolicy} :
    contract.Keeps (ExceptT.lift (discoverQuicSupport session target.scheme target.host target.port
      proxy policy version)) fun discovery =>
        contract.Advertised target.key discovery.advertisedHost := by
  apply Keeps.lift
  apply Prog.Always.mono (keeps_discoverQuicSupport contract.quiet fun hlocal =>
    contract.looksUp hlocal _)
  intro discovery hdiscovered
  rw [hkeyed]
  exact contract.discovered _ _ _ _ hdiscovered

theorem keeps_tryAcquire : contract.Keeps (perform (.tryAcquire target.key version)) fun
      | some connection => contract.Carries target.key connection.transport
      | none => True := by
  apply Keeps.perform (contract.quiet _ rfl)
  intro found hfound
  cases found with
  | none => trivial
  | some connection =>
    rw [hkeyed] at hfound ⊢
    exact contract.acquired _ _ _ _ connection hfound

variable {discovery : QuicDiscovery}
  (hadvertised : contract.Advertised target.key discovery.advertisedHost)

include hadvertised

theorem keeps_dialQuic {allow0rtt : Bool} :
    contract.Keeps (establishH3ConnectionWith0rtt session target.scheme target.host target.port
      discovery.advertisedHost discovery.advertisedPort proxy allow0rtt) fun
        | .handshake connection | .zeroRtt connection =>
          contract.Carries target.key connection.transport := by
  rw [hkeyed] at hadvertised ⊢
  apply Keeps.mono (keeps_establishH3ConnectionWith0rtt contract.quiet contract.resolvesProxies
    (fun hlocal => contract.resolves (.inl hlocal) _ _)
    fun dial hhost hname => contract.dials _ _ _ _ dial hadvertised hhost hname)
  have hcarries : ∀ connection : Connection, (∃ serial relays address,
      relays.map Tunnel.hop = routeHops proxy ∧ connection.transport =
        ⟨⟨target.scheme, target.host, target.port⟩,
          .quic serial relays address (discovery.advertisedHost.getD target.host)⟩) →
      contract.Carries (keyOf proxy target.scheme target.host target.port)
        connection.transport := by
    rintro connection ⟨serial, relays, address, hrelays, htransport⟩
    rw [htransport]
    exact contract.openedQuic _ _ _ _ serial relays address hadvertised hrelays
  intro outcome houtcome
  cases outcome with
  | handshake connection | zeroRtt connection => exact hcarries connection houtcome

theorem keeps_establishH3 :
    contract.Keeps (establishH3Connection session target.scheme target.host target.port
      discovery.advertisedHost discovery.advertisedPort proxy) fun connection =>
        contract.Carries target.key connection.transport := by
  apply Keeps.bind (keeps_dialQuic hkeyed hadvertised)
  intro outcome houtcome
  cases outcome with
  | handshake connection => exact .pure houtcome
  | zeroRtt connection => exact .throw

theorem keeps_probeQuic :
    contract.Meets (spawnIf wanted (.quic target.host target.port target.key discovery proxy)) := by
  apply Keeps.runIf
  intro _
  apply Keeps.quiet
  rw [hkeyed] at hadvertised ⊢
  exact contract.probesQuic _ _ _ discovery hadvertised

omit hadvertised in
theorem keeps_probeTcp :
    contract.Meets (spawnIf wanted
      (.tcp target.host target.port target.scheme target.key proxy version)) := by
  apply Keeps.runIf
  intro _
  apply Keeps.quiet
  rw [hkeyed]
  exact contract.probesTcp _ _ _ version

end Target

/-! ## Races -/

section Race

variable {α : Type} {racers : Racers α} {post : α → Prop}

variable {quicError : Error}

theorem keeps_tcpAfter {code : Async α} (hcode : contract.Keeps code post) :
    contract.Keeps (Racers.tcpAfter quicError code) post := by
  refine recover hcode (fun _ hvalue => .pure hvalue) fun tcpError => ?_
  exact .throw

variable (htcp : contract.Keeps racers.tcp post) {result : Except Error α} {quicLeft : Async α}

include htcp

theorem keeps_bothFailed {tcpError : Error} :
    contract.Keeps (racers.bothFailed tcpError quicError) post := by
  exact .orThrow (keeps_tcpAfter htcp)

theorem keeps_quicFirst {tcpLeft : Async α}
    (hwon : contract.Meets racers.quicWon) (hleft : contract.Keeps tcpLeft post)
    (hresult : OnOk post result) : contract.Keeps (racers.quicFirst tcpLeft result) post := by
  cases result with
  | ok value =>
    apply seq hwon
    exact .pure hresult
  | error quicError =>
    refine recover hleft (fun _ hvalue => .pure hvalue) fun tcpError => ?_
    exact keeps_bothFailed htcp

theorem keeps_tcpFirst
    (hwon : contract.Meets racers.tcpWon) (hleft : contract.Keeps quicLeft post)
    (hresult : OnOk post result) : contract.Keeps (racers.tcpFirst quicLeft result) post := by
  cases result with
  | ok value =>
    apply seq hwon
    exact .pure hresult
  | error tcpError =>
    refine recover hleft (fun _ hvalue => .pure hvalue) fun quicError => ?_
    exact keeps_bothFailed htcp

theorem keeps_runBoth (hquic : contract.Keeps quicLeft post)
    (hquicWon : contract.Meets racers.quicWon) (htcpWon : contract.Meets racers.tcpWon) :
    contract.Keeps (racers.runBoth quicLeft) post := by
  apply Keeps.bind (.lift (Prog.Always.race hquic htcp))
  intro outcome houtcome
  cases outcome with
  | inl winner => exact keeps_quicFirst htcp hquicWon houtcome.2 houtcome.1
  | inr winner => exact keeps_tcpFirst htcp htcpWon houtcome.1 houtcome.2

theorem keeps_race (hquic : contract.Keeps racers.quic post)
    (hquicWon : contract.Meets racers.quicWon) (htcpWon : contract.Meets racers.tcpWon) :
    contract.Keeps racers.run post := by
  apply Keeps.ite
  · exact fun _ => keeps_runBoth htcp hquic hquicWon htcpWon
  · intro _
    apply Keeps.bind (.lift (Prog.Always.untilTimer hquic))
    intro outcome houtcome
    rcases outcome with (quicError | value) | quicLeft
    · exact keeps_tcpAfter htcp
    · apply seq hquicWon
      exact .pure houtcome
    · exact keeps_runBoth htcp houtcome hquicWon htcpWon

end Race

end Contract

end LkRequest.Client
