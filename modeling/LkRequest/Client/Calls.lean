import LkRequest.Client.Walk

/-!
# Calls

The calls of a session: requests, streamed requests, preconnects, WebSockets and the probes in the
background. Each keeps to a contract of its proxy if the hops that it sends are ones the contract
admits.
-/

namespace LkRequest.Client

open Library
open Keeps (orFail answered seq recover orThrow)

namespace Contract

variable {session : Session} {proxy : Option ProxyConfig} {contract : Contract session proxy}

/-! ## Buffered requests -/

section Buffered

variable {request : RequestBuilder} {hop : RequestHop} (hhop : contract.Hop request hop)
  (hkeyed : hop.target.Keyed proxy) (hproxy : request.effectiveProxy session = proxy)

include hhop hkeyed

variable {transport : Transport} {connection : Connection}

section Carried

variable (hcarries : contract.Carries hop.target.key transport)
include hcarries

theorem keeps_sendOverH1 :
    contract.Meets (do sendH1Request session request hop (← handshakeH1 transport)) := by
  apply Keeps.bind keeps_handshakeH1
  rintro connection rfl
  exact keeps_sendH1Request hhop hkeyed rfl hcarries

theorem keeps_sendCleartext : contract.Meets (sendCleartext session request hop transport) := by
  apply orFail
  intro _
  cases request.httpVersion session with
  | http1Only | auto | http3WithFallback => exact keeps_sendOverH1 hhop hkeyed hcarries
  | http3Only => exact .throw
  | http2Only =>
    apply Keeps.bind (.attempt (keeps_establishH2 (contract.quiet _ rfl)
      (pooled_target hkeyed hcarries)))
    intro established hestablished
    apply Keeps.bind (.orError hestablished)
    rintro connection rfl
    exact keeps_sendH2Request hhop hkeyed hcarries

theorem keeps_sendWithPreface : contract.Meets (sendWithPreface session request hop transport) := by
  apply Keeps.bind keeps_buildH2RequestForPreface
  intro first hfirst
  apply Keeps.bind (keeps_establishH2
    (contract.sentFirst request hop first transport hhop hkeyed hfirst hcarries)
    (pooled_target hkeyed hcarries))
  intro connection _
  apply answered (contract.quiet _ rfl)
  intro _
  exact keeps_receive

end Carried

include hproxy

theorem keeps_establishAndSendTcp : contract.Meets (establishAndSendTcp session request hop) := by
  subst hproxy
  apply seq keeps_reserveConnection
  apply Keeps.bind (keeps_establish hkeyed rfl fun hfallback =>
    (Bool.and_eq_true_iff.mp hfallback).1)
  intro established hcarries
  apply Keeps.ite
  · exact fun _ => keeps_sendCleartext hhop hkeyed hcarries
  · intro _
    apply orFail
    intro useH2
    apply Keeps.ite
    · intro _
      refine recover (keeps_sendWithPreface hhop hkeyed hcarries)
        (fun _ _ => .pure trivial) fun error => ?_
      apply orThrow
      apply seq keeps_reserveConnection
      apply Keeps.bind (keeps_establish hkeyed rfl (by nofun))
      intro again hagain
      exact keeps_sendOverH1 hhop hkeyed hagain
    · exact fun _ => keeps_sendOverH1 hhop hkeyed hcarries

variable {discovery : QuicDiscovery}
  (hadvertised : contract.Advertised hop.target.key discovery.advertisedHost)

include hadvertised

omit hkeyed hproxy hadvertised in
theorem keeps_sendH30rttRequest (hkeyed : hop.target.Keyed proxy)
    (hcarries : contract.Carries hop.target.key connection.transport) :
    contract.Meets (sendH30rttRequest session request hop connection) := by
  apply Keeps.bind keeps_buildH3Request
  intro early hearly
  apply Keeps.bind (.quiet
    (contract.sent request hop false early connection hhop hkeyed hearly (by simp) hcarries))
  intro sent _
  apply Keeps.bind (keeps_quiet rfl)
  intro accepted _
  apply Keeps.ite
  · intro _
    cases sent with
    | error failure => cases failure <;> exact .throw
    | ok _ =>
      apply answered (contract.quiet _ rfl)
      intro _
      apply Keeps.bind keeps_receive
      intro _ _
      exact .pure trivial
  · exact fun _ => .pure trivial

omit hhop hkeyed hproxy hadvertised in
theorem keeps_markWorking : contract.Meets (markWorking discovery) :=
  keeps_quiet rfl

omit hhop in
theorem keeps_replayConnection :
    contract.Keeps (replayConnection session request hop discovery) fun connection =>
      contract.Carries hop.target.key connection.transport := by
  subst hproxy
  exact keeps_establishH3 hkeyed hadvertised

theorem keeps_sendEarly (hcarries : contract.Carries hop.target.key connection.transport) :
    contract.Keeps (sendEarly session request hop discovery connection) fun
      | .inl _ => True
      | .inr replay => contract.Carries hop.target.key replay.transport := by
  apply Keeps.bind (.attempt (keeps_sendH30rttRequest hhop hkeyed hcarries))
  intro result _
  rcases result with error | _ | response
  · apply orThrow
    apply Keeps.bind (keeps_replayConnection hkeyed hproxy hadvertised)
    intro replay hreplay
    apply seq keeps_markWorking
    exact .pure hreplay
  · apply seq keeps_markWorking
    apply Keeps.bind (keeps_replayConnection hkeyed hproxy hadvertised)
    intro replay hreplay
    exact .pure hreplay
  · apply seq keeps_markWorking
    apply seq (.quiet (pooled_target hkeyed hcarries))
    exact .pure trivial

omit hproxy hadvertised in
theorem keeps_poolAndSendH3 (hcarries : contract.Carries hop.target.key connection.transport) :
    contract.Meets (poolAndSendH3 session request hop discovery connection) := by
  apply seq keeps_markWorking
  apply seq (.quiet (pooled_target hkeyed hcarries))
  exact keeps_sendH3Request hhop hkeyed hcarries

omit hhop hproxy hadvertised in
theorem keeps_awaitPooledH3 :
    contract.Keeps (awaitPooledH3 hop.target.key) fun
      | some connection => contract.Carries hop.target.key connection.transport
      | none => True := by
  apply Keeps.bind (keeps_quiet rfl)
  intro waited _
  apply Keeps.ite
  · intro _
    apply Keeps.perform (contract.quiet _ rfl)
    intro found hfound
    cases found with
    | none => trivial
    | some connection =>
      rw [hkeyed] at hfound ⊢
      exact contract.acquiredH3 _ _ _ connection hfound
  · exact fun _ => .pure trivial

theorem keeps_establishAndSendQuic :
    contract.Meets (establishAndSendQuic session request hop discovery) := by
  apply Keeps.bind (keeps_awaitPooledH3 hkeyed)
  intro pooled hpooled
  cases pooled with
  | some connection => exact keeps_sendH3Request hhop hkeyed hpooled
  | none =>
    apply seq keeps_reserveConnection
    rw [hproxy]
    apply Keeps.bind (.attempt (keeps_dialQuic hkeyed hadvertised))
    intro outcome houtcome
    rcases outcome with error | connection | connection
    · apply seq (.runIf fun _ => keeps_quiet rfl)
      exact .orThrow (keeps_establishAndSendTcp hhop hkeyed hproxy)
    · exact keeps_poolAndSendH3 hhop hkeyed houtcome
    · apply Keeps.bind (keeps_sendEarly hhop hkeyed hproxy hadvertised houtcome)
      intro early hearly
      cases early with
      | inl response => exact .pure trivial
      | inr replay => exact keeps_poolAndSendH3 hhop hkeyed hearly

omit hadvertised in
theorem keeps_establishAndSend : contract.Meets (establishAndSend session request hop) := by
  have htcp := keeps_establishAndSendTcp hhop hkeyed hproxy
  rw [establishAndSend, hproxy]
  apply orFail
  intro _
  apply seq .failIf
  apply Keeps.bind (keeps_discover hkeyed)
  intro discovery hadvertised
  have hquic := keeps_establishAndSendQuic hhop hkeyed hproxy hadvertised
  cases decideProtocol (request.httpVersion session) (request.effectiveProtocolPolicy session)
    discovery with
  | tcp =>
    apply Keeps.bind htcp
    intro response _
    apply seq (keeps_probeQuic hkeyed hadvertised)
    exact .pure trivial
  | race => exact keeps_race htcp hquic (keeps_probeTcp hkeyed) (keeps_probeQuic hkeyed hadvertised)
  | quic => exact hquic

omit hadvertised in
theorem keeps_retryFresh {evict : Bool} {code : Async Response}
    (hcode : contract.Meets code) : contract.Meets (retryFresh session request hop evict code) := by
  refine recover hcode (fun _ _ => .pure trivial) fun error => ?_
  apply orThrow
  apply seq (.runIf fun _ => keeps_quiet rfl)
  exact keeps_establishAndSend hhop hkeyed hproxy

omit hadvertised in
theorem keeps_sendOnConnection : contract.Meets (sendOnConnection session request hop) := by
  have hfresh := keeps_establishAndSend hhop hkeyed hproxy
  apply Keeps.bind (keeps_tryAcquire hkeyed)
  intro pooled hpooled
  cases pooled with
  | none => exact hfresh
  | some connection =>
    rcases hversion : connection.version with _ | _ | _ <;> simp only [hversion]
    · apply Keeps.bind (keeps_quiet rfl)
      intro ready _
      cases ready with
      | error => exact hfresh
      | ok =>
        exact keeps_retryFresh hhop hkeyed hproxy
          (keeps_sendH1Request hhop hkeyed hversion hpooled)
    · apply Keeps.bind (keeps_quiet rfl)
      intro ready _
      cases ready with
      | error _ =>
        apply seq (keeps_quiet rfl)
        exact hfresh
      | ok =>
        exact keeps_retryFresh hhop hkeyed hproxy (keeps_sendH2Request hhop hkeyed hpooled)
    · exact keeps_retryFresh hhop hkeyed hproxy (keeps_sendH3Request hhop hkeyed hpooled)

end Buffered

/-! ## Redirects -/

variable {url : Text} {request : RequestBuilder} {headers : HeaderMap}

theorem keeps_parseTarget :
    contract.Keeps (orError id (parseRequestTarget session.urls url proxy)) fun target =>
      ParsedTarget.Of session.urls url proxy target := by
  apply Keeps.orError
  exact .of_ok fun _ => parseRequestTarget_ok

theorem keeps_sendSingleRequest {method : Text}
    {body : Option Bytes} (hproxy : request.effectiveProxy session = proxy)
    (hhop : ∀ target, ParsedTarget.Of session.urls url proxy target →
      contract.Hop request ⟨method, headers, body, target⟩) :
    contract.Meets (sendSingleRequest session request url method headers body) := by
  apply Keeps.withTimeout
  apply orFail
  intro _
  rw [hproxy]
  apply Keeps.bind keeps_parseTarget
  intro target htarget
  exact keeps_sendOnConnection (hhop target htarget) htarget.keyed hproxy

theorem always_learnSts :
    (learnSts session url headers).Always contract.rely contract.guarantee fun _ => True := by
  rw [learnSts]
  split
  · exact ⟨contract.quiet _ rfl, fun _ _ => trivial⟩
  · exact trivial

variable (contract) in
/-- What a contract demands of the operations of a chain: its hops are admitted. -/
def chained : ChainOp → Prop
  | .single state => state.request.effectiveProxy session = proxy ∧ ∀ target,
      ParsedTarget.Of session.urls state.url proxy target →
        contract.Hop state.request ⟨state.method, state.headers, state.body, target⟩
  | _ => True

/-- The states of a chain of redirects whose hops a contract admits, and what is known about the
upgrades of their URLs. -/
structure Chain (contract : Contract session proxy) where
  State : RedirectState → Prop
  Upgraded : Text → Option Text → Prop
  proxied : ∀ state, State state → state.request.effectiveProxy session = proxy
  upgrades : ∀ text, (hstsUpgrade session.urls text).Always contract.rely contract.guarantee
    (Upgraded text)
  admitted : ∀ state upgraded, State state → Upgraded state.url upgraded →
    httpsOnlyRefuses session (upgraded.getD state.url) = false → ∀ target,
      ParsedTarget.Of session.urls (upgraded.getD state.url) proxy target →
        contract.Hop state.request ⟨state.method, state.headers, state.body, target⟩
  next : ∀ state url status base target location history, State state →
    State (RedirectState.next { state with url := url } status base target location history)

variable {attempts : Nat}

namespace Chain

variable (chain : Chain contract)

/-- What the loops may assume of the rest of the client. -/
def rely : (op : ChainOp) → ChainAns op → Prop
  | .upgrade text, upgraded => chain.Upgraded text upgraded
  | _, _ => True

variable {chain}

theorem keeps_perform (op : ChainOp) (hop : contract.chained op) :
    Client.Keeps chain.rely contract.chained (chainPerform op) (chain.rely op) :=
  .lift ⟨hop, fun _ hanswer => hanswer⟩

variable {remaining : Nat} {state : RedirectState}

theorem keeps_redirectDecide {url : Text} {response : Response} (hstate : chain.State state) :
    Client.Keeps chain.rely contract.chained
      (redirectDecide session remaining { state with url := url } response) fun
      | .done _ => True
      | .follow next => chain.State next := by
  apply Client.Keeps.ite
  · intro _
    apply Client.Keeps.ite
    · exact fun _ => .throw
    · exact fun _ => .pure trivial
  · intro _
    apply Client.Keeps.orFail
    intro urls
    apply Client.Keeps.seq (keeps_perform (.log _) trivial)
    apply Client.Keeps.ite
    · exact fun _ => .pure (chain.next state url _ urls.1 urls.2 _ _ hstate)
    · exact fun _ => .pure trivial

theorem keeps_redirectPass (hstate : chain.State state) :
    Client.Keeps chain.rely contract.chained (redirectPass session remaining state) fun
      | .done _ => True
      | .follow next => chain.State next := by
  apply Client.Keeps.bind (keeps_perform (.upgrade state.url) trivial)
  intro upgraded hupgraded
  apply Client.Keeps.bind .failIf
  intro _ hallowed
  apply Client.Keeps.bind (keeps_perform (.single { state with url := upgraded.getD state.url })
    ⟨chain.proxied state hstate, chain.admitted state upgraded hstate hupgraded hallowed⟩)
  intro result _
  apply Client.Keeps.orFail
  intro response
  apply Client.Keeps.seq (keeps_perform (.learnSts _ _) trivial)
  exact keeps_redirectDecide hstate

theorem keeps_redirectLoop (hstate : chain.State state) :
    Client.Meets chain.rely contract.chained (redirectLoop session remaining state) := by
  induction remaining generalizing state with
  | zero =>
    rw [redirectLoop]
    apply Client.Keeps.bind (keeps_redirectPass hstate)
    intro outcome _
    cases outcome with
    | done response => exact .pure trivial
    | follow next => exact .throw
  | succ remaining ih =>
    rw [redirectLoop]
    apply Client.Keeps.bind (keeps_redirectPass hstate)
    intro outcome houtcome
    cases outcome with
    | done response => exact .pure trivial
    | follow next => exact ih houtcome

section Send

variable {request : RequestBuilder}
  (hstart : ∀ url, requestUrl session request = .ok url →
    chain.State ⟨url, request.method, request.headers, request.body, request, []⟩)

include hstart

theorem keeps_sendWithRedirects :
    Client.Meets chain.rely contract.chained (sendWithRedirects session request) := by
  apply Client.Keeps.bind (.orError (.of_ok hstart))
  intro url hstate
  exact keeps_redirectLoop hstate

theorem always_retryLoop {attempt : Nat} :
    (retryLoop session request attempts attempt).Always chain.rely contract.chained
      fun _ => True := by
  induction attempts generalizing attempt with
  | zero => exact trivial
  | succ attempts ih =>
    have hlogged : ∀ {line : LogLine}, (chainAsk (.log line) >>= fun _ =>
        retryLoop session request attempts (attempt + 1)).Always chain.rely contract.chained
          fun _ => True :=
      ⟨trivial, fun _ _ => ih⟩
    apply Prog.always_bind.mpr
    apply Prog.Always.mono (keeps_sendWithRedirects hstart)
    intro result _
    cases result with
    | ok response =>
      dsimp only
      split
      · refine ⟨trivial, fun again _ => ?_⟩
        cases again with
        | true => exact hlogged
        | false => exact trivial
      · exact trivial
    | error error =>
      refine ⟨trivial, fun again _ => ?_⟩
      cases again with
      | true =>
        split
        · exact hlogged
        · exact trivial
      | false => exact trivial

theorem always_sendChain :
    (sendChain session request attempts).Always chain.rely contract.chained fun _ => True := by
  rw [sendChain]
  split
  · exact always_retryLoop hstart
  · apply Prog.always_bind.mpr
    exact Prog.Always.mono (keeps_sendWithRedirects hstart) fun _ _ => trivial

end Send

/-- The client carries out the operations of a chain within the contract. -/
theorem always_handler {op : ChainOp} (hop : contract.chained op) :
    (chainHandler session op).Always contract.rely contract.guarantee (chain.rely op) := by
  cases op with
  | upgrade url => exact chain.upgrades url
  | single state => exact Prog.Always.mono (keeps_sendSingleRequest hop.1 hop.2) fun _ _ => trivial
  | learnSts url headers => exact always_learnSts
  | log line | shouldRetry attempt error status => exact ⟨contract.quiet _ rfl, fun _ _ => trivial⟩

end Chain

theorem always_send {chain : Chain contract} (hstart : ∀ url, requestUrl session request = .ok url →
      chain.State ⟨url, request.method, request.headers, request.body, request, []⟩) :
    (send session request attempts).Always contract.rely contract.guarantee fun _ => True :=
  Prog.Always.handle (Chain.always_sendChain hstart) fun _ => Chain.always_handler

/-! ## Streamed requests -/

section Streaming

variable {request : RequestBuilder} {hop : RequestHop} (hhop : contract.Hop request hop)
  (hkeyed : hop.target.Keyed proxy) (hproxy : request.effectiveProxy session = proxy)
  (hbody : hop.body = request.body)

include hhop hkeyed hbody

theorem keeps_streamOverH1 {transport : Transport}
    (hcarries : contract.Carries hop.target.key transport) :
    contract.Meets (do sendH1Streaming session request hop (← handshakeH1 transport)) := by
  apply Keeps.bind keeps_handshakeH1
  rintro connection rfl
  exact keeps_sendH1Streaming hhop hkeyed hbody rfl hcarries

include hproxy

theorem keeps_establishAndSendStreamingTcp :
    contract.Meets (establishAndSendStreamingTcp session request hop) := by
  subst hproxy
  apply seq keeps_reserveConnection
  apply Keeps.bind (keeps_establish hkeyed rfl (by nofun))
  intro established hcarries
  apply orFail
  intro useH2
  apply Keeps.ite
  · intro _
    have hstream : contract.Meets (do
        let connection ← establishH2AndPool hop.target.key established.transport
        sendH2Streaming session request hop connection) := by
      apply Keeps.bind (keeps_establishH2 (contract.quiet _ rfl) (pooled_target hkeyed hcarries))
      rintro connection rfl
      exact keeps_sendH2Streaming hhop hkeyed hcarries
    refine recover hstream (fun _ _ => .pure trivial) fun error => ?_
    apply orThrow
    apply seq keeps_reserveConnection
    apply Keeps.bind (keeps_establish hkeyed rfl (by nofun))
    intro again hagain
    exact keeps_streamOverH1 hhop hkeyed hbody hagain
  · exact fun _ => keeps_streamOverH1 hhop hkeyed hbody hcarries

theorem keeps_establishAndSendStreamingQuic {discovery : QuicDiscovery}
    (hadvertised : contract.Advertised hop.target.key discovery.advertisedHost) :
    contract.Meets (establishAndSendStreamingQuic session request hop discovery) := by
  have htcp := keeps_establishAndSendStreamingTcp hhop hkeyed hproxy hbody
  rw [establishAndSendStreamingQuic, hproxy]
  apply seq keeps_reserveConnection
  apply recover (keeps_establishH3 hkeyed hadvertised)
  · intro connection hcarries
    apply seq keeps_markWorking
    apply seq (.quiet (pooled_target hkeyed hcarries))
    exact keeps_sendH3Streaming hhop hkeyed hcarries
  · intro error
    apply seq (keeps_quiet rfl)
    exact .orThrow htcp

theorem keeps_establishAndSendStreaming :
    contract.Meets (establishAndSendStreaming session request hop) := by
  have htcp := keeps_establishAndSendStreamingTcp hhop hkeyed hproxy hbody
  rw [establishAndSendStreaming, hproxy]
  apply orFail
  intro _
  apply seq .failIf
  apply Keeps.bind (keeps_discover hkeyed)
  intro discovery hadvertised
  have hquic := keeps_establishAndSendStreamingQuic hhop hkeyed hproxy hbody hadvertised
  cases decideProtocol (request.httpVersion session) (request.effectiveProtocolPolicy session)
    discovery with
  | tcp =>
    apply Keeps.bind htcp
    intro response _
    apply seq (keeps_probeQuic hkeyed hadvertised)
    exact .pure trivial
  | race => exact keeps_race htcp hquic (keeps_probeTcp hkeyed) (keeps_probeQuic hkeyed hadvertised)
  | quic => exact hquic

theorem keeps_retryFreshStreaming {code : Async ResponseHead} (hcode : contract.Meets code) :
    contract.Meets (retryFreshStreaming session request hop code) := by
  refine recover hcode (fun _ _ => .pure trivial) fun error => ?_
  apply orThrow
  apply seq (keeps_quiet rfl)
  exact keeps_establishAndSendStreaming hhop hkeyed hproxy hbody

theorem keeps_sendStreamingOnConnection :
    contract.Meets (sendStreamingOnConnection session request hop) := by
  have hfresh := keeps_establishAndSendStreaming hhop hkeyed hproxy hbody
  apply Keeps.bind (keeps_tryAcquire hkeyed)
  intro pooled hpooled
  cases pooled with
  | none => exact hfresh
  | some connection =>
    rcases hversion : connection.version with _ | _ | _ <;> simp only [hversion]
    · exact keeps_sendH1Streaming hhop hkeyed hbody hversion hpooled
    · apply Keeps.bind (keeps_quiet rfl)
      intro ready _
      cases ready with
      | error _ =>
        apply seq (keeps_quiet rfl)
        exact hfresh
      | ok =>
        exact keeps_retryFreshStreaming hhop hkeyed hproxy hbody
          (keeps_sendH2Streaming hhop hkeyed hpooled)
    · exact keeps_retryFreshStreaming hhop hkeyed hproxy hbody
        (keeps_sendH3Streaming hhop hkeyed hpooled)

end Streaming

theorem keeps_sendStreaming (hproxy : request.effectiveProxy session = proxy)
    (hhop : ∀ url target, requestUrl session request = .ok url →
      ParsedTarget.Of session.urls url proxy target →
        contract.Hop request ⟨request.method, request.headers, request.body, target⟩) :
    contract.Meets (sendStreaming session request) := by
  apply Keeps.bind (.orError (.of_ok fun url hurl => hurl))
  intro url hurl
  apply Keeps.withTimeout
  apply orFail
  intro _
  rw [hproxy]
  apply Keeps.bind keeps_parseTarget
  intro target htarget
  exact keeps_sendStreamingOnConnection (hhop url target hurl htarget) htarget.keyed hproxy rfl

/-! ## Preconnects, probes and WebSockets -/

section Preconnect

variable {target : ParsedTarget} (hkeyed : target.Keyed proxy)

include hkeyed

theorem keeps_preconnectTcp {version : PreferredHttpVersion} :
    contract.Meets (preconnectTcp session target.host target.port target.scheme target.key proxy
      version) := by
  apply seq keeps_reserveConnection
  apply Keeps.bind (keeps_establish hkeyed rfl (by nofun))
  intro established hcarries
  apply orFail
  intro useH2
  apply Keeps.ite
  all_goals
    intro _
    apply answered (contract.quiet _ rfl)
    intro _
    exact .quiet (pooled_target hkeyed hcarries)

variable {discovery : QuicDiscovery}
  (hadvertised : contract.Advertised target.key discovery.advertisedHost)

include hadvertised

theorem keeps_preconnectH3 :
    contract.Meets (preconnectH3 session target.host target.port target.key discovery proxy) := by
  rw [preconnectH3, hkeyed.scheme]
  apply seq keeps_reserveConnection
  apply recover (keeps_establishH3 hkeyed hadvertised)
  · intro connection hcarries
    apply seq keeps_markWorking
    exact .quiet (pooled_target hkeyed hcarries)
  · intro error
    apply seq (keeps_quiet rfl)
    exact .throw

theorem keeps_quicProbe :
    contract.Meets (quicProbe session target.host target.port target.key discovery proxy) := by
  rw [quicProbe, hkeyed.scheme]
  apply seq keeps_reserveConnection
  apply recover (keeps_establishH3 hkeyed hadvertised)
  · intro connection hcarries
    apply seq keeps_markWorking
    exact .quiet (pooled_target hkeyed hcarries)
  · exact fun error => .runIf fun _ => keeps_quiet rfl

end Preconnect

theorem keeps_preconnect {text : Text} (hproxy : session.proxy = proxy) :
    contract.Meets (preconnect session text) := by
  subst hproxy
  apply orFail
  intro url
  apply seq .failIf
  apply Keeps.bind keeps_parseTarget
  intro target htarget
  apply Keeps.bind (keeps_quiet rfl)
  intro found _
  apply Keeps.ite
  · exact fun _ => .pure trivial
  · intro _
    apply seq .failIf
    apply Keeps.bind (keeps_discover htarget.keyed)
    intro discovery hadvertised
    have htcp : contract.Meets (preconnectTcp session target.host target.port target.scheme
        target.key session.proxy (effectiveHttpVersion session none session.protocolPolicy)) :=
      keeps_preconnectTcp htarget.keyed
    have hquic := keeps_preconnectH3 htarget.keyed hadvertised
    cases decideProtocol (effectiveHttpVersion session none session.protocolPolicy)
      session.protocolPolicy discovery with
    | tcp =>
      apply seq htcp
      exact keeps_probeQuic htarget.keyed hadvertised
    | quic => exact hquic
    | race =>
      exact keeps_race htcp hquic (keeps_probeTcp htarget.keyed)
        (keeps_probeQuic htarget.keyed hadvertised)

end Contract

end LkRequest.Client
