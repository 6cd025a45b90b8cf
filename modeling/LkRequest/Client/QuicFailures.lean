import LkRequest.Client.Dialling

/-!
# Failures of a QUIC path

What the callers of `establish_h3_connection_with_0rtt` do with its errors: whether the origin is
marked as broken, and whether the request is tried over TCP. The errors of a call that got through
the QUIC handshake are those of the setup of the control streams.
-/

namespace LkRequest.Client

open Library List Option Prog

abbrev OpEvent : Type := Prog.Event Op Ans

/-! ## Failed runs -/

section Runs

variable {α β : Type}

variable {events : List OpEvent} {result : Except Error α} {code : Async α} {rest : α → Async β}
  {error : Error}

/-- A failed run of code after code fails in one of the two. -/
theorem trace_bind_error (htrace : (code >>= rest).run.Trace events (some (.error error))) :
    code.run.Trace events (some (.error error)) ∨
      ∃ value before after, events = before ++ after ∧ code.run.Trace before (some (.ok value)) ∧
        (rest value).run.Trace after (some (.error error)) := by
  rcases trace_bind htrace with ⟨hnone, -⟩ | ⟨result, before, after, rfl, hbefore, hafter⟩
  · cases hnone
  cases result with
  | ok value => exact .inr ⟨value, before, after, rfl, hbefore, hafter⟩
  | error reason =>
    obtain ⟨rfl, hresult⟩ := trace_pure.mp hafter
    rcases hresult with hresult | hresult
    · cases hresult
    · cases hresult
      rw [append_nil]
      exact .inl hbefore

/-- A run of code after code that returns goes through both. -/
theorem trace_bind_ok {result : β} (htrace : (code >>= rest).run.Trace events (some (.ok result))) :
    ∃ value before after, events = before ++ after ∧ code.run.Trace before (some (.ok value)) ∧
      (rest value).run.Trace after (some (.ok result)) := by
  rcases trace_bind htrace with ⟨hnone, -⟩ | ⟨outcome, before, after, rfl, hbefore, hafter⟩
  · cases hnone
  cases outcome with
  | ok value => exact ⟨value, before, after, rfl, hbefore, hafter⟩
  | error reason =>
    obtain ⟨-, hresult | hresult⟩ := trace_pure.mp hafter
    · cases hresult
    · cases hresult

theorem trace_return {value : α} (htrace : (pure value : Async α).run.Trace events (some result)) :
    events = [] ∧ result = .ok value := by
  obtain ⟨rfl, hresult | hresult⟩ := trace_pure.mp htrace
  · cases hresult
  · exact ⟨rfl, some.inj hresult⟩

theorem trace_throw (htrace : (throw error : Async α).run.Trace events (some result)) :
    events = [] ∧ result = .error error := by
  obtain ⟨rfl, hresult | hresult⟩ := trace_pure.mp htrace
  · cases hresult
  · exact ⟨rfl, some.inj hresult⟩

/-- An operation under a timer: it is answered, or the timer fires before. -/
theorem trace_withTimeout_perform {op : Op} {timeout : Error} {result : Except Error (Ans op)}
    (htrace : (withTimeout timeout (perform op)).run.Trace events (some result)) :
    (events = [] ∧ result = .error timeout) ∨
      ∃ answer, events = [⟨op, answer⟩] ∧ result = .ok answer := by
  cases htrace with
  | chosen side hside =>
    cases side with
    | true =>
      obtain ⟨rfl, hresult⟩ := trace_pure.mp hside
      rcases hresult with hresult | hresult
      · cases hresult
      · exact .inl ⟨rfl, some.inj hresult⟩
    | false =>
      rcases trace_perform.mp hside with ⟨-, hnone⟩ | ⟨answer, rest, rfl, hrest⟩
      · cases hnone
      · obtain ⟨rfl, hresult⟩ := trace_pure.mp hrest
        rcases hresult with hresult | hresult
        · cases hresult
        · exact .inr ⟨answer, rfl, some.inj hresult⟩

end Runs

/-! ## Failures before and after the handshake -/

/-- A QUIC connection was handed over. -/
def QuicOpened (events : List OpEvent) : Prop :=
  ∃ dial answer, (⟨.quicConnect dial, .ok answer⟩ : OpEvent) ∈ events

/-- The QUIC handshake was completed. A connection is handed over when it is, except for one with
early data: `into_0rtt` does not wait, so that the handshake may still be under way when the call
ends. `confirmed` says for which of these it was completed by then. -/
def QuicCompleted (confirmed : Nat → Prop) (events : List OpEvent) : Prop :=
  ∃ dial serial early, (⟨.quicConnect dial, .ok (serial, early)⟩ : OpEvent) ∈ events ∧
    (dial.allow0rtt = true → early = true → confirmed serial)

/-- The peer, or the connection, refused the setup of the control streams after the handshake. -/
def ControlRefused (confirmed : Nat → Prop) (events : List OpEvent) : Prop :=
  QuicCompleted confirmed events ∧ ∃ transport reason,
    events.getLast? = some (⟨.h3Setup transport, .error reason⟩ : OpEvent)

/-- The events and the error of a call that failed. -/
inductive QuicFailed : List OpEvent → Error → Prop
  | before {events : List OpEvent} (error : Error) (hnot : ¬QuicOpened events) :
      QuicFailed events error
  | timedOut {before : List OpEvent} (dial : QuicDial) (answer : Nat × Bool) (error : Error)
      (hclass : error.isQuicHandshakeFailure = false) :
      QuicFailed (before ++ [⟨.quicConnect dial, .ok answer⟩]) error
  | refused {before : List OpEvent} (dial : QuicDial) (answer : Nat × Bool) (transport : Transport)
      (reason : Text) (error : Error) (hclass : error.isQuicHandshakeFailure = true) :
      QuicFailed (before ++ [⟨.quicConnect dial, .ok answer⟩, ⟨.h3Setup transport, .error reason⟩])
        error

variable {events before : List OpEvent} {error : Error}

theorem QuicFailed.append (hbefore : ¬QuicOpened before) (hfailed : QuicFailed events error) :
    QuicFailed (before ++ events) error := by
  cases hfailed with
  | before error hnot =>
    apply QuicFailed.before
    rintro ⟨dial, answer, hmem⟩
    rcases mem_append.mp hmem with hmem | hmem
    · exact hbefore ⟨dial, answer, hmem⟩
    · exact hnot ⟨dial, answer, hmem⟩
  | timedOut dial answer error hclass =>
    rw [← append_assoc]
    exact .timedOut dial answer error hclass
  | refused dial answer transport reason error hclass =>
    rw [← append_assoc]
    exact .refused dial answer transport reason error hclass

/-- Among the errors after the handshake, those of the handshake class are the refused setups. -/
theorem QuicFailed.handshakeFailure_iff {confirmed : Nat → Prop}
    (hfailed : QuicFailed events error) :
    (error.isQuicHandshakeFailure = true → ¬QuicCompleted confirmed events) ↔
      ¬ControlRefused confirmed events := by
  cases hfailed with
  | before error hnot =>
    have hunfinished : ¬QuicCompleted confirmed events :=
      fun ⟨dial, serial, early, hmem, _⟩ => hnot ⟨dial, (serial, early), hmem⟩
    exact iff_of_true (fun _ => hunfinished) fun hrefused => hunfinished hrefused.1
  | @timedOut before dial answer error hclass =>
    apply iff_of_true
    · rw [hclass]
      exact nofun
    · rintro ⟨-, transport, reason, hlast⟩
      rw [getLast?_concat] at hlast
      cases hlast
  | @refused before dial answer transport reason error hclass =>
    constructor
    · exact fun hspared hrefused => hspared hclass hrefused.1
    · intro hnot _ hcompleted
      refine hnot ⟨hcompleted, transport, reason, ?_⟩
      rw [getLast?_append]
      rfl

/-! ## The calls -/

section Calls

variable {α β : Type} {session : Session}

/-- An operation other than a QUIC handshake. -/
def Op.isNoQuic (op : Op) : Prop := ∀ dial, op ≠ .quicConnect dial

theorem Op.isNoQuic_of_isQuiet {op : Op} (hquiet : op.isQuiet = true) : op.isNoQuic := by
  rintro dial rfl
  exact Bool.noConfusion hquiet

/-- Code without a QUIC handshake. -/
def NoQuic (code : Async α) : Prop :=
  Keeps (fun _ _ => True) Op.isNoQuic code fun _ => True

variable {code : Async α} {events : List OpEvent} {rest : α → Async β} {error : Error}
  {dial : QuicDial} {transport : Transport} {timeout : Error} {message : Text}

theorem NoQuic.not_opened (hcode : NoQuic code)
    {outcome : Option (Except Error α)} (htrace : code.run.Trace events outcome) :
    ¬QuicOpened events := by
  rintro ⟨dial, answer, hmem⟩
  obtain ⟨before, after, rfl⟩ := append_of_mem hmem
  exact Prog.Always.trace hcode htrace (fun _ _ => trivial) dial rfl

/-- Code that ends with a QUIC handshake if it does not fail. -/
structure OpensQuic (code : Async α) : Prop where
  failed : ∀ {events : List OpEvent} {error : Error},
    code.run.Trace events (some (.error error)) → ¬QuicOpened events
  opened : ∀ {events : List OpEvent} {value : α}, code.run.Trace events (some (.ok value)) →
    ∃ before dial answer, events = before ++ [⟨.quicConnect dial, .ok answer⟩]

theorem QuicOpened.of_append {after : List OpEvent}
    (hopened : QuicOpened (before ++ after)) :
    QuicOpened before ∨ QuicOpened after := by
  obtain ⟨dial, answer, hmem⟩ := hopened
  rcases mem_append.mp hmem with hmem | hmem
  · exact .inl ⟨dial, answer, hmem⟩
  · exact .inr ⟨dial, answer, hmem⟩

theorem OpensQuic.after (hcode : NoQuic code)
    (hrest : ∀ value, OpensQuic (rest value)) : OpensQuic (code >>= rest) where
  failed htrace := by
    rcases trace_bind_error htrace with htrace | ⟨value, before, after, rfl, hbefore, hafter⟩
    · exact hcode.not_opened htrace
    · intro hopened
      rcases hopened.of_append with hopened | hopened
      · exact hcode.not_opened hbefore hopened
      · exact (hrest value).failed hafter hopened
  opened htrace := by
    obtain ⟨value, before, after, rfl, -, hafter⟩ := trace_bind_ok htrace
    obtain ⟨earlier, dial, answer, rfl⟩ := (hrest value).opened hafter
    exact ⟨before ++ earlier, dial, answer, (append_assoc ..).symm⟩

theorem OpensQuic.of_noQuic_throw (hcode : NoQuic code) :
    OpensQuic (code >>= fun _ => (throw error : Async β)) where
  failed htrace := by
    rcases trace_bind_error htrace with htrace | ⟨value, before, after, rfl, hbefore, hafter⟩
    · exact hcode.not_opened htrace
    · obtain ⟨rfl, -⟩ := trace_throw hafter
      rw [append_nil]
      exact hcode.not_opened hbefore
  opened htrace := by
    obtain ⟨value, before, after, rfl, -, hafter⟩ := trace_bind_ok htrace
    cases (trace_throw hafter).2

theorem OpensQuic.map {change : α → β} (hcode : OpensQuic code) :
    OpensQuic (code >>= fun value => pure (change value)) where
  failed htrace := by
    rcases trace_bind_error htrace with htrace | ⟨value, before, after, rfl, hbefore, hafter⟩
    · exact hcode.failed htrace
    · cases (trace_return hafter).2
  opened htrace := by
    obtain ⟨value, before, after, rfl, hbefore, hafter⟩ := trace_bind_ok htrace
    obtain ⟨rfl, -⟩ := trace_return hafter
    rw [append_nil]
    exact hcode.opened hbefore

theorem not_opened_nil : ¬QuicOpened [] := by
  rintro ⟨dial, answer, hmem⟩
  exact not_mem_nil hmem

theorem opensQuic_quicHandshake : OpensQuic (quicHandshake session dial) where
  failed htrace := by
    rcases trace_bind_error htrace with htrace | ⟨value, before, after, rfl, hbefore, hafter⟩
    · rcases trace_withTimeout_perform htrace with ⟨rfl, -⟩ | ⟨answer, -, hok⟩
      · exact not_opened_nil
      · cases hok
    · rcases trace_withTimeout_perform hbefore with ⟨-, herror⟩ | ⟨answer, rfl, hok⟩
      · cases herror
      cases hok
      cases value with
      | ok opened => cases (trace_return hafter).2
      | error reason =>
        obtain ⟨rfl, -⟩ := trace_throw hafter
        rintro ⟨dial, answer, hmem⟩
        cases mem_singleton.mp hmem
  opened htrace := by
    obtain ⟨value, before, after, rfl, hbefore, hafter⟩ := trace_bind_ok htrace
    rcases trace_withTimeout_perform hbefore with ⟨-, herror⟩ | ⟨answer, rfl, hok⟩
    · cases herror
    cases hok
    cases value with
    | ok opened =>
      obtain ⟨rfl, -⟩ := trace_return hafter
      exact ⟨[], dial, opened, rfl⟩
    | error reason => cases (trace_throw hafter).2

theorem opensQuic_connectQuicViaSocks5 {proxy : ProxyConfig} :
    OpensQuic (connectQuicViaSocks5 session proxy dial) := by
  apply OpensQuic.after
  · apply Keeps.mono (.attempt (.withTimeout (keeps_udpAssociate
      (fun _ => Op.isNoQuic_of_isQuiet) fun _ _ => nofun)))
    exact fun _ _ => trivial
  · intro associated
    cases associated with
    | error error => exact .of_noQuic_throw (.quiet nofun)
    | ok relays => exact .map opensQuic_quicHandshake

/-- The setup of the control streams fails in time, with an error of the handshake class, or it
fails when its time is over. -/
theorem h3Setup_return_failed
    {wrap : Connection → H3ConnectOutcome} (htimeout : timeout.isQuicHandshakeFailure = false)
    (htrace : (h3Setup transport timeout message >>= fun connection =>
      (pure (wrap connection) : Async H3ConnectOutcome)).run.Trace events (some (.error error))) :
    (events = [] ∧ error.isQuicHandshakeFailure = false) ∨
      ∃ transport reason, events = [⟨.h3Setup transport, .error reason⟩] ∧
        error.isQuicHandshakeFailure = true := by
  rcases trace_bind_error htrace with htrace | ⟨_, _, _, rfl, -, hafter⟩
  · rcases trace_bind_error htrace with htrace | ⟨value, before, after, rfl, hbefore, hafter⟩
    · rcases trace_withTimeout_perform htrace with ⟨rfl, herror⟩ | ⟨answer, -, hok⟩
      · cases herror
        exact .inl ⟨rfl, htimeout⟩
      · cases hok
    · rcases trace_withTimeout_perform hbefore with ⟨-, herror⟩ | ⟨answer, rfl, hok⟩
      · cases herror
      cases hok
      cases value with
      | ok done => cases (trace_return hafter).2
      | error reason =>
        obtain ⟨rfl, herror⟩ := trace_throw hafter
        cases herror
        exact .inr ⟨transport, reason, rfl, rfl⟩
  · cases (trace_return hafter).2

/-- Code whose failed runs are those of a call. -/
def FailsAsCall (code : Async α) : Prop :=
  ∀ {events : List OpEvent} {error : Error},
    code.run.Trace events (some (.error error)) → QuicFailed events error

theorem FailsAsCall.after (hcode : NoQuic code)
    (hrest : ∀ value, FailsAsCall (rest value)) : FailsAsCall (code >>= rest) := by
  intro events error htrace
  rcases trace_bind_error htrace with htrace | ⟨value, before, after, rfl, hbefore, hafter⟩
  · exact .before error (hcode.not_opened htrace)
  · exact (hrest value hafter).append (hcode.not_opened hbefore)

theorem FailsAsCall.of_noQuic (hcode : NoQuic code) : FailsAsCall code :=
  fun htrace => .before _ (hcode.not_opened htrace)

/-- A call opens the connection and then sets up its control streams. -/
theorem OpensQuic.failsAsCall (hcode : OpensQuic code)
    (hrest : ∀ value {events : List OpEvent} {error : Error},
      (rest value).run.Trace events (some (.error error)) →
        (events = [] ∧ error.isQuicHandshakeFailure = false) ∨
          ∃ transport reason, events = [⟨.h3Setup transport, .error reason⟩] ∧
            error.isQuicHandshakeFailure = true) : FailsAsCall (code >>= rest) := by
  intro events error htrace
  rcases trace_bind_error htrace with htrace | ⟨value, before, after, rfl, hbefore, hafter⟩
  · exact .before error (hcode.failed htrace)
  · obtain ⟨earlier, dial, answer, rfl⟩ := hcode.opened hbefore
    rcases hrest value hafter with ⟨rfl, hclass⟩ | ⟨transport, reason, rfl, hclass⟩
    · rw [append_nil]
      exact .timedOut dial answer error hclass
    · rw [append_assoc]
      exact .refused dial answer transport reason error hclass

theorem failsAsCall_establishH3ConnectionWith0rtt {scheme : Scheme} {host : Text} {port : Nat}
    {advertisedHost : Option Text} {advertisedPort : Option Nat} {proxy : Option ProxyConfig}
    {allow0rtt : Bool} :
    FailsAsCall (establishH3ConnectionWith0rtt session scheme host port advertisedHost
      advertisedPort proxy allow0rtt) := by
  apply FailsAsCall.after (Keeps.mono .failIf fun _ _ => trivial)
  intro _
  apply FailsAsCall.after (keeps_resolveDialHost fun _ => nofun)
  intro remoteAddr
  apply FailsAsCall.after (.orError (OnOk.trivial _))
  intro _
  cases proxy with
  | some config =>
    dsimp only
    cases config.scheme with
    | http proxyHost proxyPort => exact FailsAsCall.of_noQuic .throw
    | socks5 =>
      apply opensQuic_connectQuicViaSocks5.failsAsCall
      exact fun _ _ _ => h3Setup_return_failed rfl
  | none =>
    cases remoteAddr with
    | none => exact FailsAsCall.of_noQuic .throw
    | some address =>
      apply opensQuic_quicHandshake.failsAsCall
      intro opened events error htrace
      dsimp only at htrace
      split at htrace
      · exact h3Setup_return_failed rfl htrace
      · exact h3Setup_return_failed rfl htrace

/-- Without early data a connection is handed over after its handshake. -/
theorem establishH3ConnectionWith0rtt_handshake {scheme : Scheme} {host : Text} {port : Nat}
    {advertisedHost : Option Text} {advertisedPort : Option Nat} {proxy : Option ProxyConfig}
    {outcome : H3ConnectOutcome}
    (htrace : (establishH3ConnectionWith0rtt session scheme host port advertisedHost advertisedPort
      proxy false).run.Trace events (some (.ok outcome))) :
    ∃ connection, outcome = .handshake connection := by
  obtain ⟨_, _, _, rfl, -, htrace⟩ := trace_bind_ok htrace
  obtain ⟨remoteAddr, _, _, rfl, -, htrace⟩ := trace_bind_ok htrace
  obtain ⟨_, _, _, rfl, -, htrace⟩ := trace_bind_ok htrace
  cases proxy with
  | some config =>
    dsimp only at htrace
    cases hscheme : config.scheme with
    | http proxyHost proxyPort =>
      rw [hscheme] at htrace
      cases (trace_throw htrace).2
    | socks5 =>
      rw [hscheme] at htrace
      obtain ⟨_, _, _, rfl, -, htrace⟩ := trace_bind_ok htrace
      obtain ⟨connection, _, _, rfl, -, htrace⟩ := trace_bind_ok htrace
      exact ⟨connection, Except.ok.inj (trace_return htrace).2⟩
  | none =>
    cases remoteAddr with
    | none => cases (trace_throw htrace).2
    | some address =>
      obtain ⟨opened, _, _, rfl, -, htrace⟩ := trace_bind_ok htrace
      obtain ⟨connection, _, _, rfl, -, htrace⟩ := trace_bind_ok htrace
      exact ⟨connection, Except.ok.inj (trace_return htrace).2⟩

theorem failsAsCall_establishH3Connection {scheme : Scheme} {host : Text} {port : Nat}
    {advertisedHost : Option Text} {advertisedPort : Option Nat} {proxy : Option ProxyConfig} :
    FailsAsCall (establishH3Connection session scheme host port advertisedHost advertisedPort
      proxy) := by
  intro events error htrace
  rcases trace_bind_error htrace with htrace | ⟨outcome, before, after, rfl, hbefore, hafter⟩
  · exact failsAsCall_establishH3ConnectionWith0rtt htrace
  · obtain ⟨connection, rfl⟩ := establishH3ConnectionWith0rtt_handshake hbefore
    cases (trace_return hafter).2

end Calls

/-! ## The callers -/

/-- The places that call `establish_h3_connection_with_0rtt` or `establish_h3_connection`: a
request, the replay of its early data, a streamed request, a preconnect and a probe. -/
inductive QuicCaller where
  | buffered (request : RequestBuilder) (hop : RequestHop)
  | replay (request : RequestBuilder) (hop : RequestHop) (early : Connection)
  | streaming (request : RequestBuilder) (hop : RequestHop)
  | preconnect (host : Text) (port : Nat) (key : ConnectionKey) (proxy : Option ProxyConfig)
  | probe (host : Text) (port : Nat) (key : ConnectionKey) (proxy : Option ProxyConfig)

/-- The code makes the call and goes on with its errors so. -/
inductive Handles {α γ : Type} (call : Async γ) (failed : Error → Async α) : Async α → Prop
  | matched (resume : Except Error γ → Async α)
      (hresume : ∀ error, resume (.error error) = failed error) :
      Handles call failed (attempt call >>= resume)
  | passedOn (rest : γ → Async α) (hfailed : ∀ error, failed error = throw error) :
      Handles call failed (call >>= rest)
  | later {β : Type} (code : Async β) (rest : β → Async α) (value : β)
      (hrest : Handles call failed (rest value)) : Handles call failed (code >>= rest)

namespace QuicCaller

abbrev Result : QuicCaller → Type
  | buffered .. => Response
  | replay .. => Response ⊕ Connection
  | streaming .. => ResponseHead
  | preconnect .. | probe .. => Unit

abbrev Opened : QuicCaller → Type
  | buffered .. => H3ConnectOutcome
  | _ => Connection

section Failed

variable (session : Session) (discovery : QuicDiscovery)

/-- The code of the caller. -/
def code : (caller : QuicCaller) → Async caller.Result
  | buffered request hop => establishAndSendQuic session request hop discovery
  | replay request hop early => sendEarly session request hop discovery early
  | streaming request hop => establishAndSendStreamingQuic session request hop discovery
  | preconnect host port key proxy => preconnectH3 session host port key discovery proxy
  | probe host port key proxy => quicProbe session host port key discovery proxy

/-- Its call. -/
def call : (caller : QuicCaller) → Async caller.Opened
  | buffered request hop =>
    establishH3ConnectionWith0rtt session hop.target.scheme hop.target.host hop.target.port
      discovery.advertisedHost discovery.advertisedPort (request.effectiveProxy session)
      (canSendEarlyData hop.method request.idempotency)
  | replay request hop _ => replayConnection session request hop discovery
  | streaming request hop =>
    establishH3Connection session hop.target.scheme hop.target.host hop.target.port
      discovery.advertisedHost discovery.advertisedPort (request.effectiveProxy session)
  | preconnect host port key proxy | probe host port key proxy =>
    establishH3Connection session key.scheme host port discovery.advertisedHost
      discovery.advertisedPort proxy

/-- What the caller does with an error of the call. -/
def failed (error : Error) : (caller : QuicCaller) → Async caller.Result
  | buffered request hop => quicFailed session request hop discovery error
  | replay .. => throw error
  | streaming request hop => streamingQuicFailed session request hop discovery error
  | preconnect .. => preconnectH3Failed discovery error
  | probe .. => quicProbeFailed discovery error

/-- The policy and the attempt over TCP, for the callers that have a request. -/
def tcp : (caller : QuicCaller) → Option (ProtocolPolicy × Async caller.Result)
  | buffered request hop =>
    some (request.effectiveProtocolPolicy session, establishAndSendTcp session request hop)
  | replay request hop _ =>
    some (request.effectiveProtocolPolicy session,
      do return .inl (← establishAndSendTcp session request hop))
  | streaming request hop =>
    some (request.effectiveProtocolPolicy session,
      establishAndSendStreamingTcp session request hop)
  | preconnect .. | probe .. => none

/-- The error is handled as it should be: the request is attempted over TCP if the policy permits
it and the error is returned if not, and the origin is marked only if the QUIC handshake was not
completed. -/
structure Handled (confirmed : Nat → Prop) (error : Error) (events : List OpEvent)
    (caller : QuicCaller) : Prop where
  fallsBack : ∀ policy attempt, caller.tcp session = some (policy, attempt) → ∃ marks,
    caller.failed session discovery error = (do
      runIf marks (markBroken discovery)
      if fallbackPermitted policy error then attempt else throw error)
  marked : (∃ rest, caller.failed session discovery error = markBroken discovery >>= rest) →
    ¬QuicCompleted confirmed events

/-- When a caller handles an error so. -/
def Sound (confirmed : Nat → Prop) (error : Error) (events : List OpEvent) : QuicCaller → Prop
  | buffered request _ =>
    (fallbackPermitted (request.effectiveProtocolPolicy session) error = true →
      error.isQuicHandshakeFailure = true) ∧ ¬ControlRefused confirmed events
  | replay request .. => fallbackPermitted (request.effectiveProtocolPolicy session) error = false
  | streaming .. | preconnect .. => ¬QuicCompleted confirmed events
  | probe .. => ¬ControlRefused confirmed events

end Failed

section Handled

variable {session : Session} {request : RequestBuilder} {hop : RequestHop} {early : Connection}
  {discovery : QuicDiscovery} {confirmed : Nat → Prop} {error : Error} {events : List OpEvent}
  {host : Text} {port : Nat} {key : ConnectionKey} {proxy : Option ProxyConfig}

theorem failsAsCall_call (caller : QuicCaller) : FailsAsCall (caller.call session discovery) := by
  cases caller with
  | buffered request hop => exact failsAsCall_establishH3ConnectionWith0rtt
  | _ => exact failsAsCall_establishH3Connection

theorem handles (caller : QuicCaller) :
    Handles (caller.call session discovery) (caller.failed session discovery ·)
      (caller.code session discovery) := by
  cases caller with
  | buffered request hop =>
    -- No other request is under way and the pool has room.
    apply Handles.later (awaitPooledH3 hop.target.key) _ none
    apply Handles.later reserveConnection _ ()
    exact .matched _ fun _ => rfl
  | replay request hop early =>
    -- The early data was rejected.
    apply Handles.later (attempt (sendH30rttRequest session request hop early)) _ (.ok none)
    apply Handles.later (markWorking discovery) _ ()
    exact .passedOn _ fun _ => rfl
  | streaming request hop =>
    apply Handles.later reserveConnection _ ()
    exact .matched _ fun _ => rfl
  | preconnect host port key proxy =>
    apply Handles.later reserveConnection _ ()
    exact .matched _ fun _ => rfl
  | probe host port key proxy =>
    apply Handles.later reserveConnection _ ()
    exact .matched _ fun _ => rfl

theorem handled_streaming :
    (streaming request hop).Handled session discovery confirmed error events ↔
      ¬QuicCompleted confirmed events := by
  constructor
  · intro hhandled
    exact hhandled.marked ⟨_, rfl⟩
  · intro hnot
    refine ⟨fun policy attempt htcp => ⟨true, ?_⟩, fun _ => hnot⟩
    cases htcp
    rfl

theorem handled_preconnect :
    (preconnect host port key proxy).Handled session discovery confirmed error events ↔
      ¬QuicCompleted confirmed events := by
  constructor
  · intro hhandled
    exact hhandled.marked ⟨_, rfl⟩
  · intro hnot
    exact ⟨fun _ _ htcp => absurd htcp.symm (some_ne_none _), fun _ => hnot⟩

variable {α : Type}

/-- Code that returns at once is no attempt over TCP and marks nothing. -/
theorem pure_ne_markBroken {result : Except Error α} {rest : Unit → Async α} :
    ExceptT.mk (pure result) ≠ markBroken discovery >>= rest := nofun

theorem handled_probe :
    (probe host port key proxy).Handled session discovery confirmed error events ↔
      (error.isQuicHandshakeFailure = true → ¬QuicCompleted confirmed events) := by
  constructor
  · intro hhandled hclass
    apply hhandled.marked
    refine ⟨pure, ?_⟩
    rw [failed, quicProbeFailed, hclass]
    rfl
  · intro hnot
    refine ⟨fun _ _ htcp => absurd htcp.symm (some_ne_none _), ?_⟩
    rintro ⟨rest, hrest⟩
    by_cases hclass : error.isQuicHandshakeFailure = true
    · exact hnot hclass
    · rw [failed, quicProbeFailed, Bool.eq_false_iff.mpr hclass] at hrest
      exact absurd hrest pure_ne_markBroken

/-- An error that is returned at once is returned without an attempt over TCP. -/
theorem throw_fallsBack_iff {permitted : Bool} {attempt : Async α}
    (hattempt : ∀ result, ExceptT.mk (pure result) ≠ attempt) :
    (∃ marks, (throw error : Async α) = (do
      runIf marks (markBroken discovery)
      if permitted then attempt else throw error)) ↔ permitted = false := by
  constructor
  · rintro ⟨marks, hthrow⟩
    cases marks with
    | true => exact absurd hthrow pure_ne_markBroken
    | false =>
      cases permitted with
      | false => rfl
      | true => exact absurd hthrow (hattempt _)
  · rintro rfl
    exact ⟨false, rfl⟩

theorem handled_replay :
    (replay request hop early).Handled session discovery confirmed error events ↔
      fallbackPermitted (request.effectiveProtocolPolicy session) error = false := by
  have hattempt : ∀ result, ExceptT.mk (pure result) ≠
      (do return Sum.inl (← establishAndSendTcp session request hop) :
        Async (Response ⊕ Connection)) := fun _ => nofun
  constructor
  · intro hhandled
    exact (throw_fallsBack_iff hattempt).mp (hhandled.fallsBack _ _ rfl)
  · intro hpermitted
    refine ⟨fun policy attempt htcp => ?_, fun ⟨rest, hrest⟩ => absurd hrest pure_ne_markBroken⟩
    cases htcp
    exact (throw_fallsBack_iff hattempt).mpr hpermitted

theorem handled_buffered :
    (buffered request hop).Handled session discovery confirmed error events ↔
      (fallbackPermitted (request.effectiveProtocolPolicy session) error = true →
        error.isQuicHandshakeFailure = true) ∧
      (error.isQuicHandshakeFailure = true → ¬QuicCompleted confirmed events) := by
  have hattempt : ∀ result, ExceptT.mk (pure result) ≠
      establishAndSendTcp session request hop := fun _ => nofun
  by_cases hclass : error.isQuicHandshakeFailure = true
  · have hfailed : (buffered request hop).failed session discovery error = (do
        markBroken discovery
        if fallbackPermitted (request.effectiveProtocolPolicy session) error then
          establishAndSendTcp session request hop
        else throw error) := by
      rw [failed, quicFailed, hclass]
      rfl
    constructor
    · intro hhandled
      exact ⟨fun _ => hclass, fun _ => hhandled.marked ⟨_, hfailed⟩⟩
    · rintro ⟨-, hnot⟩
      refine ⟨fun policy attempt htcp => ⟨true, ?_⟩, fun _ => hnot hclass⟩
      cases htcp
      exact hfailed
  · have hfailed : (buffered request hop).failed session discovery error = throw error := by
      rw [failed, quicFailed, Bool.eq_false_iff.mpr hclass]
      rfl
    constructor
    · intro hhandled
      have hdenied := hhandled.fallsBack _ _ rfl
      rw [hfailed, throw_fallsBack_iff hattempt] at hdenied
      rw [hdenied]
      exact ⟨nofun, fun hclass' => absurd hclass' hclass⟩
    · rintro ⟨hpermitted, -⟩
      constructor
      · intro policy attempt htcp
        cases htcp
        rw [hfailed, throw_fallsBack_iff hattempt]
        exact Bool.eq_false_iff.mpr fun hpermitted' => hclass (hpermitted hpermitted')
      · rintro ⟨rest, hrest⟩
        rw [hfailed] at hrest
        exact absurd hrest pure_ne_markBroken

end Handled

end QuicCaller

/-- A session with a QUIC profile that may fall back to TCP. -/
def h3Session : Session := { Session.plain (.ofTable []) with hasQuicProfile := true }

/-- The calm network with other answers to QUIC handshakes and to the setup of control streams. -/
def quicNetwork (opened : Except Text (Nat × Bool)) (control : Except Text Unit) :
    (op : Op) → Ans op
  | .quicConnect _ => opened
  | .h3Setup _ => control
  | op => calmNetwork op

def shopGet : RequestBuilder := .plain "GET".toList "https://shop.test/".toList

def shopHop : RequestHop where
  method := "GET".toList
  headers := []
  body := none
  target := ⟨.https, "shop.test".toList, 443, "/".toList,
    ⟨.https, "shop.test".toList, 443, .direct⟩,
    ⟨"https".toList, [], none, some "shop.test".toList, none, "/".toList, none, none⟩⟩

def shopDiscovery : QuicDiscovery where
  route := .direct
  origin := ⟨.https, "shop.test".toList, 443⟩
  learnedState := ⟨none, .unknown⟩
  source := none
  forceAttempt := true
  advertisedHost := none
  advertisedPort := none
  dnsHttps := none
  skipReason := none

def shopCaller : QuicCaller := .buffered shopGet shopHop

/-- The call for a request in that network, with a scheduler that fires timers or does not. -/
def h3CallRun (opened : Except Text (Nat × Bool)) (control : Except Text Unit)
    (choices : List Bool) : List OpEvent × Except Error H3ConnectOutcome :=
  (shopCaller.call h3Session shopDiscovery).run.run (fun _ => quicNetwork opened control) choices []

end LkRequest.Client
