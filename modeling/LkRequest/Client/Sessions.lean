import LkRequest.Client.Calls
import LkRequest.Library.Machine

/-!
# Runs of a session

A session is used by any number of calls at once. They share its pool and its caches, and some of
them leave probes behind that go on in the background. A run is any interleaving of calls. What
every call keeps to, as long as the answers of the shared state are as it assumes, holds along the
whole run.
-/

namespace LkRequest.Client

open Library List Prog

/-! ## Calls -/

/-- The entry points of a session. -/
inductive Call where
  | send (request : RequestBuilder) (attempts : Nat)
  | sendStreaming (request : RequestBuilder)
  | preconnect (text : Text)
  | websocket (text : Text)
  | probe (probe : Probe)

/-- The proxy of a probe. -/
def Probe.proxy : Probe → Option ProxyConfig
  | .quic _ _ _ _ proxy => proxy
  | .tcp _ _ _ _ proxy _ => proxy

namespace Call

variable (session : Session)

/-- What a call runs. -/
def task : Call → Task Unit
  | .send request attempts => do
    let _ ← Client.send session request attempts
  | .sendStreaming request => do
    let _ ← (Client.sendStreaming session request).run
  | .preconnect text => do
    let _ ← (Client.preconnect session text).run
  | .websocket text => do
    let _ ← (websocketConnect session text).run
  | .probe started => do
    let _ ← (started.task session).run

/-- The proxy of a call. -/
def proxy : Call → Option ProxyConfig
  | .send request _ => request.effectiveProxy session
  | .sendStreaming request => request.effectiveProxy session
  | .preconnect _ => session.proxy
  | .websocket _ => session.proxy
  | .probe started => started.proxy

end Call

variable {probe : Probe}

namespace Contract

variable {session : Session} {proxy : Option ProxyConfig} {contract : Contract session proxy}
  {text : Text} {call : Call}

/-- What a contract asks of the input of a call: that the hops of its requests are admitted, and
that a probe is one that the contract allows to be spawned. -/
def Admits (contract : Contract session proxy) : Call → Prop
  | .send request _ => ∃ chain : Chain contract, ∀ url, requestUrl session request = .ok url →
      chain.State ⟨url, request.method, request.headers, request.body, request, []⟩
  | .sendStreaming request => ∀ url target, requestUrl session request = .ok url →
      ParsedTarget.Of session.urls url proxy target →
        contract.Hop request ⟨request.method, request.headers, request.body, target⟩
  | .preconnect _ | .websocket _ => True
  | .probe (.quic host port key discovery _) => ∃ scheme, key = keyOf proxy scheme host port ∧
      contract.Advertised key discovery.advertisedHost
  | .probe (.tcp host port scheme key _ _) => key = keyOf proxy scheme host port

theorem always_run {α : Type} {code : Async α} (hcode : contract.Meets code) :
    (do let _ ← code.run : Task Unit).Always contract.rely contract.guarantee fun _ => True := by
  apply always_bind.mpr
  exact Prog.Always.mono hcode fun _ _ => trivial

/-- A target that has a key and nothing else. -/
def bareTarget (proxy : Option ProxyConfig) (scheme : Scheme) (host : Text) (port : Nat) :
    ParsedTarget :=
  ⟨scheme, host, port, [], keyOf proxy scheme host port, ⟨[], [], none, none, none, [], none, none⟩⟩

theorem keeps_websocketConnect (hproxy : session.proxy = proxy) :
    contract.Meets (websocketConnect session text) := by
  subst hproxy
  apply Keeps.orFail
  intro url
  apply Keeps.orFail
  intro isTls
  cases url.host with
  | none => exact .throw
  | some host =>
    apply Keeps.seq .failIf
    have hkeyed : (bareTarget session.proxy .https host
        (url.port.getD (if isTls then 443 else 80))).Keyed session.proxy := rfl
    exact Keeps.mono (keeps_establish hkeyed rfl nofun) fun _ _ => trivial

theorem keeps_probe (hproxy : probe.proxy = proxy) (hadmits : contract.Admits (.probe probe)) :
    contract.Meets (probe.task session) := by
  cases probe with
  | quic host port key discovery route =>
    obtain rfl : route = proxy := hproxy
    obtain ⟨scheme, rfl, hadvertised⟩ := hadmits
    have hkeyed : (bareTarget route scheme host port).Keyed route := rfl
    exact keeps_quicProbe hkeyed hadvertised
  | tcp host port scheme key route version =>
    obtain rfl : route = proxy := hproxy
    obtain rfl := hadmits
    have hkeyed : (bareTarget route scheme host port).Keyed route := rfl
    exact keeps_preconnectTcp hkeyed

/-- Every call keeps to every contract of its proxy that admits it. -/
theorem always_call (hproxy : call.proxy session = proxy) (hadmits : contract.Admits call) :
    (call.task session).Always contract.rely contract.guarantee fun _ => True := by
  cases call with
  | send request attempts =>
    obtain ⟨chain, hstart⟩ := hadmits
    apply always_bind.mpr
    exact Prog.Always.mono (always_send hstart) fun _ _ => trivial
  | sendStreaming request => exact always_run (keeps_sendStreaming hproxy hadmits)
  | preconnect text => exact always_run (keeps_preconnect hproxy)
  | websocket text => exact always_run (keeps_websocketConnect hproxy)
  | probe probe => exact always_run (keeps_probe hproxy hadmits)

theorem always_hstsUpgrade :
    (hstsUpgrade session.urls text).Always contract.rely contract.guarantee fun _ => True := by
  rw [hstsUpgrade]
  cases session.urls.parse text with
  | error reason => exact trivial
  | ok url =>
    dsimp only
    split
    · exact trivial
    · cases url.host with
      | none => exact trivial
      | some =>
        apply always_ask (contract.quiet _ rfl)
        intro answer _
        cases answer with
        | true => exact trivial
        | false => exact trivial

theorem next_effectiveProxy (state : RedirectState) (url : Text) (status : Nat)
    (base target : Url) (location : Text) (history : List RedirectRecord)
    (hstate : state.request.effectiveProxy session = proxy) :
    (RedirectState.next { state with url := url } status base target location
      history).request.effectiveProxy session = proxy := by
  rw [RedirectState.next, ← hstate]
  dsimp only
  split
  · rfl
  · rfl

/-- The chains of redirects of a contract that admits every hop. -/
def Chain.ofHops (hhops : ∀ request hop text, hop.target.Of session.urls text proxy →
    contract.Hop request hop) : Chain contract where
  State state := state.request.effectiveProxy session = proxy
  Upgraded _ _ := True
  proxied _ hstate := hstate
  upgrades _ := always_hstsUpgrade
  admitted _ _ _ _ _ _ htarget := hhops _ _ _ htarget
  next := next_effectiveProxy

theorem admits_ofHops (hproxy : call.proxy session = proxy)
    (hhops : ∀ request hop text, hop.target.Of session.urls text proxy → contract.Hop request hop)
    (hprobe : ∀ probe, call = .probe probe → contract.Admits call) : contract.Admits call := by
  cases call with
  | send request attempts => exact ⟨.ofHops hhops, fun _ _ => hproxy⟩
  | sendStreaming request => exact fun _ _ _ htarget => hhops _ _ _ htarget
  | preconnect text | websocket text => exact trivial
  | probe probe => exact hprobe probe rfl

end Contract

/-! ## Runs -/

/-- A history of calls of one session that run side by side. -/
abbrev History : Type := List (Nat × Prog.Event Op Ans)

/-- A run of a session. The pool hands out what was put into it under the same key, and a probe
runs only if a call has spawned it. -/
structure SessionRun (session : Session) (calls : Nat → Call) (history : History) : Prop where
  shared : Prog.SharedRun (fun index => (calls index).task session) history
  acquired : ∀ before index key version connection after,
    history = before ++ (index, ⟨.tryAcquire key version, some connection⟩) :: after →
      ∃ entry ∈ before, entry.2.1 = .insert key connection
  acquiredH3 : ∀ before index key connection after,
    history = before ++ (index, ⟨.tryAcquireH3 key, some connection⟩) :: after →
      ∃ entry ∈ before, entry.2.1 = .insert key connection
  spawned : ∀ before entry after probe, history = before ++ entry :: after →
    calls entry.1 = .probe probe → ∃ earlier ∈ before, earlier.2.1 = .spawn probe

/-- The operations whose answers come out of the pool. -/
def Op.asksPool : Op → Bool
  | .tryAcquire .. | .tryAcquireH3 _ => true
  | _ => false

/-- Contracts for the calls of a run and their proxies. What is demanded of a connection that one
call puts into the pool is enough for what another assumes of one that it finds. -/
structure Contracts (session : Session) where
  Proxy : Option ProxyConfig → Prop
  rely : Nat → (op : Op) → Ans op → Prop
  guarantee : Nat → Option ProxyConfig → Op → Prop
  contract : Nat → (proxy : Option ProxyConfig) → Contract session proxy
  rely_eq : ∀ index proxy, (contract index proxy).rely = rely index
  guarantee_eq : ∀ index proxy, (contract index proxy).guarantee = guarantee index proxy
  missed : ∀ index key version, rely index (.tryAcquire key version) none
  missedH3 : ∀ index key, rely index (.tryAcquireH3 key) none
  found : ∀ index other proxy key version connection, Proxy proxy →
    guarantee other proxy (.insert key connection) →
      rely index (.tryAcquire key version) (some connection)
  foundH3 : ∀ index other proxy key connection, Proxy proxy →
    guarantee other proxy (.insert key connection) →
      rely index (.tryAcquireH3 key) (some connection)
  probes : ∀ index other proxy probe, Proxy proxy → guarantee other proxy (.spawn probe) →
    Proxy probe.proxy ∧ (contract index probe.proxy).Admits (.probe probe)

variable {entry : Nat × Prog.Event Op Ans} {index : Nat}

namespace Contracts

variable {session : Session} (contracts : Contracts session) {calls : Nat → Call}
  {history : History}

/-- What is demanded of an operation of a call: also that the proxy is one of the run. -/
def Demand (calls : Nat → Call) (index : Nat) (op : Op) : Prop :=
  contracts.Proxy ((calls index).proxy session) ∧
    contracts.guarantee index ((calls index).proxy session) op

theorem always_call (hproxy : contracts.Proxy ((calls index).proxy session))
    (hadmits : (contracts.contract index ((calls index).proxy session)).Admits (calls index)) :
    ((calls index).task session).Always (contracts.rely index) (contracts.Demand calls index)
      fun _ => True := by
  have hcall := Contract.always_call rfl hadmits
  rw [contracts.rely_eq, contracts.guarantee_eq] at hcall
  exact hcall.weaken fun op hop => ⟨hproxy, hop⟩

/-- An answer of the pool is as assumed if what was pooled before was as demanded. -/
theorem rely_pool (hrun : SessionRun session calls history) {before after : History}
    (hsplit : history = before ++ entry :: after)
    (hbefore : ∀ earlier ∈ before, contracts.Demand calls earlier.1 earlier.2.1)
    (hasks : entry.2.1.asksPool = true) : contracts.rely entry.1 entry.2.1 entry.2.2 := by
  obtain ⟨index, op, answer⟩ := entry
  cases op with
  | tryAcquire key version =>
    cases answer with
    | none => exact contracts.missed index key version
    | some connection =>
      obtain ⟨earlier, hearlier, hop⟩ := hrun.acquired _ _ _ _ _ _ hsplit
      obtain ⟨hproxy, hinsert⟩ := hbefore earlier hearlier
      rw [hop] at hinsert
      exact contracts.found index _ _ key version connection hproxy hinsert
  | tryAcquireH3 key =>
    cases answer with
    | none => exact contracts.missedH3 index key
    | some connection =>
      obtain ⟨earlier, hearlier, hop⟩ := hrun.acquiredH3 _ _ _ _ _ hsplit
      obtain ⟨hproxy, hinsert⟩ := hbefore earlier hearlier
      rw [hop] at hinsert
      exact contracts.foundH3 index _ _ key connection hproxy hinsert
  | _ => cases hasks

/-- The rule for runs: if all calls are admitted and the answers of everything but the pool are as
assumed, the demands hold of every operation of the run. -/
theorem run_guarantee (hrun : SessionRun session calls history)
    (hadmits : ∀ index, (∀ probe, calls index ≠ .probe probe) →
      contracts.Proxy ((calls index).proxy session) ∧
        (contracts.contract index ((calls index).proxy session)).Admits (calls index))
    (hanswers : ∀ entry ∈ history, entry.2.1.asksPool = false →
      contracts.rely entry.1 entry.2.1 entry.2.2) :
    ∀ entry ∈ history, contracts.Demand calls entry.1 entry.2.1 := by
  suffices hinvariant : ∀ entry ∈ history,
      contracts.Demand calls entry.1 entry.2.1 ∧ contracts.rely entry.1 entry.2.1 entry.2.2 from
    fun entry hentry => (hinvariant entry hentry).1
  apply hrun.shared.invariant (contracts.Demand calls)
  · intro before entry after hsplit hbefore
    suffices hcall : contracts.Proxy ((calls entry.1).proxy session) ∧
        (contracts.contract entry.1 ((calls entry.1).proxy session)).Admits (calls entry.1) from
      contracts.always_call hcall.1 hcall.2
    by_cases hprobe : ∃ probe, calls entry.1 = .probe probe
    · obtain ⟨probe, hcall⟩ := hprobe
      obtain ⟨earlier, hearlier, hspawn⟩ := hrun.spawned before entry after probe hsplit hcall
      obtain ⟨hproxy, hguarantee⟩ := (hbefore earlier hearlier).1
      rw [hspawn] at hguarantee
      rw [hcall]
      exact contracts.probes entry.1 _ _ probe hproxy hguarantee
    · exact hadmits entry.1 fun probe hcall => hprobe ⟨probe, hcall⟩
  · intro before entry after hsplit hbefore _
    cases hasks : entry.2.1.asksPool with
    | true =>
      exact contracts.rely_pool hrun hsplit (fun earlier hearlier => (hbefore earlier hearlier).1)
        hasks
    | false => exact hanswers entry (by rw [hsplit]; simp) hasks

end Contracts

/-! ## Probes -/

/-- The key that a probe pools its connection under is the one of its origin and its route. -/
def Probe.Keyed : Probe → Prop
  | .quic host port key _ proxy => ∃ scheme, key = keyOf proxy scheme host port
  | .tcp host port scheme key proxy _ => key = keyOf proxy scheme host port

/-- Nothing is demanded but that probes have their keys. -/
def probeContract (session : Session) (proxy : Option ProxyConfig) : Contract session proxy where
  rely _ _ := True
  guarantee op := ∀ probe, op = .spawn probe → probe.Keyed
  Hop _ _ := True
  Carries _ _ := True
  Advertised _ _ := True
  quiet op hquiet probe hspawn := by
    rw [hspawn] at hquiet
    cases hquiet
  resolvesProxies _ _ _ _ _ hspawn := nomatch hspawn
  resolves _ _ _ _ hspawn := nomatch hspawn
  looksUp _ _ _ hspawn := nomatch hspawn
  opened _ _ _ _ _ := trivial
  discovered _ _ _ _ _ := trivial
  dials _ _ _ _ _ _ _ _ _ hspawn := nomatch hspawn
  openedQuic _ _ _ _ _ _ _ _ _ := trivial
  acquired _ _ _ _ _ _ := trivial
  acquiredH3 _ _ _ _ _ := trivial
  pooled _ _ _ _ _ _ hspawn := nomatch hspawn
  probesQuic scheme host port discovery _ probe hspawn := by
    cases hspawn
    exact ⟨scheme, rfl⟩
  probesTcp scheme host port version probe hspawn := by
    cases hspawn
    rfl
  sent _ _ _ _ _ _ _ _ _ _ _ hspawn := nomatch hspawn
  sentFirst _ _ _ _ _ _ _ _ _ hspawn := nomatch hspawn

def probeContracts (session : Session) : Contracts session where
  Proxy _ := True
  rely _ _ _ := True
  guarantee _ _ op := ∀ probe, op = .spawn probe → probe.Keyed
  contract _ := probeContract session
  rely_eq _ _ := rfl
  guarantee_eq _ _ := rfl
  missed _ _ _ := trivial
  missedH3 _ _ := trivial
  found _ _ _ _ _ _ _ _ := trivial
  foundH3 _ _ _ _ _ _ _ := trivial
  probes _ _ _ probe _ hspawn := by
    refine ⟨trivial, ?_⟩
    have hkeyed := hspawn probe rfl
    cases probe with
    | quic =>
      obtain ⟨scheme, hkey⟩ := hkeyed
      exact ⟨scheme, hkey, trivial⟩
    | tcp => exact hkeyed

variable {session : Session}

/-- Every probe of a run has the key of its origin and its route. -/
theorem SessionRun.keyed {calls : Nat → Call} {history : History}
    (hrun : SessionRun session calls history) (hentry : entry ∈ history)
    (hcall : calls entry.1 = .probe probe) : probe.Keyed := by
  obtain ⟨before, after, hsplit⟩ := append_of_mem hentry
  obtain ⟨earlier, hearlier, hspawn⟩ := hrun.spawned before entry after probe hsplit hcall
  apply ((probeContracts session).run_guarantee hrun ?_ (fun _ _ _ => trivial) earlier ?_).2 probe
    hspawn
  · intro index hnone
    refine ⟨trivial, Contract.admits_ofHops rfl ?_ ?_⟩
    · exact fun _ _ _ _ => trivial
    · exact fun probe hprobe => absurd hprobe (hnone probe)
  · rw [hsplit]
    exact mem_append_left _ hearlier

/-! ## One call in a network -/

/-- The history of one call whose answers come from a network. -/
def soloHistory (session : Session) (call : Call)
    (network : List (Prog.Event Op Ans) → (op : Op) → Ans op) (choices : List Bool) : History :=
  ((call.task session).run network choices []).1.map fun event => (0, event)

variable {events : List (Prog.Event Op Ans)}

theorem eventsOf_call (call index : Nat) :
    eventsOf index (events.map fun event => (call, event)) =
      if index = call then events else [] := by
  rw [eventsOf, filterMap_map]
  split
  · rename_i hindex
    simp [hindex]
  · rename_i hindex
    apply filterMap_eq_nil_iff.mpr
    intro event _
    exact if_neg (Ne.symm hindex)

variable {network : List (Prog.Event Op Ans) → (op : Op) → Ans op}

/-- An event of a call is an answer of its network. -/
theorem answer_of_mem {task : Task Unit} {choices : List Bool} {call : Nat} {op : Op}
    {answer : Ans op} (hmem : (index, (⟨op, answer⟩ : Prog.Event Op Ans)) ∈
      (task.run network choices []).1.map fun event => (call, event)) :
    index = call ∧ ∃ past, network past op = answer := by
  obtain ⟨event, hevent, heq⟩ := mem_map.mp hmem
  obtain ⟨past, hanswer⟩ := mem_run hevent
  obtain ⟨rfl, rfl⟩ := Prod.mk.inj heq
  exact ⟨rfl, past, hanswer.symm⟩

/-- One call by itself, with an empty pool, is a run of a session. -/
theorem SessionRun.solo {call : Call} (choices : List Bool) (hprobe : ∀ probe, call ≠ .probe probe)
    (hempty : ∀ past key version, network past (.tryAcquire key version) = none)
    (hemptyH3 : ∀ past key, network past (.tryAcquireH3 key) = none) :
    SessionRun session (fun _ => call) (soloHistory session call network choices) where
  shared index := by
    rw [soloHistory, eventsOf_call]
    split
    · exact ⟨_, trace_run network (call.task session) choices []⟩
    · exact ⟨none, .stopped _⟩
  acquired before index key version connection after hsplit := by
    have hmem : _ ∈ soloHistory session call network choices := hsplit ▸ mem_append_cons_self
    obtain ⟨-, past, hanswer⟩ := answer_of_mem hmem
    cases (hempty past key version).symm.trans hanswer
  acquiredH3 before index key connection after hsplit := by
    have hmem : _ ∈ soloHistory session call network choices := hsplit ▸ mem_append_cons_self
    obtain ⟨-, past, hanswer⟩ := answer_of_mem hmem
    cases (hemptyH3 past key).symm.trans hanswer
  spawned before entry after probe _ hcall := absurd hcall (hprobe probe)

/-! ## Two calls in turn -/

/-- The history of two calls, one after the other. -/
def turnHistory (session : Session) (first second : Call)
    (network network' : List (Prog.Event Op Ans) → (op : Op) → Ans op) : History :=
  soloHistory session first network [] ++
    ((second.task session).run network' [] []).1.map fun event => (1, event)

/-- The second call of a history in turn. -/
def inTurn (first second : Call) (index : Nat) : Call := if index = 0 then first else second

variable {events' : List (Prog.Event Op Ans)}

theorem eventsOf_turn (index : Nat) :
    eventsOf index ((events.map fun event => (0, event)) ++
      events'.map fun event => (1, event)) =
        if index = 0 then events else if index = 1 then events' else [] := by
  rw [eventsOf, filterMap_append, ← eventsOf, ← eventsOf, eventsOf_call,
    eventsOf_call]
  by_cases hzero : index = 0
  · subst hzero
    simp
  · rw [if_neg hzero, if_neg hzero, nil_append]

/-- An event of the second call comes after all events of the first. -/
theorem mem_before_of_mem_first {before after : History} {event : Prog.Event Op Ans}
    (hsplit : (events.map fun event => (0, event)) ++ (events'.map fun event => (1, event)) =
      before ++ (1, event) :: after) : ∀ earlier ∈ events, (0, earlier) ∈ before := by
  intro earlier hearlier
  have hmem : (0, earlier) ∈ events.map fun event => (0, event) :=
    mem_map.mpr ⟨earlier, hearlier, rfl⟩
  rcases append_eq_append_iff.mp hsplit with ⟨rest, hbefore, -⟩ | ⟨rest, hfirst, hrest⟩
  · rw [hbefore]
    exact mem_append_left _ hmem
  · cases rest with
    | nil =>
      rw [append_nil] at hfirst
      rwa [← hfirst]
    | cons entry rest =>
      -- The event would be one of the first call.
      obtain ⟨rfl, -⟩ := List.cons.inj hrest
      have hentry : (1, event) ∈ events.map fun event => ((0 : Nat), event) := by
        rw [hfirst]
        simp
      obtain ⟨other, -, heq⟩ := mem_map.mp hentry
      exact absurd (Prod.mk.inj heq).1 (by decide)

/-- What is found in the pool by the second call was put there by the first. -/
theorem SessionRun.turn {first second : Call}
    {network' : List (Prog.Event Op Ans) → (op : Op) → Ans op}
    (hfirst : ∀ probe, first ≠ .probe probe) (hsecond : ∀ probe, second ≠ .probe probe)
    (hempty : ∀ past key version, network past (.tryAcquire key version) = none)
    (hemptyH3 : ∀ past key, network past (.tryAcquireH3 key) = none)
    (hpool : ∀ past key version connection,
      network' past (.tryAcquire key version) = some connection →
        ∃ event ∈ ((first.task session).run network [] []).1, event.1 = .insert key connection)
    (hpoolH3 : ∀ past key, network' past (.tryAcquireH3 key) = none) :
    SessionRun session (inTurn first second)
      (turnHistory session first second network network') where
  shared index := by
    rw [turnHistory, soloHistory, eventsOf_turn]
    dsimp only
    by_cases hzero : index = 0
    · rw [if_pos hzero, inTurn, if_pos hzero]
      exact ⟨_, trace_run network (first.task session) [] []⟩
    · rw [if_neg hzero, inTurn, if_neg hzero]
      split
      · exact ⟨_, trace_run network' (second.task session) [] []⟩
      · exact ⟨none, .stopped _⟩
  acquired before index key version connection after hsplit := by
    have hmem : _ ∈ turnHistory session first second network network' :=
      hsplit ▸ mem_append_cons_self
    rcases mem_append.mp hmem with hmem | hmem
    · obtain ⟨-, past, hanswer⟩ := answer_of_mem hmem
      cases (hempty past key version).symm.trans hanswer
    · obtain ⟨rfl, past, hanswer⟩ := answer_of_mem hmem
      obtain ⟨earlier, hearlier, hinsert⟩ := hpool past key version connection hanswer
      exact ⟨(0, earlier), mem_before_of_mem_first hsplit earlier hearlier, hinsert⟩
  acquiredH3 before index key connection after hsplit := by
    have hmem : _ ∈ turnHistory session first second network network' :=
      hsplit ▸ mem_append_cons_self
    rcases mem_append.mp hmem with hmem | hmem
    · obtain ⟨-, past, hanswer⟩ := answer_of_mem hmem
      cases (hemptyH3 past key).symm.trans hanswer
    · obtain ⟨-, past, hanswer⟩ := answer_of_mem hmem
      cases (hpoolH3 past key).symm.trans hanswer
  spawned before entry after probe _ hcall := by
    rw [inTurn] at hcall
    split at hcall
    · exact absurd hcall (hfirst probe)
    · exact absurd hcall (hsecond probe)

end LkRequest.Client
