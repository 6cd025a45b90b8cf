import LkRequest.Client.Sessions

/-!
# Who a QUIC connection was authenticated for

Discovery may name another host than the origin's. The name that TLS gets is then the other host's,
and the connection is pooled and used for the origin. As long as discovery names no other host,
every QUIC connection is authenticated for the origin that it is used for.
-/

namespace LkRequest.Client

open Library

/-! ## Names -/

/-- The name that the peer of a QUIC connection was authenticated for. -/
def Transport.quicName? (transport : Transport) : Option Text :=
  match transport.link with
  | .quic _ _ _ name => some name
  | _ => none

/-- A QUIC connection is authenticated for the origin that it is opened for, pooled under, or used
for. -/
def Op.AuthenticatesOrigin : Op → Prop
  | .quicConnect dial => dial.tls.serverName = dial.origin.host
  | .insert key connection => ∀ name ∈ connection.transport.quicName?, name = key.host
  | .sendRequest connection request =>
    ∀ name ∈ connection.transport.quicName?, request.url.host = some name
  | _ => True

instance : DecidablePred Op.AuthenticatesOrigin := fun op => by
  cases op <;> dsimp only [Op.AuthenticatesOrigin] <;> infer_instance

/-- What discovery hears from the caches and the resolver names no host but the origin's. -/
def NamesOrigin : (op : Op) → Ans op → Prop
  | .learnedState _ origin, learned =>
    ∀ entry ∈ (learned : LearnedProtocolState).altSvc, ∀ host ∈ entry.host, host = origin.host
  | .lookupHttps host, record =>
    ∀ found ∈ (record : Option HttpsRecord), ∀ target ∈ found.target, target = host
  | _, _ => True

/-- The probe dials no host but its own. -/
def Probe.NamesOrigin : Probe → Prop
  | .quic host _ _ discovery _ => ∀ name ∈ discovery.advertisedHost, name = host
  | .tcp .. => True

/-! ## The contract -/

/-- What a QUIC connection that carries requests under a key was authenticated for. -/
def AuthenticatedFor (key : ConnectionKey) (transport : Transport) : Prop :=
  ∀ name ∈ transport.quicName?, name = key.host

/-- What is assumed of the answers: the pool hands out authenticated connections, and discovery
hears of no other host. -/
def AuthenticatedAnswer : (op : Op) → Ans op → Prop
  | .tryAcquire key _, found =>
    ∀ connection ∈ (found : Option Connection), AuthenticatedFor key connection.transport
  | .tryAcquireH3 key, found =>
    ∀ connection ∈ (found : Option Connection), AuthenticatedFor key connection.transport
  | op, answer => NamesOrigin op answer

def AuthenticatingOp (op : Op) : Prop :=
  op.AuthenticatesOrigin ∧ ∀ probe, op = .spawn probe → probe.Keyed ∧ probe.NamesOrigin

variable {advertised : Option Text}

theorem getD_of_forall_mem {host : Text} (hadvertised : ∀ name ∈ advertised, name = host) :
    advertised.getD host = host := by
  cases advertised with
  | none => rfl
  | some name => exact hadvertised name rfl

variable {origin : Origin}

theorem discovered_namesOrigin {route : RouteKey}
    (hdiscovered : Discovered AuthenticatedAnswer route origin advertised) :
    ∀ name ∈ advertised, name = origin.host := by
  rcases hdiscovered with rfl | ⟨learned, hlearned, entry, hentry, rfl⟩ | ⟨record, hrecord, rfl⟩
  · exact fun name hname => nomatch hname
  · exact hlearned entry hentry
  · exact hrecord record rfl

theorem authenticatingOp_of_isQuiet {op : Op} (hquiet : op.isQuiet) : AuthenticatingOp op := by
  constructor
  · cases op with
    | quicConnect | insert | sendRequest => cases hquiet
    | _ => exact trivial
  · intro probe hspawn
    rw [hspawn] at hquiet
    cases hquiet

theorem quicName?_transport {stream : TcpStream} : (origin.transport stream).quicName? = none := by
  rw [Origin.transport]
  cases origin.scheme with
  | http | https => rfl

/-- The contract of QUIC connections. -/
def authenticationContract (session : Session) (proxy : Option ProxyConfig) :
    Contract session proxy where
  rely := AuthenticatedAnswer
  guarantee := AuthenticatingOp
  Hop _ hop := hop.target.url.host = some hop.target.host
  Carries := AuthenticatedFor
  Advertised key advertised := ∀ name ∈ advertised, name = key.host
  quiet _ hquiet := authenticatingOp_of_isQuiet hquiet
  resolvesProxies _ _ _ _ := ⟨trivial, fun _ => Op.noConfusion⟩
  resolves _ _ _ := ⟨trivial, fun _ => Op.noConfusion⟩
  looksUp _ _ := ⟨trivial, fun _ => Op.noConfusion⟩
  opened scheme host port stream _ name hname := by
    rw [quicName?_transport] at hname
    exact nomatch hname
  discovered _ _ _ _ hdiscovered := discovered_namesOrigin hdiscovered
  dials scheme host port advertised dial hadvertised horigin hname := by
    refine ⟨?_, fun _ => Op.noConfusion⟩
    calc dial.tls.serverName
        = advertised.getD host := hname
      _ = host := getD_of_forall_mem hadvertised
      _ = dial.origin.host := by rw [horigin]
  openedQuic scheme host port advertised serial relays target hadvertised _ name hname := by
    obtain rfl := Option.some.inj hname
    exact getD_of_forall_mem hadvertised
  acquired _ _ _ _ connection hfound := hfound connection rfl
  acquiredH3 _ _ _ connection hfound := hfound connection rfl
  pooled _ _ _ _ hcarries := ⟨hcarries, fun _ => Op.noConfusion⟩
  probesQuic scheme host port discovery hadvertised := by
    refine ⟨trivial, fun probe hspawn => ?_⟩
    cases hspawn
    exact ⟨⟨scheme, rfl⟩, hadvertised⟩
  probesTcp scheme host port version := by
    refine ⟨trivial, fun probe hspawn => ?_⟩
    cases hspawn
    exact ⟨rfl, trivial⟩
  sent request hop isH1 built connection hhop hkeyed hbuilt _ hcarries := by
    refine ⟨?_, fun _ => Op.noConfusion⟩
    intro name hname
    rw [hbuilt.url, hhop, hcarries name hname, hkeyed]
    rfl
  sentFirst _ _ _ _ _ _ _ _ := ⟨trivial, fun _ => Op.noConfusion⟩

def authenticationContracts (session : Session) : Contracts session where
  Proxy _ := True
  rely _ := AuthenticatedAnswer
  guarantee _ _ := AuthenticatingOp
  contract _ := authenticationContract session
  rely_eq _ _ := rfl
  guarantee_eq _ _ := rfl
  missed _ _ _ _ hfound := nomatch hfound
  missedH3 _ _ _ hfound := nomatch hfound
  found _ _ _ key version connection _ hinsert := forall_mem_some hinsert.1
  foundH3 _ _ _ key connection _ hinsert := forall_mem_some hinsert.1
  probes _ _ _ probe _ hspawn := by
    refine ⟨trivial, ?_⟩
    obtain ⟨hkeyed, hnames⟩ := hspawn.2 probe rfl
    cases probe with
    | quic =>
      obtain ⟨scheme, rfl⟩ := hkeyed
      exact ⟨scheme, rfl, hnames⟩
    | tcp => exact hkeyed

/-! ## Runs -/

/-- Along every run in which discovery hears of no other host, QUIC connections are opened for,
pooled under and used for the host that they were authenticated for. -/
theorem quic_authenticates_origin (session : Session) (calls : Nat → Call) (history : History)
    (hrun : SessionRun session calls history)
    (hnames : ∀ entry ∈ history, NamesOrigin entry.2.1 entry.2.2) :
    ∀ entry ∈ history, entry.2.1.AuthenticatesOrigin := by
  intro entry hentry
  apply ((authenticationContracts session).run_guarantee hrun ?_ ?_ entry hentry).2.1
  · intro index hnone
    refine ⟨trivial, Contract.admits_ofHops rfl ?_ ?_⟩
    · exact fun _ _ _ htarget => htarget.host
    · exact fun probe hprobe => absurd hprobe (hnone probe)
  · intro entry hentry hasks
    have hnamed := hnames entry hentry
    obtain ⟨index, op, answer⟩ := entry
    cases op with
    | tryAcquire key version | tryAcquireH3 key => cases hasks
    | learnedState route origin | lookupHttps host => exact hnamed
    | _ => exact trivial

/-- A session that opens QUIC wherever discovery allows it. -/
def quicSession : Session :=
  { Session.plain (.ofTable [("https://a.example/".toList,
      ⟨"https".toList, [], none, some "a.example".toList, none, "/".toList, none, none⟩)]) with
    hasQuicProfile := true
    protocolPolicy := ⟨.preferH3, .establishBestAvailable, .off, .allowFallback⟩ }

def quicCall : Call := .send (.plain "GET".toList "https://a.example/".toList) 1

/-- A network where the origin has advertised HTTP/3 on a host, or on its own if there is none. -/
def altSvcNetwork (host : Option Text) : (op : Op) → Ans op
  | .learnedState .. => ⟨some ⟨host, 443⟩, .advertised⟩
  | op => calmNetwork op

/-- The history of the call in that network. -/
def altSvcHistory (host : Option Text) : History :=
  soloHistory quicSession quicCall (fun _ => altSvcNetwork host) []

theorem altSvc_run (host : Option Text) :
    SessionRun quicSession (fun _ => quicCall) (altSvcHistory host) :=
  .solo [] (fun _ => Call.noConfusion) (fun _ _ _ => rfl) fun _ _ => rfl

theorem altSvc_namesOrigin : ∀ entry ∈ altSvcHistory none, NamesOrigin entry.2.1 entry.2.2 := by
  intro entry hentry
  obtain ⟨event, hevent, rfl⟩ := List.mem_map.mp hentry
  obtain ⟨past, hanswer⟩ := Prog.mem_run hevent
  obtain ⟨op, answer⟩ := event
  obtain rfl : answer = altSvcNetwork none op := hanswer
  cases op with
  | learnedState route origin =>
    rintro entry ⟨⟩ host hhost
    exact nomatch hhost
  | lookupHttps => exact fun found hfound => nomatch hfound
  | _ => exact trivial

/-- Without another host, the one QUIC connection is authenticated for the origin. -/
theorem quic_authenticates_origin_same_host :
    ((altSvcHistory none).any fun entry => entry.2.1 matches .quicConnect _) = true ∧
      ∀ entry ∈ altSvcHistory none, entry.2.1.AuthenticatesOrigin :=
  ⟨by decide +kernel, quic_authenticates_origin _ _ _ (altSvc_run none) altSvc_namesOrigin⟩

/-- The host of an `Alt-Svc` header gets the name and the request of the origin. -/
theorem quic_authenticates_alternative :
    SessionRun quicSession (fun _ => quicCall) (altSvcHistory (some "b.example".toList)) ∧
      ¬∀ entry ∈ altSvcHistory (some "b.example".toList), entry.2.1.AuthenticatesOrigin :=
  ⟨altSvc_run _, by decide +kernel⟩

end LkRequest.Client
