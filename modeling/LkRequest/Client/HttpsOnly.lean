import LkRequest.Client.Sessions

/-!
# Requests in clear text

`https_only` and the HSTS policy are applied in the redirect loop, so they reach every hop of a
buffered request. A streamed request does not go through that loop.
-/

namespace LkRequest.Client

open Library

/-! ## Cleartext requests -/

/-- A request for a URL may go out in clear text: `https_only` is off, and the policy does not cover
the host. -/
def MayBeCleartext (session : Session) (covered : Text → Prop) (url : Url) : Prop :=
  session.httpsOnly = false ∧ ∀ host ∈ url.host, ¬covered host

/-- Requests that may not go out in clear text do not. -/
def Op.IsProtected (session : Session) (covered : Text → Prop) : Op → Prop
  | .sendRequest connection request => connection.transport.isCleartext = true →
      MayBeCleartext session covered request.url
  | .h2Handshake transport (some first) => transport.isCleartext = true →
      MayBeCleartext session covered first.url
  | _ => True

instance {session : Session} {covered : Text → Prop} [DecidablePred covered] :
    DecidablePred (Op.IsProtected session covered) := fun op => by
  unfold Op.IsProtected MayBeCleartext
  induction op using Op.casesOn with
  | h2Handshake _ first =>
    induction first using Option.casesOn <;> dsimp only <;> infer_instance
  | _ =>
    dsimp only
    infer_instance

/-- The policy says to upgrade the hosts that it covers. -/
def UpgradesCovered (covered : Text → Prop) : (op : Op) → Ans op → Prop
  | .shouldUpgrade host, answer => covered host → answer = true
  | _, _ => True

/-- No call streams a request for an `http` URL that `https_only` or the policy is about. -/
def Call.StreamsProtected (session : Session) (covered : Text → Prop) : Call → Prop
  | .sendStreaming request => ∀ text url, requestUrl session request = .ok text →
      session.urls.parse text = .ok url → url.scheme = "http".toList →
        MayBeCleartext session covered url
  | _ => True

/-! ## Upgrades -/

section Upgrade

variable {covered : Text → Prop} {rely : (op : Op) → Ans op → Prop} {guarantee : Op → Prop}
  {url : Url} {urls : UrlCrate} {text : Text}

/-- An upgraded URL has the scheme `https`, also when it is parsed again. -/
theorem upgraded_of_host (hlawful : urls.Lawful)
    (hparse : urls.parse text = .ok url) (hscheme : url.scheme = "http".toList)
    (hhost : url.host.isSome = true) :
    ∃ upgraded, urls.upgraded url = some upgraded ∧
      urls.parse (urls.render upgraded) = .ok upgraded ∧ upgraded.scheme = "https".toList := by
  obtain ⟨port, hsecure⟩ := hlawful.setScheme url hhost hscheme
  have hupgraded : ∃ upgraded, urls.upgraded url = some upgraded ∧
      upgraded.scheme = "https".toList := by
    rw [UrlCrate.upgraded, hsecure]
    by_cases hport : port = some 80
    · obtain ⟨stored, hstored⟩ := hlawful.setPort { url with scheme := "https".toList, port := port }
        443 hhost
      exact ⟨_, (if_pos hport).trans hstored, rfl⟩
    · exact ⟨_, if_neg hport, rfl⟩
  obtain ⟨upgraded, hupgraded, hhttps⟩ := hupgraded
  exact ⟨upgraded, hupgraded, hlawful.parseBack text url upgraded hparse hscheme hupgraded, hhttps⟩

/-- What the loop goes on with: the upgraded URL has the scheme `https`, and a URL that was left
alone is not one of a covered host. -/
theorem always_hstsUpgrade_secure (hlawful : urls.Lawful) (hquiet : ∀ op, op.isQuiet → guarantee op)
    (hcovers : ∀ host answer, rely (.shouldUpgrade host) answer → covered host → answer = true) :
    (hstsUpgrade urls text).Always rely guarantee fun upgraded =>
      ∀ url, urls.parse (upgraded.getD text) = .ok url → url.scheme = "http".toList →
        ∀ host ∈ url.host, ¬covered host := by
  rw [hstsUpgrade]
  cases hparse : urls.parse text with
  | error reason =>
    intro url hurl
    cases hparse.symm.trans hurl
  | ok url =>
    dsimp only
    split
    · rename_i hscheme
      intro parsed hparsed hhttp
      obtain rfl := Except.ok.inj (hparse.symm.trans hparsed)
      exact absurd hhttp hscheme
    · rename_i hscheme
      have hscheme : url.scheme = "http".toList := not_not.mp hscheme
      cases hhost : url.host with
      | none =>
        intro parsed hparsed _ host hmem
        obtain rfl := Except.ok.inj (hparse.symm.trans hparsed)
        cases hhost.symm.trans hmem
      | some =>
        apply always_ask (hquiet _ rfl)
        intro answer hanswer
        cases answer with
        | false =>
          intro parsed hparsed _ name hmem hcovered
          obtain rfl := Except.ok.inj (hparse.symm.trans hparsed)
          obtain rfl := Option.some.inj (hhost.symm.trans hmem)
          exact absurd (hcovers _ _ hanswer hcovered) Bool.false_ne_true
        | true =>
          obtain ⟨upgraded, hupgraded, hagain, hhttps⟩ :=
            upgraded_of_host hlawful hparse hscheme (by rw [hhost]; rfl)
          intro parsed hparsed hhttp
          rw [hupgraded] at hparsed
          obtain rfl := Except.ok.inj (hagain.symm.trans hparsed)
          exact absurd (hhttps.symm.trans hhttp) (by decide)

end Upgrade

/-! ## The contract -/

/-- Only origins without TLS are served in clear text. -/
def CleartextFor (key : ConnectionKey) (transport : Transport) : Prop :=
  transport.isCleartext = true → key.scheme = .http

/-- What is assumed of the answers: of the pool, and of the policy. -/
def ProtectedAnswer (covered : Text → Prop) : (op : Op) → Ans op → Prop
  | .tryAcquire key _, found =>
    ∀ connection ∈ (found : Option Connection), CleartextFor key connection.transport
  | .tryAcquireH3 key, found =>
    ∀ connection ∈ (found : Option Connection), CleartextFor key connection.transport
  | op, answer => UpgradesCovered covered op answer

def ProtectingOp (session : Session) (covered : Text → Prop) (op : Op) : Prop :=
  op.IsProtected session covered ∧
    (∀ key connection, op = .insert key connection → CleartextFor key connection.transport) ∧
      ∀ probe, op = .spawn probe → probe.Keyed

section Contract

variable (session : Session) (covered : Text → Prop) {proxy : Option ProxyConfig} {text : Text}

theorem protectingOp_of_isQuiet {op : Op} (hquiet : op.isQuiet) :
    ProtectingOp session covered op := by
  refine ⟨?_, fun key connection hinsert => ?_, fun probe hspawn => ?_⟩
  · cases op with
    | sendRequest connection request => cases hquiet
    | h2Handshake transport first =>
      cases first with
      | none => exact trivial
      | some request => cases hquiet
    | _ => exact trivial
  · rw [hinsert] at hquiet
    cases hquiet
  · rw [hspawn] at hquiet
    cases hquiet

theorem isCleartext_transport {origin : Origin} {stream : TcpStream}
    (hclear : (origin.transport stream).isCleartext = true) : origin.scheme = .http := by
  rw [Origin.transport] at hclear
  cases hscheme : origin.scheme with
  | http => rfl
  | https =>
    rw [hscheme] at hclear
    cases hclear

/-- A hop to an origin without TLS is for a URL that may go out in clear text. -/
def ProtectedHop (hop : RequestHop) : Prop :=
  hop.target.scheme = .http → MayBeCleartext session covered hop.target.url

/-- A hop that is protected may be sent over what serves its origin. -/
theorem ProtectedHop.mayBeCleartext {hop : RequestHop}
    {transport : Transport} (hhop : ProtectedHop session covered hop)
    (hkeyed : hop.target.Keyed proxy) (hcarries : CleartextFor hop.target.key transport)
    (hclear : transport.isCleartext = true) : MayBeCleartext session covered hop.target.url := by
  apply hhop
  have hscheme := hcarries hclear
  rw [hkeyed] at hscheme
  exact hscheme

/-- The contract of cleartext requests. -/
def cleartextContract (proxy : Option ProxyConfig) : Contract session proxy where
  rely := ProtectedAnswer covered
  guarantee := ProtectingOp session covered
  Hop _ hop := ProtectedHop session covered hop
  Carries := CleartextFor
  Advertised _ _ := True
  quiet _ hquiet := protectingOp_of_isQuiet session covered hquiet
  resolvesProxies _ _ _ _ := ⟨trivial, fun _ _ => Op.noConfusion, fun _ => Op.noConfusion⟩
  resolves _ _ _ := ⟨trivial, fun _ _ => Op.noConfusion, fun _ => Op.noConfusion⟩
  looksUp _ _ := ⟨trivial, fun _ _ => Op.noConfusion, fun _ => Op.noConfusion⟩
  opened _ _ _ _ _ := isCleartext_transport
  discovered _ _ _ _ _ := trivial
  dials _ _ _ _ _ _ _ _ := ⟨trivial, fun _ _ => Op.noConfusion, fun _ => Op.noConfusion⟩
  openedQuic _ _ _ _ _ _ _ _ _ hclear := absurd hclear Bool.false_ne_true
  acquired _ _ _ _ connection hfound := hfound connection rfl
  acquiredH3 _ _ _ connection hfound := hfound connection rfl
  pooled scheme host port connection hcarries := by
    refine ⟨trivial, fun key inserted hinsert => ?_, fun _ => Op.noConfusion⟩
    cases hinsert
    exact hcarries
  probesQuic scheme host port discovery _ := by
    refine ⟨trivial, fun _ _ => Op.noConfusion, fun probe hspawn => ?_⟩
    cases hspawn
    exact ⟨scheme, rfl⟩
  probesTcp scheme host port version := by
    refine ⟨trivial, fun _ _ => Op.noConfusion, fun probe hspawn => ?_⟩
    cases hspawn
    rfl
  sent request hop isH1 built connection hhop hkeyed hbuilt _ hcarries := by
    refine ⟨fun hclear => ?_, fun _ _ => Op.noConfusion, fun _ => Op.noConfusion⟩
    rw [hbuilt.url]
    exact hhop.mayBeCleartext session covered hkeyed hcarries hclear
  sentFirst request hop built transport hhop hkeyed hbuilt hcarries := by
    refine ⟨fun hclear => ?_, fun _ _ => Op.noConfusion, fun _ => Op.noConfusion⟩
    rw [hbuilt.url]
    exact hhop.mayBeCleartext session covered hkeyed hcarries hclear

def cleartextContracts (covered : Nat → Text → Prop) : Contracts session where
  Proxy _ := True
  rely index := ProtectedAnswer (covered index)
  guarantee index _ := ProtectingOp session (covered index)
  contract index := cleartextContract session (covered index)
  rely_eq _ _ := rfl
  guarantee_eq _ _ := rfl
  missed _ _ _ _ hfound := nomatch hfound
  missedH3 _ _ _ hfound := nomatch hfound
  found _ _ _ key version connection _ hinsert := forall_mem_some (hinsert.2.1 key connection rfl)
  foundH3 _ _ _ key connection _ hinsert := forall_mem_some (hinsert.2.1 key connection rfl)
  probes _ _ _ probe _ hspawn := by
    refine ⟨trivial, ?_⟩
    have hkeyed := hspawn.2.2 probe rfl
    cases probe with
    | quic =>
      obtain ⟨scheme, hkey⟩ := hkeyed
      exact ⟨scheme, hkey, trivial⟩
    | tcp => exact hkeyed

/-! ## Calls -/

variable {session covered}

/-- A URL that `https_only` does not refuse. -/
theorem httpsOnly_of_not_refused {url : Url}
    (hallowed : httpsOnlyRefuses session text = false) (hparse : session.urls.parse text = .ok url)
    (hscheme : url.scheme = "http".toList) : session.httpsOnly = false := by
  rw [httpsOnlyRefuses, hparse] at hallowed
  rcases Bool.and_eq_false_iff.mp hallowed with hoff | hother
  · exact hoff
  · rw [bne_eq_false_iff_eq.mp hother] at hscheme
    cases hscheme

theorem ParsedTarget.Of.http {urls : UrlCrate}
    {target : ParsedTarget} (htarget : target.Of urls text proxy)
    (hscheme : target.scheme = .http) : target.url.scheme = "http".toList := by
  rcases htarget.scheme with ⟨-, hhttps⟩ | ⟨hhttp, -⟩
  · exact nomatch hscheme.symm.trans hhttps
  · exact hhttp

/-- The redirect loop upgrades or refuses what may not go out in clear text, on every hop. -/
def protectedChain {proxy : Option ProxyConfig} (hlawful : session.urls.Lawful) :
    (cleartextContract session covered proxy).Chain where
  State state := state.request.effectiveProxy session = proxy
  Upgraded text upgraded := ∀ url, session.urls.parse (upgraded.getD text) = .ok url →
    url.scheme = "http".toList → ∀ host ∈ url.host, ¬covered host
  proxied _ hstate := hstate
  upgrades _ := always_hstsUpgrade_secure hlawful
    (fun op hquiet => protectingOp_of_isQuiet session covered hquiet)
    fun host answer hanswer => hanswer
  admitted state upgraded _ huncovered hallowed target htarget hscheme := by
    have hhttp := htarget.http hscheme
    exact ⟨httpsOnly_of_not_refused hallowed htarget.parsed hhttp,
      huncovered target.url htarget.parsed hhttp⟩
  next := Contract.next_effectiveProxy

theorem cleartext_admits (hlawful : session.urls.Lawful) {call : Call}
    (hprobe : ∀ probe, call ≠ .probe probe) (hstreams : call.StreamsProtected session covered) :
    (cleartextContract session covered (call.proxy session)).Admits call := by
  cases call with
  | send request attempts => exact ⟨protectedChain hlawful, fun _ _ => rfl⟩
  | sendStreaming request =>
    intro text target htext htarget hscheme
    exact hstreams text target.url htext htarget.parsed (htarget.http hscheme)
  | preconnect text | websocket text => exact trivial
  | probe probe => exact absurd rfl (hprobe probe)

end Contract

/-! ## Runs -/

/-- The two URLs of a host, with and without TLS. -/
def bothSchemes : List (Text × Url) :=
  [("http://a.example/".toList,
      ⟨"http".toList, [], none, some "a.example".toList, none, "/".toList, none, none⟩),
    ("https://a.example/".toList,
      ⟨"https".toList, [], none, some "a.example".toList, none, "/".toList, none, none⟩)]

theorem bothSchemes_lawful : (UrlCrate.ofTable bothSchemes).Lawful where
  setScheme url _ _ := ⟨url.port, rfl⟩
  setPort url port _ := ⟨_, rfl⟩
  parseBack text url secure hparse hscheme hsecure := by
    have htable : ∀ entry ∈ bothSchemes, ∀ secure ∈
        (UrlCrate.ofTable bothSchemes).upgraded entry.2,
        entry.2.scheme = "http".toList → (UrlCrate.ofTable bothSchemes).parse
          ((UrlCrate.ofTable bothSchemes).render secure) = .ok secure := by
      decide +kernel
    obtain ⟨entry, hentry, rfl⟩ := UrlCrate.mem_of_ofTable_parse hparse
    exact htable entry hentry secure hsecure hscheme

/-- A session for these URLs, with `https_only` on or off. -/
def schemeSession (httpsOnly : Bool) : Session :=
  { Session.plain (.ofTable bothSchemes) with httpsOnly := httpsOnly }

def httpRequest : RequestBuilder := .plain "GET".toList "http://a.example/".toList

/-- A network with a policy that covers every host. -/
def hstsNetwork : (op : Op) → Ans op
  | .shouldUpgrade _ => true
  | op => calmNetwork op

/-- The history of a call in that network. -/
def hstsHistory (httpsOnly : Bool) (call : Call) : History :=
  soloHistory (schemeSession httpsOnly) call (fun _ => hstsNetwork) []

theorem hsts_upgradesCovered (httpsOnly : Bool) {call : Call} :
    ∀ entry ∈ hstsHistory httpsOnly call, UpgradesCovered (fun _ => True) entry.2.1 entry.2.2 := by
  intro entry hentry
  obtain ⟨event, hevent, rfl⟩ := List.mem_map.mp hentry
  obtain ⟨past, hanswer⟩ := Prog.mem_run hevent
  obtain ⟨op, answer⟩ := event
  obtain rfl : answer = hstsNetwork op := hanswer
  cases op with
  | shouldUpgrade => exact fun _ => rfl
  | _ => exact trivial

end LkRequest.Client
