import LkRequest.Client.Sessions

/-!
# Remote name resolution

A proxy that resolves names remotely must keep them from the local resolver. Only the names of the
proxies on the path are resolved locally, whatever a call is told by caches, records and policies.
-/

namespace LkRequest.Client

open Library

/-- What a call through a proxy may ask of the local resolver: the addresses of the proxies. The
probes that it leaves behind go through the same proxy. -/
def Op.KeepsNames (proxy : ProxyConfig) : Op → Prop
  | .resolve host port => ∃ hop ∈ proxy.path, hop.scheme.host = host ∧ hop.scheme.port = port
  | .lookupHttps _ => False
  | .spawn probe => probe.proxy = some proxy
  | _ => True

section Names

variable {session : Session} {proxy : ProxyConfig}
  (hremote : proxyUsesRemoteDns (some proxy) = true)
  (hdirect : session.fallback.proxyToDirect = false)

theorem Op.KeepsNames.of_isQuiet {op : Op} (hquiet : op.isQuiet) : op.KeepsNames proxy := by
  cases op with
  | resolve host port | lookupHttps host | spawn probe => cases hquiet
  | _ => exact trivial

/-- The contract of a route with remote resolution. -/
def namesContract : Contract session (some proxy) where
  rely _ _ := True
  guarantee := Op.KeepsNames proxy
  Hop _ _ := True
  Carries _ _ := True
  Advertised _ _ := True
  quiet _ hquiet := .of_isQuiet hquiet
  resolvesProxies config hconfig hop hhop := by
    obtain rfl := Option.some.inj hconfig
    exact ⟨hop, hhop, rfl, rfl⟩
  resolves hlocal := by
    rw [hremote, hdirect] at hlocal
    rcases hlocal with hlocal | hlocal
    · cases hlocal
    · cases hlocal
  looksUp hlocal := by
    rw [hremote] at hlocal
    cases hlocal
  opened _ _ _ _ _ := trivial
  discovered _ _ _ _ _ := trivial
  dials _ _ _ _ _ _ _ _ := trivial
  openedQuic _ _ _ _ _ _ _ _ _ := trivial
  acquired _ _ _ _ _ _ := trivial
  acquiredH3 _ _ _ _ _ := trivial
  pooled _ _ _ _ _ := trivial
  probesQuic _ _ _ _ _ := rfl
  probesTcp _ _ _ _ := rfl
  sent _ _ _ _ _ _ _ _ _ _ := trivial
  sentFirst _ _ _ _ _ _ _ _ := trivial

end Names

/-- On a route with remote resolution no call and no probe asks the local resolver for a name other
than those of the proxies. -/
theorem remote_dns_keeps_names (session : Session) (calls : Nat → Call) (history : History)
    (hrun : SessionRun session calls history) (hdirect : session.fallback.proxyToDirect = false)
    (entry : Nat × Prog.Event Op Ans) (hentry : entry ∈ history) (proxy : ProxyConfig)
    (hproxy : (calls entry.1).proxy session = some proxy)
    (hremote : proxyUsesRemoteDns (some proxy) = true) : entry.2.1.KeepsNames proxy := by
  have hadmits : (namesContract hremote hdirect).Admits (calls entry.1) := by
    apply Contract.admits_ofHops hproxy (fun _ _ _ _ => trivial)
    intro probe hcall
    have hkeyed := hrun.keyed hentry hcall
    rw [hcall] at hproxy ⊢
    cases probe with
    | quic host port key discovery route =>
      obtain rfl : route = some proxy := hproxy
      obtain ⟨scheme, hkey⟩ := hkeyed
      exact ⟨scheme, hkey, trivial⟩
    | tcp host port scheme key route version =>
      obtain rfl : route = some proxy := hproxy
      exact hkeyed
  obtain ⟨result, htrace⟩ := hrun.shared entry.1
  obtain ⟨before, after, hsplit⟩ := List.append_of_mem hentry
  have hevents : Prog.eventsOf entry.1 history =
      Prog.eventsOf entry.1 before ++ entry.2 :: Prog.eventsOf entry.1 after := by
    rw [hsplit]
    simp [Prog.eventsOf]
  rw [hevents] at htrace
  exact (Contract.always_call hproxy hadmits).trace htrace fun _ _ => trivial

/-- A `socks5h` proxy with an HTTP proxy before it. -/
def socks5hProxy : ProxyConfig :=
  .mk ⟨.socks5 "exit.example".toList 1080 true, none⟩
    [.single ⟨.http "entry.example".toList 3128, none⟩]

/-- A session that sends everything through the two proxies. -/
def socks5hSession : Session :=
  { Session.plain (.ofTable [("https://a.example/".toList,
      ⟨"https".toList, [], none, some "a.example".toList, none, "/".toList, none, none⟩)]) with
    proxy := some socks5hProxy }

def socks5hCall : Call := .send (.plain "GET".toList "https://a.example/".toList) 1

/-- The call resolves the name of the first proxy and no other. -/
theorem remote_dns_keeps_names_socks5h :
    ((soloHistory socks5hSession socks5hCall (fun _ => calmNetwork) []).any fun entry =>
        entry.2.1 matches .resolve ..) = true ∧
      ∀ entry ∈ soloHistory socks5hSession socks5hCall (fun _ => calmNetwork) [],
        entry.2.1.KeepsNames socks5hProxy := by
  constructor
  · decide +kernel
  · intro entry hentry
    have hrun : SessionRun socks5hSession (fun _ => socks5hCall)
        (soloHistory socks5hSession socks5hCall (fun _ => calmNetwork) []) :=
      .solo [] (fun _ => Call.noConfusion) (fun _ _ _ => rfl) fun _ _ => rfl
    exact remote_dns_keeps_names _ _ _ hrun rfl entry hentry socks5hProxy rfl rfl

end LkRequest.Client
