import LkRequest.Client.Transport

/-!
# The choice of a protocol

What `decide_protocol` owes to the policy and to discovery. It reads the learned state, in which an
endpoint that only DNS names does not show, and it takes QUIC for every acquisition that is neither
a race of both transports nor reuse.
-/

namespace LkRequest.Client

open Library Option

/-- `should_attempt_quic`. -/
def QuicDiscovery.shouldAttemptQuic (discovery : QuicDiscovery) : Bool :=
  (discovery.forceAttempt || discovery.source.isSome) && discovery.skipReason.isNone

def AcquisitionPolicy.enablesQuic : AcquisitionPolicy → Bool
  | .race policy => policy.enableQuic
  | _ => true

def HttpIntent.prefersH3 : HttpIntent → Bool
  | acquireH3WhenViable | preferH3 => true
  | _ => false

/-- Both the intent and the version can force HTTP/3. -/
def forcesH3 (version : PreferredHttpVersion) (policy : ProtocolPolicy) : Bool :=
  version == .http3Only || policy.intent == .h3Only

/-- Connections are reused first, and no upgrade is forced. -/
def ProtocolPolicy.reusesFirst (policy : ProtocolPolicy) : Bool :=
  policy.acquisition == .reuseExistingFirst && !policy.upgrade.isForce

/-- What the decision owes to the policy and to discovery. -/
structure HonoursDiscovery (version : PreferredHttpVersion) (policy : ProtocolPolicy)
    (discovery : QuicDiscovery) : Prop where
  enabled : decideProtocol version policy discovery ≠ .tcp →
    policy.acquisition.enablesQuic ∨ forcesH3 version policy
  attempted : policy.intent.prefersH3 → policy.acquisition.enablesQuic →
    discovery.source.isSome → discovery.shouldAttemptQuic → ¬policy.reusesFirst →
      decideProtocol version policy discovery ≠ .tcp

/-- Where HTTP/3 is preferred, not forced, and not ruled out: QUIC is enabled if H3 is known, and H3
is known, for reuse validated, if QUIC is enabled and an endpoint was found. -/
def KnownWhereEnabled (version : PreferredHttpVersion) (policy : ProtocolPolicy)
    (discovery : QuicDiscovery) : Prop :=
  let status := discovery.learnedState.h3Status
  policy.intent.prefersH3 → ¬forcesH3 version policy → discovery.skipReason = none →
    (status.isKnown → policy.acquisition.enablesQuic) ∧
    (policy.acquisition.enablesQuic → discovery.source.isSome → ¬policy.reusesFirst →
      status.isKnown ∧ (policy.acquisition = .reuseExistingFirst → status = .validated))

/-- A discovery that does not rule out QUIC is one for a version that allows it, and tells whether
it is forced. -/
def Coherent (version : PreferredHttpVersion) (policy : ProtocolPolicy)
    (discovery : QuicDiscovery) : Prop :=
  discovery.skipReason = none →
    version ≠ .http1Only ∧ version ≠ .http2Only ∧ discovery.forceAttempt = forcesH3 version policy

section

attribute [grind] QuicDiscovery.shouldAttemptQuic AcquisitionPolicy.enablesQuic
  HttpIntent.prefersH3 forcesH3 ProtocolPolicy.reusesFirst KnownWhereEnabled Coherent

variable {version : PreferredHttpVersion} {policy : ProtocolPolicy} {discovery : QuicDiscovery}
  (hcoherent : Coherent version policy discovery)

include hcoherent

theorem HonoursDiscovery.known (hhonours : HonoursDiscovery version policy discovery) :
    KnownWhereEnabled version policy discovery := by
  obtain ⟨intent, acquisition, upgrade, fallback⟩ := policy
  obtain ⟨henabled, hattempted⟩ := hhonours
  have hopen : discovery.skipReason.isNone = true ↔ discovery.skipReason = none :=
    isNone_iff_eq_none
  cases intent <;> cases acquisition <;>
    grind [decideProtocol, decideForH3, decideForReuse, H3Reachability.isKnown]

section

variable (hknown : KnownWhereEnabled version policy discovery)
include hknown

theorem KnownWhereEnabled.enabled (htaken : decideProtocol version policy discovery ≠ .tcp) :
    policy.acquisition.enablesQuic ∨ forcesH3 version policy := by
  obtain ⟨intent, acquisition, upgrade, fallback⟩ := policy
  have hskipped : discovery.skipReason.isSome = true ↔ discovery.skipReason ≠ none :=
    isSome_iff_ne_none
  cases intent <;> cases acquisition <;>
    grind [decideProtocol, decideForH3, decideForReuse, H3Reachability.isKnown]

theorem KnownWhereEnabled.honoured : HonoursDiscovery version policy discovery := by
  refine ⟨hknown.enabled hcoherent, ?_⟩
  obtain ⟨intent, acquisition, upgrade, fallback⟩ := policy
  have hskipped : discovery.skipReason.isSome = true ↔ discovery.skipReason ≠ none :=
    isSome_iff_ne_none
  have hopen : discovery.skipReason.isNone = true ↔ discovery.skipReason = none :=
    isNone_iff_eq_none
  cases intent <;> cases acquisition <;>
    grind [decideProtocol, decideForH3, decideForReuse, H3Reachability.isKnown]

end

end

theorem always_coherent (session : Session) (scheme : Scheme) (host : Text) (port : Nat)
    (proxy : Option ProxyConfig) (policy : ProtocolPolicy) (version : PreferredHttpVersion) :
    (discoverQuicSupport session scheme host port proxy policy version).Always (fun _ _ => True)
      (fun _ => True) (Coherent version policy) := by
  have hskipped (route : RouteKey) (origin : Origin) (reason : QuicSkipReason) :
      (pure (.skipped route origin reason) : Task QuicDiscovery).Always (fun _ _ => True)
        (fun _ => True) (Coherent version policy) := Prog.always_pure.mpr nofun
  unfold discoverQuicSupport
  extract_lets origin route
  split
  · exact hskipped _ _ _
  split
  · exact hskipped _ _ _
  next hversion =>
    split
    · exact hskipped _ _ _
    refine ⟨trivial, fun learned _ => ?_⟩
    have hdone (record : Option HttpsRecord) (routeBroken : Bool) (isHttpProxy : Bool) :
        Coherent version policy (.assemble route origin isHttpProxy
          (version == .http3Only || policy.intent == .h3Only) learned record routeBroken) :=
      fun _ => ⟨fun hone => hversion (.inl hone), fun htwo => hversion (.inr htwo), rfl⟩
    apply Prog.always_bind.mpr
    rw [dnsHttpsRecord]
    split
    · exact ⟨trivial, fun record _ => ⟨trivial, fun routeBroken _ => hdone _ _ _⟩⟩
    · exact ⟨trivial, fun routeBroken _ => hdone _ _ _⟩

/-- For every policy, version and result of discovery, the decision honours them exactly if, where
HTTP/3 is preferred and neither forced nor ruled out, H3 is known if and only if it should be. -/
theorem decision_honours_discovery_iff (session : Session) (scheme : Scheme) (host : Text)
    (port : Nat) (proxy : Option ProxyConfig) (policy : ProtocolPolicy)
    (version : PreferredHttpVersion) :
    (discoverQuicSupport session scheme host port proxy policy version).Always (fun _ _ => True)
      (fun _ => True) fun discovery =>
        (HonoursDiscovery version policy discovery ↔ KnownWhereEnabled version policy discovery) :=
  (always_coherent ..).mono fun _ hcoherent => ⟨(·.known hcoherent), (·.honoured hcoherent)⟩

/-- The race of a policy that `validate` accepts turns QUIC off and QUIC is chosen, and an endpoint
of an HTTPS record is found and TCP is chosen. -/
theorem decision_ignores_policy_and_dns :
    let session := { Session.plain (.ofTable []) with hasQuicProfile := true }
    let tcpOnly : ProtocolPolicy := ⟨.preferH3, .race ⟨true, false, 0, false⟩, .off, .allowFallback⟩
    let best : ProtocolPolicy := ⟨.preferH3, .establishBestAvailable, .off, .allowFallback⟩
    (tcpOnly.validate = .ok () ∧
      ¬(discoverQuicSupport session .https "example.com".toList 443 none tcpOnly .auto).Always
        (fun _ _ => True) (fun _ => True) (HonoursDiscovery .auto tcpOnly)) ∧
    (best.validate = .ok () ∧
      ¬(discoverQuicSupport session .https "example.com".toList 443 none best .auto).Always
        (fun _ _ => True) (fun _ => True) (HonoursDiscovery .auto best)) := by
  refine ⟨⟨rfl, fun halways => ?_⟩, ⟨rfl, fun halways => ?_⟩⟩
  · have hhonours := ((halways.2 ⟨some ⟨none, 443⟩, .advertised⟩ trivial).2 none trivial).2 false
      trivial
    exact absurd (hhonours.enabled (by decide)) (by decide)
  · have hhonours := ((halways.2 ⟨none, .unknown⟩ trivial).2
      (some ⟨none, ["h3".toList], none, none⟩) trivial).2 false trivial
    exact hhonours.attempted rfl rfl rfl rfl (by decide) rfl

end LkRequest.Client
