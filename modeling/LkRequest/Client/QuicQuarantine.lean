import LkRequest.Client.Policy

/-!
# The quarantine of QUIC

The tables of `alt_svc.rs`: advertisements, validations, and failures of QUIC for an origin on a
route and for a whole route. `is_broken_for_route` and `learned_protocol_state_for_route` read the
failures by different rules.
-/

namespace LkRequest.Client

open Function Library

/-- Times are in nanoseconds. -/
structure BrokenQuicConfig where
  maxEntries : Nat
  initialCooldown : Nat
  maxCooldown : Nat
  failureEscalationThreshold : Nat
  enabled : Bool
  routeCooldown : Nat
  maxRouteEntries : Nat

def seconds (count : Nat) : Nat := count * 10 ^ 9

def BrokenQuicConfig.default : BrokenQuicConfig :=
  ⟨1024, seconds 300, seconds 3600, 4, true, seconds 1800, 256⟩

inductive BrokenQuicPolicy where
  | strict
  | resilient
  | disabled
  | custom (config : BrokenQuicConfig)

def BrokenQuicPolicy.resolve : BrokenQuicPolicy → BrokenQuicConfig
  | strict => .default
  | resilient =>
    { BrokenQuicConfig.default with
      initialCooldown := seconds 1
      maxCooldown := seconds 10
      failureEscalationThreshold := 2 ^ 32 - 1
      routeCooldown := seconds 60 }
  | disabled => { BrokenQuicConfig.default with enabled := false }
  | custom config => config

structure RouteOriginKey where
  route : RouteKey
  origin : Origin
  deriving DecidableEq

/-- An entry of either table of failures; a route is not counted. -/
structure BrokenEntry where
  failedAt : Nat
  cooldown : Nat
  failureCount : Nat

def BrokenEntry.isActive (entry : BrokenEntry) (now : Nat) : Bool :=
  now - entry.failedAt < entry.cooldown

/-! ## Tables -/

/-- A hash map of failures, in the order of its iteration. -/
abbrev BrokenTable (κ : Type) := List (κ × BrokenEntry)

namespace BrokenTable

variable {κ : Type} [DecidableEq κ]

def get (table : BrokenTable κ) (key : κ) : Option BrokenEntry :=
  (table.find? (·.1 = key)).map Prod.snd

def remove (table : BrokenTable κ) (key : κ) : BrokenTable κ := table.filter (·.1 ≠ key)

/-- The first of the entries with the oldest failure. -/
def oldest (table : BrokenTable κ) : Option κ :=
  (table.find? fun entry => table.all fun other => entry.2.failedAt ≤ other.2.failedAt).map Prod.fst

/-- A full table gives up its oldest entry for a new key. -/
def insert (table : BrokenTable κ) (limit : Nat) (key : κ) (entry : BrokenEntry) : BrokenTable κ :=
  let kept :=
    if (table.get key).isNone ∧ limit ≤ table.length then
      match table.oldest with
      | some victim => table.remove victim
      | none => table
    else table
  kept.remove key ++ [(key, entry)]

/-- The key has a failure whose cooldown has not run out. -/
def quarantined (table : BrokenTable κ) (key : κ) (now : Nat) : Bool :=
  (table.get key).any (·.isActive now)

/-- A lookup drops an entry whose cooldown has run out. -/
def expire (table : BrokenTable κ) (key : κ) (now : Nat) : BrokenTable κ :=
  if table.quarantined key now then table else table.remove key

end BrokenTable

structure BrokenQuicTracker where
  broken : BrokenTable RouteOriginKey
  brokenRoutes : BrokenTable RouteKey
  config : BrokenQuicConfig

namespace BrokenQuicTracker

def withConfig (config : BrokenQuicConfig) : BrokenQuicTracker := ⟨[], [], config⟩

/-- Interpolates from the initial to the longest cooldown; the step is cut to 64 bits. -/
def cooldownForFailure (config : BrokenQuicConfig) (failureCount : Nat) : Nat :=
  let threshold := max config.failureEscalationThreshold 1
  let clamped := min failureCount threshold
  if clamped ≤ 1 then min config.initialCooldown config.maxCooldown
  else
    let longest := max config.maxCooldown config.initialCooldown
    let span := longest - config.initialCooldown
    let step := (clamped - 1) * span / max (threshold - 1) 1 % 2 ^ 64
    min (config.initialCooldown + step) longest

def markBrokenForRoute (tracker : BrokenQuicTracker) (key : RouteOriginKey) (now : Nat) :
    BrokenQuicTracker :=
  let count :=
    match tracker.broken.get key with
    | some entry => if entry.isActive now then min (entry.failureCount + 1) (2 ^ 32 - 1) else 1
    | none => 1
  { tracker with
    broken := tracker.broken.insert tracker.config.maxEntries key
      ⟨now, cooldownForFailure tracker.config count, count⟩ }

def markWorkingForRoute (tracker : BrokenQuicTracker) (key : RouteOriginKey) : BrokenQuicTracker :=
  { tracker with broken := tracker.broken.remove key }

def markRouteBroken (tracker : BrokenQuicTracker) (route : RouteKey) (now : Nat) :
    BrokenQuicTracker :=
  { tracker with
    brokenRoutes := tracker.brokenRoutes.insert tracker.config.maxRouteEntries route
      ⟨now, tracker.config.routeCooldown, 1⟩ }

def markRouteWorking (tracker : BrokenQuicTracker) (route : RouteKey) : BrokenQuicTracker :=
  { tracker with brokenRoutes := tracker.brokenRoutes.remove route }

def isRouteBroken (tracker : BrokenQuicTracker) (route : RouteKey) (now : Nat) :
    Bool × BrokenQuicTracker :=
  if tracker.config.enabled then
    (tracker.brokenRoutes.quarantined route now,
      { tracker with brokenRoutes := tracker.brokenRoutes.expire route now })
  else (false, tracker)

def isBrokenForRoute (tracker : BrokenQuicTracker) (key : RouteOriginKey) (now : Nat) :
    Bool × BrokenQuicTracker :=
  if tracker.config.enabled then
    let (routeBroken, tracker) := tracker.isRouteBroken key.route now
    if routeBroken then (true, tracker)
    else
      (tracker.broken.quarantined key now, { tracker with broken := tracker.broken.expire key now })
  else (false, tracker)

def h3ReachabilityForRoute (tracker : BrokenQuicTracker) (key : RouteOriginKey) (now : Nat) :
    Option H3Reachability × BrokenQuicTracker :=
  ((tracker.broken.get key).bind fun entry =>
    if entry.isActive now then
      some (if max tracker.config.failureEscalationThreshold 1 ≤ entry.failureCount then
        .failedPersistently else .failedTransiently)
    else none,
    { tracker with broken := tracker.broken.expire key now })

end BrokenQuicTracker

/-! ## Advertisements -/

/-- A cached advertisement with its protocol and its lifetime. -/
structure CachedAltSvc where
  protocol : Text
  entry : AltSvcEntry
  maxAge : Nat
  storedAt : Nat

/-- `select_h3`. -/
def selectH3 (entries : List CachedAltSvc) : Option AltSvcEntry :=
  ((entries.find? (·.protocol = "h3".toList)).or
    (entries.find? fun cached => "h3-".toList.isPrefixOf cached.protocol)).map (·.entry)

structure AltSvcCache where
  entries : RouteOriginKey → List CachedAltSvc
  validated : RouteOriginKey → Option Nat

namespace AltSvcCache

def empty : AltSvcCache := ⟨fun _ => [], fun _ => none⟩

/-- Expired advertisements go, and with the last of them the validation. -/
def findH3ForRoute (cache : AltSvcCache) (key : RouteOriginKey) (now : Nat) :
    Option AltSvcEntry × AltSvcCache :=
  let fresh := (cache.entries key).filter fun cached => now - cached.storedAt ≤ cached.maxAge
  (selectH3 fresh,
    { entries := update cache.entries key fresh
      validated :=
        if fresh = [] ∧ cache.entries key ≠ [] then update cache.validated key none
        else cache.validated })

end AltSvcCache

/-- What a session has learned about QUIC. -/
structure LearnedH3 where
  cache : AltSvcCache
  tracker : BrokenQuicTracker

namespace LearnedH3

def start (policy : BrokenQuicPolicy) : LearnedH3 := ⟨.empty, .withConfig policy.resolve⟩

/-- `learned_protocol_state_for_route`. -/
def protocolState (learned : LearnedH3) (key : RouteOriginKey) (now : Nat) :
    LearnedProtocolState × LearnedH3 :=
  let found := learned.cache.findH3ForRoute key now
  let failed := learned.tracker.h3ReachabilityForRoute key now
  let status := failed.1.getD
    (if (found.2.validated key).isSome then .validated
    else if found.1.isSome then .advertised
    else .unknown)
  (⟨found.1, status⟩, ⟨found.2, failed.2⟩)

inductive Event where
  | markBroken (key : RouteOriginKey) (now : Nat)
  | markWorking (key : RouteOriginKey)
  | markRouteBroken (route : RouteKey) (now : Nat)
  | markRouteWorking (route : RouteKey)
  | store (key : RouteOriginKey) (entries : List CachedAltSvc)
  | markValidated (key : RouteOriginKey) (now : Nat)
  | clearValidation (key : RouteOriginKey)
  /-- The queries, which drop what has run out. -/
  | isBroken (key : RouteOriginKey) (now : Nat)
  | isRouteBroken (route : RouteKey) (now : Nat)
  | learn (key : RouteOriginKey) (now : Nat)

def step (learned : LearnedH3) : Event → LearnedH3
  | .markBroken key now =>
    { learned with tracker := learned.tracker.markBrokenForRoute key now }
  | .markWorking key => { learned with tracker := learned.tracker.markWorkingForRoute key }
  | .markRouteBroken route now =>
    { learned with tracker := learned.tracker.markRouteBroken route now }
  | .markRouteWorking route => { learned with tracker := learned.tracker.markRouteWorking route }
  | .store key entries =>
    { learned with
      cache := { learned.cache with
        entries := update learned.cache.entries key entries } }
  | .markValidated key now =>
    { learned with
      cache := { learned.cache with
        validated := update learned.cache.validated key (some now) } }
  | .clearValidation key =>
    { learned with
      cache := { learned.cache with
        validated := update learned.cache.validated key none } }
  | .isBroken key now => { learned with tracker := (learned.tracker.isBrokenForRoute key now).2 }
  | .isRouteBroken route now =>
    { learned with tracker := (learned.tracker.isRouteBroken route now).2 }
  | .learn key now => (learned.protocolState key now).2

def run (learned : LearnedH3) (events : List Event) : LearnedH3 := events.foldl step learned

end LearnedH3

def H3Reachability.isFailed (status : H3Reachability) : Bool :=
  status == .failedTransiently || status == .failedPersistently

namespace LearnedH3

variable {learned : LearnedH3} {key : RouteOriginKey} {now : Nat}

/-- The learned state fails exactly for a quarantined origin, whatever the policy and the route. -/
theorem isFailed_protocolState (learned : LearnedH3) (key : RouteOriginKey) (now : Nat) :
    (learned.protocolState key now).1.h3Status.isFailed =
      learned.tracker.broken.quarantined key now := by
  simp only [protocolState, BrokenTable.quarantined, BrokenQuicTracker.h3ReachabilityForRoute]
  cases learned.tracker.broken.get key with
  | none => grind [H3Reachability.isFailed]
  | some entry =>
    cases hactive : entry.isActive now with
    | true | false => grind [H3Reachability.isFailed]

theorem isBrokenForRoute_eq (tracker : BrokenQuicTracker) (key : RouteOriginKey) (now : Nat) :
    (tracker.isBrokenForRoute key now).1 = (tracker.config.enabled &&
      (tracker.brokenRoutes.quarantined key.route now || tracker.broken.quarantined key now)) := by
  grind [BrokenQuicTracker.isBrokenForRoute, BrokenQuicTracker.isRouteBroken]

theorem config_step {learned : LearnedH3} {event : Event} :
    (learned.step event).tracker.config = learned.tracker.config := by
  cases event with
  | isBroken | isRouteBroken =>
    grind [step, BrokenQuicTracker.isBrokenForRoute, BrokenQuicTracker.isRouteBroken]
  | _ => rfl

theorem config_run (learned : LearnedH3) (events : List Event) :
    (learned.run events).tracker.config = learned.tracker.config := by
  induction events generalizing learned with
  | nil => rfl
  | cons event events ih => exact (ih _).trans config_step

/-- After any sequence of events, the learned state and the quarantine agree on an origin exactly if
the policy is enabled or the origin has no running cooldown, and the cooldown of its route, if one
is running, comes with one of its own. -/
theorem learned_state_agrees_iff (policy : BrokenQuicPolicy) (events : List Event)
    (key : RouteOriginKey) (now : Nat) :
    let learned := (start policy).run events
    (((learned.protocolState key now).1.h3Status.isFailed = true ↔
        (learned.tracker.isBrokenForRoute key now).1 = true) ↔
      if policy.resolve.enabled then
        learned.tracker.brokenRoutes.quarantined key.route now →
          learned.tracker.broken.quarantined key now
      else ¬learned.tracker.broken.quarantined key now) := by
  intro learned
  have hconfig : learned.tracker.config = policy.resolve := config_run ..
  rw [isFailed_protocolState, isBrokenForRoute_eq, hconfig]
  cases policy.resolve.enabled with
  | true | false => simp

/-- A disabled policy with a failed origin, and a route under quarantine with an untried origin. -/
theorem learned_state_disagrees :
    let key : RouteOriginKey := ⟨.direct, ⟨.https, "example.com".toList, 443⟩⟩
    let disabled := (start .disabled).run [.markBroken key 0]
    let tainted := (start .strict).run [.markRouteBroken .direct 0]
    ((disabled.protocolState key 1).1.h3Status = .failedTransiently ∧
      (disabled.tracker.isBrokenForRoute key 1).1 = false) ∧
    ((tainted.protocolState key 1).1.h3Status = .unknown ∧
      (tainted.tracker.isBrokenForRoute key 1).1 = true) := by
  decide +kernel

end LearnedH3

end LkRequest.Client
