import LkRequest.Client.Proxy
import LkRequest.Library.Machine

/-!
# The proxy pool and the session pool

`proxy_pool.rs`, `session_pool.rs` and the rotator of `proxy/provider.rs`, as a machine whose events
are the steps between two suspension points of the concurrent tasks: acquires, reports of bad
proxies, the maintenance task, health checks, the thread that fills the buffer, and the returns of
guards and sessions. `Pool.step` leaves out the lock of the cooldown map, which a report keeps over
several steps, and the order of the clock readings; `Pool.clocked` adds both.
-/

namespace LkRequest.Client

open Function Library Option

/-! ## Setup -/

inductive RotationStrategy where
  | roundRobin
  | random

structure BadProxyConfig where
  failureThreshold : Nat
  window : Nat
  cooldownDuration : Nat
  maxCooldowns : Nat

/-- A pool built with a list of proxies; times are in one unit. -/
structure PoolSetup where
  proxies : List ProxyConfig
  strategy : RotationStrategy
  bufferCapacity : Option Nat
  maxProxies : Nat
  badProxy : BadProxyConfig
  idleTimeout : Nat

namespace PoolSetup

/-- `provider.len()`. -/
def providerLen (setup : PoolSetup) : Nat := setup.bufferCapacity.getD setup.proxies.length

/-- The passes of the loop in `next_usable_proxy`. -/
def passes (setup : PoolSetup) : Nat := max setup.providerLen 1

end PoolSetup

/-! ## State -/

abbrev TaskId := Nat

/-- Why a drawn proxy was passed over: it is removed, or its cooldown had not expired. -/
inductive Skip where
  | removed (proxy : ProxyConfig)
  | cooling (proxy : ProxyConfig) (now expires : Nat)

/-- Where a call of `acquire` is. -/
inductive AcquireStage where
  | waiting
  | drawing (skipped : List Skip)
  | drawingDirect (skipped : List Skip)
  | checkingRemoved (skipped : List Skip) (proxy : ProxyConfig)
  | checkingCooldown (skipped : List Skip) (proxy : ProxyConfig)

structure Acquire where
  forSession : Bool
  stage : AcquireStage

/-- What an acquire returned: the proxy of its guard, the proxy of its session if it is one, and
the proxies it had passed over. -/
structure Handed where
  proxy : Option ProxyConfig
  session : Option (Option ProxyConfig)
  skipped : List Skip

/-- The steps of a task of `record_bad_proxy`. -/
inductive RecordStage where
  | checking
  | counting
  | clearing (now : Nat)
  | cooling (now : Nat)
  | countingCooldowns
  | removing

structure Record where
  identity : Text
  stage : RecordStage

/-- A report keeps the lock of the cooldown map from the insertion of the cooldown to its end. -/
def Record.holdsCooldown (record : Record) : Bool :=
  match record.stage with
  | .countingCooldowns | .removing => true
  | _ => false

structure IdleEntry where
  entry : Handed
  returnedAt : Nat

structure Pool where
  next : Nat
  buffer : List ProxyConfig
  filling : Option ProxyConfig
  permits : Nat
  cooldown : Text → Option Nat
  failures : Text → List Nat
  removed : Finset Text
  cooldownCounts : Text → Nat
  acquires : TaskId → Option Acquire
  handed : TaskId → Option Handed
  returning : TaskId → Option Handed
  idle : List IdleEntry
  records : TaskId → Option Record
  probing : List ProxyConfig

namespace Pool

def start (setup : PoolSetup) : Pool where
  next := 0
  buffer := []
  filling := none
  permits := setup.maxProxies
  cooldown := fun _ => none
  failures := fun _ => []
  removed := ∅
  cooldownCounts := fun _ => 0
  acquires := fun _ => none
  handed := fun _ => none
  returning := fun _ => none
  idle := []
  records := fun _ => none
  probing := []

/-! ## Drawing a proxy -/

/-- `ProxyRotator::next_proxy`; the random word decides under `Random`. -/
def rotate (setup : PoolSetup) (pool : Pool) (word : UInt64) : Option ProxyConfig × Pool :=
  match setup.strategy with
  | .roundRobin =>
    if setup.proxies = [] then (none, pool)
    else
      (setup.proxies[pool.next % setup.proxies.length]?,
        { pool with next := (pool.next + 1) % 2 ^ 64 })
  | .random => (setup.proxies[word.toNat % setup.proxies.length]?, pool)

def setAcquire (pool : Pool) (task : TaskId) (acquire : Option Acquire) : Pool :=
  { pool with acquires := update pool.acquires task acquire }

/-- The acquire returns. `create_session` gives the session the proxy of the guard. -/
def finish (pool : Pool) (task : TaskId) (acquire : Acquire) (proxy : Option ProxyConfig)
    (skipped : List Skip) : Pool :=
  { pool.setAcquire task none with
    handed := update pool.handed task
      (some ⟨proxy, if acquire.forSession then some proxy else none, skipped⟩) }

/-! ## Events -/

inductive Event where
  /-- A call of `ProxyPool::acquire`. -/
  | acquire (task : TaskId)
  /-- A call of `SessionPool::acquire`. -/
  | acquireSession (task : TaskId) (now : Nat)
  | takePermit (task : TaskId)
  /-- The next pass of the loop, or its end. -/
  | draw (task : TaskId) (word : UInt64)
  | drawDirect (task : TaskId) (word : UInt64)
  | checkRemoved (task : TaskId)
  | checkCooldown (task : TaskId) (now : Nat)
  /-- A call of `mark_bad` or `mark_bad_proxy`. -/
  | markBad (task : TaskId) (identity : Text)
  | record (task : TaskId) (now : Nat)
  /-- The maintenance task drops expired cooldowns. -/
  | maintain (now : Nat)
  | startHealthChecks
  | probed (reachable : Bool) (now : Nat)
  | fillDraw (word : UInt64)
  | fillPush
  /-- A guard is dropped, or a session outside a runtime. -/
  | dropGuard (task : TaskId)
  | dropSession (task : TaskId)
  | returnSession (task : TaskId) (now : Nat)
  | evictIdle (now : Nat)

/-- The idle entries behind the expired ones, and how many those are. -/
def popExpired (timeout now : Nat) : List IdleEntry → List IdleEntry × Nat
  | [] => ([], 0)
  | entry :: rest =>
    if now - entry.returnedAt < timeout then (entry :: rest, 0)
    else ((popExpired timeout now rest).1, (popExpired timeout now rest).2 + 1)

/-- One step of a call of `acquire`. -/
def stepAcquire (setup : PoolSetup) (pool : Pool) : Event → Option Pool
  | .acquire task =>
    if (pool.acquires task).isSome ∨ (pool.handed task).isSome then none
    else some (pool.setAcquire task (some ⟨false, .waiting⟩))
  | .acquireSession task now =>
    if (pool.acquires task).isSome ∨ (pool.handed task).isSome then none
    else
      let (fresh, expired) := popExpired setup.idleTimeout now pool.idle
      let dropped := { pool with permits := pool.permits + expired }
      match fresh with
      | entry :: rest =>
        some { dropped with
          idle := rest
          handed := update pool.handed task (some entry.entry) }
      | [] => some ({ dropped with idle := [] }.setAcquire task (some ⟨true, .waiting⟩))
  | .takePermit task =>
    match pool.acquires task with
    | some ⟨forSession, .waiting⟩ =>
      if pool.permits = 0 then none
      else
        some ({ pool with permits := pool.permits - 1 }.setAcquire task
          (some ⟨forSession, .drawing []⟩))
    | _ => none
  | .draw task word =>
    match pool.acquires task with
    | some ⟨forSession, .drawing skipped⟩ =>
      if skipped.length = setup.passes then
        some (pool.finish task ⟨forSession, .drawing skipped⟩ none skipped)
      else
        match setup.bufferCapacity, pool.buffer with
        | some _, proxy :: rest =>
          some ({ pool with buffer := rest }.setAcquire task
            (some ⟨forSession, .checkingRemoved skipped proxy⟩))
        | some _, [] => some (pool.setAcquire task (some ⟨forSession, .drawingDirect skipped⟩))
        | none, _ =>
          match pool.rotate setup word with
          | (some proxy, drawn) =>
            some (drawn.setAcquire task (some ⟨forSession, .checkingRemoved skipped proxy⟩))
          | (none, _) => some (pool.finish task ⟨forSession, .drawing skipped⟩ none skipped)
    | _ => none
  | .drawDirect task word =>
    match pool.acquires task with
    | some ⟨forSession, .drawingDirect skipped⟩ =>
      match pool.rotate setup word with
      | (some proxy, drawn) =>
        some (drawn.setAcquire task (some ⟨forSession, .checkingRemoved skipped proxy⟩))
      | (none, _) => some (pool.finish task ⟨forSession, .drawing skipped⟩ none skipped)
    | _ => none
  | .checkRemoved task =>
    match pool.acquires task with
    | some ⟨forSession, .checkingRemoved skipped proxy⟩ =>
      if proxy.identity ∈ pool.removed then
        some (pool.setAcquire task (some ⟨forSession, .drawing (skipped ++ [.removed proxy])⟩))
      else some (pool.setAcquire task (some ⟨forSession, .checkingCooldown skipped proxy⟩))
    | _ => none
  | .checkCooldown task now =>
    match pool.acquires task with
    | some ⟨forSession, .checkingCooldown skipped proxy⟩ =>
      match pool.cooldown proxy.identity with
      | some expires =>
        if now < expires then
          some (pool.setAcquire task
            (some ⟨forSession, .drawing (skipped ++ [.cooling proxy now expires])⟩))
        else some (pool.finish task ⟨forSession, .drawing skipped⟩ (some proxy) skipped)
      | none => some (pool.finish task ⟨forSession, .drawing skipped⟩ (some proxy) skipped)
    | _ => none
  | _ => none

/-! ## Reports, maintenance and returns -/

/-- The failures of a proxy inside the window, with a new one. -/
def failuresWith (setup : PoolSetup) (pool : Pool) (identity : Text) (now : Nat) : List Nat :=
  (pool.failures identity).filter (now < · + setup.badProxy.window) ++ [now]

def setRecord (pool : Pool) (task : TaskId) (record : Option Record) : Pool :=
  { pool with records := update pool.records task record }

/-- The next step of a task of `record_bad_proxy`. -/
def stepRecord (setup : PoolSetup) (pool : Pool) (task : TaskId) (now : Nat) : Record → Pool
  | ⟨identity, .checking⟩ =>
    if identity ∈ pool.removed then pool.setRecord task none
    else pool.setRecord task (some ⟨identity, .counting⟩)
  | ⟨identity, .counting⟩ =>
    let failures := pool.failuresWith setup identity now
    let counted := { pool with failures := update pool.failures identity failures }
    if setup.badProxy.failureThreshold ≤ failures.length then
      counted.setRecord task (some ⟨identity, .clearing now⟩)
    else counted.setRecord task none
  | ⟨identity, .clearing reported⟩ =>
    { pool with failures := update pool.failures identity [] }.setRecord task
      (some ⟨identity, .cooling reported⟩)
  | ⟨identity, .cooling reported⟩ =>
    { pool with
      cooldown := update pool.cooldown identity
        (some (reported + setup.badProxy.cooldownDuration)) }.setRecord task
      (some ⟨identity, .countingCooldowns⟩)
  | ⟨identity, .countingCooldowns⟩ =>
    let count := pool.cooldownCounts identity + 1
    let counted :=
      { pool with cooldownCounts := update pool.cooldownCounts identity count }
    if setup.badProxy.maxCooldowns ≤ count then
      counted.setRecord task (some ⟨identity, .removing⟩)
    else counted.setRecord task none
  | ⟨identity, .removing⟩ =>
    { pool with removed := insert identity pool.removed }.setRecord task none

/-- A step of a background task, of a report, or of the holder of a guard. -/
def stepBackground (setup : PoolSetup) (pool : Pool) : Event → Option Pool
  | .markBad task identity =>
    if (pool.records task).isSome then none
    else some (pool.setRecord task (some ⟨identity, .checking⟩))
  | .record task now => (pool.records task).map (pool.stepRecord setup task now)
  | .maintain now =>
    some { pool with
      cooldown := fun identity => (pool.cooldown identity).filter (now < ·) }
  | .startHealthChecks =>
    if pool.probing = [] then
      some { pool with probing := setup.proxies.filter (·.identity ∉ pool.removed) }
    else none
  | .probed reachable now =>
    match pool.probing with
    | [] => none
    | proxy :: rest =>
      if reachable then
        some { pool with
          probing := rest
          cooldown := update pool.cooldown proxy.identity none }
      else
        some { pool with
          probing := rest
          failures := update pool.failures proxy.identity
            (pool.failuresWith setup proxy.identity now) }
  | .fillDraw word =>
    match setup.bufferCapacity, pool.filling with
    | some capacity, none =>
      if pool.buffer.length < capacity then
        some { (pool.rotate setup word).2 with filling := (pool.rotate setup word).1 }
      else none
    | _, _ => none
  | .fillPush =>
    match setup.bufferCapacity, pool.filling with
    | some capacity, some proxy =>
      some { pool with
        filling := none
        buffer := if pool.buffer.length < capacity then pool.buffer ++ [proxy] else pool.buffer }
    | _, _ => none
  | .dropGuard task =>
    if (pool.handed task).isSome then
      some { pool with
        permits := pool.permits + 1
        handed := update pool.handed task none }
    else none
  | .dropSession task =>
    match pool.handed task, pool.returning task with
    | some handed, none =>
      if handed.session.isSome then
        some { pool with
          handed := update pool.handed task none
          returning := update pool.returning task (some handed) }
      else none
    | _, _ => none
  | .returnSession task now =>
    (pool.returning task).map fun handed =>
      { pool with
        returning := update pool.returning task none
        idle := pool.idle ++ [⟨handed, now⟩] }
  | .evictIdle now =>
    let kept := pool.idle.filter fun entry => now - entry.returnedAt < setup.idleTimeout
    some { pool with
      permits := pool.permits + (pool.idle.length - kept.length)
      idle := kept }
  | _ => none

/-- One event, if it is enabled. -/
def step (setup : PoolSetup) (pool : Pool) (event : Event) : Option Pool :=
  match pool.stepAcquire setup event with
  | some next => some next
  | none => pool.stepBackground setup event

/-- A run of events, all of them enabled. -/
def run (setup : PoolSetup) (pool : Pool) : List Event → Option Pool
  | [] => some pool
  | event :: rest => (pool.step setup event).bind fun next => next.run setup rest

/-! ## The clock and the lock of the cooldown map -/

/-- The time at which a step reads the clock. -/
def Event.time : Event → Option Nat
  | .acquireSession _ now | .checkCooldown _ now | .record _ now | .maintain now | .probed _ now
  | .returnSession _ now | .evictIdle now => some now
  | _ => none

/-- A report and a health check read the clock before they wait for the lock of the failures. -/
def Event.readsEarly : Event → Bool
  | .record .. | .probed .. => true
  | _ => false

/-- The step begins by locking the cooldown map. -/
def Event.locksCooldown (pool : Pool) : Event → Bool
  | .checkCooldown .. | .maintain _ | .probed true _ => true
  | .record task _ =>
    match pool.records task with
    | some ⟨_, .cooling _⟩ => true
    | _ => false
  | _ => false

/-- The pool with the last time that somebody read, and the report that holds the cooldown map. -/
structure Clocked where
  pool : Pool
  now : Nat
  holder : Option TaskId

/-- The holder of the cooldown map after a step to `next`. -/
def Event.holder (next : Pool) (held : Option TaskId) : Event → Option TaskId
  | .record task _ =>
    if (next.records task).any Record.holdsCooldown then some task
    else if held = some task then none
    else held
  | _ => held

def Clocked.step (setup : PoolSetup) (clocked : Clocked) (event : Event) : Option Clocked :=
  if (event.readsEarly ∨ event.time.all (clocked.now ≤ ·)) ∧
      (event.locksCooldown clocked.pool → clocked.holder = none) then
    (clocked.pool.step setup event).map fun next =>
      ⟨next, max clocked.now (event.time.getD 0), event.holder next clocked.holder⟩
  else none

theorem Clocked.step_eq_some {setup : PoolSetup} {state next : Clocked} {event : Event}
    (hstep : state.step setup event = some next) :
    state.pool.step setup event = some next.pool ∧
      next.now = max state.now (event.time.getD 0) ∧
      next.holder = event.holder next.pool state.holder ∧
      (event.locksCooldown state.pool → state.holder = none) ∧
      (event.readsEarly ∨ event.time.all (state.now ≤ ·)) := by
  obtain ⟨⟨htime, hlock⟩, hnext⟩ := ite_none_right_eq_some.mp hstep
  obtain ⟨pool, hpool, rfl⟩ := map_eq_some_iff.mp hnext
  exact ⟨hpool, rfl, rfl, hlock, htime⟩

def clocked (setup : PoolSetup) : Machine Clocked Event where
  start := ⟨start setup, 0, none⟩
  step := Clocked.step setup

end Pool

end LkRequest.Client
