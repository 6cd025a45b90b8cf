import LkRequest.Client.ConnectionPool
import LkRequest.Library.Machine
import Mathlib.Algebra.Order.Group.Multiset
import Mathlib.Tactic.Abel

/-!
# The limit on connections

The permits of a session: a counter that is changed by atomic operations, the permits that requests,
dial attempts, tasks of connections and idle connections hold, and the pool behind its lock. The
machine has a step for every atomic operation on the counter. An operation on the pool is one step,
after which the holder of the lock drops the permits of the entries it removed, one by one, before
anybody else gets the lock.
-/

namespace LkRequest.Client

open ConnectionPool Function Library List Option
open Multiset (cons_coe cons_add add_cons coe_nil coe_eq_coe)

/-! ## State -/

/-- A permit in the hands of a request or of a dial attempt, with the HTTP/1.1 connection that was
made under it. -/
structure Holding where
  permit : Nat
  connection : Option Nat

/-- A task of `track_connection_task`. -/
structure TrackingTask where
  connection : Nat
  permit : Nat

/-- A call of `try_reserve_connection`: whether it has evicted an idle connection, and the value of
the counter that its loop goes by. -/
structure Reserving where
  evicted : Bool
  current : Option Nat

structure SessionConnections where
  pool : ConnectionPool
  inUse : Nat
  holdings : List Holding
  tasks : List TrackingTask
  /-- What the holder of the lock still has to drop. -/
  dropping : List Nat
  reserving : Option Reserving
  /-- The loops of `try_reserve_speculative`, which take no lock. -/
  speculating : Nat → Option Nat
  finished : Nat → Bool
  nextPermit : Nat
  nextConnection : Nat

namespace SessionConnections

/-- The live permits. -/
def permits (state : SessionConnections) : Multiset Nat :=
  (state.holdings.map Holding.permit : Multiset Nat) + (state.pool.h1.map H1PoolEntry.permit) +
    (state.tasks.map TrackingTask.permit) + state.dropping

/-- The HTTP/1.1 connections in use and idle. -/
def h1Connections (state : SessionConnections) : Multiset Nat :=
  (state.holdings.filterMap Holding.connection : Multiset Nat) +
    (state.pool.h1.map H1PoolEntry.connection)

/-- Nobody holds the lock of the pool. -/
def isFree (state : SessionConnections) : Bool :=
  state.dropping.isEmpty && state.reserving.isNone

/-! ## Steps -/

inductive Event where
  /-- `try_reserve_connection` begins. -/
  | reserve
  | load
  | attempt (spurious : Bool) (oldest : ConnectionKey)
  /-- The holder of the lock drops a permit. -/
  | release
  | speculate (task : Nat)
  | attemptSpeculative (task : Nat) (spurious : Bool)
  | connect (permit : Nat)
  /-- A request or a dial attempt drops its permit, and its connection. -/
  | drop (permit : Nat)
  | insertH1 (permit : Nat) (key : ConnectionKey) (now : Nat)
  | returnH1 (permit : Nat) (key : ConnectionKey) (now : Nat)
  | insertH2 (permit : Nat) (key : ConnectionKey) (now : Nat)
  | insertH3 (permit : Nat) (key : ConnectionKey) (now : Nat)
  | acquire (version : PreferredHttpVersion) (key : ConnectionKey) (now : Nat)
  | evictIdle (now : Nat)
  | remove (key : ConnectionKey)
  | clear
  /-- The task of a connection ends. -/
  | close (connection : Nat)

/-- The permit that `compare_exchange_weak` made room for. -/
def issue (state : SessionConnections) : SessionConnections :=
  { state with
    inUse := state.inUse + 1
    holdings := ⟨state.nextPermit, none⟩ :: state.holdings
    nextPermit := state.nextPermit + 1 }

/-- An operation on the pool, with what it drops. -/
def leaves (state : SessionConnections) (result : ConnectionPool × List H1PoolEntry) :
    SessionConnections :=
  { state with pool := result.1, dropping := result.2.map H1PoolEntry.permit }

/-- A request gets a pooled connection; that of an idle connection comes with its permit. -/
def receives (state : SessionConnections) (pool : ConnectionPool) :
    AcquiredConnection → SessionConnections
  | .h1 entry =>
    { state with
      pool := pool
      holdings := ⟨entry.permit, some entry.connection⟩ :: state.holdings }
  | .h2 _ | .h3 _ => { state with pool := pool }

/-- A pass of the loop of `try_reserve_counter`, and what `try_reserve_connection` does when the
limit is reached. -/
def attempt (limits : PoolLimits) (state : SessionConnections) (reserving : Reserving)
    (current : Nat) (spurious : Bool) (oldest : ConnectionKey) : Option SessionConnections :=
  if limits.maxTotal ≤ current then
    if reserving.evicted || state.pool.h1.isEmpty then some { state with reserving := none }
    else
      (state.pool.evictOneIdleH1 oldest).map fun (pool, entry) =>
        { state.leaves (pool, [entry]) with reserving := some ⟨true, none⟩ }
  else if state.inUse = current ∧ spurious = false then some { state.issue with reserving := none }
  else some { state with reserving := some { reserving with current := some state.inUse } }

def attemptSpeculative (limits : PoolLimits) (state : SessionConnections) (task current : Nat)
    (spurious : Bool) : SessionConnections :=
  if limits.maxTotal ≤ current then
    { state with speculating := update state.speculating task none }
  else if state.inUse = current ∧ spurious = false then
    { state.issue with speculating := update state.speculating task none }
  else { state with speculating := update state.speculating task (some state.inUse) }

def without (state : SessionConnections) (permit : Nat) : SessionConnections :=
  { state with holdings := state.holdings.eraseP (·.permit == permit) }

/-- What the holder of a permit does with it. -/
def stepHolding (limits : PoolLimits) (state : SessionConnections) (holding : Holding) :
    Event → Option SessionConnections
  | .connect _ =>
    if holding.connection.isSome then none
    else
      some { state with
        holdings := ⟨holding.permit, some state.nextConnection⟩ :: state.holdings
        nextConnection := state.nextConnection + 1 }
  | .drop _ => some { state with inUse := state.inUse - 1 }
  | .insertH1 _ key now =>
    if state.isFree then
      holding.connection.map fun connection =>
        { state with
          pool := state.pool.insertH1Reserved ⟨key, connection, holding.permit, now⟩ }
    else none
  | .returnH1 _ key now =>
    if state.isFree then
      holding.connection.map fun connection =>
        state.leaves (state.pool.returnH1Reserved limits ⟨key, connection, holding.permit, now⟩)
    else none
  | .insertH2 _ key now =>
    if state.isFree then
      some { state with
        pool := state.pool.insertH2Reserved key state.nextConnection now
        tasks := ⟨state.nextConnection, holding.permit⟩ :: state.tasks
        nextConnection := state.nextConnection + 1 }
    else none
  | .insertH3 _ key now =>
    if state.isFree then
      if (state.pool.h3 key).isSome then some { state with dropping := [holding.permit] }
      else
        some { state with
          pool := state.pool.insertH3Reserved key state.nextConnection now
          tasks := ⟨state.nextConnection, holding.permit⟩ :: state.tasks
          nextConnection := state.nextConnection + 1 }
    else none
  | _ => none

/-- What the pool does for somebody who takes its lock. -/
def stepPool (limits : PoolLimits) (state : SessionConnections) : Event → Option SessionConnections
  | .reserve =>
    some { state.leaves (state.pool.evictClosed state.finished) with
      reserving := some ⟨false, none⟩ }
  | .acquire version key now =>
    let evicted := state.leaves (state.pool.evictIdle limits now)
    match evicted.pool.tryAcquire version key now with
    | some (pool, acquired) => some (evicted.receives pool acquired)
    | none => some evicted
  | .evictIdle now => some (state.leaves (state.pool.evictIdle limits now))
  | .remove key => some (state.leaves (state.pool.remove key))
  | .clear =>
    let (pool, closed) := state.pool.evictClosed state.finished
    let (pool, rest) := pool.clear
    some (state.leaves (pool, closed ++ rest))
  | _ => none

/-- The task of a connection ends; if it holds a permit, the permit goes with it. -/
def close (state : SessionConnections) (connection : Nat) : SessionConnections :=
  let finished := update state.finished connection true
  if state.tasks.any (·.connection == connection) then
    { state with
      finished := finished
      tasks := state.tasks.eraseP (·.connection == connection)
      inUse := state.inUse - 1 }
  else { state with finished := finished }

def step (limits : PoolLimits) (state : SessionConnections) (event : Event) :
    Option SessionConnections :=
  match event with
  | .connect permit | .drop permit | .insertH1 permit _ _ | .returnH1 permit _ _
  | .insertH2 permit _ _ | .insertH3 permit _ _ =>
    (state.holdings.find? (·.permit == permit)).bind fun holding =>
      (state.without permit).stepHolding limits holding event
  | .reserve | .acquire .. | .evictIdle _ | .remove _ | .clear =>
    if state.isFree then state.stepPool limits event else none
  | .load =>
    match state.dropping, state.reserving with
    | [], some ⟨evicted, none⟩ =>
      some { state with reserving := some ⟨evicted, some state.inUse⟩ }
    | _, _ => none
  | .attempt spurious oldest =>
    match state.dropping, state.reserving with
    | [], some ⟨evicted, some current⟩ =>
      state.attempt limits ⟨evicted, some current⟩ current spurious oldest
    | _, _ => none
  | .release =>
    match state.dropping with
    | _ :: rest => some { state with dropping := rest, inUse := state.inUse - 1 }
    | [] => none
  | .speculate task =>
    if (state.speculating task).isSome then none
    else
      some { state with
        speculating := update state.speculating task (some state.inUse) }
  | .attemptSpeculative task spurious =>
    (state.speculating task).map fun current =>
      state.attemptSpeculative limits task current spurious
  | .close connection => some (state.close connection)

def machine (limits : PoolLimits) : Machine SessionConnections Event where
  start := ⟨.new, 0, [], [], [], none, fun _ => none, fun _ => false, 0, 0⟩
  step := step limits

/-! ## Exactness -/

/-- The numbers in use are distinct and were given out. -/
structure Distinct (numbers : Multiset Nat) (next : Nat) : Prop where
  nodup : numbers.Nodup
  fresh : ∀ number ∈ numbers, number < next

/-- What the limit promises. A permit that is counted or released twice would be live twice, or
again after its release. -/
structure Exact (limits : PoolLimits) (state : SessionConnections) : Prop where
  counted : state.inUse = state.permits.card
  limited : state.inUse ≤ limits.maxTotal
  permits : Distinct state.permits state.nextPermit
  exclusive : state.h1Connections.Nodup
  perKey : ∀ key, (state.pool.queue key).length ≤ limits.maxPerKey

/-- A new connection is inserted only where its queue has room, and connections are returned only
where a queue may hold one. -/
def Roomy (limits : PoolLimits) (state : SessionConnections) (event : Event) : Prop :=
  match event with
  | .insertH1 _ key _ =>
    (state.step limits event).isSome → (state.pool.queue key).length < limits.maxPerKey
  | .returnH1 .. => (state.step limits event).isSome → 0 < limits.maxPerKey
  | _ => True

namespace Distinct

variable {numbers fewer : Multiset Nat} {next : Nat}

theorem mono (hdistinct : Distinct numbers next) (hle : fewer ≤ numbers) : Distinct fewer next where
  nodup := Multiset.nodup_of_le hle hdistinct.nodup
  fresh number hnumber := hdistinct.fresh number (Multiset.mem_of_le hle hnumber)

theorem later {next' : Nat} (hdistinct : Distinct numbers next) (hle : next ≤ next') :
    Distinct numbers next' where
  nodup := hdistinct.nodup
  fresh number hnumber := lt_of_lt_of_le (hdistinct.fresh number hnumber) hle

theorem cons (hdistinct : Distinct numbers next) : Distinct (next ::ₘ numbers) (next + 1) where
  nodup := by
    apply Multiset.nodup_cons.mpr ⟨_, hdistinct.nodup⟩
    intro hnext
    exact lt_irrefl next (hdistinct.fresh next hnext)
  fresh number hnumber := by
    rcases Multiset.mem_cons.mp hnumber with rfl | hnumber
    · exact Nat.lt_succ_self _
    · exact Nat.lt_succ_of_lt (hdistinct.fresh number hnumber)

end Distinct

/-- The counter, the live permits and the next number. -/
structure Ledger (limits : PoolLimits) (inUse : Nat) (permits : Multiset Nat) (next : Nat) :
    Prop where
  counted : inUse = permits.card
  limited : inUse ≤ limits.maxTotal
  distinct : Distinct permits next

namespace Ledger

variable {limits : PoolLimits} {inUse next permit : Nat} {permits : Multiset Nat}

theorem issue (hledger : Ledger limits inUse permits next) (hroom : inUse < limits.maxTotal) :
    Ledger limits (inUse + 1) (next ::ₘ permits) (next + 1) where
  counted := by rw [Multiset.card_cons, hledger.counted]
  limited := hroom
  distinct := hledger.distinct.cons

theorem release (hledger : Ledger limits inUse (permit ::ₘ permits) next) :
    Ledger limits (inUse - 1) permits next where
  counted := by rw [hledger.counted, Multiset.card_cons, Nat.add_sub_cancel]
  limited := (Nat.sub_le ..).trans hledger.limited
  distinct := hledger.distinct.mono (Multiset.le_cons_self ..)

end Ledger

/-- What holds in every run, whatever the queues hold. -/
structure Sound (limits : PoolLimits) (state : SessionConnections) : Prop where
  ledger : Ledger limits state.inUse state.permits state.nextPermit
  connections : Distinct state.h1Connections state.nextConnection

section Steps

variable {limits : PoolLimits} {state next : SessionConnections}

theorem sound_start : Sound limits (machine limits).start where
  ledger := ⟨rfl, Nat.zero_le _, Multiset.nodup_zero, nofun⟩
  connections := ⟨Multiset.nodup_zero, nofun⟩

theorem Sound.issue (hsound : state.Sound limits) (hroom : state.inUse < limits.maxTotal) :
    state.issue.Sound limits where
  ledger := by
    have hpermits : state.issue.permits = state.nextPermit ::ₘ state.permits := by
      simp [permits, SessionConnections.issue]
    rw [hpermits]
    exact hsound.ledger.issue hroom
  connections := hsound.connections

variable {pool : ConnectionPool} {dropped : List H1PoolEntry} {permit : Nat} {event : Event}
  {now : Nat} {key : ConnectionKey}

/-- The lists of the pool after an operation that drops some of its entries. -/
theorem map_h1_of_shrinks (hshrinks : state.pool.Shrinks pool dropped) {f : H1PoolEntry → Nat} :
    (state.pool.h1.map f : Multiset Nat) = pool.h1.map f + (dropped.map f : List Nat) := by
  rw [Multiset.coe_add, ← map_append, coe_eq_coe]
  exact hshrinks.perm.map f

theorem permits_leaves (hfree : state.dropping = []) (hshrinks : state.pool.Shrinks pool dropped) :
    (state.leaves (pool, dropped)).permits = state.permits := by
  simp only [permits, SessionConnections.leaves, hfree,
    map_h1_of_shrinks hshrinks, coe_nil, add_zero]
  abel

theorem h1Connections_leaves_le (hshrinks : state.pool.Shrinks pool dropped) :
    (state.leaves (pool, dropped)).h1Connections ≤ state.h1Connections := by
  simp only [h1Connections, SessionConnections.leaves, map_h1_of_shrinks hshrinks, ← add_assoc]
  exact Multiset.le_add_right ..

theorem Sound.leaves (hsound : state.Sound limits) (hfree : state.dropping = [])
    (hshrinks : state.pool.Shrinks pool dropped) :
    (state.leaves (pool, dropped)).Sound limits where
  ledger := by
    rw [permits_leaves hfree hshrinks]
    exact hsound.ledger
  connections := hsound.connections.mono (h1Connections_leaves_le hshrinks)

/-- The state without a holding that is in somebody's hands. -/
structure Taken (limits : PoolLimits) (holding : Holding) (rest : SessionConnections) : Prop where
  ledger : Ledger limits rest.inUse (holding.permit ::ₘ rest.permits) rest.nextPermit
  connections : Distinct ((holding.connection.toList : Multiset Nat) + rest.h1Connections)
    rest.nextConnection

theorem Sound.take {holding : Holding} (hsound : state.Sound limits)
    (hfound : state.holdings.find? (·.permit == permit) = some holding) :
    (state.without permit).Taken limits holding where
  ledger := by
    have hperm := (perm_cons_eraseP hfound).map Holding.permit
    have hpermits : state.permits = holding.permit ::ₘ (state.without permit).permits := by
      simp only [permits, without, coe_eq_coe.mpr hperm, map_cons,
        ← cons_coe, cons_add]
    rw [← hpermits]
    exact hsound.ledger
  connections := by
    have hperm := (perm_cons_eraseP hfound).filterMap Holding.connection
    have hconnections : state.h1Connections =
        (holding.connection.toList : Multiset Nat) + (state.without permit).h1Connections := by
      simp only [h1Connections, without, coe_eq_coe.mpr hperm, filterMap_cons, ← add_assoc]
      cases holding.connection <;> rfl
    rw [← hconnections]
    exact hsound.connections

section Holdings

variable {holding : Holding} {rest : SessionConnections}

variable (htaken : rest.Taken limits holding)
include htaken

theorem Taken.connect :
    Sound limits { rest with
      holdings := ⟨holding.permit, some rest.nextConnection⟩ :: rest.holdings
      nextConnection := rest.nextConnection + 1 } where
  ledger := by
    convert htaken.ledger using 1
    simp [permits]
  connections := by
    have hrest := htaken.connections.mono (Multiset.le_add_left ..)
    convert hrest.cons using 1
    simp [h1Connections]

theorem Taken.drop : Sound limits { rest with inUse := rest.inUse - 1 } where
  ledger := htaken.ledger.release
  connections := htaken.connections.mono (Multiset.le_add_left ..)

variable {pool : ConnectionPool} {connection now : Nat} {key : ConnectionKey}

omit htaken in
theorem map_h1_pushBack {entry : H1PoolEntry} (f : H1PoolEntry → Nat) :
    ((pool.pushBack entry).h1.map f : Multiset Nat) = f entry ::ₘ (pool.h1.map f : List Nat) := by
  rw [pushBack, map_append, ← Multiset.coe_add, add_comm]
  rfl

theorem Taken.insertH1 (hconnection : holding.connection = some connection) :
    Sound limits { rest with
      pool := rest.pool.insertH1Reserved ⟨key, connection, holding.permit, now⟩ } where
  ledger := by
    convert htaken.ledger using 1
    simp [permits, insertH1Reserved, map_h1_pushBack]
  connections := by
    convert htaken.connections using 1
    simp [h1Connections, insertH1Reserved, map_h1_pushBack, hconnection, toList_some,
      Multiset.coe_singleton, Multiset.singleton_add]

theorem Taken.leaves {dropped : List H1PoolEntry} (hfree : rest.dropping = [])
    (hshrinks : rest.pool.Shrinks pool dropped) :
    (rest.leaves (pool, dropped)).Taken limits holding where
  ledger := by
    rw [permits_leaves hfree hshrinks]
    exact htaken.ledger
  connections :=
    htaken.connections.mono (add_le_add_right (h1Connections_leaves_le hshrinks) _)

theorem Taken.returnH1 (hfree : rest.dropping = [])
    (hconnection : holding.connection = some connection) :
    Sound limits (rest.leaves
      (rest.pool.returnH1Reserved limits ⟨key, connection, holding.permit, now⟩)) := by
  rw [returnH1Reserved]
  split
  · exact (htaken.leaves hfree (rest.pool.shrinks_popFront key)).insertH1 hconnection
  · have hsame : rest.pool.Shrinks rest.pool [] := ⟨by simp, List.Sublist.refl _⟩
    exact (htaken.leaves hfree hsame).insertH1 hconnection

theorem Taken.track (hpool : pool.h1 = rest.pool.h1) :
    Sound limits { rest with
      pool := pool
      tasks := ⟨rest.nextConnection, holding.permit⟩ :: rest.tasks
      nextConnection := rest.nextConnection + 1 } where
  ledger := by
    convert htaken.ledger using 1
    simp only [permits, hpool, map_cons, ← cons_coe, add_cons, cons_add]
  connections := by
    have hrest := htaken.connections.mono (Multiset.le_add_left ..)
    convert hrest.later (Nat.le_succ _) using 1
    simp only [h1Connections, hpool]

theorem Taken.discard (hfree : rest.dropping = []) :
    Sound limits { rest with dropping := [holding.permit] } where
  ledger := by
    convert htaken.ledger using 1
    simp only [permits, hfree, coe_nil, add_zero, Multiset.coe_singleton]
    rw [add_comm, Multiset.singleton_add]
  connections := htaken.connections.mono (Multiset.le_add_left ..)

omit htaken in
theorem dropping_of_isFree (hfree : state.isFree = true) : state.dropping = [] :=
  isEmpty_iff.mp (Bool.and_eq_true_iff.mp hfree).1

end Holdings

section Sound

variable (hsound : state.Sound limits)
include hsound

theorem Sound.of_same {other : SessionConnections}
    (hpermits : other.permits = state.permits := by rfl)
    (hconnections : other.h1Connections = state.h1Connections := by rfl)
    (hinUse : other.inUse = state.inUse := by rfl)
    (hnextPermit : other.nextPermit = state.nextPermit := by rfl)
    (hnextConnection : other.nextConnection = state.nextConnection := by rfl) :
    other.Sound limits where
  ledger := by
    rw [hpermits, hinUse, hnextPermit]
    exact hsound.ledger
  connections := by
    rw [hconnections, hnextConnection]
    exact hsound.connections

theorem Sound.receives {acquired : AcquiredConnection}
    (hacquires : state.pool.Acquires pool acquired) :
    (state.receives pool acquired).Sound limits ∧ pool.h1.Sublist state.pool.h1 := by
  cases acquired with
  | h1 entry =>
    have hpermits : (state.receives pool (.h1 entry)).permits = state.permits := by
      simp only [permits, SessionConnections.receives,
        map_h1_of_shrinks hacquires, map_cons, map_nil,
        ← cons_coe, cons_add, coe_nil, add_cons, add_zero]
    have hconnections : (state.receives pool (.h1 entry)).h1Connections = state.h1Connections := by
      simp only [h1Connections, SessionConnections.receives,
        map_h1_of_shrinks hacquires, filterMap_cons, map_cons,
        map_nil, ← cons_coe, cons_add, coe_nil,
        add_cons, add_zero]
    exact ⟨hsound.of_same hpermits hconnections, hacquires.sublist⟩
  | h2 connection | h3 connection =>
    have hqueues : pool.h1 = state.pool.h1 := hacquires
    refine ⟨hsound.of_same ?_ ?_, hqueues ▸ List.Sublist.refl _⟩
    · simp only [permits, SessionConnections.receives, hqueues]
    · simp only [h1Connections, SessionConnections.receives, hqueues]

/-- What the pool does for the holder of its lock makes no queue longer. -/
theorem Sound.stepPool
    (hfree : state.dropping = []) (hstep : state.stepPool limits event = some next) :
    next.Sound limits ∧ next.pool.h1.Sublist state.pool.h1 := by
  rw [SessionConnections.stepPool.eq_def] at hstep
  split at hstep
  case h_1 =>
    cases hstep
    have hshrinks := state.pool.shrinks_evictClosed state.finished
    exact ⟨(hsound.leaves hfree hshrinks).of_same, hshrinks.sublist⟩
  case h_2 version key now =>
    have hshrinks := state.pool.shrinks_evictIdle limits now
    have hevicted := hsound.leaves hfree hshrinks
    dsimp only at hstep
    split at hstep
    next pool acquired hacquired =>
      cases hstep
      obtain ⟨hreceives, hsublist⟩ :=
        hevicted.receives (acquires_tryAcquire hacquired)
      refine ⟨hreceives, ?_⟩
      cases acquired <;> exact hsublist.trans hshrinks.sublist
    · cases hstep
      exact ⟨hevicted, hshrinks.sublist⟩
  case h_3 now =>
    cases hstep
    have hshrinks := state.pool.shrinks_evictIdle limits now
    exact ⟨hsound.leaves hfree hshrinks, hshrinks.sublist⟩
  case h_4 =>
    cases hstep
    exact ⟨hsound.leaves hfree shrinks_remove, shrinks_remove.sublist⟩
  case h_5 =>
    cases hstep
    have hclosed := state.pool.shrinks_evictClosed state.finished
    exact ⟨hsound.leaves hfree (hclosed.trans shrinks_clear), nil_sublist _⟩
  case h_6 => cases hstep

theorem Sound.attempt {reserving : Reserving} {current : Nat} {spurious : Bool}
    {oldest : ConnectionKey} (hfree : state.dropping = [])
    (hstep : state.attempt limits reserving current spurious oldest = some next) :
    next.Sound limits ∧ next.pool.h1.Sublist state.pool.h1 := by
  rw [SessionConnections.attempt] at hstep
  split at hstep
  · split at hstep
    · cases hstep
      exact ⟨hsound.of_same, .refl _⟩
    · obtain ⟨⟨pool, entry⟩, hevicted, rfl⟩ := map_eq_some_iff.mp hstep
      have hshrinks := shrinks_evictOneIdleH1 hevicted
      exact ⟨(hsound.leaves hfree hshrinks).of_same, hshrinks.sublist⟩
  next hroom =>
    split at hstep
    next hcurrent =>
      cases hstep
      have hissued := hsound.issue (hcurrent.1 ▸ Nat.not_le.mp hroom)
      exact ⟨hissued.of_same, .refl _⟩
    · cases hstep
      exact ⟨hsound.of_same, .refl _⟩

theorem Sound.attemptSpeculative (task current : Nat)
    (spurious : Bool) : (state.attemptSpeculative limits task current spurious).Sound limits ∧
      (state.attemptSpeculative limits task current spurious).pool = state.pool := by
  rw [SessionConnections.attemptSpeculative]
  split
  · exact ⟨hsound.of_same, rfl⟩
  next hroom =>
    split
    next hcurrent =>
      have hissued := hsound.issue (hcurrent.1 ▸ Nat.not_le.mp hroom)
      exact ⟨hissued.of_same, rfl⟩
    · exact ⟨hsound.of_same, rfl⟩

theorem Sound.release {rest : List Nat} (hdropping : state.dropping = permit :: rest) :
    Sound limits { state with dropping := rest, inUse := state.inUse - 1 } where
  ledger := by
    have hledger := hsound.ledger
    have hpermits : state.permits = permit ::ₘ permits { state with
        dropping := rest, inUse := state.inUse - 1 } := by
      simp only [permits, hdropping, ← cons_coe, add_cons]
    rw [hpermits] at hledger
    exact hledger.release
  connections := hsound.connections

theorem Sound.close (connection : Nat) :
    (state.close connection).Sound limits ∧ (state.close connection).pool = state.pool := by
  rw [SessionConnections.close]
  split
  next hany =>
    obtain ⟨task, hfound⟩ : ∃ task,
        state.tasks.find? (·.connection == connection) = some task := by
      rw [← isSome_iff_exists, find?_isSome]
      exact any_eq_true.mp hany
    have hperm := (perm_cons_eraseP hfound).map TrackingTask.permit
    have hledger := hsound.ledger
    rw [permits, coe_eq_coe.mpr hperm, map_cons, ← cons_coe,
      add_cons, cons_add] at hledger
    exact ⟨⟨hledger.release, hsound.connections⟩, rfl⟩
  · exact ⟨hsound.of_same, rfl⟩

end Sound

/-! ## The queues -/

/-- No queue is longer than it may be. -/
def Bounded (limits : PoolLimits) (state : SessionConnections) : Prop :=
  ∀ key, (state.pool.queue key).length ≤ limits.maxPerKey

theorem Bounded.of_sublist (hbounded : state.Bounded limits)
    (hsublist : next.pool.h1.Sublist state.pool.h1) : next.Bounded limits :=
  fun key => (hsublist.filter _).length_le.trans (hbounded key)

theorem Taken.stepHolding {holding : Holding} (htaken : state.Taken limits holding)
    (hbounded : state.Bounded limits)
    (hinsert : ∀ permit key now, event = .insertH1 permit key now →
      (state.pool.queue key).length < limits.maxPerKey)
    (hreturn : ∀ permit key now, event = .returnH1 permit key now → 0 < limits.maxPerKey)
    (hstep : state.stepHolding limits holding event = some next) :
    next.Sound limits ∧ next.Bounded limits := by
  rw [SessionConnections.stepHolding.eq_def] at hstep
  split at hstep
  case h_1 =>
    obtain ⟨-, hnext⟩ := ite_none_left_eq_some.mp hstep
    cases hnext
    exact ⟨htaken.connect, hbounded⟩
  case h_2 =>
    cases hstep
    exact ⟨htaken.drop, hbounded⟩
  case h_3 permit key now =>
    obtain ⟨-, hnext⟩ := ite_none_right_eq_some.mp hstep
    obtain ⟨connection, hconnection, rfl⟩ := map_eq_some_iff.mp hnext
    refine ⟨htaken.insertH1 hconnection, ?_⟩
    intro other
    by_cases hother : key = other
    · subst hother
      apply le_of_eq_of_le _ (Nat.succ_le_of_lt (hinsert permit key now rfl))
      exact state.pool.length_queue_pushBack ⟨key, connection, holding.permit, now⟩
    · apply le_of_eq_of_le _ (hbounded other)
      exact congrArg length (queue_pushBack_of_ne hother)
  case h_4 permit key now =>
    obtain ⟨hfree, hnext⟩ := ite_none_right_eq_some.mp hstep
    obtain ⟨connection, hconnection, rfl⟩ := map_eq_some_iff.mp hnext
    exact ⟨htaken.returnH1 (dropping_of_isFree hfree) hconnection,
      length_queue_returnH1Reserved (hreturn permit key now rfl) hbounded⟩
  case h_5 permit key now =>
    obtain ⟨-, hnext⟩ := ite_none_right_eq_some.mp hstep
    cases hnext
    have hsame : (state.pool.insertH2Reserved key state.nextConnection now).h1 = state.pool.h1 := by
      rw [insertH2Reserved]
      split <;> rfl
    exact ⟨htaken.track hsame, hbounded.of_sublist (hsame ▸ .refl _)⟩
  case h_6 =>
    obtain ⟨hfree, hnext⟩ := ite_none_right_eq_some.mp hstep
    split at hnext
    · cases hnext
      exact ⟨htaken.discard (dropping_of_isFree hfree), hbounded⟩
    next habsent =>
      cases hnext
      rw [insertH3Reserved, if_neg habsent]
      exact ⟨htaken.track rfl, hbounded⟩
  case h_7 => cases hstep

/-- What a step keeps: the ledger, and with room also the bound of the queues. -/
theorem Sound.step (hsound : state.Sound limits) (hbounded : state.Bounded limits)
    (hroomy : state.Roomy limits event) (hstep : state.step limits event = some next) :
    next.Sound limits ∧ next.Bounded limits := by
  have henabled : (state.step limits event).isSome := hstep ▸ rfl
  rw [SessionConnections.step.eq_def] at hstep
  split at hstep
  case h_1 | h_2 | h_3 | h_4 | h_5 | h_6 =>
    obtain ⟨holding, hfound, hnext⟩ := bind_eq_some_iff.mp hstep
    have hrest : ∀ permit, (state.without permit).Bounded limits := fun _ => hbounded
    refine (hsound.take hfound).stepHolding (hrest _) ?_ ?_ hnext
    · rintro _ _ _ ⟨⟩ <;> exact hroomy henabled
    · rintro _ _ _ ⟨⟩ <;> exact hroomy henabled
  case h_7 | h_8 | h_9 | h_10 | h_11 =>
    obtain ⟨hfree, hnext⟩ := ite_none_right_eq_some.mp hstep
    exact (hsound.stepPool (dropping_of_isFree hfree) hnext).imp_right hbounded.of_sublist
  case h_12 =>
    split at hstep
    · cases hstep
      exact ⟨hsound.of_same, hbounded⟩
    · cases hstep
  case h_13 =>
    split at hstep
    next hdropping _ => exact (hsound.attempt hdropping hstep).imp_right hbounded.of_sublist
    · cases hstep
  case h_14 =>
    split at hstep
    next hdropping =>
      cases hstep
      exact ⟨hsound.release hdropping, hbounded⟩
    · cases hstep
  case h_15 =>
    obtain ⟨-, hnext⟩ := ite_none_left_eq_some.mp hstep
    cases hnext
    exact ⟨hsound.of_same, hbounded⟩
  case h_16 task spurious =>
    obtain ⟨current, -, rfl⟩ := map_eq_some_iff.mp hstep
    obtain ⟨hspeculative, hpool⟩ := hsound.attemptSpeculative task current spurious
    exact ⟨hspeculative, hbounded.of_sublist (hpool ▸ .refl _)⟩
  case h_17 connection =>
    cases hstep
    obtain ⟨hclosed, hpool⟩ := hsound.close connection
    exact ⟨hclosed, hbounded.of_sublist (hpool ▸ .refl _)⟩

/-! ## Every run -/

theorem Sound.exact (hsound : state.Sound limits) (hbounded : state.Bounded limits) :
    state.Exact limits where
  counted := hsound.ledger.counted
  limited := hsound.ledger.limited
  permits := hsound.ledger.distinct
  exclusive := hsound.connections.nodup
  perKey := hbounded

/-- `insert_h1_reserved` makes a full queue longer. -/
theorem broken_insertH1 (hstep : state.step limits (.insertH1 permit key now) = some next)
    (hfull : limits.maxPerKey ≤ (state.pool.queue key).length) : ¬next.Exact limits := by
  intro hexact
  obtain ⟨holding, -, hnext⟩ := bind_eq_some_iff.mp hstep
  obtain ⟨-, hnext⟩ := ite_none_right_eq_some.mp hnext
  obtain ⟨connection, -, rfl⟩ := map_eq_some_iff.mp hnext
  have hlength := state.pool.length_queue_pushBack ⟨key, connection, holding.permit, now⟩
  have hperKey := hlength.symm.trans_le (hexact.perKey key)
  exact absurd hperKey (Nat.not_le.mpr (Nat.lt_succ_of_le hfull))

/-- `return_h1_reserved` puts a connection into a queue that may hold none. -/
theorem broken_returnH1 (hstep : state.step limits (.returnH1 permit key now) = some next)
    (hnone : limits.maxPerKey = 0) : ¬next.Exact limits := by
  intro hexact
  obtain ⟨holding, -, hnext⟩ := bind_eq_some_iff.mp hstep
  obtain ⟨-, hnext⟩ := ite_none_right_eq_some.mp hnext
  obtain ⟨connection, -, rfl⟩ := map_eq_some_iff.mp hnext
  have hfull : limits.maxPerKey ≤ (state.pool.queue key).length := hnone ▸ Nat.zero_le _
  have hlength := (state.pool.popFront key).length_queue_pushBack
    ⟨key, connection, holding.permit, now⟩
  have hperKey : ((state.pool.returnH1Reserved limits
      ⟨key, connection, holding.permit, now⟩).1.queue key).length ≤ 0 := hnone ▸ hexact.perKey key
  rw [returnH1Reserved, if_pos hfull] at hperKey
  exact Nat.not_succ_le_zero _ (hlength.symm.trans_le hperKey)

theorem connections_counted_exactly (limits : PoolLimits) (events : List Event) :
    (machine limits).Throughout (Exact limits) events ↔
      (machine limits).Obeys (Roomy limits) events := by
  have hstart : (machine limits).start.Bounded limits := fun _ => Nat.zero_le _
  apply Machine.throughout_iff_obeys (fun state => state.Sound limits ∧ state.Bounded limits)
    ⟨sound_start, hstart⟩
  · intro state event next hkept hroomy hstep
    exact hkept.1.step hkept.2 hroomy hstep
  · intro state hkept
    exact hkept.1.exact hkept.2
  · intro state event hkept hcrowded
    cases event with
    | insertH1 =>
      obtain ⟨henabled, hfull⟩ := Classical.not_imp.mp hcrowded
      obtain ⟨next, hstep⟩ := isSome_iff_exists.mp henabled
      exact ⟨next, hstep, broken_insertH1 hstep (Nat.not_lt.mp hfull)⟩
    | returnH1 =>
      obtain ⟨henabled, hnone⟩ := Classical.not_imp.mp hcrowded
      obtain ⟨next, hstep⟩ := isSome_iff_exists.mp henabled
      exact ⟨next, hstep, broken_returnH1 hstep (Nat.eq_zero_of_not_pos hnone)⟩
    | _ => exact absurd trivial hcrowded

end Steps

def shopKey : ConnectionKey := ⟨.http, "shop.example".toList, 80, .direct⟩

/-- The steps of a preconnect that has found no pooled connection. -/
def preconnect (permit : Nat) : List Event :=
  [.reserve, .load, .attempt false shopKey, .connect permit, .insertH1 permit shopKey 0]

/-- Seventeen preconnects to one origin, which all found the pool empty, in a session with the
default limits. -/
def crowdedRun : List Event := (List.range 17).flatMap preconnect

theorem seventeen_idle_connections :
    ∃ last, (machine .default).run crowdedRun = some last ∧ ¬last.Exact .default ∧
      (last.pool.queue shopKey).length = 17 := by
  have hlength : ((machine .default).run crowdedRun).map (fun last =>
      (last.pool.queue shopKey).length) = some 17 := by
    decide +kernel
  obtain ⟨last, hrun, hlength⟩ := map_eq_some_iff.mp hlength
  refine ⟨last, hrun, fun hexact => ?_, hlength⟩
  have hperKey := hlength.symm.trans_le (hexact.perKey shopKey)
  exact absurd hperKey (by decide)

end SessionConnections

end LkRequest.Client
