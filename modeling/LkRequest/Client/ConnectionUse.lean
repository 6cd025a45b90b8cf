import LkRequest.Client.ConnectionPool
import LkRequest.Library.Machine

/-!
# Pooled connections in use

The tasks of a session that share the multiplexed connections of one key: requests, background
probes and preconnects. Acquiring a connection, making one, inserting it and removing a closed one
are separate steps. A lost race over an insertion leaves the connection of HTTP/2 alone and stops
that of HTTP/3. A removal takes everything that is under the key.
-/

namespace LkRequest.Client

open Library Function Option ConnectionPool

/-! ## State -/

inductive MuxProtocol where
  | h2
  | h3

/-- Where a task is. -/
inductive UseStage where
  /-- A request is in flight on a pooled connection. -/
  | riding (connection : Nat)
  /-- It has found its pooled connection closed. -/
  | closed (connection : Nat)
  /-- It has removed what was under the key. -/
  | removed (connection : Nat) (taken : List Nat)
  /-- It makes a connection, and sends a request on it unless it is a probe or a preconnect. -/
  | establishing (sends : Bool)
  /-- Its connection is about to be inserted. The first request of an HTTP/2 connection is in flight
  already. -/
  | established (protocol : MuxProtocol) (connection : Nat) (sends : Bool)
  /-- It is about to send on the connection it inserted, or has done so. -/
  | sending (connection : Nat)
  | ended

/-- The connection on which a request is in flight or about to be sent. -/
def UseStage.inFlight : UseStage → Option Nat
  | riding connection => some connection
  | established _ connection true => some connection
  | sending connection => some connection
  | _ => none

/-- The connection that the task has a sender of. -/
def UseStage.sender : UseStage → Option Nat
  | riding connection | established _ connection _ | sending connection => some connection
  | _ => none

variable {connection : Nat}

theorem UseStage.sender_of_inFlight {stage : UseStage}
    (hinFlight : stage.inFlight = some connection) : stage.sender = some connection := by
  cases stage with
  | riding | sending => exact hinFlight
  | established protocol other sends =>
    cases sends with
    | true => exact hinFlight
    | false => cases hinFlight
  | closed | removed | establishing | ended => cases hinFlight

structure PoolUse where
  pool : ConnectionPool
  next : Nat
  /-- The connections whose drivers an insertion has stopped. -/
  stopped : Nat → Bool
  /-- The connections whose drivers have ended by themselves. -/
  ended : Nat → Bool
  tasks : Nat → Option UseStage

variable {other : Nat}

namespace ConnectionPool

def muxConnections (pool : ConnectionPool) (key : ConnectionKey) : List Nat :=
  ((pool.h3 key).toList ++ (pool.h2 key).toList).map MuxPoolEntry.connection

/-- The connections that a pool has under a key. -/
def connections (pool : ConnectionPool) (key : ConnectionKey) : List Nat :=
  pool.muxConnections key ++ (pool.queue key).map H1PoolEntry.connection

variable {pool next : ConnectionPool} {key : ConnectionKey} {connection now : Nat}

theorem mem_muxConnections : connection ∈ pool.muxConnections key ↔
    (∃ entry, pool.h3 key = some entry ∧ entry.connection = connection) ∨
      ∃ entry, pool.h2 key = some entry ∧ entry.connection = connection := by
  simp [muxConnections]

theorem mem_of_mem_retain {keepsMux : MuxPoolEntry → Bool} {keeps : H1PoolEntry → Bool}
    (hmem : connection ∈ (pool.retain keepsMux keeps).1.muxConnections key) :
    connection ∈ pool.muxConnections key := by
  rw [mem_muxConnections] at hmem ⊢
  simp only [retain, filter_eq_some_iff] at hmem
  rcases hmem with ⟨entry, hentry, hconnection⟩ | ⟨entry, hentry, hconnection⟩
  · exact .inl ⟨entry, hentry.1, hconnection⟩
  · exact .inr ⟨entry, hentry.1, hconnection⟩

/-- A removal drops the connections under its key and no others. -/
theorem connections_remove (other : ConnectionKey) :
    (pool.remove key).1.connections other = if other = key then [] else pool.connections other := by
  split
  next hsame =>
    subst hsame
    simp [connections, muxConnections, remove, queue]
  next hother =>
    have hqueue : (pool.h1.filter (·.key != key)).filter (·.key == other) =
        pool.h1.filter (·.key == other) := by
      rw [List.filter_filter]
      apply List.filter_congr
      intro entry _
      by_cases hentry : entry.key = other
      · simp [hentry, hother]
      · simp [hentry]
    simp [connections, muxConnections, remove, queue, hother, hqueue]

theorem muxConnections_remove : (pool.remove key).1.muxConnections key = [] := by
  have hconnections := @connections_remove pool key key
  rw [if_pos rfl] at hconnections
  exact (List.append_eq_nil_iff.mp hconnections).1

/-- A pooled connection that is acquired stays where it is. -/
def AcquiresMux (pool next : ConnectionPool) (key : ConnectionKey) (acquired : AcquiredConnection) :
    Prop :=
  next.muxConnections key = pool.muxConnections key ∧
    match acquired with
    | .h3 connection | .h2 connection => connection ∈ pool.muxConnections key
    | .h1 _ => True

section Acquisition

variable {acquired : AcquiredConnection}

theorem acquiresMux_tryAcquireH3 (hacquired : pool.tryAcquireH3 key now = some (next, acquired)) :
    pool.AcquiresMux next key acquired := by
  obtain ⟨entry, hentry, hnext⟩ := map_eq_some_iff.mp hacquired
  cases hnext
  constructor
  · simp [muxConnections, hentry]
  · exact mem_muxConnections.mpr (.inl ⟨entry, hentry, rfl⟩)

theorem acquiresMux_tryAcquireH2 (hacquired : pool.tryAcquireH2 key now = some (next, acquired)) :
    pool.AcquiresMux next key acquired := by
  obtain ⟨entry, hentry, hnext⟩ := map_eq_some_iff.mp hacquired
  cases hnext
  constructor
  · simp [muxConnections, hentry]
  · exact mem_muxConnections.mpr (.inr ⟨entry, hentry, rfl⟩)

theorem acquiresMux_tryAcquireH1 (hacquired : pool.tryAcquireH1 key = some (next, acquired)) :
    pool.AcquiresMux next key acquired := by
  obtain ⟨entry, -, hnext⟩ := map_eq_some_iff.mp hacquired
  cases hnext
  exact ⟨rfl, trivial⟩

theorem acquiresMux_tryAcquire {version : PreferredHttpVersion}
    (hacquired : pool.tryAcquire version key now = some (next, acquired)) :
    pool.AcquiresMux next key acquired := by
  rcases tryAcquire_cases hacquired with hh3 | hh2 | hh1
  · exact acquiresMux_tryAcquireH3 hh3
  · exact acquiresMux_tryAcquireH2 hh2
  · exact acquiresMux_tryAcquireH1 hh1

end Acquisition

theorem mem_of_mem_insertH2Reserved
    (hmem : other ∈ (pool.insertH2Reserved key connection now).muxConnections key) :
    other = connection ∨ other ∈ pool.muxConnections key := by
  rw [insertH2Reserved] at hmem
  split at hmem
  · exact .inr hmem
  · rcases mem_muxConnections.mp hmem with hh3 | ⟨entry, hentry, hconnection⟩
    · exact .inr (mem_muxConnections.mpr (.inl hh3))
    · cases (update_self ..).symm.trans hentry
      exact .inl hconnection.symm

theorem mem_of_mem_insertH3Reserved
    (hmem : other ∈ (pool.insertH3Reserved key connection now).muxConnections key) :
    (other = connection ∧ pool.h3 key = none) ∨ other ∈ pool.muxConnections key := by
  rw [insertH3Reserved] at hmem
  split at hmem
  · exact .inr hmem
  next habsent =>
    rcases mem_muxConnections.mp hmem with ⟨entry, hentry, hconnection⟩ | hh2
    · cases (update_self ..).symm.trans hentry
      exact .inl ⟨hconnection.symm, not_isSome_iff_eq_none.mp habsent⟩
    · exact .inr (mem_muxConnections.mpr (.inr hh2))

theorem muxConnections_returnH1Reserved {limits : PoolLimits} {entry : H1PoolEntry} :
    (pool.returnH1Reserved limits entry).1.muxConnections key = pool.muxConnections key := by
  rw [returnH1Reserved]
  split <;> rfl

end ConnectionPool

namespace PoolUse

def setTask (state : PoolUse) (task : Nat) (stage : UseStage) : PoolUse :=
  { state with tasks := update state.tasks task (some stage) }

/-! ## Steps -/

inductive Event where
  | acquire (task : Nat) (version : PreferredHttpVersion) (now : Nat)
  /-- A probe or a preconnect begins. -/
  | probe (task : Nat)
  | fail (task : Nat)
  | remove (task : Nat)
  | retry (task : Nat)
  | establish (task : Nat) (protocol : MuxProtocol)
  | insert (task : Nat) (now : Nat)
  /-- The task returns, fails otherwise or is cancelled. -/
  | finish (task : Nat)
  /-- Somebody puts an idle HTTP/1.1 connection into the pool. -/
  | pushH1 (permit now : Nat)
  | evictIdle (now : Nat)
  /-- The driver of a connection ends. -/
  | close (connection : Nat)

def Event.task : Event → Option Nat
  | .acquire task _ _ | .probe task | .fail task | .remove task | .retry task
  | .establish task _ | .insert task _ | .finish task => some task
  | .pushH1 .. | .evictIdle _ | .close _ => none

variable (limits : PoolLimits) (key : ConnectionKey)

/-- A request looks into the pool. -/
def acquire (state : PoolUse) (task : Nat) (version : PreferredHttpVersion) (now : Nat) : PoolUse :=
  let evicted := (state.pool.evictIdle limits now).1
  match evicted.tryAcquire version key now with
  | some (pool, .h3 connection) | some (pool, .h2 connection) =>
    { state with pool := pool }.setTask task (.riding connection)
  | some (pool, .h1 _) => { state with pool := pool }.setTask task .ended
  | none => { state with pool := evicted }.setTask task (.establishing true)

/-- `insert_h2_reserved` and `insert_h3_reserved`, with what they do to the driver. -/
def insert (state : PoolUse) (protocol : MuxProtocol) (connection now : Nat) : PoolUse :=
  match protocol with
  | .h2 => { state with pool := state.pool.insertH2Reserved key connection now }
  | .h3 =>
    { state with
      pool := state.pool.insertH3Reserved key connection now
      stopped :=
        if (state.pool.h3 key).isSome then update state.stopped connection true
        else state.stopped }

def stepTask (state : PoolUse) (task : Nat) : UseStage → Event → Option PoolUse
  | .riding connection, .fail _ =>
    if state.ended connection then some (state.setTask task (.closed connection)) else none
  | .closed connection, .remove _ =>
    some ({ state with pool := (state.pool.remove key).1 }.setTask task
      (.removed connection (state.pool.connections key)))
  | .removed .., .retry _ => some (state.setTask task (.establishing true))
  | .establishing sends, .establish _ protocol =>
    some ({ state with next := state.next + 1 }.setTask task
      (.established protocol state.next sends))
  | .established protocol connection sends, .insert _ now =>
    some ((state.insert key protocol connection now).setTask task
      (if sends then .sending connection else .ended))
  | _, .finish _ => some (state.setTask task .ended)
  | _, _ => none

def step (state : PoolUse) (event : Event) : Option PoolUse :=
  match event with
  | .acquire task version now =>
    if (state.tasks task).isSome then none else some (state.acquire limits key task version now)
  | .probe task =>
    if (state.tasks task).isSome then none else some (state.setTask task (.establishing false))
  | .pushH1 permit now =>
    some { state with
      pool := (state.pool.returnH1Reserved limits ⟨key, state.next, permit, now⟩).1
      next := state.next + 1 }
  | .evictIdle now => some { state with pool := (state.pool.evictIdle limits now).1 }
  | .close connection =>
    some { state with ended := update state.ended connection true }
  | _ =>
    event.task.bind fun task =>
      (state.tasks task).bind fun stage => state.stepTask key task stage event

def machine : Machine PoolUse Event where
  start := ⟨.new, 0, fun _ => false, fun _ => false, fun _ => none⟩
  step := step limits key

/-! ## Safety -/

/-- What the pool promises to those who use its connections. -/
structure Safe (state : PoolUse) : Prop where
  drivers : ∀ task stage connection, state.tasks task = some stage →
    stage.inFlight = some connection → state.stopped connection = false
  single : ((state.pool.h2 key).toList.length ≤ 1) ∧ ((state.pool.h3 key).toList.length ≤ 1)
  removals : ∀ task connection taken, state.tasks task = some (.removed connection taken) →
    ∀ other ∈ taken, other = connection

/-- A request inserts an HTTP/3 connection only where there is none, and a closed connection is
removed only where nothing else is. -/
def Undisturbed (state : PoolUse) : Event → Prop
  | .insert task _ => ∀ connection,
      state.tasks task = some (.established .h3 connection true) → state.pool.h3 key = none
  | .remove task => ∀ connection, state.tasks task = some (.closed connection) →
      ∀ other ∈ state.pool.connections key, other = connection
  | _ => True

/-! ## The invariant -/

/-- A connection that is not inserted yet is known to its task alone, and no connection that
somebody can send on is stopped. -/
structure Sound (state : PoolUse) : Prop where
  pooled : ∀ connection ∈ state.pool.muxConnections key,
    connection < state.next ∧ state.stopped connection = false
  senders : ∀ task stage connection, state.tasks task = some stage →
    stage.sender = some connection → connection < state.next ∧ state.stopped connection = false
  fresh : ∀ connection, state.next ≤ connection → state.stopped connection = false
  apart : ∀ task protocol connection sends,
    state.tasks task = some (.established protocol connection sends) →
      connection ∉ state.pool.muxConnections key ∧
      ∀ other stage, other ≠ task → state.tasks other = some stage → stage.sender ≠ some connection
  removals : ∀ task connection taken, state.tasks task = some (.removed connection taken) →
    ∀ other ∈ taken, other = connection

variable {limits key} {state : PoolUse} {task : Nat} {stage : UseStage} {event : Event}
  {next : PoolUse}

theorem sound_start : (machine limits key).start.Sound key where
  pooled _ hmem := nomatch hmem
  senders _ _ _ htask := nomatch htask
  fresh _ _ := rfl
  apart _ _ _ _ htask := nomatch htask
  removals _ _ _ htask := nomatch htask

theorem tasks_setTask_self : (state.setTask task stage).tasks task = some stage :=
  update_self ..

theorem tasks_setTask_of_ne (hother : other ≠ task) :
    (state.setTask task stage).tasks other = state.tasks other :=
  update_of_ne hother ..

variable {pool : ConnectionPool}

section Sound

variable (hsound : state.Sound key)
include hsound

theorem Sound.withPool
    (hpool : ∀ connection ∈ pool.muxConnections key, connection ∈ state.pool.muxConnections key) :
    Sound key { state with pool := pool } where
  __ := hsound
  pooled connection hmem := hsound.pooled connection (hpool connection hmem)
  apart task protocol connection sends htask :=
    ⟨fun hmem => (hsound.apart task protocol connection sends htask).1 (hpool connection hmem),
      (hsound.apart task protocol connection sends htask).2⟩

theorem Sound.later : Sound key { state with next := state.next + 1 } where
  __ := hsound
  pooled connection hmem :=
    ⟨Nat.lt_succ_of_lt (hsound.pooled connection hmem).1, (hsound.pooled connection hmem).2⟩
  senders task stage connection htask hsender :=
    ⟨Nat.lt_succ_of_lt (hsound.senders task stage connection htask hsender).1,
      (hsound.senders task stage connection htask hsender).2⟩
  fresh connection hle := hsound.fresh connection (Nat.le_of_succ_le hle)

/-- A task gets to a stage with a connection that no other task is about to insert, or with none. -/
theorem Sound.setTask (hsender : ∀ connection, stage.sender = some connection →
      (connection < state.next ∧ state.stopped connection = false) ∧
      ∀ other protocol sends, other ≠ task →
        state.tasks other ≠ some (.established protocol connection sends))
    (happart : ∀ protocol connection sends, stage = .established protocol connection sends →
      connection ∉ state.pool.muxConnections key ∧
      ∀ other stage', other ≠ task → state.tasks other = some stage' →
        stage'.sender ≠ some connection)
    (hremoved : ∀ connection taken, stage = .removed connection taken →
      ∀ other ∈ taken, other = connection) : (state.setTask task stage).Sound key where
  __ := hsound
  senders other stage' connection htask hsender' := by
    obtain ⟨-, hnew⟩ | ⟨-, hold⟩ := update_cases htask
    · cases hnew
      exact (hsender connection hsender').1
    · exact hsound.senders other stage' connection hold hsender'
  apart other protocol connection sends htask := by
    obtain ⟨rfl, hnew⟩ | ⟨hother, hold⟩ := update_cases htask
    · cases hnew
      refine ⟨(happart protocol connection sends rfl).1, fun third stage' hthird htask' => ?_⟩
      rw [tasks_setTask_of_ne hthird] at htask'
      exact (happart protocol connection sends rfl).2 third stage' hthird htask'
    · have hapart := hsound.apart other protocol connection sends hold
      refine ⟨hapart.1, fun third stage' hthird htask' => ?_⟩
      obtain ⟨-, hnew⟩ | ⟨-, hthird'⟩ := update_cases htask'
      · cases hnew
        intro hsender'
        exact (hsender connection hsender').2 other protocol sends hother hold
      · exact hapart.2 third stage' hthird hthird'
  removals other connection taken htask := by
    obtain ⟨-, hnew⟩ | ⟨-, hold⟩ := update_cases htask
    · cases hnew
      exact hremoved connection taken rfl
    · exact hsound.removals other connection taken hold

/-- A task that has no sender any more, or not yet. -/
theorem Sound.setTask_of_none (hsender : stage.sender = none)
    (hremoved : ∀ connection taken, stage = .removed connection taken →
      ∀ other ∈ taken, other = connection) : (state.setTask task stage).Sound key := by
  apply hsound.setTask
  · intro connection hconnection
    cases hsender.symm.trans hconnection
  · rintro protocol connection sends rfl
    cases hsender
  · exact hremoved

theorem Sound.acquire (version : PreferredHttpVersion) (now : Nat) :
    (state.acquire limits key task version now).Sound key := by
  have hevicted : ∀ connection ∈ (state.pool.evictIdle limits now).1.muxConnections key,
      connection ∈ state.pool.muxConnections key := fun _ => mem_of_mem_retain
  -- A pooled connection is inserted by nobody.
  have hriding {pool : ConnectionPool} {connection : Nat}
      (hpool : pool.muxConnections key = (state.pool.evictIdle limits now).1.muxConnections key)
      (hmem : connection ∈ (state.pool.evictIdle limits now).1.muxConnections key) :
      ({ state with pool := pool }.setTask task (.riding connection)).Sound key := by
    have hpool' := hsound.withPool fun other hother => hevicted other (hpool ▸ hother)
    refine hpool'.setTask ?_ nofun nofun
    rintro other ⟨⟩
    refine ⟨hsound.pooled connection (hevicted connection hmem), ?_⟩
    intro third protocol sends hthird htask
    exact (hsound.apart third protocol connection sends htask).1 (hevicted connection hmem)
  rw [PoolUse.acquire]
  split
  next pool connection hacquired =>
    have hacquires := acquiresMux_tryAcquire hacquired
    exact hriding hacquires.1 hacquires.2
  next pool connection hacquired =>
    have hacquires := acquiresMux_tryAcquire hacquired
    exact hriding hacquires.1 hacquires.2
  next pool entry hacquired =>
    have hacquires := acquiresMux_tryAcquire hacquired
    have hpool := hsound.withPool fun other hother => hevicted other (hacquires.1 ▸ hother)
    exact hpool.setTask_of_none rfl nofun
  · exact (hsound.withPool hevicted).setTask_of_none rfl nofun

end Sound

variable {protocol : MuxProtocol} {sends : Bool}

section Insertion

variable {connection : Nat}

/-- A connection that nobody has a sender of goes into the pool. -/
theorem Sound.pools (hsound : state.Sound key)
    (hconnection : connection < state.next ∧ state.stopped connection = false)
    (hunknown : ∀ other stage, state.tasks other = some stage → stage.sender ≠ some connection)
    (hpool : ∀ other ∈ pool.muxConnections key,
      other = connection ∨ other ∈ state.pool.muxConnections key) :
    Sound key { state with pool := pool } where
  __ := hsound
  pooled other hmem := by
    rcases hpool other hmem with rfl | hmem
    · exact hconnection
    · exact hsound.pooled other hmem
  apart task protocol other sends htask := by
    have hapart := hsound.apart task protocol other sends htask
    refine ⟨fun hmem => ?_, hapart.2⟩
    rcases hpool other hmem with rfl | hmem
    · exact hunknown task _ htask rfl
    · exact hapart.1 hmem

/-- The driver of a connection that nobody has a sender of is stopped. -/
theorem Sound.stops (hsound : state.Sound key) (hlt : connection < state.next)
    (hunpooled : connection ∉ state.pool.muxConnections key)
    (hunknown : ∀ other stage, state.tasks other = some stage → stage.sender ≠ some connection) :
    Sound key { state with stopped := update state.stopped connection true } := by
  have hkept {other : Nat} (hother : other ≠ connection) :
      update state.stopped connection true other = state.stopped other :=
    update_of_ne hother ..
  constructor
  case pooled =>
    intro other hmem
    have hother : other ≠ connection := fun heq => hunpooled (heq ▸ hmem)
    exact ⟨(hsound.pooled other hmem).1, (hkept hother).trans (hsound.pooled other hmem).2⟩
  case senders =>
    intro task stage other htask hsender
    have hother : other ≠ connection := fun heq => hunknown task stage htask (heq ▸ hsender)
    have hsenders := hsound.senders task stage other htask hsender
    exact ⟨hsenders.1, (hkept hother).trans hsenders.2⟩
  case fresh =>
    intro other hle
    exact (hkept (Nat.ne_of_gt (Nat.lt_of_lt_of_le hlt hle))).trans (hsound.fresh other hle)
  case apart => exact hsound.apart
  case removals => exact hsound.removals

theorem setTask_setTask {first second : UseStage} :
    (state.setTask task first).setTask task second = state.setTask task second := by
  simp [PoolUse.setTask]

theorem Sound.insert {now : Nat} (hsound : state.Sound key)
    (htask : state.tasks task = some (.established protocol connection sends))
    (hfree : protocol = .h3 → sends = true → state.pool.h3 key = none) :
    ((state.insert key protocol connection now).setTask task
      (if sends then .sending connection else .ended)).Sound key := by
  have hconnection := hsound.senders task _ connection htask rfl
  have hapart := hsound.apart task protocol connection sends htask
  -- Without its task nobody knows the connection.
  have hended : (state.setTask task .ended).Sound key := hsound.setTask_of_none rfl nofun
  have hunknown (other : Nat) (stage : UseStage)
      (htask' : (state.setTask task .ended).tasks other = some stage) :
      stage.sender ≠ some connection := by
    obtain ⟨-, hnew⟩ | ⟨hother, hold⟩ := update_cases htask'
    · cases hnew
      nofun
    · exact hapart.2 other stage hother hold
  -- A task that may go on with the connection after it was pooled.
  have hgoes {pool : ConnectionPool}
      (hpool : ∀ other ∈ pool.muxConnections key,
        other = connection ∨ other ∈ state.pool.muxConnections key) :
      ({ state with pool := pool }.setTask task
        (if sends then .sending connection else .ended)).Sound key := by
    have hpooled : ({ state with pool := pool }.setTask task .ended).Sound key :=
      hended.pools hconnection hunknown hpool
    cases sends with
    | false => exact hpooled
    | true =>
      have hsending : (({ state with pool := pool }.setTask task .ended).setTask task
          (.sending connection)).Sound key := by
        refine hpooled.setTask ?_ nofun nofun
        rintro other ⟨⟩
        exact ⟨hconnection, fun other protocol sends _ htask' => hunknown other _ htask' rfl⟩
      rwa [setTask_setTask] at hsending
  cases protocol with
  | h2 => exact hgoes fun other => mem_of_mem_insertH2Reserved
  | h3 =>
    rw [PoolUse.insert]
    cases hpresent : state.pool.h3 key with
    | none =>
      apply hgoes
      intro other hmem
      rcases mem_of_mem_insertH3Reserved hmem with ⟨hother, -⟩ | hmem
      · exact .inl hother
      · exact .inr hmem
    | some entry =>
      have hprobe : sends = false := by
        cases sends with
        | false => rfl
        | true => cases hpresent.symm.trans (hfree rfl rfl)
      subst hprobe
      have hsame : state.pool.insertH3Reserved key connection now = state.pool := by
        rw [insertH3Reserved, hpresent]
        rfl
      rw [hsame]
      exact hended.stops hconnection.1 hapart.1 hunknown

end Insertion

theorem Sound.establish (hsound : state.Sound key) :
    ({ state with next := state.next + 1 }.setTask task
      (.established protocol state.next sends)).Sound key := by
  have hunknown (other : Nat) (stage : UseStage) (htask : state.tasks other = some stage) :
      stage.sender ≠ some state.next := fun hsender =>
    Nat.lt_irrefl _ (hsound.senders other stage state.next htask hsender).1
  apply hsound.later.setTask
  · rintro connection ⟨⟩
    refine ⟨⟨Nat.lt_succ_self _, hsound.fresh state.next (Nat.le_refl _)⟩, ?_⟩
    intro other protocol' sends' _ htask
    exact hunknown other _ htask rfl
  · rintro protocol' connection sends' ⟨⟩
    refine ⟨fun hmem => Nat.lt_irrefl _ (hsound.pooled state.next hmem).1, ?_⟩
    exact fun other stage' _ htask => hunknown other stage' htask
  · nofun

theorem Sound.stepTask (hsound : state.Sound key)
    (hevent : event.task = some task) (hundisturbed : state.Undisturbed key event)
    (htask : state.tasks task = some stage)
    (hstep : state.stepTask key task stage event = some next) : next.Sound key := by
  rw [PoolUse.stepTask.eq_def] at hstep
  split at hstep
  case h_1 =>
    obtain ⟨-, hnext⟩ := ite_none_right_eq_some.mp hstep
    cases hnext
    exact hsound.setTask_of_none rfl nofun
  case h_2 connection task' =>
    cases hstep
    cases hevent
    have hremoved : Sound key { state with pool := (state.pool.remove key).1 } := by
      apply hsound.withPool
      rw [muxConnections_remove]
      nofun
    apply hremoved.setTask_of_none rfl
    rintro connection' taken ⟨⟩
    exact hundisturbed connection htask
  case h_3 =>
    cases hstep
    exact hsound.setTask_of_none rfl nofun
  case h_4 =>
    cases hstep
    exact hsound.establish
  case h_5 protocol connection sends task' now =>
    cases hstep
    cases hevent
    apply hsound.insert htask
    rintro rfl rfl
    exact hundisturbed connection htask
  case h_6 =>
    cases hstep
    exact hsound.setTask_of_none rfl nofun
  case h_7 => cases hstep

theorem Sound.step (hsound : state.Sound key) (hundisturbed : state.Undisturbed key event)
    (hstep : state.step limits key event = some next) : next.Sound key := by
  cases event with
  | acquire task version now =>
    obtain ⟨-, hnext⟩ := ite_none_left_eq_some.mp hstep
    cases hnext
    exact hsound.acquire version now
  | probe task =>
    obtain ⟨-, hnext⟩ := ite_none_left_eq_some.mp hstep
    cases hnext
    exact hsound.setTask_of_none rfl nofun
  | pushH1 permit now =>
    cases hstep
    apply hsound.later.withPool
    rw [muxConnections_returnH1Reserved]
    exact fun _ => id
  | evictIdle now =>
    cases hstep
    exact hsound.withPool fun _ => mem_of_mem_retain
  | close connection =>
    cases hstep
    exact { hsound with }
  | fail | remove | retry | establish | insert | finish =>
    obtain ⟨stage, htask, hnext⟩ := bind_eq_some_iff.mp hstep
    exact hsound.stepTask rfl hundisturbed htask hnext

/-! ## Every run -/

/-- A request that lost the race over its HTTP/3 connection sends on a stopped one. -/
theorem broken_insert (limits : PoolLimits) {now : Nat} {entry : MuxPoolEntry}
    (htask : state.tasks task = some (.established .h3 connection true))
    (hpresent : state.pool.h3 key = some entry) :
    ∃ next, state.step limits key (.insert task now) = some next ∧ ¬next.Safe key := by
  have hstep : state.step limits key (.insert task now) =
      some ((state.insert key .h3 connection now).setTask task (.sending connection)) := by
    simp [PoolUse.step, Event.task, htask, PoolUse.stepTask]
  refine ⟨_, hstep, fun hsafe => ?_⟩
  have hrunning := hsafe.drivers task _ connection tasks_setTask_self rfl
  simp [PoolUse.setTask, PoolUse.insert, hpresent] at hrunning

/-- A removal takes a connection that somebody else put under the key. -/
theorem broken_remove (limits : PoolLimits) (htask : state.tasks task = some (.closed connection))
    (hother : other ∈ state.pool.connections key) (hne : other ≠ connection) :
    ∃ next, state.step limits key (.remove task) = some next ∧ ¬next.Safe key := by
  have hstep : state.step limits key (.remove task) =
      some ({ state with pool := (state.pool.remove key).1 }.setTask task
        (.removed connection (state.pool.connections key))) := by
    simp [PoolUse.step, Event.task, htask, PoolUse.stepTask]
  refine ⟨_, hstep, fun hsafe => hne ?_⟩
  exact hsafe.removals task connection _ tasks_setTask_self other hother

theorem Sound.safe (hsound : state.Sound key) : state.Safe key where
  drivers task stage connection htask hinFlight :=
    (hsound.senders task stage connection htask (UseStage.sender_of_inFlight hinFlight)).2
  single := ⟨length_toList_le, length_toList_le⟩
  removals := hsound.removals

/-- Every state of a run is safe exactly when its insertions and removals find nothing in their
way. -/
theorem pooled_connections_undisturbed (limits : PoolLimits) (key : ConnectionKey)
    (events : List Event) :
    (machine limits key).Throughout (Safe key) events ↔
      (machine limits key).Obeys (Undisturbed key) events := by
  apply Machine.throughout_iff_obeys (Sound key) sound_start
  · intro state event next hsound hundisturbed hstep
    exact hsound.step hundisturbed hstep
  · intro state hsound
    exact hsound.safe
  · intro state event _ hdisturbed
    cases event with
    | insert task now =>
      obtain ⟨connection, hconnection⟩ := not_forall.mp hdisturbed
      obtain ⟨htask, hpresent⟩ := Classical.not_imp.mp hconnection
      obtain ⟨entry, hpresent⟩ := ne_none_iff_exists'.mp hpresent
      exact broken_insert limits htask hpresent
    | remove task =>
      obtain ⟨connection, hconnection⟩ := not_forall.mp hdisturbed
      obtain ⟨htask, hothers⟩ := Classical.not_imp.mp hconnection
      obtain ⟨other, hother⟩ := not_forall.mp hothers
      obtain ⟨hmem, hne⟩ := Classical.not_imp.mp hother
      exact broken_remove limits htask hmem hne
    | _ => exact absurd trivial hdisturbed

def apiKey : ConnectionKey := ⟨.https, "api.example".toList, 443, .direct⟩

/-- Two requests make an HTTP/3 connection each. -/
def lostRace : List Event :=
  [.acquire 1 .http3Only 0, .acquire 2 .http3Only 0, .establish 1 .h3, .establish 2 .h3,
    .insert 1 0, .insert 2 0]

/-- Two requests find the HTTP/2 connection that they share closed. The second removes the one that
the first has made since. -/
def lostConnection : List Event :=
  [.probe 1, .establish 1 .h2, .insert 1 0, .acquire 2 .auto 0, .acquire 3 .auto 0, .close 0,
    .fail 2, .fail 3, .remove 2, .retry 2, .establish 2 .h2, .insert 2 0, .remove 3]

theorem driver_and_connection_lost :
    (∃ last, (machine .default apiKey).run lostRace = some last ∧ ¬last.Safe apiKey ∧
      last.tasks 2 = some (.sending 1) ∧ last.stopped 1 = true) ∧
    (∃ last, (machine .default apiKey).run lostConnection = some last ∧ ¬last.Safe apiKey ∧
      last.tasks 3 = some (.removed 0 [1]) ∧ last.tasks 2 = some (.sending 1)) := by
  constructor
  · refine ⟨_, rfl, fun hsafe => ?_, rfl, rfl⟩
    cases hsafe.drivers 2 (.sending 1) 1 rfl rfl
  · refine ⟨_, rfl, fun hsafe => ?_, rfl, rfl⟩
    cases hsafe.removals 3 0 [1] rfl 1 (List.mem_singleton_self 1)

end PoolUse

end LkRequest.Client
