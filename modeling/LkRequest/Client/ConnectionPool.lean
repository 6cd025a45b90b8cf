import LkRequest.Client.Operations

/-!
# The connection pool

`ConnectionPool` of `connection_pool.rs`, without the deprecated entry points. Connections and
permits go by their numbers. The queues of idle HTTP/1.1 connections stand in one list, every queue
in its own order, so that a queue is never empty. What an operation drops, it returns.
-/

namespace LkRequest.Client

open Function List Option

structure H1PoolEntry where
  key : ConnectionKey
  connection : Nat
  permit : Nat
  lastUsed : Nat

/-- `H2PoolEntry` and `H3PoolEntry`. -/
structure MuxPoolEntry where
  connection : Nat
  lastUsed : Nat

/-- The limits of a pool; times are in one unit. -/
structure PoolLimits where
  maxPerKey : Nat
  maxTotal : Nat
  idleTimeout : Nat

/-- `ConnectionPool::new`, in seconds. -/
def PoolLimits.default : PoolLimits := ⟨16, 64, 300⟩

structure ConnectionPool where
  h3 : ConnectionKey → Option MuxPoolEntry
  h2 : ConnectionKey → Option MuxPoolEntry
  h1 : List H1PoolEntry

inductive AcquiredConnection where
  | h3 (connection : Nat)
  | h2 (connection : Nat)
  | h1 (entry : H1PoolEntry)

namespace ConnectionPool

def new : ConnectionPool := ⟨fun _ => none, fun _ => none, []⟩

/-- The queue of a key. -/
def queue (pool : ConnectionPool) (key : ConnectionKey) : List H1PoolEntry :=
  pool.h1.filter (·.key == key)

def front (pool : ConnectionPool) (key : ConnectionKey) : Option H1PoolEntry :=
  pool.h1.find? (·.key == key)

def popFront (pool : ConnectionPool) (key : ConnectionKey) : ConnectionPool :=
  { pool with h1 := pool.h1.eraseP (·.key == key) }

def back (pool : ConnectionPool) (key : ConnectionKey) : Option H1PoolEntry :=
  pool.h1.reverse.find? (·.key == key)

def popBack (pool : ConnectionPool) (key : ConnectionKey) : ConnectionPool :=
  { pool with h1 := (pool.h1.reverse.eraseP (·.key == key)).reverse }

def pushBack (pool : ConnectionPool) (entry : H1PoolEntry) : ConnectionPool :=
  { pool with h1 := pool.h1 ++ [entry] }

/-- `retain` on all three maps. -/
def retain (pool : ConnectionPool) (keepsMux : MuxPoolEntry → Bool) (keeps : H1PoolEntry → Bool) :
    ConnectionPool × List H1PoolEntry :=
  (⟨fun key => (pool.h3 key).filter keepsMux, fun key => (pool.h2 key).filter keepsMux,
      pool.h1.filter keeps⟩,
    pool.h1.filter (!keeps ·))

/-! ## Eviction -/

def evictClosed (pool : ConnectionPool) (finished : Nat → Bool) :
    ConnectionPool × List H1PoolEntry :=
  pool.retain (!finished ·.connection) (!finished ·.connection)

/-- The entry is the least recently used of the fronts. -/
def isOldest (pool : ConnectionPool) (oldest : H1PoolEntry) : Bool :=
  pool.h1.all fun entry => (pool.front entry.key).all (oldest.lastUsed ≤ ·.lastUsed)

/-- `evict_one_idle_h1`. Among fronts that are equally old the order of the map decides: the key is
the one that it comes to. -/
def evictOneIdleH1 (pool : ConnectionPool) (oldest : ConnectionKey) :
    Option (ConnectionPool × H1PoolEntry) :=
  (pool.front oldest).bind fun entry =>
    if pool.isOldest entry then some (pool.popFront oldest, entry) else none

def evictIdle (limits : PoolLimits) (pool : ConnectionPool) (now : Nat) :
    ConnectionPool × List H1PoolEntry :=
  pool.retain (now - ·.lastUsed ≤ limits.idleTimeout) (now - ·.lastUsed ≤ limits.idleTimeout)

/-- `remove`: everything under the key. -/
def remove (pool : ConnectionPool) (key : ConnectionKey) : ConnectionPool × List H1PoolEntry :=
  (⟨update pool.h3 key none, update pool.h2 key none,
      pool.h1.filter (·.key != key)⟩,
    pool.queue key)

/-- `clear`, after it has evicted the closed connections. -/
def clear (pool : ConnectionPool) : ConnectionPool × List H1PoolEntry := (new, pool.h1)

/-! ## Acquisition -/

def tryAcquireH3 (pool : ConnectionPool) (key : ConnectionKey) (now : Nat) :
    Option (ConnectionPool × AcquiredConnection) :=
  (pool.h3 key).map fun entry =>
    ({ pool with h3 := update pool.h3 key (some { entry with lastUsed := now }) },
      .h3 entry.connection)

def tryAcquireH2 (pool : ConnectionPool) (key : ConnectionKey) (now : Nat) :
    Option (ConnectionPool × AcquiredConnection) :=
  (pool.h2 key).map fun entry =>
    ({ pool with h2 := update pool.h2 key (some { entry with lastUsed := now }) },
      .h2 entry.connection)

def tryAcquireH1 (pool : ConnectionPool) (key : ConnectionKey) :
    Option (ConnectionPool × AcquiredConnection) :=
  (pool.back key).map fun entry => (pool.popBack key, .h1 entry)

/-- `try_acquire_pooled`, after it has evicted the idle connections. -/
def tryAcquire (pool : ConnectionPool) (version : PreferredHttpVersion) (key : ConnectionKey)
    (now : Nat) : Option (ConnectionPool × AcquiredConnection) :=
  match version with
  | .auto => pool.tryAcquireH3 key now <|> pool.tryAcquireH2 key now <|> pool.tryAcquireH1 key
  | .http1Only => pool.tryAcquireH1 key
  | .http2Only => pool.tryAcquireH2 key now
  | .http3Only | .http3WithFallback => pool.tryAcquireH3 key now

/-! ## Insertion -/

/-- `insert_h3_reserved`: an entry that is there stays. -/
def insertH3Reserved (pool : ConnectionPool) (key : ConnectionKey) (connection now : Nat) :
    ConnectionPool :=
  if (pool.h3 key).isSome then pool
  else { pool with h3 := update pool.h3 key (some ⟨connection, now⟩) }

/-- `insert_h2_reserved`: an entry that is there stays. -/
def insertH2Reserved (pool : ConnectionPool) (key : ConnectionKey) (connection now : Nat) :
    ConnectionPool :=
  if (pool.h2 key).isSome then pool
  else { pool with h2 := update pool.h2 key (some ⟨connection, now⟩) }

/-- `return_h1_reserved`: a full queue loses its front. -/
def returnH1Reserved (limits : PoolLimits) (pool : ConnectionPool) (entry : H1PoolEntry) :
    ConnectionPool × List H1PoolEntry :=
  if limits.maxPerKey ≤ (pool.queue entry.key).length then
    ((pool.popFront entry.key).pushBack entry, (pool.front entry.key).toList)
  else (pool.pushBack entry, [])

/-- `insert_h1_reserved`. -/
def insertH1Reserved (pool : ConnectionPool) (entry : H1PoolEntry) : ConnectionPool :=
  pool.pushBack entry

/-! ## What happens to the idle connections -/

/-- The idle connections are those of the new pool and those dropped. -/
structure Shrinks (pool next : ConnectionPool) (dropped : List H1PoolEntry) : Prop where
  perm : pool.h1.Perm (next.h1 ++ dropped)
  sublist : next.h1.Sublist pool.h1

variable {limits : PoolLimits} {pool : ConnectionPool} {key : ConnectionKey} {entry : H1PoolEntry}

theorem Shrinks.trans {middle last : ConnectionPool} {first second : List H1PoolEntry}
    (hfirst : pool.Shrinks middle first) (hsecond : middle.Shrinks last second) :
    pool.Shrinks last (first ++ second) where
  perm := by
    have hboth := hfirst.perm.trans (hsecond.perm.append_right first)
    rw [append_assoc] at hboth
    exact hboth.trans (perm_append_comm.append_left last.h1)
  sublist := hsecond.sublist.trans hfirst.sublist

theorem shrinks_retain (keepsMux : MuxPoolEntry → Bool) (keeps : H1PoolEntry → Bool) :
    pool.Shrinks (pool.retain keepsMux keeps).1 (pool.retain keepsMux keeps).2 where
  perm := (filter_append_perm keeps pool.h1).symm
  sublist := filter_sublist

theorem shrinks_evictClosed (pool : ConnectionPool) (finished : Nat → Bool) :
    pool.Shrinks (pool.evictClosed finished).1 (pool.evictClosed finished).2 :=
  shrinks_retain ..

theorem shrinks_evictIdle (limits : PoolLimits) (pool : ConnectionPool) (now : Nat) :
    pool.Shrinks (pool.evictIdle limits now).1 (pool.evictIdle limits now).2 :=
  shrinks_retain ..

theorem shrinks_remove : pool.Shrinks (pool.remove key).1 (pool.remove key).2 where
  perm := by
    have hparts := filter_append_perm (fun entry : H1PoolEntry => entry.key == key) pool.h1
    exact (perm_append_comm.trans hparts).symm
  sublist := filter_sublist

theorem shrinks_clear : pool.Shrinks pool.clear.1 pool.clear.2 where
  perm := List.Perm.refl _
  sublist := nil_sublist _

/-- The first entry that is found is the one that is erased. -/
theorem perm_cons_eraseP {α : Type} {found : α} {test : α → Bool} {list : List α}
    (hfound : list.find? test = some found) : list.Perm (found :: list.eraseP test) := by
  induction list with
  | nil => cases hfound
  | cons head rest ih =>
    rw [find?_cons] at hfound
    cases htest : test head with
    | true =>
      rw [htest] at hfound
      cases hfound
      rw [eraseP_cons_of_pos htest]
    | false =>
      rw [htest] at hfound
      rw [eraseP_cons_of_neg (by simp [htest])]
      exact ((ih hfound).cons head).trans (List.Perm.swap found head _)

theorem shrinks_popFront (pool : ConnectionPool) (key : ConnectionKey) :
    pool.Shrinks (pool.popFront key) (pool.front key).toList where
  perm := by
    cases hfront : pool.front key with
    | none =>
      have herase : pool.h1.eraseP (·.key == key) = pool.h1 :=
        eraseP_of_forall_not (find?_eq_none.mp hfront)
      simp [popFront, herase]
    | some entry => exact (perm_cons_eraseP hfront).trans (perm_append_singleton ..).symm
  sublist := eraseP_sublist

theorem shrinks_popBack (hback : pool.back key = some entry) :
    pool.Shrinks (pool.popBack key) [entry] where
  perm := by
    have hreverse := perm_cons_eraseP hback
    have hrest := reverse_perm (pool.h1.reverse.eraseP (·.key == key))
    exact (reverse_perm pool.h1).symm.trans
      (hreverse.trans ((hrest.symm.cons entry).trans (perm_append_singleton ..).symm))
  sublist := by
    have hsublist : (pool.h1.reverse.eraseP (·.key == key)).Sublist pool.h1.reverse :=
      eraseP_sublist
    simpa [popBack] using hsublist.reverse

theorem shrinks_evictOneIdleH1 {oldest : ConnectionKey} {next : ConnectionPool}
    (hevicted : pool.evictOneIdleH1 oldest = some (next, entry)) : pool.Shrinks next [entry] := by
  obtain ⟨found, hfront, holdest⟩ := bind_eq_some_iff.mp hevicted
  obtain ⟨-, hnext⟩ := ite_none_right_eq_some.mp holdest
  cases hnext
  have hshrinks := pool.shrinks_popFront oldest
  rwa [hfront] at hshrinks

theorem length_queue_pushBack (pool : ConnectionPool) (entry : H1PoolEntry) :
    ((pool.pushBack entry).queue entry.key).length = (pool.queue entry.key).length + 1 := by
  simp [queue, pushBack]

theorem queue_pushBack_of_ne (hkey : entry.key ≠ key) :
    (pool.pushBack entry).queue key = pool.queue key := by
  simp [queue, pushBack, hkey]

theorem length_queue_popFront (hfront : pool.front key = some entry) :
    (pool.queue key).length = ((pool.popFront key).queue key).length + 1 := by
  have hperm := (perm_cons_eraseP hfront).filter (·.key == key)
  have htest := find?_some hfront
  rw [filter_cons, if_pos htest] at hperm
  exact hperm.length_eq

/-- A connection that is returned leaves its queue within the bound, unless nothing may be in
it. -/
theorem length_queue_returnH1Reserved (hroom : 0 < limits.maxPerKey)
    (hbound : ∀ key, (pool.queue key).length ≤ limits.maxPerKey) (key : ConnectionKey) :
    ((pool.returnH1Reserved limits entry).1.queue key).length ≤ limits.maxPerKey := by
  rw [returnH1Reserved]
  split
  next hfull =>
    by_cases hkey : entry.key = key
    · subst hkey
      have hqueue : pool.queue entry.key ≠ [] := by
        intro hnil
        rw [hnil] at hfull
        exact absurd hroom (Nat.not_lt.mpr hfull)
      obtain ⟨oldest, hfront⟩ : ∃ oldest, pool.front entry.key = some oldest := by
        rw [← isSome_iff_exists, front, find?_isSome]
        obtain ⟨other, hother⟩ := exists_mem_of_ne_nil _ hqueue
        exact ⟨other, (mem_filter.mp hother).1, (mem_filter.mp hother).2⟩
      rw [length_queue_pushBack, ← length_queue_popFront hfront]
      exact hbound entry.key
    · rw [queue_pushBack_of_ne hkey]
      exact ((eraseP_sublist.filter _).length_le).trans (hbound key)
  next hroomy =>
    by_cases hkey : entry.key = key
    · subst hkey
      rw [length_queue_pushBack]
      exact Nat.not_le.mp hroomy
    · rw [queue_pushBack_of_ne hkey]
      exact hbound key

/-- Only the acquisition of an idle connection touches the queues. -/
def Acquires (pool next : ConnectionPool) : AcquiredConnection → Prop
  | .h1 entry => pool.Shrinks next [entry]
  | .h2 _ | .h3 _ => next.h1 = pool.h1

section Acquisition

variable {now : Nat} {next : ConnectionPool} {acquired : AcquiredConnection}
  {version : PreferredHttpVersion}

theorem acquires_tryAcquireH3 (hacquired : pool.tryAcquireH3 key now = some (next, acquired)) :
    pool.Acquires next acquired := by
  obtain ⟨entry, -, hnext⟩ := map_eq_some_iff.mp hacquired
  cases hnext
  rfl

theorem acquires_tryAcquireH2 (hacquired : pool.tryAcquireH2 key now = some (next, acquired)) :
    pool.Acquires next acquired := by
  obtain ⟨entry, -, hnext⟩ := map_eq_some_iff.mp hacquired
  cases hnext
  rfl

theorem acquires_tryAcquireH1 (hacquired : pool.tryAcquireH1 key = some (next, acquired)) :
    pool.Acquires next acquired := by
  obtain ⟨entry, hback, hnext⟩ := map_eq_some_iff.mp hacquired
  cases hnext
  exact shrinks_popBack hback

/-- An acquire takes a connection of one of the three kinds. -/
theorem tryAcquire_cases (hacquired : pool.tryAcquire version key now = some (next, acquired)) :
    pool.tryAcquireH3 key now = some (next, acquired) ∨
      pool.tryAcquireH2 key now = some (next, acquired) ∨
      pool.tryAcquireH1 key = some (next, acquired) := by
  cases version with
  | auto =>
    rcases (orElse_eq_some ..).mp hacquired with hh3 | ⟨-, hrest⟩
    · exact .inl hh3
    · exact .inr (((orElse_eq_some ..).mp hrest).imp_right And.right)
  | http1Only => exact .inr (.inr hacquired)
  | http2Only => exact .inr (.inl hacquired)
  | http3Only | http3WithFallback => exact .inl hacquired

theorem acquires_tryAcquire (hacquired : pool.tryAcquire version key now = some (next, acquired)) :
    pool.Acquires next acquired := by
  rcases tryAcquire_cases hacquired with hh3 | hh2 | hh1
  · exact acquires_tryAcquireH3 hh3
  · exact acquires_tryAcquireH2 hh2
  · exact acquires_tryAcquireH1 hh1

end Acquisition

end ConnectionPool

end LkRequest.Client
