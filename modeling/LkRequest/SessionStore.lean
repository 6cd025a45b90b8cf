import LkRequest.Library.Machine
import LkRequest.SessionTicket
import Mathlib.Data.List.Perm.Subperm

/-!
# The store of session tickets

`InMemorySessionStore` of `lktls/src/session_store.rs`: a queue of tickets for each host, here with
the newest ticket first. Times are in nanoseconds, and a call of `take` reads the clock once. Beside
the store a tally keeps the tickets that were stored and those that were returned.
-/

namespace LkRequest.Session

open Function Library List Option Machine

structure StoredTicket where
  data : SessionTicketData
  receivedAt : Nat

def StoredTicket.isExpired (now : Nat) (ticket : StoredTicket) : Bool :=
  10 ^ 9 * ticket.data.lifetimeSecs.toNat < now - ticket.receivedAt

abbrev Queues := String → List StoredTicket

inductive StoreCall where
  | store (host : String) (ticket : StoredTicket)
  | take (host : String) (now : Nat)

namespace InMemorySessionStore

/-- The loop of `store`, which has no result until it ends. -/
def evict (limit : Nat) : Nat → List StoredTicket → Option (List StoredTicket)
  | 0, _ => none
  | fuel + 1, queue =>
    if limit ≤ queue.length then evict limit fuel queue.dropLast else some queue

/-- The loop of `take`. -/
def pop (now : Nat) : List StoredTicket → Option StoredTicket × List StoredTicket
  | [] => (none, [])
  | ticket :: queue => if ticket.isExpired now then pop now queue else (some ticket, queue)

/-- The calls on a store that holds up to `limit` tickets for a host. -/
def calls (limit fuel : Nat) : Machine Queues StoreCall where
  start := fun _ => []
  step queues
    | .store host ticket => (evict limit fuel (queues host)).map fun kept =>
      update queues host (ticket :: kept)
    | .take host now => some (update queues host (pop now (queues host)).2)

structure Tally where
  stored : Queues
  returned : Queues

def Tally.note (before : Queues) : StoreCall → Queues → Tally → Tally
  | .store host ticket, _, tally =>
    { tally with stored := update tally.stored host (ticket :: tally.stored host) }
  | .take host now, _, tally =>
    { tally with
      returned := update tally.returned host
        ((pop now (before host)).1.toList ++ tally.returned host) }

def tallied (limit fuel : Nat) : Machine (Queues × Tally) StoreCall :=
  (calls limit fuel).observe ⟨fun _ => [], fun _ => []⟩ Tally.note

/-- The tickets of a host: each is returned once or held, the held ones are in order and within the
limit. -/
structure Fair (limit : Nat) (stored returned held : List StoredTicket) : Prop where
  once : (returned ++ held) <+~ stored
  ordered : held <+ stored
  bounded : held.length ≤ limit

def Sound (limit : Nat) (state : Queues × Tally) : Prop :=
  ∀ host, Fair limit (state.2.stored host) (state.2.returned host) (state.1 host)

variable {limit fuel : Nat} {queue kept stored returned held : List StoredTicket}
  {ticket : StoredTicket} {state next : Queues × Tally} {call : StoreCall}

theorem evict_eq_some (hevict : evict limit fuel queue = some kept) :
    kept <+ queue ∧ kept.length < limit := by
  induction fuel generalizing queue with
  | zero => cases hevict
  | succ fuel ih =>
    rw [evict] at hevict
    split at hevict
    · exact (ih hevict).imp_left fun hkept => hkept.trans (dropLast_sublist queue)
    next hroom =>
      cases hevict
      exact ⟨.refl _, Nat.not_le.mp hroom⟩

theorem isSome_evict (hlimit : 0 < limit) (hfuel : queue.length < fuel) :
    (evict limit fuel queue).isSome := by
  induction fuel generalizing queue with
  | zero => omega
  | succ fuel ih =>
    rw [evict]
    split
    · apply ih
      rw [length_dropLast]
      omega
    · rfl

/-- Without room for a ticket the loop pops an empty queue for ever. -/
theorem evict_zero (fuel : Nat) (queue : List StoredTicket) : evict 0 fuel queue = none := by
  induction fuel generalizing queue with
  | zero => rfl
  | succ fuel ih => exact ih queue.dropLast

theorem pop_fst {now : Nat} {queue : List StoredTicket} :
    (pop now queue).1 = queue.find? fun ticket => !ticket.isExpired now := by
  induction queue with
  | nil => rfl
  | cons ticket queue ih =>
    rw [pop, find?_cons]
    cases hexpired : ticket.isExpired now with
    | true => simpa [hexpired] using ih
    | false => simp

theorem pop_sublist (now : Nat) (queue : List StoredTicket) :
    ((pop now queue).1.toList ++ (pop now queue).2) <+ queue := by
  induction queue with
  | nil => exact .refl _
  | cons ticket queue ih =>
    rw [pop]
    split
    · exact ih.cons ticket
    · exact .refl _

theorem Fair.store (hfair : Fair limit stored returned held) (hkept : kept <+ held)
    (hroom : kept.length < limit) : Fair limit (ticket :: stored) returned (ticket :: kept) where
  once := by
    have honce := ((hkept.append_left returned).subperm).trans hfair.once
    exact perm_middle.subperm.trans (subperm_cons ticket |>.mpr honce)
  ordered := (hkept.trans hfair.ordered).cons_cons ticket
  bounded := hroom

theorem Fair.take (hfair : Fair limit stored returned held) (now : Nat) :
    Fair limit stored ((pop now held).1.toList ++ returned) (pop now held).2 := by
  have hpop := pop_sublist now held
  have hrest := (sublist_append_right _ _).trans hpop
  constructor
  · have hsame : (pop now held).1.toList ++ returned ++ (pop now held).2 ~
        returned ++ ((pop now held).1.toList ++ (pop now held).2) := by
      rw [← append_assoc]
      exact perm_append_comm.append_right _
    exact hsame.subperm.trans ((hpop.append_left returned).subperm.trans hfair.once)
  · exact hrest.trans hfair.ordered
  · exact hrest.length_le.trans hfair.bounded

theorem Sound.step (hsound : Sound limit state)
    (hstep : (tallied limit fuel).step state call = some next) : Sound limit next := by
  obtain ⟨queues, hqueues, rfl⟩ := map_eq_some_iff.mp hstep
  intro other
  cases call with
  | store host ticket =>
    obtain ⟨kept, hevict, rfl⟩ := map_eq_some_iff.mp hqueues
    obtain ⟨hkept, hroom⟩ := evict_eq_some hevict
    by_cases hother : other = host
    · subst hother
      simpa [Tally.note] using (hsound other).store hkept hroom
    · simpa [Tally.note, update_of_ne hother] using hsound other
  | take host now =>
    cases hqueues
    by_cases hother : other = host
    · subst hother
      simpa [Tally.note] using (hsound other).take now
    · simpa [Tally.note, update_of_ne hother] using hsound other

variable {events : List StoreCall}

theorem Sound.run (hrun : (tallied limit fuel).run events = some state) : Sound limit state :=
  invariant (fun _ => ⟨.refl _, .refl _, Nat.zero_le _⟩)
    (fun _ _ _ hsound _ => hsound.step) (fun _ _ _ _ _ _ => trivial) hrun

theorem isSome_run (hlimit : 0 < limit) : ((tallied limit (limit + 1)).run events).isSome := by
  induction events using List.reverseRecOn with
  | nil => rfl
  | append_singleton events call ih =>
    obtain ⟨state, hrun⟩ := isSome_iff_exists.mp ih
    have hbounded := fun host => (Sound.run hrun host).bounded
    have hstep : ((tallied limit (limit + 1)).step state call).isSome := by
      cases call with
      | store host ticket =>
        simpa [tallied, observe, calls] using
          isSome_evict hlimit (Nat.lt_succ_of_le (hbounded host))
      | take host now => rfl
    obtain ⟨next, hnext⟩ := isSome_iff_exists.mp hstep
    rw [run_concat_iff.mpr ⟨state, hrun, hnext⟩]
    rfl

/-- A ticket for an hour. -/
def hourTicket : StoredTicket :=
  ⟨⟨[0x01], [], .tls12, 0xc02f, 3600, 0, none, .sha256, .aes128Gcm, [], 0, none⟩, 0⟩

/-- Whatever calls are made, all of them end, every ticket is returned at most once and for the host
it was stored under, a call of `take` returns the newest unexpired ticket that is held, and no host
holds more than the limit, exactly if the limit is not zero. -/
theorem tickets_single_use_iff (limit : Nat) :
    (∀ events : List StoreCall, (∃ fuel, ((tallied limit fuel).run events).isSome) ∧
      ∀ fuel state, (tallied limit fuel).run events = some state →
        Sound limit state ∧ ∀ host now, (pop now (state.1 host)).1 =
          (state.1 host).find? fun ticket => !ticket.isExpired now) ↔ limit ≠ 0 := by
  constructor
  · rintro hcalls rfl
    obtain ⟨⟨fuel, hrun⟩, -⟩ := hcalls [.store "example.com:443" hourTicket]
    simp [tallied, run, runFrom, observe, calls, evict_zero] at hrun
  · intro hlimit events
    refine ⟨⟨limit + 1, isSome_run (Nat.pos_of_ne_zero hlimit)⟩, ?_⟩
    intro fuel state hrun
    exact ⟨Sound.run hrun, fun host now => pop_fst⟩

theorem store_never_ends :
    (fun fuel => (tallied 0 fuel).run [.store "example.com:443" hourTicket]) = fun _ => none := by
  funext fuel
  simp [tallied, run, runFrom, observe, calls, evict_zero]

end InMemorySessionStore

end LkRequest.Session
