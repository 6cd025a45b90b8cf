import LkRequest.Client.ProxyPoolRuns
import Mathlib.Algebra.Order.BigOperators.Group.Finset

/-!
# The capacity of a session pool

A session that is checked out, idle or on its way back carries a permit of the semaphore, so there
are never more of them than permits. A call of `acquire` looks into the idle queue once and then
waits for a permit; the permit of a session that comes back goes with it into the queue.
-/

namespace LkRequest.Client

open Library List Function Option

/-- The acquire is beyond the semaphore. -/
def Acquire.hasPermit (acquire : Acquire) : Bool :=
  match acquire.stage with
  | .waiting => false
  | _ => true

namespace Pool

/-! ## What a step does to sessions and permits -/

/-- The part of the pool that sessions and permits are in. -/
structure View where
  permits : Nat
  acquires : TaskId → Option Acquire
  handed : TaskId → Option Handed
  returning : TaskId → Option Handed
  idle : List IdleEntry

def view (pool : Pool) : View :=
  ⟨pool.permits, pool.acquires, pool.handed, pool.returning, pool.idle⟩

inductive Effect (setup : PoolSetup) (view : View) : Event → View → Prop where
  | call (task : TaskId) (hidle : view.acquires task = none) :
      Effect setup view (.acquire task)
        { view with acquires := update view.acquires task (some ⟨false, .waiting⟩) }
  | wait (task : TaskId) (now expired : Nat) (hidle : view.acquires task = none)
      (hpop : popExpired setup.idleTimeout now view.idle = ([], expired)) :
      Effect setup view (.acquireSession task now)
        { view with
          permits := view.permits + expired
          idle := []
          acquires := update view.acquires task (some ⟨true, .waiting⟩) }
  | reuse (task : TaskId) (now expired : Nat) (entry : IdleEntry) (rest : List IdleEntry)
      (hhanded : view.handed task = none)
      (hpop : popExpired setup.idleTimeout now view.idle = (entry :: rest, expired)) :
      Effect setup view (.acquireSession task now)
        { view with
          permits := view.permits + expired
          idle := rest
          handed := update view.handed task (some entry.entry) }
  | take (task : TaskId) (forSession : Bool)
      (hwaiting : view.acquires task = some ⟨forSession, .waiting⟩) (hpermit : view.permits ≠ 0) :
      Effect setup view (.takePermit task)
        { view with
          permits := view.permits - 1
          acquires := update view.acquires task (some ⟨forSession, .drawing []⟩) }
  | proceed (event : Event) (task : TaskId) (acquire next : Acquire)
      (hacquire : view.acquires task = some acquire) (hpermit : acquire.hasPermit = true)
      (hnext : next.hasPermit = true) :
      Effect setup view event
        { view with acquires := update view.acquires task (some next) }
  | finish (event : Event) (task : TaskId) (acquire : Acquire) (handed : Handed)
      (hacquire : view.acquires task = some acquire) (hpermit : acquire.hasPermit = true) :
      Effect setup view event
        { view with
          acquires := update view.acquires task none
          handed := update view.handed task (some handed) }
  | drop (task : TaskId) (handed : Handed) (hhanded : view.handed task = some handed) :
      Effect setup view (.dropGuard task)
        { view with
          permits := view.permits + 1
          handed := update view.handed task none }
  | leave (task : TaskId) (handed : Handed) (hhanded : view.handed task = some handed)
      (hreturning : view.returning task = none) :
      Effect setup view (.dropSession task)
        { view with
          handed := update view.handed task none
          returning := update view.returning task (some handed) }
  | giveBack (task : TaskId) (now : Nat) (handed : Handed)
      (hreturning : view.returning task = some handed) :
      Effect setup view (.returnSession task now)
        { view with
          returning := update view.returning task none
          idle := view.idle ++ [⟨handed, now⟩] }
  | evict (now : Nat) (kept : List IdleEntry)
      (hkept : kept = view.idle.filter fun entry => now - entry.returnedAt < setup.idleTimeout) :
      Effect setup view (.evictIdle now)
        { view with
          permits := view.permits + (view.idle.length - kept.length)
          idle := kept }
  | other (event : Event) : Effect setup view event view

variable {setup : PoolSetup} {pool next : Pool} {event : Event} {task waiter : TaskId}
  {before after view : View} {now now' : Nat}

theorem view_rotate (pool : Pool) {word : UInt64} :
    (pool.rotate setup word).2.view = pool.view := by
  rw [rotate]
  split
  · split <;> rfl
  · rfl

theorem view_setAcquire (pool : Pool) (task : TaskId) (acquire : Option Acquire) :
    (pool.setAcquire task acquire).view =
      { pool.view with acquires := update pool.view.acquires task acquire } := rfl

theorem effect_of_stepAcquire :
    ∀ next ∈ pool.stepAcquire setup event, Effect setup pool.view event next.view := by
  fun_cases stepAcquire setup pool event with
  | case2 task hnew =>
    rw [not_or, not_isSome_iff_eq_none] at hnew
    exact forall_mem_some (.call task hnew.1)
  | case4 task now hnew _ _ entry rest hpop =>
    rw [not_or, not_isSome_iff_eq_none, not_isSome_iff_eq_none] at hnew
    exact forall_mem_some (.reuse task now _ entry rest hnew.2 hpop)
  | case5 task now hnew _ _ hpop =>
    rw [not_or, not_isSome_iff_eq_none] at hnew
    exact forall_mem_some (.wait task now _ hnew.1 hpop)
  | case7 task forSession hwaiting hpermit =>
    exact forall_mem_some (.take task forSession hwaiting hpermit)
  -- The call goes on with its permit.
  | case10 task _ _ _ hacquire | case11 task _ _ _ hacquire | case18 task _ _ _ hacquire
  | case19 task _ _ _ hacquire | case21 task _ _ _ _ hacquire =>
    exact forall_mem_some (.proceed _ task _ _ hacquire rfl rfl)
  | case12 task word _ _ hacquire _ _ _ drawn hrotate
  | case15 task word _ _ hacquire _ drawn hrotate =>
    have hdrawn : drawn.view = pool.view := by
      rw [← view_rotate pool, hrotate]
    apply forall_mem_some
    rw [view_setAcquire, hdrawn]
    exact .proceed _ task _ _ hacquire rfl rfl
  -- The call ends.
  | case9 task _ _ _ hacquire | case13 task _ _ _ hacquire | case16 task _ _ _ hacquire
  | case22 task _ _ _ _ hacquire | case23 task _ _ _ _ hacquire =>
    exact forall_mem_some (.finish _ task _ _ hacquire rfl)
  | _ => rintro _ ⟨⟩

theorem view_stepRecord (pool : Pool) (task : TaskId) (now : Nat) (record : Record) :
    (pool.stepRecord setup task now record).view = pool.view := by
  obtain ⟨identity, stage⟩ := record
  cases stage with
  | checking | counting | countingCooldowns =>
    simp only [stepRecord]
    split <;> rfl
  | clearing | cooling | removing => rfl

theorem effect_of_stepBackground :
    ∀ next ∈ pool.stepBackground setup event, Effect setup pool.view event next.view := by
  fun_cases stepBackground setup pool event with
  | case3 task now =>
    intro next hstep
    obtain ⟨record, -, rfl⟩ := map_eq_some_iff.mp hstep
    rw [view_stepRecord]
    exact .other _
  | case10 word =>
    apply forall_mem_some
    have hview : { (pool.rotate setup word).2 with
        filling := (pool.rotate setup word).1 }.view = pool.view := view_rotate pool
    rw [hview]
    exact .other _
  | case15 task hhanded =>
    obtain ⟨handed, hhanded⟩ := isSome_iff_exists.mp hhanded
    exact forall_mem_some (.drop task handed hhanded)
  | case17 task handed hreturning hhanded =>
    exact forall_mem_some (.leave task handed hhanded hreturning)
  | case20 task now =>
    intro next hstep
    obtain ⟨handed, hreturning, rfl⟩ := map_eq_some_iff.mp hstep
    exact .giveBack task now handed hreturning
  | case21 now => exact forall_mem_some (.evict now _ rfl)
  | case2 | case4 | case5 | case8 | case9 | case13 => exact forall_mem_some (.other _)
  | _ => rintro _ ⟨⟩

theorem effect_of_step (hstep : pool.step setup event = some next) :
    Effect setup pool.view event next.view := by
  rw [step] at hstep
  split at hstep
  next hacquire =>
    cases hstep
    exact effect_of_stepAcquire _ hacquire
  · exact effect_of_stepBackground _ hstep

/-! ## Permits -/

/-- The permits in the hands of a task. -/
def View.taken (view : View) (task : TaskId) : Nat :=
  (if (view.acquires task).any Acquire.hasPermit then 1 else 0) +
    (view.handed task).toList.length + (view.returning task).toList.length

/-- The permits in the semaphore, in the idle queue and in the hands of any tasks are no more than
the pool was built with. -/
def View.Within (setup : PoolSetup) (view : View) : Prop :=
  ∀ tasks : Finset TaskId,
    view.permits + view.idle.length + ∑ task ∈ tasks, view.taken task ≤ setup.maxProxies

/-- A step moves permits between the semaphore, the queue and one task. -/
theorem View.Within.of_task (hwithin : before.Within setup) (task : TaskId)
    (hmoves : after.permits + after.idle.length + after.taken task ≤
      before.permits + before.idle.length + before.taken task)
    (hothers : ∀ other, other ≠ task → after.taken other = before.taken other := by
      intro other hother
      simp [View.taken, update_of_ne hother]) : after.Within setup := by
  intro tasks
  have hsplit (view : View) : ∑ other ∈ insert task tasks, view.taken other =
      view.taken task + ∑ other ∈ tasks.erase task, view.taken other := by
    rw [← Finset.insert_erase (Finset.mem_insert_self task tasks), Finset.erase_insert_eq_erase,
      Finset.sum_insert (Finset.notMem_erase task tasks)]
  have hrest : ∑ other ∈ tasks.erase task, after.taken other =
      ∑ other ∈ tasks.erase task, before.taken other :=
    Finset.sum_congr rfl fun other hother => hothers other (Finset.ne_of_mem_erase hother)
  have hbound := hwithin (insert task tasks)
  rw [hsplit] at hbound
  have hlarger : ∑ other ∈ tasks, after.taken other ≤
      ∑ other ∈ insert task tasks, after.taken other :=
    Finset.sum_le_sum_of_subset (Finset.subset_insert task tasks)
  calc after.permits + after.idle.length + ∑ other ∈ tasks, after.taken other
      ≤ after.permits + after.idle.length + ∑ other ∈ insert task tasks, after.taken other := by
        gcongr
    _ = after.permits + after.idle.length + after.taken task +
          ∑ other ∈ tasks.erase task, before.taken other := by
        rw [hsplit, hrest, ← add_assoc]
    _ ≤ before.permits + before.idle.length + before.taken task +
          ∑ other ∈ tasks.erase task, before.taken other := by
        gcongr
    _ ≤ setup.maxProxies := by
        rw [add_assoc]
        exact hbound

theorem length_popExpired (timeout now : Nat) (entries : List IdleEntry) :
    (popExpired timeout now entries).1.length + (popExpired timeout now entries).2 =
      entries.length := by
  obtain ⟨expired, hentries, hcount⟩ := popExpired_eq timeout now entries
  rw [hcount, Nat.add_comm, ← length_append, ← hentries]

theorem View.Within.effect (hwithin : before.Within setup)
    (heffect : Effect setup before event after) : after.Within setup := by
  cases heffect with
  | call task hidle =>
    refine hwithin.of_task task ?_
    simp [View.taken, hidle, Acquire.hasPermit]
  | wait task now expired hidle hpop =>
    have hlength := length_popExpired setup.idleTimeout now before.idle
    rw [hpop] at hlength
    refine hwithin.of_task task ?_
    simp only [length_nil, Nat.zero_add] at hlength
    simp [View.taken, hidle, Acquire.hasPermit, hlength]
  | reuse task now expired entry rest hhanded hpop =>
    have hlength := length_popExpired setup.idleTimeout now before.idle
    rw [hpop] at hlength
    refine hwithin.of_task task ?_
    simp only [length_cons] at hlength
    simp only [View.taken, hhanded, update_self, toList_some,
      toList_none, length_singleton, length_nil, ← hlength]
    omega
  | take task forSession hwaiting =>
    refine hwithin.of_task task ?_
    simp only [View.taken, hwaiting, update_self, any_some, Acquire.hasPermit]
    grind
  | proceed event task acquire next hacquire hpermit hnext =>
    refine hwithin.of_task task ?_
    simp [View.taken, hacquire, hpermit, hnext]
  | finish event task acquire handed hacquire hpermit =>
    refine hwithin.of_task task ?_
    simp [View.taken, hacquire, hpermit]
  | drop task handed hhanded =>
    refine hwithin.of_task task ?_
    simp [View.taken, hhanded]
    omega
  | leave task handed hhanded hreturning =>
    refine hwithin.of_task task ?_
    simp [View.taken, hhanded, hreturning]
  | giveBack task now handed hreturning =>
    refine hwithin.of_task task ?_
    simp [View.taken, hreturning]
    omega
  | evict now kept hkept =>
    have hlength : kept.length ≤ before.idle.length := by
      rw [hkept]
      exact length_filter_le ..
    refine hwithin.of_task 0 ?_
    simp only [View.taken]
    omega
  | other => exact hwithin

/-! ## Waiting -/

/-- The sessions that the tasks have checked out or are giving back, and the idle ones. -/
def View.sessions (view : View) (tasks : Finset TaskId) : Nat :=
  view.idle.length + ∑ task ∈ tasks,
    (((view.handed task).filter (·.session.isSome)).toList.length +
      (view.returning task).toList.length)

/-- The task is blocked inside `SessionPool::acquire`. -/
def View.Blocked (view : View) (task : TaskId) : Prop :=
  view.acquires task = some ⟨true, .waiting⟩ ∧ view.permits = 0

/-- No idle session is unexpired. -/
def View.Expired (setup : PoolSetup) (view : View) (now : Nat) : Prop :=
  ∀ entry ∈ view.idle, setup.idleTimeout ≤ now - entry.returnedAt

/-- What a session pool promises. -/
structure Safe (setup : PoolSetup) (state : Clocked) : Prop where
  committed : ∀ tasks, state.pool.view.sessions tasks ≤ setup.maxProxies
  served : ∀ task, state.pool.view.Blocked task → state.pool.view.Expired setup state.now

/-- No session comes back while a task is blocked, and the last permit is not taken while another
task waits beside an unexpired session. -/
def Served (setup : PoolSetup) (state : Clocked) (event : Event) : Prop :=
  match event with
  | .returnSession .. => (state.step setup event).isSome → 0 < setup.idleTimeout →
      ∀ task, ¬state.pool.view.Blocked task
  | .takePermit task => (state.step setup event).isSome → state.pool.permits = 1 →
      ∀ other, other ≠ task → state.pool.acquires other = some ⟨true, .waiting⟩ →
        state.pool.view.Expired setup state.now
  | _ => True

theorem View.sessions_le (hwithin : view.Within setup) (tasks : Finset TaskId) :
    view.sessions tasks ≤ setup.maxProxies := by
  refine le_trans ?_ (hwithin tasks)
  rw [View.sessions]
  have hsum : ∑ task ∈ tasks, (((view.handed task).filter (·.session.isSome)).toList.length +
      (view.returning task).toList.length) ≤ ∑ task ∈ tasks, view.taken task := by
    apply Finset.sum_le_sum
    intro task _
    rw [View.taken]
    have hfilter : ((view.handed task).filter (·.session.isSome)).toList.length ≤
        (view.handed task).toList.length := by
      cases view.handed task with
      | none => exact le_rfl
      | some =>
        exact length_toList_le
    omega
  omega

theorem View.Expired.mono {later : View} (hexpired : view.Expired setup now)
    (hidle : ∀ entry ∈ later.idle, entry ∈ view.idle) (hnow : now ≤ now') :
    later.Expired setup now' := by
  intro entry hentry
  exact (hexpired entry (hidle entry hentry)).trans (Nat.sub_le_sub_right hnow _)

/-- A step of a task leaves the others as blocked as they were. -/
theorem View.Blocked.of_update {other : TaskId} {acquire : Option Acquire}
    (hblocked : update view.acquires task acquire other = some ⟨true, .waiting⟩)
    (hacquire : acquire ≠ some ⟨true, .waiting⟩) :
    other ≠ task ∧ view.acquires other = some ⟨true, .waiting⟩ := by
  by_cases hother : other = task
  · rw [hother, update_self] at hblocked
    exact absurd hblocked hacquire
  · rw [update_of_ne hother] at hblocked
    exact ⟨hother, hblocked⟩

theorem served_effect (hserved : ∀ task, before.Blocked task → before.Expired setup now)
    (heffect : Effect setup before event after) (hnow : now ≤ now')
    (hreturn : ∀ task time, event = .returnSession task time → 0 < setup.idleTimeout →
      ∀ other, ¬before.Blocked other)
    (htake : ∀ task, event = .takePermit task → before.permits = 1 → ∀ other, other ≠ task →
      before.acquires other = some ⟨true, .waiting⟩ → before.Expired setup now)
    (waiter : TaskId) (hblocked : after.Blocked waiter) : after.Expired setup now' := by
  have hkept {view : View} (hview : before.Blocked waiter)
      (hidle : ∀ entry ∈ view.idle, entry ∈ before.idle) : view.Expired setup now' :=
    (hserved waiter hview).mono hidle hnow
  cases heffect with
  | call | finish =>
    have hother := View.Blocked.of_update hblocked.1 (by simp)
    exact hkept ⟨hother.2, hblocked.2⟩ fun _ => id
  | wait => exact fun entry hentry => absurd hentry not_mem_nil
  | reuse task time expired entry rest hhanded hpop =>
    have hpermits : before.permits = 0 := Nat.eq_zero_of_add_eq_zero_right hblocked.2
    apply hkept ⟨hblocked.1, hpermits⟩
    intro found hfound
    have hmem : found ∈ (popExpired setup.idleTimeout time before.idle).1 := by
      rw [hpop]
      exact mem_cons_of_mem entry hfound
    exact mem_popExpired hmem
  | take task =>
    have hother := View.Blocked.of_update hblocked.1 (by simp)
    have hlast : before.permits = 1 := by
      have hzero : before.permits - 1 = 0 := hblocked.2
      omega
    exact (htake task rfl hlast waiter hother.1 hother.2).mono (fun _ => id) hnow
  | proceed event task acquire next hacquire hpermit hnext =>
    have hother := View.Blocked.of_update hblocked.1 (by
      rintro ⟨⟩
      cases hnext)
    exact hkept ⟨hother.2, hblocked.2⟩ fun _ => id
  | drop => exact absurd hblocked.2 (Nat.succ_ne_zero _)
  | leave | other => exact hkept hblocked fun _ => id
  | giveBack task time =>
    rcases Nat.eq_zero_or_pos setup.idleTimeout with hzero | hpos
    · exact fun entry _ => hzero ▸ Nat.zero_le _
    · exact absurd hblocked (hreturn task time rfl hpos waiter)
  | evict time kept hkept' =>
    have hpermits : before.permits = 0 := Nat.eq_zero_of_add_eq_zero_right hblocked.2
    apply hkept ⟨hblocked.1, hpermits⟩
    intro entry hentry
    rw [hkept'] at hentry
    exact (mem_filter.mp hentry).1

/-! ## Every run -/

/-- What every served step keeps. -/
structure Kept (setup : PoolSetup) (state : Clocked) : Prop where
  within : state.pool.view.Within setup
  served : ∀ task, state.pool.view.Blocked task → state.pool.view.Expired setup state.now

theorem kept_start {setup : PoolSetup} : Kept setup (clocked setup).start where
  within tasks := by
    have htaken (task : TaskId) : (start setup).view.taken task = 0 := rfl
    simp [clocked, htaken]
    rfl
  served _ _ entry hentry := nomatch hentry

theorem Kept.step {state next : Clocked} (hkept : Kept setup state)
    (hallowed : Served setup state event) (hstep : state.step setup event = some next) :
    Kept setup next := by
  have henabled : (state.step setup event).isSome := hstep ▸ rfl
  obtain ⟨hpool, htime, -⟩ := Clocked.step_eq_some hstep
  have hnow : state.now ≤ next.now := htime ▸ le_max_left ..
  have heffect := effect_of_step hpool
  refine ⟨hkept.within.effect heffect, served_effect hkept.served heffect hnow ?_ ?_⟩
  · rintro task time rfl
    exact hallowed henabled
  · rintro task rfl
    exact hallowed henabled

/-- A session that comes back goes into the queue while its permit is waited for. -/
theorem broken_return {state next : Clocked} {time : Nat}
    (hstep : state.step setup (.returnSession task time) = some next)
    (htimeout : 0 < setup.idleTimeout) (hblocked : state.pool.view.Blocked waiter) :
    ¬Safe setup next := by
  obtain ⟨pool, now, holder⟩ := next
  obtain ⟨hpool, rfl, -, -, hearly | htime⟩ := Clocked.step_eq_some hstep
  · cases hearly
  obtain ⟨handed, -, hnext⟩ := map_eq_some_iff.mp hpool
  cases hnext
  have hnow : max state.now time = time := max_eq_right (of_decide_eq_true htime)
  intro hsafe
  have hexpired := hsafe.served waiter hblocked ⟨handed, time⟩ (mem_append_right _ (by simp))
  have hnone : setup.idleTimeout ≤ max state.now time - time := hexpired
  omega

theorem step_takePermit (hstep : pool.step setup (.takePermit task) = some next) :
    ∃ forSession, next = { pool with permits := pool.permits - 1 }.setAcquire task
      (some ⟨forSession, .drawing []⟩) := by
  cases hacquire : pool.stepAcquire setup (.takePermit task) with
  | none =>
    rw [step, hacquire] at hstep
    cases hstep
  | some taken =>
    rw [step, hacquire] at hstep
    cases hstep
    simp only [stepAcquire] at hacquire
    split at hacquire
    next forSession hwaiting =>
      obtain ⟨-, hnext⟩ := ite_none_left_eq_some.mp hacquire
      exact ⟨forSession, (Option.some.inj hnext).symm⟩
    · cases hacquire

/-- The last permit is taken while another task waits and an idle session is unexpired. -/
theorem broken_takePermit {state next : Clocked} {entry : IdleEntry}
    (hstep : state.step setup (.takePermit task) = some next) (hlast : state.pool.permits = 1)
    (hwaiter : waiter ≠ task) (hwaiting : state.pool.acquires waiter = some ⟨true, .waiting⟩)
    (hentry : entry ∈ state.pool.idle)
    (hunexpired : state.now - entry.returnedAt < setup.idleTimeout) : ¬Safe setup next := by
  obtain ⟨pool, now, holder⟩ := next
  obtain ⟨hpool, rfl, -⟩ := Clocked.step_eq_some hstep
  obtain ⟨forSession, rfl⟩ := step_takePermit hpool
  intro hsafe
  have hstill := (update_of_ne hwaiter (some ⟨forSession, .drawing []⟩) _).trans hwaiting
  have hnone : state.pool.permits - 1 = 0 := Nat.sub_eq_zero_of_le hlast.le
  have hexpired := hsafe.served waiter ⟨hstill, hnone⟩ entry hentry
  have hnow : max state.now 0 = state.now := Nat.max_zero _
  exact absurd hunexpired (Nat.not_lt.mpr (hnow ▸ hexpired))

theorem sessions_within_capacity (setup : PoolSetup) (events : List Event) :
    (clocked setup).Throughout (Safe setup) events ↔
      (clocked setup).Obeys (Served setup) events := by
  apply Machine.throughout_iff_obeys (Kept setup) kept_start
  · intro state event next hkept hallowed hstep
    exact hkept.step hallowed hstep
  · intro state hkept
    exact ⟨View.sessions_le hkept.within, hkept.served⟩
  · intro state event hkept hunserved
    cases event with
    | returnSession task time =>
      obtain ⟨henabled, hblocked⟩ := Classical.not_imp.mp hunserved
      obtain ⟨htimeout, hblocked⟩ := Classical.not_imp.mp hblocked
      obtain ⟨waiter, hblocked⟩ := not_forall.mp hblocked
      obtain ⟨next, hstep⟩ := isSome_iff_exists.mp henabled
      exact ⟨next, hstep, broken_return hstep htimeout (not_not.mp hblocked)⟩
    | takePermit task =>
      obtain ⟨henabled, hunexpired⟩ := Classical.not_imp.mp hunserved
      obtain ⟨hlast, hunexpired⟩ := Classical.not_imp.mp hunexpired
      obtain ⟨waiter, hunexpired⟩ := not_forall.mp hunexpired
      obtain ⟨hwaiter, hunexpired⟩ := Classical.not_imp.mp hunexpired
      obtain ⟨hwaiting, hunexpired⟩ := Classical.not_imp.mp hunexpired
      obtain ⟨entry, hunexpired⟩ := not_forall.mp hunexpired
      obtain ⟨hentry, hunexpired⟩ := Classical.not_imp.mp hunexpired
      obtain ⟨next, hstep⟩ := isSome_iff_exists.mp henabled
      exact ⟨next, hstep, broken_takePermit hstep hlast hwaiter hwaiting hentry
        (Nat.not_le.mp hunexpired)⟩
    | _ => exact absurd trivial hunserved

/-- With room for one proxy, a session comes back while another acquire waits for the permit that
it carries into the idle queue. -/
theorem waiter_misses_returned_session :
    ¬(clocked lone).Throughout (Safe lone)
      [.acquireSession 1 0, .takePermit 1, .draw 1 0, .checkRemoved 1, .checkCooldown 1 0,
        .acquireSession 2 1, .dropSession 1, .returnSession 1 2] := by
  intro hsafe
  have hlast := hsafe _ _ (prefix_refl _) rfl
  exact absurd (hlast.served 2 ⟨rfl, rfl⟩ _ mem_cons_self) (by decide)

end Pool

end LkRequest.Client
