import LkRequest.Client.ProxyPoolRuns
import Mathlib.Data.Finset.Card

/-!
# The account of bad proxies

A tally beside the pool counts, for each proxy, the failures that reports and health checks record
and the cooldowns that start, and notes every recording that leaves a proxy in service although
enough failures lie within one window. `record_bad_proxy` counts, clears and starts the cooldown in
separate critical sections, and a health check only counts.
-/

namespace LkRequest.Client

open Library List Function

namespace Pool

/-! ## The tally -/

/-- The proxy is removed, or its cooldown has not expired. -/
def Clocked.outOfService (state : Clocked) (identity : Text) : Bool :=
  identity ∈ state.pool.removed ∨ (state.pool.cooldown identity).any (state.now < ·)

/-- `unspent` are the times of the failures since the last cooldown took the failures before it,
`due` are the reports whose failure made up the threshold. -/
structure Tally where
  recorded : Text → Nat
  unspent : Text → List Nat
  started : Text → Nat
  due : TaskId → Bool
  missed : List Text

namespace Tally

def blank : Tally := ⟨fun _ => 0, fun _ => [], fun _ => 0, fun _ => false, []⟩

/-- With a failure at `now`, the threshold of failures lies within one window. -/
def crowded (setup : PoolSetup) (times : List Nat) (now : Nat) : Bool :=
  (now :: times).any fun first =>
    first ≤ now ∧ now < first + setup.badProxy.window ∧ setup.badProxy.failureThreshold ≤
      ((now :: times).filter fun time =>
        first ≤ time ∧ time < first + setup.badProxy.window).length

def count (tally : Tally) (identity : Text) (now : Nat) : Tally :=
  { tally with
    recorded := update tally.recorded identity (tally.recorded identity + 1)
    unspent := update tally.unspent identity (tally.unspent identity ++ [now]) }

/-- A recording of failures is over. -/
def settle (tally : Tally) (after : Clocked) (identity : Text) (isDue : Bool) : Tally :=
  if isDue ∧ ¬after.outOfService identity then
    { tally with missed := identity :: tally.missed }
  else tally

/-- What a step of a report does. -/
def noteRecord (setup : PoolSetup) (task : TaskId) (now : Nat) (tally : Tally) : Record → Tally
  | ⟨identity, .counting⟩ =>
    { tally.count identity now with
      due := update tally.due task (crowded setup (tally.unspent identity) now) }
  | ⟨identity, .clearing _⟩ =>
    { tally with unspent := update tally.unspent identity [] }
  | ⟨identity, .cooling _⟩ =>
    { tally with started := update tally.started identity (tally.started identity + 1) }
  | _ => tally

def note (setup : PoolSetup) (before : Clocked) (event : Event) (after : Clocked)
    (tally : Tally) : Tally :=
  match event with
  | .record task now =>
    match before.pool.records task with
    | some record =>
      let noted := tally.noteRecord setup task now record
      if (after.pool.records task).isNone then
        noted.settle after record.identity (noted.due task)
      else noted
    | none => tally
  | .probed false now =>
    match before.pool.probing with
    | proxy :: _ =>
      (tally.count proxy.identity now).settle after proxy.identity
        (crowded setup (tally.unspent proxy.identity) now)
    | [] => tally
  | _ => tally

end Tally

/-- The pool with its tally. -/
def tallied (setup : PoolSetup) : Machine (Clocked × Tally) Event :=
  (clocked setup).observe Tally.blank (Tally.note setup)

/-- The account is exact: cooldowns are paid for by failures, removals by cooldowns, and no proxy
is left in service when it should not be. -/
structure Balanced (setup : PoolSetup) (state : Clocked × Tally) : Prop where
  cooldowns : ∀ identity, state.2.started identity * setup.badProxy.failureThreshold ≤
    state.2.recorded identity
  removals : ∀ identity ∈ state.1.pool.removed,
    setup.badProxy.maxCooldowns ≤ state.2.started identity
  missed : state.2.missed = []

/-- A failure at `now` is recorded in order: none is recorded that happened later, and no report has
reached the threshold without having cleared the failures. -/
def InOrder (state : Clocked × Tally) (identity : Text) (now : Nat) : Prop :=
  (∀ time ∈ state.2.unspent identity, time ≤ now) ∧
    ∀ task reported, state.1.pool.records task ≠ some ⟨identity, .clearing reported⟩

/-- Failures are recorded in order, a health check makes up the threshold only while the proxy is
out of service, and a report that leaves its proxy in the list ends before the cooldown does. -/
def Orderly (setup : PoolSetup) (state : Clocked × Tally) (event : Event) : Prop :=
  match event with
  | .record task now =>
    match state.1.pool.records task with
    | some ⟨identity, .counting⟩ => InOrder state identity now
    | some ⟨identity, .countingCooldowns⟩ =>
      state.1.pool.cooldownCounts identity + 1 < setup.badProxy.maxCooldowns →
        ∀ expires, state.1.pool.cooldown identity = some expires → max state.1.now now < expires
    | _ => True
  | .probed false now =>
    match state.1.pool.probing with
    | proxy :: _ =>
      InOrder state proxy.identity now ∧
        (Tally.crowded setup (state.2.unspent proxy.identity) now →
          proxy.identity ∈ state.1.pool.removed ∨
            ∃ expires, state.1.pool.cooldown proxy.identity = some expires ∧
              max state.1.now now < expires)
    | [] => True
  | _ => True

/-! ## What a step does to the account -/

/-- The part of the pool and of its tally that the account is about. -/
structure Books where
  cooldown : Text → Option Nat
  failures : Text → List Nat
  removed : Finset Text
  cooldownCounts : Text → Nat
  records : TaskId → Option Record
  holder : Option TaskId
  recorded : Text → Nat
  unspent : Text → List Nat
  started : Text → Nat

def books (state : Clocked × Tally) : Books where
  cooldown := state.1.pool.cooldown
  failures := state.1.pool.failures
  removed := state.1.pool.removed
  cooldownCounts := state.1.pool.cooldownCounts
  records := state.1.pool.records
  holder := state.1.holder
  recorded := state.2.recorded
  unspent := state.2.unspent
  started := state.2.started

namespace Books

abbrev setRecord (books : Books) (task : TaskId) (record : Option Record) : Books :=
  { books with records := update books.records task record }

/-- The task gives up the lock of the cooldown map, if it has it. -/
abbrev release (books : Books) (task : TaskId) : Books :=
  { books with holder := if books.holder = some task then none else books.holder }

/-- A failure is recorded. -/
abbrev count (setup : PoolSetup) (books : Books) (identity : Text) (now : Nat) : Books :=
  { books with
    failures := update books.failures identity
      ((books.failures identity).filter (now < · + setup.badProxy.window) ++ [now])
    recorded := update books.recorded identity (books.recorded identity + 1)
    unspent := update books.unspent identity (books.unspent identity ++ [now]) }

abbrev clear (books : Books) (identity : Text) : Books :=
  { books with
    failures := update books.failures identity []
    unspent := update books.unspent identity [] }

/-- A cooldown starts under the lock. -/
abbrev cool (books : Books) (task : TaskId) (identity : Text) (expires : Nat) : Books :=
  { books with
    cooldown := update books.cooldown identity (some expires)
    started := update books.started identity (books.started identity + 1)
    holder := some task }

abbrev countCooldown (books : Books) (identity : Text) : Books :=
  { books with
    cooldownCounts := update books.cooldownCounts identity
      (books.cooldownCounts identity + 1) }

end Books

/-- What a step may do; `probed` is the proxy whose health check is under way. -/
inductive Entry (setup : PoolSetup) (probed : Option Text) (books : Books) :
    Event → Books → Prop where
  | report (task : TaskId) (identity : Text) :
      Entry setup probed books (.markBad task identity)
        (books.setRecord task (some ⟨identity, .checking⟩))
  | skip (task : TaskId) (identity : Text) (now : Nat)
      (hrecord : books.records task = some ⟨identity, .checking⟩)
      (hremoved : identity ∈ books.removed) :
      Entry setup probed books (.record task now) ((books.setRecord task none).release task)
  | check (task : TaskId) (identity : Text) (now : Nat)
      (hrecord : books.records task = some ⟨identity, .checking⟩) :
      Entry setup probed books (.record task now)
        ((books.setRecord task (some ⟨identity, .counting⟩)).release task)
  | reach (task : TaskId) (identity : Text) (now : Nat)
      (hrecord : books.records task = some ⟨identity, .counting⟩)
      (hreached : setup.badProxy.failureThreshold ≤
        ((books.failures identity).filter (now < · + setup.badProxy.window)).length + 1) :
      Entry setup probed books (.record task now)
        (((books.count setup identity now).setRecord task
          (some ⟨identity, .clearing now⟩)).release task)
  | miss (task : TaskId) (identity : Text) (now : Nat)
      (hrecord : books.records task = some ⟨identity, .counting⟩)
      (hbelow : ((books.failures identity).filter (now < · + setup.badProxy.window)).length + 1 <
        setup.badProxy.failureThreshold) :
      Entry setup probed books (.record task now)
        (((books.count setup identity now).setRecord task none).release task)
  | clear (task : TaskId) (identity : Text) (reported now : Nat)
      (hrecord : books.records task = some ⟨identity, .clearing reported⟩) :
      Entry setup probed books (.record task now)
        (((books.clear identity).setRecord task (some ⟨identity, .cooling reported⟩)).release task)
  | cool (task : TaskId) (identity : Text) (reported now : Nat)
      (hrecord : books.records task = some ⟨identity, .cooling reported⟩)
      (hfree : books.holder = none) :
      Entry setup probed books (.record task now)
        ((books.cool task identity (reported + setup.badProxy.cooldownDuration)).setRecord task
          (some ⟨identity, .countingCooldowns⟩))
  | keep (task : TaskId) (identity : Text) (now : Nat)
      (hrecord : books.records task = some ⟨identity, .countingCooldowns⟩)
      (hbelow : books.cooldownCounts identity + 1 < setup.badProxy.maxCooldowns) :
      Entry setup probed books (.record task now)
        (((books.countCooldown identity).setRecord task none).release task)
  | condemn (task : TaskId) (identity : Text) (now : Nat)
      (hrecord : books.records task = some ⟨identity, .countingCooldowns⟩)
      (hreached : setup.badProxy.maxCooldowns ≤ books.cooldownCounts identity + 1) :
      Entry setup probed books (.record task now)
        { (books.countCooldown identity).setRecord task (some ⟨identity, .removing⟩) with
          holder := some task }
  | remove (task : TaskId) (identity : Text) (now : Nat)
      (hrecord : books.records task = some ⟨identity, .removing⟩) :
      Entry setup probed books (.record task now)
        (({ books with removed := insert identity books.removed }.setRecord task none).release task)
  | recover (event : Event) (cooldown : Text → Option Nat) (hfree : books.holder = none) :
      Entry setup probed books event { books with cooldown := cooldown }
  | fail (identity : Text) (now : Nat) (hprobed : probed = some identity) :
      Entry setup probed books (.probed false now) (books.count setup identity now)
  | other (event : Event) : Entry setup probed books event books

/-- The proxy whose health check is under way. -/
def probed (pool : Pool) : Option Text := pool.probing.head?.map ProxyConfig.identity

variable {setup : PoolSetup} {state next : Clocked × Tally} {event : Event}

theorem books_settle (after : Clocked) (tally : Tally) (state : Clocked) (identity : Text)
    (isDue : Bool) : books (after, tally.settle state identity isDue) = books (after, tally) := by
  rw [Tally.settle]
  split <;> rfl

variable {task : TaskId} {now : Nat} {pool : Pool} {identity : Text} {tally : Tally}
  {record : Option Record}

theorem books_note_record {before after : Clocked}
    {record : Record} (hrecord : before.pool.records task = some record) :
    books (after, tally.note setup before (.record task now) after) =
      books (after, tally.noteRecord setup task now record) := by
  simp only [Tally.note, hrecord]
  split
  · exact books_settle ..
  · rfl

theorem records_setRecord_self (pool : Pool) (task : TaskId) (record : Option Record) :
    (pool.setRecord task record).records task = record := update_self ..

/-- A report that does not go on under the lock does not keep it. -/
theorem holder_released
    (hrecord : record.any Record.holdsCooldown = false) (held : Option TaskId) (now : Nat) :
    Event.holder (pool.setRecord task record) held (.record task now) =
      if held = some task then none else held := by
  rw [Event.holder, records_setRecord_self, hrecord]
  rfl

theorem holder_kept
    (hrecord : record.any Record.holdsCooldown = true) (held : Option TaskId) (now : Nat) :
    Event.holder (pool.setRecord task record) held (.record task now) = some task := by
  rw [Event.holder, records_setRecord_self, hrecord]
  rfl

theorem length_failuresWith (pool : Pool) (identity : Text) (now : Nat) :
    (pool.failuresWith setup identity now).length =
      ((pool.failures identity).filter (now < · + setup.badProxy.window)).length + 1 :=
  length_append

/-- The steps of a report. -/
theorem entry_of_stepRecord {state : Clocked × Tally} {task : TaskId} {now clock : Nat}
    {record : Record} (hrecord : state.1.pool.records task = some record)
    (hlock : Event.locksCooldown state.1.pool (.record task now) → state.1.holder = none) :
    Entry setup state.1.pool.probed (books state) (.record task now)
      (books (⟨state.1.pool.stepRecord setup task now record, clock,
        Event.holder (state.1.pool.stepRecord setup task now record) state.1.holder
          (.record task now)⟩, state.2.noteRecord setup task now record)) := by
  obtain ⟨identity, stage⟩ := record
  cases stage with
  | checking =>
    rw [stepRecord]
    by_cases hremoved : identity ∈ state.1.pool.removed
    · rw [if_pos hremoved, holder_released rfl]
      exact .skip task identity now hrecord hremoved
    · rw [if_neg hremoved, holder_released rfl]
      exact .check task identity now hrecord
  | counting =>
    simp only [stepRecord, length_failuresWith]
    split
    next hreached =>
      rw [holder_released rfl]
      exact .reach task identity now hrecord hreached
    next hbelow =>
      rw [holder_released rfl]
      exact .miss task identity now hrecord (Nat.not_le.mp hbelow)
  | clearing reported =>
    rw [stepRecord, holder_released rfl]
    exact .clear task identity reported now hrecord
  | cooling reported =>
    rw [stepRecord, holder_kept rfl]
    have hlocks : Event.locksCooldown state.1.pool (.record task now) = true := by
      rw [Event.locksCooldown, hrecord]
    exact .cool task identity reported now hrecord (hlock hlocks)
  | countingCooldowns =>
    simp only [stepRecord]
    split
    next hreached =>
      rw [holder_kept rfl]
      exact .condemn task identity now hrecord hreached
    next hbelow =>
      rw [holder_released rfl]
      exact .keep task identity now hrecord (Nat.not_le.mp hbelow)
  | removing =>
    rw [stepRecord, holder_released rfl]
    exact .remove task identity now hrecord

/-- What reports and health checks work on. -/
structure Health where
  cooldown : Text → Option Nat
  failures : Text → List Nat
  removed : Finset Text
  cooldownCounts : Text → Nat
  records : TaskId → Option Record

def health (pool : Pool) : Health :=
  ⟨pool.cooldown, pool.failures, pool.removed, pool.cooldownCounts, pool.records⟩

/-- The step is one of a report, of the maintenance or of a health check. -/
def Event.concernsHealth : Event → Bool
  | .markBad .. | .record .. | .maintain _ | .probed .. => true
  | _ => false

theorem health_of_stepAcquire {next : Pool}
    (hstep : pool.stepAcquire setup event = some next) : next.health = pool.health := by
  cases event <;> grind [stepAcquire, health, setAcquire, finish, rotate]

theorem health_of_step {next : Pool} (hevent : event.concernsHealth = false)
    (hstep : pool.step setup event = some next) : next.health = pool.health := by
  rw [step] at hstep
  split at hstep
  next hacquire =>
    cases hstep
    exact health_of_stepAcquire hacquire
  · cases event <;>
      grind [stepBackground, health, rotate, Event.concernsHealth, Option.map_eq_some_iff]

/-- A step that leaves the health of the proxies alone, and that nobody notes. -/
theorem entry_of_health (hhealth : pool.health = state.1.pool.health) {now : Nat}
    {event : Event} : Entry setup state.1.pool.probed (books state) event
      (books (⟨pool, now, state.1.holder⟩, state.2)) := by
  have hbooks : books (⟨pool, now, state.1.holder⟩, state.2) = books state := by
    simp only [health, Health.mk.injEq] at hhealth
    simp only [books, hhealth]
  rw [hbooks]
  exact .other event

theorem entry_of_step (hstep : (tallied setup).step state event = some next) :
    Entry setup state.1.pool.probed (books state) event (books next) := by
  obtain ⟨after, hafter, rfl⟩ := Option.map_eq_some_iff.mp hstep
  obtain ⟨pool, now, holder⟩ := after
  obtain ⟨hpool, -, hholder, hlock, -⟩ := Clocked.step_eq_some hafter
  simp only at hpool hholder
  subst hholder
  cases event with
  | markBad task identity =>
    cases (Option.ite_none_left_eq_some.mp hpool).2
    exact .report task identity
  | record task time =>
    obtain ⟨record, hrecord, rfl⟩ := Option.map_eq_some_iff.mp hpool
    rw [books_note_record hrecord]
    exact entry_of_stepRecord hrecord hlock
  | maintain time =>
    cases hpool
    exact .recover _ _ (hlock rfl)
  | probed reachable time =>
    have hnext : state.1.pool.stepBackground setup (.probed reachable time) = some pool := hpool
    simp only [stepBackground] at hnext
    split at hnext
    · cases hnext
    next proxy rest hprobing =>
      cases reachable with
      | true =>
        cases hnext
        exact .recover _ _ (hlock rfl)
      | false =>
        cases hnext
        simp only [Tally.note, hprobing]
        rw [books_settle]
        exact .fail proxy.identity time (by rw [probed, hprobing]; rfl)
  | _ => exact entry_of_health (health_of_step rfl hpool)

/-! ## Cooldowns are paid for -/

namespace Books

/-- The step records a failure of the proxy at `now`. -/
def Records (books : Books) (probed : Option Text) (event : Event) (identity : Text) (now : Nat) :
    Prop :=
  (∃ task, event = .record task now ∧ books.records task = some ⟨identity, .counting⟩) ∨
    event = .probed false now ∧ probed = some identity

/-- Every cooldown that has started, and every one that a report is about to start, has its own
failures. -/
structure Paid (setup : PoolSetup) (books : Books) : Prop where
  cooldowns : ∀ identity (tasks : Finset TaskId),
    (∀ task ∈ tasks, ∃ reported, books.records task = some ⟨identity, .cooling reported⟩) →
      (books.started identity + tasks.card) * setup.badProxy.failureThreshold +
        (books.failures identity).length ≤ books.recorded identity
  enough : ∀ task identity reported, books.records task = some ⟨identity, .clearing reported⟩ →
    setup.badProxy.failureThreshold ≤ (books.failures identity).length
  alone : ∀ task other identity reported reported',
    books.records task = some ⟨identity, .clearing reported⟩ →
      books.records other = some ⟨identity, .clearing reported'⟩ → task = other

variable {books next : Books} {probed : Option Text} {task : TaskId} {identity : Text}
  {reported : Nat}

/-- A step that brings no report nearer to its cooldown and takes no failure away unpaid. -/
theorem Paid.cooldowns_of_le (hpaid : books.Paid setup)
    (hrecords : ∀ task reported, next.records task = some ⟨identity, .cooling reported⟩ →
      books.records task = some ⟨identity, .cooling reported⟩)
    (hstarted : next.started identity = books.started identity)
    (hlength : (next.failures identity).length + books.recorded identity ≤
      (books.failures identity).length + next.recorded identity) {tasks : Finset TaskId}
    (htasks : ∀ task ∈ tasks, ∃ reported, next.records task = some ⟨identity, .cooling reported⟩) :
    (next.started identity + tasks.card) * setup.badProxy.failureThreshold +
      (next.failures identity).length ≤ next.recorded identity := by
  have hbefore := hpaid.cooldowns identity tasks fun task htask =>
    (htasks task htask).imp fun reported => hrecords task reported
  rw [hstarted]
  omega

/-- The failures that are cleared pay for the cooldown that the report is going to start. -/
theorem Paid.cooldowns_clear (hpaid : books.Paid setup)
    (hrecord : books.records task = some ⟨identity, .clearing reported⟩) (tasks : Finset TaskId)
    (htasks : ∀ other ∈ tasks, other ≠ task →
      ∃ reported, books.records other = some ⟨identity, .cooling reported⟩) :
    (books.started identity + tasks.card) * setup.badProxy.failureThreshold ≤
      books.recorded identity := by
  have hbefore := hpaid.cooldowns identity (tasks.erase task) fun other hother =>
    htasks other (Finset.mem_of_mem_erase hother) (Finset.ne_of_mem_erase hother)
  have henough := hpaid.enough task identity reported hrecord
  have hcard : tasks.card - 1 ≤ (tasks.erase task).card := Finset.pred_card_le_card_erase
  calc (books.started identity + tasks.card) * setup.badProxy.failureThreshold
      ≤ (books.started identity + (tasks.erase task).card + 1) *
          setup.badProxy.failureThreshold := Nat.mul_le_mul_right _ (by omega)
    _ = (books.started identity + (tasks.erase task).card) * setup.badProxy.failureThreshold +
          setup.badProxy.failureThreshold := Nat.succ_mul ..
    _ ≤ (books.started identity + (tasks.erase task).card) * setup.badProxy.failureThreshold +
          (books.failures identity).length := Nat.add_le_add_left henough _
    _ ≤ books.recorded identity := hbefore

/-- A report that starts its cooldown was one of those that are about to. -/
theorem Paid.cooldowns_cool (hpaid : books.Paid setup)
    (hrecord : books.records task = some ⟨identity, .cooling reported⟩) (tasks : Finset TaskId)
    (htasks : ∀ other ∈ tasks, other ≠ task ∧
      ∃ reported, books.records other = some ⟨identity, .cooling reported⟩) :
    (books.started identity + 1 + tasks.card) * setup.badProxy.failureThreshold +
      (books.failures identity).length ≤ books.recorded identity := by
  have hnew : task ∉ tasks := fun htask => (htasks task htask).1 rfl
  have hbefore := hpaid.cooldowns identity (insert task tasks) fun other hother =>
    (Finset.mem_insert.mp hother).elim (fun hsame => ⟨reported, hsame ▸ hrecord⟩)
      fun hmem => (htasks other hmem).2
  rw [Finset.card_insert_of_notMem hnew] at hbefore
  rwa [Nat.add_right_comm, Nat.add_assoc]

theorem Paid.entry (hpaid : books.Paid setup) (hentry : Entry setup probed books event next)
    (hcount : ∀ identity now, books.Records probed event identity now →
      ∀ other reported, books.records other ≠ some ⟨identity, .clearing reported⟩) :
    next.Paid setup := by
  have henough := hpaid.enough
  have halone := hpaid.alone
  constructor
  case cooldowns =>
    intro identity tasks htasks
    cases hentry with
    | clear task found reported now hrecord =>
      by_cases hsame : identity = found
      · subst hsame
        have hpaid' := hpaid.cooldowns_clear hrecord tasks (by grind [update_apply])
        simpa using hpaid'
      · apply hpaid.cooldowns_of_le _ _ _ htasks <;> grind [update_apply]
    | cool task found reported now hrecord =>
      by_cases hsame : identity = found
      · subst hsame
        have hpaid' := hpaid.cooldowns_cool hrecord tasks (by grind [update_apply])
        simpa using hpaid'
      · apply hpaid.cooldowns_of_le _ _ _ htasks <;> grind [update_apply]
    | _ =>
      apply hpaid.cooldowns_of_le _ _ _ htasks <;>
        grind [update_apply, length_filter_le]
  case enough | alone =>
    cases hentry with
    | reach task found now hrecord | miss task found now hrecord =>
      have hnone := hcount found now (.inl ⟨task, rfl, hrecord⟩)
      grind [update_apply]
    | fail found now hprobed =>
      have hnone := hcount found now (.inr ⟨rfl, hprobed⟩)
      grind [update_apply]
    | _ => grind [update_apply]

/-! ## The lock -/

/-- A report that has started its cooldown holds the lock, and the cooldown is in the map. -/
def Locked (books : Books) : Prop :=
  ∀ task record, books.records task = some record → record.holdsCooldown = true →
    books.holder = some task ∧ (books.cooldown record.identity).isSome

theorem Locked.entry (hlocked : books.Locked) (hentry : Entry setup probed books event next) :
    next.Locked := by
  cases hentry <;> grind [Locked, Record.holdsCooldown, update_apply]

/-! ## Removals are paid for -/

/-- Every counted cooldown has started, and a removal has its cooldowns. -/
structure Charged (setup : PoolSetup) (books : Books) : Prop where
  counted : ∀ identity, books.cooldownCounts identity ≤ books.started identity
  pending : ∀ task identity, books.records task = some ⟨identity, .countingCooldowns⟩ →
    books.cooldownCounts identity < books.started identity
  condemned : ∀ task identity, books.records task = some ⟨identity, .removing⟩ →
    setup.badProxy.maxCooldowns ≤ books.cooldownCounts identity
  removed : ∀ identity ∈ books.removed, setup.badProxy.maxCooldowns ≤ books.cooldownCounts identity

/-- Only the holder of the lock counts a cooldown. -/
theorem Charged.entry (hcharged : books.Charged setup) (hlocked : books.Locked)
    (hentry : Entry setup probed books event next) : next.Charged setup := by
  obtain ⟨hcounted, hpending, hcondemned, hremoved⟩ := hcharged
  cases hentry <;> constructor <;> grind [Locked, Record.holdsCooldown, update_apply]

/-! ## The window -/

/-- The list of failures of a proxy has all that lie within the window of a later one. -/
def Recent (setup : PoolSetup) (books : Books) : Prop :=
  ∀ identity now, (∀ time ∈ books.unspent identity, time ≤ now) →
    (books.failures identity).filter (now < · + setup.badProxy.window) =
      (books.unspent identity).filter (now < · + setup.badProxy.window)

theorem Recent.count {now : Nat} (hrecent : books.Recent setup)
    (horder : ∀ time ∈ books.unspent identity, time ≤ now) :
    (books.count setup identity now).Recent setup := by
  intro other later hlater
  by_cases hother : other = identity
  · subst hother
    simp only [update_self, mem_append, mem_singleton] at hlater ⊢
    have hnow : now ≤ later := hlater now (.inr rfl)
    rw [filter_append, filter_append, filter_filter,
      ← hrecent other later fun time htime => hlater time (.inl htime)]
    congr 1
    apply filter_congr
    intro time _
    have hlonger (hwithin : later < time + setup.badProxy.window) :
        now < time + setup.badProxy.window := hnow.trans_lt hwithin
    simpa using hlonger
  · simp only [update_of_ne hother] at hlater ⊢
    exact hrecent other later hlater

theorem Recent.entry (hrecent : books.Recent setup) (hentry : Entry setup probed books event next)
    (hcount : ∀ identity now, books.Records probed event identity now →
      ∀ time ∈ books.unspent identity, time ≤ now) : next.Recent setup := by
  cases hentry with
  | reach task identity now hrecord | miss task identity now hrecord =>
    exact hrecent.count (hcount identity now (.inl ⟨task, rfl, hrecord⟩))
  | fail identity now hprobed => exact hrecent.count (hcount identity now (.inr ⟨rfl, hprobed⟩))
  | clear task identity =>
    intro other now htimes
    by_cases hother : other = identity
    · simp [hother]
    · simp only [update_of_ne hother] at htimes ⊢
      exact hrecent other now htimes
  | _ => exact hrecent

end Books

/-! ## Missed cooldowns -/

/-- A window that has the threshold of failures with this one is within the window before it. -/
theorem Tally.threshold_le_of_crowded {times : List Nat}
    (hcrowded : crowded setup times now = true) : setup.badProxy.failureThreshold ≤
      (times.filter (now < · + setup.badProxy.window)).length + 1 := by
  simp only [crowded, any_eq_true, decide_eq_true_eq] at hcrowded
  obtain ⟨first, -, -, hnow, hcount⟩ := hcrowded
  have hwithin : (times.filter fun time =>
      first ≤ time ∧ time < first + setup.badProxy.window).length ≤
        (times.filter (now < · + setup.badProxy.window)).length := by
    apply (monotone_filter_right times _).length_le
    intro time htime
    simp only [decide_eq_true_eq] at htime ⊢
    omega
  rw [filter_cons] at hcount
  split at hcount
  · rw [length_cons] at hcount
    omega
  · omega

theorem missed_settle {after : Clocked} {isDue : Bool}
    (hdue : isDue = true → after.outOfService identity = true) :
    (tally.settle after identity isDue).missed = tally.missed := by
  grind [Tally.settle]

theorem missed_noteRecord (tally : Tally) (task : TaskId) (now : Nat) (record : Record) :
    (tally.noteRecord setup task now record).missed = tally.missed := by
  obtain ⟨identity, stage⟩ := record
  cases stage <;> rfl

/-- A report that is done without having started a cooldown was not due. -/
theorem not_due_of_counting (hinOrder : InOrder state identity now)
    (hrecent : (books state).Recent setup)
    (hdone : ((state.1.pool.stepRecord setup task now ⟨identity, .counting⟩).records task).isNone) :
    Tally.crowded setup (state.2.unspent identity) now = false := by
  by_contra hcrowded
  have hthreshold := Tally.threshold_le_of_crowded (Bool.not_eq_false _ ▸ hcrowded)
  have hsame : (state.1.pool.failures identity).filter (now < · + setup.badProxy.window) =
      (state.2.unspent identity).filter (now < · + setup.badProxy.window) :=
    hrecent identity now hinOrder.1
  rw [← hsame, ← length_failuresWith] at hthreshold
  simp only [stepRecord, if_pos hthreshold, records_setRecord_self] at hdone
  cases hdone

theorem missed_of_step (hstep : (tallied setup).step state event = some next)
    (horderly : Orderly setup state event) (hlocked : (books state).Locked)
    (hrecent : (books state).Recent setup) : next.2.missed = state.2.missed := by
  obtain ⟨⟨pool, clock, holder⟩, hafter, rfl⟩ := Option.map_eq_some_iff.mp hstep
  obtain ⟨hpool, rfl, -⟩ := Clocked.step_eq_some hafter
  cases event with
  | record task now =>
    obtain ⟨record, hrecord, rfl⟩ := Option.map_eq_some_iff.mp hpool
    simp only [Tally.note, Orderly, hrecord] at horderly ⊢
    split
    next hdone =>
      rw [← missed_noteRecord state.2 task now record]
      apply missed_settle
      intro hdue
      obtain ⟨identity, stage⟩ := record
      cases stage with
      | checking =>
        have hremoved : identity ∈ state.1.pool.removed := by
          by_contra hkept
          rw [stepRecord, if_neg hkept, records_setRecord_self] at hdone
          cases hdone
        simp [stepRecord, setRecord, Clocked.outOfService, hremoved]
      | counting =>
        have hnot := not_due_of_counting horderly hrecent hdone
        simp [Tally.noteRecord, hnot] at hdue
      | clearing | cooling =>
        rw [stepRecord, records_setRecord_self] at hdone
        cases hdone
      | countingCooldowns =>
        obtain ⟨expires, hexpires⟩ :=
          Option.isSome_iff_exists.mp (hlocked task _ hrecord rfl).2
        have hcooldown : state.1.pool.cooldown identity = some expires := hexpires
        simp only [stepRecord] at hdone ⊢
        split at hdone
        · rw [records_setRecord_self] at hdone
          cases hdone
        next hbelow =>
          have hrunning := horderly (Nat.not_le.mp hbelow) expires hcooldown
          simpa [Clocked.outOfService, setRecord, hbelow, hcooldown, Event.time] using
            .inr (max_lt_iff.mp hrunning)
      | removing => simp [stepRecord, setRecord, Clocked.outOfService]
    · exact missed_noteRecord ..
  | probed reachable now =>
    cases reachable with
    | true => rfl
    | false =>
      cases hprobing : state.1.pool.probing with
      | nil => simp only [Tally.note, hprobing]
      | cons proxy rest =>
        simp only [Tally.note, Orderly, hprobing] at horderly ⊢
        have hnext : state.1.pool.stepBackground setup (.probed false now) = some pool :=
          hpool
        simp only [stepBackground, hprobing] at hnext
        cases hnext
        refine (missed_settle fun hcrowded => ?_).trans rfl
        rcases horderly.2 hcrowded with hremoved | ⟨expires, hexpires, hrunning⟩
        · simp [Clocked.outOfService, hremoved]
        · simpa [Clocked.outOfService, hexpires, Event.time] using
            .inr (max_lt_iff.mp hrunning)
  | _ => rfl

/-! ## Every run -/

structure Accounted (setup : PoolSetup) (state : Clocked × Tally) : Prop where
  paid : (books state).Paid setup
  locked : (books state).Locked
  charged : (books state).Charged setup
  recent : (books state).Recent setup
  missed : state.2.missed = []

theorem accounted_start {setup : PoolSetup} : Accounted setup (tallied setup).start where
  paid := by
    refine ⟨fun identity tasks htasks => ?_, nofun, nofun⟩
    have hnone : tasks = ∅ := Finset.eq_empty_of_forall_notMem fun task htask =>
      nomatch htasks task htask
    simp [hnone, tallied, Machine.observe, books, Tally.blank, clocked, start]
  locked := nofun
  charged := ⟨fun _ => le_rfl, nofun, nofun, nofun⟩
  recent _ _ _ := rfl
  missed := rfl

theorem InOrder.of_records (horderly : Orderly setup state event)
    (hrecords : (books state).Records state.1.pool.probed event identity now) :
    InOrder state identity now := by
  rcases hrecords with ⟨task, rfl, hcounting⟩ | ⟨rfl, hprobed⟩
  · have hrecord : state.1.pool.records task = some ⟨identity, .counting⟩ := hcounting
    simpa only [Orderly, hrecord] using horderly
  · cases hprobing : state.1.pool.probing with
    | nil => simp [probed, hprobing] at hprobed
    | cons proxy rest =>
      simp only [probed, hprobing, List.head?_cons, Option.map_some, Option.some.injEq] at hprobed
      simp only [Orderly, hprobing] at horderly
      exact hprobed ▸ horderly.1

theorem Accounted.step (haccount : Accounted setup state) (horderly : Orderly setup state event)
    (hstep : (tallied setup).step state event = some next) : Accounted setup next := by
  have hentry := entry_of_step hstep
  refine ⟨haccount.paid.entry hentry ?_, haccount.locked.entry hentry,
    haccount.charged.entry haccount.locked hentry, haccount.recent.entry hentry ?_,
    (missed_of_step hstep horderly haccount.locked haccount.recent).trans haccount.missed⟩
  · exact fun _ _ hrecords => (InOrder.of_records horderly hrecords).2
  · exact fun _ _ hrecords => (InOrder.of_records horderly hrecords).1

/-- In every orderly run the account of bad proxies is exact throughout. -/
theorem bad_proxies_accounted (setup : PoolSetup) (events : List Event)
    (horderly : (tallied setup).Obeys (Orderly setup) events) :
    (tallied setup).Throughout (Balanced setup) events := by
  intro before state hinitial hrun
  have haccount := Machine.invariant accounted_start
    (fun _ _ _ haccount horderly hstep => haccount.step horderly hstep)
    (horderly.of_initial hinitial) hrun
  refine ⟨fun identity => ?_, fun identity hremoved => ?_, haccount.missed⟩
  · have hpaid := haccount.paid.cooldowns identity ∅ (by simp)
    exact (Nat.le_add_right _ _).trans hpaid
  · exact (haccount.charged.removed identity hremoved).trans (haccount.charged.counted identity)

/-- One proxy, which two failures within a minute send into cooldown. -/
def strict : PoolSetup where
  proxies := [.single ⟨.http "proxy".toList 8080, none⟩]
  strategy := .roundRobin
  bufferCapacity := none
  maxProxies := 1
  badProxy := ⟨2, 60, 300, 5⟩
  idleTimeout := 300

/-- Two reports whose steps interleave. -/
def twoReports : List Event :=
  [.markBad 0 "proxy:8080".toList, .markBad 1 "proxy:8080".toList, .record 0 100, .record 1 101,
    .record 0 101, .record 1 102, .record 1 102, .record 1 102, .record 1 102]

/-- Where only two reports have begun and neither is about to clear the failures, none is. -/
theorem ne_clearing_of_two {records : TaskId → Option Record} {identity : Text}
    (hothers : ∀ task, task ≠ 0 → task ≠ 1 → records task = none)
    (hfirst : ∀ reported, records 0 ≠ some ⟨identity, .clearing reported⟩)
    (hsecond : ∀ reported, records 1 ≠ some ⟨identity, .clearing reported⟩) (task : TaskId)
    (reported : Nat) : records task ≠ some ⟨identity, .clearing reported⟩ := by
  by_cases hzero : task = 0
  · exact hzero ▸ hfirst reported
  by_cases hone : task = 1
  · exact hone ▸ hsecond reported
  · rw [hothers task hzero hone]
    exact nofun

theorem twoReports_orderly : (tallied strict).Obeys (Orderly strict) twoReports := by
  apply Machine.ObeysFrom.obeys
  refine ⟨trivial, ?_⟩
  rintro _ ⟨⟩
  refine ⟨trivial, ?_⟩
  rintro _ ⟨⟩
  refine ⟨trivial, ?_⟩
  rintro _ ⟨⟩
  refine ⟨trivial, ?_⟩
  rintro _ ⟨⟩
  -- The first report counts its failure, and then the second, which makes up the threshold.
  refine ⟨⟨nofun, ne_clearing_of_two ?_ nofun nofun⟩, ?_⟩
  · intro task hzero hone
    refine (update_of_ne hone _ _).trans ((update_of_ne hzero _ _).trans ?_)
    exact (update_of_ne hone _ _).trans (update_of_ne hzero _ _)
  rintro _ ⟨⟩
  refine ⟨⟨by decide +kernel, ne_clearing_of_two ?_ nofun nofun⟩, ?_⟩
  · intro task hzero hone
    refine (update_of_ne hzero _ _).trans ((update_of_ne hone _ _).trans ?_)
    refine (update_of_ne hzero _ _).trans ((update_of_ne hone _ _).trans ?_)
    exact update_of_ne hzero _ _
  rintro _ ⟨⟩
  refine ⟨trivial, ?_⟩
  rintro _ ⟨⟩
  refine ⟨trivial, ?_⟩
  rintro _ ⟨⟩
  refine ⟨?_, fun _ _ => trivial⟩
  rintro - _ ⟨⟩
  decide +kernel

/-- Two reports of one proxy start one cooldown. -/
theorem two_reports_accounted :
    ((tallied strict).run twoReports).map (·.2.started "proxy:8080".toList) = some 1 ∧
      (tallied strict).Throughout (Balanced strict) twoReports :=
  ⟨by decide +kernel, bad_proxies_accounted strict twoReports twoReports_orderly⟩

/-- A second report counts a failure between the one that reaches the threshold and its clearing, so
that three failures start two cooldowns; and two failed health checks start none. -/
theorem failures_counted_twice_or_never :
    ¬(tallied strict).Throughout (Balanced strict)
      [.markBad 0 "proxy:8080".toList, .record 0 100, .record 0 100,
        .markBad 1 "proxy:8080".toList, .record 1 101, .markBad 2 "proxy:8080".toList,
        .record 2 101, .record 1 101, .record 2 102, .record 1 102, .record 1 102,
        .record 2 102, .record 1 102, .record 2 102] ∧
    ¬(tallied strict).Throughout (Balanced strict)
      [.startHealthChecks, .probed false 100, .startHealthChecks, .probed false 110] := by
  constructor
  · intro hbalanced
    have hlast := hbalanced _ _ (prefix_refl _) rfl
    exact absurd (hlast.cooldowns "proxy:8080".toList) (by decide +kernel)
  · intro hbalanced
    have hlast := hbalanced _ _ (prefix_refl _) rfl
    exact absurd hlast.missed (by decide +kernel)

end Pool

end LkRequest.Client
