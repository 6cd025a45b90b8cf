import LkRequest.Library.Machine

/-!
# Sharing QUIC handshakes

The head of `establish_and_send_quic`: buffered requests for one connection key, of which one is to
drive the handshake while the others wait for its `Notify`. The machine has a step for every stretch
of code between two points at which another request may run, so a request that has read the marker
has not yet created its `notified` future, and a guard that has removed the marker has not yet woken
anybody.

A future made by `notified` counts the calls of `notify_waiters` so far and is ready as soon as
there is one more. The answer of the pool to a woken request is part of the event.
-/

namespace LkRequest.Client

open Library Function Option

/-! ## State -/

/-- Where a request is. -/
inductive QuicStage where
  /-- It read a marker in the map and has released the lock. -/
  | joining (notify : Nat)
  /-- It awaits its `notified` future, created after that many calls. -/
  | waiting (notify seen : Nat)
  | woken
  /-- It has an `InFlightGuard`, and a marker of its own unless it waited before. The handshake is
  followed by the request itself or by the fallback to TCP. -/
  | driving (own : Option Nat) (handshaking : Bool)
  /-- Its guard is being dropped and has removed this marker from the map. -/
  | cleaning (own removed : Option Nat)
  /-- It has returned, or it sends on a pooled connection without a guard. -/
  | ended

/-- The notify that the request is to call at its end. -/
def QuicStage.holds : QuicStage → Option Nat
  | driving own _ => own
  | cleaning _ removed => removed
  | _ => none

/-- The entry of the key in `quic_in_flight`, the calls of `notify_waiters` of every `Notify` made
for it, and the requests. -/
structure QuicInFlight where
  marker : Option Nat
  next : Nat
  calls : Nat → Nat
  requests : Nat → Option QuicStage

namespace QuicInFlight

def setRequest (state : QuicInFlight) (task : Nat) (stage : QuicStage) : QuicInFlight :=
  { state with requests := update state.requests task (some stage) }

def holds (state : QuicInFlight) (task : Nat) : Option Nat :=
  (state.requests task).bind QuicStage.holds

/-! ## Steps -/

inductive Event where
  | arrive (task : Nat)
  | await (task : Nat)
  | wake (task : Nat)
  | retry (task : Nat) (pooled : Bool)
  | establish (task : Nat)
  /-- The request returns, fails or is cancelled: its guard removes the marker. -/
  | finish (task : Nat)
  | notify (task : Nat)
  /-- A waiting request is cancelled. -/
  | cancel (task : Nat)

def Event.task : Event → Nat
  | .arrive task | .await task | .wake task | .retry task _ | .establish task | .finish task
  | .notify task | .cancel task => task

/-- The first critical section. -/
def arrive (state : QuicInFlight) (task : Nat) : QuicInFlight :=
  match state.marker with
  | some existing => state.setRequest task (.joining existing)
  | none =>
    { state with marker := some state.next, next := state.next + 1 }.setRequest task
      (.driving (some state.next) true)

def notifyWaiters (state : QuicInFlight) : Option Nat → QuicInFlight
  | some notify =>
    { state with calls := update state.calls notify (state.calls notify + 1) }
  | none => state

def stepRequest (state : QuicInFlight) (task : Nat) : QuicStage → Event → Option QuicInFlight
  | .joining notify, .await _ =>
    some (state.setRequest task (.waiting notify (state.calls notify)))
  | .waiting notify seen, .wake _ =>
    if state.calls notify = seen then none else some (state.setRequest task .woken)
  | .waiting .., .cancel _ => some (state.setRequest task .ended)
  | .woken, .retry _ pooled =>
    some (state.setRequest task (if pooled then .ended else .driving none true))
  | .driving own true, .establish _ => some (state.setRequest task (.driving own false))
  | .driving own _, .finish _ =>
    some ({ state with marker := none }.setRequest task (.cleaning own state.marker))
  | .cleaning _ removed, .notify _ => some ((state.notifyWaiters removed).setRequest task .ended)
  | _, _ => none

def step (state : QuicInFlight) (event : Event) : Option QuicInFlight :=
  match event with
  | .arrive task => if (state.requests task).isSome then none else some (state.arrive task)
  | _ =>
    (state.requests event.task).bind fun stage => state.stepRequest event.task stage event

def machine : Machine QuicInFlight Event where
  start := ⟨none, 0, fun _ => 0, fun _ => none⟩
  step := step

/-! ## Safety -/

/-- The leader of the `Notify` is running and will call it. -/
def WillNotify (state : QuicInFlight) (leader notify : Nat) : Prop :=
  (∃ handshaking, state.requests leader = some (.driving (some notify) handshaking) ∧
    state.marker = some notify) ∨
  state.requests leader = some (.cleaning (some notify) (some notify))

/-- What sharing handshakes promises. -/
structure Safe (state : QuicInFlight) : Prop where
  waiters : ∀ task notify seen, state.requests task = some (.waiting notify seen) →
    state.calls notify = seen → ∃ leader, state.WillNotify leader notify
  removals : ∀ task own removed, state.requests task = some (.cleaning own (some removed)) →
    own = some removed
  markers : ∀ task notify, state.requests task = some (.driving (some notify) true) →
    state.marker = some notify
  arrivals : ∀ leader notify task next,
    state.requests leader = some (.driving (some notify) true) →
      state.step (.arrive task) = some next → next.requests task = some (.joining notify)

/-- A request creates its future before the `Notify` it has read is called, and one that drives a
handshake without a marker of its own ends while no marker is in the map. -/
def Timely (state : QuicInFlight) : Event → Prop
  | .await task => ∀ notify, state.requests task = some (.joining notify) → state.calls notify = 0
  | .finish task => ∀ handshaking, state.requests task = some (.driving none handshaking) →
      state.marker = none
  | _ => True

/-! ## The invariant -/

def StageSound (state : QuicInFlight) : QuicStage → Prop
  | .joining notify => notify < state.next
  | .waiting notify seen => notify < state.next ∧ seen = 0
  | .driving own _ => ∀ notify, own = some notify → state.marker = some notify
  | .cleaning own removed => removed = own
  | .woken | .ended => True

/-- Every `Notify` made so far is held by exactly one request until it is called. -/
structure Held (holds : Nat → Option Nat) (next : Nat) (calls : Nat → Nat) : Prop where
  bounded : ∀ task notify, holds task = some notify → notify < next
  silent : ∀ task notify, holds task = some notify → calls notify = 0
  unique : ∀ first second notify, holds first = some notify → holds second = some notify →
    first = second
  held : ∀ notify, notify < next → calls notify = 0 → ∃ task, holds task = some notify
  fresh : ∀ notify, next ≤ notify → calls notify = 0

/-- A leader that drives its handshake has its marker in the map. -/
structure Sound (state : QuicInFlight) : Prop where
  stages : ∀ task stage, state.requests task = some stage → state.StageSound stage
  marker_lt : ∀ notify, state.marker = some notify → notify < state.next
  notifies : Held state.holds state.next state.calls

theorem sound_start : machine.start.Sound where
  stages _ _ hrequest := nomatch hrequest
  marker_lt _ hmarker := nomatch hmarker
  notifies.bounded _ _ hholds := nomatch hholds
  notifies.silent _ _ _ := rfl
  notifies.unique _ _ _ hfirst := nomatch hfirst
  notifies.held _ hlt := absurd hlt (Nat.not_lt_zero _)
  notifies.fresh _ _ := rfl

namespace Held

variable {holds : Nat → Option Nat} {next : Nat} {calls : Nat → Nat} {task notify : Nat}

theorem create (hheld : Held holds next calls) (hidle : holds task = none) :
    Held (update holds task (some next)) (next + 1) calls where
  bounded := forall_update (forall_mem_some (Nat.lt_succ_self next))
    fun other notify hholds => Nat.lt_succ_of_lt (hheld.bounded other notify hholds)
  silent := forall_update (forall_mem_some (hheld.fresh next (Nat.le_refl next))) hheld.silent
  unique first second notify hfirst hsecond := by
    obtain ⟨rfl, hnew⟩ | ⟨-, hkept⟩ := update_cases hfirst
    · obtain ⟨rfl, -⟩ | ⟨-, hold⟩ := update_cases hsecond
      · rfl
      · cases hnew
        exact absurd (hheld.bounded second next hold) (Nat.lt_irrefl next)
    · obtain ⟨-, hnew⟩ | ⟨-, hold⟩ := update_cases hsecond
      · cases hnew
        exact absurd (hheld.bounded first next hkept) (Nat.lt_irrefl next)
      · exact hheld.unique first second notify hkept hold
  held notify hlt hcalls := by
    rcases Nat.lt_succ_iff_lt_or_eq.mp hlt with hlt | rfl
    · obtain ⟨other, hother⟩ := hheld.held notify hlt hcalls
      have hne : other ≠ task := by
        rintro rfl
        cases hidle.symm.trans hother
      exact ⟨other, (update_of_ne hne ..).trans hother⟩
    · exact ⟨task, update_self ..⟩
  fresh notify hle := hheld.fresh notify (Nat.le_of_succ_le hle)

theorem call (hheld : Held holds next calls) (hholds : holds task = some notify) :
    Held (update holds task none) next
      (update calls notify (calls notify + 1)) := by
  have hkept (other notify' : Nat) (hother : update holds task none other = some notify') :
      holds other = some notify' ∧ notify' ≠ notify := by
    obtain ⟨-, hnew⟩ | ⟨hne, hold⟩ := update_cases hother
    · cases hnew
    · refine ⟨hold, ?_⟩
      rintro rfl
      exact hne (hheld.unique other task notify' hold hholds)
  constructor
  case bounded =>
    intro other notify' hother
    exact hheld.bounded other notify' (hkept other notify' hother).1
  case silent =>
    intro other notify' hother
    rw [update_of_ne (hkept other notify' hother).2]
    exact hheld.silent other notify' (hkept other notify' hother).1
  case unique =>
    intro first second notify' hfirst hsecond
    exact hheld.unique first second notify' (hkept first notify' hfirst).1
      (hkept second notify' hsecond).1
  case held =>
    intro notify' hlt hcalls
    have hne : notify' ≠ notify := by
      rintro rfl
      rw [update_self] at hcalls
      exact absurd hcalls (Nat.succ_ne_zero _)
    rw [update_of_ne hne] at hcalls
    obtain ⟨other, hother⟩ := hheld.held notify' hlt hcalls
    have hother' : other ≠ task := by
      rintro rfl
      exact hne (Option.some.inj (hother.symm.trans hholds))
    exact ⟨other, (update_of_ne hother' ..).trans hother⟩
  case fresh =>
    intro notify' hle
    have hne : notify' ≠ notify := by
      rintro rfl
      exact absurd (hheld.bounded task notify' hholds) (Nat.not_lt.mpr hle)
    rw [update_of_ne hne]
    exact hheld.fresh notify' hle

end Held

section Steps

variable {state next : QuicInFlight} {task : Nat} {stage old : QuicStage}

theorem requests_setRequest_self : (state.setRequest task stage).requests task = some stage :=
  update_self ..

theorem requests_setRequest_of_ne {other : Nat} (hother : other ≠ task) :
    (state.setRequest task stage).requests other = state.requests other :=
  update_of_ne hother ..

theorem holds_setRequest :
    (state.setRequest task stage).holds = update state.holds task stage.holds := by
  funext other
  by_cases hother : other = task
  · rw [holds, hother, requests_setRequest_self, update_self, bind_some]
  · rw [holds, requests_setRequest_of_ne hother, update_of_ne hother, holds]

theorem stages_setRequest (hstage : StageSound (state.setRequest task stage) stage)
    (hstages : ∀ other stage', other ≠ task → state.requests other = some stage' →
      StageSound (state.setRequest task stage) stage') :
    ∀ other stage', (state.setRequest task stage).requests other = some stage' →
      StageSound (state.setRequest task stage) stage' := by
  intro other stage' hrequest
  obtain ⟨-, hnew⟩ | ⟨hother, hold⟩ := update_cases hrequest
  · cases hnew
    exact hstage
  · exact hstages other stage' hother hold

variable (hsound : state.Sound) {handshaking : Bool} {event : Event}
include hsound

/-- A request that holds what it held before. -/
theorem Sound.setRequest (hstage : state.StageSound stage)
    (hholds : stage.holds = state.holds task) : (state.setRequest task stage).Sound where
  stages := stages_setRequest hstage fun other stage' _ => hsound.stages other stage'
  marker_lt := hsound.marker_lt
  notifies := by
    rw [holds_setRequest, hholds, update_eq_self]
    exact hsound.notifies

theorem Sound.arrive (hnew : state.requests task = none) : (state.arrive task).Sound := by
  have hidle : state.holds task = none := by rw [holds, hnew, bind_none]
  rw [QuicInFlight.arrive]
  split
  next existing hmarker =>
    exact hsound.setRequest (hsound.marker_lt existing hmarker) hidle.symm
  next hmarker =>
    constructor
    case stages =>
      apply stages_setRequest
      · exact fun _ hown => hown
      · intro other stage hother hrequest
        have hstage := hsound.stages other stage hrequest
        cases stage with
        | joining notify => exact Nat.lt_succ_of_lt hstage
        | waiting notify seen => exact ⟨Nat.lt_succ_of_lt hstage.1, hstage.2⟩
        | driving own handshaking =>
          -- No other request drives a handshake under a marker.
          intro notify hown
          cases hmarker.symm.trans (hstage notify hown)
        | cleaning own removed => exact hstage
        | woken | ended => trivial
    case marker_lt =>
      intro notify hnotify
      cases hnotify
      exact Nat.lt_succ_self _
    case notifies =>
      rw [holds_setRequest]
      exact hsound.notifies.create hidle

theorem Sound.finish {own : Option Nat}
    (hrequest : state.requests task = some (.driving own handshaking))
    (hown : own = none → state.marker = none) :
    ({ state with marker := none }.setRequest task (.cleaning own state.marker)).Sound := by
  have hholds : state.holds task = own := by rw [holds, hrequest]; rfl
  have hmarker : state.marker = own := by
    cases own with
    | none => exact hown rfl
    | some notify => exact hsound.stages task _ hrequest notify rfl
  constructor
  case stages =>
    apply stages_setRequest
    · exact hmarker
    · intro other stage hother hrequest'
      have hstage := hsound.stages other stage hrequest'
      cases stage with
      | joining | waiting | cleaning | woken | ended => exact hstage
      | driving own' handshaking' =>
        -- Two requests with the marker in the map would hold the same `Notify`.
        intro notify hnotify
        have hfirst : state.holds other = some notify := by
          rw [holds, hrequest', ← hnotify]
          rfl
        have hsecond : state.holds task = some notify := by
          rw [hholds, ← hmarker]
          exact hstage notify hnotify
        exact absurd (hsound.notifies.unique other task notify hfirst hsecond) hother
  case marker_lt => exact fun _ hnone => nomatch hnone
  case notifies =>
    have hsame : (QuicStage.cleaning own state.marker).holds = state.holds task :=
      hmarker.trans hholds.symm
    rw [holds_setRequest, hsame]
    show Held (update state.holds task (state.holds task)) state.next state.calls
    rw [update_eq_self]
    exact hsound.notifies

theorem Sound.notify {own removed : Option Nat}
    (hrequest : state.requests task = some (.cleaning own removed)) :
    ((state.notifyWaiters removed).setRequest task .ended).Sound := by
  have hholds : state.holds task = removed := by rw [holds, hrequest]; rfl
  cases removed with
  | none => exact hsound.setRequest trivial hholds.symm
  | some notify =>
    constructor
    case stages =>
      apply stages_setRequest
      · trivial
      · intro other stage _ hrequest'
        have hstage := hsound.stages other stage hrequest'
        cases stage <;> exact hstage
    case marker_lt => exact hsound.marker_lt
    case notifies =>
      rw [holds_setRequest]
      exact hsound.notifies.call hholds

theorem Sound.stepRequest (htimely : state.Timely event)
    (hrequest : state.requests event.task = some stage)
    (hstep : state.stepRequest event.task stage event = some next) : next.Sound := by
  have hstage := hsound.stages event.task stage hrequest
  have hholds : state.holds event.task = stage.holds := by
    rw [holds, hrequest, bind_some]
  rw [QuicInFlight.stepRequest.eq_def] at hstep
  split at hstep
  case h_1 notify task =>
    cases hstep
    exact hsound.setRequest ⟨hstage, htimely notify hrequest⟩ hholds.symm
  case h_2 =>
    obtain ⟨-, hnext⟩ := ite_none_left_eq_some.mp hstep
    cases hnext
    exact hsound.setRequest trivial hholds.symm
  case h_3 =>
    cases hstep
    exact hsound.setRequest trivial hholds.symm
  case h_4 task pooled =>
    cases hstep
    cases pooled with
    | true => exact hsound.setRequest trivial hholds.symm
    | false => exact hsound.setRequest nofun hholds.symm
  case h_5 =>
    cases hstep
    exact hsound.setRequest hstage hholds.symm
  case h_6 own handshaking task =>
    cases hstep
    apply hsound.finish hrequest
    rintro rfl
    exact htimely handshaking hrequest
  case h_7 =>
    cases hstep
    exact hsound.notify hrequest
  case h_8 => cases hstep

theorem Sound.step (htimely : state.Timely event)
    (hstep : state.step event = some next) : next.Sound := by
  cases event with
  | arrive task =>
    obtain ⟨hnew, hnext⟩ := ite_none_left_eq_some.mp hstep
    cases hnext
    exact hsound.arrive (not_isSome_iff_eq_none.mp hnew)
  | await | wake | retry | establish | finish | notify | cancel =>
    obtain ⟨stage, hrequest, hnext⟩ := bind_eq_some_iff.mp hstep
    exact hsound.stepRequest htimely hrequest hnext

/-! ## Safety of every run -/

variable {notify : Nat}

theorem Sound.willNotify
    (hholds : state.holds task = some notify) : state.WillNotify task notify := by
  obtain ⟨stage, hrequest, hstage⟩ := bind_eq_some_iff.mp hholds
  have hsound' := hsound.stages task stage hrequest
  cases stage with
  | driving own handshaking =>
    cases hstage
    exact .inl ⟨handshaking, hrequest, hsound' notify rfl⟩
  | cleaning own removed =>
    cases hstage
    cases hsound'
    exact .inr hrequest
  | joining | waiting | woken | ended => cases hstage

theorem Sound.safe : state.Safe where
  waiters task notify seen hwaiting hseen := by
    obtain ⟨hlt, hzero⟩ := hsound.stages task _ hwaiting
    obtain ⟨leader, hleader⟩ := hsound.notifies.held notify hlt (hseen.trans hzero)
    exact ⟨leader, hsound.willNotify hleader⟩
  removals task own removed hcleaning := (hsound.stages task _ hcleaning).symm
  markers task notify hdriving := hsound.stages task _ hdriving notify rfl
  arrivals leader notify task next hleader harrive := by
    have hmarker := hsound.stages leader _ hleader notify rfl
    obtain ⟨-, hnext⟩ := ite_none_left_eq_some.mp harrive
    cases hnext
    rw [QuicInFlight.arrive, hmarker]
    exact requests_setRequest_self

omit hsound in
theorem WillNotify.holds {leader : Nat} (hleader : state.WillNotify leader notify) :
    state.holds leader = some notify := by
  rcases hleader with ⟨handshaking, hdriving, -⟩ | hcleaning
  · rw [QuicInFlight.holds, hdriving]
    rfl
  · rw [QuicInFlight.holds, hcleaning]
    rfl

/-- A future created too late waits for a `Notify` that nobody will call. -/
theorem Sound.broken_await
    (hjoining : state.requests task = some (.joining notify)) (hcalls : state.calls notify ≠ 0) :
    ∃ next, state.step (.await task) = some next ∧ ¬next.Safe := by
  have hstep : state.step (.await task) =
      some (state.setRequest task (.waiting notify (state.calls notify))) := by
    simp [QuicInFlight.step, Event.task, hjoining, QuicInFlight.stepRequest]
  refine ⟨_, hstep, fun hsafe => ?_⟩
  obtain ⟨leader, hleader⟩ := hsafe.waiters task notify _ requests_setRequest_self rfl
  have hholds := hleader.holds
  rw [holds_setRequest] at hholds
  obtain ⟨-, hnew⟩ | ⟨-, hold⟩ := update_cases hholds
  · cases hnew
  · exact hcalls (hsound.notifies.silent leader notify hold)

omit hsound

/-- A guard without a marker of its own removes the one it finds. -/
theorem broken_finish (hdriving : state.requests task = some (.driving none handshaking))
    (hmarker : state.marker = some notify) :
    ∃ next, state.step (.finish task) = some next ∧ ¬next.Safe := by
  have hstep : state.step (.finish task) =
      some ({ state with marker := none }.setRequest task (.cleaning none state.marker)) := by
    simp [QuicInFlight.step, Event.task, hdriving, QuicInFlight.stepRequest]
  refine ⟨_, hstep, fun hsafe => ?_⟩
  rw [hmarker] at hsafe
  cases hsafe.removals task none notify requests_setRequest_self

/-- Every state of a run is safe exactly when all its steps are timely. -/
theorem handshakes_shared_safely (events : List Event) :
    machine.Throughout Safe events ↔ machine.Obeys Timely events := by
  apply Machine.throughout_iff_obeys Sound sound_start
  · intro state event next hsound htimely hstep
    exact hsound.step htimely hstep
  · intro state hsound
    exact hsound.safe
  · intro state event hsound hlate
    cases event with
    | await task =>
      obtain ⟨notify, hnotify⟩ := not_forall.mp hlate
      obtain ⟨hjoining, hcalls⟩ := Classical.not_imp.mp hnotify
      exact hsound.broken_await hjoining hcalls
    | finish task =>
      obtain ⟨handshaking, hhandshaking⟩ := not_forall.mp hlate
      obtain ⟨hdriving, hmarker⟩ := Classical.not_imp.mp hhandshaking
      obtain ⟨notify, hmarker⟩ := ne_none_iff_exists'.mp hmarker
      exact broken_finish hdriving hmarker
    | arrive | wake | retry | establish | notify | cancel => exact absurd trivial hlate

end Steps

/-- Request 2 reads the marker of request 1, which then fails and calls the `Notify` before request
2 has created its future. -/
def lostWakeUp : List Event := [.arrive 1, .arrive 2, .finish 1, .notify 1, .await 2]

/-- Request 2 waits for request 1, whose handshake fails, and drives its own. Its guard removes the
marker of request 3, so request 4 starts a third handshake. -/
def lostMarker : List Event :=
  [.arrive 1, .arrive 2, .await 2, .finish 1, .notify 1, .wake 2, .retry 2 false, .arrive 3,
    .finish 2, .arrive 4]

theorem wake_up_and_marker_lost :
    (∃ last, machine.run lostWakeUp = some last ∧ ¬last.Safe ∧
      last.requests 2 = some (.waiting 0 1) ∧ last.calls 0 = 1 ∧
      last.requests 1 = some .ended) ∧
    (∃ last, machine.run lostMarker = some last ∧ ¬last.Safe ∧
      last.requests 3 = some (.driving (some 1) true) ∧ last.marker = some 2 ∧
      last.requests 4 = some (.driving (some 2) true)) := by
  constructor
  · refine ⟨_, rfl, fun hsafe => ?_, rfl, rfl, rfl⟩
    obtain ⟨leader, hleader⟩ := hsafe.waiters 2 0 1 rfl rfl
    have hholds := hleader.holds
    match leader with
    | 0 | 1 | 2 | _ + 3 => cases hholds
  · refine ⟨_, rfl, fun hsafe => ?_, rfl, rfl, rfl⟩
    cases hsafe.markers 3 1 rfl

end QuicInFlight

end LkRequest.Client
