import LkRequest.Client.Operations
import LkRequest.Library.Machine

/-!
# Sharing DNS lookups

`SystemDnsFlightGroup` of `dns.rs`: concurrent lookups of one key share one task. The machine has a
step for every stretch of code between two points at which another task may run: under the lock of
the map, between it and the spawn, the first poll of the task, the sending of its result and the
removal of its entry. A task may be dropped whenever it is not inside such a stretch, and a caller
wherever it waits.
-/

namespace LkRequest.Client

open Library Function Option

/-! ## State -/

structure SystemDnsLookupKey where
  host : Text
  port : Nat
  deriving DecidableEq

structure SharedLookupError where
  kind : IoErrorKind
  message : Text

abbrev SharedLookupResult : Type := Except SharedLookupError (List SocketAddr)

/-- What the guard of a dropped task sends. -/
def lookupCancelled : SharedLookupResult :=
  .error ⟨.interrupted, "system DNS lookup task cancelled".toList⟩

/-- What a waiter gets when the sender is gone without a result. -/
def lookupEnded : SharedLookupResult :=
  .error ⟨.interrupted, "system DNS lookup task ended without a result".toList⟩

/-- Where the task of a lookup is. -/
inductive LookupPhase where
  /-- Its entry is in the map and its leader is about to spawn it. -/
  | created
  | spawned
  /-- It was polled: its guard exists. -/
  | running
  /-- Its result is sent, and its entry is about to be removed. -/
  | sent
  | finished
  /-- It was dropped before its first poll. -/
  | lost
  deriving DecidableEq

/-- An `InFlightLookup` and its task. The value is the one of the watch channel. -/
structure Lookup where
  key : SystemDnsLookupKey
  phase : LookupPhase
  value : Option SharedLookupResult

/-- What a waiter finds in the channel: a value, or that the sender is gone. -/
def Lookup.received (lookup : Lookup) : Option SharedLookupResult :=
  match lookup.value with
  | some result => some result
  | none => if lookup.phase = .lost then some lookupEnded else none

/-- The lookup is still to give its result, or its task is about to end. -/
def Lookup.IsLive (lookup : Lookup) : Prop := lookup.phase ≠ .finished ∧ lookup.phase ≠ .lost

instance (lookup : Lookup) : Decidable lookup.IsLive := inferInstanceAs (Decidable (_ ∧ _))

inductive CallerStage where
  | leading (entry : Nat)
  | waiting (entry : Nat)
  | returned (entry : Nat) (result : SharedLookupResult)
  | cancelled

/-- The map, the lookups under the numbers of their entries, and the callers. -/
structure FlightGroup where
  entries : SystemDnsLookupKey → Option Nat
  next : Nat
  lookups : Nat → Option Lookup
  callers : Nat → Option CallerStage

namespace FlightGroup

def setCaller (group : FlightGroup) (task : Nat) (stage : CallerStage) : FlightGroup :=
  { group with callers := update group.callers task (some stage) }

def setLookup (group : FlightGroup) (entry : Nat) (lookup : Lookup) : FlightGroup :=
  { group with lookups := update group.lookups entry (some lookup) }

/-! ## Steps -/

/-- A new `InFlightLookup` is put into the map. -/
def insertEntry (group : FlightGroup) (key : SystemDnsLookupKey) : FlightGroup :=
  { group.setLookup group.next ⟨key, .created, none⟩ with
    entries := update group.entries key (some group.next)
    next := group.next + 1 }

/-- The critical section of `resolve_with`. -/
def call (group : FlightGroup) (task : Nat) (key : SystemDnsLookupKey) : FlightGroup :=
  match group.entries key with
  | some entry => group.setCaller task (.waiting entry)
  | none => (group.insertEntry key).setCaller task (.leading group.next)

/-- `remove_entry`: an entry of another lookup stays. -/
def removeEntry (group : FlightGroup) (entry : Nat) (key : SystemDnsLookupKey) : FlightGroup :=
  if group.entries key = some entry then
    { group with entries := update group.entries key none }
  else group

inductive Event where
  | call (task : Nat) (key : SystemDnsLookupKey)
  | spawn (task : Nat)
  | poll (entry : Nat)
  | complete (entry : Nat) (result : SharedLookupResult)
  | drop (entry : Nat)
  | remove (entry : Nat)
  | receive (task : Nat)
  | cancel (task : Nat)

/-- A step of the task of a lookup. -/
def stepLookup (group : FlightGroup) (entry : Nat) (lookup : Lookup) : Event → Option FlightGroup
  | .poll _ =>
    if lookup.phase = .spawned then
      some (group.setLookup entry { lookup with phase := .running })
    else none
  | .complete _ result =>
    if lookup.phase = .running then
      some (group.setLookup entry { lookup with phase := .sent, value := some result })
    else none
  | .drop _ =>
    if lookup.phase = .running then
      some (group.setLookup entry { lookup with phase := .sent, value := some lookupCancelled })
    else if lookup.phase = .spawned then
      some (group.setLookup entry { lookup with phase := .lost })
    else none
  | .remove _ =>
    if lookup.phase = .sent then
      some ((group.removeEntry entry lookup.key).setLookup entry { lookup with phase := .finished })
    else none
  | _ => none

/-- A step of a caller. -/
def stepCaller (group : FlightGroup) (task : Nat) : CallerStage → Event → Option FlightGroup
  | .leading entry, .spawn _ =>
    (group.lookups entry).map fun lookup =>
      (group.setLookup entry { lookup with phase := .spawned }).setCaller task (.waiting entry)
  | .waiting entry, .receive _ =>
    ((group.lookups entry).bind Lookup.received).map fun result =>
      group.setCaller task (.returned entry result)
  | .waiting _, .cancel _ => some (group.setCaller task .cancelled)
  | _, _ => none

def step (group : FlightGroup) (event : Event) : Option FlightGroup :=
  match event with
  | .call task key => if (group.callers task).isSome then none else some (group.call task key)
  | .poll entry | .complete entry _ | .drop entry | .remove entry =>
    (group.lookups entry).bind fun lookup => group.stepLookup entry lookup event
  | .spawn task | .receive task | .cancel task =>
    (group.callers task).bind fun stage => group.stepCaller task stage event

def machine : Machine FlightGroup Event where
  start := ⟨fun _ => none, 0, fun _ => none, fun _ => none⟩
  step := step

/-! ## Safety -/

/-- What sharing lookups promises. -/
structure Safe (group : FlightGroup) : Prop where
  /-- At most one lookup of a key is under way. -/
  unique : ∀ first second lookup lookup', group.lookups first = some lookup →
    group.lookups second = some lookup' → lookup.IsLive → lookup'.IsLive →
      lookup.key = lookup'.key → first = second
  /-- A caller that returns has the result of the lookup it joined. -/
  results : ∀ task entry result, group.callers task = some (.returned entry result) →
    ∃ lookup, group.lookups entry = some lookup ∧ lookup.value = some result
  /-- The entries in the map are those of live lookups. -/
  entries : ∀ key entry, group.entries key = some entry →
    ∃ lookup, group.lookups entry = some lookup ∧ lookup.key = key ∧ lookup.IsLive
  /-- A call joins a live lookup of its key or starts a fresh one. -/
  later : ∀ task key next, group.step (.call task key) = some next →
    (∃ entry lookup, next.callers task = some (.waiting entry) ∧
      group.lookups entry = some lookup ∧ lookup.key = key ∧ lookup.IsLive) ∨
    (next.callers task = some (.leading group.next) ∧ group.lookups group.next = none ∧
      next.lookups group.next = some ⟨key, .created, none⟩)

/-- The task of a lookup is not dropped before its first poll. -/
def PolledFirst (group : FlightGroup) : Event → Prop
  | .drop entry => ∀ lookup ∈ group.lookups entry, lookup.phase ≠ .spawned
  | _ => True

/-! ## The invariant -/

def CallerStage.Sound (group : FlightGroup) : CallerStage → Prop
  | .leading entry => ∃ lookup, group.lookups entry = some lookup ∧ lookup.phase = .created
  | .waiting entry => ∃ lookup, group.lookups entry = some lookup
  | .returned entry result =>
    ∃ lookup, group.lookups entry = some lookup ∧ lookup.received = some result
  | .cancelled => True

/-- What holds in every run: the entries in the map are those of the lookups that are not
finished. -/
structure Sound (group : FlightGroup) : Prop where
  entries : ∀ key entry, group.entries key = some entry →
    ∃ lookup, group.lookups entry = some lookup ∧ lookup.key = key ∧ lookup.phase ≠ .finished
  present : ∀ entry lookup, group.lookups entry = some lookup → lookup.phase ≠ .finished →
    group.entries lookup.key = some entry
  fresh : ∀ entry, group.next ≤ entry → group.lookups entry = none
  values : ∀ entry lookup, group.lookups entry = some lookup →
    (lookup.value.isSome ↔ lookup.phase = .sent ∨ lookup.phase = .finished)
  callers : ∀ task stage, group.callers task = some stage → CallerStage.Sound group stage
  leaders : ∀ task task' entry, group.callers task = some (.leading entry) →
    group.callers task' = some (.leading entry) → task = task'

/-- What a caller has seen of its lookup stays true while the lookup goes on. -/
theorem CallerStage.Sound.of_kept {group next : FlightGroup} {stage : CallerStage}
    (hstage : CallerStage.Sound group stage)
    (hkept : ∀ entry lookup, group.lookups entry = some lookup →
      ∃ lookup', next.lookups entry = some lookup' ∧
        (∀ result, lookup.received = some result → lookup'.received = some result) ∧
        (stage = .leading entry → lookup.phase = .created → lookup'.phase = .created)) :
    CallerStage.Sound next stage := by
  cases stage with
  | leading entry =>
    obtain ⟨lookup, hlookup, hphase⟩ := hstage
    obtain ⟨lookup', hlookup', -, hcreated⟩ := hkept entry lookup hlookup
    exact ⟨lookup', hlookup', hcreated rfl hphase⟩
  | waiting entry =>
    obtain ⟨lookup, hlookup⟩ := hstage
    obtain ⟨lookup', hlookup', -⟩ := hkept entry lookup hlookup
    exact ⟨lookup', hlookup'⟩
  | returned entry result =>
    obtain ⟨lookup, hlookup, hreceived⟩ := hstage
    obtain ⟨lookup', hlookup', hlater, -⟩ := hkept entry lookup hlookup
    exact ⟨lookup', hlookup', hlater result hreceived⟩
  | cancelled => trivial

theorem sound_start : machine.start.Sound where
  entries _ _ hentry := nomatch hentry
  present _ _ hlookup := nomatch hlookup
  fresh _ _ := rfl
  values _ _ hlookup := nomatch hlookup
  callers _ _ hcaller := nomatch hcaller
  leaders _ _ _ hleader := nomatch hleader

section Steps

variable {group : FlightGroup} {task entry : Nat} {lookup next : Lookup} {stage : CallerStage}

theorem Sound.ne_next (hsound : group.Sound) (hlookup : group.lookups entry = some lookup) :
    entry ≠ group.next := by
  rintro rfl
  cases hlookup.symm.trans (hsound.fresh group.next le_rfl)

theorem callers_setCaller_self : (group.setCaller task stage).callers task = some stage :=
  update_self ..

theorem lookups_setLookup_self : (group.setLookup entry next).lookups entry = some next :=
  update_self ..

theorem lookups_setLookup_of_ne {other : Nat} (hother : other ≠ entry) :
    (group.setLookup entry next).lookups other = group.lookups other :=
  update_of_ne hother ..

variable (hsound : group.Sound)
include hsound

theorem Sound.setCaller (hstage : CallerStage.Sound group stage)
    (hleader : ∀ entry, stage = .leading entry → ∀ other,
      group.callers other ≠ some (.leading entry)) : (group.setCaller task stage).Sound where
  __ := hsound
  callers := forall_update (forall_mem_some hstage) hsound.callers
  leaders first second entry hfirst hsecond := by
    obtain ⟨rfl, hnew⟩ | ⟨-, hkept⟩ := update_cases hfirst
    · obtain ⟨rfl, -⟩ | ⟨-, hold⟩ := update_cases hsecond
      · rfl
      · exact absurd hold (hleader entry (some.inj hnew) second)
    · obtain ⟨-, hnew⟩ | ⟨-, hold⟩ := update_cases hsecond
      · exact absurd hkept (hleader entry (some.inj hnew) first)
      · exact hsound.leaders first second entry hkept hold

omit hsound in
/-- A lookup goes on without leaving the map. -/
structure Advances (lookup next : Lookup) : Prop where
  key : next.key = lookup.key
  unfinished : lookup.phase ≠ .finished
  present : next.phase ≠ .finished
  values : next.value.isSome ↔ next.phase = .sent ∨ next.phase = .finished
  received : ∀ result, lookup.received = some result → next.received = some result

variable (hlookup : group.lookups entry = some lookup) {key : SystemDnsLookupKey}
include hlookup

theorem Sound.setLookup (hadvances : Advances lookup next)
    (hleader : ∀ other, group.callers other ≠ some (.leading entry)) :
    (group.setLookup entry next).Sound where
  entries key other hentry := by
    obtain ⟨found, hfound, hkey, hphase⟩ := hsound.entries key other hentry
    by_cases hother : other = entry
    · subst hother
      cases hlookup.symm.trans hfound
      exact ⟨next, lookups_setLookup_self, hadvances.key.trans hkey, hadvances.present⟩
    · exact ⟨found, (lookups_setLookup_of_ne hother).trans hfound, hkey, hphase⟩
  present := by
    apply forall_update (forall_mem_some fun _ => ?_) hsound.present
    rw [hadvances.key]
    exact hsound.present entry lookup hlookup hadvances.unfinished
  fresh other hother := by
    have hne : other ≠ entry := by
      rintro rfl
      cases hlookup.symm.trans (hsound.fresh other hother)
    exact (lookups_setLookup_of_ne hne).trans (hsound.fresh other hother)
  values := forall_update (forall_mem_some hadvances.values) hsound.values
  callers other stage hcaller := by
    apply (hsound.callers other stage hcaller).of_kept
    intro found lookup' hlookup'
    by_cases hfound : found = entry
    · subst hfound
      cases hlookup.symm.trans hlookup'
      refine ⟨next, lookups_setLookup_self, hadvances.received, ?_⟩
      rintro rfl
      exact absurd hcaller (hleader other)
    · exact ⟨lookup', (lookups_setLookup_of_ne hfound).trans hlookup', fun _ => id, fun _ => id⟩
  leaders := hsound.leaders

omit hlookup in
theorem Sound.insertEntry (hkey : group.entries key = none) : (group.insertEntry key).Sound where
  entries key' entry hentry := by
    obtain ⟨rfl, hnew⟩ | ⟨-, hold⟩ := update_cases hentry
    · cases hnew
      exact ⟨_, lookups_setLookup_self, rfl, nofun⟩
    · obtain ⟨lookup, hlookup, hfound⟩ := hsound.entries key' entry hold
      exact ⟨lookup, (lookups_setLookup_of_ne (hsound.ne_next hlookup)).trans hlookup, hfound⟩
  present entry lookup hlookup hphase := by
    obtain ⟨rfl, hnew⟩ | ⟨-, hold⟩ := update_cases hlookup
    · cases hnew
      exact update_self ..
    · have hpresent := hsound.present entry lookup hold hphase
      have hne : lookup.key ≠ key := by
        rintro rfl
        cases hkey.symm.trans hpresent
      exact (update_of_ne hne ..).trans hpresent
  fresh entry hentry := by
    have hne : entry ≠ group.next := Nat.ne_of_gt hentry
    exact (lookups_setLookup_of_ne hne).trans (hsound.fresh entry (Nat.le_of_succ_le hentry))
  values := forall_update (forall_mem_some ⟨nofun, nofun⟩) hsound.values
  callers task stage hcaller := by
    apply (hsound.callers task stage hcaller).of_kept
    intro entry lookup hlookup
    have hkept : (group.insertEntry key).lookups entry = some lookup :=
      (lookups_setLookup_of_ne (hsound.ne_next hlookup)).trans hlookup
    exact ⟨lookup, hkept, fun _ => id, fun _ => id⟩
  leaders := hsound.leaders

omit hlookup in
theorem Sound.call (key : SystemDnsLookupKey) : (group.call task key).Sound := by
  rw [FlightGroup.call]
  split
  next entry hentry =>
    obtain ⟨lookup, hlookup, -⟩ := hsound.entries key entry hentry
    exact hsound.setCaller ⟨lookup, hlookup⟩ nofun
  next hkey =>
    have hleading : CallerStage.Sound (group.insertEntry key) (.leading group.next) :=
      ⟨_, lookups_setLookup_self, rfl⟩
    apply (hsound.insertEntry hkey).setCaller hleading
    intro entry hentry other hother
    cases hentry
    obtain ⟨lookup, hlookup, -⟩ := hsound.callers other _ hother
    exact hsound.ne_next hlookup rfl

/-- The last step of a lookup: `remove_entry` finds its own entry. -/
theorem Sound.remove (hphase : lookup.phase = .sent) :
    ((group.removeEntry entry lookup.key).setLookup entry
      { lookup with phase := .finished }).Sound := by
  have hpresent : group.entries lookup.key = some entry :=
    hsound.present entry lookup hlookup (by simp [hphase])
  rw [removeEntry, if_pos hpresent]
  constructor
  case entries =>
    intro key other hentry
    obtain ⟨-, hnew⟩ | ⟨hkey, hold⟩ := update_cases hentry
    · cases hnew
    obtain ⟨found, hfound, hfound', hlive⟩ := hsound.entries key other hold
    have hother : other ≠ entry := by
      rintro rfl
      cases hlookup.symm.trans hfound
      exact hkey hfound'.symm
    exact ⟨found, (lookups_setLookup_of_ne hother).trans hfound, hfound', hlive⟩
  case present =>
    intro other found hfound hlive
    obtain ⟨-, hnew⟩ | ⟨hother, hold⟩ := update_cases hfound
    · cases hnew
      exact absurd rfl hlive
    · have hentry := hsound.present other found hold hlive
      have hkey : found.key ≠ lookup.key := by
        intro hkey
        rw [hkey, hpresent] at hentry
        exact hother (some.inj hentry).symm
      exact (update_of_ne hkey ..).trans hentry
  case fresh =>
    intro other hother
    have hne : other ≠ entry := by
      rintro rfl
      cases hlookup.symm.trans (hsound.fresh other hother)
    exact (lookups_setLookup_of_ne hne).trans (hsound.fresh other hother)
  case values =>
    apply forall_update (forall_mem_some _) hsound.values
    simpa [hphase] using hsound.values entry lookup hlookup
  case callers =>
    intro task stage hcaller
    apply (hsound.callers task stage hcaller).of_kept
    intro found lookup' hlookup'
    by_cases hfound : found = entry
    · subst hfound
      cases hlookup.symm.trans hlookup'
      refine ⟨_, lookups_setLookup_self, fun result hreceived => ?_, fun _ hcreated => ?_⟩
      · have hvalue := (hsound.values found lookup hlookup).mpr (.inl hphase)
        obtain ⟨value, hvalue⟩ := isSome_iff_exists.mp hvalue
        simpa [Lookup.received, hvalue] using hreceived
      · cases hphase.symm.trans hcreated
    · exact ⟨lookup', (lookups_setLookup_of_ne hfound).trans hlookup', fun _ => id, fun _ => id⟩
  case leaders => exact hsound.leaders

theorem Sound.not_leading (hphase : lookup.phase ≠ .created) (other : Nat) :
    group.callers other ≠ some (.leading entry) := by
  intro hleading
  obtain ⟨lookup', hlookup', hcreated⟩ := hsound.callers other _ hleading
  cases hlookup.symm.trans hlookup'
  exact hphase hcreated

theorem Sound.value_eq_none (hphase : lookup.phase ≠ .sent) (hphase' : lookup.phase ≠ .finished) :
    lookup.value = none := by
  rw [← not_isSome_iff_eq_none, hsound.values entry lookup hlookup]
  exact not_or.mpr ⟨hphase, hphase'⟩

/-- A lookup without a result goes on to a phase at which it still has none, or to the sending of
one. -/
theorem Sound.advances
    (hphase : lookup.phase = .created ∨ lookup.phase = .spawned ∨ lookup.phase = .running)
    (hkey : next.key = lookup.key) (hpresent : next.phase ≠ .finished)
    (hvalue : next.value.isSome ↔ next.phase = .sent) : Advances lookup next where
  key := hkey
  unfinished := by
    intro hfinished
    simp [hfinished] at hphase
  present := hpresent
  values := by simp [hvalue, hpresent]
  received result hreceived := by
    have hnone : lookup.value = none := hsound.value_eq_none hlookup (by grind) (by grind)
    have hlost : lookup.phase ≠ .lost := by grind
    simp [Lookup.received, hnone, hlost] at hreceived

omit hlookup hsound

/-- No task was dropped before its first poll. -/
def Intact (group : FlightGroup) : Prop :=
  ∀ entry lookup, group.lookups entry = some lookup → lookup.phase ≠ .lost

theorem Intact.setLookup (hintact : group.Intact) (hnext : next.phase ≠ .lost) :
    (group.setLookup entry next).Intact :=
  forall_update (forall_mem_some hnext) hintact

theorem Intact.call (hintact : group.Intact) (key : SystemDnsLookupKey) :
    (group.call task key).Intact := by
  rw [FlightGroup.call]
  split
  · exact hintact
  · have hcreated : (group.setLookup group.next ⟨key, .created, none⟩).Intact :=
      hintact.setLookup nofun
    exact hcreated

variable {event : Event} {last : FlightGroup}

include hsound
variable (hintact : group.Intact)
include hintact

theorem Sound.stepLookup (hlookup : group.lookups entry = some lookup)
    (hdropped : ∀ dropped, event = .drop dropped → lookup.phase ≠ .spawned)
    (hstep : group.stepLookup entry lookup event = some last) : last.Sound ∧ last.Intact := by
  cases event with
  | poll =>
    obtain ⟨hphase, hlast⟩ := ite_none_right_eq_some.mp hstep
    cases hlast
    refine ⟨?_, hintact.setLookup nofun⟩
    apply hsound.setLookup hlookup _ (hsound.not_leading hlookup (by simp [hphase]))
    have hnone := hsound.value_eq_none hlookup (by simp [hphase]) (by simp [hphase])
    exact hsound.advances hlookup (.inr (.inl hphase)) rfl nofun (by simp [hnone])
  | complete _ result =>
    obtain ⟨hphase, hlast⟩ := ite_none_right_eq_some.mp hstep
    cases hlast
    refine ⟨?_, hintact.setLookup nofun⟩
    apply hsound.setLookup hlookup _ (hsound.not_leading hlookup (by simp [hphase]))
    exact hsound.advances hlookup (.inr (.inr hphase)) rfl nofun (by simp)
  | drop dropped =>
    rw [FlightGroup.stepLookup, if_neg (hdropped dropped rfl)] at hstep
    obtain ⟨hphase, hlast⟩ := ite_none_right_eq_some.mp hstep
    cases hlast
    refine ⟨?_, hintact.setLookup nofun⟩
    apply hsound.setLookup hlookup _ (hsound.not_leading hlookup (by simp [hphase]))
    exact hsound.advances hlookup (.inr (.inr hphase)) rfl nofun (by simp)
  | remove =>
    obtain ⟨hphase, hlast⟩ := ite_none_right_eq_some.mp hstep
    cases hlast
    have hremoved : (group.removeEntry entry lookup.key).Intact := by
      rw [removeEntry]
      split <;> exact hintact
    exact ⟨hsound.remove hlookup hphase, hremoved.setLookup nofun⟩
  | call | spawn | receive | cancel => cases hstep

theorem Sound.stepCaller (hcaller : group.callers task = some stage)
    (hstep : group.stepCaller task stage event = some last) : last.Sound ∧ last.Intact := by
  rw [FlightGroup.stepCaller.eq_def] at hstep
  split at hstep
  next entry _ =>
    obtain ⟨lookup, hlookup, hphase⟩ := hsound.callers task _ hcaller
    rw [hlookup] at hstep
    cases hstep
    -- The leader waits from here on, so that its lookup may leave the phase it was created in.
    have hwaits : (group.setCaller task (.waiting entry)).Sound :=
      hsound.setCaller ⟨lookup, hlookup⟩ nofun
    have hspawned : (group.setLookup entry { lookup with phase := .spawned }).Intact :=
      hintact.setLookup nofun
    refine ⟨hwaits.setLookup hlookup ?_ ?_, hspawned⟩
    · have hnone := hsound.value_eq_none hlookup (by simp [hphase]) (by simp [hphase])
      exact hsound.advances hlookup (.inl hphase) rfl nofun (by simp [hnone])
    · intro other hleading
      obtain ⟨-, hnew⟩ | ⟨hother, hold⟩ := update_cases hleading
      · cases hnew
      · exact hother (hsound.leaders other task entry hold hcaller)
  next entry _ =>
    obtain ⟨result, hresult, hlast⟩ := map_eq_some_iff.mp hstep
    obtain ⟨lookup, hlookup, hreceived⟩ := bind_eq_some_iff.mp hresult
    cases hlast
    exact ⟨hsound.setCaller ⟨lookup, hlookup, hreceived⟩ nofun, hintact⟩
  · cases hstep
    exact ⟨hsound.setCaller trivial nofun, hintact⟩
  · cases hstep

theorem Sound.step (hallowed : group.PolledFirst event) (hstep : group.step event = some last) :
    last.Sound ∧ last.Intact := by
  cases event with
  | call task key =>
    obtain ⟨-, hlast⟩ := ite_none_left_eq_some.mp hstep
    cases hlast
    exact ⟨hsound.call key, hintact.call key⟩
  | drop entry =>
    obtain ⟨lookup, hlookup, hlast⟩ := bind_eq_some_iff.mp hstep
    exact hsound.stepLookup hintact hlookup (fun _ _ => hallowed lookup hlookup) hlast
  | poll entry | complete entry _ | remove entry =>
    obtain ⟨lookup, hlookup, hlast⟩ := bind_eq_some_iff.mp hstep
    apply hsound.stepLookup hintact hlookup _ hlast
    intro dropped hevent
    cases hevent
  | spawn task | receive task | cancel task =>
    obtain ⟨stage, hcaller, hlast⟩ := bind_eq_some_iff.mp hstep
    exact hsound.stepCaller hintact hcaller hlast

omit hsound hintact

/-! ## Safety of every run -/

theorem Sound.entries_live (hsound : group.Sound) (hintact : group.Intact)
    (hentry : group.entries key = some entry) :
    ∃ lookup, group.lookups entry = some lookup ∧ lookup.key = key ∧ lookup.IsLive := by
  obtain ⟨lookup, hlookup, hkey, hphase⟩ := hsound.entries key entry hentry
  exact ⟨lookup, hlookup, hkey, hphase, hintact entry lookup hlookup⟩

theorem Sound.safe (hsound : group.Sound) (hintact : group.Intact) : group.Safe where
  unique first second lookup lookup' hfirst hsecond hlive hlive' hkey := by
    have hentry := hsound.present first lookup hfirst hlive.1
    have hentry' := hsound.present second lookup' hsecond hlive'.1
    rw [← hkey] at hentry'
    exact some.inj (hentry.symm.trans hentry')
  results task entry result hreturned := by
    obtain ⟨lookup, hlookup, hreceived⟩ := hsound.callers task _ hreturned
    refine ⟨lookup, hlookup, ?_⟩
    cases hvalue : lookup.value with
    | some value => simpa [Lookup.received, hvalue] using hreceived
    | none => simp [Lookup.received, hvalue, hintact entry lookup hlookup] at hreceived
  entries _ _ hentry := hsound.entries_live hintact hentry
  later task key next hcall := by
    obtain ⟨-, hnext⟩ := ite_none_left_eq_some.mp hcall
    cases hnext
    rw [FlightGroup.call]
    split
    next entry hentry =>
      obtain ⟨lookup, hlookup, hlive⟩ := hsound.entries_live hintact hentry
      exact .inl ⟨entry, lookup, callers_setCaller_self, hlookup, hlive⟩
    · exact .inr ⟨callers_setCaller_self, hsound.fresh group.next le_rfl, lookups_setLookup_self⟩

/-- A task that is dropped before its first poll leaves its entry in the map. -/
theorem not_safe_of_dropped (hsound : group.Sound) (hlookup : group.lookups entry = some lookup)
    (hphase : lookup.phase = .spawned) :
    ∃ last, group.step (.drop entry) = some last ∧ ¬last.Safe := by
  have hstep : group.step (.drop entry) =
      some (group.setLookup entry { lookup with phase := .lost }) := by
    simp [FlightGroup.step, hlookup, FlightGroup.stepLookup, hphase]
  refine ⟨_, hstep, fun hsafe => ?_⟩
  have hentry := hsound.present entry lookup hlookup (by simp [hphase])
  obtain ⟨lookup', hlookup', -, hlive⟩ := hsafe.entries lookup.key entry hentry
  cases lookups_setLookup_self.symm.trans hlookup'
  exact hlive.2 rfl

/-- Every state of a run is safe exactly when no task of a lookup is dropped before its first
poll. -/
theorem lookups_shared_safely (events : List Event) :
    machine.Throughout Safe events ↔ machine.Obeys PolledFirst events := by
  have hstart : machine.start.Sound ∧ machine.start.Intact :=
    ⟨sound_start, fun _ _ hlookup => nomatch hlookup⟩
  apply Machine.throughout_iff_obeys (fun group => group.Sound ∧ group.Intact) hstart
  · intro group event next hkept hallowed hstep
    exact hkept.1.step hkept.2 hallowed hstep
  · intro group hkept
    exact hkept.1.safe hkept.2
  · intro group event hkept hdisallowed
    cases event with
    | drop entry =>
      obtain ⟨lookup, hlookup⟩ := not_forall.mp hdisallowed
      obtain ⟨hlookup, hphase⟩ := Classical.not_imp.mp hlookup
      exact not_safe_of_dropped hkept.1 hlookup (not_not.mp hphase)
    | call | spawn | poll | complete | remove | receive | cancel => exact absurd trivial hdisallowed

end Steps

/-- A runtime shuts down before it polls the task it was given. The next caller, in another
runtime, joins the entry it left behind. -/
def abandonedRun : List Event :=
  let key : SystemDnsLookupKey := ⟨"shop.example".toList, 443⟩
  [.call 1 key, .spawn 1, .drop 0, .call 2 key, .receive 2]

theorem abandoned_lookup_joined :
    ∃ last, machine.run abandonedRun = some last ∧ ¬last.Safe ∧
      last.entries ⟨"shop.example".toList, 443⟩ = some 0 ∧
      (last.lookups 0).map Lookup.phase = some .lost ∧
      last.callers 2 = some (.returned 0 lookupEnded) := by
  refine ⟨_, rfl, fun hsafe => ?_, rfl, rfl, rfl⟩
  obtain ⟨lookup, hlookup, -, hlive⟩ := hsafe.entries ⟨"shop.example".toList, 443⟩ 0 rfl
  cases hlookup
  exact hlive.2 rfl

end FlightGroup

end LkRequest.Client
