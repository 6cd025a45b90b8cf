import Mathlib.Data.List.Induction

/-!
# Machines

Tasks that run side by side, as a machine whose events are the steps of single tasks. A run is a
list of events that are enabled one after the other. `invariant` carries what every allowed step
keeps over to every run.
-/

namespace LkRequest.Library

open Function List Option

/-- An entry of an updated table is the new one, or was there. -/
theorem update_cases {κ ν : Type} [DecidableEq κ] {table : κ → Option ν} {key other : κ}
    {value : Option ν} {entry : ν} (hentry : update table key value other = some entry) :
    other = key ∧ value = some entry ∨ other ≠ key ∧ table other = some entry := by
  by_cases hother : other = key
  · subst hother
    rw [update_self] at hentry
    exact .inl ⟨rfl, hentry⟩
  · rw [update_of_ne hother] at hentry
    exact .inr ⟨hother, hentry⟩

/-- What holds of the entries of a table and of a new one holds after the update. -/
theorem forall_update {κ ν : Type} [DecidableEq κ] {table : κ → Option ν} {key : κ}
    {value : Option ν} {property : κ → ν → Prop} (hnew : ∀ entry ∈ value, property key entry)
    (hold : ∀ other entry, table other = some entry → property other entry) (other : κ) (entry : ν)
    (hentry : update table key value other = some entry) : property other entry := by
  rcases update_cases hentry with ⟨rfl, hvalue⟩ | ⟨-, hkept⟩
  · exact hnew entry hvalue
  · exact hold other entry hkept

/-- The rule for an event that is enabled. -/
theorem forall_mem_some {α : Type} {property : α → Prop} {value : α} (hvalue : property value) :
    ∀ next ∈ some value, property next := by
  rintro next ⟨⟩
  exact hvalue

/-- An event that is not enabled has no next state. -/
structure Machine (σ ε : Type) where
  start : σ
  step : σ → ε → Option σ

namespace Machine

variable {σ ε : Type}

/-- The state after the events, if all of them are enabled. -/
def runFrom (machine : Machine σ ε) : σ → List ε → Option σ
  | state, [] => some state
  | state, event :: events =>
    (machine.step state event).bind fun next => machine.runFrom next events

def run (machine : Machine σ ε) (events : List ε) : Option σ :=
  machine.runFrom machine.start events

/-- Every event of the run is allowed in the state in which it happens. -/
def Obeys (machine : Machine σ ε) (allowed : σ → ε → Prop) (events : List ε) : Prop :=
  ∀ before event after state, events = before ++ event :: after →
    machine.run before = some state → allowed state event

/-- The same, looked at step by step. -/
def ObeysFrom (machine : Machine σ ε) (allowed : σ → ε → Prop) : σ → List ε → Prop
  | _, [] => True
  | state, event :: events =>
    allowed state event ∧ ∀ next ∈ machine.step state event, machine.ObeysFrom allowed next events

/-- The property holds in every state of the run. -/
def Throughout (machine : Machine σ ε) (property : σ → Prop) (events : List ε) : Prop :=
  ∀ before state, before <+: events → machine.run before = some state → property state

/-- The machine with a notebook: every step is noted, and no step depends on the notes. -/
def observe {τ : Type} (machine : Machine σ ε) (blank : τ) (note : σ → ε → σ → τ → τ) :
    Machine (σ × τ) ε where
  start := (machine.start, blank)
  step state event :=
    (machine.step state.1 event).map fun next => (next, note state.1 event next state.2)

variable {machine : Machine σ ε} {allowed : σ → ε → Prop} {events : List ε} {state : σ}
  {property : σ → Prop}

theorem runFrom_append (start : σ) (first second : List ε) :
    machine.runFrom start (first ++ second) =
      (machine.runFrom start first).bind fun middle => machine.runFrom middle second := by
  induction first generalizing start with
  | nil => rfl
  | cons event first ih =>
    rw [cons_append, runFrom, runFrom, bind_assoc]
    exact congrArg _ (funext ih)

theorem run_concat_iff {event : ε} {next : σ} :
    machine.run (events ++ [event]) = some next ↔
      ∃ state, machine.run events = some state ∧ machine.step state event = some next := by
  have hlast (state : σ) : machine.runFrom state [event] = machine.step state event :=
    bind_fun_some _
  rw [run, runFrom_append, bind_eq_some_iff]
  simp only [hlast, run]

theorem Obeys.of_initial {before : List ε} (hinitial : before <+: events)
    (hobeys : machine.Obeys allowed events) : machine.Obeys allowed before := by
  obtain ⟨later, rfl⟩ := hinitial
  intro earlier event after state hsplit hrun
  apply hobeys earlier event (after ++ later) state _ hrun
  rw [hsplit, append_assoc, cons_append]

theorem ObeysFrom.obeys (hobeys : machine.ObeysFrom allowed machine.start events) :
    machine.Obeys allowed events := by
  have hfrom (before : List ε) (start state : σ) (events after : List ε) (event : ε)
      (hobeys : machine.ObeysFrom allowed start events) (hsplit : events = before ++ event :: after)
      (hrun : machine.runFrom start before = some state) : allowed state event := by
    induction before generalizing start events with
    | nil =>
      cases hrun
      subst hsplit
      exact hobeys.1
    | cons first before ih =>
      subst hsplit
      obtain ⟨next, hnext, hrun⟩ := bind_eq_some_iff.mp hrun
      exact ih next (before ++ event :: after) (hobeys.2 next hnext) rfl hrun
  intro before event after state hsplit hrun
  exact hfrom before machine.start state events after event hobeys hsplit hrun

/-- The rule for runs: what holds at the start and is kept by every allowed step holds after every
run of allowed steps. -/
theorem invariant (hstart : property machine.start)
    (hstep : ∀ state event next, property state → allowed state event →
      machine.step state event = some next → property next)
    (hobeys : machine.Obeys allowed events) (hrun : machine.run events = some state) :
    property state := by
  induction events using reverseRecOn generalizing state with
  | nil =>
    cases hrun
    exact hstart
  | append_singleton events event ih =>
    obtain ⟨before, hbefore, hnext⟩ := run_concat_iff.mp hrun
    apply hstep before event state _ (hobeys events event [] before rfl hbefore) hnext
    exact ih (hobeys.of_initial (prefix_append _ _)) hbefore

/-- The rule for exact conditions: allowed steps keep an invariant that gives the property, and a
step that is not allowed breaks the property. -/
theorem throughout_iff_obeys (kept : σ → Prop) (hstart : kept machine.start)
    (hstep : ∀ state event next, kept state → allowed state event →
      machine.step state event = some next → kept next)
    (hproperty : ∀ state, kept state → property state)
    (hbroken : ∀ state event, kept state → ¬allowed state event →
      ∃ next, machine.step state event = some next ∧ ¬property next) :
    machine.Throughout property events ↔ machine.Obeys allowed events := by
  constructor
  · intro hevents
    have hallowed (before : List ε) (event : ε) (state : σ) (hkept : kept state)
        (hinitial : before ++ [event] <+: events) (hrun : machine.run before = some state) :
        allowed state event := by
      by_contra hdisallowed
      obtain ⟨next, hnext, hfails⟩ := hbroken state event hkept hdisallowed
      exact hfails (hevents _ next hinitial (run_concat_iff.mpr ⟨state, hrun, hnext⟩))
    have hkept (before : List ε) (hinitial : before <+: events) (state : σ)
        (hrun : machine.run before = some state) : kept state := by
      induction before using reverseRecOn generalizing state with
      | nil =>
        cases hrun
        exact hstart
      | append_singleton before event ih =>
        obtain ⟨earlier, hearlier, hnext⟩ := run_concat_iff.mp hrun
        have hkept := ih ((prefix_append _ _).trans hinitial) earlier hearlier
        exact hstep earlier event state hkept
          (hallowed before event earlier hkept hinitial hearlier) hnext
    intro before event after state hsplit hrun
    have hinitial : before ++ [event] <+: events :=
      ⟨after, by rw [hsplit, append_assoc, singleton_append]⟩
    have hstate := hkept before ((prefix_append _ _).trans hinitial) state hrun
    exact hallowed before event state hstate hinitial hrun
  · intro hobeys before state hinitial hrun
    exact hproperty state (invariant hstart hstep (hobeys.of_initial hinitial) hrun)

end Machine

end LkRequest.Library
