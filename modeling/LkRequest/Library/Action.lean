import LkRequest.Library.Loop

/-!
# Stateful actions that may fail

An action changes a state and returns a value or an error; an error keeps the changes made before
it, as a method on `&mut self` does that returns early. The rules peel a sequence of actions apart
(`bind_eq_ok`), say what it keeps (`Preserves`) and turn a loop body into the passes of
`LkRequest.Library.Loop`.
-/

namespace LkRequest.Library

variable {σ ε α β : Type}

/-! ## Results -/

/-- A sequence succeeds if its first part does and the rest does. -/
theorem bind_eq_ok {first : Except ε α} {rest : α → Except ε β} {value : β} :
    (first >>= rest) = .ok value ↔ ∃ middle, first = .ok middle ∧ rest middle = .ok value := by
  cases first with
  | error error =>
    constructor
    · intro h
      cases h
    · rintro ⟨_, h, _⟩
      cases h
  | ok middle =>
    constructor
    · intro h
      exact ⟨middle, rfl, h⟩
    · rintro ⟨_, h, hrest⟩
      cases h
      exact hrest

/-- A sequence fails in its first part or in the rest. -/
theorem bind_eq_error {first : Except ε α} {rest : α → Except ε β} {error : ε}
    (herror : (first >>= rest) = .error error) :
    first = .error error ∨ ∃ middle, first = .ok middle ∧ rest middle = .error error := by
  cases first with
  | error other =>
    cases herror
    exact .inl rfl
  | ok middle => exact .inr ⟨middle, rfl, herror⟩

variable {value : α} {condition : Prop}

variable {rest : Unit → Except ε α}

/-- A check in front of a sequence, as an early return elaborates to. -/
theorem guard_eq_ok [Decidable condition] {error : ε} :
    (if condition then (Except.error error >>= rest) else rest ()) = .ok value ↔
      ¬ condition ∧ rest () = .ok value := by
  by_cases hcondition : condition
  · rw [if_pos hcondition]
    constructor
    · intro h
      cases h
    · rintro ⟨hnot, _⟩
      exact absurd hcondition hnot
  · rw [if_neg hcondition]
    exact ⟨fun h => ⟨hcondition, h⟩, fun h => h.2⟩

theorem map_eq_ok {first : Except ε α} {f : α → β} {value : β} :
    first.map f = .ok value ↔ ∃ middle, first = .ok middle ∧ f middle = value := by
  cases first with
  | error error | ok middle => simp [Except.map]

variable {result : Except ε α}

theorem toOption_eq_some : result.toOption = some value ↔ result = .ok value := by
  cases result with
  | error error | ok value => simp [Except.toOption]

/-! ## Actions -/

def Action (σ ε α : Type) := σ → σ × Except ε α

namespace Action

instance : Monad (Action σ ε) where
  pure value state := (state, .ok value)
  bind first rest state :=
    match first state with
    | (next, .ok value) => rest value next
    | (next, .error error) => (next, .error error)

def fail (error : ε) : Action σ ε α := fun state => (state, .error error)

def get : Action σ ε σ := fun state => (state, .ok state)

def modify (f : σ → σ) : Action σ ε Unit := fun state => (f state, .ok ())

/-- A computation that does not use the state. -/
def lift (result : Except ε α) : Action σ ε α := fun state => (state, result)

instance : MonadLift (Except ε) (Action σ ε) where
  monadLift := lift

theorem pure_apply (value : α) (state : σ) :
    (pure value : Action σ ε α) state = (state, .ok value) := rfl

theorem bind_apply (first : Action σ ε α) (rest : α → Action σ ε β) (state : σ) :
    (first >>= rest) state =
      match first state with
      | (next, .ok value) => rest value next
      | (next, .error error) => (next, .error error) := rfl

theorem get_apply (state : σ) : (get : Action σ ε σ) state = (state, .ok state) := rfl

theorem modify_apply (f : σ → σ) (state : σ) :
    (modify f : Action σ ε Unit) state = (f state, .ok ()) := rfl

theorem lift_apply (result : Except ε α) (state : σ) :
    (liftM result : Action σ ε α) state = (state, result) := rfl

variable {first : Action σ ε α} {rest : α → Action σ ε β} {state next : σ} {value : α} {error : ε}
  {stop : σ} {body : Action σ ε (Option α)} {result : Except ε α} {f : σ → σ} {idle : α}

theorem bind_of_ok
    (hfirst : first state = (next, .ok value)) : (first >>= rest) state = rest value next := by
  rw [bind_apply, hfirst]

theorem bind_of_error (hfirst : first state = (next, .error error)) :
    (first >>= rest) state = (next, .error error) := by
  rw [bind_apply, hfirst]

/-- A sequence of actions returns if its first part does and the rest does from there. -/
theorem bind_returns {value : β} :
    (first >>= rest) state = (stop, .ok value) ↔
      ∃ next middle, first state = (next, .ok middle) ∧ rest middle next = (stop, .ok value) := by
  rw [bind_apply]
  split
  next next middle hfirst =>
    constructor
    · intro hrest
      exact ⟨next, middle, hfirst, hrest⟩
    · rintro ⟨_, _, hfirst', hrest⟩
      cases hfirst.symm.trans hfirst'
      exact hrest
  next next error hfirst =>
    constructor
    · intro h
      cases h
    · rintro ⟨_, _, hfirst', _⟩
      cases hfirst.symm.trans hfirst'

theorem pure_returns {result : α} :
    (pure value : Action σ ε α) state = (stop, .ok result) ↔ state = stop ∧ value = result := by
  rw [pure_apply, Prod.mk.injEq, Except.ok.injEq]

theorem lift_returns : (liftM result : Action σ ε α) state = (stop, .ok value) ↔
      state = stop ∧ result = .ok value := by
  change (state, result) = (stop, .ok value) ↔ _
  rw [Prod.mk.injEq]

theorem modify_returns {value : Unit} :
    (modify f : Action σ ε Unit) state = (stop, .ok value) ↔ stop = f state := by
  rw [Prod.mk.injEq]
  constructor
  · rintro ⟨rfl, _⟩
    rfl
  · rintro rfl
    exact ⟨rfl, rfl⟩

/-! An action that does nothing but read, change or compute leaves no state in between. -/

theorem get_bind {rest : σ → Action σ ε β} {value : β} :
    (get >>= rest) state = (stop, .ok value) ↔ rest state state = (stop, .ok value) := .rfl

theorem modify_bind {rest : Unit → Action σ ε β} {value : β} :
    (modify f >>= rest) state = (stop, .ok value) ↔ rest () (f state) = (stop, .ok value) := .rfl

theorem lift_bind {value : β} : ((liftM result : Action σ ε α) >>= rest) state = (stop, .ok value) ↔
      ∃ middle, result = .ok middle ∧ rest middle state = (stop, .ok value) := by
  simp only [bind_returns, lift_returns, and_assoc, exists_and_left, exists_eq_left']

theorem fail_returns : ¬ (fail error : Action σ ε α) state = (stop, .ok value) := by
  intro h
  cases h

/-! ## What an action keeps -/

/-- The property holds of the state after the action, whether it fails or not. -/
structure Preserves (property : σ → Prop) (action : Action σ ε α) : Prop where
  after : ∀ state, property state → property (action state).1

/-- The property holds of the state in which the action fails. -/
structure FailsWithin (property : σ → Prop) (action : Action σ ε α) : Prop where
  after : ∀ state, property state → ∀ next error, action state = (next, .error error) →
    property next

section Keeps

variable {property : σ → Prop}

theorem Preserves.pure {value : α} : Preserves property (pure value : Action σ ε α) :=
  ⟨fun _ hstate => hstate⟩

theorem Preserves.fail {error : ε} : Preserves property (fail error : Action σ ε α) :=
  ⟨fun _ hstate => hstate⟩

theorem Preserves.lift : Preserves property (liftM result : Action σ ε α) :=
  ⟨fun _ hstate => hstate⟩

theorem Preserves.get : Preserves property (get : Action σ ε σ) := ⟨fun _ hstate => hstate⟩

variable {first : Action σ ε α} {rest : α → Action σ ε β}

theorem Preserves.bind
    (hfirst : Preserves property first) (hrest : ∀ value, Preserves property (rest value)) :
    Preserves property (first >>= rest) := by
  constructor
  intro state hstate
  have hnext := hfirst.after state hstate
  rw [bind_apply]
  split
  next next value heq =>
    rw [heq] at hnext
    exact (hrest value).after next hnext
  next next error heq =>
    rw [heq] at hnext
    exact hnext

theorem Preserves.failsWithin {action : Action σ ε α} (haction : Preserves property action) :
    FailsWithin property action := by
  constructor
  intro state hstate next error heq
  have hnext := haction.after state hstate
  rw [heq] at hnext
  exact hnext

theorem FailsWithin.bind
    (hfirst : Preserves property first) (hrest : ∀ value, FailsWithin property (rest value)) :
    FailsWithin property (first >>= rest) := by
  constructor
  intro state hstate next error heq
  have hmiddle := hfirst.after state hstate
  rw [bind_apply] at heq
  split at heq
  next middle value hvalue =>
    rw [hvalue] at hmiddle
    exact (hrest value).after middle hmiddle next error heq
  next middle error' herror =>
    rw [herror] at hmiddle
    cases heq
    exact hmiddle

/-- Actions that do not fail add no failure. -/
theorem FailsWithin.bind_total (hfirst : FailsWithin property first)
    (hrest : ∀ value state next error, rest value state ≠ (next, .error error)) :
    FailsWithin property (first >>= rest) := by
  constructor
  intro state hstate next error heq
  rw [bind_apply] at heq
  split at heq
  next middle value _ => exact absurd heq (hrest value middle next error)
  next middle error' herror =>
    cases heq
    exact hfirst.after state hstate _ _ herror

end Keeps

/-! ## Loops -/

/-- One pass of a loop whose body goes round again on `none`. -/
def pass (body : Action σ ε (Option α)) (state : σ) : Pass σ (Except ε α) :=
  match body state with
  | (next, .ok none) => .again next
  | (next, .ok (some value)) => .leave next (.ok value)
  | (next, .error error) => .leave next (.error error)

/-- Run a loop body with fuel; a loop that has used it up is idle. -/
def loop (body : Action σ ε (Option α)) (idle : α) (fuel : Nat) : Action σ ε α :=
  iterate (pass body) (fun state => (state, .ok idle)) fuel

theorem pass_eq_again : pass body state = .again next ↔ body state = (next, .ok none) := by
  unfold pass
  split
  next heq =>
    rw [heq, Pass.again.injEq, Prod.mk.injEq]
    exact ⟨fun h => ⟨h, rfl⟩, fun h => h.1⟩
  next heq => simp [heq]
  next heq => simp [heq]

theorem pass_eq_leave :
    pass body state = .leave next (.ok value) ↔ body state = (next, .ok (some value)) := by
  unfold pass
  split
  next heq => simp [heq]
  next heq => simp [heq]
  next heq => simp [heq]

theorem pass_eq_leave_error :
    pass body state = .leave next (.error error) ↔ body state = (next, .error error) := by
  unfold pass
  split
  next heq => simp [heq]
  next heq => simp [heq]
  next heq => simp [heq]

theorem loop_succ (body : Action σ ε (Option α)) (idle : α) (fuel : Nat) (state : σ) :
    loop body idle (fuel + 1) state =
      match body state with
      | (next, .ok none) => loop body idle fuel next
      | (next, .ok (some value)) => (next, .ok value)
      | (next, .error error) => (next, .error error) := by
  change iterate _ _ (fuel + 1) state = _
  rw [iterate, pass]
  rcases body state with ⟨next, _ | _ | value⟩ <;> rfl

/-- With fuel for every pass, a loop computes its exit. -/
theorem loop_exits (size : σ → Nat)
    (hagain : ∀ state next, body state = (next, .ok none) → size next < size state)
    {fuel : Nat} {start : σ} (hfuel : size start < fuel)
    (hloop : loop body idle fuel start = (stop, result)) : Exits (pass body) start stop result :=
  iterate_exits size (fun state next hpass => hagain state next (pass_eq_again.mp hpass)) hfuel
    hloop

theorem FailsWithin.loop {property : σ → Prop}
    (hagain : ∀ state next, property state → body state = (next, .ok none) → property next)
    (hbody : FailsWithin property body) (fuel : Nat) :
    FailsWithin property (loop body idle fuel) := by
  constructor
  induction fuel with
  | zero =>
    intro state _ next error heq
    cases heq
  | succ fuel ih =>
    intro state hstate next error heq
    rw [loop_succ] at heq
    split at heq
    next again hpass => exact ih again (hagain state again hstate hpass) next error heq
    · cases heq
    next stop error hpass =>
      cases heq
      exact hbody.after state hstate _ _ hpass

end Action

end LkRequest.Library
