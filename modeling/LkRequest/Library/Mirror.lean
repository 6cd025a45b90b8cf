import LkRequest.Library.Action

/-!
# Actions that ignore a change of the state

Two runs of an action, one from a state and one from its image under a map `along`, such as the map
that puts more input into a buffer. An action tracks the map if it does the same from both states.
It mirrors the map if it does the same unless it ends idle; a loop mirrors the map if its body
does.
-/

namespace LkRequest.Library.Action

variable {σ ε α β : Type} {along : σ → σ}

/-- From the image of a state the action does what it does from the state. -/
def Tracks (along : σ → σ) (action : Action σ ε α) : Prop :=
  ∀ state, action (along state) = (along (action state).1, (action state).2)

theorem Tracks.pure {value : α} : Tracks along (pure value : Action σ ε α) := fun _ => rfl

theorem Tracks.lift {result : Except ε α} : Tracks along (liftM result : Action σ ε α) :=
  fun _ => rfl

theorem Tracks.modify {f : σ → σ} (hcommutes : ∀ state, f (along state) = along (f state)) :
    Tracks along (modify f : Action σ ε Unit) := by
  intro state
  exact Prod.ext (hcommutes state) rfl

theorem Tracks.bind {first : Action σ ε α} {rest : α → Action σ ε β}
    (hfirst : Tracks along first) (hrest : ∀ value, Tracks along (rest value)) :
    Tracks along (first >>= rest) := by
  intro state
  rw [bind_apply, bind_apply, hfirst state]
  rcases first state with ⟨next, _ | value⟩
  · rfl
  · exact hrest value next

/-- From the image of a state the second action does what the first does from the state, unless
the first ends idle. Where it ends otherwise, `final` maps its end. -/
structure Mirrors (along : σ → σ) (idle : α → Prop) (final : σ × α → σ × α)
    (action mirror : Action σ ε α) : Prop where
  ok : ∀ state next value, action state = (next, .ok value) → ¬ idle value →
    mirror (along state) = ((final (next, value)).1, .ok (final (next, value)).2)
  error : ∀ state next error, action state = (next, .error error) →
    mirror (along state) = (along next, .error error)

section Mirrors

variable {idle : α → Prop} {final : σ × α → σ × α} {action mirror : Action σ ε α}
  {body : Action σ ε (Option α)}

/-- Where the mirror of an action ends, by how the action ends. -/
def MirrorsAt (along : σ → σ) (idle : α → Prop) (final : σ × α → σ × α)
    (mirrored : σ × Except ε α) : σ × Except ε α → Prop
  | (next, .ok value) => ¬ idle value →
    mirrored = ((final (next, value)).1, .ok (final (next, value)).2)
  | (next, .error error) => mirrored = (along next, .error error)

theorem mirrors_iff : Mirrors along idle final action mirror ↔
    ∀ state, MirrorsAt along idle final (mirror (along state)) (action state) := by
  constructor
  · intro hmirrors state
    rcases haction : action state with ⟨next, error | value⟩
    · exact hmirrors.error state next error haction
    · exact hmirrors.ok state next value haction
  · intro hmirrors
    constructor
    · intro state next value haction
      have hends := hmirrors state
      rw [haction] at hends
      exact hends
    · intro state next error haction
      have hends := hmirrors state
      rw [haction] at hends
      exact hends

/-- What ends idle is not asked about. -/
theorem Mirrors.mono {idle' : α → Prop} (hmirrors : Mirrors along idle final action mirror)
    (hidle : ∀ value, idle value → idle' value) : Mirrors along idle' final action mirror where
  ok state next value haction hnot := hmirrors.ok state next value haction (hnot ∘ hidle value)
  error := hmirrors.error

theorem Mirrors.fail {error : ε} :
    Mirrors along idle final (fail error : Action σ ε α) (fail error) :=
  mirrors_iff.mpr fun _ => rfl

/-- An action that returns an idle value is mirrored by every action. -/
theorem Mirrors.of_idle
    (hidle : ∀ state, ∃ next value, action state = (next, .ok value) ∧ idle value) :
    Mirrors along idle final action mirror := by
  apply mirrors_iff.mpr
  intro state
  obtain ⟨next, value, hreturns, hvalue⟩ := hidle state
  rw [hreturns]
  exact absurd hvalue

theorem Mirrors.of_tracks (htracks : Tracks along action)
    (hfinal : ∀ state next value, action state = (next, .ok value) →
      final (next, value) = (along next, value)) : Mirrors along idle final action action where
  ok state next value haction _ := by
    rw [htracks state, haction, hfinal state next value haction]
  error state next error haction := by rw [htracks state, haction]

theorem Mirrors.bind {first : Action σ ε β} {rest mirror : β → Action σ ε α}
    (hfirst : Tracks along first)
    (hrest : ∀ value, Mirrors along idle final (rest value) (mirror value)) :
    Mirrors along idle final (first >>= rest) (first >>= mirror) := by
  apply mirrors_iff.mpr
  intro state
  rw [bind_apply, bind_apply, hfirst state]
  rcases first state with ⟨middle, _ | passed⟩
  · rfl
  · exact mirrors_iff.mp (hrest passed) middle

theorem Mirrors.get_bind {rest mirror : σ → Action σ ε α}
    (hrest : ∀ state, Mirrors along idle final (rest state) (mirror (along state))) :
    Mirrors along idle final (get >>= rest) (get >>= mirror) where
  ok state := (hrest state).ok state
  error state := (hrest state).error state

/-! ## Loop bodies -/

/-- A loop body is idle if it leaves with an idle value. -/
def leavesIdle (idle : α → Prop) (result : Option α) : Prop :=
  ∃ value, result = some value ∧ idle value

/-- A loop body that goes round again ends along the map. -/
def leavesAlong (along : σ → σ) (final : σ × α → σ × α) : σ × Option α → σ × Option α
  | (state, none) => (along state, none)
  | (state, some value) => ((final (state, value)).1, some (final (state, value)).2)

/-- A body that leaves with what an action returns. -/
theorem Mirrors.leave (haction : Mirrors along idle final action mirror) :
    Mirrors along (leavesIdle idle) (leavesAlong along final)
      (action >>= fun value => Pure.pure (some value))
      (mirror >>= fun value => Pure.pure (some value)) := by
  apply mirrors_iff.mpr
  intro state
  have hmirrored := mirrors_iff.mp haction state
  rw [bind_apply, bind_apply]
  generalize action state = ended at hmirrored
  rcases ended with ⟨stop, _ | value⟩ <;> dsimp only [MirrorsAt] at hmirrored ⊢
  · rw [hmirrored]
  · intro hnot
    rw [hmirrored fun hidle => hnot ⟨value, rfl, hidle⟩]
    rfl

/-- A body that tracks the map and goes round again. -/
theorem Mirrors.again {action : Action σ ε β} (haction : Tracks along action) :
    Mirrors along (leavesIdle idle) (leavesAlong along final)
      (action >>= fun _ => Pure.pure (none : Option α)) (action >>= fun _ => Pure.pure none) := by
  refine .of_tracks (haction.bind fun _ => .pure) ?_
  intro state next value hreturns
  obtain ⟨stop, middle, -, hpure⟩ := bind_returns.mp hreturns
  cases hpure
  rfl

/-- The passes that go round again are made along the map as well. -/
theorem Mirrors.passes
    (hbody : Mirrors along (leavesIdle idle) (leavesAlong along final) body body) {start stop : σ}
    (hpasses : Relation.ReflTransGen (fun state next => pass body state = .again next) start stop) :
    Relation.ReflTransGen (fun state next => pass body state = .again next) (along start)
      (along stop) := by
  refine hpasses.lift along ?_
  intro state next hpass
  apply pass_eq_again.mpr
  apply hbody.ok state next none (pass_eq_again.mp hpass)
  rintro ⟨value, hvalue, _⟩
  cases hvalue

/-- A loop with more fuel mirrors a loop whose body is mirrored. -/
theorem Mirrors.loop {nothing : α} (hnothing : idle nothing)
    (hbody : Mirrors along (leavesIdle idle) (leavesAlong along final) body body)
    {fuel more : Nat} (hfuel : fuel ≤ more) :
    Mirrors along idle final (loop body nothing fuel) (loop body nothing more) := by
  induction fuel generalizing more with
  | zero => exact .of_idle fun state => ⟨state, nothing, rfl, hnothing⟩
  | succ fuel ih =>
    obtain ⟨more, rfl⟩ : ∃ rest, more = rest + 1 := ⟨more - 1, by omega⟩
    have hrest := mirrors_iff.mp (ih (Nat.le_of_succ_le_succ hfuel))
    apply mirrors_iff.mpr
    intro state
    have hpass := mirrors_iff.mp hbody state
    rw [loop_succ, loop_succ]
    generalize body state = ended at hpass
    rcases ended with ⟨next, _ | _ | value⟩ <;> dsimp only [MirrorsAt] at hpass ⊢
    · rw [hpass]
    · rw [hpass (by rintro ⟨_, h, _⟩; cases h)]
      exact hrest next
    · intro hnot
      rw [hpass (by rintro ⟨_, h, hidle⟩; cases h; exact hnot hidle)]
      rfl

end Mirrors

end LkRequest.Library.Action
