import Mathlib.Logic.Relation

/-!
# Loops with an exit

A `loop { .. }` whose body either goes round again or leaves with a result, run with enough fuel.
`iterate_exits` replaces the fuel by the relation `Exits`: some number of passes and then the pass
that leaves. Invariants of a loop are proved on `Exits` by the rule `Exits.induct`.
-/

namespace LkRequest.Library

variable {σ ρ : Type}

/-- What one pass through a loop body decides. -/
inductive Pass (σ ρ : Type) where
  | again (state : σ)
  | leave (state : σ) (result : ρ)

/-- Run a loop body; `idle` is the answer when the fuel is used up. -/
def iterate (body : σ → Pass σ ρ) (idle : σ → σ × ρ) : Nat → σ → σ × ρ
  | 0, state => idle state
  | fuel + 1, state =>
    match body state with
    | .again next => iterate body idle fuel next
    | .leave next result => (next, result)

/-- From `start`, the loop makes some passes and then leaves at `stop` with `result`. -/
def Exits (body : σ → Pass σ ρ) (start stop : σ) (result : ρ) : Prop :=
  ∃ last, Relation.ReflTransGen (fun state next => body state = .again next) start last ∧
    body last = .leave stop result

variable {body : σ → Pass σ ρ} {start stop : σ} {result : ρ}

theorem Exits.leave (hbody : body start = .leave stop result) : Exits body start stop result :=
  ⟨start, .refl, hbody⟩

theorem Exits.again {next : σ}
    (hbody : body start = .again next) (hexits : Exits body next stop result) :
    Exits body start stop result := by
  obtain ⟨last, hpasses, hlast⟩ := hexits
  exact ⟨last, .head hbody hpasses, hlast⟩

/-- The invariant rule: what every pass keeps holds when the loop leaves. -/
theorem Exits.induct
    (hexits : Exits body start stop result) (invariant : σ → Prop) (hstart : invariant start)
    (hagain : ∀ state next, invariant state → body state = .again next → invariant next) :
    ∃ last, invariant last ∧ body last = .leave stop result := by
  obtain ⟨last, hpasses, hlast⟩ := hexits
  refine ⟨last, ?_, hlast⟩
  clear hlast
  induction hpasses with
  | refl => exact hstart
  | tail _ hpass ih => exact hagain _ _ ih hpass

/-- A loop leaves in one way only. -/
theorem Exits.unique {stop' : σ} {result' : ρ}
    (hexits : Exits body start stop result) (hexits' : Exits body start stop' result') :
    stop = stop' ∧ result = result' := by
  obtain ⟨last, hpasses, hlast⟩ := hexits
  obtain ⟨last', hpasses', hlast'⟩ := hexits'
  induction hpasses using Relation.ReflTransGen.head_induction_on with
  | refl =>
    cases hpasses'.cases_head with
    | inl heq =>
      subst heq
      simpa using hlast.symm.trans hlast'
    | inr hstep =>
      obtain ⟨_, hpass, _⟩ := hstep
      exact absurd (hlast.symm.trans hpass) (by simp)
  | head hpass _ ih =>
    cases hpasses'.cases_head with
    | inl heq =>
      subst heq
      exact absurd (hpass.symm.trans hlast') (by simp)
    | inr hstep =>
      obtain ⟨next, hpass', hrest⟩ := hstep
      obtain rfl : _ = next := by simpa using hpass.symm.trans hpass'
      exact ih hrest

/-- Bodies that agree where a loop goes make the same loop. -/
theorem iterate_congr {other : σ → Pass σ ρ} {idle : σ → σ × ρ} (invariant : σ → Prop)
    (hbody : ∀ state, invariant state → body state = other state)
    (hagain : ∀ state next, invariant state → body state = .again next → invariant next)
    (fuel : Nat) (hstart : invariant start) :
    iterate body idle fuel start = iterate other idle fuel start := by
  induction fuel generalizing start with
  | zero => rfl
  | succ fuel ih =>
    rw [iterate, iterate, ← hbody start hstart]
    cases hpass : body start with
    | again next => exact ih (hagain start next hstart hpass)
    | leave next result => rfl

section Fuel

variable {body : σ → Pass σ ρ} {idle : σ → σ × ρ} (size : σ → Nat)

/-- With fuel for every pass, `iterate` computes the exit of the loop: each pass shrinks the
state. -/
theorem iterate_exits (hagain : ∀ state next, body state = .again next → size next < size state)
    {fuel : Nat} {start stop : σ} {result : ρ} (hfuel : size start < fuel)
    (hiterate : iterate body idle fuel start = (stop, result)) : Exits body start stop result := by
  induction fuel generalizing start with
  | zero => omega
  | succ fuel ih =>
    rw [iterate] at hiterate
    cases hbody : body start with
    | again next =>
      rw [hbody] at hiterate
      have hsmaller := hagain start next hbody
      exact Exits.again hbody (ih (by omega) hiterate)
    | leave next result =>
      rw [hbody] at hiterate
      cases hiterate
      exact Exits.leave hbody

end Fuel

end LkRequest.Library
