import LkRequest.Library.Loop

/-!
# Incremental consumers of a stream

A consumer is fed input in pieces and called until it asks for more. Two laws make it insensitive
to the cuts between the pieces: an answer that is not a request for more does not depend on
further input, and a request for more leaves a state from which the consumer carries on as if the
input had come at once. `deliver_eq_drain` derives from them that any two ways of cutting the same
input give the same outputs and the same end, as long as every state in which the consumer is
left waiting is one it can resume from.
-/

namespace LkRequest.Library

open List

variable {σ α ω ρ : Type}

/-- The answer of one call: more input is needed, an output, or the end of the consumption. -/
inductive Reply (σ ω ρ : Type) where
  | need (state : σ)
  | emit (state : σ) (output : ω)
  | stop (result : ρ)

/-- How a consumption ended: waiting for input, or stopped with a result. -/
inductive Ending (σ ρ : Type) where
  | waiting (state : σ)
  | stopped (result : ρ)

/-- A property of the states that an answer leaves, and one of the results. -/
def Reply.Holds (state : σ → Prop) (result : ρ → Prop) : Reply σ ω ρ → Prop
  | .need next | .emit next _ => state next
  | .stop found => result found

def Ending.Holds (state : σ → Prop) (result : ρ → Prop) : Ending σ ρ → Prop
  | .waiting next => state next
  | .stopped found => result found

/-- A property of the state in which a consumption waits. -/
def Ending.Waits (property : σ → Prop) : Ending σ ρ → Prop
  | .waiting state => property state
  | .stopped _ => True

def Ending.decidableWaits (property : σ → Prop) (decides : DecidablePred property) :
    (ending : Ending σ ρ) → Decidable (ending.Waits property)
  | .waiting state => decides state
  | .stopped _ => .isTrue trivial

structure Consumer (σ α ω ρ : Type) where
  feed : σ → List α → σ
  call : σ → Reply σ ω ρ
  /-- Input that arrives after the end goes to the result. -/
  feedResult : ρ → List α → ρ
  /-- A bound for the number of outputs before more input is needed. -/
  size : σ → Nat

namespace Consumer

variable (consumer : Consumer σ α ω ρ)

/-- Call a consumer until it waits or stops, collecting its outputs. -/
def drainFuel : Nat → σ → List ω × Ending σ ρ
  | 0, state => ([], .waiting state)
  | fuel + 1, state =>
    match consumer.call state with
    | .need next => ([], .waiting next)
    | .emit next output =>
      let rest := drainFuel fuel next
      (output :: rest.1, rest.2)
    | .stop result => ([], .stopped result)

def drain (state : σ) : List ω × Ending σ ρ := consumer.drainFuel (consumer.size state + 1) state

/-- Feed the pieces one after the other, draining the consumer after each. -/
def deliver : σ → List (List α) → List ω × Ending σ ρ
  | state, [] => ([], .waiting state)
  | state, piece :: pieces =>
    match consumer.drain (consumer.feed state piece) with
    | (outputs, .waiting next) =>
      let rest := deliver next pieces
      (outputs ++ rest.1, rest.2)
    | (outputs, .stopped result) =>
      (outputs, .stopped (consumer.feedResult result pieces.flatten))

/-- Every state in which a delivery waits for its next piece satisfies `resumable`. -/
def WaitsOnly (resumable : σ → Prop) : σ → List (List α) → Prop
  | _, [] => True
  | _, [_] => True
  | state, piece :: second :: pieces =>
    (consumer.drain (consumer.feed state piece)).2.Waits fun next =>
      resumable next ∧ WaitsOnly resumable next (second :: pieces)

instance decidableWaitsOnly (resumable : σ → Prop) [DecidablePred resumable] :
    (state : σ) → (pieces : List (List α)) → Decidable (consumer.WaitsOnly resumable state pieces)
  | _, [] => .isTrue trivial
  | _, [_] => .isTrue trivial
  | state, piece :: second :: pieces =>
    Ending.decidableWaits _ (fun next =>
      have := decidableWaitsOnly resumable next (second :: pieces)
      inferInstanceAs (Decidable (_ ∧ _))) (consumer.drain (consumer.feed state piece)).2

/-- The laws of a consumer that does not see the cuts in its input. -/
structure Lawful (resumable : σ → Prop) : Prop where
  feed_append : ∀ state left right,
    consumer.feed (consumer.feed state left) right = consumer.feed state (left ++ right)
  feedResult_append : ∀ result left right,
    consumer.feedResult (consumer.feedResult result left) right =
      consumer.feedResult result (left ++ right)
  emit_size : ∀ state next output,
    consumer.call state = .emit next output → consumer.size next < consumer.size state
  emit_feed : ∀ state next output more, consumer.call state = .emit next output →
    consumer.call (consumer.feed state more) = .emit (consumer.feed next more) output
  stop_feed : ∀ state result more, consumer.call state = .stop result →
    consumer.call (consumer.feed state more) = .stop (consumer.feedResult result more)
  need_feed : ∀ state next more, consumer.call state = .need next → resumable next →
    consumer.call (consumer.feed state more) = consumer.call (consumer.feed next more)

/-- How a drained consumer goes on with more input. -/
def resume (more : List α) : Ending σ ρ → List ω × Ending σ ρ
  | .waiting next => consumer.drain (consumer.feed next more)
  | .stopped result => ([], .stopped (consumer.feedResult result more))

variable {consumer}

theorem waitsOnly_of_forall {resumable : σ → Prop} (hresumable : ∀ state, resumable state)
    (state : σ) (pieces : List (List α)) : consumer.WaitsOnly resumable state pieces := by
  induction pieces generalizing state with
  | nil => trivial
  | cons piece pieces ih =>
    cases pieces with
    | nil => trivial
    | cons second pieces =>
      rw [WaitsOnly]
      cases (consumer.drain (consumer.feed state piece)).2 with
      | waiting next => exact ⟨hresumable next, ih next⟩
      | stopped result => trivial

/-- What every call keeps holds at the end. -/
theorem drain_holds {property : σ → Prop} {final : ρ → Prop}
    (hcall : ∀ state, property state → (consumer.call state).Holds property final) {state : σ}
    (hstate : property state) : (consumer.drain state).2.Holds property final := by
  suffices hfuel : ∀ fuel state, property state →
      (consumer.drainFuel fuel state).2.Holds property final from hfuel _ _ hstate
  intro fuel
  induction fuel with
  | zero => exact fun _ hstate => hstate
  | succ fuel ih =>
    intro state hstate
    have hreply := hcall state hstate
    rw [drainFuel]
    cases hanswer : consumer.call state with
    | need next =>
      rw [hanswer] at hreply
      exact hreply
    | stop result =>
      rw [hanswer] at hreply
      exact hreply
    | emit next output =>
      rw [hanswer] at hreply
      exact ih next hreply

section Lawful

variable {resumable : σ → Prop} (hlawful : consumer.Lawful resumable) {state next : σ} {result : ρ}
  {outputs : List ω}

include hlawful

/-- Fuel beyond the size of the state is not used. -/
theorem drainFuel_eq_drain {fuel : Nat} (hfuel : consumer.size state < fuel) :
    consumer.drainFuel fuel state = consumer.drain state := by
  suffices hsame : ∀ first second state, consumer.size state < first →
      consumer.size state < second →
      consumer.drainFuel first state = consumer.drainFuel second state from
    hsame _ _ _ hfuel (Nat.lt_succ_self _)
  intro first
  induction first with
  | zero => intro second state hfirst; omega
  | succ first ih =>
    intro second state hfirst hsecond
    obtain ⟨second, rfl⟩ : ∃ fuel, second = fuel + 1 := ⟨second - 1, by omega⟩
    simp only [drainFuel]
    cases hcall : consumer.call state with
    | need next => rfl
    | stop result => rfl
    | emit next output =>
      have hsmaller := hlawful.emit_size state next output hcall
      simp only [ih second next (by omega) (by omega)]

theorem drain_emit {output : ω} (hcall : consumer.call state = .emit next output) :
    consumer.drain state = (output :: (consumer.drain next).1, (consumer.drain next).2) := by
  have hsmaller := hlawful.emit_size state next output hcall
  change consumer.drainFuel (consumer.size state + 1) state = _
  simp only [drainFuel, hcall, drainFuel_eq_drain hlawful hsmaller]

omit hlawful in
theorem drain_need (hcall : consumer.call state = .need next) :
    consumer.drain state = ([], .waiting next) := by
  simp only [drain, drainFuel, hcall]

omit hlawful in
theorem drain_stop (hcall : consumer.call state = .stop result) :
    consumer.drain state = ([], .stopped result) := by
  simp only [drain, drainFuel, hcall]

/-- Two states with the same next answer drain alike. -/
theorem drain_congr {left right : σ} (hcall : consumer.call left = consumer.call right) :
    consumer.drain left = consumer.drain right := by
  cases hright : consumer.call right with
  | need next => rw [drain_need hright, drain_need (hcall.trans hright)]
  | stop result => rw [drain_stop hright, drain_stop (hcall.trans hright)]
  | emit next output =>
    rw [drain_emit hlawful hright, drain_emit hlawful (hcall.trans hright)]

/-- More input goes to where the consumer was left. A stop keeps what was put out before it. -/
theorem drain_feed (more : List α) {ending : Ending σ ρ}
    (hdrain : consumer.drain state = (outputs, ending))
    (hresumable : ∀ next, ending = .waiting next → resumable next) :
    consumer.drain (consumer.feed state more) =
      (outputs ++ (consumer.resume more ending).1, (consumer.resume more ending).2) := by
  induction hsize : consumer.size state using Nat.strongRecOn
    generalizing state outputs with
  | _ size ih =>
    subst hsize
    cases hcall : consumer.call state with
    | need waiting =>
      obtain ⟨rfl, rfl⟩ := Prod.mk.inj ((drain_need hcall).symm.trans hdrain)
      have hwaiting := hresumable waiting rfl
      exact drain_congr hlawful (hlawful.need_feed state waiting more hcall hwaiting)
    | stop result =>
      obtain ⟨rfl, rfl⟩ := Prod.mk.inj ((drain_stop hcall).symm.trans hdrain)
      exact drain_stop (hlawful.stop_feed state result more hcall)
    | emit middle output =>
      obtain ⟨rfl, hmiddle⟩ := Prod.mk.inj ((drain_emit hlawful hcall).symm.trans hdrain)
      have hrest := ih _ (hlawful.emit_size state middle output hcall)
        (Prod.ext rfl hmiddle) rfl
      rw [drain_emit hlawful (hlawful.emit_feed state middle output more hcall), hrest]
      rfl

/-- **Cuts do not matter.** Delivering the pieces of an input is draining it at once. -/
theorem deliver_eq_drain {piece : List α} {pieces : List (List α)}
    (hwaits : consumer.WaitsOnly resumable state (piece :: pieces)) :
    consumer.deliver state (piece :: pieces) =
      consumer.drain (consumer.feed state (piece :: pieces).flatten) := by
  induction pieces generalizing state piece with
  | nil =>
    simp only [deliver, flatten_cons, flatten_nil, append_nil]
    rcases hdrain : consumer.drain (consumer.feed state piece) with ⟨outputs, ending⟩
    cases ending with
    | waiting next => simp
    | stopped result =>
      have hnil := drain_feed hlawful [] hdrain nofun
      rw [hlawful.feed_append, append_nil, hdrain, resume, append_nil] at hnil
      exact hnil.symm
  | cons second pieces ih =>
    rw [WaitsOnly] at hwaits
    rw [deliver]
    rcases hdrain : consumer.drain (consumer.feed state piece) with ⟨outputs, ending⟩
    rw [hdrain] at hwaits
    have hflatten : (piece :: second :: pieces).flatten = piece ++ (second :: pieces).flatten := rfl
    rw [hflatten, ← hlawful.feed_append]
    cases ending with
    | stopped result => rw [drain_feed hlawful _ hdrain nofun, resume, append_nil]
    | waiting next =>
      obtain ⟨hresumable, hrest⟩ := hwaits
      rw [drain_feed hlawful _ hdrain (by simpa using hresumable), resume, ← ih hrest]

end Lawful

end Consumer

end LkRequest.Library
